import TagWeave.Jinja.Syntax
import TagWeave.Jinja.Token

/-!
# Reading Jinja templates

Expressions bind, from loose to tight: a choice, `or`, `and`, `not`, comparisons,
sums, concatenations, products, signs, and at last what follows an operand: members,
items, calls and operations. Each reader returns what it read and the tokens that
follow, and takes a measure that bounds its depth.
-/

namespace TagWeave.Jinja

/-- The operators of sums. -/
def sumOp? : Token → Option BinaryOp
  | .sign "+" => some .add
  | .sign "-" => some .sub
  | _ => none

/-- The operators of products. -/
def productOp? : Token → Option BinaryOp
  | .sign "*" => some .mul
  | .sign "/" => some .div
  | .sign "//" => some .floorDiv
  | .sign "%" => some .mod
  | _ => none

/-- The comparison at the start of some tokens. -/
def comparison? : List Token → Option (Comparison × List Token)
  | .sign "==" :: rest => some (.eq, rest)
  | .sign "!=" :: rest => some (.ne, rest)
  | .sign "<" :: rest => some (.lt, rest)
  | .sign "<=" :: rest => some (.le, rest)
  | .sign ">" :: rest => some (.gt, rest)
  | .sign ">=" :: rest => some (.ge, rest)
  | .name "in" :: rest => some (.isIn, rest)
  | .name "not" :: .name "in" :: rest => some (.notIn, rest)
  | _ => none

/-- An operation applied to an expression, if its arguments are understood. -/
def applied? (filter : Filter) (subject : Expr) (arguments : List (Option String × Expr)) :
    Option Expr :=
  if filter.understands arguments then some (.filter filter subject arguments) else none

mutual

/-- Reads an expression. -/
def readExpr : Nat → List Token → Option (Expr × List Token)
  | 0, _ => none
  | fuel + 1, ts => do
    let (e, rest) ← readOr fuel ts
    readChoices fuel e rest

/-- Reads the choices that follow an expression. -/
def readChoices : Nat → Expr → List Token → Option (Expr × List Token)
  | 0, _, _ => none
  | fuel + 1, yes, .name "if" :: rest => do
    let (test, rest) ← readOr fuel rest
    match rest with
    | .name "else" :: rest => do
      let (no, rest) ← readExpr fuel rest
      readChoices fuel (.choose test yes (some no)) rest
    | _ => readChoices fuel (.choose test yes none) rest
  | _ + 1, e, rest => some (e, rest)

/-- Reads a disjunction. -/
def readOr : Nat → List Token → Option (Expr × List Token)
  | 0, _ => none
  | fuel + 1, ts => do
    let (e, rest) ← readAnd fuel ts
    readOrTail fuel e rest

/-- Reads the rest of a disjunction. -/
def readOrTail : Nat → Expr → List Token → Option (Expr × List Token)
  | 0, _, _ => none
  | fuel + 1, left, .name "or" :: rest => do
    let (right, rest) ← readAnd fuel rest
    readOrTail fuel (.disj left right) rest
  | _ + 1, e, rest => some (e, rest)

/-- Reads a conjunction. -/
def readAnd : Nat → List Token → Option (Expr × List Token)
  | 0, _ => none
  | fuel + 1, ts => do
    let (e, rest) ← readNot fuel ts
    readAndTail fuel e rest

/-- Reads the rest of a conjunction. -/
def readAndTail : Nat → Expr → List Token → Option (Expr × List Token)
  | 0, _, _ => none
  | fuel + 1, left, .name "and" :: rest => do
    let (right, rest) ← readNot fuel rest
    readAndTail fuel (.conj left right) rest
  | _ + 1, e, rest => some (e, rest)

/-- Reads a negation or a comparison. -/
def readNot : Nat → List Token → Option (Expr × List Token)
  | 0, _ => none
  | fuel + 1, .name "not" :: rest => do
    let (e, rest) ← readNot fuel rest
    return (.not e, rest)
  | fuel + 1, ts => do
    let (e, rest) ← readSum fuel ts
    let (operands, rest) ← readOperands fuel rest
    return (if operands.isEmpty then e else .compare e operands, rest)

/-- Reads the operands of a chain of comparisons. -/
def readOperands : Nat → List Token → Option (List (Comparison × Expr) × List Token)
  | 0, _ => none
  | fuel + 1, ts =>
    match comparison? ts with
    | none => some ([], ts)
    | some (op, rest) => do
      let (e, rest) ← readSum fuel rest
      let (more, rest) ← readOperands fuel rest
      return ((op, e) :: more, rest)

/-- Reads a sum. -/
def readSum : Nat → List Token → Option (Expr × List Token)
  | 0, _ => none
  | fuel + 1, ts => do
    let (e, rest) ← readConcat fuel ts
    readSumTail fuel e rest

/-- Reads the rest of a sum. -/
def readSumTail : Nat → Expr → List Token → Option (Expr × List Token)
  | 0, _, _ => none
  | _ + 1, e, [] => some (e, [])
  | fuel + 1, left, t :: rest =>
    match sumOp? t with
    | none => some (left, t :: rest)
    | some op => do
      let (right, rest) ← readConcat fuel rest
      readSumTail fuel (.binary op left right) rest

/-- Reads a concatenation. -/
def readConcat : Nat → List Token → Option (Expr × List Token)
  | 0, _ => none
  | fuel + 1, ts => do
    let (e, rest) ← readProduct fuel ts
    let (more, rest) ← readConcatTail fuel rest
    return (if more.isEmpty then e else .concat e more, rest)

/-- Reads the rest of a concatenation. -/
def readConcatTail : Nat → List Token → Option (List Expr × List Token)
  | 0, _ => none
  | fuel + 1, .sign "~" :: rest => do
    let (e, rest) ← readProduct fuel rest
    let (more, rest) ← readConcatTail fuel rest
    return (e :: more, rest)
  | _ + 1, rest => some ([], rest)

/-- Reads a product. -/
def readProduct : Nat → List Token → Option (Expr × List Token)
  | 0, _ => none
  | fuel + 1, ts => do
    let (e, rest) ← readSigned fuel true ts
    readProductTail fuel e rest

/-- Reads the rest of a product. -/
def readProductTail : Nat → Expr → List Token → Option (Expr × List Token)
  | 0, _, _ => none
  | _ + 1, e, [] => some (e, [])
  | fuel + 1, left, t :: rest =>
    match productOp? t with
    | none => some (left, t :: rest)
    | some op => do
      let (right, rest) ← readSigned fuel true rest
      readProductTail fuel (.binary op left right) rest

/-- Reads an operand that may have a sign; operations do not apply to a signed operand alone. -/
def readSigned : Nat → Bool → List Token → Option (Expr × List Token)
  | 0, _, _ => none
  | fuel + 1, filtered, .sign "-" :: rest => do
    let (e, rest) ← readSigned fuel false rest
    readSuffixes fuel true filtered (.negate e) rest
  | fuel + 1, filtered, .sign "+" :: rest => do
    let (e, rest) ← readSigned fuel false rest
    readSuffixes fuel true filtered (.posit e) rest
  | fuel + 1, filtered, ts => do
    let (e, rest) ← readOperand fuel ts
    readSuffixes fuel false filtered e rest

/-- Reads an operand. -/
def readOperand : Nat → List Token → Option (Expr × List Token)
  | 0, _ => none
  | _ + 1, .int n :: rest => some (.const (.int n), rest)
  | _ + 1, .float x :: rest => some (.const (.float x), rest)
  | fuel + 1, .str s :: rest => readTexts fuel s rest
  | fuel + 1, .sign "(" :: rest => do
    let (e, rest) ← readExpr fuel rest
    match rest with
    | .sign ")" :: rest => some (e, rest)
    | _ => none
  | fuel + 1, .sign "[" :: rest => do
    let (items, rest) ← readItems fuel rest
    return (.list items, rest)
  | _ + 1, .name n :: rest =>
    match n with
    | "true" | "True" => some (.const (.bool true), rest)
    | "false" | "False" => some (.const (.bool false), rest)
    | "none" | "None" => some (.const .null, rest)
    | n => some (.name n, rest)
  | _ + 1, _ => none

/-- Reads the texts that follow a text and joins them. -/
def readTexts : Nat → String → List Token → Option (Expr × List Token)
  | 0, _, _ => none
  | fuel + 1, s, .str t :: rest => readTexts fuel (s ++ t) rest
  | _ + 1, s, rest => some (.const (.str s), rest)

/-- Reads the items of a list up to its bracket. -/
def readItems : Nat → List Token → Option (List Expr × List Token)
  | 0, _ => none
  | _ + 1, .sign "]" :: rest => some ([], rest)
  | fuel + 1, ts => do
    let (e, rest) ← readExpr fuel ts
    match rest with
    | .sign "," :: rest => do
      let (more, rest) ← readItems fuel rest
      return (e :: more, rest)
    | .sign "]" :: rest => some ([e], rest)
    | _ => none

/-- Reads what follows an operand: members, items and calls, and, once an operation has been
applied or the operand is signed, operations and calls only. -/
def readSuffixes : Nat → Bool → Bool → Expr → List Token → Option (Expr × List Token)
  | 0, _, _, _, _ => none
  | fuel + 1, false, filtered, e, .sign "." :: .name n :: rest =>
    readSuffixes fuel false filtered (.member e n) rest
  | fuel + 1, false, filtered, e, .sign "." :: .int n :: rest =>
    readSuffixes fuel false filtered (.item e (.const (.int n))) rest
  | _ + 1, false, _, _, .sign "." :: _ => none
  | fuel + 1, false, filtered, e, .sign "[" :: rest => do
    let (key, rest) ← readExpr fuel rest
    match rest with
    | .sign "]" :: rest => readSuffixes fuel false filtered (.item e key) rest
    | _ => none
  | fuel + 1, false, filtered, e, .sign "(" :: rest => do
    let (arguments, rest) ← readArguments fuel rest
    readSuffixes fuel false filtered (.call e arguments) rest
  | fuel + 1, _, true, e, .sign "|" :: .name n :: rest =>
    match rest with
    | .sign "(" :: rest => do
      let (arguments, rest) ← readArguments fuel rest
      readSuffixes fuel true true (← applied? (Filter.ofName n) e arguments) rest
    | _ => readSuffixes fuel true true (.filter (Filter.ofName n) e []) rest
  | fuel + 1, true, true, e, .sign "(" :: rest => do
    let (arguments, rest) ← readArguments fuel rest
    readSuffixes fuel true true (.call e arguments) rest
  | _ + 1, _, _, e, rest => some (e, rest)

/-- Reads arguments up to their bracket. -/
def readArguments : Nat → List Token → Option (List (Option String × Expr) × List Token)
  | 0, _ => none
  | _ + 1, .sign ")" :: rest => some ([], rest)
  | fuel + 1, ts => do
    let (name?, ts) : Option String × List Token := match ts with
      | .name n :: .sign "=" :: rest => (some n, rest)
      | ts => (none, ts)
    let (e, rest) ← readExpr fuel ts
    match rest with
    | .sign "," :: rest => do
      let (more, rest) ← readArguments fuel rest
      return ((name?, e) :: more, rest)
    | .sign ")" :: rest => some ([(name?, e)], rest)
    | _ => none

end

/-- Reads tokens that are one expression. -/
def readWhole (ts : List Token) : Option Expr :=
  match readExpr (20 * ts.length + 20) ts with
  | some (e, []) => some e
  | _ => none

/-- What follows the remark on whether a template that is used sees the variables. -/
def afterContext : List Token → List Token
  | .name "with" :: .name "context" :: rest | .name "without" :: .name "context" :: rest => rest
  | ts => ts

/-- Reads a statement that embeds a template. -/
def readEmbed (ts : List Token) : Option Stmt := do
  let (source, rest) ← readExpr (20 * ts.length + 20) ts
  let (optional, rest) := match rest with
    | .name "ignore" :: .name "missing" :: rest => (true, rest)
    | rest => (false, rest)
  if (afterContext rest).isEmpty then some (.embed source optional) else none

/-- Whether some tokens are names to be imported, each of which may be given another name.
`complete` says whether a name has just been read. -/
def areImports (complete : Bool) : List Token → Bool
  | [] => complete
  | [.name "with", .name "context"] | [.name "without", .name "context"] => true
  | .sign "," :: rest => complete && areImports false rest
  | .name n :: .name "as" :: .name _ :: rest =>
    !complete && n.toList.head? ≠ some '_' && areImports true rest
  | .name n :: rest => !complete && n.toList.head? ≠ some '_' && areImports true rest
  | _ => false

/-- Reads a statement that imports a template, or names from it. -/
def readImport (named : Bool) (ts : List Token) : Option Stmt := do
  let (source, rest) ← readExpr (20 * ts.length + 20) ts
  match named, rest with
  | false, .name "as" :: .name _ :: rest =>
    if (afterContext rest).isEmpty then some (.load source) else none
  | true, .name "import" :: rest => if areImports false rest then some (.load source) else none
  | _, _ => none

/-- How a sequence of statements ends: at the end of the template, or at a statement that belongs to
the one around it. -/
inductive Ending where
  | template
  | otherwise
  | elseIf (test : Expr)
  | branch
  | loop
  deriving Repr

mutual

/-- Reads statements up to their end. -/
def readStmts : Nat → List Piece → Option (List Stmt × Ending × List Piece)
  | 0, _ => none
  | _ + 1, [] => some ([], .template, [])
  | fuel + 1, .text s :: rest => do
    let (more, ending, rest) ← readStmts fuel rest
    return (.text s :: more, ending, rest)
  | fuel + 1, .output ts :: rest => do
    let e ← readWhole ts
    let (more, ending, rest) ← readStmts fuel rest
    return (.output e :: more, ending, rest)
  | fuel + 1, .statement ts :: rest =>
    match ts with
    | [.name "else"] => some ([], .otherwise, rest)
    | [.name "endif"] => some ([], .branch, rest)
    | [.name "endfor"] => some ([], .loop, rest)
    | .name "elif" :: ts => do return ([], .elseIf (← readWhole ts), rest)
    | .name "if" :: ts => do
      let (s, rest) ← readBranch fuel (← readWhole ts) rest
      let (more, ending, rest) ← readStmts fuel rest
      return (s :: more, ending, rest)
    | .name "for" :: .name n :: .name "in" :: ts => do
      let items ← readWhole ts
      let (body, ending, rest) ← readStmts fuel rest
      let (otherwise, rest) ← match ending with
        | .loop => some ([], rest)
        | .otherwise => do
          match ← readStmts fuel rest with
          | (otherwise, .loop, rest) => some (otherwise, rest)
          | _ => none
        | _ => none
      let (more, ending, rest) ← readStmts fuel rest
      return (.loop n items body otherwise :: more, ending, rest)
    | .name "set" :: .name n :: .sign "=" :: ts => do
      let e ← readWhole ts
      let (more, ending, rest) ← readStmts fuel rest
      return (.assign n e :: more, ending, rest)
    | .name "include" :: ts => do
      let s ← readEmbed ts
      let (more, ending, rest) ← readStmts fuel rest
      return (s :: more, ending, rest)
    | .name "import" :: ts => do
      let s ← readImport false ts
      let (more, ending, rest) ← readStmts fuel rest
      return (s :: more, ending, rest)
    | .name "from" :: ts => do
      let s ← readImport true ts
      let (more, ending, rest) ← readStmts fuel rest
      return (s :: more, ending, rest)
    | .name "extends" :: ts => do
      let source ← readWhole ts
      let (more, ending, rest) ← readStmts fuel rest
      return (.load source :: more, ending, rest)
    | _ => none

/-- Reads the branches of a condition after its test. -/
def readBranch : Nat → Expr → List Piece → Option (Stmt × List Piece)
  | 0, _, _ => none
  | fuel + 1, test, rest => do
    let (yes, ending, rest) ← readStmts fuel rest
    match ending with
    | .branch => some (.branch test yes [], rest)
    | .elseIf next => do
      let (no, rest) ← readBranch fuel next rest
      return (.branch test yes [no], rest)
    | .otherwise => do
      match ← readStmts fuel rest with
      | (no, .branch, rest) => some (.branch test yes no, rest)
      | _ => none
    | _ => none

end

/-- Reads a template. -/
def readTemplate? (template : List Char) : Option (List Stmt) := do
  let pieces ← readPieces? template
  match ← readStmts (2 * pieces.length + 2) pieces with
  | (stmts, .template, _) => some stmts
  | _ => none

end TagWeave.Jinja
