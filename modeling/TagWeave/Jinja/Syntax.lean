import TagWeave.Jinja.Fault
import TagWeave.Value.Basic

/-!
# The syntax of Jinja templates

A template is a sequence of texts, outputs, conditions, loops, assignments and uses of
other templates over expressions. The operations that an expression applies by name are those of a fixed
list; another name is kept, since it is an error only where it would be used.
-/

namespace TagWeave.Jinja

/-- The operators between two numbers, texts or lists. -/
inductive BinaryOp where
  | add
  | sub
  | mul
  | div
  | floorDiv
  | mod
  deriving DecidableEq, Repr

/-- The sign of an operator. -/
def BinaryOp.sign : BinaryOp → String
  | add => "+"
  | sub => "-"
  | mul => "*"
  | div => "/"
  | floorDiv => "//"
  | mod => "%"

/-- The comparisons. -/
inductive Comparison where
  | eq
  | ne
  | lt
  | le
  | gt
  | ge
  | isIn
  | notIn
  deriving DecidableEq, Repr

/-- The sign of a comparison. -/
def Comparison.sign : Comparison → String
  | eq => "=="
  | ne => "!="
  | lt => "<"
  | le => "<="
  | gt => ">"
  | ge => ">="
  | isIn => "in"
  | notIn => "not in"

/-- The operations by name. -/
inductive Filter where
  | safe
  | escape
  | upper
  | lower
  | trim
  | default
  | length
  | join
  | unknown (name : String)
  deriving DecidableEq, Repr

/-- The operation of a name. -/
def Filter.ofName : String → Filter
  | "safe" => safe
  | "e" | "escape" => escape
  | "upper" => upper
  | "lower" => lower
  | "trim" => trim
  | "default" | "d" => default
  | "length" | "count" => length
  | "join" => join
  | name => unknown name

/-- An argument by its name or place. -/
def argument? {α : Type} (arguments : List (Option String × α)) (name : String) (place : Nat) :
    Option α :=
  match arguments.find? (·.1 = some name) with
  | some (_, a) => some a
  | none => ((arguments.filter (·.1.isNone))[place]?).map (·.2)

/-- The parameters of a function, of which some may be left out. -/
structure Signature where
  function : String
  required : List String
  optional : List String := []

/-- Why a function refuses arguments that come after those it requires, given their names. -/
def Signature.refusal? (signature : Signature) (names : List (Option String)) : Option TypeFault :=
  let parameters := signature.required ++ signature.optional
  let given := signature.required.length + (names.filter (·.isNone)).length
  let ofName (name : String) : Option TypeFault :=
    match parameters.idxOf? name with
    | none => some (.unexpectedArgument signature.function name)
    | some place =>
      if place < given then some (.repeatedArgument signature.function name) else none
  match (names.filterMap id).findSome? ofName with
  | some fault => some fault
  | none =>
    if parameters.length < given then
      some (.tooManyArguments signature.function signature.required.length parameters.length given)
    else none

namespace Filter

/-- The function that an operation calls. The number of items or characters is counted by one that
takes nothing else, and an unknown operation calls none. -/
def signature? : Filter → Option Signature
  | safe => some { function := "do_mark_safe", required := ["value"] }
  | escape => some { function := "escape", required := ["s"] }
  | upper => some { function := "do_upper", required := ["s"] }
  | lower => some { function := "do_lower", required := ["s"] }
  | trim => some { function := "do_trim", required := ["value"], optional := ["chars"] }
  | default =>
    some
      { function := "do_default", required := ["value"], optional := ["default_value", "boolean"] }
  | join =>
    some
      { function := "sync_do_join", required := ["eval_ctx", "value"], optional := ["d", "attribute"] }
  | length | unknown _ => none

/-- Why an operation refuses its arguments, given their names. -/
def refusal? (filter : Filter) (names : List (Option String)) : Option TypeFault :=
  match filter.signature? with
  | some signature => signature.refusal? names
  | none =>
    if filter ≠ length ∨ names.isEmpty then none
    else if names.any (·.isSome) then some (.noNamedArguments "len")
    else some (.notOneArgument "len" (names.length + 1))

/-- Whether the arguments of an operation are understood. A set of characters to trim and an
attribute to join by are not; arguments that are refused need not be. -/
def understands {α : Type} (filter : Filter) (arguments : List (Option String × α)) : Bool :=
  match filter.refusal? (arguments.map (·.1)), filter with
  | none, trim => (argument? arguments "chars" 0).isNone
  | none, join => (argument? arguments "attribute" 1).isNone
  | _, _ => true

end Filter

/-- Expressions. Arguments of operations may be named. -/
inductive Expr where
  | const (value : Value)
  | name (name : String)
  | list (items : List Expr)
  | member (object : Expr) (name : String)
  | item (object key : Expr)
  | call (function : Expr) (arguments : List (Option String × Expr))
  | filter (filter : Filter) (subject : Expr) (arguments : List (Option String × Expr))
  | negate (e : Expr)
  | posit (e : Expr)
  | binary (op : BinaryOp) (left right : Expr)
  | concat (first : Expr) (rest : List Expr)
  | compare (first : Expr) (rest : List (Comparison × Expr))
  | conj (left right : Expr)
  | disj (left right : Expr)
  | not (e : Expr)
  | choose (test yes : Expr) (no : Option Expr)
  deriving Repr

/-- Statements. Another template may be embedded, where it may be allowed that there is none, or loaded
to be extended or imported from. -/
inductive Stmt where
  | text (s : List Char)
  | output (e : Expr)
  | branch (test : Expr) (yes no : List Stmt)
  | loop (name : String) (items : Expr) (body otherwise : List Stmt)
  | assign (name : String) (e : Expr)
  | embed (source : Expr) (optional : Bool)
  | load (source : Expr)
  deriving Repr

mutual

/-- Whether an expression applies an unknown operation where that is an error by itself. -/
def Expr.hasUnknown : Expr → Bool
  | .const _ | .name _ => false
  | .list items => anyUnknown items
  | .member object _ => object.hasUnknown
  | .item object key => object.hasUnknown || key.hasUnknown
  | .call function arguments => function.hasUnknown || anyUnknownArgument arguments
  | .filter (.unknown _) _ _ => true
  | .filter _ subject arguments => subject.hasUnknown || anyUnknownArgument arguments
  | .negate e | .posit e | .not e => e.hasUnknown
  | .binary _ left right | .conj left right | .disj left right =>
    left.hasUnknown || right.hasUnknown
  | .concat first rest => first.hasUnknown || anyUnknown rest
  | .compare first rest => first.hasUnknown || anyUnknownOperand rest
  | .choose _ _ _ => false

/-- Whether one of some expressions applies an unknown operation. -/
def anyUnknown : List Expr → Bool
  | [] => false
  | e :: es => e.hasUnknown || anyUnknown es

/-- Whether one of some arguments applies an unknown operation. -/
def anyUnknownArgument : List (Option String × Expr) → Bool
  | [] => false
  | (_, e) :: es => e.hasUnknown || anyUnknownArgument es

/-- Whether one of some operands applies an unknown operation. -/
def anyUnknownOperand : List (Comparison × Expr) → Bool
  | [] => false
  | (_, e) :: es => e.hasUnknown || anyUnknownOperand es

end

mutual

/-- Whether a statement applies an unknown operation where that is an error by itself: inside a
condition it is not, but in a loop there. -/
def Stmt.hasUnknown (inBranch : Bool) : Stmt → Bool
  | .text _ => false
  | .output e | .assign _ e | .embed e _ | .load e => !inBranch && e.hasUnknown
  | .branch _ yes no => someUnknown true yes || someUnknown true no
  | .loop _ items body otherwise =>
    (!inBranch && items.hasUnknown) || someUnknown false body || someUnknown false otherwise

/-- Whether one of some statements applies an unknown operation. -/
def someUnknown (inBranch : Bool) : List Stmt → Bool
  | [] => false
  | s :: ss => s.hasUnknown inBranch || someUnknown inBranch ss

end

end TagWeave.Jinja
