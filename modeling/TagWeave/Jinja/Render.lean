import TagWeave.Error
import TagWeave.Jinja.Operand
import TagWeave.Jinja.Parser

/-!
# Rendering Jinja templates

Names are looked up among the variables, of which a later one hides an earlier one of
the same name. A loop binds its variable and facts about its state for each item, and
what is assigned inside a loop is forgotten after each turn.
-/

namespace TagWeave.Jinja

/-- The variables in force, latest first. -/
abbrev Scope := List (String × Operand)

/-- The value of a variable. -/
def operandOf (scope : Scope) (name : String) : Operand :=
  match scope.find? (·.1 = name) with
  | some (_, operand) => operand
  | none => .missing (.name name)

mutual

/-- Evaluates an expression. -/
def evaluate (options : Options) (scope : Scope) : Expr → Eval Operand
  | .const v => .ok (.plain v)
  | .name n => .ok (operandOf scope n)
  | .list items => do
    return .plain (.list ((← evaluateAll options scope items).map Operand.toValue))
  | .member object name => do memberOf (← evaluate options scope object) name
  | .item object key => do
    let object ← evaluate options scope object
    itemOf object (← evaluate options scope key)
  | .call function arguments => do
    let function ← evaluate options scope function
    let _ ← evaluateArguments options scope arguments
    typeFault (.notCallable (← function.value).typeName)
  | .filter filter subject arguments => do
    let subject ← evaluate options scope subject
    applyFilter options filter subject (← evaluateArguments options scope arguments)
  | .negate e => do negated (← evaluate options scope e)
  | .posit e => do posited (← evaluate options scope e)
  | .binary op left right => do
    let left ← evaluate options scope left
    operandOp options op left (← evaluate options scope right)
  | .concat first rest => do
    let first ← evaluate options scope first
    concatenated options (first :: (← evaluateAll options scope rest))
  | .compare first rest => do
    compareChain options scope (← evaluate options scope first) rest
  | .conj left right => do
    let left ← evaluate options scope left
    if ← left.truthy options then evaluate options scope right else return left
  | .disj left right => do
    let left ← evaluate options scope left
    if ← left.truthy options then return left else evaluate options scope right
  | .not e => do return .plain (.bool (!(← (← evaluate options scope e).truthy options)))
  | .choose test yes no => do
    if ← (← evaluate options scope test).truthy options then evaluate options scope yes
    else match no with
      | some e => evaluate options scope e
      | none => return .missing (.name "")

/-- Evaluates expressions in order. -/
def evaluateAll (options : Options) (scope : Scope) : List Expr → Eval (List Operand)
  | [] => .ok []
  | e :: es => do
    let operand ← evaluate options scope e
    return operand :: (← evaluateAll options scope es)

/-- Evaluates arguments in order. -/
def evaluateArguments (options : Options) (scope : Scope) :
    List (Option String × Expr) → Eval (List (Option String × Operand))
  | [] => .ok []
  | (name?, e) :: es => do
    let operand ← evaluate options scope e
    return (name?, operand) :: (← evaluateArguments options scope es)

/-- Evaluates a chain of comparisons up to the first one that does not hold. -/
def compareChain (options : Options) (scope : Scope) (left : Operand) :
    List (Comparison × Expr) → Eval Operand
  | [] => .ok (.plain (.bool true))
  | (op, e) :: rest => do
    let right ← evaluate options scope e
    if ← compareOperands options op left right then compareChain options scope right rest
    else return .plain (.bool false)

end

/-- The facts about a loop's state at an item. -/
def loopState (index count : Nat) : Operand :=
  .plain (.record [("index", .int (index + 1 : Nat)), ("index0", .int index),
    ("first", .bool (index = 0)), ("last", .bool (index + 1 = count)), ("length", .int count),
    ("revindex", .int (count - index : Nat)), ("revindex0", .int (count - index - 1 : Nat))])

/-- Runs `body` for the items from the given index on, of `count` in all. -/
def turns (body : Nat → Value → Eval (List Char)) (index : Nat) : List Value → Eval (List Char)
  | [] => .ok []
  | item :: items => do
    let output ← body index item
    return output ++ (← turns body (index + 1) items)

mutual

/-- Runs a statement: its output, and the variables that are in force after it. -/
def execute (options : Options) (scope : Scope) : Stmt → Eval (List Char × Scope)
  | .text s => .ok (s, scope)
  | .output e => do
    let s ← (← evaluate options scope e).output options
    return (s.toList, scope)
  | .branch test yes no => do
    if ← (← evaluate options scope test).truthy options then executeAll options scope yes
    else executeAll options scope no
  | .loop name items body otherwise => do
    let items ← (← evaluate options scope items).items options
    if items.isEmpty then
      let (output, _) ← executeAll options scope otherwise
      return (output, scope)
    else
      let output ← turns (fun index item => do
        let inner := (name, .plain item) :: ("loop", loopState index items.length) :: scope
        return (← executeAll options inner body).1) 0 items
      return (output, scope)
  | .assign name e => do
    return ([], (name, ← evaluate options scope e) :: scope)
  | .embed source optional => do
    loadAny optional (← evaluate options scope source)
    return ([], scope)
  | .load source => do
    let _ ← evaluate options scope source
    loadNamed

/-- Runs statements one after the other. -/
def executeAll (options : Options) (scope : Scope) : List Stmt → Eval (List Char × Scope)
  | [] => .ok ([], scope)
  | s :: ss => do
    let (output, scope) ← execute options scope s
    let (more, scope) ← executeAll options scope ss
    return (output ++ more, scope)

end

/-- Adds the names that a binding defines: the entries of a mapping, or the attributes of a record
that do not begin with an underscore. A lambda has no attributes of its own. -/
def addBinding (entries : Entries) : Value → Except String Entries
  | .null | .lambda _ => .ok entries
  | .dict added => .ok (added.foldl (fun entries (key, v) => entries.insert key v) entries)
  | .record attributes =>
    .ok ((attributes.filter fun (name, _) => name.toList.head? ≠ some '_').foldl
      (fun entries (name, v) => entries.insert (.str name) v) entries)
  | v => .error v.typeName

/-- The entries that some bindings define together. -/
def mergeBindings (entries : Entries) : List Value → Except String Entries
  | [] => .ok entries
  | binding :: bindings =>
    match addBinding entries binding with
    | .ok entries => mergeBindings entries bindings
    | .error typeName => .error typeName

/-- The name that a key is, if it is a text. -/
def nameOf? : Key → Option String
  | .str name => some name
  | _ => none

/-- The variables that some entries define, whose keys have to be texts other than `self`. -/
def variablesOf (entries : Entries) : Eval (List (String × Value)) :=
  if entries.any fun (key, _) => (nameOf? key).isNone then typeFault .badKeys
  else if entries.has (.str "self") then typeFault (.repeatedArgument "Template.render" "self")
  else .ok (entries.filterMap fun (key, v) => (nameOf? key).map (·, v))

/-- An engine for templates of this language: it reads a template, and what it has read is rendered
with variables. -/
abbrev Engine := Options → String → Eval (List (String × Value) → Eval String)

/-- The library's own engine. A template in which an integer is too long cannot be read. -/
def engine : Engine := fun options template =>
  match readTemplate? template.toList, longInteger? template.toList with
  | none, _ => .error (.template .malformed)
  | some _, some digits => .error (.runtime (.tooManyDigits digits))
  | some stmts, none =>
    if someUnknown false stmts then .error (.template .unknownFilter)
    else .ok fun named => do
      let (output, _) ← executeAll options (named.map fun (name, v) => (name, .plain v)) stmts
      return String.ofList output

/-- Renders a template with the variables that some entries define. It is read before they are looked
at. -/
def render (engine : Engine) (options : Options) (template : String) (entries : Entries) :
    Eval String := do
  let rendered ← engine options template
  rendered (← variablesOf entries)

/-- Renders a template by an engine with bindings, of which later ones take precedence. Only faults of
the template itself are interpolation errors. -/
def interpolateWith (engine : Engine) (options : Options) (template : String)
    (bindings : List Value) : Except Error String :=
  match mergeBindings [] bindings with
  | .error typeName => .error (.interpolation (.jinjaBinding typeName))
  | .ok entries =>
    match render engine options template entries with
    | .ok s => .ok s
    | .error (.template fault) => .error (.interpolation (.jinjaFailed fault))
    | .error (.runtime fault) => .error (.fault fault)

end TagWeave.Jinja
