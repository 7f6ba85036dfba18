import TagWeave.Jinja.Fault
import TagWeave.Jinja.Syntax
import TagWeave.Text.Case
import TagWeave.Value.Compare
import TagWeave.Value.Convert

/-!
# What Jinja expressions compute with

An expression gives a value, a text that counts as markup and is not escaped again, or
nothing at all. Something missing is an empty text, an empty list and false, unless the
template is strict, and most operations on it fail in any case. Markup that meets a
text, in a concatenation or a join, makes the whole markup and the text escaped.
-/

namespace TagWeave.Jinja

open TagWeave.Text

/-- How templates are evaluated. -/
structure Options where
  strict : Bool := false
  autoescape : Bool := true
  deriving DecidableEq, Repr

/-- What an expression gives. -/
inductive Operand where
  | plain (value : Value)
  | markup (text : String)
  | missing (what : Missing)
  deriving Repr

/-- A computation of a template. -/
abbrev Eval (α : Type) := Except Failure α

/-- Fails because something is missing. -/
def undefined {α : Type} (what : Missing) : Eval α := .error (.template (.undefined what))

/-- Fails because of types. -/
def typeFault {α : Type} (fault : TypeFault) : Eval α := .error (.runtime (.type fault))

/-- A computation that may fail with a fault that is not of the template. -/
def ofFault {α : Type} : Except Fault α → Eval α
  | .ok a => .ok a
  | .error fault => .error (.runtime fault)

/-- The text of a value, unless an integer in it has none. -/
def textOf (v : Value) : Eval String :=
  if v.isWritable then .ok v.text else .error (.runtime .longInteger)

/-- A character of a text in markup. -/
def escapeChar (c : Char) : List Char :=
  if c = '&' then "&amp;".toList
  else if c = '<' then "&lt;".toList
  else if c = '>' then "&gt;".toList
  else if c = '\'' then "&#39;".toList
  else if c = '"' then "&#34;".toList
  else [c]

/-- A text as markup. -/
def escapeText (s : String) : String := String.ofList (s.toList.flatMap escapeChar)

namespace Operand

/-- The value of an operand that has to be there. -/
def value : Operand → Eval Value
  | plain v => .ok v
  | markup s => .ok (.str s)
  | missing what => undefined what

/-- The value of an operand; something missing is the given value unless the template is strict. -/
def valueOr (options : Options) (absent : Value) : Operand → Eval Value
  | missing what => if options.strict then undefined what else .ok absent
  | operand => operand.value

/-- The text of an operand. -/
def text (options : Options) (operand : Operand) : Eval String := do
  textOf (← operand.valueOr options (.str ""))

/-- Whether an operand counts as true. -/
def truthy (options : Options) (operand : Operand) : Eval Bool :=
  (operand.valueOr options .null).map Value.truthy

/-- Whether an operand is markup. -/
def isMarkup : Operand → Bool
  | markup _ => true
  | _ => false

/-- The text of an operand within markup. -/
def escaped (options : Options) (operand : Operand) : Eval String :=
  match operand with
  | markup s => .ok s
  | operand => (operand.text options).map escapeText

/-- What an operand is in the output. -/
def output (options : Options) (operand : Operand) : Eval String :=
  if options.autoescape then operand.escaped options else operand.text options

/-- The items that a loop or a join goes through. -/
def items (options : Options) (operand : Operand) : Eval (List Value) := do
  match ← operand.valueOr options (.list []) with
  | .list items => return items
  | .dict entries => return entries.map fun (key, _) => key.value
  | .str s => return s.toList.map fun c => .str (String.ofList [c])
  | v => typeFault (.notIterable v.typeName)

/-- The number of items or characters. -/
def length (options : Options) (operand : Operand) : Eval Value := do
  match ← operand.valueOr options (.list []) with
  | .list items => return .int items.length
  | .dict entries => return .int entries.length
  | .str s => return .int s.length
  | v => typeFault (.noLength v.typeName)

/-- A list of operands as a value. -/
def toValue : Operand → Value
  | plain v => v
  | markup s => .foreign "Markup" s ("Markup(" ++ quoted s ++ ")")
  | missing _ => .foreign "Undefined" "" "Undefined"

end Operand

/-- How messages about missing members name a value's type. -/
def objectName : Value → String
  | .null => "None"
  | .record _ => "types.SimpleNamespace object"
  | v => v.typeName ++ " object"

/-- The attribute of a value. -/
def attribute? (v : Value) (name : String) : Option Value :=
  match v with
  | .record attributes => (attributes.find? (·.1 = name)).map (·.2)
  | _ => none

/-- The item of a value under a key. -/
def item? (v key : Value) : Option Value :=
  match v, key with
  | .dict entries, .str s => Entries.get? entries (.str s)
  | .dict entries, .int n => Entries.get? entries (.int n)
  | .dict entries, .bool b => Entries.get? entries (.bool b)
  | .dict entries, .float x => Entries.get? entries (.float x)
  | .dict entries, .null => Entries.get? entries .null
  | .list items, key => key.whole?.bind (position? items)
  | .str s, key =>
    (key.whole?.bind (position? s.toList)).map fun c => .str (String.ofList [c])
  | _, _ => none
where
  /-- The item at a position, counted from the end if it is negative. -/
  position? {α : Type} (items : List α) (n : Int) : Option α :=
    if 0 ≤ n then items[n.toNat]?
    else if (-n).toNat ≤ items.length then items[items.length - (-n).toNat]?
    else none

/-- The member of an operand: an attribute, else an item. -/
def memberOf (object : Operand) (name : String) : Eval Operand := do
  let v ← object.value
  match attribute? v name, item? v (.str name) with
  | some found, _ => return .plain found
  | none, some found => return .plain found
  | none, none => return .missing (.member (objectName v) name)

/-- The item of an operand: an item, else an attribute. -/
def itemOf (object key : Operand) : Eval Operand := do
  let v ← object.value
  let k ← key.value
  match item? v k, k with
  | some found, _ => return .plain found
  | none, .str name =>
    match attribute? v name with
    | some found => return .plain found
    | none => return .missing (.member (objectName v) name)
  | none, k => return .missing (.element (objectName v) k.shown)

/-- The first number that is too large for the count of a repetition. -/
def countBound : Int := Nat.pow 2 63

/-- A text or a list, repeated. The number of times has to be one that a word can hold. -/
def repeated {α : Type} (items : List α) (n : Int) : Eval (List α) :=
  if n < -countBound ∨ countBound ≤ n then .error (.runtime .hugeCount)
  else .ok (List.replicate n.toNat items).flatten

/-- A text, repeated. -/
def repeatedText (s : String) (n : Int) : Eval Value :=
  (repeated s.toList n).map fun cs => .str (String.ofList cs)

/-- An operation on whole numbers. -/
def wholeOp (op : BinaryOp) (m n : Int) : Eval Value :=
  match op with
  | .add => .ok (.int (m + n))
  | .sub => .ok (.int (m - n))
  | .mul => .ok (.int (m * n))
  | .div =>
    if n = 0 then .error (.runtime (.divisionByZero "division by zero"))
    else match Number.quotient? m n with
      | some x => .ok (.float x)
      | none => .error (.runtime .hugeQuotient)
  | .floorDiv =>
    if n = 0 then .error (.runtime (.divisionByZero "integer division or modulo by zero"))
    else .ok (.int (Int.fdiv m n))
  | .mod =>
    if n = 0 then .error (.runtime (.divisionByZero "integer modulo by zero"))
    else .ok (.int (Int.fmod m n))

/-- An operation on fractions. -/
def fractionOp (op : BinaryOp) (x y : Float) : Eval Value :=
  match op with
  | .add => .ok (.float (x + y))
  | .sub => .ok (.float (x - y))
  | .mul => .ok (.float (x * y))
  | .div =>
    if y == 0 then .error (.runtime (.divisionByZero "float division by zero"))
    else .ok (.float (x / y))
  | .floorDiv =>
    if y == 0 then .error (.runtime (.divisionByZero "float floor division by zero"))
    else .ok (.float (x / y).floor)
  | .mod =>
    if y == 0 then .error (.runtime (.divisionByZero "float modulo"))
    else .ok (.float (x - y * (x / y).floor))

/-- An operation on values that are not both numbers. -/
def mixedOp (op : BinaryOp) (a b : Value) : Eval Value :=
  match op, a, b with
  | .add, .str s, .str t => .ok (.str (s ++ t))
  | .add, .str _, b => typeFault (.concatenation b.typeName)
  | .add, .list xs, .list ys => .ok (.list (xs ++ ys))
  | .add, .list _, b => typeFault (.listConcatenation b.typeName)
  | .mul, .str s, b =>
    match b.whole? with
    | some n => repeatedText s n
    | none => typeFault (.repetition b.typeName)
  | .mul, .list xs, b =>
    match b.whole? with
    | some n => (repeated xs n).map .list
    | none => typeFault (.repetition b.typeName)
  | .mul, a, .str s =>
    match a.whole? with
    | some n => repeatedText s n
    | none => typeFault (.repetition a.typeName)
  | .mul, a, .list xs =>
    match a.whole? with
    | some n => (repeated xs n).map .list
    | none => typeFault (.repetition a.typeName)
  | op, a, b => typeFault (.operands op.sign a.typeName b.typeName)

/-- An operation on values. -/
def valueOp (op : BinaryOp) (a b : Value) : Eval Value :=
  match a.whole?, b.whole? with
  | some m, some n => wholeOp op m n
  | _, _ =>
    match a.number?, b.number? with
    | some _, some _ => do
      let x ← ofFault a.toFraction
      fractionOp op x (← ofFault b.toFraction)
    | _, _ => mixedOp op a b

/-- Whether an operand is a text, markup or not. -/
def isText : Operand → Bool
  | .markup _ => true
  | .plain (.str _) => true
  | _ => false

/-- An operation on operands. Markup and a text add up to markup, and markup repeated is markup. -/
def operandOp (options : Options) (op : BinaryOp) (a b : Operand) : Eval Operand := do
  if op = .add && isText a && isText b && (a.isMarkup || b.isMarkup) then
    return .markup ((← a.escaped options) ++ (← b.escaped options))
  else
    let v ← valueOp op (← a.value) (← b.value)
    match v with
    | .str s =>
      return if op = .mul && (a.isMarkup || b.isMarkup) then .markup s else .plain (.str s)
    | v => return .plain v

/-- Whether one operand equals another. Nothing equals only what is missing as well. -/
def equalOperands (options : Options) (a b : Operand) : Eval Bool :=
  match a, b with
  | .missing what, other | other, .missing what =>
    if options.strict then undefined what
    else .ok (match other with
      | .missing _ => true
      | _ => false)
  | a, b => do return (← a.value).same (← b.value)

/-- Whether one text occurs in another. -/
def occursIn (part whole : String) : Bool := (splitOnce? part.toList whole.toList).isSome

/-- Whether an operand is contained in another. -/
def containedIn (options : Options) (a b : Operand) : Eval Bool := do
  match ← b.valueOr options (.list []) with
  | .list items =>
    let v ← a.valueOr options (.foreign "Undefined" "" "Undefined")
    return items.any (·.same v)
  | .dict entries =>
    let v ← a.value
    return entries.any fun (key, _) => key.value.same v
  | .str whole =>
    match ← a.value with
    | .str part => return occursIn part whole
    | v => typeFault (.textContainer v.typeName)
  | v => typeFault (.notContainer v.typeName)

/-- Compares two operands by their order. -/
def ordered (op : Comparison) (a b : Operand) (good : Ordering → Bool) : Eval Bool := do
  match (← a.value).order (← b.value) with
  | .ok o => return (o.map good).getD false
  | .error (left, right) => typeFault (.order op.sign left right)

/-- Compares two operands. -/
def compareOperands (options : Options) (op : Comparison) (a b : Operand) : Eval Bool :=
  match op with
  | .eq => equalOperands options a b
  | .ne => (equalOperands options a b).map (!·)
  | .lt => ordered op a b (· == .lt)
  | .le => ordered op a b (· != .gt)
  | .gt => ordered op a b (· == .gt)
  | .ge => ordered op a b (· != .lt)
  | .isIn => containedIn options a b
  | .notIn => (containedIn options a b).map (!·)

/-- A signed operand. -/
def negated (operand : Operand) : Eval Operand := do
  match ← operand.value with
  | .bool b => return .plain (.int (if b then -1 else 0))
  | .int n => return .plain (.int (-n))
  | .float x => return .plain (.float (-x))
  | v => typeFault (.sign "-" v.typeName)

/-- An operand with a plus sign. -/
def posited (operand : Operand) : Eval Operand := do
  match ← operand.value with
  | .bool b => return .plain (.int (if b then 1 else 0))
  | .int n => return .plain (.int n)
  | .float x => return .plain (.float x)
  | v => typeFault (.sign "+" v.typeName)

/-- The texts of some operands, one after the other. -/
def concatenated (options : Options) (operands : List Operand) : Eval Operand := do
  if options.autoescape && operands.any (·.isMarkup) then
    return .markup (String.join (← operands.mapM (·.escaped options)))
  else
    return .plain (.str (String.join (← operands.mapM (·.text options))))

/-- The texts of the items of an operand. -/
def Operand.itemTexts (options : Options) (operand : Operand) : Eval (List String) := do
  (← operand.items options).mapM textOf

/-- The items of an operand with a separator between them. The separator is written first, unless
there may be markup. -/
def joined (options : Options) (subject separator : Operand) : Eval Operand := do
  if !options.autoescape then
    let between ← separator.text options
    return .plain (.str (join between (← subject.itemTexts options)))
  else
    let parts ← subject.itemTexts options
    match separator with
    | .markup between => return .markup (join between (parts.map escapeText))
    | separator => return .plain (.str (join (← separator.text options) parts))

/-- The text of an operand changed by `f`; markup stays markup. -/
def changed (options : Options) (operand : Operand) (f : String → String) : Eval Operand := do
  let s ← operand.text options
  return if operand.isMarkup then .markup (f s) else .plain (.str (f s))

/-- Applies an operation with arguments that it takes. -/
def applyAccepted (options : Options) (filter : Filter) (subject : Operand)
    (arguments : List (Option String × Operand)) : Eval Operand := do
  match filter with
  | .safe => return .markup (← subject.text options)
  | .escape => return .markup (← subject.escaped options)
  | .upper => changed options subject upper
  | .lower => changed options subject lower
  | .trim => changed options subject fun s => String.ofList (trim s.toList)
  | .default =>
    let fallback := (argument? arguments "default_value" 0).getD (.plain (.str ""))
    let alsoFalse ← ((argument? arguments "boolean" 1).getD (.plain (.bool false))).truthy options
    match subject with
    | .missing _ => return fallback
    | subject =>
      if alsoFalse && !(← subject.truthy options) then return fallback else return subject
  | .length => return .plain (← subject.length options)
  | .join => joined options subject ((argument? arguments "d" 0).getD (.plain (.str "")))
  | .unknown name => .error (.template (.filterNotFound name))

/-- Applies an operation. -/
def applyFilter (options : Options) (filter : Filter) (subject : Operand)
    (arguments : List (Option String × Operand)) : Eval Operand :=
  match filter.refusal? (arguments.map (·.1)) with
  | some fault => typeFault fault
  | none => applyAccepted options filter subject arguments

/-- Loads the template of a name. There is no place that templates are loaded from. -/
def loadNamed {α : Type} : Eval α := typeFault .noTemplates

/-- Loads the first template that there is among those that an operand names, which is a name, or a
list of names. An empty list gives nothing where that is allowed. -/
def loadAny (optional : Bool) (operand : Operand) : Eval Unit := do
  match operand with
  | .markup _ | .missing _ | .plain (.str _) => loadNamed
  | .plain v =>
    if !v.truthy then
      if optional then return () else .error (.template .noneGiven)
    else match v with
      | .list _ | .dict _ => loadNamed
      | v => typeFault (.notIterable v.typeName)

end TagWeave.Jinja
