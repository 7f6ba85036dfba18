import TagWeave.Number.Decimal

/-!
# Values

Bindings, configurations and the values that templates compute are trees of one
type. A mapping keeps its entries in the order in which they were added and has at
most one entry for each key. Keys are the scalar values, and two keys are the same
when they stand for the same number or text: `1`, `1.0` and `true` share an entry.

A `record` has named attributes but no items, and a `lambda` is known by the name
under which the application supplies its behaviour. A `foreign` value is one of
which only the type is known, and the two texts that it has.
-/

namespace TagWeave

/-- The key of an entry. -/
inductive Key where
  | null
  | bool (b : Bool)
  | int (n : Int)
  | float (x : Float)
  | str (s : String)
  deriving DecidableEq, Repr

/-- What a key stands for. -/
inductive Key.Sense where
  | nothing
  | number (n : Int)
  | fraction (x : Float)
  | text (s : String)
  deriving DecidableEq, Repr

/-- A truth value counts as a number, and a whole fraction as an integer. -/
def Key.sense : Key → Key.Sense
  | .null => .nothing
  | .bool b => .number (if b then 1 else 0)
  | .int n => .number n
  | .float x => if Number.isWhole x then .number (Number.truncate x) else .fraction x
  | .str s => .text s

/-- Whether two keys share an entry. -/
def Key.same (a b : Key) : Bool := a.sense == b.sense

/-- A tree of values. -/
inductive Value where
  | null
  | bool (b : Bool)
  | int (n : Int)
  | float (x : Float)
  | str (s : String)
  | list (items : List Value)
  | dict (entries : List (Key × Value))
  | record (attributes : List (String × Value))
  | lambda (name : String)
  | foreign (typeName text shown : String)
  deriving Repr, Inhabited

/-- The entries of a mapping. -/
abbrev Entries := List (Key × Value)

namespace Entries

/-- The value of an entry. -/
def get? (entries : Entries) (key : Key) : Option Value :=
  (entries.find? (·.1.same key)).map (·.2)

/-- Whether there is an entry. -/
def has (entries : Entries) (key : Key) : Bool := (entries.get? key).isSome

/-- Sets an entry: an existing one keeps its key and place, a new one comes last. -/
def insert (entries : Entries) (key : Key) (value : Value) : Entries :=
  match entries with
  | [] => [(key, value)]
  | (k, v) :: rest =>
    if k.same key then (k, value) :: rest else (k, v) :: insert rest key value

/-- The mapping that results from setting entries one after the other. -/
def ofList (pairs : List (Key × Value)) : Entries :=
  pairs.foldl (fun entries (key, value) => entries.insert key value) []

end Entries

namespace Value

/-- The name of a value's type, as error messages give it. -/
def typeName : Value → String
  | null => "NoneType"
  | bool _ => "bool"
  | int _ => "int"
  | float _ => "float"
  | str _ => "str"
  | list _ => "list"
  | dict _ => "dict"
  | record _ => "SimpleNamespace"
  | lambda _ => "function"
  | foreign name _ _ => name

/-- Whether a value counts as true: zero and everything empty does not. -/
def truthy : Value → Bool
  | null => false
  | bool b => b
  | int n => n != 0
  | float x => x != 0
  | str s => !s.isEmpty
  | list items => !items.isEmpty
  | dict entries => !entries.isEmpty
  | record _ => true
  | lambda _ => true
  | foreign _ _ _ => true

/-- The entries of a value that is a mapping. -/
def entries? : Value → Option Entries
  | dict entries => some entries
  | _ => none

/-- The text of a value that is a text. -/
def text? : Value → Option String
  | str s => some s
  | _ => none

/-- The value of an entry with a text as its key. -/
def field? (value : Value) (name : String) : Option Value :=
  value.entries?.bind (·.get? (.str name))

/-- A mapping with texts as keys. -/
def ofFields (fields : List (String × Value)) : Value :=
  .dict (fields.map fun (name, value) => (.str name, value))

/-- A list of texts. -/
def ofStrings (items : List String) : Value := .list (items.map .str)

end Value

/-- The value that a key is. -/
def Key.value : Key → Value
  | .null => .null
  | .bool b => .bool b
  | .int n => .int n
  | .float x => .float x
  | .str s => .str s

end TagWeave
