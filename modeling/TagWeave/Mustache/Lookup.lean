import TagWeave.Fault
import TagWeave.Text.Blank
import TagWeave.Text.Split

/-!
# Looking up keys

The parts of a key, separated by points, lead from a scope to one of its members: an
item of a mapping, an attribute of a record, an item of a list or a character of a
text by its position. Of what the machine has as attributes of other values, only the
parts of numbers are members. Scopes are tried in order, and one that lacks a member is passed
over. What is found hides the scopes behind it, even if it counts as nothing; then it
is shown as an empty text, unless it is zero or false.
-/

namespace TagWeave.Mustache

open TagWeave.Text

/-- The outcome of a step from a value to a member. -/
inductive Member where
  | found (value : Value)
  | missing
  | fault (fault : Fault)
  deriving Repr

/-- The item at a position, counted from the end if it is negative. -/
def itemAt? {α : Type} (items : List α) (position : Int) : Option α :=
  if 0 ≤ position then items[position.toNat]?
  else if (-position).toNat ≤ items.length then items[items.length - (-position).toNat]?
  else none

/-- The attributes that numbers have. -/
def numberPart? (value : Value) (part : String) : Option Value :=
  let whole? : Option Int := match value with
    | .bool b => some (if b then 1 else 0)
    | .int n => some n
    | _ => none
  match whole?, value, part with
  | some n, _, "real" | some n, _, "numerator" => some (.int n)
  | some _, _, "imag" => some (.int 0)
  | some _, _, "denominator" => some (.int 1)
  | _, .float x, "real" => some (.float x)
  | _, .float _, "imag" => some (.float 0)
  | _, _, _ => none

/-- The name of a value's type where it is said to have no items. -/
def itemlessName (value : Value) : String :=
  match value with
  | .record _ => "types.SimpleNamespace"
  | value => value.typeName

/-- The member of a value that a part of a key names. -/
def member (value : Value) (part : String) : Member :=
  let positioned (find? : Int → Option Value) : Member :=
    match Number.readInt part with
    | .ok position => ((find? position).map .found).getD .missing
    | .error _ => .missing
  match value with
  | .dict entries => ((Entries.get? entries (.str part)).map .found).getD .missing
  | .list items => positioned (itemAt? items)
  | .str s => positioned fun i => (itemAt? s.toList i).map fun c => .str (String.ofList [c])
  | value =>
    let named? := match value with
      | .record attributes => (attributes.find? (·.1 = part)).map (·.2)
      | value => numberPart? value part
    match named? with
    | some found => .found found
    | none =>
      match Number.readInt part with
      | .ok _ => .fault (.type (.notSubscriptable (itemlessName value)))
      | .error _ => .missing

/-- Follows the parts of a key. -/
def follow (value : Value) : List String → Member
  | [] => .found value
  | part :: parts =>
    match member value part with
    | .found value => follow value parts
    | other => other

/-- How a value that was found is shown: what counts as nothing is an empty text, unless it is a
number or a truth value. -/
def shownFound (value : Value) : Value :=
  match value with
  | .bool _ | .int _ | .float _ => value
  | value => if value.truthy then value else .str ""

/-- Tries scopes in order. -/
def search (parts : List String) : List Value → Member
  | [] => .missing
  | scope :: scopes =>
    match follow scope parts with
    | .missing => search parts scopes
    | other => other

/-- The parts of a key. -/
def keyParts (key : String) : List String := (pieces '.' key.toList).map String.ofList

end TagWeave.Mustache
