import TagWeave.Text.Quoted
import TagWeave.Text.Split
import TagWeave.Value.Basic

/-!
# The text of a value

A value has two texts: the one that is inserted into output, and the one that
messages show. They differ for a text, which is shown between quotes, and so do
the texts of a container, whose parts are always shown.
-/

namespace TagWeave

open TagWeave.Text

/-- How messages show a truth value. -/
def shownBool (b : Bool) : String := if b then "True" else "False"

/-- How messages show a key. -/
def Key.shown : Key → String
  | .null => "None"
  | .bool b => shownBool b
  | .int n => Number.writeInt n
  | .float x => Number.writeFloat x
  | .str s => quoted s

/-- Whether a key has a text; an integer of too many digits has none. -/
def Key.isWritable : Key → Bool
  | .int n => Number.isWritable n
  | _ => true

/-- Texts between brackets, separated by commas. -/
def bracketed (opening closing : String) (parts : List String) : String :=
  opening ++ join ", " parts ++ closing

namespace Value

mutual

/-- How messages show a value. -/
def shown : Value → String
  | null => "None"
  | bool b => shownBool b
  | int n => Number.writeInt n
  | float x => Number.writeFloat x
  | str s => quoted s
  | list items => bracketed "[" "]" (shownItems items)
  | dict entries => bracketed "\x7b" "\x7d" (shownEntries entries)
  | record attributes => bracketed "namespace(" ")" (shownAttributes attributes)
  | lambda name => "<function " ++ name ++ ">"
  | foreign _ _ shown => shown

/-- How messages show the items of a list. -/
def shownItems : List Value → List String
  | [] => []
  | item :: items => item.shown :: shownItems items

/-- How messages show the entries of a mapping. -/
def shownEntries : List (Key × Value) → List String
  | [] => []
  | (key, value) :: entries => (key.shown ++ ": " ++ value.shown) :: shownEntries entries

/-- How messages show the attributes of a record. -/
def shownAttributes : List (String × Value) → List String
  | [] => []
  | (name, value) :: attributes => (name ++ "=" ++ value.shown) :: shownAttributes attributes

end

/-- The text of a value in output. -/
def text : Value → String
  | str s => s
  | foreign _ text _ => text
  | value => value.shown

mutual

/-- Whether each integer in a value has a text. -/
def isWritable : Value → Bool
  | int n => Number.isWritable n
  | list items => areWritable items
  | dict entries => entriesWritable entries
  | record attributes => attributesWritable attributes
  | _ => true

/-- Whether each integer in some values has a text. -/
def areWritable : List Value → Bool
  | [] => true
  | item :: items => item.isWritable && areWritable items

/-- Whether each integer in some entries has a text. -/
def entriesWritable : List (Key × Value) → Bool
  | [] => true
  | (key, value) :: entries => key.isWritable && value.isWritable && entriesWritable entries

/-- Whether each integer in some attributes has a text. -/
def attributesWritable : List (String × Value) → Bool
  | [] => true
  | (_, value) :: attributes => value.isWritable && attributesWritable attributes

end

end Value

end TagWeave
