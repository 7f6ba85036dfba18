import TagWeave.Json.Escape
import TagWeave.Value.Text

/-!
# Writing JSON

Values are written in ASCII, either on one line or indented by two blanks a level.
A key that is no text is written as the text of its value, infinities and
not-a-number by name, and a value that JSON does not know as its text.
-/

namespace TagWeave.Json

open TagWeave.Text

/-- A text between quotes, in ASCII. -/
def asciiQuoted (s : String) : String := String.ofList (quotedBy escapedAscii s.toList)

/-- Writes a double. -/
def floatText (x : Float) : String :=
  if x.isNaN then "NaN"
  else if x.isInf then (if x < 0 then "-Infinity" else "Infinity")
  else Number.writeFloat x

/-- The text of a truth value. -/
def boolText (b : Bool) : String := if b then "true" else "false"

/-- The text of a key, without quotes. -/
def keyText : Key → String
  | .null => "null"
  | .bool b => boolText b
  | .int n => Number.writeInt n
  | .float x => floatText x
  | .str s => s

/-- Puts the parts of a container between brackets: on one line if `depth?` is none, else each on a
line of its own, indented by that many levels. -/
def container (opening closing : String) (depth? : Option Nat) (parts : List String) : String :=
  if parts.isEmpty then opening ++ closing
  else match depth? with
    | none => opening ++ join ", " parts ++ closing
    | some depth =>
      let line (level : Nat) : String := "\n" ++ String.ofList (List.replicate (2 * level) ' ')
      opening ++ line (depth + 1) ++ join ("," ++ line (depth + 1)) parts ++ line depth ++ closing

mutual

/-- Writes a value that stands at the given depth of an indented text, or on one line. -/
def write (depth? : Option Nat) : Value → String
  | .null => "null"
  | .bool b => boolText b
  | .int n => Number.writeInt n
  | .float x => floatText x
  | .str s => asciiQuoted s
  | .list items => container "[" "]" depth? (writeItems (depth?.map (· + 1)) items)
  | .dict entries => container "\x7b" "\x7d" depth? (writeEntries (depth?.map (· + 1)) entries)
  | value => asciiQuoted value.text

/-- Writes the items of a list. -/
def writeItems (depth? : Option Nat) : List Value → List String
  | [] => []
  | item :: items => write depth? item :: writeItems depth? items

/-- Writes the entries of a mapping. -/
def writeEntries (depth? : Option Nat) : List (Key × Value) → List String
  | [] => []
  | (key, value) :: entries =>
    (asciiQuoted (keyText key) ++ ": " ++ write depth? value) :: writeEntries depth? entries

end

/-- Writes a value on one line. -/
def line (value : Value) : String := write none value

/-- Writes a value over several lines. -/
def page (value : Value) : String := write (some 0) value

end TagWeave.Json
