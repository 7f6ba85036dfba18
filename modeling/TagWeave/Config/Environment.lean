import TagWeave.Error
import TagWeave.Json.Reader
import TagWeave.Text.Case
import TagWeave.Text.Order
import TagWeave.Text.Split

/-!
# Overrides from the environment

A variable whose name starts with the mark sets an entry of the configuration: the
rest of its name, in lower case, is the path of the entry, with two underscores
between the parts, and its text is read as the value it looks like. Variables apply in
the order of their names, and the first one that is malformed ends the overrides.
-/

namespace TagWeave.Config

open TagWeave.Text

/-- Whether a text is digits, with an optional sign. -/
def looksInteger (cs : List Char) : Bool :=
  let body := match cs with
    | '-' :: rest | '+' :: rest => rest
    | rest => rest
  !body.isEmpty && body.all isDigit

/-- Whether a text is a point with digits on at least one side, and an optional sign. -/
def looksFraction (cs : List Char) : Bool :=
  let body := match cs with
    | '-' :: rest | '+' :: rest => rest
    | rest => rest
  match body.dropWhile isDigit with
  | '.' :: rest => rest.all isDigit && (!rest.isEmpty || (body.head?.map isDigit).getD false)
  | _ => false

/-- Whether a text stands between a pair of brackets that JSON uses. -/
def looksStructured (cs : List Char) : Bool :=
  (cs.head? == some '\x7b' && cs.getLast? == some '\x7d') ||
    (cs.head? == some '[' && cs.getLast? == some ']')

/-- The value that a trimmed text looks like which is none of the words for truth values and for
nothing. -/
def coerceTrimmed (cs : List Char) (json : Json.Reader) : Except Fault Value :=
  let s := String.ofList cs
  if looksInteger cs then
    match Number.readInt s with
    | .ok n => .ok (.int n)
    | .error .malformed => .error (.notInteger s)
    | .error (.tooLong digits) => .error (.tooManyDigits digits)
  else if looksFraction cs then
    match Number.readFloat? s with
    | some x => .ok (.float x)
    | none => .error (.notFraction s)
  else if looksStructured cs then (json s).map (·.getD (.str s))
  else .ok (.str s)

/-- The value that a variable's text looks like: a truth value, nothing, a number, or a JSON list
or mapping; else the text itself, trimmed. -/
def coerce (text : String) (json : Json.Reader := Json.reader) : Except Fault Value :=
  let cs := trim text.toList
  let low := lower (String.ofList cs)
  if low = "true" then .ok (.bool true)
  else if low = "false" then .ok (.bool false)
  else if low = "null" || low = "none" then .ok .null
  else coerceTrimmed cs json

/-- The path that the rest of a variable's name spells. -/
def pathOf (name : String) : Except Error (List String) :=
  let parts := piecesBy ['_', '_'] name.toList
  if parts.any (·.isEmpty) then .error (.config (.emptySegment name))
  else .ok (parts.map fun part => lower (String.ofList part))

/-- Sets the entry at a path, adding mappings on the way. Fails at a part that holds another
value. -/
def setAt (config : Entries) (value : Value) : List String → Except String Entries
  | [] => .ok config
  | [last] => .ok (config.insert (.str last) value)
  | part :: rest =>
    match config.get? (.str part) with
    | none => (setAt [] value rest).map fun inner => config.insert (.str part) (.dict inner)
    | some (.dict inner) =>
      (setAt inner value rest).map fun inner => config.insert (.str part) (.dict inner)
    | some _ => .error part

/-- Environment variables, by name. -/
abbrev Environment := List (String × String)

/-- The variables that override the configuration, in the order of their names, without the
mark. -/
def overridesOf (environment : Environment) : List (String × String) :=
  let named := environment.filterMap fun (name, text) =>
    (environmentMark.toList.isPrefixOf? name.toList).bind fun rest =>
      if rest.isEmpty then none else some (String.ofList rest, text)
  named.mergeSort fun a b => atMost a.1 b.1

/-- The path and the value of an override. -/
def readOverride (name text : String) (json : Json.Reader := Json.reader) :
    Except Error (List String × Value) :=
  match pathOf name with
  | .error e => .error e
  | .ok path =>
    match coerce text json with
    | .error f => .error (.fault f)
    | .ok value => .ok (path, value)

section

variable {σ : Type} (set : σ → Value → List String → Except String σ)

/-- Applies one override to a configuration in which `set` sets the entry at a path. -/
def applyOverride (config : σ) (name text : String) (json : Json.Reader := Json.reader) :
    Except Error σ :=
  match readOverride name text json with
  | .error e => .error e
  | .ok (path, value) =>
    match set config value path with
    | .error part => .error (.config (.throughValue path part))
    | .ok config => .ok config

/-- Applies overrides one after the other. What was set before an error stays set. -/
def applyOverrides (config : σ) (named : List (String × String))
    (json : Json.Reader := Json.reader) : σ × Option Error :=
  match named with
  | [] => (config, none)
  | (name, text) :: rest =>
    match applyOverride set config name text json with
    | .ok config => applyOverrides config rest json
    | .error e => (config, some e)

end

/-- Lays the environment over a configuration. -/
def applyEnvironment (config : Entries) (environment : Environment) : Entries × Option Error :=
  applyOverrides setAt config (overridesOf environment)

end TagWeave.Config
