import TagWeave.Fault
import TagWeave.Json.Reader
import TagWeave.Yaml.Fault
import TagWeave.Yaml.Timestamp

/-!
# Plain scalars

What a plain scalar stands for shows in its form: nothing, a truth value, a number, a time
stamp, a sign with a meaning of its own, or else a text. Numbers may have underscores between
their digits, and may be written in groups of base sixty, separated by colons.
-/

namespace TagWeave.Yaml

open TagWeave.Text

/-- The kind of a node. -/
inductive Kind where
  | null
  | bool
  | int
  | float
  | str
  | sequence
  | mapping
  | timestamp
  | merge
  | value
  | other (tag : String)
  deriving DecidableEq, Repr

/-- What the tags of the standard kinds begin with. -/
def standardTag : String := "tag:yaml.org,2002:"

/-- The kind of a tag. -/
def Kind.ofTag (tag : String) : Kind :=
  let standard : List (String × Kind) :=
    [("null", null), ("bool", bool), ("int", int), ("float", float), ("str", str),
      ("timestamp", timestamp), ("seq", sequence), ("map", mapping), ("merge", merge),
      ("value", value)]
  ((standard.find? fun (name, _) => standardTag ++ name = tag).map (·.2)).getD (.other tag)

/-- The words for nothing. -/
def nullWords : List String := ["", "~", "null", "Null", "NULL"]

/-- The words for true and for false, in lower case. -/
def boolWords : List (String × Bool) :=
  [("yes", true), ("true", true), ("on", true), ("no", false), ("false", false), ("off", false)]

/-- A word with an upper-case first letter. -/
def capital (word : String) : String :=
  match word.toList with
  | c :: cs => String.ofList (c.toUpper :: cs)
  | [] => ""

/-- Whether a word is one for a truth value, in lower case, in upper case or with a capital. -/
def isBoolWord (s : String) : Bool :=
  boolWords.any fun (word, _) => s = word || s = capital word || s = word.toUpper

/-- Whether a character is a decimal digit. -/
def isDecimal (c : Char) : Bool := '0' ≤ c && c ≤ '9'

/-- Whether a character is a decimal digit or an underscore. -/
def isDecimalOrLine (c : Char) : Bool := isDecimal c || c = '_'

/-- What follows an optional sign. -/
def unsigned : List Char → List Char
  | '-' :: cs => cs
  | '+' :: cs => cs
  | cs => cs

/-- Whether a text is one or more characters that satisfy `p`. -/
def allOf (p : Char → Bool) (cs : List Char) : Bool := !cs.isEmpty && cs.all p

/-- Whether a text is a group of base sixty: one digit, or two of which the first is below six. -/
def isSixtieth : List Char → Bool
  | [c] => isDecimal c
  | [c, d] => '0' ≤ c && c ≤ '5' && isDecimal d
  | _ => false

/-- Whether a text has the form of an integer. -/
def isInteger (cs : List Char) : Bool :=
  match unsigned cs with
  | '0' :: 'b' :: rest => allOf (fun c => c = '0' || c = '1' || c = '_') rest
  | '0' :: 'x' :: rest => allOf (fun c => (Json.hexValue? c).isSome || c = '_') rest
  | ['0'] => true
  | '0' :: rest => allOf (fun c => ('0' ≤ c && c ≤ '7') || c = '_') rest
  | c :: rest =>
    isDecimal c &&
      match pieces ':' rest with
      | first :: groups => first.all isDecimalOrLine && groups.all isSixtieth
      | [] => false
  | [] => false

/-- Whether a text is an exponent, which must have a sign, or empty. -/
def isExponent : List Char → Bool
  | [] => true
  | e :: sign :: digits =>
    (e = 'e' || e = 'E') && (sign = '-' || sign = '+') && allOf isDecimal digits
  | _ => false

/-- Whether a text is a fraction in groups of base sixty. -/
def isSixtiethFraction (cs : List Char) : Bool :=
  match splitOnce? ['.'] cs with
  | none => false
  | some (whole, places) =>
    places.all isDecimalOrLine &&
      match pieces ':' whole with
      | first :: groups =>
        !groups.isEmpty && (first.head?.map isDecimal).getD false && first.all isDecimalOrLine &&
          groups.all isSixtieth
      | [] => false

/-- Whether a text has the form of a fraction: one with a point, infinity, or not-a-number. Only a
fraction with digits before the point has a sign. -/
def isFraction (cs : List Char) : Bool :=
  let body := unsigned cs
  let afterPoint (rest : List Char) : Bool := isExponent (rest.dropWhile isDecimalOrLine)
  (match body with
    | c :: rest =>
      isDecimal c &&
        match rest.dropWhile isDecimalOrLine with
        | '.' :: rest => afterPoint rest
        | _ => false
    | [] => false) ||
  (match cs with
    | '.' :: c :: rest => isDecimal c && afterPoint rest
    | _ => false) ||
  isSixtiethFraction body ||
  [".inf", ".Inf", ".INF"].any (·.toList = body) || [".nan", ".NaN", ".NAN"].any (·.toList = cs)

/-- The kind of a plain scalar. -/
def kindOfPlain (text : String) : Kind :=
  let cs := text.toList
  if nullWords.contains text then .null
  else if isBoolWord text then .bool
  else if isFraction cs then .float
  else if isInteger cs then .int
  else if Timestamp.isForm text then .timestamp
  else if text = "<<" then .merge
  else if text = "=" then .value
  else .str

/-- The number that digits of a base spell, unless there are none or others among them. -/
def ofBase? (base : Nat) (cs : List Char) : Option Nat :=
  if cs.isEmpty then none
  else cs.foldl (fun n? c => n?.bind fun n =>
    (Json.hexValue? c).bind fun d => if d < base then some (n * base + d) else none) (some 0)

/-- The integer of a text in a base. -/
def integerOfBase (base : Nat) (cs : List Char) : Except TagWeave.Fault Int :=
  match ofBase? base cs with
  | some n => .ok n
  | none => .error (.raised "ValueError"
      ("invalid literal for int() with base " ++ toString base ++ ": " ++ quoted (String.ofList cs)))

/-- The integer of a text in base ten. -/
def decimalInteger (cs : List Char) : Except TagWeave.Fault Int :=
  match Number.readInt (String.ofList cs) with
  | .ok n => .ok n
  | .error .malformed => .error (.notInteger (String.ofList cs))
  | .error (.tooLong digits) => .error (.tooManyDigits digits)

/-- The fraction of a text in base ten. -/
def decimalFraction (cs : List Char) : Except TagWeave.Fault Float :=
  match Number.readFloat? (String.ofList cs) with
  | some x => .ok x
  | none => .error (.notFraction (String.ofList cs))

/-- The number that groups of base sixty spell. -/
def sixtieths {α : Type} [Add α] [Mul α] (zero sixty : α) (read : List Char → Except TagWeave.Fault α)
    (groups : List (List Char)) : Except TagWeave.Fault α :=
  groups.foldlM (fun n group => (read group).map (n * sixty + ·)) zero

/-- Whether a text begins with a minus, and the text without its sign. -/
def signAndBody (cs : List Char) : Bool × List Char := (cs.head? = some '-', unsigned cs)

/-- The integer of a scalar. -/
def readInteger (text : String) : Except TagWeave.Fault Int :=
  let (negative, body) := signAndBody (text.toList.filter (· ≠ '_'))
  let value : Except TagWeave.Fault Int :=
    match body with
    | [] => .error .textIndex
    | ['0'] => .ok 0
    | '0' :: 'b' :: rest => integerOfBase 2 rest
    | '0' :: 'x' :: rest => integerOfBase 16 rest
    | '0' :: _ => integerOfBase 8 body
    | _ => if body.contains ':' then sixtieths 0 60 decimalInteger (pieces ':' body)
      else decimalInteger body
  value.map fun n => if negative then -n else n

/-- The fraction of a scalar. -/
def readFraction (text : String) : Except TagWeave.Fault Float :=
  let (negative, body) := signAndBody ((text.toList.filter (· ≠ '_')).map Char.toLower)
  let value : Except TagWeave.Fault Float :=
    if body.isEmpty then .error .textIndex
    else if body = ".inf".toList then .ok (1.0 / 0.0)
    else if body = ".nan".toList then .ok (0.0 / 0.0)
    else if body.contains ':' then sixtieths 0.0 60.0 decimalFraction (pieces ':' body)
    else decimalFraction body
  value.map fun x => if negative then -x else x

end TagWeave.Yaml
