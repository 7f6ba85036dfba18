import TagWeave.Fault
import TagWeave.Text.Surrogate

/-!
# Reading JSON

A reader of the whole grammar, with the words for infinities and not-a-number. A
number without a fraction or an exponent is an integer. Of two entries with the
same key the later one sets the value. Reading takes a measure of the text that is
left, which only shrinks.
-/

namespace TagWeave.Json

/-- Skips the white space of JSON. -/
def skipSpace (cs : List Char) : List Char :=
  cs.dropWhile fun c => c = ' ' || c = '\t' || c = '\n' || c = '\r'

/-- The value of a hexadecimal digit in any case. -/
def hexValue? (c : Char) : Option Nat :=
  if '0' ≤ c ∧ c ≤ '9' then some (c.toNat - 48)
  else if 'a' ≤ c ∧ c ≤ 'f' then some (c.toNat - 87)
  else if 'A' ≤ c ∧ c ≤ 'F' then some (c.toNat - 55)
  else none

/-- Reads four hexadecimal digits. -/
def readUnit : List Char → Option (Nat × List Char)
  | a :: b :: c :: d :: rest =>
    match hexValue? a, hexValue? b, hexValue? c, hexValue? d with
    | some a, some b, some c, some d => some (((a * 16 + b) * 16 + c) * 16 + d, rest)
    | _, _, _, _ => none
  | _ => none

/-- Reads the rest of an escape by number. The second half of a pair is joined to the first; half
a pair stands alone. -/
def readNumbered (cs : List Char) : Option (Char × List Char) :=
  match readUnit cs with
  | none => none
  | some (high, rest) =>
    let single := Text.ofCodePoint high
    if 0xd800 ≤ high ∧ high < 0xdc00 then
      match rest with
      | '\\' :: 'u' :: rest' =>
        match readUnit rest' with
        | none => none
        | some (low, rest'') =>
          if 0xdc00 ≤ low ∧ low < 0xe000 then
            some (Char.ofNat (0x10000 + (high - 0xd800) * 0x400 + (low - 0xdc00)), rest'')
          else some (single, rest)
      | _ => some (single, rest)
    else some (single, rest)

/-- The character of a short escape. -/
def shortEscape? : Char → Option Char
  | '"' => some '"'
  | '\\' => some '\\'
  | '/' => some '/'
  | 'b' => some (Char.ofNat 8)
  | 'f' => some (Char.ofNat 12)
  | 'n' => some '\n'
  | 'r' => some '\r'
  | 't' => some '\t'
  | _ => none

/-- Reads a text after its opening quote. -/
def readText : Nat → List Char → Option (List Char × List Char)
  | 0, _ => none
  | _ + 1, [] => none
  | _ + 1, '"' :: rest => some ([], rest)
  | fuel + 1, '\\' :: 'u' :: rest =>
    match readNumbered rest with
    | none => none
    | some (c, rest) => (readText fuel rest).map fun (cs, rest) => (c :: cs, rest)
  | fuel + 1, '\\' :: e :: rest =>
    match shortEscape? e with
    | none => none
    | some c => (readText fuel rest).map fun (cs, rest) => (c :: cs, rest)
  | fuel + 1, c :: rest =>
    if c.toNat < 0x20 then none
    else if c = '\\' then none
    else (readText fuel rest).map fun (cs, rest) => (c :: cs, rest)

/-- Splits off the leading ASCII digits. -/
def spanDigits (cs : List Char) : List Char × List Char :=
  (cs.takeWhile fun c => '0' ≤ c && c ≤ '9', cs.dropWhile fun c => '0' ≤ c && c ≤ '9')

/-- Splits off a fraction: a point and digits. -/
def spanFraction : List Char → List Char × List Char
  | '.' :: rest =>
    match spanDigits rest with
    | ([], _) => ([], '.' :: rest)
    | (ds, rest) => ('.' :: ds, rest)
  | cs => ([], cs)

/-- Splits off an exponent: a letter, an optional sign and digits. -/
def spanExponent (cs : List Char) : List Char × List Char :=
  match cs with
  | e :: rest =>
    if e = 'e' || e = 'E' then
      let (sign, rest) := match rest with
        | '+' :: rest => (['+'], rest)
        | '-' :: rest => (['-'], rest)
        | rest => ([], rest)
      match spanDigits rest with
      | ([], _) => ([], cs)
      | (ds, rest) => (e :: sign ++ ds, rest)
    else ([], cs)
  | [] => ([], [])

/-- Reads a number. -/
def readNumber (cs : List Char) : Option (Value × List Char) :=
  let (sign, body) := match cs with
    | '-' :: rest => (['-'], rest)
    | rest => ([], rest)
  let (whole, rest) := match body with
    | '0' :: rest => (['0'], rest)
    | rest => spanDigits rest
  if whole.isEmpty then none
  else
    let (fraction, rest) := spanFraction rest
    let (exponent, rest) := spanExponent rest
    if fraction.isEmpty && exponent.isEmpty then
      match Number.readInt (String.ofList (sign ++ whole)) with
      | .ok n => some (.int n, rest)
      | .error _ => none
    else
      (Number.readFloat? (String.ofList (sign ++ whole ++ fraction ++ exponent))).map
        fun x => (.float x, rest)

/-- The values that are written as words. -/
def words : List (List Char × Value) :=
  [("null".toList, .null), ("true".toList, .bool true), ("false".toList, .bool false),
    ("NaN".toList, .float (0.0 / 0.0)), ("Infinity".toList, .float (1.0 / 0.0)),
    ("-Infinity".toList, .float (-1.0 / 0.0))]

/-- Reads one of the words. -/
def readWord (cs : List Char) : Option (Value × List Char) :=
  words.findSome? fun (word, value) => (word.isPrefixOf? cs).map fun rest => (value, rest)

mutual

/-- Reads a value at the start of a text. -/
def readValue : Nat → List Char → Option (Value × List Char)
  | 0, _ => none
  | fuel + 1, '"' :: rest => (readText fuel rest).map fun (cs, rest) => (.str (String.ofList cs), rest)
  | fuel + 1, '[' :: rest =>
    match skipSpace rest with
    | ']' :: rest => some (.list [], rest)
    | rest => (readItems fuel rest).map fun (items, rest) => (.list items, rest)
  | fuel + 1, '\x7b' :: rest =>
    match skipSpace rest with
    | '\x7d' :: rest => some (.dict [], rest)
    | rest => (readEntries fuel rest).map fun (entries, rest) => (.dict (Entries.ofList entries), rest)
  | _ + 1, cs =>
    match readWord cs with
    | some result => some result
    | none => readNumber cs

/-- Reads the items of a list up to its bracket. -/
def readItems : Nat → List Char → Option (List Value × List Char)
  | 0, _ => none
  | fuel + 1, cs =>
    match readValue fuel cs with
    | none => none
    | some (item, rest) =>
      match skipSpace rest with
      | ']' :: rest => some ([item], rest)
      | ',' :: rest =>
        (readItems fuel (skipSpace rest)).map fun (items, rest) => (item :: items, rest)
      | _ => none

/-- Reads the entries of a mapping up to its brace. -/
def readEntries : Nat → List Char → Option (List (Key × Value) × List Char)
  | 0, _ => none
  | fuel + 1, '"' :: rest =>
    match readText fuel rest with
    | none => none
    | some (name, rest) =>
      match skipSpace rest with
      | ':' :: rest =>
        match readValue fuel (skipSpace rest) with
        | none => none
        | some (value, rest) =>
          let entry : Key × Value := (.str (String.ofList name), value)
          match skipSpace rest with
          | '\x7d' :: rest => some ([entry], rest)
          | ',' :: rest =>
            (readEntries fuel (skipSpace rest)).map fun (entries, rest) => (entry :: entries, rest)
          | _ => none
      | _ => none
  | _ + 1, _ => none

end

/-- Reads a text that is one value, with white space around it. -/
def read? (s : String) : Option Value :=
  let cs := skipSpace s.toList
  match readValue (2 * cs.length + 2) cs with
  | some (value, rest) => if (skipSpace rest).isEmpty then some value else none
  | none => none

/-- A reader of JSON: a text is a value, or is none, or cannot be read for another reason. -/
abbrev Reader := String → Except Fault (Option Value)

/-- The library's own reader. -/
def reader : Reader := fun s => .ok (read? s)

end TagWeave.Json
