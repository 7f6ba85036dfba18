import TagWeave.Markup.Fault
import TagWeave.Markup.Reference
import TagWeave.Text.Blank
import TagWeave.Text.Case

/-!
# Start tags

Reading the start tag of an element is tolerant: it never fails within the text, it
only ends early. An attribute's name ends at a blank, a slash, an equals sign or the
end of the tag, and it has to follow a blank, a slash or a quote. A value is quoted, or
bare up to the next blank. Where a quote is not closed the value is taken to be empty,
if blanks precede the quote; else it begins at the last of several equals signs; else
there is none, and the equals sign begins a name of its own.
-/

namespace TagWeave.Markup

open TagWeave.Text

/-- An attribute as written. -/
structure RawAttribute where
  name : List Char
  value? : Option (List Char)
  deriving DecidableEq, Repr

/-- An element's name and attributes, the name and the keys in lower case and the references in
the values resolved. -/
structure Element where
  name : String
  attributes : List (String × Option String)
  deriving DecidableEq, Repr

/-- Whether a character may begin a tag's name. -/
def isLetter (c : Char) : Bool := ('a' ≤ c && c ≤ 'z') || ('A' ≤ c && c ≤ 'Z')

/-- Whether a character may be part of a tag's name. -/
def isTagChar (c : Char) : Bool :=
  !(c = '\t' || c = '\n' || c = '\r' || c = Char.ofNat 12 || c = ' ' || c = '/' || c = '>' ||
    c = Char.ofNat 0)

/-- Whether a character may begin an attribute's name. -/
def isKeyStart (c : Char) : Bool := !(isBlank c || c = '/' || c = '>')

/-- Whether a character may continue an attribute's name. -/
def isKeyChar (c : Char) : Bool := !(isBlank c || c = '/' || c = '=' || c = '>')

/-- Whether a character may be part of a bare value. -/
def isBareChar (c : Char) : Bool := !(isBlank c || c = '>')

/-- Whether an attribute's name may follow the character. -/
def mayPrecedeKey (c : Char) : Bool := c = '\'' || c = '"' || c = '/' || isBlank c

/-- Skips blanks and slashes, but no slash that ends the tag. -/
def skipGap : List Char → List Char
  | [] => []
  | '/' :: '>' :: s => '/' :: '>' :: s
  | c :: s => if isBlank c || c = '/' then skipGap s else c :: s

/-- A value between quotes, after the opening quote, and what follows the closing one. -/
def quotedValue? (quote : Char) (s : List Char) : Option (List Char × List Char) :=
  match s.dropWhile (· ≠ quote) with
  | _ :: rest => some (s.takeWhile (· ≠ quote), rest)
  | [] => none

/-- A bare value and what follows it. -/
def bareValue (s : List Char) : List Char × List Char :=
  (s.takeWhile isBareChar, s.dropWhile isBareChar)

/-- A value that begins with a quote which is not closed, after `signs` equals signs and
`blanks`. -/
def unclosedValue? (signs blanks s : List Char) : Option (List Char × List Char) :=
  match blanks.getLast? with
  | some blank => some ([], blank :: s)
  | none => if 2 ≤ signs.length then some (bareValue ('=' :: s)) else none

/-- The value after an attribute's name, and what follows it. -/
def value? (s : List Char) : Option (List Char × List Char) :=
  let afterName := s.dropWhile isBlank
  let signs := afterName.takeWhile (· = '=')
  let afterSigns := afterName.dropWhile (· = '=')
  let blanks := afterSigns.takeWhile isBlank
  let start := afterSigns.dropWhile isBlank
  if signs.isEmpty then none
  else match start with
    | '\'' :: rest =>
      match quotedValue? '\'' rest with
      | some found => some found
      | none => unclosedValue? signs blanks start
    | '"' :: rest =>
      match quotedValue? '"' rest with
      | some found => some found
      | none => unclosedValue? signs blanks start
    | _ => some (bareValue start)

/-- The attribute at the start of a text that the character `before` precedes, and what follows it
and the gap after it. -/
def rawAttribute? (before : Char) : List Char → Option (RawAttribute × List Char)
  | [] => none
  | c :: s =>
    if mayPrecedeKey before && isKeyStart c then
      let name := c :: s.takeWhile isKeyChar
      let rest := s.dropWhile isKeyChar
      match value? rest with
      | some (value, rest) => some (⟨name, some value⟩, skipGap rest)
      | none => some (⟨name, none⟩, skipGap rest)
    else none

/-- The last character of what was read when `rest` is left of a text. -/
def lastRead (before : Char) (s rest : List Char) : Char :=
  ((s.take (s.length - rest.length)).getLast?).getD before

/-- The attributes at the start of a text, at most `fuel` of them, and what follows. -/
def rawAttributes : Nat → Char → List Char → List RawAttribute × List Char
  | 0, _, s => ([], s)
  | fuel + 1, before, s =>
    match rawAttribute? before s with
    | none => ([], s)
    | some (a, rest) =>
      let (as, rest') := rawAttributes fuel (lastRead before s rest) rest
      (a :: as, rest')

/-- The name and value of an attribute that was read. -/
def RawAttribute.resolve (a : RawAttribute) : Except ReadFault (String × Option String) :=
  let key := String.ofList (lowerChars a.name)
  match a.value? with
  | none => .ok (key, none)
  | some value =>
    match resolveReferences value with
    | .ok text => .ok (key, some (String.ofList text))
    | .error digits => .error (.longReference digits)

/-- Resolves attributes in order. -/
def resolveAll : List RawAttribute → Except ReadFault (List (String × Option String))
  | [] => .ok []
  | a :: as =>
    match a.resolve with
    | .error e => .error e
    | .ok pair => (resolveAll as).map (pair :: ·)

/-- What a text that looks like a start tag turns out to be. -/
inductive StartTag where
  | element (name : List Char) (attributes : List RawAttribute) (selfClosed : Bool)
      (rest : List Char)
  | text (attributes : List RawAttribute) (rest : List Char)
  | incomplete
  deriving DecidableEq, Repr

/-- Reads a start tag after its opening bracket. A tag that is followed by neither a bracket nor
what may continue it is text. -/
def readStartTag (s : List Char) : StartTag :=
  let name := s.takeWhile isTagChar
  let afterName := s.dropWhile isTagChar
  let start := skipGap afterName
  let (attributes, rest) :=
    rawAttributes start.length (lastRead (lastRead '<' s afterName) afterName start) start
  match rest with
  | '>' :: after => .element name attributes false after
  | '/' :: '>' :: after => .element name attributes true after
  | [] => .incomplete
  | c :: _ => if isLetter c || c = '=' || c = '/' then .incomplete else .text attributes rest

end TagWeave.Markup
