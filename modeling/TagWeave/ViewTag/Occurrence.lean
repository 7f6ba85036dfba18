import TagWeave.Markup.Elements

/-!
# Occurrences of a tag

A tag occurs in one of two forms: paired, an opening and a closing tag with content
between them, or self-closed. Its name is matched in any case and ends at a blank, a
slash or a bracket, so that one name never matches a longer one. The attribute text has
neither slash nor bracket. Content extends to the first closing tag of that name, and
may contain anything.

Paired occurrences are found first and cut out of the text, wherever they stand, before
self-closed ones are looked for.
-/

namespace TagWeave.ViewTag

open TagWeave.Text TagWeave.Markup

/-- An occurrence: the exact piece of text, its attribute text and its content. -/
structure Occurrence where
  needle : List Char
  raw : List Char
  content : List Char
  deriving DecidableEq, Repr

/-- Whether a character ends a tag's name. -/
def endsName (c : Char) : Bool := isBlank c || c = '/' || c = '>'

/-- Whether a character may be part of an attribute text. -/
def isRawChar (c : Char) : Bool := !(c = '/' || c = '>')

/-- The opening of a tag, up to the slash or bracket that ends its attribute text: that text, and
what follows from there on. -/
def opening? (name s : List Char) : Option (List Char × List Char) :=
  match s with
  | '<' :: s =>
    match afterName? name s with
    | some (c :: s) =>
      if endsName c then
        let start := (c :: s).dropWhile isBlank
        some (start.takeWhile isRawChar, start.dropWhile isRawChar)
      else none
    | _ => none
  | _ => none

/-- What follows the closing tag of a name. -/
def closing? (name s : List Char) : Option (List Char) :=
  match s with
  | '<' :: '/' :: s =>
    match afterName? name s with
    | some s =>
      match s.dropWhile isBlank with
      | '>' :: rest => some rest
      | _ => none
    | none => none
  | _ => none

/-- The content up to the first closing tag of a name, and what follows that. -/
def content? (name : List Char) : List Char → Option (List Char × List Char)
  | [] => none
  | c :: s =>
    match closing? name (c :: s) with
    | some rest => some ([], rest)
    | none => (content? name s).map fun (content, rest) => (c :: content, rest)

/-- The beginning of a text of which `rest` is left. -/
def upTo (s rest : List Char) : List Char := s.take (s.length - rest.length)

/-- The paired occurrence at the start of a text, and what follows it. -/
def paired? (name s : List Char) : Option (Occurrence × List Char) :=
  match opening? name s with
  | some (raw, '>' :: s') =>
    match content? name s' with
    | some (content, rest) => some (⟨upTo s rest, raw, content⟩, rest)
    | none => none
  | _ => none

/-- The self-closed occurrence at the start of a text, and what follows it. -/
def selfClosed? (name s : List Char) : Option (Occurrence × List Char) :=
  match opening? name s with
  | some (raw, '/' :: '>' :: rest) => some (⟨upTo s rest, raw, []⟩, rest)
  | _ => none

/-- The occurrences in a text that `find?` recognises, from left to right and without overlap,
`fuel` bounding the number of steps. -/
def scanWithin (find? : List Char → Option (Occurrence × List Char)) :
    Nat → List Char → List Occurrence
  | 0, _ => []
  | _ + 1, [] => []
  | fuel + 1, c :: s =>
    match find? (c :: s) with
    | some (o, rest) => o :: scanWithin find? fuel rest
    | none => scanWithin find? fuel s

/-- The occurrences in a text that `find?` recognises. -/
def scan (find? : List Char → Option (Occurrence × List Char)) (s : List Char) : List Occurrence :=
  scanWithin find? s.length s

/-- A text without the needles of some occurrences, which are cut out one after the other wherever
they stand. -/
def without (occurrences : List Occurrence) (s : List Char) : List Char :=
  occurrences.foldl (fun s o => removeAll o.needle s) s

/-- The occurrences of a tag: the self-closed ones, then the paired ones. -/
def occurrences (name s : List Char) : List Occurrence :=
  let paired := scan (paired? name) s
  scan (selfClosed? name) (without paired s) ++ paired

end TagWeave.ViewTag
