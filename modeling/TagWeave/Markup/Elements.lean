import TagWeave.Markup.StartTag
import TagWeave.Text.Split

/-!
# The elements of a text

The elements whose start tags occur in a text, in order. End tags, comments,
declarations and instructions are skipped. What begins like a tag but does not end
is text up to the next bracket. After the start tag of a script or a style sheet
everything is text up to the matching end tag. A marked section whose keyword is
missing or unknown cannot be read.
-/

namespace TagWeave.Markup

open TagWeave.Text

/-- What follows the first character that satisfies `p`. -/
def after? (p : Char → Bool) (s : List Char) : Option (List Char) :=
  match s.dropWhile (!p ·) with
  | _ :: rest => some rest
  | [] => none

/-- What follows the first place where `close` succeeds. -/
def afterFirst? (close : List Char → Option (List Char)) : List Char → Option (List Char)
  | [] => close []
  | c :: s =>
    match close (c :: s) with
    | some rest => some rest
    | none => afterFirst? close s

/-- The end of a comment: two dashes, blanks and a bracket. -/
def commentEnd? : List Char → Option (List Char)
  | '-' :: '-' :: s =>
    match s.dropWhile isBlank with
    | '>' :: rest => some rest
    | _ => none
  | _ => none

/-- The end of a conditional section: a square bracket, blanks and a bracket. -/
def conditionEnd? : List Char → Option (List Char)
  | ']' :: s =>
    match s.dropWhile isBlank with
    | '>' :: rest => some rest
    | _ => none
  | _ => none

/-- The end of a marked section: two square brackets and a bracket, with blanks between. -/
def sectionEnd? : List Char → Option (List Char)
  | ']' :: s => conditionEnd? (s.dropWhile isBlank)
  | _ => none

/-- Whether a character may be part of a section's keyword. -/
def isKeywordChar (c : Char) : Bool :=
  isLetter c || ('0' ≤ c && c ≤ '9') || c = '-' || c = '_' || c = '.'

/-- What follows a marked section, given the text after its opening `<![`. -/
def afterSection (s : List Char) : Except ReadFault (Option (List Char)) :=
  match s with
  | [] => .ok none
  | c :: _ =>
    if isLetter c then
      let word := s.takeWhile isKeywordChar
      let blanks := (s.dropWhile isKeywordChar).takeWhile isBlank
      let keyword := String.ofList (word.map asciiLower)
      if (s.drop (word.length + blanks.length)).isEmpty then .ok none
      else if ["temp", "cdata", "ignore", "include", "rcdata"].contains keyword then
        .ok (afterFirst? sectionEnd? s)
      else if ["if", "else", "endif"].contains keyword then .ok (afterFirst? conditionEnd? s)
      else .error (.unknownKeyword (String.ofList (word ++ blanks)))
    else .error (.noKeyword (String.ofList ("<![".toList ++ s.take 17)))

/-- What follows a declaration or comment, given the text after its opening `<!`. -/
def afterDeclaration (s : List Char) : Except ReadFault (Option (List Char)) :=
  match s with
  | '-' :: '-' :: rest => .ok (afterFirst? commentEnd? rest)
  | '[' :: rest => afterSection rest
  | _ =>
    if (s.take 7).map asciiLower = "doctype".toList then .ok (after? (· = '>') (s.drop 7))
    else .ok (after? (· = '>') s)

/-- Skips a piece of text that begins like a tag and does not end: up to the next bracket, or else
to the next opening one. The text given is what follows the opening bracket. -/
def skipIncomplete (s : List Char) : List Char :=
  match after? (· = '>') s with
  | some rest => rest
  | none =>
    match s.dropWhile (· ≠ '<') with
    | [] => s
    | rest => rest

/-- The elements whose contents are text. -/
def isRawText (name : String) : Bool := name = "script" || name = "style"

/-- The start of a text that spells a name in any case. -/
def afterName? : List Char → List Char → Option (List Char)
  | [], s => some s
  | c :: name, d :: s => if sameLetter c d then afterName? name s else none
  | _ :: _, [] => none

/-- The end tag of an element in any case: the name as written, and what follows. -/
def endTag? (name s : List Char) : Option (List Char × List Char) :=
  match s with
  | '<' :: '/' :: s =>
    let start := s.dropWhile isBlank
    match afterName? name start with
    | none => none
    | some afterName =>
      match afterName.dropWhile isBlank with
      | '>' :: rest => some (start.take name.length, rest)
      | _ => none
  | _ => none

/-- What follows the end tag of an element whose contents are text. An end tag with another than
ASCII letters is text. -/
def afterRawText? (name : List Char) : List Char → Option (List Char)
  | [] => none
  | c :: s =>
    match endTag? name (c :: s) with
    | some (written, rest) =>
      if written.all (·.toNat < 128) then some rest else afterRawText? name s
    | none => afterRawText? name s

/-- The elements of a text, `fuel` bounding the number of steps. -/
def elementsWithin : Nat → List Char → Except ReadFault (List Element)
  | 0, _ => .ok []
  | fuel + 1, s =>
    match s.dropWhile (· ≠ '<') with
    | [] => .ok []
    | _ :: [] => .ok []
    | _ :: c :: s =>
      if isLetter c then
        match readStartTag (c :: s) with
        | .incomplete => elementsWithin fuel (skipIncomplete (c :: s))
        | .text attributes rest =>
          match resolveAll attributes with
          | .error e => .error e
          | .ok _ => elementsWithin fuel rest
        | .element name attributes selfClosed rest =>
          match resolveAll attributes with
          | .error e => .error e
          | .ok attributes =>
            let element : Element := ⟨String.ofList (lowerChars name), attributes⟩
            let next? :=
              if !selfClosed && isRawText element.name then
                afterRawText? element.name.toList rest
              else some rest
            match next? with
            | none => .ok [element]
            | some rest => (elementsWithin fuel rest).map (element :: ·)
      else if c = '/' || c = '?' then
        elementsWithin fuel ((after? (· = '>') s).getD (skipIncomplete (c :: s)))
      else if c = '!' then
        match afterDeclaration s with
        | .error e => .error e
        | .ok (some rest) => elementsWithin fuel rest
        | .ok none => elementsWithin fuel (skipIncomplete (c :: s))
      else elementsWithin fuel (c :: s)

/-- The elements of a text. -/
def elements (s : List Char) : Except ReadFault (List Element) := elementsWithin (s.length + 1) s

end TagWeave.Markup
