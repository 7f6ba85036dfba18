import TagWeave.Mustache.Token
import TagWeave.Text.Blank
import TagWeave.Text.Split

/-!
# Reading mustache templates

A template is split at its delimiters, which a tag may change. The first character of
a tag tells its kind, and the rest, trimmed, is its key. A tag that stands alone on a
line, variables apart, takes the line with it: the blanks before it (which an included
template keeps, as they indent it) and everything up to the line end.
-/

namespace TagWeave.Mustache

open TagWeave.Text

/-- The parts of a text around the first occurrence of a delimiter. There is none of an empty
one. -/
def splitAt? (delimiter s : List Char) : Option (List Char × List Char) :=
  if delimiter.isEmpty then none else splitOnce? delimiter s

/-- The part of a text after its last line end. -/
def lastLine (s : List Char) : List Char := (s.reverse.takeWhile (· ≠ '\n')).reverse

/-- The part of a text before its first line end. -/
def firstLine (s : List Char) : List Char := s.takeWhile (· ≠ '\n')

/-- What follows the first line end of a text, or the whole text. -/
def afterLine (s : List Char) : List Char :=
  match s.dropWhile (· ≠ '\n') with
  | _ :: rest => rest
  | [] => s

/-- Removes the spaces at the end of a text. -/
def dropTrailingSpaces (s : List Char) : List Char := trimRightBy (· = ' ') s

/-- A tag as read: a comment, or a token and what follows it. -/
inductive Tag where
  | comment
  | token (t : Token)
  deriving DecidableEq, Repr

/-- Whether a tag may stand alone on a line. -/
def Tag.mayStandAlone : Tag → Bool
  | .token (.escaped _) | .token (.plain _) => false
  | _ => true

/-- The delimiters in force. -/
structure Delimiters where
  left : List Char := ['\x7b', '\x7b']
  right : List Char := ['\x7d', '\x7d']
  deriving DecidableEq, Repr

/-- The delimiters that a tag sets: the first and the last of the pieces between single blanks. -/
def Delimiters.ofKey (key : List Char) : Delimiters :=
  let ps := pieces ' ' key
  ⟨ps.headD [], ps.getLastD []⟩

/-- Reads the inside of a tag, given what follows the tag: the tag, and what follows it. A tag in
three braces ends in a third one. -/
def readTag (delimiters : Delimiters) (inside rest : List Char) :
    Except Complaint (Tag × List Char) :=
  let key (s : List Char) : String := String.ofList (trim s)
  match inside with
  | [] => .error .emptyTag
  | '!' :: _ => .ok (.comment, rest)
  | '#' :: s => .ok (.token (.opening (key s)), rest)
  | '^' :: s => .ok (.token (.inverted (key s)), rest)
  | '/' :: s => .ok (.token (.closing (key s)), rest)
  | '>' :: s => .ok (.token (.included (key s)), rest)
  | '&' :: s => .ok (.token (.plain (key s)), rest)
  | '=' :: s =>
    if s.getLast? = some '=' then .ok (.token (.delimiters (key s.dropLast)), rest)
    else .error .unclosedDelimiters
  | '\x7b' :: s =>
    match rest with
    | '\x7d' :: rest' =>
      if delimiters = {} then .ok (.token (.plain (key s)), rest')
      else .ok (.token (.unknown (key s)), rest)
    | _ => .ok (.token (.unknown (key s)), rest)
  | s => .ok (.token (.escaped (key s)), rest)

/-- The sections that are open after a tag, innermost first. -/
def openAfter (opened : List String) : Tag → Except Complaint (List String)
  | .token (.opening key) | .token (.inverted key) => .ok (key :: opened)
  | .token (.closing key) =>
    match opened with
    | [] => .error (.notOpened key)
    | last :: outer => if key = last then .ok outer else .error (.wrongEnd key last)
  | _ => .ok opened

/-- The delimiters in force after a tag. -/
def delimitersAfter (delimiters : Delimiters) : Tag → Delimiters
  | .token (.delimiters key) => .ofKey key.toList
  | _ => delimiters

/-- The step that notes where a section was opened. -/
def Tag.openedStep : Tag → List Step
  | .token (.opening _) | .token (.inverted _) => [.sectionOpened]
  | _ => []

/-- The end of a template, at which all sections have to be closed. -/
def finish : List String → List Step
  | [] => []
  | key :: _ => [.fail (.neverClosed key)]

/-- Whether the text before a tag lets it stand alone on its line. -/
def standsAtStart (standalone : Bool) (before : List Char) : Bool :=
  (before.contains '\n' || standalone) && (lastLine before).all isBlank

/-- The steps of reading a text and a tag, without the tag's effect on sections. -/
def tagSteps (before : List Char) (tag : Tag) : List Step :=
  (if before.isEmpty then [] else [.token (.text before)]) ++
    match tag with
    | .comment => []
    | .token t => [.token t]

/-- Reads a template, `fuel` bounding the number of tags. `standalone` says whether only blanks
have been read of the current line. -/
def scanFrom : Nat → Bool → List String → Delimiters → List Char → List Step
  | 0, _, _, _, _ => []
  | fuel + 1, standalone, opened, delimiters, s =>
    if s.isEmpty then finish opened
    else match splitAt? delimiters.left s with
      | none => .token (.text s) :: finish opened
      | some (before, []) =>
        .lineEnds (before.count '\n') :: .token (.text before) :: finish opened
      | some (before, rest) =>
        .lineEnds (before.count '\n') ::
          match splitAt? delimiters.right rest with
          | none => [.fail .unclosedTag]
          | some (inside, rest) =>
            match readTag delimiters inside rest with
            | .error complaint => [.fail complaint]
            | .ok (tag, rest) =>
              match openAfter opened tag with
              | .error complaint => [.fail complaint]
              | .ok opened =>
                let alone := standsAtStart standalone before && tag.mayStandAlone &&
                  (firstLine rest).all isBlank
                let keepsBlanks := tag matches .token (.included _)
                let before :=
                  if alone && !keepsBlanks then dropTrailingSpaces before else before
                let rest := if alone then afterLine rest else rest
                tag.openedStep ++ tagSteps before tag ++
                  scanFrom fuel alone opened (delimitersAfter delimiters tag) rest

/-- Reads a template. -/
def scan (s : List Char) : List Step := scanFrom (s.length + 1) true [] {} s

end TagWeave.Mustache
