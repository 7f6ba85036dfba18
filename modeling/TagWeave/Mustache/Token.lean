import TagWeave.Error

/-!
# The tokens of a mustache template

A template is a sequence of literal texts and tags. Reading it also counts lines, for
the sake of error messages, and may end in a fault; both are part of the sequence,
since a fault matters only once rendering comes to it. The text of a section can be
written back from its tokens.
-/

namespace TagWeave.Mustache

/-- A literal text or a tag. -/
inductive Token where
  | text (s : List Char)
  | escaped (key : String)
  | plain (key : String)
  | opening (key : String)
  | inverted (key : String)
  | closing (key : String)
  | included (key : String)
  | delimiters (key : String)
  | unknown (key : String)
  deriving DecidableEq, Repr

/-- What is wrong with a template, without the line. -/
inductive Complaint where
  | emptyTag
  | unclosedTag
  | unclosedDelimiters
  | notOpened (key : String)
  | wrongEnd (key opened : String)
  | neverClosed (key : String)
  deriving DecidableEq, Repr

/-- The counters of lines: the current line, and the line of the latest opened section. -/
structure Lines where
  current : Nat := 1
  opened? : Option Nat := none
  deriving DecidableEq, Repr

/-- The fault that a complaint is at some line. -/
def Complaint.fault (lines : Lines) : Complaint → InterpolationFault
  | emptyTag => .mustacheFailed .textIndex
  | unclosedTag => .mustacheSyntax (.unclosedTag lines.current)
  | unclosedDelimiters => .mustacheSyntax (.unclosedDelimiters lines.current)
  | notOpened key => .mustacheSyntax (.notOpened key (lines.current + 1))
  | wrongEnd key opened => .mustacheSyntax (.wrongEnd key opened (lines.current + 1))
  | neverClosed key => .mustacheSyntax (.neverClosed key lines.opened?)

/-- A step in reading a template: a token, line ends that are passed, a section that is opened at
the current line, or a fault, which ends the reading. -/
inductive Step where
  | token (t : Token)
  | lineEnds (count : Nat)
  | sectionOpened
  | fail (complaint : Complaint)
  deriving DecidableEq, Repr

/-- A tag between the default delimiters: its sign, a blank and its key. -/
def tagText (sign : String) (key : String) : List Char :=
  "\x7b\x7b".toList ++ sign.toList ++ ' ' :: key.toList ++ "\x7d\x7d".toList

/-- A token as text. A tag of unknown kind has none. -/
def Token.source? : Token → Option (List Char)
  | text s => some s
  | escaped key => some (tagText "" key)
  | plain key => some (tagText "&" (key ++ " "))
  | opening key => some (tagText "#" key)
  | inverted key => some (tagText "^" key)
  | closing key => some (tagText "/" key)
  | included key => some (tagText ">" key)
  | delimiters key => some (tagText "=" key)
  | unknown _ => none

end TagWeave.Mustache
