import TagWeave.Yaml.Fault

/-!
# Cursors

A place in a text, with the line and the column that it is in. The structure of a YAML
text hangs on columns, and a key has to stay within a line. Two Unicode separators end a
line beside the usual line ends.
-/

namespace TagWeave.Yaml

/-- Whether a character ends a line. -/
def isBreak (c : Char) : Bool :=
  c = '\n' || c = '\r' || c = '\u0085' || c = '\u2028' || c = '\u2029'

/-- Whether a character is a space, a tab or the end of a line. -/
def isGap (c : Char) : Bool := c = ' ' || c = '\t' || isBreak c

/-- Whether a character may occur in a text at all. -/
def isAllowed (c : Char) : Bool :=
  let n := c.toNat
  c = '\t' || c = '\n' || c = '\r' || (0x20 ≤ n && n ≤ 0x7e) || n == 0x85 ||
    (0xa0 ≤ n && n ≤ 0xfffd) || 0x10000 ≤ n

/-- A place in a text: what follows it, and how it is counted. -/
structure Cursor where
  rest : List Char
  index : Nat := 0
  line : Nat := 0
  column : Nat := 0
  deriving Repr

namespace Cursor

/-- The next character. -/
def peek? (c : Cursor) : Option Char := c.rest.head?

/-- Whether the next character is a given one. -/
def sees (c : Cursor) (x : Char) : Bool := c.peek? = some x

/-- Whether a gap or the end of the text follows after so many characters. -/
def gapAfter (c : Cursor) (count : Nat) : Bool := (c.rest[count]?.map isGap).getD true

/-- Whether the line or the text ends here. -/
def atLineEnd (c : Cursor) : Bool := (c.peek?.map isBreak).getD true

/-- Goes past a character. A byte order mark takes no column. -/
def next (c : Cursor) : Cursor :=
  match c.rest with
  | [] => c
  | x :: rest =>
    if isBreak x && !(x = '\r' && rest.head? = some '\n') then
      { rest, index := c.index + 1, line := c.line + 1, column := 0 }
    else
      { rest, index := c.index + 1, line := c.line
        column := if x = '\ufeff' then c.column else c.column + 1 }

/-- Goes past so many characters. -/
def skip (c : Cursor) : Nat → Cursor
  | 0 => c
  | count + 1 => c.next.skip count

/-- The characters up to the first one that does not satisfy `p`, and the place of that one. -/
def span (c : Cursor) (p : Char → Bool) : List Char × Cursor :=
  let taken := c.rest.takeWhile p
  (taken, c.skip taken.length)

/-- Goes past the characters that satisfy `p`. -/
def skipWhile (c : Cursor) (p : Char → Bool) : Cursor := (c.span p).2

/-- Reads the end of a line, if there is one here. The usual line ends are one character. -/
def lineBreak? (c : Cursor) : Option (Char × Cursor) :=
  match c.rest with
  | '\r' :: '\n' :: _ => some ('\n', c.skip 2)
  | x :: _ =>
    if x = '\u2028' || x = '\u2029' then some (x, c.next)
    else if isBreak x then some ('\n', c.next)
    else none
  | [] => none

/-- Whether a line of three dashes or three dots, which separates documents, begins here. -/
def atSeparator (c : Cursor) : Bool :=
  (c.rest.take 3 = ['-', '-', '-'] || c.rest.take 3 = ['.', '.', '.']) && c.gapAfter 3

end Cursor

/-- A refusal of the stage that reads tokens. -/
def refuse {α : Type} (reason : String) : Except Fault α := .error ⟨.tokens, reason⟩

end TagWeave.Yaml
