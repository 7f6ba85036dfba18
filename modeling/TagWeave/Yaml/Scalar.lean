import TagWeave.Json.Reader
import TagWeave.Yaml.Cursor

/-!
# Scalars

The three forms of a scalar: between quotes, plain, and as a block of lines. In all of
them line ends are folded: one becomes a space, and of several the first one is dropped.
A literal block keeps its line ends.
-/

namespace TagWeave.Yaml

/-! ### Between quotes -/

/-- What the letter of an escape in double quotes stands for. -/
def escapeOf? (c : Char) : Option Char :=
  ([('0', '\u0000'), ('a', '\u0007'), ('b', '\u0008'), ('t', '\t'), ('\t', '\t'), ('n', '\n'),
    ('v', '\u000b'), ('f', '\u000c'), ('r', '\r'), ('e', '\u001b'), (' ', ' '), ('"', '"'),
    ('\\', '\\'), ('/', '/'), ('N', '\u0085'), ('_', '\u00a0'), ('L', '\u2028'),
    ('P', '\u2029')].find? (·.1 = c)).map (·.2)

/-- The number of digits of a numeric escape. -/
def escapeLength? (c : Char) : Option Nat :=
  if c = 'x' then some 2 else if c = 'u' then some 4 else if c = 'U' then some 8 else none

/-- The number that hexadecimal digits spell. -/
def hexNumber? (cs : List Char) : Option Nat :=
  cs.foldl (fun n? c => n?.bind fun n => (Json.hexValue? c).map (n * 16 + ·)) (some 0)

/-- Empty lines inside a quoted scalar, and the blanks around them. -/
def quotedBreaks : Nat → List Char → Cursor → Except Fault (List Char × Cursor)
  | 0, breaks, c => .ok (breaks, c)
  | fuel + 1, breaks, c =>
    if c.atSeparator then refuse "document separator in a quoted scalar"
    else
      let c := c.skipWhile fun x => x = ' ' || x = '\t'
      match c.lineBreak? with
      | some (x, c) => quotedBreaks fuel (breaks ++ [x]) c
      | none => .ok (breaks, c)

/-- A line end as it counts before some empty lines. -/
def foldedBreak (x : Char) (breaks : List Char) : List Char :=
  if x ≠ '\n' then x :: breaks else if breaks.isEmpty then [' '] else breaks

/-- What an escape in double quotes stands for, after the backslash. -/
def readEscape (c : Cursor) : Except Fault (List Char × Cursor) :=
  match c.peek? with
  | none => refuse "unknown escape"
  | some x =>
    match escapeOf? x, escapeLength? x with
    | some y, _ => .ok ([y], c.next)
    | none, some count =>
      let digits := (c.next.rest.take count)
      match if digits.length = count then hexNumber? digits else none with
      | some n =>
        if n < 0x110000 then .ok ([Text.ofCodePoint n], c.next.skip count)
        else if n < 0x80000000 then .error ⟨.codePoints, "chr() arg not in range(0x110000)"⟩
        else .error ⟨.machineNumbers, "Python int too large to convert to C int"⟩
      | none => refuse "malformed numeric escape"
    | none, none =>
      match c.lineBreak? with
      | some (_, c) => quotedBreaks c.rest.length [] c
      | none => refuse "unknown escape"

/-- Reads a quoted scalar, after the opening quote. -/
def readQuoted (double : Bool) : Nat → List Char → Cursor → Except Fault (List Char × Cursor)
  | 0, _, _ => refuse "unending quoted scalar"
  | fuel + 1, text, c =>
    match c.rest with
    | [] => refuse "end of the text in a quoted scalar"
    | x :: rest =>
      if x = '\'' && !double then
        if rest.head? = some '\'' then readQuoted double fuel (text ++ ['\'']) (c.skip 2)
        else .ok (text, c.next)
      else if x = '"' && double then .ok (text, c.next)
      else if x = '\\' && double then
        match readEscape c.next with
        | .error f => .error f
        | .ok (more, c) => readQuoted double fuel (text ++ more) c
      else if isGap x then
        let (blanks, c) := c.span fun x => x = ' ' || x = '\t'
        if c.rest.isEmpty then refuse "end of the text in a quoted scalar"
        else match c.lineBreak? with
          | none => readQuoted double fuel (text ++ blanks) c
          | some (y, c) =>
            match quotedBreaks c.rest.length [] c with
            | .error f => .error f
            | .ok (breaks, c) => readQuoted double fuel (text ++ foldedBreak y breaks) c
      else readQuoted double fuel (text ++ [x]) c.next

/-! ### Plain scalars -/

/-- Whether a plain scalar ends before a character, given what follows it. In a flow collection its
brackets and commas end scalars too. -/
def endsPlain (flow : Bool) (x : Char) (rest : List Char) : Bool :=
  isGap x ||
    (x = ':' && (rest.head?.map fun y =>
      isGap y || (flow && [',', '[', ']', '\x7b', '\x7d'].contains y)).getD true) ||
    (flow && [',', '?', '[', ']', '\x7b', '\x7d'].contains x)

/-- The beginning of a text that belongs to a plain scalar. -/
def plainRun (flow : Bool) : List Char → List Char
  | [] => []
  | x :: rest => if endsPlain flow x rest then [] else x :: plainRun flow rest

/-- Empty lines after a line of a plain scalar; nothing if documents are separated there. -/
def plainBreaks : Nat → List Char → Cursor → Option (List Char) × Cursor
  | 0, breaks, c => (some breaks, c)
  | fuel + 1, breaks, c =>
    if c.atSeparator then (none, c)
    else
      let c := c.skipWhile (· = ' ')
      match c.lineBreak? with
      | some (x, c) => plainBreaks fuel (breaks ++ [x]) c
      | none => (some breaks, c)

/-- The blanks after a piece of a plain scalar as they count if it goes on, where it might go on, and
whether a line has ended. -/
def plainGap (c : Cursor) : List Char × Cursor × Bool :=
  let (blanks, c) := c.span (· = ' ')
  match c.lineBreak? with
  | none => (blanks, c, false)
  | some (x, c) =>
    match plainBreaks c.rest.length [] c with
    | (some breaks, c) => (foldedBreak x breaks, c, true)
    | (none, c) => ([], c, true)

/-- Reads a plain scalar whose further lines are indented by `indent`. Also tells whether a line has
ended after it. -/
def readPlain (flow : Bool) (indent : Nat) :
    Nat → List Char → List Char → Cursor → Bool → List Char × Cursor × Bool
  | 0, text, _, c, ended => (text, c, ended)
  | fuel + 1, text, gap, c, ended =>
    let run := plainRun flow c.rest
    if c.sees '#' || run.isEmpty then (text, c, ended)
    else
      let text := text ++ gap ++ run
      match plainGap (c.skip run.length) with
      | (gap, c, ended) =>
        if gap.isEmpty || c.sees '#' || (!flow && c.column < indent) then (text, c, ended)
        else readPlain flow indent fuel text gap c ended

/-! ### Blocks -/

/-- What becomes of the line ends at the end of a block. -/
inductive Chomping where
  | strip
  | clip
  | keep
  deriving DecidableEq, Repr

/-- A sign of how to chomp. -/
def chompingOf? (x : Char) : Option Chomping :=
  if x = '+' then some .keep else if x = '-' then some .strip else none

/-- A digit of how far to indent. -/
def indentOf? (x : Char) : Option Nat :=
  if '0' ≤ x ∧ x ≤ '9' then some (x.toNat - 48) else none

/-- Reads the indicators of a block, in either order. -/
def readIndicators (c : Cursor) : Except Fault (Chomping × Option Nat × Cursor) :=
  let (chomping?, c) := match c.peek?.bind chompingOf? with
    | some k => (some k, c.next)
    | none => (none, c)
  let (indent?, c) := match c.peek?.bind indentOf? with
    | some n => (some n, c.next)
    | none => (none, c)
  let (chomping?, c) := match chomping?, indent?, c.peek?.bind chompingOf? with
    | none, some _, some k => (some k, c.next)
    | _, _, _ => (chomping?, c)
  if indent? = some 0 then refuse "indentation of zero"
  else if c.sees '\t' || !c.gapAfter 0 then refuse "unknown block indicator"
  else .ok (chomping?.getD .clip, indent?, c)

/-- Reads the rest of a block's first line, which may hold a comment. -/
def readHeaderEnd (c : Cursor) : Except Fault Cursor :=
  let c := c.skipWhile (· = ' ')
  let c := if c.sees '#' then c.skipWhile (!isBreak ·) else c
  if c.atLineEnd then .ok ((c.lineBreak?.map (·.2)).getD c)
  else refuse "text after the indicators of a block"

/-- The empty lines before a block, and the widest of their indentations. -/
def leadingBreaks : Nat → List Char → Nat → Cursor → List Char × Nat × Cursor
  | 0, breaks, widest, c => (breaks, widest, c)
  | fuel + 1, breaks, widest, c =>
    match c.lineBreak? with
    | some (x, c) => leadingBreaks fuel (breaks ++ [x]) widest c
    | none =>
      if c.sees ' ' then leadingBreaks fuel breaks (max widest c.next.column) c.next
      else (breaks, widest, c)

/-- Goes past spaces as far as a column. -/
def skipIndent (indent : Nat) (c : Cursor) : Cursor :=
  c.skip (min (indent - c.column) (c.rest.takeWhile (· = ' ')).length)

/-- Empty lines inside a block, with the indentation of the line that follows. -/
def blockBreaks (indent : Nat) : Nat → List Char → Cursor → List Char × Cursor
  | 0, breaks, c => (breaks, c)
  | fuel + 1, breaks, c =>
    let c := skipIndent indent c
    match c.lineBreak? with
    | some (x, c) => blockBreaks indent fuel (breaks ++ [x]) c
    | none => (breaks, c)

/-- Reads the lines of a block, after some empty lines. The result is the text without the line ends
at its end, the end of the last line, and the empty lines after it. -/
def blockLines (folded : Bool) (indent : Nat) :
    Nat → List Char → List Char → Cursor → List Char × List Char × List Char × Cursor
  | 0, text, breaks, c => (text, [], breaks, c)
  | fuel + 1, text, breaks, c =>
    if c.column ≠ indent || c.rest.isEmpty then (text, [], breaks, c)
    else
      let flush := !(c.sees ' ' || c.sees '\t')
      let (run, c) := c.span (!isBreak ·)
      let text := text ++ breaks ++ run
      let (lineEnd, c) := match c.lineBreak? with
        | some (x, c) => ([x], c)
        | none => ([], c)
      let (breaks, c) := blockBreaks indent c.rest.length [] c
      if c.column = indent && !c.rest.isEmpty then
        if folded && lineEnd = ['\n'] && flush && !(c.sees ' ' || c.sees '\t') then
          blockLines folded indent fuel (text ++ (if breaks.isEmpty then [' '] else [])) breaks c
        else blockLines folded indent fuel (text ++ lineEnd) breaks c
      else (text, lineEnd, breaks, c)

/-- Reads a block, after its first sign, inside a collection with some indentation. -/
def readBlock (folded : Bool) (outer : Int) (c : Cursor) : Except Fault (List Char × Cursor) := do
  let (chomping, indent?, c) ← readIndicators c
  let c ← readHeaderEnd c
  let least := (max (outer + 1) 1).toNat
  let (indent, breaks, c) := match indent? with
    | some n =>
      let indent := least + n - 1
      let (breaks, c) := blockBreaks indent c.rest.length [] c
      (indent, breaks, c)
    | none =>
      let (breaks, widest, c) := leadingBreaks (c.rest.length + 1) [] 0 c
      (max least widest, breaks, c)
  let (text, lineEnd, breaks, c) := blockLines folded indent (c.rest.length + 1) [] breaks c
  match chomping with
  | .strip => return (text, c)
  | .clip => return (text ++ lineEnd, c)
  | .keep => return (text ++ lineEnd ++ breaks, c)

end TagWeave.Yaml
