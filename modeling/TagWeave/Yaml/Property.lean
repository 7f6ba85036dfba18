import TagWeave.Json.Reader
import TagWeave.Text.Utf8
import TagWeave.Yaml.Cursor

/-!
# Anchors, tags and directives

The names that a text gives to nodes and to their kinds, and the directives before a
document, which set the version and the handles of tags.
-/

namespace TagWeave.Yaml

/-- Whether a character may be part of a name. -/
def isNameChar (x : Char) : Bool :=
  ('0' ≤ x && x ≤ '9') || ('A' ≤ x && x ≤ 'Z') || ('a' ≤ x && x ≤ 'z') || x = '-' || x = '_'

/-- Reads the name of an anchor or of a reference to one, after its sign. -/
def readAnchor (c : Cursor) : Except Fault (String × Cursor) :=
  let (name, c) := c.span isNameChar
  if name.isEmpty then refuse "anchor without a name"
  else if c.gapAfter 0 || "?:,]\x7d%@\x60".toList.any c.sees then .ok (String.ofList name, c)
  else refuse "unknown character in an anchor"

/-- Whether a character may be part of a tag as it stands. -/
def isTagChar (x : Char) : Bool :=
  isNameChar x || ";/?:@&=+$,.!~*'()[]".toList.contains x

/-- Reads bytes that are written as a percent sign and two hexadecimal digits each. -/
def readBytes : List Char → Except Fault (List UInt8)
  | '%' :: a :: b :: rest =>
    match Json.hexValue? a, Json.hexValue? b with
    | some x, some y => (readBytes rest).map ((x * 16 + y).toUInt8 :: ·)
    | _, _ => refuse "malformed escape in a tag"
  | '%' :: _ => refuse "malformed escape in a tag"
  | _ => .ok []

/-- Reads the end of a tag, in which characters may be written as bytes. -/
def readTagEnd : Nat → List Char → Cursor → Except Fault (List Char × Cursor)
  | 0, text, c => .ok (text, c)
  | fuel + 1, text, c =>
    let (run, c) := c.span isTagChar
    if c.sees '%' then
      match readBytes c.rest with
      | .error f => .error f
      | .ok bytes =>
        match Text.decode .utf8 bytes with
        | .error _ => refuse "malformed escape in a tag"
        | .ok cs => readTagEnd fuel (text ++ run ++ cs) (c.skip (3 * bytes.length))
    else if (text ++ run).isEmpty then refuse "empty tag"
    else .ok (text ++ run, c)

/-- Reads the handle of a tag: a name between exclamation marks, or one of them alone. -/
def readHandle (c : Cursor) : Except Fault (String × Cursor) :=
  if !c.sees '!' then refuse "tag handle without an exclamation mark"
  else
    let (name, after) := c.next.span isNameChar
    if after.sees '!' then .ok (String.ofList ('!' :: name ++ ['!']), after.next)
    else if name.isEmpty && c.next.sees ' ' then .ok ("!", c.next)
    else refuse "unending tag handle"

/-- Reads a tag: its handle, unless it is given in full, and the rest. -/
def readTag (c : Cursor) : Except Fault (Option String × String × Cursor) := do
  let (handle?, suffix, c) ←
    if c.next.sees '<' then do
      let (suffix, c) ← readTagEnd (c.rest.length + 1) [] (c.skip 2)
      if !c.sees '>' then refuse "unending tag"
      else pure (none, suffix, c.next)
    else if c.gapAfter 1 then pure (none, ['!'], c.next)
    else do
      let word := (c.next.rest.takeWhile fun x => x ≠ ' ' && !isBreak x)
      let (handle, c) ← if word.contains '!' then readHandle c else pure ("!", c.next)
      let (suffix, c) ← readTagEnd (c.rest.length + 1) [] c
      pure (some handle, suffix, c)
  if c.gapAfter 0 && !c.sees '\t' then return (handle?, String.ofList suffix, c)
  else refuse "text after a tag"

/-- What a directive says. -/
inductive Directive where
  | version (major : Nat)
  | handle (name meaning : String)
  | unknown
  deriving DecidableEq, Repr

/-- Reads a number of a version. -/
def readVersionNumber (c : Cursor) : Except Fault (Nat × Cursor) :=
  let (digits, c) := c.span fun x => '0' ≤ x && x ≤ '9'
  if digits.isEmpty then refuse "version without a number"
  else .ok (digits.foldl (fun n x => n * 10 + (x.toNat - 48)) 0, c)

/-- Reads what follows the name of a version directive. -/
def readVersion (c : Cursor) : Except Fault (Directive × Cursor) := do
  let (major, c) ← readVersionNumber (c.skipWhile (· = ' '))
  if !c.sees '.' then refuse "version of one number"
  else
    let (_, c) ← readVersionNumber c.next
    if c.gapAfter 0 && !c.sees '\t' then return (.version major, c)
    else refuse "text after a version"

/-- Reads what follows the name of a handle directive. -/
def readHandleMeaning (c : Cursor) : Except Fault (Directive × Cursor) := do
  let (handle, c) ← readHandle (c.skipWhile (· = ' '))
  if !c.sees ' ' then refuse "handle without a meaning"
  else
    let c := c.skipWhile (· = ' ')
    let (meaning, c) ← readTagEnd (c.rest.length + 1) [] c
    if c.gapAfter 0 && !c.sees '\t' then return (.handle handle (String.ofList meaning), c)
    else refuse "text after the meaning of a handle"

/-- Reads a directive, after its sign, to the end of its line. -/
def readDirective (c : Cursor) : Except Fault (Directive × Cursor) := do
  let (name, c) := c.span isNameChar
  if name.isEmpty then refuse "directive without a name"
  else if !(c.gapAfter 0 && !c.sees '\t') then refuse "unknown character in a directive"
  else
    let (directive, c) ←
      if name = "YAML".toList then readVersion c
      else if name = "TAG".toList then readHandleMeaning c
      else pure (.unknown, c.skipWhile (!isBreak ·))
    let c := c.skipWhile (· = ' ')
    let c := if c.sees '#' then c.skipWhile (!isBreak ·) else c
    if c.atLineEnd then return (directive, (c.lineBreak?.map (·.2)).getD c)
    else refuse "text after a directive"

end TagWeave.Yaml
