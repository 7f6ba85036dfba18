import TagWeave.Yaml.Property
import TagWeave.Yaml.Scalar

/-!
# Tokens

A YAML text is read as a list of tokens, among them the starts and ends of the
collections that the indentation implies.

A mapping shows only at the colon after its first key. Until then the place before the
key is pending; the tokens for the key and the mapping are put in there afterwards. A
key has to stay within a line and within 1024 characters. Tokens from a pending place on
are not settled, so they do not count if the text is refused before they are.
-/

namespace TagWeave.Yaml

/-- A token. -/
inductive Token where
  | directive (directive : Directive)
  | documentStart
  | documentEnd
  | textEnd
  | blockSequenceStart
  | blockMappingStart
  | blockEnd
  | flowSequenceStart
  | flowSequenceEnd
  | flowMappingStart
  | flowMappingEnd
  | blockEntry
  | flowEntry
  | key
  | value
  | reference (name : String)
  | anchor (name : String)
  | tag (handle? : Option String) (suffix : String)
  | scalar (text : String) (plain : Bool)
  deriving DecidableEq, Repr

/-- A place where a key may turn out to have begun: the number of tokens before it, whether there
must be a key, and where the place is. -/
structure PendingKey where
  position : Nat
  required : Bool
  index : Nat
  line : Nat
  column : Nat
  deriving Repr

/-- What is known while tokens are read: the rest of the text, the tokens so far, the columns of the
open block collections, the number of open flow collections, whether a key may begin here, and for
each number of open flow collections a pending key. -/
structure Scanner where
  cursor : Cursor
  tokens : List Token := []
  indent : Int := -1
  indents : List Int := []
  depth : Nat := 0
  keyAllowed : Bool := true
  pending : List (Nat × PendingKey) := []
  ended : Bool := false

namespace Scanner

/-- Whether a flow collection is open. -/
def inFlow (s : Scanner) : Bool := s.depth ≠ 0

/-- Adds a token. -/
def emit (s : Scanner) (token : Token) : Scanner := { s with tokens := s.tokens ++ [token] }

/-- Adds a token for so many characters. -/
def emitOver (s : Scanner) (count : Nat) (token : Token) : Scanner :=
  { s.emit token with cursor := s.cursor.skip count }

/-- Sets whether a key may begin here. -/
def allowKey (s : Scanner) (allowed : Bool) : Scanner := { s with keyAllowed := allowed }

/-- Puts a token in at a place. -/
def insert (s : Scanner) (position : Nat) (token : Token) : Scanner :=
  { s with tokens := s.tokens.take position ++ token :: s.tokens.drop position }

/-- Whether a pending key has become impossible. -/
def isStale (s : Scanner) (key : PendingKey) : Bool :=
  key.line ≠ s.cursor.line || 1024 < s.cursor.index - key.index

/-- Gives up the pending keys that have become impossible. -/
def dropStale (s : Scanner) : Except Fault Scanner :=
  if s.pending.any fun (_, key) => key.required && s.isStale key then refuse "key without a colon"
  else .ok { s with pending := s.pending.filter fun (_, key) => !s.isStale key }

/-- The pending key among the open flow collections. -/
def pendingKey? (s : Scanner) : Option PendingKey :=
  (s.pending.find? (·.1 = s.depth)).map (·.2)

/-- Gives up the pending key among the open flow collections. -/
def dropPending (s : Scanner) : Except Fault Scanner :=
  if (s.pendingKey?.map (·.required)).getD false then refuse "key without a colon"
  else .ok { s with pending := s.pending.filter (·.1 ≠ s.depth) }

/-- Notes that a key may begin here, if one is allowed. -/
def savePending (s : Scanner) : Except Fault Scanner :=
  if s.keyAllowed then
    s.dropPending.map fun s =>
      let key : PendingKey :=
        { position := s.tokens.length, required := !s.inFlow && s.indent = s.cursor.column
          index := s.cursor.index, line := s.cursor.line, column := s.cursor.column }
      { s with pending := s.pending ++ [(s.depth, key)] }
  else .ok s

/-- Closes the block collections that are indented further than a column. -/
def unwindWithin : Nat → Scanner → Int → Scanner
  | 0, s, _ => s
  | fuel + 1, s, column =>
    if !s.inFlow && column < s.indent then
      unwindWithin fuel
        { s.emit .blockEnd with indent := s.indents.headD (-1), indents := s.indents.tail } column
    else s

/-- Closes the block collections that are indented further than a column. -/
def unwind (s : Scanner) (column : Int) : Scanner := unwindWithin (s.indents.length + 1) s column

/-- Opens a block collection at a column, if none of that indentation is open. -/
def openBlock (s : Scanner) (column position : Nat) (token : Token) : Scanner :=
  if s.indent < column then
    { s.insert position token with indents := s.indent :: s.indents, indent := column }
  else s

/-- Goes on to the next token. A line end outside flow collections allows a key. -/
def skipBlanks : Nat → Scanner → Scanner
  | 0, s => s
  | fuel + 1, s =>
    let c := s.cursor.skipWhile (· = ' ')
    let c := if c.sees '#' then c.skipWhile (!isBreak ·) else c
    match c.lineBreak? with
    | some (_, c) => skipBlanks fuel { s with cursor := c, keyAllowed := s.keyAllowed || !s.inFlow }
    | none => { s with cursor := c }

/-- Ends the text. -/
def readEnd (s : Scanner) : Except Fault Scanner :=
  (s.unwind (-1)).dropPending.map fun s =>
    { s.emit .textEnd with keyAllowed := false, pending := [], ended := true }

/-- Reads a line that starts or ends a document. -/
def readSeparator (s : Scanner) (token : Token) : Except Fault Scanner :=
  (s.unwind (-1)).dropPending.map fun s => { s.emitOver 3 token with keyAllowed := false }

/-- Reads a directive. -/
def readDirectiveLine (s : Scanner) : Except Fault Scanner := do
  let s ← (s.unwind (-1)).dropPending
  let (directive, c) ← readDirective s.cursor.next
  return { s.emit (.directive directive) with keyAllowed := false, cursor := c }

/-- Reads the opening bracket of a flow collection. -/
def readFlowStart (s : Scanner) (token : Token) : Except Fault Scanner :=
  s.savePending.map fun s => { s.emitOver 1 token with depth := s.depth + 1, keyAllowed := true }

/-- Reads the closing bracket of a flow collection. -/
def readFlowEnd (s : Scanner) (token : Token) : Except Fault Scanner :=
  s.dropPending.map fun s => { s.emitOver 1 token with depth := s.depth - 1, keyAllowed := false }

/-- Reads the comma between the entries of a flow collection. -/
def readFlowEntry (s : Scanner) : Except Fault Scanner :=
  (s.allowKey true).dropPending.map fun s => s.emitOver 1 .flowEntry

/-- Reads the dash before an entry of a block sequence. -/
def readBlockEntry (s : Scanner) : Except Fault Scanner :=
  if !s.inFlow && !s.keyAllowed then refuse "misplaced entry of a sequence"
  else
    let s := if s.inFlow then s else s.openBlock s.cursor.column s.tokens.length .blockSequenceStart
    (s.allowKey true).dropPending.map fun s => s.emitOver 1 .blockEntry

/-- Reads the question mark before a key. -/
def readKey (s : Scanner) : Except Fault Scanner :=
  if !s.inFlow && !s.keyAllowed then refuse "misplaced key"
  else
    let s := if s.inFlow then s else s.openBlock s.cursor.column s.tokens.length .blockMappingStart
    (s.allowKey !s.inFlow).dropPending.map fun s => s.emitOver 1 .key

/-- Reads the colon before a value. It settles a pending key. -/
def readValue (s : Scanner) : Except Fault Scanner :=
  match s.pendingKey? with
  | some key =>
    let s := { s with pending := s.pending.filter (·.1 ≠ s.depth) }
    let s := s.insert key.position .key
    let s := if s.inFlow then s else s.openBlock key.column key.position .blockMappingStart
    .ok { s.emitOver 1 .value with keyAllowed := false }
  | none =>
    if !s.inFlow && !s.keyAllowed then refuse "misplaced value"
    else
      let s := if s.inFlow then s else s.openBlock s.cursor.column s.tokens.length .blockMappingStart
      (s.allowKey !s.inFlow).dropPending.map fun s => s.emitOver 1 .value

/-- Reads a reference to an anchor. -/
def readReference (s : Scanner) : Except Fault Scanner := do
  let s ← s.savePending
  let (name, c) ← readAnchor s.cursor.next
  return { s.emit (.reference name) with keyAllowed := false, cursor := c }

/-- Reads an anchor. -/
def readAnchorToken (s : Scanner) : Except Fault Scanner := do
  let s ← s.savePending
  let (name, c) ← readAnchor s.cursor.next
  return { s.emit (.anchor name) with keyAllowed := false, cursor := c }

/-- Reads a tag. -/
def readTagToken (s : Scanner) : Except Fault Scanner := do
  let s ← s.savePending
  let (handle?, suffix, c) ← readTag s.cursor
  return { s.emit (.tag handle? suffix) with keyAllowed := false, cursor := c }

/-- Reads a block scalar. -/
def readBlockToken (s : Scanner) (folded : Bool) : Except Fault Scanner := do
  let s ← (s.allowKey true).dropPending
  let (text, c) ← readBlock folded s.indent s.cursor.next
  return { s.emit (.scalar (String.ofList text) false) with cursor := c }

/-- Reads a quoted scalar. -/
def readQuotedToken (s : Scanner) (double : Bool) : Except Fault Scanner := do
  let s ← s.savePending
  let (text, c) ← readQuoted double (s.cursor.rest.length + 1) [] s.cursor.next
  return { s.emit (.scalar (String.ofList text) false) with keyAllowed := false, cursor := c }

/-- Reads a plain scalar. A key may follow if a line has ended after it. -/
def readPlainToken (s : Scanner) : Except Fault Scanner :=
  s.savePending.map fun s =>
    let (text, c, ended) :=
      readPlain s.inFlow (s.indent + 1).toNat (s.cursor.rest.length + 1) [] [] s.cursor false
    { s.emit (.scalar (String.ofList text) true) with keyAllowed := ended, cursor := c }

/-- Whether a plain scalar may begin with the next character. -/
def startsPlain (s : Scanner) (x : Char) : Bool :=
  !(isGap x || "-?:,[]\x7b\x7d#&*!|>'\"%@\x60".toList.contains x) ||
    (!s.cursor.gapAfter 1 && (x = '-' || (!s.inFlow && (x = '?' || x = ':'))))

/-- Reads what begins with a character. -/
def readFrom (s : Scanner) (x : Char) : Except Fault Scanner :=
  let atStart := s.cursor.column = 0
  let gapFollows := s.cursor.gapAfter 1
  if x = '%' && atStart then s.readDirectiveLine
  else if x = '-' && atStart && s.cursor.atSeparator then s.readSeparator .documentStart
  else if x = '.' && atStart && s.cursor.atSeparator then s.readSeparator .documentEnd
  else if x = '[' then s.readFlowStart .flowSequenceStart
  else if x = '\x7b' then s.readFlowStart .flowMappingStart
  else if x = ']' then s.readFlowEnd .flowSequenceEnd
  else if x = '\x7d' then s.readFlowEnd .flowMappingEnd
  else if x = ',' then s.readFlowEntry
  else if x = '-' && gapFollows then s.readBlockEntry
  else if x = '?' && (s.inFlow || gapFollows) then s.readKey
  else if x = ':' && (s.inFlow || gapFollows) then s.readValue
  else if x = '*' then s.readReference
  else if x = '&' then s.readAnchorToken
  else if x = '!' then s.readTagToken
  else if x = '|' && !s.inFlow then s.readBlockToken false
  else if x = '>' && !s.inFlow then s.readBlockToken true
  else if x = '\'' then s.readQuotedToken false
  else if x = '"' then s.readQuotedToken true
  else if s.startsPlain x then s.readPlainToken
  else refuse "misplaced character"

/-- Reads the next token, with those that the indentation implies before it. -/
def advance (s : Scanner) : Except Fault Scanner := do
  let s ← (skipBlanks (s.cursor.rest.length + 1) s).dropStale
  let s := s.unwind s.cursor.column
  let s ← match s.cursor.peek? with
    | none => s.readEnd
    | some x => s.readFrom x
  s.dropStale

/-- The tokens that are settled. -/
def settled (s : Scanner) : List Token :=
  match (s.pending.map (·.2.position)).min? with
  | some position => s.tokens.take position
  | none => s.tokens

/-- Reads all tokens, `fuel` bounding their number. -/
def run : Nat → Scanner → List Token × Option Fault
  | 0, s => (s.tokens, none)
  | fuel + 1, s =>
    match s.advance with
    | .error f => (s.settled, some f)
    | .ok s => if s.ended then (s.tokens, none) else run fuel s

end Scanner

/-- The tokens of a text, and why it is refused after them, if so. A byte order mark at its start is
skipped. -/
def tokensOf (text : List Char) : List Token × Option Fault :=
  let start : Cursor := { rest := text }
  Scanner.run (text.length + 2) { cursor := if start.sees '\ufeff' then start.next else start }

end TagWeave.Yaml
