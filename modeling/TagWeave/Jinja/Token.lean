import TagWeave.Json.Reader
import TagWeave.Number.Decimal
import TagWeave.Text.Quoted
import TagWeave.Text.Split

/-!
# The tokens of Jinja templates

Between the texts of a template stand outputs, statements and comments, each with
brackets of its own. A minus sign at a bracket removes the white space on that side.
What stands between the brackets of an output or a statement is a sequence of names,
numbers, quoted texts and signs, in which round, square and curly brackets are
balanced; only outside of these does a closing bracket end it.
-/

namespace TagWeave.Jinja

open TagWeave.Text

/-- The tokens of an expression. -/
inductive Token where
  | name (s : String)
  | int (n : Nat)
  | float (x : Float)
  | str (s : String)
  | sign (s : String)
  deriving DecidableEq, Repr

/-- The pieces of a template. -/
inductive Piece where
  | text (s : List Char)
  | output (tokens : List Token)
  | statement (tokens : List Token)
  deriving DecidableEq, Repr

/-- The signs, longer ones first. -/
def signs : List (List Char) :=
  ["//", "**", "==", "!=", ">=", "<=", "+", "-", "/", "*", "%", "~", "[", "]", "(", ")", "\x7b",
    "\x7d", ">", "<", "=", ".", ":", "|", ",", ";"].map (·.toList)

/-- Whether a character may be part of a name. -/
def isNameChar (c : Char) : Bool :=
  c.isAlphanum || c = '_' || (128 ≤ c.toNat && isPrintable c && !isBlank c)

/-- Whether a character may begin a name. -/
def isNameStart (c : Char) : Bool := isNameChar c && !isDigit c

/-- Whether a character is an ASCII digit. -/
def isPlainDigit (c : Char) : Bool := '0' ≤ c && c ≤ '9'

/-- The character of a short escape in a quoted text. -/
def shortEscape? (c : Char) : Option Char :=
  ([('n', '\n'), ('t', '\t'), ('r', '\r'), ('\\', '\\'), ('\'', '\''), ('"', '"'), ('a', '\u0007'),
    ('b', '\u0008'), ('f', '\u000c'), ('v', '\u000b')].find? (·.1 = c)).map (·.2)

/-- The number of digits of an escape by number. -/
def escapeLength? (c : Char) : Option Nat :=
  if c = 'x' then some 2 else if c = 'u' then some 4 else if c = 'U' then some 8 else none

/-- Whether a character is an octal digit. -/
def isOctalDigit (c : Char) : Bool := '0' ≤ c && c ≤ '7'

/-- The number that digits to a base spell. -/
def ofDigitsIn (base : Nat) (digits : List Nat) : Nat := digits.foldl (fun n d => n * base + d) 0

/-- What an escape stands for, given what follows its backslash, and what follows the escape. A
backslash that begins no escape stands for itself. -/
def readEscape? (c : Char) (s : List Char) : Option (List Char × List Char) :=
  match shortEscape? c, escapeLength? c with
  | some d, _ => some ([d], s)
  | none, some count =>
    match (s.take count).mapM Json.hexValue? with
    | none => none
    | some digits =>
      let n := ofDigitsIn 16 digits
      if digits.length = count && n < 0x110000 then some ([ofCodePoint n], s.drop count) else none
  | none, none =>
    if c = '\n' then some ([], s)
    else if c = 'N' then none
    else if isOctalDigit c then
      let digits := c :: (s.take 2).takeWhile isOctalDigit
      some ([Char.ofNat (ofDigitsIn 8 (digits.map fun d => d.toNat - 48))], s.drop (digits.length - 1))
    else if c.toNat < 0x80 then some (['\\', c], s)
    else some ('\\' :: numberedEscape (codePoint c), s)

/-- What a quoted text stands for, `fuel` bounding its length. -/
def unescape? : Nat → List Char → Option (List Char)
  | 0, _ => some []
  | _ + 1, [] => some []
  | fuel + 1, '\\' :: c :: s =>
    (readEscape? c s).bind fun (cs, rest) => (unescape? fuel rest).map (cs ++ ·)
  | fuel + 1, c :: s => (unescape? fuel s).map (c :: ·)

/-- Splits a text at the quote that ends it. -/
def splitQuoted? (quote : Char) : List Char → Option (List Char × List Char)
  | [] => none
  | ['\\'] => none
  | '\\' :: c :: s => (splitQuoted? quote s).map fun (cs, rest) => ('\\' :: c :: cs, rest)
  | c :: s =>
    if c = quote then some ([], s) else (splitQuoted? quote s).map fun (cs, rest) => (c :: cs, rest)

/-- Reads a quoted text after its opening quote. -/
def readQuoted (quote : Char) (s : List Char) : Option (List Char × List Char) :=
  (splitQuoted? quote s).bind fun (body, rest) =>
    (unescape? body.length body).map fun text => (text, rest)

/-- Reads a number that begins with a digit. -/
def readNumber (s : List Char) : Token × List Char :=
  let whole := s.takeWhile isPlainDigit
  let afterWhole := s.dropWhile isPlainDigit
  let (fraction, afterFraction) := match afterWhole with
    | '.' :: c :: rest =>
      if isPlainDigit c then
        ('.' :: (c :: rest).takeWhile isPlainDigit, (c :: rest).dropWhile isPlainDigit)
      else ([], afterWhole)
    | _ => ([], afterWhole)
  let (exponent, afterExponent) := match afterFraction with
    | e :: c :: rest =>
      if (e = 'e' || e = 'E') && isPlainDigit c then
        (e :: (c :: rest).takeWhile isPlainDigit, (c :: rest).dropWhile isPlainDigit)
      else if (e = 'e' || e = 'E') && (c = '+' || c = '-') && (rest.head?.map isPlainDigit).getD false
      then (e :: c :: rest.takeWhile isPlainDigit, rest.dropWhile isPlainDigit)
      else ([], afterFraction)
    | _ => ([], afterFraction)
  if fraction.isEmpty && exponent.isEmpty then
    let ds := match whole with
      | '0' :: _ => whole.takeWhile (· = '0')
      | _ => whole
    (.int (Number.ofDigits (ds.map fun c => c.toNat - 48)), s.drop ds.length)
  else
    (.float ((Number.readFloat? (String.ofList (whole ++ fraction ++ exponent))).getD 0),
      afterExponent)

/-- What follows the closing bracket of an output or a statement. The sign before the bracket is a
minus, which skips white space, or in a statement a plus. -/
def closes? (mark : Char) (s : List Char) : Option (List Char) :=
  match s with
  | '-' :: c :: '\x7d' :: rest => if c = mark then some (rest.dropWhile isBlank) else none
  | '+' :: c :: '\x7d' :: rest => if c = mark && mark ≠ '\x7d' then some rest else none
  | c :: '\x7d' :: rest => if c = mark then some rest else none
  | _ => none

/-- The bracket that closes an opening one. -/
def closerOf? : String → Option String
  | "(" => some ")"
  | "[" => some "]"
  | "\x7b" => some "\x7d"
  | _ => none

/-- Whether a sign is a closing bracket. -/
def isCloser (s : String) : Bool := s = ")" || s = "]" || s = "\x7d"

/-- Reads the tokens up to the closing bracket with the given mark; `expected` are the brackets that
are open inside. -/
def readTokens (mark : Char) : Nat → List String → List Char → Option (List Token × List Char)
  | 0, _, _ => none
  | _ + 1, _, [] => none
  | fuel + 1, expected, c :: s =>
    let rest? := if expected.isEmpty then closes? mark (c :: s) else none
    match rest? with
    | some rest => some ([], rest)
    | none =>
      let more (t : Token) (expected : List String) (rest : List Char) :
          Option (List Token × List Char) :=
        (readTokens mark fuel expected rest).map fun (ts, rest) => (t :: ts, rest)
      if isBlank c then readTokens mark fuel expected s
      else if isPlainDigit c then
        let (t, rest) := readNumber (c :: s)
        more t expected rest
      else if isNameStart c then
        more (.name (String.ofList (c :: s.takeWhile isNameChar))) expected (s.dropWhile isNameChar)
      else if c = '\'' || c = '"' then
        match readQuoted c s with
        | some (text, rest) => more (.str (String.ofList text)) expected rest
        | none => none
      else match signs.findSome? fun sign =>
          (sign.isPrefixOf? (c :: s)).map fun rest => (String.ofList sign, rest) with
        | none => none
        | some (sign, rest) =>
          match closerOf? sign with
          | some closer => more (.sign sign) (closer :: expected) rest
          | none =>
            if isCloser sign then
              match expected with
              | e :: outer => if e = sign then more (.sign sign) outer rest else none
              | [] => none
            else more (.sign sign) expected rest

/-- The kinds of brackets that begin something else than text. -/
inductive Opening where
  | output
  | statement
  | comment
  deriving DecidableEq, Repr

/-- The text before the first opening bracket, and what follows the bracket. -/
def splitOpening : List Char → List Char × Option (Opening × List Char)
  | [] => ([], none)
  | '\x7b' :: '\x7b' :: s => ([], some (.output, s))
  | '\x7b' :: '%' :: s => ([], some (.statement, s))
  | '\x7b' :: '#' :: s => ([], some (.comment, s))
  | c :: s =>
    let (text, found) := splitOpening s
    (c :: text, found)

/-- What follows a comment. -/
def afterComment? : List Char → Option (List Char)
  | [] => none
  | c :: s =>
    match closes? '#' (c :: s) with
    | some rest => some rest
    | none => afterComment? s

/-- A statement that consists of one word: what follows its closing bracket. -/
def afterWord? (word : String) (s : List Char) : Option (List Char) :=
  (word.toList.isPrefixOf? (s.dropWhile isBlank)).bind fun rest =>
    closes? '%' (rest.dropWhile isBlank)

/-- A sign after an opening bracket: whether it is a minus, and what follows. -/
def splitSign (s : List Char) : Bool × List Char :=
  match s with
  | '-' :: rest => (true, rest)
  | '+' :: rest => (false, rest)
  | _ => (false, s)

/-- A text before a bracket, trimmed if the bracket has a minus sign. -/
def trimIf (minus : Bool) (s : List Char) : List Char :=
  if minus then trimRightBy isBlank s else s

/-- The text of a raw section, and what follows its end. -/
def rawSection? : List Char → Option (List Char × List Char)
  | [] => none
  | c :: s =>
    let atEnd? := match c, s with
      | '\x7b', '%' :: rest =>
        let (minus, rest) := splitSign rest
        (afterWord? "endraw" rest).map fun rest => (minus, rest)
      | _, _ => none
    match atEnd? with
    | some (_, rest) => some ([], rest)
    | none => (rawSection? s).map fun (text, rest) => (c :: text, rest)

/-- Whether the end of a raw section, which follows `text`, has a minus sign. -/
def rawEndsTrimmed (text s : List Char) : Bool := (s.drop (text.length + 2)).head? = some '-'

/-- A text as a piece, unless it is empty. -/
def textPiece (s : List Char) : List Piece := if s.isEmpty then [] else [.text s]

/-- The pieces of a template, `fuel` bounding their number. -/
def piecesWithin : Nat → List Char → Option (List Piece)
  | 0, _ => none
  | fuel + 1, s =>
    match splitOpening s with
    | (text, none) => some (textPiece text)
    | (text, some (opening, rest)) =>
      let (minus, rest) := splitSign rest
      let before := textPiece (trimIf minus text)
      let more (piece : List Piece) (rest : List Char) : Option (List Piece) :=
        (piecesWithin fuel rest).map (before ++ piece ++ ·)
      match opening with
      | .comment => (afterComment? rest).bind (more [])
      | .output =>
        (readTokens '\x7d' (rest.length + 1) [] rest).bind fun (tokens, rest) =>
          more [.output tokens] rest
      | .statement =>
        match afterWord? "raw" rest with
        | some body =>
          (rawSection? body).bind fun (text, rest) =>
            more (textPiece (trimIf (rawEndsTrimmed text body) text)) rest
        | none =>
          (readTokens '%' (rest.length + 1) [] rest).bind fun (tokens, rest) =>
            more [.statement tokens] rest

/-- The pieces of a template, unless it is malformed. -/
def readPieces? (template : List Char) : Option (List Piece) :=
  let s := unixLines template
  piecesWithin (s.length + 1) s

/-- The number of digits of the first integer in some pieces that has more than may be read. -/
def longIntegerIn (pieces : List Piece) : Option Nat :=
  let ofToken : Token → Option Nat
    | .int n => if Number.isWritable n then none else some (Number.decimalDigits n).length
    | _ => none
  let ofPiece : Piece → Option Nat
    | .output tokens | .statement tokens => tokens.findSome? ofToken
    | .text _ => none
  pieces.findSome? ofPiece

/-- The number of digits of the first integer in a template that has more than may be read. -/
def longInteger? (template : List Char) : Option Nat :=
  (readPieces? template).bind longIntegerIn

end TagWeave.Jinja
