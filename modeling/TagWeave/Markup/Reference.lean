import TagWeave.Markup.ReferenceTable
import TagWeave.Number.Integer
import TagWeave.Text.Runs

/-!
# Character references

An attribute's value may write a character by its number or by its name. A number
that stands for no character gives the replacement character or nothing; the numbers
of the C1 controls give the characters that an old code page has there. A name is the
longest known one at that place, and text that is no reference stays as it is.
-/

namespace TagWeave.Markup

open TagWeave.Text

/-- A named reference, without the ampersand. -/
structure Name where
  name : List Char
  value : List Char
  deriving DecidableEq, Repr

/-- The characters of a text split at colons. -/
def fields : List Char → List (List Char)
  | [] => [[]]
  | c :: cs =>
    if c = ':' then [] :: fields cs
    else match fields cs with
      | f :: fs => (c :: f) :: fs
      | [] => [[c]]

/-- The words of a text, which blanks and line ends separate. -/
def wordsOf (cs : List Char) : List (List Char) :=
  let step (c : Char) (acc : List (List Char)) : List (List Char) :=
    if c = ' ' || c = '\n' then [] :: acc
    else match acc with
      | w :: ws => (c :: w) :: ws
      | [] => [[c]]
  (cs.foldr step [[]]).filter (· ≠ [])

/-- The names that end in a semicolon, the semicolon included. -/
def closedNames : List Name :=
  (wordsOf referenceData.toList).filterMap fun word =>
    match fields word with
    | name :: points =>
      some ⟨name ++ [';'], points.flatMap fun p => (hexWords (String.ofList p)).map Char.ofNat⟩
    | [] => none

/-- The names that need no semicolon. -/
def bareNames : List Name :=
  let bare := wordsOf bareReferenceData.toList
  closedNames.filterMap fun n =>
    if bare.contains n.name.dropLast then some ⟨n.name.dropLast, n.value⟩ else none

/-- The value of a name. The names of the characters that markup itself uses come first. -/
def named? : List Char → Option (List Char)
  | ['a', 'm', 'p', ';'] => some ['&']
  | ['l', 't', ';'] => some ['<']
  | ['g', 't', ';'] => some ['>']
  | ['q', 'u', 'o', 't', ';'] => some ['"']
  | name =>
    let table := if name.getLast? = some ';' then closedNames else bareNames
    (table.find? (·.name = name)).map (·.value)

/-- The longest known name among the first `length` characters, at least two, and what follows
it. -/
def longestName (cs : List Char) : Nat → Option (List Char × List Char)
  | 0 | 1 => none
  | length + 1 =>
    match named? (cs.take (length + 1)) with
    | some value => some (value, cs.drop (length + 1))
    | none => longestName cs length

/-- Whether a number stands for no character and is dropped. -/
def isDropped (n : Nat) : Bool :=
  (1 ≤ n && n ≤ 8) || n == 0xb || (0xe ≤ n && n ≤ 0x1f) || (0x7f ≤ n && n ≤ 0x9f) ||
    (0xfdd0 ≤ n && n ≤ 0xfdef) || n % 0x10000 == 0xfffe || n % 0x10000 == 0xffff

/-- The code points that the numbers from 0x80 to 0x9f stand for. -/
def pageUpper : List Nat := hexWords
  "20ac 81 201a 192 201e 2026 2020 2021 2c6 2030 160 2039 152 8d 17d 8f
  90 2018 2019 201c 201d 2022 2013 2014 2dc 2122 161 203a 153 9d 17e 178"

/-- The text that a number stands for. -/
def numbered (n : Nat) : List Char :=
  if n = 0 then [Char.ofNat 0xfffd]
  else if 0x80 ≤ n ∧ n ≤ 0x9f then [Char.ofNat (pageUpper.getD (n - 0x80) n)]
  else if (0xd800 ≤ n ∧ n ≤ 0xdfff) ∨ 0x10ffff < n then [Char.ofNat 0xfffd]
  else if isDropped n then []
  else [Char.ofNat n]

/-- The value of a hexadecimal digit in any case. -/
def hexDigitOf? (c : Char) : Option Nat :=
  if '0' ≤ c ∧ c ≤ '9' then some (c.toNat - 48)
  else if 'a' ≤ c ∧ c ≤ 'f' then some (c.toNat - 87)
  else if 'A' ≤ c ∧ c ≤ 'F' then some (c.toNat - 55)
  else none

/-- Drops the semicolon that may end a reference. -/
def dropSemicolon : List Char → List Char
  | ';' :: cs => cs
  | cs => cs

/-- Whether a character may be part of a name. -/
def isNameChar (c : Char) : Bool :=
  !(c = '\t' || c = '\n' || c = Char.ofNat 12 || c = ' ' || c = '<' || c = '&' || c = '#' || c = ';')

/-- What a reference by number is, after the number sign: its text and what follows, or the number
of its digits if they are too many. -/
def numberedReference (cs : List Char) : Except Nat (Option (List Char × List Char)) :=
  let isHex (c : Char) : Bool := (hexDigitOf? c).isSome
  let hex := match cs with
    | 'x' :: rest | 'X' :: rest =>
      if (rest.takeWhile isHex).isEmpty then none else some rest
    | _ => none
  match hex with
  | some rest =>
    let n := (rest.takeWhile isHex).foldl (fun n c => n * 16 + (hexDigitOf? c).getD 0) 0
    .ok (some (numbered n, dropSemicolon (rest.dropWhile isHex)))
  | none =>
    let isDecimal (c : Char) : Bool := '0' ≤ c && c ≤ '9'
    let ds := cs.takeWhile isDecimal
    if ds.isEmpty then .ok none
    else if Number.maxDigits < ds.length then .error ds.length
    else .ok (some (numbered (Number.ofDigits (ds.map fun c => c.toNat - 48)),
      dropSemicolon (cs.dropWhile isDecimal)))

/-- What a reference is, after the ampersand: its text and what follows. A name has at most 32
characters and a semicolon. -/
def reference (cs : List Char) : Except Nat (Option (List Char × List Char)) :=
  match cs with
  | '#' :: rest => numberedReference rest
  | _ =>
    let name := (cs.take 32).takeWhile isNameChar
    if name.isEmpty then .ok none
    else
      let closed := match cs.drop name.length with
        | ';' :: _ => name ++ [';']
        | _ => name
      let rest := cs.drop closed.length
      match named? closed with
      | some value => .ok (some (value, rest))
      | none =>
        match longestName closed (closed.length - 1) with
        | some (value, tail) => .ok (some (value ++ tail, rest))
        | none => .ok (some ('&' :: closed, rest))

/-- Replaces the references in a text, from left to right, `fuel` bounding the number of steps. -/
def resolveWithin : Nat → List Char → Except Nat (List Char)
  | 0, cs => .ok cs
  | _ + 1, [] => .ok []
  | fuel + 1, '&' :: cs =>
    match reference cs with
    | .error digits => .error digits
    | .ok (some (value, rest)) => (resolveWithin fuel rest).map (value ++ ·)
    | .ok none => (resolveWithin fuel cs).map ('&' :: ·)
  | fuel + 1, c :: cs => (resolveWithin fuel cs).map (c :: ·)

/-- Replaces the references in a text. Fails with the number of digits of a reference that has too
many. -/
def resolveReferences (cs : List Char) : Except Nat (List Char) := resolveWithin cs.length cs

end TagWeave.Markup
