import TagWeave.Text.CaseTable

/-!
# Letter case

Full case mapping of text: one character may become several (`ß` in upper case is
`SS`), and a capital sigma that ends a word has a lower-case form of its own.
Beside it stands the simple comparison by which tag names are recognised in any
case. Within ASCII both are the familiar mapping.
-/

namespace TagWeave.Text

/-- The lower-case form of an ASCII character. -/
def asciiLower (c : Char) : Char :=
  if 65 ≤ c.toNat ∧ c.toNat ≤ 90 then Char.ofNat (c.toNat + 32) else c

/-- The upper-case form of an ASCII character. -/
def asciiUpper (c : Char) : Char :=
  if 97 ≤ c.toNat ∧ c.toNat ≤ 122 then Char.ofNat (c.toNat - 32) else c

/-- Whether the character is skipped when the neighbours of a sigma are inspected. -/
def isCaseIgnorable (c : Char) : Bool := inRanges caseIgnorableRanges c.toNat

/-- Whether the character is a cased neighbour of a sigma. -/
def isCased (c : Char) : Bool := inRanges casedRanges c.toNat

/-- Whether the nearest character that is not skipped is cased. -/
def nextIsCased (cs : List Char) : Bool :=
  match cs.dropWhile isCaseIgnorable with
  | c :: _ => isCased c
  | [] => false

/-- The lower-case form of a character, given what stands before it (nearest first) and
after it. -/
def lowerChar (before : List Char) (c : Char) (after : List Char) : List Char :=
  if c.toNat < 128 then [asciiLower c]
  else if c.toNat = 0x3a3 then
    if nextIsCased before && !nextIsCased after then [Char.ofNat 0x3c2] else [Char.ofNat 0x3c3]
  else if c.toNat = 0x130 then ['i', Char.ofNat 0x307]
  else match shiftOf? lowerRuns c.toNat with
    | some n => [Char.ofNat n]
    | none => [c]

/-- Lower case of a text whose preceding characters, nearest first, are `before`. -/
def lowerFrom (before : List Char) : List Char → List Char
  | [] => []
  | c :: cs => lowerChar before c cs ++ lowerFrom (c :: before) cs

/-- The lower-case form of a list of characters. -/
def lowerChars (cs : List Char) : List Char := lowerFrom [] cs

/-- The lower-case form of a text. -/
def lower (s : String) : String := String.ofList (lowerChars s.toList)

/-- The upper-case form of a character. -/
def upperChar (c : Char) : List Char :=
  if c.toNat < 128 then [asciiUpper c]
  else match longUpper.find? (·.1 = c.toNat) with
    | some (_, form) => form.map Char.ofNat
    | none => match shiftOf? upperRuns c.toNat with
      | some n => [Char.ofNat n]
      | none => [c]

/-- The upper-case form of a text. -/
def upper (s : String) : String := String.ofList (s.toList.flatMap upperChar)

/-- Whether two characters are the same up to case, the first one being ASCII. Besides the two
ASCII cases, `k` has the Kelvin sign, `s` the long s, and `i` the dotted and the dotless i. -/
def sameLetter (c d : Char) : Bool :=
  asciiLower c == asciiLower d ||
  match asciiLower c with
  | 'k' => d.toNat == 0x212a
  | 's' => d.toNat == 0x17f
  | 'i' => d.toNat == 0x130 || d.toNat == 0x131
  | _ => false

end TagWeave.Text
