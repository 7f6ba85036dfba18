/-!
# White space

White space is the Unicode class: the blanks of ASCII, the four information
separators, the next-line control, and the spaces and line separators beyond.
Trimming removes white space, or one given set of characters, from the ends of a
text.
-/

namespace TagWeave.Text

/-- Whether the character is white space. -/
def isBlank (c : Char) : Bool :=
  let n := c.toNat
  if n < 128 then (9 ≤ n && n ≤ 13) || (28 ≤ n && n ≤ 32)
  else n == 0x85 || n == 0xa0 || n == 0x1680 || (0x2000 ≤ n && n ≤ 0x200a) || n == 0x2028 ||
    n == 0x2029 || n == 0x202f || n == 0x205f || n == 0x3000

/-- Removes the leading characters that satisfy `p`. -/
def trimLeftBy (p : Char → Bool) (cs : List Char) : List Char := cs.dropWhile p

/-- Removes the trailing characters that satisfy `p`. -/
def trimRightBy (p : Char → Bool) (cs : List Char) : List Char :=
  (cs.reverse.dropWhile p).reverse

/-- Removes white space from both ends. -/
def trim (cs : List Char) : List Char := trimRightBy isBlank (trimLeftBy isBlank cs)

/-- Whether the text is non-empty and all of it is white space. -/
def allBlank (cs : List Char) : Bool := !cs.isEmpty && cs.all isBlank

end TagWeave.Text
