import TagWeave.Text.Quoted

/-!
# Texts in JSON

A text stands between double quotes. The quote, the backslash and control characters
are escaped; the plain form keeps every other character, the ASCII form escapes all
that is not printable ASCII, in pairs of UTF-16 units where one unit does not suffice.
-/

namespace TagWeave.Json

open TagWeave.Text

/-- An escape by the number of a UTF-16 unit. -/
def unitEscape (n : Nat) : List Char := '\\' :: 'u' :: hexDigits 4 n

/-- A character between quotes, other characters than ASCII kept. -/
def escaped (c : Char) : List Char :=
  if c = '"' then ['\\', '"']
  else if c = '\\' then ['\\', '\\']
  else if c = '\n' then ['\\', 'n']
  else if c = '\r' then ['\\', 'r']
  else if c = '\t' then ['\\', 't']
  else if c = Char.ofNat 8 then ['\\', 'b']
  else if c = Char.ofNat 12 then ['\\', 'f']
  else if c.toNat < 0x20 then unitEscape c.toNat
  else [c]

/-- A character between quotes, in printable ASCII. -/
def escapedAscii (c : Char) : List Char :=
  let n := codePoint c
  if n < 0x7f then escaped c
  else if n < 0x10000 then unitEscape n
  else unitEscape (0xd800 + (n - 0x10000) / 0x400) ++ unitEscape (0xdc00 + (n - 0x10000) % 0x400)

/-- A text between quotes, each character written by `escape`. -/
def quotedBy (escape : Char → List Char) (cs : List Char) : List Char :=
  '"' :: cs.flatMap escape ++ ['"']

end TagWeave.Json
