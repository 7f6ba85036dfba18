/-!
# Decoding bytes

Text files are decoded by one of four encodings. Decoding UTF-8 fails at the first
byte that starts no well-formed sequence, and the failure names the byte that is to
blame: a byte that cannot start a sequence, a byte after which the continuation is
wrong, or one after which the data ends.
-/

namespace TagWeave.Text

/-- Why bytes are no text. -/
inductive DecodeFault
  | badStart
  | badContinuation
  | unexpectedEnd
  | notAscii
  deriving DecidableEq, Repr

/-- The wording of a fault. -/
def DecodeFault.reason : DecodeFault → String
  | badStart => "invalid start byte"
  | badContinuation => "invalid continuation byte"
  | unexpectedEnd => "unexpected end of data"
  | notAscii => "ordinal not in range(128)"

/-- A fault with its place. A fault that concerns several bytes names their range. -/
structure DecodeError where
  codec : String
  position : Nat
  bytes : List UInt8
  fault : DecodeFault
  deriving DecidableEq, Repr

/-- The encodings of text files. -/
inductive Encoding
  | utf8
  | utf8Signature
  | latin1
  | ascii
  deriving DecidableEq, Repr

/-- Spells an encoding's name the way the table of names does. -/
def Encoding.normalName (name : String) : String :=
  String.ofList <| name.toList.map fun c =>
    if c = '-' || c = ' ' then '_' else if 'A' ≤ c ∧ c ≤ 'Z' then Char.ofNat (c.toNat + 32) else c

/-- The encoding of a name. -/
def Encoding.ofName? (name : String) : Option Encoding :=
  match normalName name with
  | "utf_8" | "utf8" | "u8" | "utf" | "cp65001" => some .utf8
  | "utf_8_sig" | "utf8_sig" => some .utf8Signature
  | "latin_1" | "latin1" | "iso_8859_1" | "iso8859_1" | "8859" | "cp819" | "latin" | "l1" =>
    some .latin1
  | "ascii" | "us_ascii" | "646" => some .ascii
  | _ => none

/-- Whether a byte continues a sequence. -/
def isContinuation (b : UInt8) : Bool := 0x80 ≤ b && b ≤ 0xbf

/-- The bytes that may follow the lead byte `a` of a sequence of three or four. -/
def isSecond (a b : UInt8) : Bool :=
  if a = 0xe0 then 0xa0 ≤ b && b ≤ 0xbf
  else if a = 0xed then 0x80 ≤ b && b ≤ 0x9f
  else if a = 0xf0 then 0x90 ≤ b && b ≤ 0xbf
  else if a = 0xf4 then 0x80 ≤ b && b ≤ 0x8f
  else isContinuation b

/-- The number that a lead byte with `lead` payload bits and its continuation bytes spell. -/
def scalarOf (lead : UInt8) (rest : List UInt8) : Char :=
  Char.ofNat (rest.foldl (fun n b => n * 64 + (b.toNat - 0x80)) lead.toNat)

/-- Decodes the bytes from position `pos` on. -/
def decodeUtf8From (pos : Nat) : List UInt8 → Except DecodeError (List Char)
  | [] => .ok []
  | a :: s =>
    let fail (bytes : List UInt8) (fault : DecodeFault) : Except DecodeError (List Char) :=
      .error ⟨"utf-8", pos, bytes, fault⟩
    if a < 0x80 then (decodeUtf8From (pos + 1) s).map (Char.ofNat a.toNat :: ·)
    else if a < 0xc2 || 0xf4 < a then fail [a] .badStart
    else if a < 0xe0 then
      match s with
      | [] => fail [a] .unexpectedEnd
      | b :: s =>
        if isContinuation b then (decodeUtf8From (pos + 2) s).map (scalarOf (a - 0xc0) [b] :: ·)
        else fail [a] .badContinuation
    else if a < 0xf0 then
      match s with
      | [] => fail [a] .unexpectedEnd
      | [b] => if isSecond a b then fail [a, b] .unexpectedEnd else fail [a] .badContinuation
      | b :: c :: s =>
        if !isSecond a b then fail [a] .badContinuation
        else if !isContinuation c then fail [a, b] .badContinuation
        else (decodeUtf8From (pos + 3) s).map (scalarOf (a - 0xe0) [b, c] :: ·)
    else
      match s with
      | [] => fail [a] .unexpectedEnd
      | [b] => if isSecond a b then fail [a, b] .unexpectedEnd else fail [a] .badContinuation
      | [b, c] =>
        if !isSecond a b then fail [a] .badContinuation
        else if !isContinuation c then fail [a, b] .badContinuation
        else fail [a, b, c] .unexpectedEnd
      | b :: c :: d :: s =>
        if !isSecond a b then fail [a] .badContinuation
        else if !isContinuation c then fail [a, b] .badContinuation
        else if !isContinuation d then fail [a, b, c] .badContinuation
        else (decodeUtf8From (pos + 4) s).map (scalarOf (a - 0xf0) [b, c, d] :: ·)

/-- Decodes ASCII from position `pos` on. -/
def decodeAsciiFrom (pos : Nat) : List UInt8 → Except DecodeError (List Char)
  | [] => .ok []
  | a :: s =>
    if a < 0x80 then (decodeAsciiFrom (pos + 1) s).map (Char.ofNat a.toNat :: ·)
    else .error ⟨"ascii", pos, [a], .notAscii⟩

/-- Decodes bytes. -/
def decode (encoding : Encoding) (bytes : List UInt8) : Except DecodeError (List Char) :=
  match encoding with
  | .utf8 => decodeUtf8From 0 bytes
  | .utf8Signature =>
    match bytes with
    | 0xef :: 0xbb :: 0xbf :: rest => decodeUtf8From 0 rest
    | _ => decodeUtf8From 0 bytes
  | .latin1 => .ok (bytes.map fun b => Char.ofNat b.toNat)
  | .ascii => decodeAsciiFrom 0 bytes

/-- The bytes of a text in UTF-8. -/
def encode (s : String) : List UInt8 := s.toUTF8.toList

end TagWeave.Text
