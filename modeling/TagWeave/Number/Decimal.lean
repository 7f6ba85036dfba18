import TagWeave.Number.Integer
import TagWeave.Number.Shortest

/-!
# Fraction texts

Writing a double gives the fewest digits that read back, positionally for decimal
exponents from -4 to 15 and with an exponent of at least two digits otherwise.
Reading accepts white space around the number, a sign, underscores between digits,
an exponent, and the words for infinity and not-a-number. Rounding to a number of
places works on the exact binary value and sends a half to the even neighbour.
-/

namespace TagWeave.Number

open TagWeave.Text

/-- Removes trailing zeros of a positive decimal, at most `fuel` of them. -/
def Decimal.stripZeros (d : Decimal) : Nat → Decimal
  | 0 => d
  | fuel + 1 =>
    if d.digits ≠ 0 ∧ d.digits % 10 = 0 then
      Decimal.stripZeros ⟨d.digits / 10, d.exponent + 1⟩ fuel
    else d

/-- Writes an exponent with a sign and at least two digits. -/
def exponentText (e : Int) : List Char :=
  let ds := decimalDigits e.natAbs
  (if e < 0 then '-' else '+') :: (if ds.length < 2 then '0' :: ds else ds)

/-- Writes a positive decimal. -/
def Decimal.text (d : Decimal) : List Char :=
  let d := d.stripZeros 400
  let ds := decimalDigits d.digits
  let point : Int := ds.length + d.exponent
  if -4 < point ∧ point ≤ 16 then
    if point ≤ 0 then
      '0' :: '.' :: List.replicate (-point).toNat '0' ++ ds
    else if ds.length ≤ point then
      ds ++ List.replicate (point - ds.length).toNat '0' ++ ['.', '0']
    else ds.take point.toNat ++ '.' :: ds.drop point.toNat
  else
    let lead := match ds with
      | [c] => [c]
      | c :: rest => c :: '.' :: rest
      | [] => []
    lead ++ 'e' :: exponentText (point - 1)

/-- Writes a double. -/
def writeFloat (x : Float) : String :=
  if x.isNaN then "nan"
  else
    let sign := if isNegative x then "-" else ""
    if x.isInf then sign ++ "inf"
    else if x == 0 then sign ++ "0.0"
    else sign ++ String.ofList (Binary.ofFloat x).shortest.text

/-- The double nearest to `± digits · 10^exponent`. Exponents far out of range are settled without
computing the power. -/
def nearestFloat (negative : Bool) (mantissa : Nat) (exponent : Int) : Float :=
  let size : Int := (decimalDigits mantissa).length + exponent
  let x : Float :=
    if mantissa = 0 then 0
    else if 400 < size then 1.0 / 0.0
    else if size < -400 then 0
    else Float.ofScientific mantissa (exponent < 0) exponent.natAbs
  if negative then -x else x

/-- Reads digits with underscores, allowing none at all. -/
def readDigitsOrNone : List Char → Option (List Nat)
  | [] => some []
  | cs => readDigits cs

/-- Reads an optional exponent part. -/
def readExponent : List Char → Option Int
  | [] => some 0
  | c :: cs =>
    if c = 'e' || c = 'E' then
      let (negative, body) := splitSign cs
      (readDigits body).map fun ds => signed negative (ofDigits ds)
    else none

/-- Reads an unsigned fraction: digits on at least one side of an optional point, then an optional
exponent. -/
def readUnsigned (negative : Bool) (cs : List Char) : Option Float :=
  let isMark (c : Char) : Bool := c == '.' || c == 'e' || c == 'E'
  let whole := cs.takeWhile (!isMark ·)
  let rest := cs.dropWhile (!isMark ·)
  let (fraction, tail) := match rest with
    | '.' :: rest =>
      (rest.takeWhile fun c => c != 'e' && c != 'E', rest.dropWhile fun c => c != 'e' && c != 'E')
    | _ => ([], rest)
  match readDigitsOrNone whole, readDigitsOrNone fraction, readExponent tail with
  | some ws, some fs, some e =>
    if ws.isEmpty && fs.isEmpty then none
    else some (nearestFloat negative (ofDigits (ws ++ fs)) (e - fs.length))
  | _, _, _ => none

/-- Reads a double. -/
def readFloat? (s : String) : Option Float :=
  let (negative, body) := splitSign (trim s.toList)
  let word := String.ofList (body.map fun c =>
    if 'A' ≤ c ∧ c ≤ 'Z' then Char.ofNat (c.toNat + 32) else c)
  if word = "inf" || word = "infinity" then some (if negative then -1.0 / 0.0 else 1.0 / 0.0)
  else if word = "nan" then some (0.0 / 0.0)
  else readUnsigned negative body

/-- The double nearest to an integer, unless the integer is out of range. -/
def floatOfInt? (n : Int) : Option Float :=
  let x := nearestFloat (n < 0) n.natAbs 0
  if x.isInf then none else some x

/-- The double nearest to a quotient of positive numbers. Its first 64 binary digits or so are computed,
and the last one of them also stands for all that follow. -/
def nearestRatio (numerator denominator : Nat) : Float :=
  let shift : Int := 64 + denominator.log2 - numerator.log2
  let scaled := numerator * (twoPow shift).1
  let unit := denominator * (twoPow shift).2
  let digits := scaled / unit
  let digits := if scaled % unit = 0 then digits else digits ||| 1
  (Float.ofNat digits).scaleB (-shift)

/-- The double nearest to the quotient of two integers, of which the second one is not zero, unless
the quotient is out of range. -/
def quotient? (m n : Int) : Option Float :=
  let exact := Nat.pow 2 53
  let x :=
    if m.natAbs ≤ exact ∧ n.natAbs ≤ exact then Float.ofInt m / Float.ofInt n
    else
      let x := if m = 0 then 0 else nearestRatio m.natAbs n.natAbs
      if decide (m < 0) = decide (n < 0) then x else -x
  if x.isInf then none else some x

/-- The integer part of a finite double, towards zero. -/
def truncate (x : Float) : Int :=
  let b := Binary.ofFloat x
  let (two, half) := twoPow b.exponent
  signed (isNegative x) (b.mantissa * two / half)

/-- Whether a double is a whole number. -/
def isWhole (x : Float) : Bool :=
  !x.isNaN && !x.isInf && x.floor == x

/-- Rounds to `places` decimal places; a half goes to the even neighbour. -/
def roundPlaces (places : Nat) (x : Float) : Float :=
  if x.isNaN || x.isInf then x
  else
    let b := Binary.ofFloat x
    let (two, half) := twoPow b.exponent
    let scaled := b.mantissa * two * Nat.pow 10 places
    let n := scaled / half
    let up := match compare (2 * (scaled % half)) half with
      | .lt => false
      | .gt => true
      | .eq => n % 2 = 1
    nearestFloat (isNegative x) (if up then n + 1 else n) (-(places : Int))

end TagWeave.Number
