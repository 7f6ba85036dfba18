/-!
# The shortest decimal of a binary fraction

A finite double is `m · 2^q` for natural `m`. The reals that a correct reader
rounds to it form an interval around it, the ends included when `m` is even.
Among the decimals in that interval the shortest ones are those on the coarsest
decimal grid that meets it, and the one nearest to the value is chosen. All tests
are exact comparisons of natural numbers.
-/

namespace TagWeave.Number

/-- A finite double without its sign: `mantissa · 2^exponent`. The lower neighbour of a power of
two is only half as far away as the upper one, which `narrow` records. -/
structure Binary where
  mantissa : Nat
  exponent : Int
  narrow : Bool
  deriving DecidableEq, Repr

/-- A decimal `digits · 10^exponent`. -/
structure Decimal where
  digits : Nat
  exponent : Int
  deriving DecidableEq, Repr

/-- The two parts of `2^e`, as numerator and denominator. -/
def twoPow (e : Int) : Nat × Nat := (Nat.pow 2 e.toNat, Nat.pow 2 (-e).toNat)

/-- The two parts of `10^e`, as numerator and denominator. -/
def tenPow (e : Int) : Nat × Nat := (Nat.pow 10 e.toNat, Nat.pow 10 (-e).toNat)

/-- Compares `a · 2^p` with `b · 10^k`. -/
def comparePowers (a : Nat) (p : Int) (b : Nat) (k : Int) : Ordering :=
  let (two, half) := twoPow p
  let (ten, tenth) := tenPow k
  compare (a * two * tenth) (b * ten * half)

/-- Four times the value, counted in units of a quarter of the last place. -/
def Binary.middle (x : Binary) : Nat := 4 * x.mantissa

/-- The lower end of the interval that rounds to the value, in quarters of the last place. -/
def Binary.lower (x : Binary) : Nat := x.middle - (if x.narrow then 1 else 2)

/-- The upper end of the interval that rounds to the value, in quarters of the last place. -/
def Binary.upper (x : Binary) : Nat := x.middle + 2

/-- Whether a decimal rounds to the value. -/
def Binary.covers (x : Binary) (d : Decimal) : Bool :=
  let fromBelow := comparePowers x.lower (x.exponent - 2) d.digits d.exponent
  let fromAbove := comparePowers x.upper (x.exponent - 2) d.digits d.exponent
  let inside (o : Ordering) (good : Ordering) : Bool :=
    o == good || (o == .eq && x.mantissa % 2 == 0)
  inside fromBelow .lt && inside fromAbove .gt

/-- The multiple of `10^k` just below or at the value. -/
def Binary.floorAt (x : Binary) (k : Int) : Nat :=
  let (two, half) := twoPow x.exponent
  let (ten, tenth) := tenPow k
  x.mantissa * two * tenth / (half * ten)

/-- Compares the distances from the value to `n · 10^k` and to `(n + 1) · 10^k`. -/
def Binary.compareNeighbours (x : Binary) (n : Nat) (k : Int) : Ordering :=
  comparePowers (2 * x.mantissa) x.exponent (2 * n + 1) k

/-- The decimal on the grid of `10^k` that rounds to the value and is nearest to it; of two
equally near ones the one with an even last digit. -/
def Binary.onGrid? (x : Binary) (k : Int) : Option Decimal :=
  let n := x.floorAt k
  let below : Decimal := ⟨n, k⟩
  let above : Decimal := ⟨n + 1, k⟩
  match x.covers below, x.covers above with
  | true, true =>
    match x.compareNeighbours n k with
    | .lt => some below
    | .gt => some above
    | .eq => some (if n % 2 = 0 then below else above)
  | true, false => some below
  | false, true => some above
  | false, false => none

/-- Tries grids from `10^k` on downwards, `fuel` of them. -/
def Binary.searchGrids (x : Binary) (k : Int) : Nat → Decimal
  | 0 => ⟨x.floorAt k, k⟩
  | fuel + 1 => (x.onGrid? k).getD (x.searchGrids (k - 1) fuel)

/-- The shortest decimal that rounds to a positive value: the first grid that meets the interval,
starting where the value has a single digit or none, and at most eighteen finer. -/
def Binary.shortest (x : Binary) : Decimal :=
  let bits : Int := (Nat.log2 x.mantissa : Nat) + x.exponent
  -- 1233 / 4096 is just above the decimal logarithm of two.
  x.searchGrids (bits * 1233 / 4096 + 1) 20

/-- The binary form of a finite double, without its sign. -/
def Binary.ofFloat (x : Float) : Binary :=
  let bits : Nat := x.toBits.toNat
  let fraction : Nat := bits % Nat.pow 2 52
  let biased : Nat := bits / Nat.pow 2 52 % Nat.pow 2 11
  if biased = 0 then ⟨fraction, -1074, false⟩
  else ⟨fraction + Nat.pow 2 52, (biased : Int) - 1075, fraction = 0 && 1 < biased⟩

/-- Whether the sign bit is set. -/
def isNegative (x : Float) : Bool := Nat.pow 2 63 ≤ x.toBits.toNat

end TagWeave.Number
