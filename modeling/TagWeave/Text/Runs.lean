/-!
# Tables of code points

The character tables of this library are written as hexadecimal numbers in a
string, so that a table of some hundred ranges stays readable and cheap to
compile. This module reads such a string and answers the two questions that are
asked of a table: whether a code point lies in one of its ranges, and where a run
of equally shifted code points sends it.
-/

namespace TagWeave.Text

/-- The value of a lower-case hexadecimal digit. -/
def hexDigit? (c : Char) : Option Nat :=
  let n := c.toNat
  if 48 ≤ n ∧ n ≤ 57 then some (n - 48)
  else if 97 ≤ n ∧ n ≤ 102 then some (n - 87)
  else none

/-- Reads the hexadecimal numbers of a text; anything else separates them. -/
def hexWords (s : String) : List Nat :=
  let step (c : Char) (acc : Option (Nat × Nat) × List Nat) : Option (Nat × Nat) × List Nat :=
    match hexDigit? c, acc with
    | some d, (some (value, unit), words) => (some (value + d * unit, unit * 16), words)
    | some d, (none, words) => (some (d, 16), words)
    | none, (some (value, _), words) => (none, value :: words)
    | none, (none, words) => (none, words)
  match s.toList.foldr step (none, []) with
  | (some (value, _), words) => value :: words
  | (none, words) => words

/-- A closed range of code points. -/
structure Range where
  first : Nat
  last : Nat
  deriving Repr, DecidableEq

/-- Pairs up the numbers of a table of ranges. -/
def Range.ofWords : List Nat → List Range
  | a :: b :: rest => ⟨a, b⟩ :: ofWords rest
  | _ => []

/-- Whether a code point lies in one of the ranges. -/
def inRanges (ranges : List Range) (n : Nat) : Bool :=
  ranges.any fun r => r.first ≤ n && n ≤ r.last

/-- A run of code points `first, first + step, …, last` that are all shifted alike, the first
of them to `target`. -/
structure Run where
  first : Nat
  last : Nat
  step : Nat
  target : Nat
  deriving Repr, DecidableEq

/-- Groups the numbers of a table of runs. -/
def Run.ofWords : List Nat → List Run
  | a :: b :: c :: d :: rest => ⟨a, b, c, d⟩ :: ofWords rest
  | _ => []

/-- Whether the run contains the code point. -/
def Run.contains (r : Run) (n : Nat) : Bool :=
  r.first ≤ n && n ≤ r.last && (n - r.first) % r.step == 0

/-- Where the first run that contains the code point sends it. -/
def shiftOf? (runs : List Run) (n : Nat) : Option Nat :=
  (runs.find? (·.contains n)).map fun r => r.target + (n - r.first)

end TagWeave.Text
