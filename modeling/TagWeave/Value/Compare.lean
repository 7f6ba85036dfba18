import TagWeave.Fault
import TagWeave.Text.Order

/-!
# Comparing values

Numbers and truth values are equal when they stand for the same number. Containers
are equal when their parts are; the order of a mapping's entries does not matter.
Numbers, texts and lists are ordered, each among themselves.
-/

namespace TagWeave.Value

/-- The fraction that a number or truth value stands for. -/
def number? : Value → Option Float
  | bool b => some (if b then 1 else 0)
  | int n => some (Float.ofInt n)
  | float x => some x
  | _ => none

/-- The integer that an integer or truth value stands for. -/
def whole? : Value → Option Int
  | bool b => some (if b then 1 else 0)
  | int n => some n
  | _ => none

/-- Whether two scalar values are equal. -/
def sameScalar (a b : Value) : Bool :=
  match a.whole?, b.whole? with
  | some m, some n => m == n
  | _, _ =>
    match a.number?, b.number? with
    | some x, some y => x == y
    | none, none =>
      match a, b with
      | null, null => true
      | str s, str t => s == t
      | lambda m, lambda n => m == n
      | _, _ => false
    | _, _ => false

mutual

/-- Whether two values are equal. -/
def same : Value → Value → Bool
  | list xs, b =>
    match b with
    | list ys => sameItems xs ys
    | _ => false
  | dict xs, b =>
    match b with
    | dict ys => xs.length == ys.length && sameEntries xs ys
    | _ => false
  | record xs, b =>
    match b with
    | record ys => xs.length == ys.length && sameAttributes xs ys
    | _ => false
  | a, b => sameScalar a b

/-- Whether two lists have equal items. -/
def sameItems : List Value → List Value → Bool
  | [], ys => ys.isEmpty
  | x :: xs, ys =>
    match ys with
    | y :: ys => x.same y && sameItems xs ys
    | [] => false

/-- Whether some entries are among those of a mapping. -/
def sameEntries : List (Key × Value) → List (Key × Value) → Bool
  | [], _ => true
  | (key, x) :: xs, ys =>
    (match Entries.get? ys key with
      | some y => x.same y
      | none => false) && sameEntries xs ys

/-- Whether some attributes are among those of a record. -/
def sameAttributes : List (String × Value) → List (String × Value) → Bool
  | [], _ => true
  | (name, x) :: xs, ys =>
    (match ys.find? (·.1 = name) with
      | some (_, y) => x.same y
      | none => false) && sameAttributes xs ys

end

/-- How two numbers are ordered, unless one of them is not a number. -/
def compareNumbers (x y : Float) : Option Ordering :=
  if x < y then some .lt else if y < x then some .gt else if x == y then some .eq else none

mutual

/-- How two values are ordered. Fails for types that are not, with the names of the two types;
gives nothing where a comparison with not-a-number decides. -/
def order : Value → Value → Except (String × String) (Option Ordering)
  | list xs, b =>
    match b with
    | list ys => orderItems xs ys
    | b => .error ("list", b.typeName)
  | str s, b =>
    match b with
    | str t => .ok (some (if s < t then .lt else if t < s then .gt else .eq))
    | b => .error ("str", b.typeName)
  | a, b =>
    match a.whole?, b.whole? with
    | some m, some n => .ok (some (compare m n))
    | _, _ =>
      match a.number?, b.number? with
      | some x, some y => .ok (compareNumbers x y)
      | _, _ => .error (a.typeName, b.typeName)

/-- How two lists are ordered: the first unequal items decide, and else the lengths. -/
def orderItems : List Value → List Value → Except (String × String) (Option Ordering)
  | [], ys => .ok (some (if ys.isEmpty then .eq else .lt))
  | x :: xs, ys =>
    match ys with
    | [] => .ok (some .gt)
    | y :: ys => if x.same y then orderItems xs ys else x.order y

end

end TagWeave.Value
