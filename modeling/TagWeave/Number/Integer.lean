import TagWeave.Text.Blank
import TagWeave.Text.Digit

/-!
# Integer texts

Reading an integer accepts what a user may write: white space around it, a sign,
digits of any script, single underscores between digits. Integers are unbounded,
but a text of more than `maxDigits` digits is refused, in both directions.
-/

namespace TagWeave.Number

open TagWeave.Text

/-- The longest integer text, in digits. -/
def maxDigits : Nat := 4300

/-- What is said of an integer text that is too long. -/
def tooManyDigits (digits : Nat) : String :=
  "Exceeds the limit (" ++ toString maxDigits ++ " digits) for integer string conversion: value has " ++
    toString digits ++ " digits; use sys.set_int_max_str_digits() to increase the limit"

/-- What is said of an integer whose text would be too long. -/
def tooLongToWrite : String :=
  "Exceeds the limit (" ++ toString maxDigits ++
    " digits) for integer string conversion; use sys.set_int_max_str_digits() to increase the limit"

/-- Why a text is no integer. -/
inductive IntegerFault
  | malformed
  | tooLong (digits : Nat)
  deriving DecidableEq, Repr

/-- Reads digits, of any script, that may be separated by single underscores. -/
def readDigits : List Char → Option (List Nat)
  | [] => none
  | [c] => (digitValue? c).map ([·])
  | c :: '_' :: cs => match digitValue? c, readDigits cs with
    | some d, some ds => some (d :: ds)
    | _, _ => none
  | c :: cs => match digitValue? c, readDigits cs with
    | some d, some ds => some (d :: ds)
    | _, _ => none

/-- The number that decimal digits spell. -/
def ofDigits (ds : List Nat) : Nat := ds.foldl (fun n d => n * 10 + d) 0

/-- A leading sign, and what follows it. -/
def splitSign : List Char → Bool × List Char
  | '-' :: cs => (true, cs)
  | '+' :: cs => (false, cs)
  | cs => (false, cs)

/-- The integer with the given sign and absolute value. -/
def signed (negative : Bool) (n : Nat) : Int := if negative then -(n : Int) else n

/-- Reads an integer. -/
def readInt (s : String) : Except IntegerFault Int :=
  let (negative, body) := splitSign (trim s.toList)
  match readDigits body with
  | none => .error .malformed
  | some ds =>
    if maxDigits < ds.length then .error (.tooLong ds.length)
    else .ok (signed negative (ofDigits ds))

/-- The decimal digits of a number, most significant first. -/
def decimalDigits (n : Nat) : List Char := Nat.toDigits 10 n

/-- Writes an integer. -/
def writeInt (n : Int) : String :=
  let text := String.ofList (decimalDigits n.natAbs)
  if n < 0 then "-" ++ text else text

/-- Whether an integer has no more digits than a text may have. -/
def isWritable (n : Int) : Bool := (decimalDigits n.natAbs).length ≤ maxDigits

end TagWeave.Number
