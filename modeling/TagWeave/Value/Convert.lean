import TagWeave.Fault

/-!
# Values as numbers

A setting that has to be a number may be given as a number of another type, as a
truth value, or as a text. A fraction loses its places when an integer is asked for.
-/

namespace TagWeave.Value

/-- The integer that a value gives. -/
def toInteger : Value → Except Fault Int
  | bool b => .ok (if b then 1 else 0)
  | int n => .ok n
  | float x =>
    if x.isNaN then .error .undefinedInteger
    else if x.isInf then .error .infiniteInteger
    else .ok (Number.truncate x)
  | str s =>
    match Number.readInt s with
    | .ok n => .ok n
    | .error .malformed => .error (.notInteger s)
    | .error (.tooLong digits) => .error (.tooManyDigits digits)
  | value => .error (.type (.integerOf value.typeName))

/-- The fraction that a value gives. -/
def toFraction : Value → Except Fault Float
  | bool b => .ok (if b then 1 else 0)
  | int n =>
    match Number.floatOfInt? n with
    | some x => .ok x
    | none => .error .hugeFraction
  | float x => .ok x
  | str s =>
    match Number.readFloat? s with
    | some x => .ok x
    | none => .error (.notFraction s)
  | value => .error (.type (.fractionOf value.typeName))

end TagWeave.Value
