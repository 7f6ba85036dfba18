import TagWeave.Fault

/-!
# Time stamps

A plain scalar may be a day, or a day and a time, with or without a zone. Its form is all
that tells; a day that no calendar has, or a time that no clock shows, is refused once the
scalar is given its value.
-/

namespace TagWeave.Yaml

open TagWeave.Text

/-- A time of a day: down to a millionth of a second, and the zone in minutes. -/
structure Time where
  hour : Nat
  minute : Nat
  second : Nat
  micros : Nat
  zone? : Option Int
  deriving DecidableEq, Repr

/-- A day, with or without a time. -/
structure Timestamp where
  year : Nat
  month : Nat
  day : Nat
  time? : Option Time
  deriving DecidableEq, Repr

namespace Timestamp

/-! ### Reading -/

/-- Whether a character is an ASCII digit. -/
def isFigure (c : Char) : Bool := '0' ≤ c && c ≤ '9'

/-- The number that ASCII digits spell. -/
def numberOf (figures : List Char) : Nat := Number.ofDigits (figures.map fun c => c.toNat - 48)

/-- Reads a number of one or two digits, or of two only. -/
def readTwo? (short : Bool) : List Char → Option (Nat × List Char)
  | a :: b :: cs =>
    if isFigure a then
      if isFigure b then some (numberOf [a, b], cs)
      else if short then some (numberOf [a], b :: cs) else none
    else none
  | [a] => if short && isFigure a then some (numberOf [a], []) else none
  | [] => none

/-- Goes past a character. -/
def past? (c : Char) : List Char → Option (List Char)
  | d :: cs => if c = d then some cs else none
  | [] => none

/-- Reads four digits. -/
def readYear? (cs : List Char) : Option (Nat × List Char) :=
  let figures := cs.take 4
  if figures.length = 4 && figures.all isFigure then some (numberOf figures, cs.drop 4) else none

/-- Reads the zone at the end of a time stamp, in minutes. -/
def readZone? (cs : List Char) : Option (Option Int) :=
  match cs, cs.dropWhile fun c => c = ' ' || c = '\t' with
  | [], _ => some none
  | _, ['Z'] => some (some 0)
  | _, sign :: cs => do
    if sign ≠ '-' ∧ sign ≠ '+' then none
    let (hours, cs) ← readTwo? true cs
    let minutes ← match cs with
      | [] => some 0
      | cs => do
        match ← readTwo? false (← past? ':' cs) with
        | (minutes, []) => some minutes
        | _ => none
    return some (Number.signed (sign = '-') (60 * hours + minutes))
  | _, [] => none

/-- Reads the places of a second, as millionths. -/
def readMicros (cs : List Char) : Nat × List Char :=
  match cs with
  | '.' :: cs =>
    let places := (cs.takeWhile isFigure).take 6
    (numberOf (places ++ List.replicate (6 - places.length) '0'), cs.dropWhile isFigure)
  | cs => (0, cs)

/-- Reads a time, up to the end. -/
def readTime? (cs : List Char) : Option Time := do
  let (hour, cs) ← readTwo? true cs
  let (minute, cs) ← readTwo? false (← past? ':' cs)
  let (second, cs) ← readTwo? false (← past? ':' cs)
  let (micros, cs) := readMicros cs
  return ⟨hour, minute, second, micros, ← readZone? cs⟩

/-- What separates a day and a time. -/
def pastGap? : List Char → Option (List Char)
  | c :: cs =>
    if c = 'T' || c = 't' then some cs
    else if c = ' ' || c = '\t' then some (cs.dropWhile fun c => c = ' ' || c = '\t')
    else none
  | [] => none

/-- Reads a time stamp. -/
def ofText? (text : String) : Option Timestamp := do
  let (year, cs) ← readYear? text.toList
  let (month, cs) ← readTwo? true (← past? '-' cs)
  let (day, cs) ← readTwo? true (← past? '-' cs)
  match cs with
  | [] => return ⟨year, month, day, none⟩
  | cs => return ⟨year, month, day, some (← readTime? (← pastGap? cs))⟩

/-- Whether a plain scalar has the form of a time stamp. A day alone has its month and its day in two
digits. -/
def isForm (text : String) : Bool :=
  match ofText? text with
  | none => false
  | some stamp => stamp.time?.isSome || text.length = 10

/-! ### Days and times that there are -/

/-- Whether a year has one more day. -/
def isLeap (year : Nat) : Bool := year % 4 = 0 && (year % 100 ≠ 0 || year % 400 = 0)

/-- How many days a month has. -/
def daysOf (year month : Nat) : Nat :=
  if month = 2 then (if isLeap year then 29 else 28)
  else if month = 4 || month = 6 || month = 9 || month = 11 then 30
  else 31

/-- A span of some minutes, as messages show it. -/
def shownSpan (minutes : Int) : String :=
  let days := Int.fdiv minutes 1440
  let seconds := 60 * Int.fmod minutes 1440
  let parts := (if days = 0 then [] else ["days=" ++ toString days]) ++
    (if seconds = 0 then [] else ["seconds=" ++ toString seconds])
  "datetime.timedelta(" ++ (if parts.isEmpty then "0" else join ", " parts) ++ ")"

/-- What is wrong with a time stamp, if it is none that there is. -/
def wrong? (stamp : Timestamp) : Option String :=
  let zone? := stamp.time?.bind (·.zone?)
  match zone?.filter fun minutes => 1440 ≤ minutes.natAbs with
  | some minutes =>
    some ("offset must be a timedelta strictly between -timedelta(hours=24) and " ++
      "timedelta(hours=24), not " ++ shownSpan minutes ++ ".")
  | none =>
    if stamp.year = 0 then some "year 0 is out of range"
    else if stamp.month = 0 || 12 < stamp.month then some "month must be in 1..12"
    else if stamp.day = 0 || daysOf stamp.year stamp.month < stamp.day then
      some "day is out of range for month"
    else stamp.time?.bind fun time =>
      if 23 < time.hour then some "hour must be in 0..23"
      else if 59 < time.minute then some "minute must be in 0..59"
      else if 59 < time.second then some "second must be in 0..59"
      else none

/-! ### Writing -/

/-- A number in at least so many digits. -/
def padded (width n : Nat) : String :=
  let figures := Number.decimalDigits n
  String.ofList (List.replicate (width - figures.length) '0' ++ figures)

/-- A zone with its sign. -/
def zoneText (minutes : Int) : String :=
  (if minutes < 0 then "-" else "+") ++ padded 2 (minutes.natAbs / 60) ++ ":" ++
    padded 2 (minutes.natAbs % 60)

/-- The text of a time. -/
def timeText (time : Time) : String :=
  join ":" [padded 2 time.hour, padded 2 time.minute, padded 2 time.second] ++
    (if time.micros = 0 then "" else "." ++ padded 6 time.micros) ++
    (time.zone?.map zoneText).getD ""

/-- The text of a time stamp. -/
def text (stamp : Timestamp) : String :=
  join "-" [padded 4 stamp.year, padded 2 stamp.month, padded 2 stamp.day] ++
    (stamp.time?.map fun time => " " ++ timeText time).getD ""

/-- A zone as messages show it. -/
def shownZone (minutes : Int) : String :=
  if minutes = 0 then "datetime.timezone.utc"
  else "datetime.timezone(" ++ shownSpan minutes ++ ")"

/-- A time stamp as messages show it. -/
def shown (stamp : Timestamp) : String :=
  let day := [stamp.year, stamp.month, stamp.day]
  let (name, parts) := match stamp.time? with
    | none => ("date", day.map toString)
    | some time =>
      let numbers := day ++ [time.hour, time.minute] ++
        (if time.micros ≠ 0 then [time.second, time.micros]
          else if time.second ≠ 0 then [time.second] else [])
      ("datetime", numbers.map toString ++
        (time.zone?.map fun minutes => "tzinfo=" ++ shownZone minutes).toList)
  "datetime." ++ name ++ "(" ++ join ", " parts ++ ")"

/-- The name of the type of a time stamp. -/
def typeName (stamp : Timestamp) : String := if stamp.time?.isSome then "datetime" else "date"

end Timestamp

/-- The value of a time stamp. -/
def readTimestamp (text : String) : Except TagWeave.Fault Value :=
  match Timestamp.ofText? text with
  | none => .error (.noMember "NoneType" "groupdict")
  | some stamp =>
    match stamp.wrong? with
    | some reason => .error (.raised "ValueError" reason)
    | none => .ok (.foreign stamp.typeName stamp.text stamp.shown)

end TagWeave.Yaml
