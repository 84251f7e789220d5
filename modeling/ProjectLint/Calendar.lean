/-!
# Dates and times

Days of the Gregorian calendar from the year 1 to the year 9999, and times on them with a
precision of a microsecond and, if it is known, an offset from universal time.

## Main definitions

* `Calendar.Date`, `Calendar.Time`, `Calendar.Moment`: a day, a time of day, and both together.
* `Calendar.Date.check`, `Calendar.Time.check`: what is out of range in them.
* `Calendar.Moment.same`: moments that are equal, whatever their offsets.
* `Calendar.Date.text`, `Calendar.Moment.text`: the usual written forms.
-/

namespace ProjectLint.Calendar

/-- What is out of range in a date or a time. -/
inductive Fault
  | year (value : Nat)
  | month
  | day
  | hour
  | minute
  | second
  /-- An offset of a day or more, in minutes. -/
  | offset (minutes : Int)
  deriving DecidableEq, Repr

/-- A day. -/
structure Date where
  year : Nat
  month : Nat
  day : Nat
  deriving DecidableEq, Repr

/-- A time of day. -/
structure Time where
  hour : Nat
  minute : Nat
  second : Nat
  microsecond : Nat
  deriving DecidableEq, Repr

/-- A time on a day, and the offset of its clock from universal time in minutes, if it is known. -/
structure Moment where
  date : Date
  time : Time
  offset : Option Int
  deriving DecidableEq, Repr

/-- A year of 366 days. -/
def isLeap (year : Nat) : Bool :=
  year % 4 = 0 && (year % 100 ≠ 0 || year % 400 = 0)

/-- The number of days of a month. -/
def daysInMonth (year month : Nat) : Nat :=
  if month = 2 then (if isLeap year then 29 else 28)
  else if month = 4 ∨ month = 6 ∨ month = 9 ∨ month = 11 then 30
  else 31

/-- The number of minutes of a day. -/
def minutesInDay : Nat := 24 * 60

namespace Date

/-- The first part of a date that is out of range. -/
def check (d : Date) : Except Fault Unit :=
  if d.year < 1 ∨ 9999 < d.year then .error (.year d.year)
  else if d.month < 1 ∨ 12 < d.month then .error .month
  else if d.day < 1 ∨ daysInMonth d.year d.month < d.day then .error .day
  else .ok ()

/-- The number of days from the first of January of the year 1 to this day. -/
def ordinal (d : Date) : Nat :=
  let y := d.year - 1
  y * 365 + y / 4 - y / 100 + y / 400 +
    (List.range (d.month - 1)).foldl (fun n m => n + daysInMonth d.year (m + 1)) 0 + (d.day - 1)

end Date

namespace Time

/-- The first part of a time that is out of range. -/
def check (t : Time) : Except Fault Unit :=
  if 23 < t.hour then .error .hour
  else if 59 < t.minute then .error .minute
  else if 59 < t.second then .error .second
  else .ok ()

/-- The number of microseconds from midnight. -/
def microseconds (t : Time) : Nat :=
  ((t.hour * 60 + t.minute) * 60 + t.second) * 1000000 + t.microsecond

end Time

namespace Moment

/-- The microseconds from the beginning of the calendar, in universal time where the offset is
known and by the clock where it is not. -/
def instant (m : Moment) : Int :=
  (m.date.ordinal * minutesInDay : Nat) * 60000000 + m.time.microseconds -
    m.offset.getD 0 * 60000000

/-- Equal moments. A moment whose offset is known never equals one whose offset is not. -/
def same (x y : Moment) : Bool :=
  x.offset.isSome = y.offset.isSome && x.instant = y.instant

end Moment

/-! ### Written forms -/

/-- A number with at least `width` digits. -/
def padded (width n : Nat) : List Char :=
  let ds := Nat.toDigits 10 n
  List.replicate (width - ds.length) '0' ++ ds

/-- The form `2001-12-14`. -/
def Date.text (d : Date) : List Char :=
  padded 4 d.year ++ '-' :: padded 2 d.month ++ '-' :: padded 2 d.day

/-- The form `21:59:43`, with six more digits after a point if there are any microseconds. -/
def Time.text (t : Time) : List Char :=
  padded 2 t.hour ++ ':' :: padded 2 t.minute ++ ':' :: padded 2 t.second ++
    (if t.microsecond = 0 then [] else '.' :: padded 6 t.microsecond)

/-- The form `-05:00` of an offset. -/
def offsetText (minutes : Int) : List Char :=
  (if minutes < 0 then '-' else '+') :: padded 2 (minutes.natAbs / 60) ++
    ':' :: padded 2 (minutes.natAbs % 60)

/-- The form `2001-12-14 21:59:43-05:00`. -/
def Moment.text (m : Moment) : List Char :=
  m.date.text ++ ' ' :: m.time.text ++ (m.offset.map offsetText).getD []

/-- A length of time as a number of days and a number of seconds below a day. -/
def durationText (minutes : Int) : String :=
  let days := minutes.fdiv minutesInDay
  let seconds := minutes.fmod minutesInDay * 60
  let parts := (if days = 0 then [] else [s!"days={days}"]) ++
    (if seconds = 0 then [] else [s!"seconds={seconds}"])
  "datetime.timedelta(" ++ ", ".intercalate parts ++ ")"

/-- The wording of a fault. -/
def Fault.message : Fault → String
  | .year value => s!"year {value} is out of range"
  | .month => "month must be in 1..12"
  | .day => "day is out of range for month"
  | .hour => "hour must be in 0..23"
  | .minute => "minute must be in 0..59"
  | .second => "second must be in 0..59"
  | .offset minutes =>
    "offset must be a timedelta strictly between -timedelta(hours=24) and timedelta(hours=24), " ++
      "not " ++ durationText minutes ++ "."

example : (Date.mk 2001 2 29).check = .error .day := rfl
example : (Moment.mk ⟨2001, 12, 14⟩ ⟨21, 59, 43, 100000⟩ (some (-300))).text =
    ['2', '0', '0', '1', '-', '1', '2', '-', '1', '4', ' ', '2', '1', ':', '5', '9', ':', '4', '3',
      '.', '1', '0', '0', '0', '0', '0', '-', '0', '5', ':', '0', '0'] := by decide +kernel

end ProjectLint.Calendar
