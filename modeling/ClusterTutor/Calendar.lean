import ClusterTutor.Number.Magnitude

/-!
# Instants

An instant is a number of microseconds since the start of the year 1, in a calendar
with the leap years of today and days of 86400 seconds. Its text is that of ISO 8601:
date, time and the offset of universal time, with six places for the microseconds
unless there are none.

The year of a day is found as the last year that begins on it or before, and the month
as the last month of that year that does.
-/

namespace ClusterTutor

/-- Microseconds since the start of the year 1. -/
structure Instant where
  /-- The number of microseconds. -/
  micros : Int
deriving DecidableEq, Repr, Inhabited

namespace Calendar

/-- Whether a year has a leap day. -/
def isLeap (y : Nat) : Bool :=
  y % 4 == 0 && (y % 100 != 0 || y % 400 == 0)

/-- How many days lie before a year, counted from the year 1. -/
def daysBeforeYear (y : Nat) : Nat :=
  (y - 1) * 365 + (y - 1) / 4 - (y - 1) / 100 + (y - 1) / 400

/-- How many days a month has. -/
def daysInMonth (y m : Nat) : Nat :=
  if m == 2 then (if isLeap y then 29 else 28)
  else if m == 4 || m == 6 || m == 9 || m == 11 then 30
  else 31

/-- How many days of a year lie before a month. -/
def daysBeforeMonth (y : Nat) : Nat → Nat
  | 0 => 0
  | 1 => 0
  | m + 1 => daysBeforeMonth y m + daysInMonth y m

/-- The last year, from `y` downward, that begins on a day or before. -/
def yearFrom (day : Nat) : Nat → Nat
  | 0 => 1
  | y + 1 => if daysBeforeYear (y + 1) ≤ day then y + 1 else yearFrom day y

/-- The year of a day, where days are counted from the first one of the year 1. -/
def yearOf (day : Nat) : Nat := yearFrom day (day / 365 + 1)

/-- The last month, from `m` downward, that begins on a day of a year or before. -/
def monthFrom (y dayOfYear : Nat) : Nat → Nat
  | 0 => 1
  | m + 1 => if daysBeforeMonth y (m + 1) ≤ dayOfYear then m + 1 else monthFrom y dayOfYear m

/-- The year, the month and the day of the month of a day. -/
def dateOf (day : Nat) : Nat × Nat × Nat :=
  let y := yearOf day
  let dayOfYear := day - daysBeforeYear y
  let m := monthFrom y dayOfYear 12
  (y, m, dayOfYear - daysBeforeMonth y m + 1)

/-- How many days the calendar has: the last one ends the year 9999. -/
def dayCount : Nat := daysBeforeYear 10000

/-- A number in a given width, filled up with zeros. -/
def digits (width n : Nat) : String :=
  let ds := Nat.toDigits 10 n
  String.ofList (List.replicate (width - ds.length) '0' ++ ds)

end Calendar

namespace Instant

/-- Microseconds of a second. -/
def microsPerSecond : Int := 1000000

/-- Microseconds of a day. -/
def microsPerDay : Int := 86400 * microsPerSecond

/-- The start of the year 2024. -/
def year2024 : Instant := ⟨Calendar.daysBeforeYear 2024 * microsPerDay⟩

/-- Whether the calendar has an instant. -/
def inCalendar (t : Instant) : Bool :=
  decide (0 ≤ t.micros) && decide (t.micros < Calendar.dayCount * microsPerDay)

/-- The instant a number of days later, if the calendar has it. -/
def addDays? (t : Instant) (days : Int) : Option Instant :=
  let later : Instant := ⟨t.micros + days * microsPerDay⟩
  if later.inCalendar then some later else none

/-- The microseconds in a part of a second, given in units of binary numbers: the product
with a million is a binary number, and is rounded to a whole one. -/
def microsOfPart (part : Nat) : Nat :=
  let product := (Binary64.nearest false (part * 1000000) 1).units?.getD 0
  roundedQuotient product.natAbs Binary64.unitsPerOne

/-- A number of seconds in microseconds. -/
def microsOf : Magnitude → Int
  | .whole n => n * microsPerSecond
  | .binary x =>
    let units := x.units?.getD 0
    let seconds := units.natAbs / Binary64.unitsPerOne
    let micros := seconds * 1000000 + microsOfPart (units.natAbs % Binary64.unitsPerOne)
    if units < 0 then -(micros : Int) else micros

/-- The instant a number of seconds later. -/
def addSeconds (t : Instant) (seconds : Magnitude) : Instant :=
  ⟨t.micros + microsOf seconds⟩

/-- The order of instants. -/
def le (s t : Instant) : Bool := decide (s.micros ≤ t.micros)

/-- An instant as text. -/
def text (t : Instant) : String :=
  let n := t.micros.toNat
  let (y, m, d) := Calendar.dateOf (n / 86400000000)
  let second := n / 1000000 % 86400
  let micros := n % 1000000
  let fraction := if micros == 0 then "" else "." ++ Calendar.digits 6 micros
  let date := s!"{Calendar.digits 4 y}-{Calendar.digits 2 m}-{Calendar.digits 2 d}"
  let hour := Calendar.digits 2 (second / 3600)
  let minute := Calendar.digits 2 (second / 60 % 60)
  s!"{date}T{hour}:{minute}:{Calendar.digits 2 (second % 60)}{fraction}+00:00"

end Instant

end ClusterTutor
