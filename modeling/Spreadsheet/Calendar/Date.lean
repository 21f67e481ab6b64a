namespace Spreadsheet.Calendar

structure Date where
  year : Int
  month : Nat
  day : Nat
deriving DecidableEq, Repr

def isLeapYear (year : Int) : Bool :=
  year % 4 == 0 && (year % 100 != 0 || year % 400 == 0)

def daysInMonth (year : Int) (month : Nat) : Nat :=
  if month = 2 then if isLeapYear year then 29 else 28
  else if month = 4 ∨ month = 6 ∨ month = 9 ∨ month = 11 then 30
  else 31

def leastYear : Int := -262143

def greatestYear : Int := 262142

namespace Date

def Valid (d : Date) : Prop :=
  leastYear ≤ d.year ∧ d.year ≤ greatestYear ∧ 1 ≤ d.month ∧ d.month ≤ 12 ∧
    1 ≤ d.day ∧ d.day ≤ daysInMonth d.year d.month

instance : DecidablePred Valid := fun d => by
  unfold Valid; infer_instance

def valid? (d : Date) : Option Date :=
  if d.Valid then some d else none

/-- Days from 1970-01-01 to a date. Years are counted from March, so that the leap day ends one;
`719468` is the number of days from 0000-03-01 to 1970-01-01. -/
def dayNumber (d : Date) : Int :=
  let year := if d.month ≤ 2 then d.year - 1 else d.year
  let month : Int := (d.month + 9) % 12
  365 * year + year / 4 - year / 100 + year / 400 + (153 * month + 2) / 5 + d.day - 1 - 719468

def ofDayNumber (n : Int) : Date :=
  let days := n + 719468
  let cycle := days / 146097
  let dayOfCycle := days % 146097
  let yearOfCycle :=
    (dayOfCycle - dayOfCycle / 1460 + dayOfCycle / 36524 - dayOfCycle / 146096) / 365
  let dayOfYear := dayOfCycle - (365 * yearOfCycle + yearOfCycle / 4 - yearOfCycle / 100)
  let month := (5 * dayOfYear + 2) / 153
  { year := 400 * cycle + yearOfCycle + if month < 10 then 0 else 1
    month := (if month < 10 then month + 3 else month - 9).toNat
    day := (dayOfYear - (153 * month + 2) / 5 + 1).toNat }

def weekday (d : Date) : Nat :=
  ((d.dayNumber + 4) % 7).toNat

def ordinal (d : Date) : Nat :=
  (d.dayNumber - dayNumber ⟨d.year, 1, 1⟩ + 1).toNat

/-- The number of the week of the year when weeks begin on the given weekday; the days before the
first such day are in week zero. -/
def weekFrom (start : Nat) (d : Date) : Nat :=
  (d.ordinal + 6 - (d.weekday + 7 - start) % 7) / 7

/-- The year and the number of the ISO week: weeks begin on Mondays, and a week belongs to the year
that holds its Thursday. -/
def isoWeek (d : Date) : Int × Nat :=
  let thursday := ofDayNumber (d.dayNumber + 3 - (d.weekday + 6) % 7)
  (thursday.year, (thursday.ordinal + 6) / 7)

end Date

end Spreadsheet.Calendar
