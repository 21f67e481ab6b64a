import Spreadsheet.Calendar.Date
import Spreadsheet.Text.Search
import Spreadsheet.Text.Digits

namespace Spreadsheet.Calendar

open Spreadsheet.Text

/-- Whole seconds since the beginning of 1970 and nanoseconds; a leap second is the second before
it with a thousand million more nanoseconds. -/
structure Instant where
  seconds : Int
  nanos : Nat
deriving DecidableEq, Repr

namespace Instant

def date (t : Instant) : Date :=
  .ofDayNumber (t.seconds / 86400)

def ofDay (t : Instant) : Nat :=
  (t.seconds % 86400).toNat

def hour (t : Instant) : Nat :=
  t.ofDay / 3600

def minute (t : Instant) : Nat :=
  t.ofDay / 60 % 60

def second (t : Instant) : Nat :=
  t.ofDay % 60 + t.nanos / 1000000000

def fraction (t : Instant) : Nat :=
  t.nanos % 1000000000

def valid? (t : Instant) : Option Instant :=
  if leastYear ≤ t.date.year ∧ t.date.year ≤ greatestYear then some t else none

def ofMilliseconds? (n : Int) : Option Instant :=
  valid? ⟨n / 1000, (n % 1000).toNat * 1000000⟩

end Instant

def padded (width n : Nat) : List Char :=
  padLeft width '0' (natural n)

def yearText (year : Int) : List Char :=
  if 0 ≤ year ∧ year ≤ 9999 then padded 4 year.natAbs
  else (if year < 0 then '-' else '+') :: padded 4 year.natAbs

def Date.text (d : Date) : List Char :=
  yearText d.year ++ '-' :: padded 2 d.month ++ '-' :: padded 2 d.day

/-- A point and nanoseconds in three, six or nine digits, as many as are needed; nothing if there
are none. -/
def fractionText (nanos : Nat) : List Char :=
  if nanos = 0 then []
  else if nanos % 1000000 = 0 then '.' :: padded 3 (nanos / 1000000)
  else if nanos % 1000 = 0 then '.' :: padded 6 (nanos / 1000)
  else '.' :: padded 9 nanos

def Instant.standardText (zone : String) (t : Instant) : List Char :=
  t.date.text ++ 'T' :: padded 2 t.hour ++ ':' :: padded 2 t.minute ++ ':' :: padded 2 t.second ++
    fractionText t.fraction ++ zone.toList

end Spreadsheet.Calendar
