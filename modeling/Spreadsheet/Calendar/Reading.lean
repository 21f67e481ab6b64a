import Spreadsheet.Calendar.Instant
import Spreadsheet.Power
import Spreadsheet.Text.Blank

namespace Spreadsheet.Calendar

open Spreadsheet.Text

structure Stamp where
  year : Int
  month : Nat
  day : Nat
  hour : Nat
  minute : Nat
  second : Nat
  nanos : Nat
deriving DecidableEq, Repr

namespace Stamp

def zero : Stamp := ⟨0, 0, 0, 0, 0, 0, 0⟩

def date? (s : Stamp) : Option Date :=
  Date.valid? ⟨s.year, s.month, s.day⟩

/-- The instant of a stamp in a zone that is `offset` seconds ahead of universal time. The sixtieth
second of a minute is a leap second. -/
def instant? (s : Stamp) (offset : Int) : Option Instant := do
  let date ← s.date?
  let leap := s.second / 60
  let ofDay : Int := s.hour * 3600 + s.minute * 60 + (s.second - leap : Nat)
  Instant.valid? ⟨date.dayNumber * 86400 + ofDay - offset, s.nanos + leap * 1000000000⟩

end Stamp

/-- What a form asks for next. A year has four digits at most, or a sign and any number of digits;
the other fields have two digits at most. -/
inductive Part where
  | year
  | month
  | day
  | hour
  | minute
  | second
  | fraction
  | mark (c : Char)
  | blanks
deriving DecidableEq, Repr

def spanNumeral? (width : Nat) (cs : List Char) : Option (Nat × List Char) :=
  let digits := (spanDigits cs).1.take width
  (numeral? digits).map fun n => (n, cs.drop digits.length)

def spanFixed? (width : Nat) (cs : List Char) : Option (Nat × List Char) :=
  let digits := (spanDigits cs).1.take width
  if digits.length = width then (numeral? digits).map fun n => (n, cs.drop width) else none

def spanYear? (cs : List Char) : Option (Int × List Char) :=
  match cs with
  | '-' :: rest => (spanNumeral? rest.length rest).map fun p => (-p.1, p.2)
  | '+' :: rest => (spanNumeral? rest.length rest).map fun p => (p.1, p.2)
  | _ => (spanNumeral? 4 cs).map fun p => (p.1, p.2)

def spanField? (least most : Nat) (cs : List Char) : Option (Nat × List Char) :=
  (spanNumeral? 2 (trimStart cs)).filter fun p => least ≤ p.1 && p.1 ≤ most

def spanFraction? : List Char → Option (Nat × List Char)
  | '.' :: cs =>
    let digits := (spanDigits cs).1.take 9
    (numeral? digits).map fun n => (n * tenTo (9 - digits.length), (spanDigits cs).2)
  | cs => some (0, cs)

def Part.read? (s : Stamp) (cs : List Char) : Part → Option (Stamp × List Char)
  | year => (spanYear? (trimStart cs)).map fun p => ({ s with year := p.1 }, p.2)
  | month => (spanField? 1 12 cs).map fun p => ({ s with month := p.1 }, p.2)
  | day => (spanField? 1 31 cs).map fun p => ({ s with day := p.1 }, p.2)
  | hour => (spanField? 0 23 cs).map fun p => ({ s with hour := p.1 }, p.2)
  | minute => (spanField? 0 59 cs).map fun p => ({ s with minute := p.1 }, p.2)
  | second => (spanField? 0 60 cs).map fun p => ({ s with second := p.1 }, p.2)
  | fraction => (spanFraction? cs).map fun p => ({ s with nanos := p.1 }, p.2)
  | mark c =>
    match cs with
    | d :: rest => if d = c then some (s, rest) else none
    | [] => none
  | blanks => some (s, trimStart cs)

def readParts? (s : Stamp) (cs : List Char) : List Part → Option (Stamp × List Char)
  | [] => some (s, cs)
  | part :: parts => (part.read? s cs).bind fun p => readParts? p.1 p.2 parts

def readForm? (form : List Part) (cs : List Char) : Option Stamp :=
  (readParts? .zero cs form).bind fun p => if p.2 = [] then some p.1 else none

def dateForm (separator : Char) : List Part :=
  [.year, .mark separator, .month, .mark separator, .day]

def minuteForm : List Part := [.hour, .mark ':', .minute]

def secondForm : List Part := minuteForm ++ [.mark ':', .second]

def dateForms : List (List Part) :=
  [dateForm '-', dateForm '/', dateForm '.',
    dateForm '-' ++ .mark 'T' :: secondForm,
    dateForm '-' ++ .blanks :: secondForm,
    dateForm '-' ++ .mark 'T' :: minuteForm,
    dateForm '/' ++ .blanks :: minuteForm]

def offsetSign? (c : Char) : Option Int :=
  if c = '+' then some 1 else if c = '-' ∨ c.toNat = 0x2212 then some (-1) else none

/-- The offset of a zone in seconds: `Z`, or a sign, two digits of hours, what `gap` accepts, and
two digits of minutes. -/
def zone? (gap : List Char → Option (List Char)) : List Char → Option (Int × List Char)
  | [] => none
  | c :: cs =>
    if c = 'Z' ∨ c = 'z' then some (0, cs)
    else do
      let sign ← offsetSign? c
      let (hours, cs) ← spanFixed? 2 cs
      let cs ← gap cs
      let (minutes, cs) ← spanFixed? 2 cs
      if minutes < 60 then some (sign * (hours * 3600 + minutes * 60), cs) else none

def colon? : List Char → Option (List Char)
  | ':' :: cs => some cs
  | _ => none

/-- Fields of fixed width, then the zone: the internet form of date and time. It gives the stamp and
the offset of the zone, which is less than a day. -/
def spanInternet? (cs : List Char) : Option ((Stamp × Int) × List Char) := do
  let (year, cs) ← spanFixed? 4 cs
  let (_, cs) ← (Part.mark '-').read? .zero cs
  let (month, cs) ← spanFixed? 2 cs
  let (_, cs) ← (Part.mark '-').read? .zero cs
  let (day, cs) ← spanFixed? 2 cs
  let cs ← match cs with
    | c :: cs => if c = 'T' ∨ c = 't' ∨ c = ' ' then some cs else none
    | [] => none
  let (hour, cs) ← spanFixed? 2 cs
  let cs ← colon? cs
  let (minute, cs) ← spanFixed? 2 cs
  let cs ← colon? cs
  let (second, cs) ← spanFixed? 2 cs
  let (nanos, cs) ← spanFraction? cs
  let (offset, cs) ← zone? colon? cs
  if hour ≤ 23 ∧ minute ≤ 59 ∧ second ≤ 60 ∧ offset.natAbs < 86400 then
    some ((⟨year, month, day, hour, minute, second, nanos⟩, offset), cs)
  else none

def internet? (cs : List Char) : Option (Instant × Date) := do
  let ((stamp, offset), rest) ← spanInternet? cs
  if rest = [] then some (← stamp.instant? offset, ← stamp.date?) else none

def readDate? (cs : List Char) : Option Date :=
  let cs := trim cs
  (dateForms.findSome? fun form => (readForm? form cs).bind Stamp.date?).orElse fun _ =>
    (internet? cs).map (·.2)

def looseGap (cs : List Char) : Option (List Char) :=
  some (cs.dropWhile fun c => c == ':' || isBlank c)

def looseZone? (cs : List Char) : Option (Int × List Char) :=
  if eqIgnoringCase (cs.take 3) ['U', 'T', 'C'] then some (0, cs.drop 3) else zone? looseGap cs

/-- A loosely written instant: the internet form with blanks between its parts and fields of any
width. -/
def readInstant? (cs : List Char) : Option Instant := do
  let (stamp, cs) ← readParts? .zero cs
    [.year, .blanks, .mark '-', .month, .blanks, .mark '-', .day]
  let cs ← match cs with
    | c :: cs => if c = 'T' ∨ c = 't' ∨ c = ' ' then some cs else none
    | [] => none
  let (stamp, cs) ← readParts? stamp cs
    [.hour, .blanks, .mark ':', .minute, .blanks, .mark ':', .second, .fraction, .blanks]
  let (offset, cs) ← looseZone? cs
  if trimStart cs = [] ∧ offset.natAbs < 86400 then stamp.instant? offset else none

def readLocal? (cs : List Char) : Option Instant :=
  let forms := [dateForm '-' ++ .mark 'T' :: secondForm ++ [.fraction], dateForm '-']
  forms.findSome? fun form => (readForm? form cs).bind (·.instant? 0)

def daysBetween (cs ds : List Char) : Nat :=
  match readDate? cs, readDate? ds with
  | some a, some b => (a.dayNumber - b.dayNumber).natAbs
  | _, _ => 0

end Spreadsheet.Calendar
