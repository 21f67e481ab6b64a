import Spreadsheet.Calendar.Instant
import Spreadsheet.Power

namespace Spreadsheet.Calendar

open Spreadsheet.Text

inductive Pad where
  | none
  | zero
  | space
deriving DecidableEq, Repr

inductive Numeric where
  | year
  | century
  | yearOfCentury
  | isoYear
  | isoYearOfCentury
  | quarter
  | month
  | day
  | weekFromSunday
  | weekFromMonday
  | isoWeek
  | weekdayFromSunday
  | weekdayFromMonday
  | ordinal
  | hour
  | hour12
  | minute
  | second
  | nanos
  | timestamp
deriving DecidableEq, Repr

inductive Item where
  | literal (c : Char)
  | numeric (n : Numeric) (pad : Pad)
  | shortMonth
  | longMonth
  | shortWeekday
  | longWeekday
  | lowerHalf
  | upperHalf
  | zoneName
  | zoneOffset (text : String)
  | fraction
  | fractionDigits (point : Bool) (digits : Nat)
  | standard
deriving DecidableEq, Repr

def numeric? : Char → Option (Numeric × Pad)
  | 'Y' => some (.year, .zero)
  | 'C' => some (.century, .zero)
  | 'y' => some (.yearOfCentury, .zero)
  | 'G' => some (.isoYear, .zero)
  | 'g' => some (.isoYearOfCentury, .zero)
  | 'q' => some (.quarter, .none)
  | 'm' => some (.month, .zero)
  | 'd' => some (.day, .zero)
  | 'e' => some (.day, .space)
  | 'U' => some (.weekFromSunday, .zero)
  | 'W' => some (.weekFromMonday, .zero)
  | 'V' => some (.isoWeek, .zero)
  | 'w' => some (.weekdayFromSunday, .none)
  | 'u' => some (.weekdayFromMonday, .none)
  | 'j' => some (.ordinal, .zero)
  | 'H' => some (.hour, .zero)
  | 'k' => some (.hour, .space)
  | 'I' => some (.hour12, .zero)
  | 'l' => some (.hour12, .space)
  | 'M' => some (.minute, .zero)
  | 'S' => some (.second, .zero)
  | 'f' => some (.nanos, .zero)
  | 's' => some (.timestamp, .none)
  | _ => none

def clockItems : List Item :=
  [.numeric .hour .zero, .literal ':', .numeric .minute .zero, .literal ':', .numeric .second .zero]

def directive? (c : Char) : Option (List Item) :=
  match numeric? c with
  | some (n, pad) => some [.numeric n pad]
  | none =>
    match c with
    | 'b' | 'h' => some [.shortMonth]
    | 'B' => some [.longMonth]
    | 'a' => some [.shortWeekday]
    | 'A' => some [.longWeekday]
    | 'p' => some [.upperHalf]
    | 'P' => some [.lowerHalf]
    | 'Z' => some [.zoneName]
    | 'z' => some [.zoneOffset "+0000"]
    | '+' => some [.standard]
    | 'D' | 'x' => some [.numeric .month .zero, .literal '/', .numeric .day .zero, .literal '/',
        .numeric .yearOfCentury .zero]
    | 'F' => some [.numeric .year .zero, .literal '-', .numeric .month .zero, .literal '-',
        .numeric .day .zero]
    | 'v' => some [.numeric .day .space, .literal '-', .shortMonth, .literal '-',
        .numeric .year .zero]
    | 'R' => some [.numeric .hour .zero, .literal ':', .numeric .minute .zero]
    | 'T' | 'X' => some clockItems
    | 'r' => some [.numeric .hour12 .zero, .literal ':', .numeric .minute .zero, .literal ':',
        .numeric .second .zero, .literal ' ', .upperHalf]
    | 'c' => some ([.shortWeekday, .literal ' ', .shortMonth, .literal ' ', .numeric .day .space,
        .literal ' '] ++ clockItems ++ [.literal ' ', .numeric .year .zero])
    | 'n' => some [.literal '\n']
    | 't' => some [.literal '\t']
    | '%' => some [.literal '%']
    | _ => none

/-- The items of a pattern. A number may have its padding chosen by a sign before the letter; an
unknown directive makes the whole pattern invalid. -/
def items? : List Char → Option (List Item)
  | [] => some []
  | '%' :: '-' :: c :: cs => do return .numeric (← numeric? c).1 .none :: (← items? cs)
  | '%' :: '0' :: c :: cs => do return .numeric (← numeric? c).1 .zero :: (← items? cs)
  | '%' :: '_' :: c :: cs => do return .numeric (← numeric? c).1 .space :: (← items? cs)
  | '%' :: '.' :: 'f' :: cs => do return .fraction :: (← items? cs)
  | '%' :: '.' :: '3' :: 'f' :: cs => do return .fractionDigits true 3 :: (← items? cs)
  | '%' :: '.' :: '6' :: 'f' :: cs => do return .fractionDigits true 6 :: (← items? cs)
  | '%' :: '.' :: '9' :: 'f' :: cs => do return .fractionDigits true 9 :: (← items? cs)
  | '%' :: '3' :: 'f' :: cs => do return .fractionDigits false 3 :: (← items? cs)
  | '%' :: '6' :: 'f' :: cs => do return .fractionDigits false 6 :: (← items? cs)
  | '%' :: '9' :: 'f' :: cs => do return .fractionDigits false 9 :: (← items? cs)
  | '%' :: ':' :: 'z' :: cs => do return .zoneOffset "+00:00" :: (← items? cs)
  | '%' :: ':' :: ':' :: 'z' :: cs => do return .zoneOffset "+00:00:00" :: (← items? cs)
  | '%' :: ':' :: ':' :: ':' :: 'z' :: cs => do return .zoneOffset "+00" :: (← items? cs)
  | '%' :: c :: cs => do return (← directive? c) ++ (← items? cs)
  | '%' :: [] => none
  | c :: cs => do return .literal c :: (← items? cs)

def Pad.wide (pad : Pad) (width : Nat) (signed : Bool) (n : Int) : List Char :=
  let sign := if n < 0 then ['-'] else if signed then ['+'] else []
  match pad with
  | none => sign ++ natural n.natAbs
  | zero => sign ++ padLeft (width - sign.length) '0' (natural n.natAbs)
  | space => padLeft width ' ' (sign ++ natural n.natAbs)

/-- Two places. The first one has the character that many after the digit zero, and numbers are
taken modulo 256. -/
def Pad.two (pad : Pad) (n : Int) : List Char :=
  let tens := (n % 256).toNat / 10
  let ones := Char.ofNat (48 + (n % 256).toNat % 10)
  match pad with
  | none => if tens = 0 then [ones] else [Char.ofNat (48 + tens), ones]
  | zero => [Char.ofNat (48 + tens), ones]
  | space => [if tens = 0 then ' ' else Char.ofNat (48 + tens), ones]

def Pad.year (pad : Pad) (year : Int) : List Char :=
  if 0 ≤ year ∧ year < 10000 then pad.wide 4 false year else pad.wide 5 true year

def Numeric.text (t : Instant) (pad : Pad) : Numeric → List Char
  | year => pad.year t.date.year
  | century => pad.two (t.date.year / 100)
  | yearOfCentury => pad.two (t.date.year % 100)
  | isoYear => pad.year t.date.isoWeek.1
  | isoYearOfCentury => pad.two (t.date.isoWeek.1 % 100)
  | quarter => natural ((t.date.month + 2) / 3)
  | month => pad.two t.date.month
  | day => pad.two t.date.day
  | weekFromSunday => pad.two (t.date.weekFrom 0)
  | weekFromMonday => pad.two (t.date.weekFrom 1)
  | isoWeek => pad.two t.date.isoWeek.2
  | weekdayFromSunday => natural t.date.weekday
  | weekdayFromMonday => natural ((t.date.weekday + 6) % 7 + 1)
  | ordinal => pad.wide 3 false t.date.ordinal
  | hour => pad.two t.hour
  | hour12 => pad.two ((t.hour + 11) % 12 + 1 : Nat)
  | minute => pad.two t.minute
  | second => pad.two t.second
  | nanos => pad.wide 9 false t.fraction
  | timestamp => pad.wide 9 false t.seconds

def monthNames : List String :=
  ["January", "February", "March", "April", "May", "June", "July", "August", "September",
    "October", "November", "December"]

def weekdayNames : List String :=
  ["Sunday", "Monday", "Tuesday", "Wednesday", "Thursday", "Friday", "Saturday"]

def Item.text (t : Instant) : Item → List Char
  | literal c => [c]
  | numeric n pad => n.text t pad
  | shortMonth => (monthNames.getD (t.date.month - 1) "").toList.take 3
  | longMonth => (monthNames.getD (t.date.month - 1) "").toList
  | shortWeekday => (weekdayNames.getD t.date.weekday "").toList.take 3
  | longWeekday => (weekdayNames.getD t.date.weekday "").toList
  | lowerHalf => if t.hour < 12 then ['a', 'm'] else ['p', 'm']
  | upperHalf => if t.hour < 12 then ['A', 'M'] else ['P', 'M']
  | zoneName => ['U', 'T', 'C']
  | zoneOffset text => text.toList
  | fraction => fractionText t.fraction
  | fractionDigits point digits =>
    (if point then ['.'] else []) ++ padded digits (t.fraction / tenTo (9 - digits))
  | standard => t.standardText "+00:00"

def Instant.format? (t : Instant) (pattern : String) : Option String :=
  (items? pattern.toList).map fun items => String.ofList (items.flatMap (Item.text t))

end Spreadsheet.Calendar
