import Spreadsheet.Decimal.Binary
import Spreadsheet.Power

namespace Spreadsheet.Decimal

structure Digits where
  digits : Nat
  exponent : Int
deriving DecidableEq, Repr

/-- A rounding interval in units of `2 ^ exponent`: the number itself, its two ends, and whether
the ends belong to the interval. -/
structure Interval where
  low : Nat
  value : Nat
  high : Nat
  closed : Bool
  exponent : Int

/-- The reals that round to a number. Below a power of two the floats lie twice as dense. -/
def Interval.around (d : Dyadic) : Interval :=
  { low := if d.mantissa = twoTo 52 ∧ -1074 < d.exponent then 4 * d.mantissa - 1
      else 4 * d.mantissa - 2
    value := 4 * d.mantissa
    high := 4 * d.mantissa + 2
    closed := d.mantissa % 2 == 0
    exponent := d.exponent - 2 }

structure Scaled where
  low : Nat
  value : Nat
  high : Nat
  step : Nat

def Interval.scale (i : Interval) (k : Int) : Scaled :=
  let two := twoTo i.exponent.toNat
  let ten := tenTo (-k).toNat
  { low := i.low * two * ten
    value := i.value * two * ten
    high := i.high * two * ten
    step := twoTo (-i.exponent).toNat * tenTo k.toNat }

def Scaled.holds (s : Scaled) (closed : Bool) (n : Nat) : Bool :=
  if closed then s.low ≤ n * s.step && n * s.step ≤ s.high
  else s.low < n * s.step && n * s.step < s.high

def Scaled.nearest? (s : Scaled) (closed : Bool) : Option Nat :=
  let below := s.value / s.step
  match s.holds closed below, s.holds closed (below + 1) with
  | true, true => if 2 * (s.value % s.step) < s.step then some below else some (below + 1)
  | true, false => some below
  | false, true => some (below + 1)
  | false, false => none

def digitCount (n : Nat) : Nat :=
  (Nat.toDigits 10 n).length

def leadingExponent (numerator denominator : Nat) : Int :=
  let guess : Int := digitCount numerator - digitCount denominator
  if denominator * tenTo guess.toNat ≤ numerator * tenTo (-guess).toNat then guess else guess - 1

/-- The first grid, from coarse to fine, that has a point in the interval. -/
def Interval.search (i : Interval) (lead : Int) : Nat → Nat → Option Digits
  | 0, _ => none
  | fuel + 1, count =>
    let k := lead - count
    match (i.scale k).nearest? i.closed with
    | some n => some ⟨n, k⟩
    | none => i.search lead fuel (count + 1)

def Digits.strip : Nat → Digits → Digits
  | 0, d => d
  | fuel + 1, d => if d.digits % 10 = 0 then strip fuel ⟨d.digits / 10, d.exponent + 1⟩ else d

/-- Of all decimals with the fewest digits that read back as a positive number, the nearest one, the
larger of two equally near. Seventeen digits always suffice. -/
def shortest (d : Dyadic) : Digits :=
  let i := Interval.around d
  let s := i.scale 0
  match i.search (leadingExponent s.value s.step) 17 0 with
  | some digits => digits.strip 17
  | none => ⟨0, 0⟩

end Spreadsheet.Decimal
