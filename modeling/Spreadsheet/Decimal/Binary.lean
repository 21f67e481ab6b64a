import Spreadsheet.Power

namespace Spreadsheet.Decimal

/-- The number `mantissa * 2 ^ exponent`, with its sign kept apart so that zero has two signs. -/
structure Dyadic where
  negative : Bool
  mantissa : Nat
  exponent : Int
deriving DecidableEq, Repr

def dyadic? (x : Float) : Option Dyadic :=
  let bits := x.toBits.toNat
  let fraction : Nat := bits % twoTo 52
  let scale : Nat := bits / twoTo 52 % twoTo 11
  let negative := bits / twoTo 63 == 1
  if scale = 2047 then none
  else if scale = 0 then some ⟨negative, fraction, -1074⟩
  else some ⟨negative, twoTo 52 + fraction, (scale : Int) - 1075⟩

def isFinite (x : Float) : Bool :=
  (dyadic? x).isSome

def finite? (x : Float) : Option Float :=
  if isFinite x then some x else none

namespace Dyadic

def round (d : Dyadic) : Int :=
  let size :=
    if 0 ≤ d.exponent then d.mantissa * twoTo d.exponent.toNat
    else (d.mantissa + twoTo ((-d.exponent).toNat - 1)) / twoTo (-d.exponent).toNat
  if d.negative then -size else size

/-- The fractional part, towards minus infinity, in units of `2 ^ exponent`. -/
def fraction (d : Dyadic) : Nat :=
  if 0 ≤ d.exponent then 0
  else
    let unit := twoTo (-d.exponent).toNat
    let part := d.mantissa % unit
    if d.negative ∧ part ≠ 0 then unit - part else part

end Dyadic

def clamp (low high n : Int) : Int :=
  max low (min high n)

def isNegative (x : Float) : Bool :=
  x < 0

/-- The nearest integer brought into an interval. What lies beyond every number goes to the end on
its side, and what is not a number at all goes to zero. -/
def roundWithin (low high : Int) (x : Float) : Int :=
  match dyadic? x with
  | some d => clamp low high d.round
  | none => if 0 < x then high else if x < 0 then low else 0

end Spreadsheet.Decimal
