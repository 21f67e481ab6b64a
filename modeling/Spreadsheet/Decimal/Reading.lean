import Spreadsheet.Decimal.Binary
import Spreadsheet.Text.Blank
import Spreadsheet.Text.Digits

namespace Spreadsheet.Decimal

open Spreadsheet.Text

/-- The float nearest to `mantissa * 10 ^ exponent`. Exponents that lead beyond every float are
answered at once. -/
def nearest (mantissa : Nat) (exponent : Int) : Float :=
  let lead := exponent + (Nat.toDigits 10 mantissa).length
  if mantissa = 0 ∨ lead < -400 then 0
  else if 400 < lead then 1 / 0
  else Float.ofScientific mantissa (exponent < 0) exponent.natAbs

def exponent? : List Char → Option Int
  | [] => some 0
  | c :: cs =>
    if c = 'e' ∨ c = 'E' then
      match cs with
      | '-' :: ds => (numeral? ds).map fun n => -n
      | '+' :: ds => (numeral? ds).map fun n => n
      | ds => (numeral? ds).map fun n => n
    else none

def unsigned? (cs : List Char) : Option Float :=
  let whole := spanDigits cs
  let rest : List Char × List Char :=
    match whole.2 with
    | '.' :: ds => spanDigits ds
    | ds => ([], ds)
  if whole.1 = [] ∧ rest.1 = [] then none
  else (exponent? rest.2).map fun e =>
    nearest (valueFrom 0 (whole.1 ++ rest.1)) (e - rest.1.length)

def special? (cs : List Char) : Option Float :=
  match String.ofList (cs.map Char.toLower) with
  | "inf" | "infinity" => some (1 / 0)
  | "nan" => some (0 / 0)
  | _ => none

def float? (cs : List Char) : Option Float :=
  let magnitude? := fun ds => (unsigned? ds).orElse fun _ => special? ds
  match cs with
  | '-' :: ds => (magnitude? ds).map fun x => -x
  | '+' :: ds => magnitude? ds
  | ds => magnitude? ds

/-- A number as a user enters it: blanks at the ends and thousands separators are ignored, and the
number must be finite. -/
def number? (cs : List Char) : Option Float :=
  let digits := (trim cs).filter (· != ',')
  if digits = [] then none else (float? digits).bind finite?

def parse? (s : String) : Option Float :=
  number? s.toList

end Spreadsheet.Decimal
