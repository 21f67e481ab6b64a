import Spreadsheet.Decimal.Shortest
import Spreadsheet.Text.Digits

namespace Spreadsheet.Decimal

open Spreadsheet.Text

/-- The choices of a layout: whether an integer ends in `.0`, and the leading exponents that are
written positionally (`none` for all). -/
structure Layout where
  wholeFraction : Bool
  positional : Option (Int × Int)

def plain : Layout := ⟨false, none⟩

/-- Numbers as descriptions of tokens show them: positional from `0.0001` to below `10 ^ 16`. -/
def tagged : Layout := ⟨true, some (-4, 15)⟩

def positionalText (wholeFraction : Bool) (ds : List Char) (exponent : Int) : List Char :=
  if 0 ≤ exponent then
    ds ++ List.replicate exponent.toNat '0' ++ (if wholeFraction then ['.', '0'] else [])
  else
    let places := (-exponent).toNat
    if places < ds.length then ds.take (ds.length - places) ++ '.' :: ds.drop (ds.length - places)
    else ['0', '.'] ++ List.replicate (places - ds.length) '0' ++ ds

def scientificText (ds : List Char) (lead : Int) : List Char :=
  ds.take 1 ++ (if ds.length = 1 then [] else '.' :: ds.drop 1) ++ 'e' :: integer lead

def Layout.magnitude (layout : Layout) (d : Dyadic) : List Char :=
  if d.mantissa = 0 then if layout.wholeFraction then ['0', '.', '0'] else ['0']
  else
    let decimal := shortest d
    let ds := natural decimal.digits
    let lead := decimal.exponent + ds.length - 1
    match layout.positional with
    | none => positionalText layout.wholeFraction ds decimal.exponent
    | some (least, most) =>
      if least ≤ lead ∧ lead ≤ most then
        positionalText layout.wholeFraction ds decimal.exponent
      else scientificText ds lead

def Layout.text (layout : Layout) (x : Float) : List Char :=
  match dyadic? x with
  | some d => (if d.negative then ['-'] else []) ++ layout.magnitude d
  | none => if 0 < x then ['i', 'n', 'f'] else if x < 0 then ['-', 'i', 'n', 'f'] else
      ['N', 'a', 'N']

/-- The text of a number in a cell: the plain layout, in which zero has no sign. -/
def numberText (x : Float) : String :=
  if x == 0 then "0" else String.ofList (plain.text x)

def signedText (x : Float) : String :=
  String.ofList (plain.text x)

def taggedText (x : Float) : String :=
  String.ofList (tagged.text x)

end Spreadsheet.Decimal
