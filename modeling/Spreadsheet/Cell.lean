import Spreadsheet.Decimal.Layout
import Spreadsheet.Decimal.Reading
import Spreadsheet.Text.Search

namespace Spreadsheet

/-- Values carry no type of their own: the column decides how they are shown, checked and read. -/
inductive Cell where
  | blank
  | flag (b : Bool)
  | number (x : Float)
  | text (s : String)
  | list (items : List String)
deriving DecidableEq, Repr, Inhabited

def joinItems (separator : String) (items : List String) : String :=
  String.ofList (Text.join separator.toList (items.map String.toList))

namespace Cell

def isEmpty : Cell → Bool
  | blank => true
  | text s => s == ""
  | list items => items.isEmpty
  | flag _ | number _ => false

def toText : Cell → String
  | blank => ""
  | flag b => if b then "true" else "false"
  | number x => Decimal.numberText x
  | text s => s
  | list items => joinItems "," items

def number? : Cell → Option Float
  | number x => Decimal.finite? x
  | flag b => some (if b then 1 else 0)
  | text s => Decimal.parse? s
  | blank | list _ => none

def numberOrZero (v : Cell) : Float :=
  v.number?.getD 0

end Cell

end Spreadsheet
