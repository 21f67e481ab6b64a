import Spreadsheet.Row

namespace Spreadsheet.Formula

inductive Value where
  | number (x : Float)
  | text (s : String)
  | flag (b : Bool)
  | blank
deriving DecidableEq, Repr

namespace Value

def ofCell : Cell → Value
  | .blank => blank
  | .flag b => flag b
  | .number x => number x
  | .text s => text s
  | .list items => text (Cell.list items).toText

/-- The number that a value counts as; blank texts count as zero. -/
def number? : Value → Option Float
  | number x => some x
  | text s => if Text.allBlank s.toList then some 0 else Decimal.parse? s
  | flag b => some (if b then 1 else 0)
  | blank => some 0

def toText : Value → String
  | number x => Decimal.numberText x
  | text s => s
  | flag b => if b then "TRUE" else "FALSE"
  | blank => ""

def isTrue : Value → Bool
  | flag b => b
  | number x => x != 0
  | text s => s != "" && !Text.eqIgnoringCase s.toList "false".toList
  | blank => false

def settle : Value → Value
  | text s =>
    match Decimal.parse? s with
    | some x => number x
    | none => text s
  | v => v

end Value

/-- What a formula can see: the names of the columns, the row that it belongs to, all rows, and the
date of today as `YYYY-MM-DD`. -/
structure Scope where
  columns : List String
  row : Row
  rows : List Row
  today : String

namespace Scope

def hasColumn (scope : Scope) (name : String) : Bool :=
  scope.columns.contains name

/-- The cell of the row in a known column; other names are truth values or stand for themselves. -/
def valueOf (scope : Scope) (name : String) : Value :=
  if scope.hasColumn name then .ofCell (scope.row.get name)
  else if name = "TRUE" then .flag true
  else if name = "FALSE" then .flag false
  else .text name

end Scope

end Spreadsheet.Formula
