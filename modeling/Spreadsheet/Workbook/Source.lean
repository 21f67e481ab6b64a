import Spreadsheet.Calendar.Instant
import Spreadsheet.Dictionary
import Spreadsheet.Workbook.Address
import Spreadsheet.Workbook.Color

namespace Spreadsheet.Workbook

inductive Scalar where
  | empty
  | number (x : Float)
  | text (s : String)
  | flag (b : Bool)
  | date (serial : Float)
  | instant (t : Calendar.Instant)
  | error (code : String)
deriving DecidableEq, Inhabited

structure SourceFont where
  name : Option String
  size : Option Float
  bold : Option Bool
  italic : Option Bool
  underline : Option Bool
  strike : Option Bool
  color : Option ColorSpec
deriving DecidableEq, Inhabited

structure SourceFill where
  pattern : Option String
  foreground : Option ColorSpec
  background : Option ColorSpec
deriving DecidableEq, Inhabited

structure SourceSide where
  style : Option String
  color : Option ColorSpec
deriving DecidableEq, Inhabited

structure SourceBorder where
  top : Option SourceSide
  right : Option SourceSide
  bottom : Option SourceSide
  left : Option SourceSide
deriving DecidableEq, Inhabited

structure SourceAlignment where
  horizontal : Option String
  vertical : Option String
  wrap : Option Bool
  indent : Option Float
deriving DecidableEq, Inhabited

structure SourceStyle where
  font : Option SourceFont
  fill : Option SourceFill
  border : Option SourceBorder
  alignment : Option SourceAlignment
deriving DecidableEq, Inhabited

structure SourceCell where
  value : Scalar
  formula : Option String
  /-- The result of the formula that the workbook keeps. -/
  result : Option Scalar
  richText : Option (List String)
  numberFormat : Option String
  text : Option String
  style : Option SourceStyle
deriving DecidableEq, Inhabited

def SourceCell.blank : SourceCell :=
  ⟨.empty, none, none, none, none, none, none⟩

/-- What a sheet reports about its size; each count may be missing or zero. -/
structure Dimensions where
  actualRows : Option Nat
  actualColumns : Option Nat
  rows : Option Nat
  columns : Option Nat
  lastUsedRow : Option Nat
  lastUsedColumn : Option Nat
deriving DecidableEq, Inhabited

def Dimensions.unknown : Dimensions := ⟨none, none, none, none, none, none⟩

structure SourceSheet where
  name : String
  cells : Dictionary Position SourceCell
  dimensions : Dimensions
  merges : List String
  columnWidths : Dictionary Nat Float
  rowHeights : Dictionary Nat Float
deriving DecidableEq, Inhabited

namespace SourceSheet

def named (name : String) : SourceSheet :=
  ⟨name, .empty, .unknown, [], .empty, .empty⟩

def cell? (sheet : SourceSheet) (row column : Nat) : Option SourceCell :=
  sheet.cells.get? (row, column)

def lastUsed? (sheet : SourceSheet) : Option Position :=
  let used := (sheet.cells.entries.filter fun e => e.2.value ≠ .empty ∨ e.2.formula.isSome).map (·.1)
  match (used.map (·.1)).max?, (used.map (·.2)).max? with
  | some row, some column => some (row, column)
  | _, _ => none

end SourceSheet

abbrev SourceWorkbook := List SourceSheet

structure PlacedCell where
  position : Position
  cell : SourceCell
deriving DecidableEq

structure SheetDocument where
  name : String
  cells : List PlacedCell
  dimensions : Dimensions
  merges : List String
  columnWidths : Dictionary Nat Float
  rowHeights : Dictionary Nat Float
deriving DecidableEq

/-- The sheet of a document; of two cells at one place the later one counts. -/
def SheetDocument.toSheet (d : SheetDocument) : SourceSheet where
  name := d.name
  cells := .ofList (d.cells.map fun c => (c.position, c.cell))
  dimensions := d.dimensions
  merges := d.merges
  columnWidths := d.columnWidths
  rowHeights := d.rowHeights

def SourceSheet.toDocument (sheet : SourceSheet) : SheetDocument where
  name := sheet.name
  cells := sheet.cells.entries.map fun e => ⟨e.1, e.2⟩
  dimensions := sheet.dimensions
  merges := sheet.merges
  columnWidths := sheet.columnWidths
  rowHeights := sheet.rowHeights

end Spreadsheet.Workbook
