import Spreadsheet.Cell
import Spreadsheet.Config
import Spreadsheet.Workbook.Clock
import Spreadsheet.Workbook.Merge
import Spreadsheet.Workbook.Style

namespace Spreadsheet.Workbook

open Spreadsheet.Text

inductive CellType where
  | string
  | number
  | date
  | boolean
  | error
deriving DecidableEq, Repr

def CellType.name : CellType → String
  | string => "string"
  | number => "number"
  | date => "date"
  | boolean => "boolean"
  | error => "error"

structure DecodedCell where
  value : Cell
  displayText : String
  formula : Option String
  type : CellType
  style : CellStyle
  hidden : Bool
  rowSpan : Nat
  columnSpan : Nat
deriving DecidableEq

def DecodedCell.blank : DecodedCell :=
  ⟨.blank, "", none, .string, .plain, false, 1, 1⟩

structure Shown where
  value : Cell
  text : String
  type : CellType
deriving DecidableEq

def isClockNumber (x : Float) : Bool :=
  0 < x && x < 1

/-- How a serial is shown: as a date after the beginning of 1970, else as a time of day. -/
def showSerial (dateFormat : String) (serial : Float) : Shown :=
  if epochSerial < serial then
    match serialInstant? serial with
    | some t => ⟨.number serial, instantText dateFormat t, .date⟩
    | none => ⟨.number serial, Decimal.numberText serial, .number⟩
  else if Decimal.isFinite serial then
    ⟨.number serial, clockText (timeOfDay serial), .date⟩
  else ⟨.blank, "", .error⟩

def Scalar.shown (dateFormat : String) : Scalar → Shown
  | empty => ⟨.blank, "", .string⟩
  | number x =>
    if isClockNumber x then ⟨.number x, clockText x, .date⟩
    else ⟨.number x, Decimal.numberText x, .number⟩
  | date serial => showSerial dateFormat serial
  | instant t =>
    ⟨.text (String.ofList (t.standardText "+00:00")), instantText dateFormat t, .date⟩
  | text s => ⟨.text s, shortenClock s, .string⟩
  | flag b => ⟨.flag b, if b then "TRUE" else "FALSE", .boolean⟩
  | error code => ⟨.text code, code, .error⟩

namespace SourceCell

def formulaText? (c : SourceCell) : Option String :=
  c.formula.bind fun s =>
    match trim s.toList with
    | [] => none
    | '=' :: cs => some (String.ofList cs)
    | cs => some (String.ofList cs)

/-- What the cell shows: its rich text if it has no formula, else the result that is kept, else its
value. -/
def shown (c : SourceCell) (dateFormat : String) : Shown :=
  match c.formulaText?, c.richText with
  | none, some runs => let text := String.join runs; ⟨.text text, text, .string⟩
  | _, _ =>
    match c.result with
    | some result => if result = .empty then c.value.shown dateFormat else result.shown dateFormat
    | none => c.value.shown dateFormat

def decode (c : SourceCell) (dateFormat : String) : DecodedCell :=
  let shown := c.shown dateFormat
  let style := match c.style with
    | some style => style.decode
    | none => .plain
  { DecodedCell.blank with
    value := shown.value
    displayText := (c.text.filter fun s => !allBlank s.toList).getD shown.text
    formula := c.formulaText?
    type := shown.type
    style := { style with numberFormat := c.numberFormat.filter fun s => s ≠ "" ∧ s ≠ "General" } }

end SourceCell

structure Worksheet where
  name : String
  cells : List (List DecodedCell)
  columnWidths : List Float
  rowHeights : List Float
  merges : List MergeRange
  rows : Nat
  columns : Nat
deriving DecidableEq

namespace Worksheet

def cell? (w : Worksheet) (p : Position) : Option DecodedCell :=
  w.cells[p.1]?.bind (·[p.2]?)

def placedCells (w : Worksheet) : List (Position × DecodedCell) :=
  (w.cells.zipIdx.map fun row => row.1.zipIdx.map fun cell => ((row.2, cell.2), cell.1)).flatten

def visibleCells (w : Worksheet) : List (Position × DecodedCell) :=
  w.placedCells.filter fun c => !c.2.hidden

def nonEmptyCount (w : Worksheet) : Nat :=
  w.cells.flatten.countP fun c => c.displayText ≠ ""

def formulaCount (w : Worksheet) : Nat :=
  w.cells.flatten.countP fun c => c.formula.isSome

end Worksheet

def counted? (n : Option Nat) : Option Nat :=
  n.filter (0 < ·)

namespace Dimensions

def reportedRows (d : Dimensions) : Option Nat :=
  (counted? d.actualRows).orElse fun _ => counted? d.rows

def reportedColumns (d : Dimensions) : Option Nat :=
  (counted? d.actualColumns).orElse fun _ => counted? d.columns

end Dimensions

def greater? : Option Nat → Option Nat → Option Nat
  | none, none => none
  | m, n => some (max (m.getD 0) (n.getD 0))

def Checked.countUpTo : Option Nat → Checked (Option Nat)
  | none => return none
  | some last => return some (← add last 1)

/-- The rows and columns of the grid of a sheet: as many as are reported or in use, and one row more,
or the defaults. Both are capped, after their counts are found. -/
def Dimensions.resolve (d : Dimensions) (config : DecodeConfig) : Checked (Nat × Nat) := do
  let usedRows ← Checked.countUpTo d.lastUsedRow
  let usedColumns ← Checked.countUpTo d.lastUsedColumn
  let rows ← match greater? d.reportedRows usedRows with
    | none => pure config.defaultRows
    | some n => Checked.add n 1
  let columns := (greater? d.reportedColumns usedColumns).getD config.defaultColumns
  return (min rows config.maxRows, min columns config.maxColumns)

namespace SourceSheet

def borderAt (sheet : SourceSheet) (size : Nat × Nat) (p : Position) : Option SourceBorder :=
  if p.1 < size.1 ∧ p.2 < size.2 then
    ((sheet.cell? p.1 p.2).bind (·.style)).bind (·.border)
  else none

def decodeAt (sheet : SourceSheet) (config : DecodeConfig) (size : Nat × Nat) (merges : Merges)
    (p : Position) : DecodedCell :=
  let cell := match sheet.cell? p.1 p.2 with
    | some c => c.decode config.dateFormat
    | none => .blank
  let span := merges.span p.1 p.2
  { cell with
    style := { cell.style with
      border := cellBorder? config.gridlineColor (sheet.borderAt size) p }
    hidden := merges.isHidden p.1 p.2
    rowSpan := span.1
    columnSpan := span.2 }

def decodeSized (sheet : SourceSheet) (config : DecodeConfig) (size : Nat × Nat) : Worksheet :=
  let merges := Merges.ofLabels size.1 size.2 sheet.merges
  { name := sheet.name
    cells := (List.range size.1).map fun r =>
      (List.range size.2).map fun c => sheet.decodeAt config size merges (r, c)
    columnWidths := (List.range size.2).map fun c =>
      (positive? (sheet.columnWidths.get? c)).getD config.defaultColumnWidth
    rowHeights := (List.range size.1).map fun r =>
      (positive? (sheet.rowHeights.get? r)).getD config.defaultRowHeight
    merges := merges.ranges
    rows := size.1
    columns := size.2 }

def decode (sheet : SourceSheet) (config : DecodeConfig) : Checked Worksheet := do
  return sheet.decodeSized config (← sheet.dimensions.resolve config)

end SourceSheet

def SourceWorkbook.decode (workbook : SourceWorkbook) (config : DecodeConfig) :
    Checked (List Worksheet) :=
  workbook.mapM fun sheet => sheet.decode config

end Spreadsheet.Workbook
