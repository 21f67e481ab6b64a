import Spreadsheet.Calendar.Reading
import Spreadsheet.Decimal.Reading
import Spreadsheet.Text.Blank
import Spreadsheet.Workbook.Source

namespace Spreadsheet.Workbook

open Spreadsheet.Text

inductive PackageValue where
  | empty
  | whole (n : Int)
  | number (x : Float)
  | text (s : String)
  | flag (b : Bool)
  | serial (x : Float)
  | instant (s : String)
  | duration (s : String)
  | error (code : String)
deriving DecidableEq, Inhabited

def standardInstant? (s : String) : Option Calendar.Instant :=
  ((Calendar.internet? s.toList).map (·.1)).orElse fun _ => Calendar.readLocal? s.toList

/-- Instants that cannot be read stay texts, and so do lengths of time. -/
def PackageValue.toScalar : PackageValue → Scalar
  | empty => .empty
  | whole n => .number (Float.ofInt n)
  | number x => .number x
  | text s => .text s
  | flag b => .flag b
  | serial x => .date x
  | instant s =>
    match standardInstant? s with
    | some t => .instant t
    | none => .text s
  | duration s => .text s
  | error code => .error code

inductive Notation where
  | number
  | text
  | flag
  | error
  | serial
  | instant
deriving DecidableEq, Repr

def errorCodes : List String :=
  ["#DIV/0!", "#N/A", "#NAME?", "#NULL!", "#NUM!", "#REF!", "#VALUE!"]

def Notation.read? (s : String) : Notation → Option PackageValue
  | number => (Decimal.float? s.toList).map .number
  | text => some (.text s)
  | flag => some (.flag (s != "0"))
  | error => if errorCodes.contains s then some (.error s) else none
  | serial => (Decimal.float? s.toList).map .serial
  | instant => some (.instant s)

structure PackageCell where
  address : String
  kind : Notation
  value : Option String
  formula : Option String
deriving DecidableEq

def PackageCell.read? (c : PackageCell) : Option (Position × PackageValue) := do
  let position ← readAddress? c.address.toList
  match c.value with
  | some s => return (position, ← c.kind.read? s)
  | none => return (position, .empty)

structure PackagePart where
  cells : List PackageCell
  merges : List String
deriving DecidableEq

namespace PackagePart

def values? (part : PackagePart) : Option (List (Position × SourceCell)) :=
  (part.cells.mapM PackageCell.read?).map fun cells =>
    (cells.filter fun c => c.2 ≠ .empty).map fun c =>
      (c.1, { SourceCell.blank with value := c.2.toScalar })

def formulas (part : PackagePart) : Dictionary Position String :=
  .ofList (part.cells.filterMap fun c => do
    let formula ← c.formula
    if allBlank formula.toList then none
    return (← readAddress? c.address.toList, formula))

/-- Give a cell a formula, whose result is the value that the cell has. -/
def addFormula (cells : Dictionary Position SourceCell) (p : Position) (formula : String) :
    Dictionary Position SourceCell :=
  let c := (cells.get? p).getD .blank
  cells.insert p { c with value := .empty, result := some c.value, formula := some formula }

def mergeLabel? (s : String) : Option String :=
  match (splitOn ':' s.toList).mapM readAddress? with
  | some [p] => some (addressText p ++ ":" ++ addressText p)
  | some [p, q] => some (addressText p ++ ":" ++ addressText q)
  | _ => none

def lastPlace? (places : List Position) : Option Position :=
  match (places.map (·.1)).max?, (places.map (·.2)).max? with
  | some row, some column => some (row, column)
  | _, _ => none

/-- The extent of the values counts rows and columns; the last used ones count formulas as well. A
sheet without values reports nothing. -/
def dimensions (values all : List Position) : Dimensions :=
  match lastPlace? values with
  | none => .unknown
  | some last =>
    { Dimensions.unknown with
      rows := some (last.1 + 1)
      columns := some (last.2 + 1)
      lastUsedRow := (lastPlace? all).map (·.1)
      lastUsedColumn := (lastPlace? all).map (·.2) }

/-- The sheet of a part. Merged cells count only if all of them can be read, and a sheet that cannot
be read is left out. -/
def toSheet? (name : String) (part : PackagePart) : Option SourceSheet := do
  let values ← part.values?
  let cells := part.formulas.entries.foldl (fun cells e => addFormula cells e.1 e.2) (.ofList values)
  return {
    SourceSheet.named name with
    cells := cells
    dimensions := dimensions (values.map (·.1)) cells.keys
    merges := (part.merges.mapM mergeLabel?).getD [] }

end PackagePart

structure PackageSheet where
  name : String
  part : Option PackagePart
deriving DecidableEq

abbrev Package := List PackageSheet

def Package.toWorkbook (package : Package) : SourceWorkbook :=
  package.filterMap fun sheet => sheet.part.bind (·.toSheet? sheet.name)

end Spreadsheet.Workbook
