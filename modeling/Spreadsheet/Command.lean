import Spreadsheet.Document.Json.Pretty
import Spreadsheet.Report
import Spreadsheet.Table.Edit
import Spreadsheet.Table.Loading
import Spreadsheet.Table.Request
import Spreadsheet.Workbook.Loading
import Spreadsheet.Workbook.Writing

namespace Spreadsheet

def Config.load (files : Files) (path : Option String) : Except Failure Config :=
  match path with
  | some path => (files.text path).bind Config.read
  | none => .ok Config.default

namespace Command

structure Inspect where
  file : String
  config : Option String
  json : Bool
deriving DecidableEq, Repr

structure Evaluate where
  file : String
  config : Option String
  formula : Option String
  sort : Option String
  filters : List String
  structured : Bool
deriving DecidableEq, Repr

def Inspect.load (files : Files) (c : Inspect) :
    Except Failure (Config × Workbook.SourceWorkbook) := do
  return (← Config.load files c.config, ← Workbook.SourceWorkbook.load files c.file)

def Inspect.text (c : Inspect) (sheets : List Workbook.Worksheet) : String :=
  if c.json then
    String.ofList (Document.Json.pretty 0 (.ofList Workbook.Worksheet.toNode sheets)) ++ "\n"
  else Report.inspection c.file sheets

/-- A fault of the arithmetic of words is no failure that the command reports: it stops the program. -/
def Inspect.run (files : Files) (c : Inspect) : Workbook.Checked (Except Failure String) := do
  match c.load files with
  | .error e => return .error e
  | .ok (config, workbook) => return .ok (c.text (← workbook.decode config.decode))

def Evaluate.settings (files : Files) (c : Evaluate) : Except Failure Config :=
  (Config.load files c.config).map fun config =>
    if c.structured then { config with formula := { config.formula with mode := .structured } }
    else config

def addFilters (t : Table) (filters : List String) : Except Failure Table :=
  filters.foldlM (fun t filter => (readFilter filter).map fun f => t.filterBy f.1 f.2) t

def addSort (t : Table) (sort : Option String) : Except Failure Table :=
  match sort with
  | some sort => (SortOrder.read sort).map fun s => t.sortBy s.column s.direction
  | none => .ok t

def Evaluate.run (files : Files) (today : String) (c : Evaluate) : Except Failure String := do
  let config ← c.settings files
  let table ← Table.read config today (← files.text c.file)
  let table ← addSort (← addFilters table c.filters) c.sort
  return Report.evaluation c.file table c.formula

end Command

end Spreadsheet
