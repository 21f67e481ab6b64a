import Spreadsheet.Table.View
import Spreadsheet.Text.Digits
import Spreadsheet.Workbook.Worksheet

namespace Spreadsheet.Report

open Spreadsheet.Workbook

def lines (ls : List String) : String :=
  String.join (ls.map (· ++ "\n"))

def count (n : Nat) : String :=
  String.ofList (Text.natural n)

def sheetLines (w : Worksheet) : List String :=
  ["   📊 Sheet: " ++ w.name,
    "      " ++ count w.rows ++ " rows x " ++ count w.columns ++ " columns, " ++
      count w.nonEmptyCount ++ " non-empty cells"] ++
    (if w.merges = [] then []
      else ["      Merged: " ++ joinItems ", " (w.merges.map (·.label))]) ++
    (if w.formulaCount = 0 then [] else ["      Formulas: " ++ count w.formulaCount]) ++ [""]

def inspection (file : String) (sheets : List Worksheet) : String :=
  lines (["📗 gridforge - Workbook Inspection", "   File: " ++ file, ""] ++
    sheets.flatMap sheetLines ++ ["✅ " ++ count sheets.length ++ " sheet(s) decoded"])

def formulaLines (t : Table) (formula : String) : List String :=
  ("   Formula: " ++ formula) ::
    t.view.map fun row => "   " ++ row.id ++ " = " ++ (t.evaluate formula row).toText

def rowLines (t : Table) (row : Row) : List String :=
  ("   📄 Row: " ++ row.id) ::
    t.columns.map fun c =>
      "      " ++ c.name ++ (if c.isFormula then " (formula)" else "") ++ " = " ++ t.display row c

/-- The issues of all rows, of which there may be more than the view has. -/
def issueLines (t : Table) : List String :=
  if t.issues = [] then []
  else
    ("⚠️  " ++ count t.issues.length ++ " validation issue(s)") ::
      t.issues.map fun i => "   " ++ i.1 ++ " / " ++ i.2.1 ++ ": " ++ i.2.2.message

def evaluation (file : String) (t : Table) (formula : Option String) : String :=
  let body := match formula with
    | some formula => formulaLines t formula
    | none => t.view.flatMap (rowLines t)
  lines (["🧮 gridforge - Table Evaluation", "   File: " ++ file,
    "   " ++ count t.view.length ++ " of " ++ count t.rows.length ++ " rows, " ++
      count t.columns.length ++ " columns", ""] ++ body ++ [""] ++ issueLines t)

end Spreadsheet.Report
