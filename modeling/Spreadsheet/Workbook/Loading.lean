import Spreadsheet.Text.Case
import Spreadsheet.Workbook.Package
import Spreadsheet.Workbook.Reading

namespace Spreadsheet

open Spreadsheet.Text

inductive FileContent where
  | text (s : String)
  | package (p : Workbook.Package)
deriving DecidableEq

abbrev Files := String → Option FileContent

def Files.text (files : Files) (path : String) : Except Failure String :=
  match files path with
  | some (.text s) => .ok s
  | some (.package _) => .error (.io "stream did not contain valid UTF-8")
  | none => .error (.io "No such file or directory (os error 2)")

/-- The part of the last name in a path after its last point, in lower case. A point at the
beginning of a name starts no extension. -/
def pathExtension (path : String) : String :=
  let name := ((splitOn '/' path.toList).filter (· ≠ [])).getLast?.getD []
  match splitLast '.' name with
  | some (_ :: _, extension) => if name = ['.', '.'] then "" else String.ofList (lower extension)
  | _ => ""

namespace Workbook

def loadPackage (files : Files) (path : String) : Except Failure SourceWorkbook :=
  let refuse := fun reason =>
    .error (.importing ("Failed to open Excel file " ++ path ++ ": " ++ reason))
  match files path with
  | some (.package p) => .ok p.toWorkbook
  | some (.text _) => refuse "Zip error: invalid Zip archive: Could not find EOCD"
  | none => refuse "I/O error: No such file or directory (os error 2)"

def SourceWorkbook.load (files : Files) (path : String) : Except Failure SourceWorkbook :=
  match pathExtension path with
  | "xlsx" | "xlsm" => loadPackage files path
  | "json" => (files.text path).bind readJson
  | "yaml" | "yml" => (files.text path).bind readYaml
  | other =>
    .error (.importing ("Unsupported workbook format '" ++ other ++ "' for " ++ path))

end Workbook

end Spreadsheet
