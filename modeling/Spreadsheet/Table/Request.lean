import Spreadsheet.Error
import Spreadsheet.Table.Basic

namespace Spreadsheet

open Spreadsheet.Text

def Direction.name : Direction → String
  | ascending => "asc"
  | descending => "desc"

def Direction.read (s : String) : Except Failure Direction :=
  match String.ofList (lower s.toList) with
  | "asc" | "ascending" => .ok .ascending
  | "desc" | "descending" => .ok .descending
  | other => .error (.parse ("Unknown sort direction '" ++ other ++ "' (use asc or desc)"))

/-- A column, with its direction after the last colon if a direction stands there. -/
def SortOrder.read (s : String) : Except Failure SortOrder :=
  let plain : SortOrder := ⟨s, .ascending⟩
  let order :=
    match splitLast ':' s.toList with
    | some (column, direction) =>
      match Direction.read (String.ofList direction) with
      | .ok direction => ⟨String.ofList column, direction⟩
      | .error _ => plain
    | none => plain
  if order.column = "" then .error (.parse "Sort column must not be empty") else .ok order

def readFilter (s : String) : Except Failure (String × String) :=
  match splitOnce ['='] s.toList with
  | some (c :: column, text) => .ok (String.ofList (c :: column), String.ofList text)
  | _ => .error (.parse ("Filter '" ++ s ++ "' must look like column=substring"))

end Spreadsheet
