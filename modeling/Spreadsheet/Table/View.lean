import Spreadsheet.Column.Validation
import Spreadsheet.Table.Basic
import Spreadsheet.Text.Collation

namespace Spreadsheet.Table

variable (t : Table)

def textOf (row : Row) (name : String) : String :=
  match t.column? name with
  | some c => (t.cell row c).toText
  | none => (row.get name).toText

def sortKey (row : Row) (name : String) : String :=
  match t.column? name with
  | some c => c.kind.sortKey (t.cell row c)
  | none => (row.get name).toText

def passes (row : Row) (name substring : String) : Bool :=
  Text.contains substring.toList (Text.lower (t.textOf row name).toList)

def isVisible (row : Row) : Bool :=
  t.filters.entries.all fun f => t.passes row f.1 f.2

def admits (direction : Direction) (key key' : String) : Bool :=
  match direction with
  | .ascending => Text.collate key key' != .gt
  | .descending => Text.collate key' key != .gt

/-- Rows in the order of a sort; rows with equal keys keep their order. -/
def sortRows (s : SortOrder) (rows : List Row) : List Row :=
  let keyed := rows.map fun r => (t.sortKey r s.column, r)
  (keyed.mergeSort fun a b => admits s.direction a.1 b.1).map (·.2)

def view : List Row :=
  let visible := t.rows.filter t.isVisible
  match t.sort with
  | some s => t.sortRows s visible
  | none => visible

def rowIssues (row : Row) : List (String × Issue) :=
  (t.columns.filter fun c => !c.isFormula).flatMap fun c =>
    (c.validate (row.get c.name)).map fun issue => (c.name, issue)

def issues : List (String × String × Issue) :=
  t.rows.flatMap fun r => (t.rowIssues r).map fun issue => (r.id, issue)

end Spreadsheet.Table
