import Spreadsheet.Column.Display
import Spreadsheet.Config
import Spreadsheet.Row

namespace Spreadsheet

inductive Direction where
  | ascending
  | descending
deriving DecidableEq, Repr, Inhabited

structure SortOrder where
  column : String
  direction : Direction
deriving DecidableEq, Inhabited

structure Table where
  columns : List Column
  rows : List Row
  /-- For each column with a filter, the text in lower case that its cells must contain. -/
  filters : Dictionary String String
  sort : Option SortOrder
  evaluator : Formula.Evaluator
  columnWidth : Float
deriving DecidableEq, Inhabited

/-- What a document holds of a table: its columns and rows, and nothing of the view. -/
structure TableDocument where
  columns : List Column
  rows : List Row
deriving DecidableEq, Inhabited

inductive TableError where
  | blankName
  | columnExists (name : String)
  | unknownColumn (name : String)
  | notFormula (name : String)
  | mismatch (problem : ColumnProblem)
  | duplicateColumn (name : String)
  | duplicateRow (id : String)
deriving DecidableEq, Repr

def TableError.message : TableError → String
  | blankName => "Column name must not be empty"
  | columnExists name => "Column '" ++ name ++ "' already exists"
  | unknownColumn name => "Unknown column '" ++ name ++ "'"
  | notFormula name => "Column '" ++ name ++ "' is not a formula column"
  | mismatch problem => problem.message
  | duplicateColumn name => "Duplicate column name '" ++ name ++ "'"
  | duplicateRow id => "Duplicate row id '" ++ id ++ "'"

namespace Table

def empty (config : Config) (today : String) : Table where
  columns := []
  rows := []
  filters := .empty
  sort := none
  evaluator := ⟨config.formula.mode, config.formula.marker, today⟩
  columnWidth := config.columnWidth

def column? (t : Table) (name : String) : Option Column :=
  t.columns.find? (·.name == name)

def row? (t : Table) (id : String) : Option Row :=
  t.rows.find? (·.id == id)

def columnNames (t : Table) : List String :=
  t.columns.map (·.name)

def evaluate (t : Table) (formula : String) (row : Row) : Formula.Result :=
  t.evaluator.evaluate t.columnNames t.rows row formula

def cell (t : Table) (row : Row) (column : Column) : Cell :=
  match column.kind, column.formula with
  | .formula, some formula => (t.evaluate formula row).toCell
  | _, _ => row.get column.name

def display (t : Table) (row : Row) (column : Column) : String :=
  column.kind.render (t.cell row column)

def columnsError? (seen : List String) : List Column → Option TableError
  | [] => none
  | c :: cs =>
    if seen.contains c.name then some (.duplicateColumn c.name)
    else
      match c.problem? with
      | some problem => some (.mismatch problem)
      | none => columnsError? (c.name :: seen) cs

def rowsError? (seen : List String) : List Row → Option TableError
  | [] => none
  | r :: rs => if seen.contains r.id then some (.duplicateRow r.id) else rowsError? (r.id :: seen) rs

def load (config : Config) (today : String) (d : TableDocument) : Except TableError Table :=
  match columnsError? [] d.columns, rowsError? [] d.rows with
  | some e, _ => .error e
  | none, some e => .error e
  | none, none => .ok { empty config today with columns := d.columns, rows := d.rows }

def toDocument (t : Table) : TableDocument :=
  ⟨t.columns, t.rows⟩

end Table

end Spreadsheet
