import Spreadsheet.Table.Basic
import Spreadsheet.Text.Blank

namespace Spreadsheet.Table

variable (t : Table)

def addRow (id : String) : Table :=
  { t with rows := t.rows ++ [.fresh id] }

def deleteRow (id : String) : Table :=
  { t with rows := t.rows.filter (·.id != id) }

/-- Set a cell of the row with an identifier, or append a row with this cell only. -/
def setCell (id column : String) (v : Cell) : List Row → List Row
  | [] => [(Row.fresh id).set column v]
  | r :: rs => if r.id = id then r.set column v :: rs else r :: setCell id column v rs

def updateCell (id column : String) (v : Cell) : Table :=
  { t with rows := setCell id column v t.rows }

def copyAfter (id copy : String) : List Row → List Row
  | [] => []
  | r :: rs =>
    if r.id = id then r :: { r with id := copy } :: rs else r :: copyAfter id copy rs

def duplicateRow (id copy : String) : Table :=
  { t with rows := copyAfter id copy t.rows }

def insertColumn (c : Column) : Except TableError Table :=
  if Text.allBlank c.name.toList then .error .blankName
  else if (t.column? c.name).isSome then .error (.columnExists c.name)
  else
    match c.problem? with
    | some problem => .error (.mismatch problem)
    | none =>
      .ok { t with columns := t.columns ++ [{ c with width := some (c.width.getD t.columnWidth) }] }

def numberedName (n : Nat) : String :=
  "Column " ++ String.ofList (Text.natural n)

/-- The first free name `Column n` whose number is greater than the count of columns; with `k`
columns it is one of `k + 1` names. -/
def nextColumnName : String :=
  let k := t.columns.length
  ((List.range' (k + 1) (k + 1)).map numberedName).find? (fun name => (t.column? name).isNone)
    |>.getD (numberedName (2 * k + 1))

def addColumn (kind : ColumnKind) (name : Option String) : Except TableError Table :=
  t.insertColumn (.ofKind (name.getD t.nextColumnName) kind)

def addFormulaColumn (name formula : String) : Except TableError Table :=
  t.insertColumn (.ofFormula name formula)

def modifyColumn (name : String) (f : Column → Column) : Table :=
  { t with columns := t.columns.map fun c => if c.name = name then f c else c }

def setColumnFormula (name formula : String) : Except TableError Table :=
  match t.column? name with
  | none => .error (.unknownColumn name)
  | some c =>
    if c.isFormula then .ok (t.modifyColumn name fun c => { c with formula := some formula })
    else .error (.notFormula name)

/-- Rename a column with its cells, its filter and its sort. An unknown name changes nothing. -/
def renameColumn (old new : String) : Except TableError Table :=
  if old = new ∨ (t.column? old).isNone then .ok t
  else if Text.allBlank new.toList then .error .blankName
  else if (t.column? new).isSome then .error (.columnExists new)
  else .ok {
    t.modifyColumn old fun c => { c with name := new } with
    rows := t.rows.map fun r => r.rename old new
    filters := t.filters.rename old new
    sort := t.sort.map fun s => if s.column = old then { s with column := new } else s }

def deleteColumn (name : String) : Table :=
  if (t.column? name).isNone then t
  else {
    t with
    columns := t.columns.filter (·.name != name)
    rows := t.rows.map fun r => r.erase name
    filters := t.filters.erase name
    sort := t.sort.filter (·.column != name) }

def setColumnWidth (name : String) (width : Float) : Table :=
  t.modifyColumn name fun c => { c with width := some width }

def sortBy (column : String) (direction : Direction) : Table :=
  { t with sort := some ⟨column, direction⟩ }

def clearSort : Table :=
  { t with sort := none }

/-- Demand that the cells of a column contain a text, in any case of letters. An empty text removes
the filter of the column. -/
def filterBy (column substring : String) : Table :=
  if substring = "" then { t with filters := t.filters.erase column }
  else
    { t with
      filters := t.filters.insert column (String.ofList (Text.lower substring.toList)) }

def clearFilters : Table :=
  { t with filters := .empty }

end Spreadsheet.Table

namespace Spreadsheet

inductive Edit where
  | addRow (id : String)
  | deleteRow (id : String)
  | updateCell (id column : String) (v : Cell)
  | duplicateRow (id copy : String)
  | addColumn (kind : ColumnKind) (name : Option String)
  | addFormulaColumn (name formula : String)
  | insertColumn (c : Column)
  | setColumnFormula (name formula : String)
  | renameColumn (old new : String)
  | deleteColumn (name : String)
  | setColumnWidth (name : String) (width : Float)
  | sort (column : String) (direction : Direction)
  | clearSort
  | filter (column substring : String)
  | clearFilters
deriving DecidableEq

def Table.apply (t : Table) : Edit → Except TableError Table
  | .addRow id => .ok (t.addRow id)
  | .deleteRow id => .ok (t.deleteRow id)
  | .updateCell id column v => .ok (t.updateCell id column v)
  | .duplicateRow id copy => .ok (t.duplicateRow id copy)
  | .addColumn kind name => t.addColumn kind name
  | .addFormulaColumn name formula => t.addFormulaColumn name formula
  | .insertColumn c => t.insertColumn c
  | .setColumnFormula name formula => t.setColumnFormula name formula
  | .renameColumn old new => t.renameColumn old new
  | .deleteColumn name => .ok (t.deleteColumn name)
  | .setColumnWidth name width => .ok (t.setColumnWidth name width)
  | .sort column direction => .ok (t.sortBy column direction)
  | .clearSort => .ok t.clearSort
  | .filter column substring => .ok (t.filterBy column substring)
  | .clearFilters => .ok t.clearFilters

end Spreadsheet
