import Mathlib
import Spreadsheet.Proofs.Table.Edit

namespace Spreadsheet

/-- Steps that read and write a stored table and may fail. -/
abbrev Session := EStateM TableError Table

namespace Session

def refuse (b : Bool) (e : TableError) : Session Unit :=
  if b then throw e else pure ()

def writeColumns (f : List Column → List Column) : Session Unit :=
  modify fun t => { t with columns := f t.columns }

def writeRows (f : List Row → List Row) : Session Unit :=
  modify fun t => { t with rows := f t.rows }

def writeFilters (f : Dictionary String String → Dictionary String String) : Session Unit :=
  modify fun t => { t with filters := f t.filters }

def writeSort (f : Option SortOrder → Option SortOrder) : Session Unit :=
  modify fun t => { t with sort := f t.sort }

def deleteRow (id : String) : Session Unit := do
  if ((← get).row? id).isNone then return
  writeRows (·.filter (·.id != id))

def duplicateRow (id copy : String) : Session Unit := do
  if ((← get).row? id).isNone then return
  writeRows (Table.copyAfter id copy)

def insertColumn (c : Column) : Session Unit := do
  refuse (Text.allBlank c.name.toList) .blankName
  refuse ((← get).column? c.name).isSome (.columnExists c.name)
  match c.problem? with
  | some problem => throw (.mismatch problem)
  | none =>
    let c := { c with width := some (c.width.getD (← get).columnWidth) }
    writeColumns (· ++ [c])

def addColumn (kind : ColumnKind) (name : Option String) : Session Unit := do
  let name := name.getD (← get).nextColumnName
  insertColumn (.ofKind name kind)

def setColumnFormula (name formula : String) : Session Unit := do
  match (← get).column? name with
  | none => throw (.unknownColumn name)
  | some c =>
    refuse (!c.isFormula) (.notFormula name)
    writeColumns (·.map fun c => if c.name = name then { c with formula := some formula } else c)

def renameColumn (old new : String) : Session Unit := do
  if old = new ∨ ((← get).column? old).isNone then return
  refuse (Text.allBlank new.toList) .blankName
  refuse ((← get).column? new).isSome (.columnExists new)
  writeColumns (·.map fun c => if c.name = old then { c with name := new } else c)
  writeRows (·.map fun r => r.rename old new)
  writeFilters (·.rename old new)
  writeSort (·.map fun s => if s.column = old then { s with column := new } else s)

def deleteColumn (name : String) : Session Unit := do
  if ((← get).column? name).isNone then return
  writeColumns (·.filter (·.name != name))
  writeRows (·.map fun r => r.erase name)
  writeFilters (·.erase name)
  writeSort (·.filter (·.column != name))

def setColumnWidth (name : String) (width : Float) : Session Unit := do
  if ((← get).column? name).isNone then return
  writeColumns (·.map fun c => if c.name = name then { c with width := some width } else c)

def filterBy (column substring : String) : Session Unit :=
  if substring = "" then writeFilters (·.erase column)
  else writeFilters (·.insert column (String.ofList (Text.lower substring.toList)))

def perform : Edit → Session Unit
  | .addRow id => writeRows (· ++ [.fresh id])
  | .deleteRow id => deleteRow id
  | .updateCell id column v => writeRows (Table.setCell id column v)
  | .duplicateRow id copy => duplicateRow id copy
  | .addColumn kind name => addColumn kind name
  | .addFormulaColumn name formula => insertColumn (.ofFormula name formula)
  | .insertColumn c => insertColumn c
  | .setColumnFormula name formula => setColumnFormula name formula
  | .renameColumn old new => renameColumn old new
  | .deleteColumn name => deleteColumn name
  | .setColumnWidth name width => setColumnWidth name width
  | .sort column direction => writeSort fun _ => some ⟨column, direction⟩
  | .clearSort => writeSort fun _ => none
  | .filter column substring => filterBy column substring
  | .clearFilters => writeFilters fun _ => .empty

/-- The end of a session that makes a change at once or not at all. -/
def atomic (t : Table) : Except TableError Table → EStateM.Result TableError Table Unit
  | .ok t' => .ok () t'
  | .error e => .error e t

variable (t : Table)

@[simp] theorem run_refuse_true (e : TableError) : (refuse true e).run t = .error e t := rfl

@[simp] theorem run_refuse_false (e : TableError) : (refuse false e).run t = .ok () t := rfl

@[simp] theorem run_writeColumns (f : List Column → List Column) :
    (writeColumns f).run t = .ok () { t with columns := f t.columns } := rfl

@[simp] theorem run_writeRows (f : List Row → List Row) :
    (writeRows f).run t = .ok () { t with rows := f t.rows } := rfl

@[simp] theorem run_writeFilters (f : Dictionary String String → Dictionary String String) :
    (writeFilters f).run t = .ok () { t with filters := f t.filters } := rfl

@[simp] theorem run_writeSort (f : Option SortOrder → Option SortOrder) :
    (writeSort f).run t = .ok () { t with sort := f t.sort } := rfl

theorem run_get_bind (f : Table → Session Unit) : (get >>= f).run t = (f t).run t := rfl

theorem run_deleteRow (id : String) : (deleteRow id).run t = .ok () (t.deleteRow id) := by
  cases h : t.row? id with
  | none =>
    have hr : t.rows.filter (·.id != id) = t.rows := by
      simpa [Table.row?, List.filter_eq_self] using h
    simp [deleteRow, Table.deleteRow, h, hr]
  | some r => simp [deleteRow, Table.deleteRow, h]

theorem copyAfter_eq_self {id copy : String} {rows : List Row} (h : ∀ r ∈ rows, r.id ≠ id) :
    Table.copyAfter id copy rows = rows := by
  induction rows with
  | nil => rfl
  | cons r rows ih =>
    rw [List.forall_mem_cons] at h
    rw [Table.copyAfter, if_neg h.1, ih h.2]

theorem run_duplicateRow (id copy : String) :
    (duplicateRow id copy).run t = .ok () (t.duplicateRow id copy) := by
  cases h : t.row? id with
  | none =>
    have hr : Table.copyAfter id copy t.rows = t.rows :=
      copyAfter_eq_self (by simpa [Table.row?] using h)
    simp [duplicateRow, Table.duplicateRow, h, hr]
  | some r => simp [duplicateRow, Table.duplicateRow, h]

theorem run_insertColumn (c : Column) : (insertColumn c).run t = atomic t (t.insertColumn c) := by
  unfold insertColumn Table.insertColumn
  cases Text.allBlank c.name.toList with
  | true => simp [atomic]
  | false =>
    cases hc : t.column? c.name with
    | some _ => simp [atomic, hc]
    | none => cases c.problem? <;> simp [atomic, hc]

theorem run_addColumn (kind : ColumnKind) (name : Option String) :
    (addColumn kind name).run t = atomic t (t.addColumn kind name) := by
  rw [addColumn, run_get_bind, run_insertColumn, Table.addColumn]

theorem run_setColumnFormula (name formula : String) :
    (setColumnFormula name formula).run t = atomic t (t.setColumnFormula name formula) := by
  unfold setColumnFormula Table.setColumnFormula
  cases hc : t.column? name with
  | none => simp [atomic, hc]
  | some c => cases hf : c.isFormula <;> simp [atomic, hc, hf, Table.modifyColumn]

theorem run_renameColumn (old new : String) :
    (renameColumn old new).run t = atomic t (t.renameColumn old new) := by
  unfold renameColumn Table.renameColumn
  by_cases h : old = new ∨ t.column? old = none
  · simp [atomic, h]
  · cases Text.allBlank new.toList with
    | true => simp [atomic, h]
    | false => cases hc : t.column? new <;> simp [atomic, h, hc, Table.modifyColumn]

theorem run_deleteColumn (name : String) :
    (deleteColumn name).run t = .ok () (t.deleteColumn name) := by
  cases h : t.column? name <;> simp [deleteColumn, Table.deleteColumn, h]

theorem modifyColumn_eq_self {name : String} (h : t.column? name = none) (f : Column → Column) :
    t.modifyColumn name f = t := by
  have hn : ∀ c ∈ t.columns, c.name ≠ name := by
    simpa [Table.columnNames] using Table.column?_eq_none_iff.mp h
  have hc : t.columns.map (fun c => if c.name = name then f c else c) = t.columns := by
    conv_rhs => rw [← List.map_id t.columns]
    exact List.map_congr_left fun c hc => if_neg (hn c hc)
  rw [Table.modifyColumn, hc]

theorem run_setColumnWidth (name : String) (width : Float) :
    (setColumnWidth name width).run t = .ok () (t.setColumnWidth name width) := by
  cases h : t.column? name with
  | none =>
    have hc : t.modifyColumn name (fun c => { c with width := some width }) = t :=
      modifyColumn_eq_self t h _
    simp [setColumnWidth, Table.setColumnWidth, h, hc]
  | some c => simp [setColumnWidth, Table.setColumnWidth, Table.modifyColumn, h]

theorem run_filterBy (column substring : String) :
    (filterBy column substring).run t = .ok () (t.filterBy column substring) := by
  by_cases h : substring = "" <;> simp [filterBy, Table.filterBy, h]

/-- A change carried out in place ends as if it were made at once or not at all. -/
theorem run_perform (e : Edit) : (perform e).run t = atomic t (t.apply e) := by
  cases e with
  | addRow id => rfl
  | deleteRow id => exact run_deleteRow t id
  | updateCell id column v => rfl
  | duplicateRow id copy => exact run_duplicateRow t id copy
  | addColumn kind name => exact run_addColumn t kind name
  | addFormulaColumn name formula => exact run_insertColumn t _
  | insertColumn c => exact run_insertColumn t c
  | setColumnFormula name formula => exact run_setColumnFormula t name formula
  | renameColumn old new => exact run_renameColumn t old new
  | deleteColumn name => exact run_deleteColumn t name
  | setColumnWidth name width => exact run_setColumnWidth t name width
  | sort column direction => rfl
  | clearSort => rfl
  | filter column substring => exact run_filterBy t column substring
  | clearFilters => rfl

end Session

end Spreadsheet
