import Mathlib
import Spreadsheet.Proofs.Dictionary
import Spreadsheet.Proofs.Table.Consistency

namespace Spreadsheet

namespace Row

variable (r : Row) {column column' : String} (v v' : Cell)

@[simp] theorem id_set : (r.set column v).id = r.id :=
  rfl

theorem get?_set (name : String) :
    (r.set column v).cells.get? name = if name = column then some v else r.cells.get? name :=
  r.cells.get?_insert column name v

theorem set_set : (r.set column v).set column v' = r.set column v' := by
  simp only [set, Dictionary.insert_insert]

theorem set_comm (h : column ≠ column') :
    (r.set column v).set column' v' = (r.set column' v').set column v := by
  simp only [set, r.cells.insert_comm h]

end Row

namespace Table

variable {t : Table} {id column id' column' : String} {v v' : Cell} {r : Row} {rows : List Row}

theorem setCell_cons_of_eq (h : r.id = id) :
    setCell id column v (r :: rows) = r.set column v :: rows := by
  rw [setCell, if_pos h]

theorem setCell_cons_of_ne (h : r.id ≠ id) :
    setCell id column v (r :: rows) = r :: setCell id column v rows := by
  rw [setCell, if_neg h]

theorem setCell_of_mem (hnodup : (rows.map (·.id)).Nodup) (hid : id ∈ rows.map (·.id)) :
    setCell id column v rows = rows.map fun r => if r.id = id then r.set column v else r := by
  induction rows with
  | nil => cases hid
  | cons r rows ih =>
    rw [List.map_cons, List.nodup_cons] at hnodup
    rw [List.map_cons]
    by_cases hr : r.id = id
    · have hrest : rows.map (fun r => if r.id = id then r.set column v else r) = rows := by
        conv_rhs => rw [← List.map_id rows]
        refine List.map_congr_left fun s hs => if_neg ?_
        intro hs'
        rw [hr, ← hs'] at hnodup
        exact hnodup.1 (List.mem_map_of_mem hs)
      rw [setCell_cons_of_eq hr, if_pos hr, hrest]
    · have hmem : id ∈ rows.map (·.id) := by
        simpa [Ne.symm hr] using hid
      rw [setCell_cons_of_ne hr, if_neg hr, ih hnodup.2 hmem]

theorem setCell_of_not_mem (hid : id ∉ rows.map (·.id)) :
    setCell id column v rows = rows ++ [(Row.fresh id).set column v] := by
  induction rows with
  | nil => rfl
  | cons r rows ih =>
    rw [List.map_cons, List.mem_cons, not_or] at hid
    rw [setCell_cons_of_ne (Ne.symm hid.1), ih hid.2, List.cons_append]

theorem row?_updateCell (t : Table) (id column name : String) (v : Cell) :
    (t.updateCell id column v).row? name =
      if name = id then some (((t.row? id).getD (.fresh id)).set column v) else t.row? name := by
  simp only [row?, updateCell]
  induction t.rows with
  | nil =>
    by_cases hname : name = id
    · simp [setCell, hname, Row.fresh]
    · simp [setCell, hname, Ne.symm hname, Row.fresh]
  | cons r rows ih =>
    by_cases hr : r.id = id
    · rw [setCell_cons_of_eq hr]
      by_cases hname : name = id
      · simp [hr, hname]
      · simp [hr, hname, Ne.symm hname]
    · have hbeq : (r.id == id) = false := beq_false_of_ne hr
      rw [setCell_cons_of_ne hr, List.find?_cons, ih]
      by_cases hname : name = id
      · simp [hname, hbeq]
      · simp [List.find?_cons, hname]

/-- What is stored in a row under a name, by the identifier of the row. -/
def stored? (t : Table) (id name : String) : Option Cell :=
  (t.row? id).bind fun r => r.cells.get? name

theorem stored?_updateCell (t : Table) (id column id' name : String) (v : Cell) :
    (t.updateCell id column v).stored? id' name =
      if id' = id ∧ name = column then some v else t.stored? id' name := by
  rw [stored?, row?_updateCell]
  by_cases hid : id' = id
  · rw [if_pos hid, hid, Option.bind_some, Row.get?_set]
    by_cases hname : name = column
    · rw [if_pos hname, if_pos ⟨rfl, hname⟩]
    · rw [if_neg hname, if_neg fun h => hname h.2, stored?]
      cases t.row? id <;> rfl
  · rw [if_neg hid, if_neg fun h => hid h.1, stored?]

/-- A table is another one but for one cell. The row of the cell keeps its place, and if there was
none, it is a last row that holds nothing else. -/
structure SetsCell (t : Table) (id column : String) (v : Cell) (t' : Table) : Prop where
  columns : t'.columns = t.columns
  filters : t'.filters = t.filters
  sort : t'.sort = t.sort
  evaluator : t'.evaluator = t.evaluator
  columnWidth : t'.columnWidth = t.columnWidth
  stored : ∀ id' name, t'.stored? id' name =
    if id' = id ∧ name = column then some v else t.stored? id' name
  known : id ∈ t.rowIds → t'.rows = t.rows.map fun r => if r.id = id then r.set column v else r
  unknown : id ∉ t.rowIds →
    ∃ r, t'.rows = t.rows ++ [r] ∧ r.id = id ∧ r.cells.entries = [(column, v)]

theorem setsCell_updateCell (hnodup : t.rowIds.Nodup) (id column : String) (v : Cell) :
    t.SetsCell id column v (t.updateCell id column v) where
  columns := rfl
  filters := rfl
  sort := rfl
  evaluator := rfl
  columnWidth := rfl
  stored id' name := t.stored?_updateCell id column id' name v
  known hid := setCell_of_mem hnodup hid
  unknown hid := ⟨_, setCell_of_not_mem hid, rfl, rfl⟩

theorem setCell_setCell (id column : String) (v v' : Cell) (rows : List Row) :
    setCell id column v' (setCell id column v rows) = setCell id column v' rows := by
  induction rows with
  | nil => simp [setCell, Row.set_set, Row.fresh]
  | cons r rows ih =>
    by_cases hr : r.id = id
    · have hset : (r.set column v).id = id := hr
      rw [setCell_cons_of_eq hr, setCell_cons_of_eq hset, setCell_cons_of_eq hr, Row.set_set]
    · rw [setCell_cons_of_ne hr, setCell_cons_of_ne hr, setCell_cons_of_ne hr, ih]

/-- The updates pass each other in every row, also in one that the first of them makes. -/
theorem setCell_comm (hcell : (id, column) ≠ (id', column'))
    (hrow : id = id' ∨ id ∈ rows.map (·.id) ∨ id' ∈ rows.map (·.id)) :
    setCell id' column' v' (setCell id column v rows) =
      setCell id column v (setCell id' column' v' rows) := by
  induction rows with
  | nil =>
    have hid : id = id' := by simpa using hrow
    have hcolumn : column ≠ column' := by
      rintro rfl
      exact hcell (by rw [hid])
    simp [setCell, hid, Row.fresh, Row.set_comm _ _ _ hcolumn]
  | cons r rows ih =>
    by_cases hr : r.id = id
    · rw [setCell_cons_of_eq hr]
      by_cases hr' : r.id = id'
      · have hset : (r.set column v).id = id' := hr'
        have hset' : (r.set column' v').id = id := hr
        have hcolumn : column ≠ column' := by
          rintro rfl
          exact hcell (by rw [← hr, ← hr'])
        rw [setCell_cons_of_eq hr', setCell_cons_of_eq hset, setCell_cons_of_eq hset',
          r.set_comm v v' hcolumn]
      · have hset : (r.set column v).id ≠ id' := hr'
        rw [setCell_cons_of_ne hr', setCell_cons_of_ne hset, setCell_cons_of_eq hr]
    · rw [setCell_cons_of_ne hr]
      by_cases hr' : r.id = id'
      · have hset' : (r.set column' v').id ≠ id := hr
        rw [setCell_cons_of_eq hr', setCell_cons_of_eq hr', setCell_cons_of_ne hset']
      · have hrest : id = id' ∨ id ∈ rows.map (·.id) ∨ id' ∈ rows.map (·.id) := by
          simpa [Ne.symm hr, Ne.symm hr'] using hrow
        rw [setCell_cons_of_ne hr', setCell_cons_of_ne hr', setCell_cons_of_ne hr, ih hrest]

/-- Two appended rows stand in the order in which they came. -/
theorem updateCell_ne_of_unknown (hne : id ≠ id') (hid : id ∉ t.rowIds) (hid' : id' ∉ t.rowIds) :
    (t.updateCell id column v).updateCell id' column' v' ≠
      (t.updateCell id' column' v').updateCell id column v := by
  intro h
  have hids := congrArg rowIds h
  simp [rowIds_updateCell, hid, hid', hne, Ne.symm hne] at hids

theorem updateCell_comm_iff (hcell : (id, column) ≠ (id', column')) :
    (t.updateCell id column v).updateCell id' column' v' =
        (t.updateCell id' column' v').updateCell id column v ↔
      id = id' ∨ id ∈ t.rowIds ∨ id' ∈ t.rowIds := by
  constructor
  · intro h
    by_contra hno
    rw [not_or, not_or] at hno
    obtain ⟨hne, hid, hid'⟩ := hno
    exact updateCell_ne_of_unknown hne hid hid' h
  · intro hrow
    simp only [updateCell, setCell_comm hcell hrow]

/-- Updates of different cells commute exactly if they do not append two rows, of updates of one
cell the second one alone decides, and an update sets its cell and nothing else. -/
theorem updateCell_updateCell (t : Table) (hnodup : t.rowIds.Nodup) (id column id' column' : String)
    (v v' : Cell) :
    ((id, column) ≠ (id', column') →
      ((t.updateCell id column v).updateCell id' column' v' =
          (t.updateCell id' column' v').updateCell id column v ↔
        id = id' ∨ id ∈ t.rowIds ∨ id' ∈ t.rowIds)) ∧
      (t.updateCell id column v).updateCell id column v' = t.updateCell id column v' ∧
      t.SetsCell id column v (t.updateCell id column v) := by
  refine ⟨updateCell_comm_iff, ?_, setsCell_updateCell hnodup id column v⟩
  simp only [updateCell, setCell_setCell]

def visits : Table :=
  Table.empty Config.default "2026-10-19"
    |>.after (.addColumn .text (some "guest"))
    |>.after (.updateCell "1" "guest" (.text "Ada"))
    |>.after (.sort "guest" .ascending)

theorem visits_updateCell_updateCell :
    visits.rowIds = ["1"] ∧ visits.rowIds.Nodup ∧
      (visits.updateCell "2" "guest" (.text "Bob")).updateCell "1" "guest" (.text "Cy") =
        (visits.updateCell "1" "guest" (.text "Cy")).updateCell "2" "guest" (.text "Bob") ∧
      (visits.updateCell "2" "guest" (.text "Bob")).updateCell "2" "room" (.number 7) =
        (visits.updateCell "2" "room" (.number 7)).updateCell "2" "guest" (.text "Bob") ∧
      (visits.updateCell "2" "guest" (.text "Bob")).updateCell "3" "guest" (.text "Bob") ≠
        (visits.updateCell "3" "guest" (.text "Bob")).updateCell "2" "guest" (.text "Bob") ∧
      (visits.updateCell "2" "guest" (.text "Bob")).updateCell "2" "guest" .blank =
        visits.updateCell "2" "guest" .blank ∧
      (visits.updateCell "2" "guest" (.text "Bob")).rowIds = ["1", "2"] ∧
      visits.SetsCell "2" "guest" (.text "Bob") (visits.updateCell "2" "guest" (.text "Bob")) := by
  have hnodup : visits.rowIds.Nodup := by decide
  have hknown :=
    updateCell_updateCell visits hnodup "2" "guest" "1" "guest" (.text "Bob") (.text "Cy")
  have hsame := updateCell_updateCell visits hnodup "2" "guest" "2" "room" (.text "Bob") (.number 7)
  have hnew :=
    updateCell_updateCell visits hnodup "2" "guest" "3" "guest" (.text "Bob") (.text "Bob")
  have hblank := updateCell_updateCell visits hnodup "2" "guest" "2" "guest" (.text "Bob") .blank
  refine ⟨by decide, hnodup, ?_, ?_, ?_, hblank.2.1, by decide, hblank.2.2⟩
  · exact (hknown.1 (by decide)).mpr (by decide)
  · exact (hsame.1 (by decide)).mpr (by decide)
  · exact fun h => absurd ((hnew.1 (by decide)).mp h) (by decide)

end Table

end Spreadsheet
