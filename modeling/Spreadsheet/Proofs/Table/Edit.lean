import Mathlib
import Spreadsheet.Table.Edit

namespace Spreadsheet

theorem Column.problem?_eq_none_iff (c : Column) :
    c.problem? = none ↔ (c.formula.isSome = true ↔ c.kind = .formula) := by
  unfold problem? isFormula
  by_cases hk : c.kind = .formula
  · cases c.formula <;> simp [hk]
  · have hb : (c.kind == .formula) = false := beq_false_of_ne hk
    cases c.formula <;> simp [hb, hk]

namespace Table

variable {t t' : Table}

def rowIds (t : Table) : List String :=
  t.rows.map (·.id)

theorem column?_eq_none_iff {name : String} : t.column? name = none ↔ name ∉ t.columnNames := by
  simp [column?, columnNames]

theorem column?_isSome_iff {name : String} :
    (t.column? name).isSome = true ↔ name ∈ t.columnNames := by
  rw [Option.isSome_iff_ne_none, ne_eq, column?_eq_none_iff, not_not]

theorem column?_isNone_iff {name : String} :
    (t.column? name).isNone = true ↔ name ∉ t.columnNames := by
  rw [Option.isNone_iff_eq_none, column?_eq_none_iff]

theorem column?_eq_some_iff (h : t.columnNames.Nodup) {name : String} {c : Column} :
    t.column? name = some c ↔ c ∈ t.columns ∧ c.name = name := by
  constructor
  · intro hc
    exact ⟨List.mem_of_find?_eq_some hc, by simpa using (List.find?_eq_some_iff_append.mp hc).1⟩
  · rintro ⟨hc, rfl⟩
    obtain ⟨d, hd⟩ : ∃ d, t.column? c.name = some d := by
      rw [← Option.isSome_iff_exists, column?_isSome_iff]
      exact List.mem_map_of_mem hc
    have hn : d.name = c.name := by simpa using (List.find?_eq_some_iff_append.mp hd).1
    rw [hd, List.inj_on_of_nodup_map h (List.mem_of_find?_eq_some hd) hc hn]

theorem insertColumn_eq_ok_iff {c : Column} :
    t.insertColumn c = .ok t' ↔
      Text.allBlank c.name.toList = false ∧ c.name ∉ t.columnNames ∧ c.problem? = none ∧
        t' = { t with
          columns := t.columns ++ [{ c with width := some (c.width.getD t.columnWidth) }] } := by
  unfold insertColumn
  rw [← column?_eq_none_iff]
  cases Text.allBlank c.name.toList <;> cases t.column? c.name <;> cases c.problem? <;>
    simp [eq_comm]

theorem setColumnFormula_eq_ok_iff {name formula : String} :
    t.setColumnFormula name formula = .ok t' ↔
      (∃ c, t.column? name = some c ∧ c.kind = .formula) ∧
        t' = t.modifyColumn name fun c => { c with formula := some formula } := by
  unfold setColumnFormula Column.isFormula
  cases t.column? name with
  | none => simp
  | some c =>
    by_cases hk : c.kind = .formula
    · simp [hk, eq_comm (a := t')]
    · have hb : (c.kind == .formula) = false := beq_false_of_ne hk
      simp [hb, hk]

/-- The table in which everything under one name stands under another. -/
def renamed (t : Table) (old new : String) : Table :=
  { t.modifyColumn old fun c => { c with name := new } with
    rows := t.rows.map fun r => r.rename old new
    filters := t.filters.rename old new
    sort := t.sort.map fun s => if s.column = old then { s with column := new } else s }

theorem renameColumn_eq_ok_iff {old new : String} :
    t.renameColumn old new = .ok t' ↔
      ((old = new ∨ old ∉ t.columnNames) ∧ t' = t) ∨
      (old ≠ new ∧ old ∈ t.columnNames ∧ Text.allBlank new.toList = false ∧
        new ∉ t.columnNames ∧ t' = t.renamed old new) := by
  unfold renameColumn
  rw [← column?_isSome_iff, ← column?_eq_none_iff]
  by_cases he : old = new
  · simp [he, eq_comm (a := t')]
  · cases t.column? old with
    | none => simp [he, eq_comm (a := t')]
    | some _ =>
      cases t.column? new <;> cases Text.allBlank new.toList <;>
        simp [he, renamed, eq_comm (a := t')]

theorem columnNames_modifyColumn (name : String) {f : Column → Column}
    (hf : ∀ c ∈ t.columns, c.name = name → (f c).name = c.name) :
    (t.modifyColumn name f).columnNames = t.columnNames := by
  simp only [columnNames, modifyColumn, List.map_map]
  refine List.map_congr_left fun c hc => ?_
  by_cases hcn : c.name = name
  · simp [hcn, hf c hc hcn]
  · simp [hcn]

theorem columnNames_renamed (old new : String) :
    (t.renamed old new).columnNames =
      t.columnNames.map fun name => if name = old then new else name := by
  simp only [columnNames, renamed, modifyColumn, List.map_map]
  refine List.map_congr_left fun c _ => ?_
  by_cases hc : c.name = old <;> simp [hc]

theorem columnNames_deleteColumn (name : String) :
    (t.deleteColumn name).columnNames = t.columnNames.filter (· != name) := by
  unfold deleteColumn
  split
  · rename_i h
    rw [column?_isNone_iff] at h
    refine (List.filter_eq_self.mpr fun x hx => ?_).symm
    simpa using ne_of_mem_of_not_mem hx h
  · simp only [columnNames, List.filter_map]
    rfl

theorem mem_columns_of_mem_deleteColumn {name : String} {c : Column}
    (hc : c ∈ (t.deleteColumn name).columns) : c ∈ t.columns := by
  unfold deleteColumn at hc
  split at hc
  · exact hc
  · exact List.mem_of_mem_filter hc

theorem rowIds_addRow (id : String) : (t.addRow id).rowIds = t.rowIds ++ [id] := by
  simp [rowIds, addRow, Row.fresh]

theorem map_id_setCell (id column : String) (v : Cell) (rows : List Row) :
    (setCell id column v rows).map (·.id) =
      if id ∈ rows.map (·.id) then rows.map (·.id) else rows.map (·.id) ++ [id] := by
  induction rows with
  | nil => rfl
  | cons r rows ih =>
    by_cases hr : r.id = id
    · simp [setCell, hr, Row.set]
    · have hr' : id ≠ r.id := Ne.symm hr
      rw [setCell, if_neg hr, List.map_cons, ih, List.map_cons]
      split <;> simp_all

theorem rowIds_updateCell (id column : String) (v : Cell) :
    (t.updateCell id column v).rowIds =
      if id ∈ t.rowIds then t.rowIds else t.rowIds ++ [id] :=
  map_id_setCell id column v t.rows

theorem mem_map_id_copyAfter {id copy : String} {rows : List Row} {x : String}
    (hx : x ∈ (copyAfter id copy rows).map (·.id)) : x = copy ∨ x ∈ rows.map (·.id) := by
  induction rows with
  | nil => exact .inr hx
  | cons r rows ih =>
    by_cases hr : r.id = id
    · simp only [copyAfter, hr, if_true, List.map_cons, List.mem_cons] at hx ⊢
      tauto
    · simp only [copyAfter, hr, if_false, List.map_cons, List.mem_cons] at hx ⊢
      rcases hx with hx | hx
      · exact .inr (.inl hx)
      · exact (ih hx).imp_right .inr

theorem nodup_map_id_copyAfter (id : String) {copy : String} {rows : List Row}
    (h : (rows.map (·.id)).Nodup) (hc : copy ∉ rows.map (·.id)) :
    ((copyAfter id copy rows).map (·.id)).Nodup := by
  induction rows with
  | nil => exact h
  | cons r rows ih =>
    rw [List.map_cons, List.nodup_cons] at h
    rw [List.map_cons, List.mem_cons, not_or] at hc
    by_cases hr : r.id = id
    · rw [copyAfter, if_pos hr, List.map_cons, List.map_cons, List.nodup_cons, List.nodup_cons]
      refine ⟨?_, hc.2, h.2⟩
      rw [List.mem_cons, not_or]
      exact ⟨Ne.symm hc.1, h.1⟩
    · rw [copyAfter, if_neg hr, List.map_cons, List.nodup_cons]
      refine ⟨fun hm => ?_, ih h.2 hc.2⟩
      rcases mem_map_id_copyAfter hm with he | hm
      · exact hc.1 he.symm
      · exact h.1 hm

theorem rowIds_renamed (old new : String) : (t.renamed old new).rowIds = t.rowIds := by
  simp [rowIds, renamed, Row.rename, Function.comp_def]

theorem rowIds_deleteColumn (name : String) : (t.deleteColumn name).rowIds = t.rowIds := by
  unfold deleteColumn
  split
  · rfl
  · simp [rowIds, Row.erase, Function.comp_def]

end Table

end Spreadsheet
