import Mathlib
import Spreadsheet.Proofs.Formula.ColumnOrder
import Spreadsheet.Proofs.Table.Consistency
import Spreadsheet.Proofs.Table.View

namespace Spreadsheet.Table

variable {t : Table} {id copy : String} {r : Row}

section Alike

variable (t : Table) {row row' : Row} (h : row.get = row'.get)

include h

theorem cell_of_same_cells (c : Column) : t.cell row c = t.cell row' c := by
  unfold cell evaluate
  rw [h]
  simp only [Formula.Evaluator.evaluate_of_same_cells t.evaluator t.columnNames t.rows h]

theorem textOf_of_same_cells (name : String) : t.textOf row name = t.textOf row' name := by
  simp only [textOf, cell_of_same_cells t h, h]

theorem sortKey_of_same_cells (name : String) : t.sortKey row name = t.sortKey row' name := by
  simp only [sortKey, cell_of_same_cells t h, h]

theorem passes_of_same_cells : t.Passes row ↔ t.Passes row' := by
  simp only [Passes, textOf_of_same_cells t h]

end Alike

theorem copyAfter_append {earlier later : List Row} (h : ∀ s ∈ earlier, s.id ≠ r.id) :
    copyAfter r.id copy (earlier ++ r :: later) =
      earlier ++ r :: { r with id := copy } :: later := by
  induction earlier with
  | nil => rw [List.nil_append, copyAfter, if_pos rfl, List.nil_append]
  | cons s earlier ih =>
    rw [List.cons_append, copyAfter, if_neg (h s List.mem_cons_self),
      ih fun s' hs' => h s' (List.mem_cons_of_mem s hs'), List.cons_append]

theorem infix_copyAfter {rows : List Row} (hids : (rows.map (·.id)).Nodup) (hr : r ∈ rows) :
    [r, { r with id := copy }] <:+: copyAfter r.id copy rows := by
  obtain ⟨earlier, later, rfl⟩ := List.append_of_mem hr
  rw [List.map_append, List.map_cons, List.nodup_append] at hids
  have hne : ∀ s ∈ earlier, s.id ≠ r.id :=
    fun s hs => hids.2.2 s.id (List.mem_map_of_mem hs) r.id List.mem_cons_self
  rw [copyAfter_append hne]
  exact ⟨earlier, later, by simp⟩

theorem mem_view : r ∈ t.view ↔ r ∈ t.rows ∧ t.Passes r := by
  rw [t.shows_view.perm.mem_iff, passing, List.mem_filter, decide_eq_true_eq]

theorem infix_view {r' : Row} (hcells : r.get = r'.get) (hrows : [r, r'] <:+: t.rows)
    (hr : t.Passes r) : [r, r'] <:+: t.view := by
  have hr' : t.Passes r' := (passes_of_same_cells t hcells).mp hr
  have hpassing : [r, r'] <:+: t.passing := by
    have h := hrows.filter fun row => t.Passes row
    rw [passing]
    simpa [hr, hr'] using h
  cases hs : t.sort with
  | none => rwa [t.shows_view.stored hs]
  | some s =>
    have hkey : t.sortKey r' s.column = t.sortKey r s.column :=
      (sortKey_of_same_cells t hcells s.column).symm
    have htogether : [r, r'] <:+:
        t.view.filter fun row => t.sortKey row s.column = t.sortKey r s.column := by
      rw [t.shows_view.stable s hs]
      have h := hpassing.filter fun row => decide (t.sortKey row s.column = t.sortKey r s.column)
      simpa [hkey] using h
    apply htogether.trans
    apply filter_infix_of_pairwise (admits_antisymm s.direction) (admits_refl s.direction)
    exact (t.shows_view.ordered s hs).imp admits_iff.mpr

theorem nodup_view (h : t.rowIds.Nodup) : t.view.Nodup := by
  apply t.shows_view.perm.nodup_iff.mpr
  exact (List.Nodup.of_map _ h).filter _

/-- The second of two neighbours with the same cells is shown right after the first, or neither of
them is shown. -/
theorem next_in_view {r' : Row} (hids : t.rowIds.Nodup) (hcells : r.get = r'.get)
    (hrows : [r, r'] <:+: t.rows) :
    (r' ∈ t.view ↔ r ∈ t.view) ∧ ∀ i, t.view[i]? = some r → t.view[i + 1]? = some r' := by
  constructor
  · have hr : r ∈ t.rows := hrows.subset (by simp)
    have hr' : r' ∈ t.rows := hrows.subset (by simp)
    rw [mem_view, mem_view, passes_of_same_cells t hcells]
    simp only [hr, hr']
  · intro i hi
    have hpasses : t.Passes r := (mem_view.mp (List.mem_of_getElem? hi)).2
    obtain ⟨earlier, later, hview⟩ := infix_view hcells hrows hpasses
    have hplace : t.view[earlier.length]? = some r := by simp [← hview]
    have hlt : i < t.view.length := (List.getElem?_eq_some_iff.mp hi).1
    have hi' : i = earlier.length :=
      (List.getElem?_inj hlt (nodup_view hids)).mp (hi.trans hplace.symm)
    rw [hi']
    simp [← hview]

/-- After a row is copied, the copy is shown right after the row, or neither of them is shown. -/
theorem view_duplicateRow (hids : t.rowIds.Nodup) (hr : r ∈ t.rows) (hcopy : copy ∉ t.rowIds) :
    ({ r with id := copy } ∈ (t.duplicateRow r.id copy).view ↔
        r ∈ (t.duplicateRow r.id copy).view) ∧
      ∀ i, (t.duplicateRow r.id copy).view[i]? = some r →
        (t.duplicateRow r.id copy).view[i + 1]? = some { r with id := copy } := by
  have hids' : (t.duplicateRow r.id copy).rowIds.Nodup := nodup_map_id_copyAfter r.id hids hcopy
  exact next_in_view hids' rfl (infix_copyAfter hids hr)

def shifts : Table :=
  Table.empty Config.default "2026-10-19"
    |>.after (.addColumn .text (some "team"))
    |>.after (.addColumn .number (some "hours"))
    |>.after (.addFormulaColumn "all" "=SUM(hours)")
    |>.after (.updateCell "1" "team" (.text "red"))
    |>.after (.updateCell "1" "hours" (.number 4))
    |>.after (.updateCell "2" "team" (.text "Red"))
    |>.after (.updateCell "2" "hours" (.number 3))
    |>.after (.sort "team" .descending)
    |>.after (.filter "all" "11")

def redShift : Row :=
  ((Row.fresh "1").set "team" (.text "red")).set "hours" (.number 4)

/-- No row is shown before the copy, which makes up the hours. -/
theorem shifts_view_duplicateRow :
    shifts.rowIds.Nodup ∧ redShift ∈ shifts.rows ∧ "3" ∉ shifts.rowIds ∧ redShift ∉ shifts.view ∧
      redShift ∈ (shifts.duplicateRow "1" "3").view ∧
      { redShift with id := "3" } ∈ (shifts.duplicateRow "1" "3").view ∧
      ∃ i, (shifts.duplicateRow "1" "3").view[i]? = some redShift ∧
        (shifts.duplicateRow "1" "3").view[i + 1]? = some { redShift with id := "3" } := by
  have hids : shifts.rowIds.Nodup := by decide
  have hrow : redShift ∈ shifts.rows := by decide
  have hcopy : "3" ∉ shifts.rowIds := by decide
  have hbefore : redShift ∉ shifts.view := by
    rw [mem_view]
    decide +kernel
  have hafter : redShift ∈ (shifts.duplicateRow "1" "3").view := by
    rw [mem_view]
    decide +kernel
  obtain ⟨hshown, hnext⟩ := view_duplicateRow hids hrow hcopy
  obtain ⟨i, hi⟩ := List.getElem?_of_mem hafter
  exact ⟨hids, hrow, hcopy, hbefore, hafter, hshown.mpr hafter, i, hi, hnext i hi⟩

end Spreadsheet.Table
