import Mathlib
import Spreadsheet.Proofs.Dictionary
import Spreadsheet.Proofs.Table.Consistency

namespace Spreadsheet

namespace Row

theorem get_rename_new (r : Row) (old new : String) :
    (r.rename old new).get new = ((r.cells.get? old).or (r.cells.get? new)).getD .blank := by
  rw [rename, get, Dictionary.get?_rename_new]

theorem get_rename_of_ne {old new name : String} (r : Row) (hold : name ≠ old) (hnew : name ≠ new) :
    (r.rename old new).get name = r.get name := by
  rw [rename, get, Dictionary.get?_rename_of_ne _ hold hnew, get]

/-- The renamed cell is read as before unless another cell comes to light. -/
theorem get_rename_new_eq_iff (r : Row) (old new : String) :
    (r.rename old new).get new = r.get old ↔ old ∈ r.cells.keys ∨ r.get new = .blank := by
  rw [get_rename_new, get, get]
  cases hold : r.cells.get? old with
  | none =>
    have hkeys : old ∉ r.cells.keys := Dictionary.get?_eq_none_iff.mp hold
    simp [hkeys]
  | some v =>
    have hkeys : old ∈ r.cells.keys := by
      by_contra hkeys
      rw [Dictionary.get?_eq_none_iff.mpr hkeys] at hold
      cases hold
    simp [hkeys]

end Row

namespace Table

variable {t t' : Table} {old new : String}

theorem cell_of_stored (t : Table) (r : Row) {c : Column} (hk : c.kind ≠ .formula) :
    t.cell r c = r.get c.name := by
  unfold cell
  split
  · rename_i hformula _
    exact absurd hformula hk
  · rfl

theorem column?_renamed {c : Column} (hc : t.column? old = some c) (hnew : new ∉ t.columnNames) :
    (t.renamed old new).column? new = some { c with name := new } := by
  have hfind : t.columns.find? (fun d =>
      (if d.name = old then { d with name := new } else d).name == new) = some c := by
    rw [← hc, column?]
    refine List.find?_congr fun d hd => ?_
    have hne : d.name ≠ new := ne_of_mem_of_not_mem (List.mem_map_of_mem hd) hnew
    by_cases hold : d.name = old
    · simp [hold]
    · simp [hold, hne]
  have hname : c.name = old := by simpa using List.find?_some hc
  have hmap : (t.renamed old new).column? new = (t.columns.find? fun d =>
      (if d.name = old then { d with name := new } else d).name == new).map _ := List.find?_map ..
  rw [hmap, hfind, Option.map_some, if_pos hname]

theorem mem_columns_renamed {d : Column} (hd : d ∈ t.columns) (hold : d.name ≠ old) :
    d ∈ (t.renamed old new).columns := by
  refine List.mem_map.mpr ⟨d, hd, ?_⟩
  rw [if_neg hold]

/-- How a row is read before and after a rename of a stored column. -/
structure ReadsAlike (t t' : Table) (c : Column) (new : String) (r r' : Row) : Prop where
  id : r'.id = r.id
  /-- A row without a cell of its own shows the one that was hidden under the new name. -/
  renamed : t'.cell r' { c with name := new } = t.cell r c ↔
    c.name ∈ r.cells.keys ∨ r.get new = .blank
  others : ∀ d ∈ t.columns, d.name ≠ c.name →
    d ∈ t'.columns ∧ r'.get d.name = r.get d.name ∧
      (d.kind ≠ .formula → t'.cell r' d = t.cell r d)

theorem readsAlike_renamed {c : Column} (hc : c.name = old) (hk : c.kind ≠ .formula)
    (hnew : new ∉ t.columnNames) (r : Row) :
    ReadsAlike t (t.renamed old new) c new r (r.rename old new) where
  id := rfl
  renamed := by
    have hk' : ({ c with name := new } : Column).kind ≠ .formula := hk
    rw [cell_of_stored t r hk, cell_of_stored _ _ hk', hc]
    exact r.get_rename_new_eq_iff old new
  others d hd hold := by
    have hdnew : d.name ≠ new := ne_of_mem_of_not_mem (List.mem_map_of_mem hd) hnew
    rw [hc] at hold
    have hget := r.get_rename_of_ne hold hdnew
    refine ⟨mem_columns_renamed hd hold, hget, fun hdk => ?_⟩
    rw [cell_of_stored _ _ hdk, cell_of_stored _ _ hdk, hget]

/-- After a rename the cells of a stored column are read under its new name, except in rows that
have no cell of their own but one under that name. All other columns are read as before. -/
theorem renameColumn_readsAlike {c : Column} (hr : t.renameColumn old new = .ok t')
    (hne : old ≠ new) (hc : t.column? old = some c) (hk : c.kind ≠ .formula) :
    t'.column? new = some { c with name := new } ∧
      List.Forall₂ (ReadsAlike t t' c new) t.rows t'.rows := by
  have hold : old ∈ t.columnNames := column?_isSome_iff.mp (by rw [hc]; rfl)
  have hname : c.name = old := by simpa using List.find?_some hc
  rcases renameColumn_eq_ok_iff.mp hr with ⟨hsame, -⟩ | ⟨-, -, -, hnew, rfl⟩
  · exact absurd hold (hsame.resolve_left hne)
  · refine ⟨column?_renamed hc hnew, ?_⟩
    have hrows : (t.renamed old new).rows = t.rows.map fun r => r.rename old new := rfl
    rw [hrows, List.forall₂_map_right_iff, List.forall₂_same]
    exact fun r _ => readsAlike_renamed hname hk hnew r

def leftover : Table :=
  Table.empty Config.default "2026-10-19"
    |>.after (.addColumn .text (some "a"))
    |>.after (.addColumn .number (some "n"))
    |>.after (.updateCell "1" "a" (.text "x"))
    |>.after (.updateCell "2" "b" (.text "y"))

theorem leftover_readsAlike :
    ∃ c t', leftover.renameColumn "a" "b" = .ok t' ∧ leftover.column? "a" = some c ∧
      c.kind ≠ .formula ∧ t'.column? "b" = some { c with name := "b" } ∧
      List.Forall₂ (ReadsAlike leftover t' c "b") leftover.rows t'.rows := by
  have hr : leftover.renameColumn "a" "b" = .ok (leftover.renamed "a" "b") := by rfl
  obtain ⟨c, hc⟩ : ∃ c, leftover.column? "a" = some c := ⟨_, rfl⟩
  have hk : c.kind ≠ .formula := by
    obtain rfl := Option.some.inj hc
    decide
  exact ⟨c, _, hr, hc, hk, renameColumn_readsAlike hr (by decide) hc hk⟩

/-- The second row shows nothing in the column before the rename, and the hidden cell after it. -/
theorem leftover_comes_to_light :
    Reachable leftover ∧
      leftover.columns.map (fun c => (c.name, c.kind)) = [("a", .text), ("n", .number)] ∧
      leftover.columns.map (fun c => leftover.rows.map (leftover.cell · c)) =
        [[.text "x", .blank], [.blank, .blank]] ∧
      ∃ t', leftover.renameColumn "a" "b" = .ok t' ∧ t'.columnNames = ["b", "n"] ∧
        t'.columns.map (fun c => t'.rows.map (t'.cell · c)) =
          [[.text "x", .text "y"], [.blank, .blank]] := by
  have h : Reachable leftover := by
    iterate 4 refine .after ?_ _ (by decide)
    exact .empty _ _
  exact ⟨h, by decide, by decide, leftover.renamed "a" "b", by rfl, by decide, by decide⟩

end Table

end Spreadsheet
