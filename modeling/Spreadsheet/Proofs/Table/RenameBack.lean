import Mathlib
import Spreadsheet.Proofs.Table.Mention

namespace Spreadsheet.Table

variable {t : Table} {old new : String}

instance (t : Table) (n : String) : Decidable (t.Mentions n) :=
  inferInstanceAs (Decidable (_ ∨ _ ∨ _))

theorem columns_renamed_renamed (hnew : new ∉ t.columnNames) :
    ((t.renamed old new).renamed new old).columns = t.columns := by
  simp only [renamed, modifyColumn, List.map_map]
  conv_rhs => rw [← List.map_id t.columns]
  refine List.map_congr_left fun c hc => ?_
  have hne : c.name ≠ new := ne_of_mem_of_not_mem (List.mem_map_of_mem hc) hnew
  by_cases hold : c.name = old
  · simp [← hold]
  · simp [hold, hne]

theorem rows_renamed_renamed (hne : old ≠ new) (hm : ¬ t.Mentions new) :
    ((t.renamed old new).renamed new old).rows = t.rows := by
  simp only [renamed, List.map_map]
  conv_rhs => rw [← List.map_id t.rows]
  refine List.map_congr_left fun r hr => ?_
  have hkeys : new ∉ r.cells.keys := fun hn => hm (.inl ⟨r, hr, hn⟩)
  simp [Row.rename, Dictionary.rename_rename hne hkeys]

theorem filters_renamed_renamed (hne : old ≠ new) (hm : ¬ t.Mentions new) :
    ((t.renamed old new).renamed new old).filters = t.filters :=
  Dictionary.rename_rename hne fun hn => hm (.inr (.inl hn))

theorem sort_renamed_renamed (hm : ¬ t.Mentions new) :
    ((t.renamed old new).renamed new old).sort = t.sort := by
  cases hs : t.sort with
  | none => simp [renamed, hs]
  | some s =>
    have hsn : s.column ≠ new := fun hn => hm (.inr (.inr ⟨s, hs, hn⟩))
    by_cases hso : s.column = old
    · simp [renamed, hs, ← hso]
    · simp [renamed, hs, hso, hsn]

theorem renamed_renamed (hne : old ≠ new) (hnew : new ∉ t.columnNames) (hm : ¬ t.Mentions new) :
    (t.renamed old new).renamed new old = t := by
  calc (t.renamed old new).renamed new old
      = { t with
          columns := ((t.renamed old new).renamed new old).columns
          rows := ((t.renamed old new).renamed new old).rows
          filters := ((t.renamed old new).renamed new old).filters
          sort := ((t.renamed old new).renamed new old).sort } := rfl
    _ = t := by
      rw [columns_renamed_renamed hnew, rows_renamed_renamed hne hm,
        filters_renamed_renamed hne hm, sort_renamed_renamed hm]

/-- Nothing is left under a name that was given away. -/
theorem not_mentions_renamed (hne : old ≠ new) : ¬ (t.renamed old new).Mentions old := by
  rw [mentions_renamed]
  rintro ⟨n, -, hn⟩
  split at hn
  · exact hne hn.symm
  · rename_i hno
    exact hno hn

/-- A column can be renamed to a free name and back, and this restores the table exactly if neither
a row nor a filter nor the sort mentions the free name. -/
theorem renameColumn_back (hold : old ∈ t.columnNames) (hblank : Text.allBlank old.toList = false)
    (hfree : new ∉ t.columnNames) (hblank' : Text.allBlank new.toList = false) :
    ∃ t' t'', t.renameColumn old new = .ok t' ∧ t'.renameColumn new old = .ok t'' ∧
      (t'' = t ↔ ¬ t.Mentions new) := by
  have hne : old ≠ new := ne_of_mem_of_not_mem hold hfree
  have hnames := columnNames_renamed (t := t) old new
  have hnew' : new ∈ (t.renamed old new).columnNames := by
    rw [hnames]
    exact List.mem_map.mpr ⟨old, hold, if_pos rfl⟩
  have hold' : old ∉ (t.renamed old new).columnNames := by
    rw [hnames]
    grind
  refine ⟨t.renamed old new, (t.renamed old new).renamed new old, ?_, ?_, ?_⟩
  · rw [renameColumn_eq_ok_iff]
    exact .inr ⟨hne, hold, hblank', hfree, rfl⟩
  · rw [renameColumn_eq_ok_iff]
    exact .inr ⟨Ne.symm hne, hnew', hblank, hold', rfl⟩
  · constructor
    · intro hback
      rw [← hback]
      exact not_mentions_renamed (Ne.symm hne)
    · exact renamed_renamed hne hfree

def shelf : Table :=
  Table.empty Config.default "2026-10-19"
    |>.after (.addColumn .text (some "title"))
    |>.after (.addFormulaColumn "copies" "stock * 2")
    |>.after (.updateCell "1" "title" (.text "Atlas"))
    |>.after (.updateCell "2" "author" (.text "Bell"))
    |>.after (.filter "title" "A")
    |>.after (.filter "copies" "2")
    |>.after (.sort "title" .descending)

theorem shelf_renameColumn_back :
    "title" ∈ shelf.columnNames ∧ "name" ∉ shelf.columnNames ∧ "author" ∉ shelf.columnNames ∧
      ¬ shelf.Mentions "name" ∧ shelf.Mentions "author" ∧
      (∃ t', shelf.renameColumn "title" "name" = .ok t' ∧ t'.columnNames = ["name", "copies"] ∧
        t'.filters.keys = ["copies", "name"] ∧ t'.sort = some ⟨"name", .descending⟩ ∧
        t'.renameColumn "name" "title" = .ok shelf) ∧
      ∃ t' t'', shelf.renameColumn "title" "author" = .ok t' ∧
        t'.renameColumn "author" "title" = .ok t'' ∧ t'' ≠ shelf := by
  have htitle : "title" ∈ shelf.columnNames := by decide
  have hname : "name" ∉ shelf.columnNames := by decide
  have hauthor : "author" ∉ shelf.columnNames := by decide
  have hfree : ¬ shelf.Mentions "name" := by decide
  have htaken : shelf.Mentions "author" := by decide
  refine ⟨htitle, hname, hauthor, hfree, htaken, ?_, ?_⟩
  · obtain ⟨t', t'', hto, hback, hsame⟩ :=
      renameColumn_back htitle (by decide) hname (by decide)
    have ht' : shelf.renamed "title" "name" = t' := by
      have hok : shelf.renameColumn "title" "name" = .ok (shelf.renamed "title" "name") := by rfl
      exact Except.ok.inj (hok.symm.trans hto)
    rw [hsame.mpr hfree] at hback
    refine ⟨t', hto, ?_, ?_, ?_, hback⟩
    all_goals rw [← ht']; decide
  · obtain ⟨t', t'', hto, hback, hsame⟩ :=
      renameColumn_back htitle (by decide) hauthor (by decide)
    exact ⟨t', t'', hto, hback, fun h => hsame.mp h htaken⟩

end Spreadsheet.Table
