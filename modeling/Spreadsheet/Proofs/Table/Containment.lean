import Mathlib
import Spreadsheet.Proofs.Table.Duplicate
import Spreadsheet.Proofs.Table.Filter
import Spreadsheet.Proofs.Text.Lowering

namespace Spreadsheet.Table

open Text.Surroundings

variable {t : Table} {row : Row} {column substring : String}

theorem passes_of_unfiltered (h : ∀ name, t.filters.get? name = none) : t.Passes row := by
  intro name s hget
  rw [h name] at hget
  cases hget

theorem mem_view_of_matches (hnone : ∀ name, t.filters.get? name = none) (hs : substring ≠ "")
    (hrow : row ∈ t.rows) (hmatches : t.Matches row column substring) :
    row ∈ (t.filterBy column substring).view := by
  have hpasses : (t.filterBy column substring).Passes row :=
    (passes_filterBy_iff (hnone column) hs).mpr ⟨passes_of_unfiltered hnone, hmatches⟩
  rw [mem_view, rows_filterBy]
  exact ⟨hrow, hpasses⟩

/-- A row is shown if its text has the part that is filtered for, where every capital sigma of the
part has the form that it has in the part alone. -/
theorem mem_view_of_part (hnone : ∀ name, t.filters.get? name = none) (hs : substring ≠ "")
    (hrow : row ∈ t.rows) {before after : List Char}
    (htext : (t.textOf row column).toList = before ++ substring.toList ++ after)
    (hforms : SameForms (nothing.between before after) nothing substring.toList) :
    row ∈ (t.filterBy column substring).view := by
  apply mem_view_of_matches hnone hs hrow
  rw [Matches, htext]
  exact Text.lower_infix hforms

/-- A text without a capital sigma is found wherever it stands. -/
theorem mem_view_of_no_sigma (hnone : ∀ name, t.filters.get? name = none) (hs : substring ≠ "")
    (hrow : row ∈ t.rows) (hsigma : 'Σ' ∉ substring.toList)
    (hpart : substring.toList <:+: (t.textOf row column).toList) :
    row ∈ (t.filterBy column substring).view := by
  obtain ⟨before, after, htext⟩ := hpart
  apply mem_view_of_matches hnone hs hrow
  rw [Matches, ← htext]
  exact Text.lower_infix (.of_not_mem hsigma)

def words : Table :=
  Table.empty Config.default "2026-10-19"
    |>.after (.addColumn .text (some "word"))
    |>.after (.updateCell "1" "word" (.text "ΚΟΣΜΟΣ"))
    |>.after (.updateCell "2" "word" (.text "ΣΕΙΡΑ"))
    |>.after (.sort "word" .descending)

def worldRow : Row :=
  (Row.fresh "1").set "word" (.text "ΚΟΣΜΟΣ")

/-- The sigmas of the part `ΣΜΟΣ` have the same forms in `ΚΟΣΜΟΣ`. -/
theorem words_mem_view :
    (∀ name, words.filters.get? name = none) ∧ worldRow ∈ words.rows ∧
      (words.textOf worldRow "word").toList = "ΚΟ".toList ++ "ΣΜΟΣ".toList ++ [] ∧
      SameForms (nothing.between "ΚΟ".toList []) nothing "ΣΜΟΣ".toList ∧
      worldRow ∈ (words.filterBy "word" "ΣΜΟΣ").view := by
  have hnone : ∀ name, words.filters.get? name = none := fun _ => rfl
  have hrow : worldRow ∈ words.rows := by decide
  have htext : (words.textOf worldRow "word").toList = "ΚΟ".toList ++ "ΣΜΟΣ".toList ++ [] := by
    decide +kernel
  have hforms : SameForms (nothing.between "ΚΟ".toList []) nothing "ΣΜΟΣ".toList := by
    decide +kernel
  exact ⟨hnone, hrow, htext, hforms, mem_view_of_part hnone (by decide) hrow htext hforms⟩

/-- The sigma that ends the part `ΚΟΣ` is inside of a word in `ΚΟΣΜΟΣ`. -/
theorem words_not_mem_view :
    (∀ name, words.filters.get? name = none) ∧ worldRow ∈ words.rows ∧ "ΚΟΣ" ≠ "" ∧
      "ΚΟΣ".toList <:+: (words.textOf worldRow "word").toList ∧
      worldRow ∉ (words.filterBy "word" "ΚΟΣ").view := by
  have hpart : "ΚΟΣ".toList <:+: (words.textOf worldRow "word").toList := by decide +kernel
  refine ⟨fun _ => rfl, by decide, by decide, hpart, ?_⟩
  rw [mem_view]
  decide +kernel

end Spreadsheet.Table
