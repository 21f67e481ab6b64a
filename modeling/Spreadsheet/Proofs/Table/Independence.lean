import Mathlib
import Spreadsheet.Proofs.Dictionary
import Spreadsheet.Proofs.Formula.Footprint
import Spreadsheet.Proofs.Table.Consistency

namespace Spreadsheet

theorem Row.agreeOn_set {known : String → Prop} {column : String} (h : ¬ known column) (r : Row)
    (v : Cell) : Row.AgreeOn known r (r.set column v) := by
  intro name hname
  have hne : name ≠ column := by
    rintro rfl
    exact h hname
  rw [Row.get, Row.get, Row.set, Dictionary.get?_insert, if_neg hne]

namespace Table

variable {known : String → Prop} {id column : String}

theorem agreeOn_setCell (h : ¬ known column) (v : Cell) {rows : List Row}
    (hid : id ∈ rows.map (·.id)) :
    List.Forall₂ (fun r r' : Row => r.id = r'.id ∧ Row.AgreeOn known r r') rows
      (setCell id column v rows) := by
  have hsame : ∀ rows : List Row,
      List.Forall₂ (fun r r' : Row => r.id = r'.id ∧ Row.AgreeOn known r r') rows rows :=
    fun rows => List.forall₂_same.mpr fun _ _ => ⟨rfl, fun _ _ => rfl⟩
  induction rows with
  | nil => cases hid
  | cons r rows ih =>
    rw [setCell]
    -- The first row with the identifier changes, and all rows behind it stay as they are.
    split
    · exact .cons ⟨rfl, r.agreeOn_set h v⟩ (hsame rows)
    · rename_i hr
      have hrest : id ∈ rows.map (·.id) := by
        simpa [Ne.symm hr] using hid
      exact .cons ⟨rfl, fun _ _ => rfl⟩ (ih hrest)

/-- After a change of one cell, every formula that does not mention its column has the result that it
had, row by row. -/
theorem cells_updateCell_of_not_mentions (t : Table) (hid : id ∈ t.rowIds) (v : Cell) {c : Column}
    {formula : String} (hkind : c.kind = .formula) (hformula : c.formula = some formula)
    (h : ¬ t.evaluator.Mentions formula column) :
    (t.updateCell id column v).rows.map (fun r => (r.id, (t.updateCell id column v).cell r c)) =
      t.rows.map fun r => (r.id, t.cell r c) := by
  have hrows := agreeOn_setCell h v hid
  have hagree : List.Forall₂ (Row.AgreeOn (t.evaluator.Mentions formula)) t.rows
      (t.updateCell id column v).rows := hrows.imp fun _ _ hrow => hrow.2
  rw [eq_comm, ← List.forall₂_eq_eq_eq, List.forall₂_map_left_iff, List.forall₂_map_right_iff]
  refine hrows.imp fun r r' hrow => ?_
  have hresult : t.evaluate formula r = (t.updateCell id column v).evaluate formula r' :=
    t.evaluator.evaluate_congr (fun _ => Iff.rfl) hagree hrow.2
  simp only [cell, hkind, hformula, hrow.1, hresult]

def totalColumn : Column :=
  .ofFormula "total" "=SUM(qty) "

def totals (t : Table) : List (String × Cell) :=
  t.rows.map fun r => (r.id, t.cell r totalColumn)

def basket (mode : Formula.Mode) : Table :=
  Table.empty { Config.default with formula := ⟨mode, "#ERROR"⟩ } "2026-10-19"
    |>.after (.addColumn .number (some "qty"))
    |>.after (.addColumn .text (some "note"))
    |>.after (.insertColumn totalColumn)
    |>.after (.updateCell "1" "qty" (.number 2))
    |>.after (.updateCell "2" "qty" (.number 3))

theorem basket_totals :
    ("2" ∈ (basket .compatibility).rowIds ∧
      ¬ (basket .compatibility).evaluator.Mentions "=SUM(qty) " "note" ∧
      totals ((basket .compatibility).updateCell "2" "note" (.text "qty")) =
        totals (basket .compatibility)) ∧
      ("2" ∈ (basket .structured).rowIds ∧
        ¬ (basket .structured).evaluator.Mentions "=SUM(qty) " "note" ∧
        totals ((basket .structured).updateCell "2" "note" (.text "qty")) =
          totals (basket .structured)) ∧
      totals (basket .structured) = [("1", .number 5), ("2", .number 5)] ∧
      totals ((basket .structured).updateCell "2" "qty" (.number 4)) =
        [("1", .number 6), ("2", .number 6)] := by
  have hid : ∀ mode, "2" ∈ (basket mode).rowIds := by
    rintro (_ | _) <;> decide
  have htext : ¬ Formula.OccursIn (Formula.textualBody "2026-10-19" "=SUM(qty) ") "note" := by
    decide +kernel
  have hwords : "note" ∉ Formula.formulaWords "=SUM(qty) " := by decide +kernel
  have htextual := cells_updateCell_of_not_mentions (basket .compatibility) (hid _) (.text "qty")
    (c := totalColumn) rfl rfl htext
  have hstructured := cells_updateCell_of_not_mentions (basket .structured) (hid _) (.text "qty")
    (c := totalColumn) rfl rfl hwords
  exact ⟨⟨hid _, htext, htextual⟩, ⟨hid _, hwords, hstructured⟩, by decide +kernel⟩

end Table

end Spreadsheet
