import Mathlib
import Spreadsheet.Column.Basic
import Spreadsheet.Proofs.Formula.Footprint

namespace Spreadsheet.Formula

open Spreadsheet.Text

namespace Scope

/-- The scopes have the same columns, perhaps in another order, and the same cells in their row, and
agree in all else. -/
structure Alike (s s' : Scope) : Prop where
  columns : ∀ name, name ∈ s.columns ↔ name ∈ s'.columns
  cells : s.row.get = s'.row.get
  rows : s.rows = s'.rows
  today : s.today = s'.today

namespace Alike

variable {s s' : Scope} (h : s.Alike s')

include h

theorem agreeOn (known : String → Prop) : s.AgreeOn known s' where
  columns := h.columns
  row name _ := congrFun h.cells name
  rows := by
    rw [h.rows]
    exact List.forall₂_same.mpr fun _ _ _ _ => rfl
  today := h.today

theorem evaluateTextual (formula : String) :
    Formula.evaluateTextual s formula = Formula.evaluateTextual s' formula :=
  (h.agreeOn _).evaluateTextual

theorem evaluateStructured (formula : String) :
    Formula.evaluateStructured s formula = Formula.evaluateStructured s' formula :=
  (h.agreeOn _).evaluateStructured

end Alike

end Scope

/-- Tables with the same names of columns give the same result, whatever else their columns are and
in whichever order they stand. -/
theorem Evaluator.evaluate_of_same_names (e : Evaluator) {columns columns' : List Column}
    (h : ∀ name, name ∈ columns.map (·.name) ↔ name ∈ columns'.map (·.name)) (rows : List Row)
    (row : Row) (formula : String) :
    e.evaluate (columns.map (·.name)) rows row formula =
      e.evaluate (columns'.map (·.name)) rows row formula := by
  have halike : Scope.Alike ⟨columns.map (·.name), row, rows, e.today⟩
      ⟨columns'.map (·.name), row, rows, e.today⟩ := ⟨h, rfl, rfl, rfl⟩
  rw [Evaluator.evaluate, Evaluator.evaluate]
  simp only [halike.evaluateTextual, halike.evaluateStructured]

/-- Rows with the same cells have the same results, whatever their identifiers are. -/
theorem Evaluator.evaluate_of_same_cells (e : Evaluator) (columns : List String) (rows : List Row)
    {row row' : Row} (h : row.get = row'.get) (formula : String) :
    e.evaluate columns rows row formula = e.evaluate columns rows row' formula := by
  have halike : Scope.Alike ⟨columns, row, rows, e.today⟩ ⟨columns, row', rows, e.today⟩ :=
    ⟨fun _ => Iff.rfl, h, rfl, rfl⟩
  rw [Evaluator.evaluate, Evaluator.evaluate]
  simp only [halike.evaluateTextual, halike.evaluateStructured]

def netFirst : List Column :=
  [.ofKind "net" .number, .ofKind "tax" .number, .ofKind "net tax" .number]

def taxFirst : List Column :=
  [.ofFormula "tax" "=2", { Column.ofKind "net tax" .text with width := some 80 }, .ofKind "net" .date]

def billRow : Row :=
  (((Row.fresh "r").set "net" (.number 100)).set "tax" (.number 20)).set "net tax" (.number 120)

theorem bill_of_same_names :
    (∀ name, name ∈ netFirst.map (·.name) ↔ name ∈ taxFirst.map (·.name)) ∧
      Evaluator.evaluate ⟨.compatibility, "#ERROR", "2026-10-19"⟩ (netFirst.map (·.name)) [billRow]
        billRow "=net tax - tax" =
      Evaluator.evaluate ⟨.compatibility, "#ERROR", "2026-10-19"⟩ (taxFirst.map (·.name)) [billRow]
        billRow "=net tax - tax" ∧
      Evaluator.evaluate ⟨.compatibility, "#ERROR", "2026-10-19"⟩ (taxFirst.map (·.name)) [billRow]
        billRow "=net tax - tax" = .number 100 := by
  have hnames : ∀ name, name ∈ netFirst.map (·.name) ↔ name ∈ taxFirst.map (·.name) := by
    intro name
    simp only [netFirst, taxFirst, Column.ofFormula, Column.ofKind, List.map_cons, List.map_nil,
      List.mem_cons, List.not_mem_nil, or_false]
    tauto
  have horder : orderedNames (taxFirst.map (·.name)) = ["net tax", "tax", "net"] := by
    have hnet : "net".length = 3 := by decide
    have htax : "tax".length = 3 := by decide
    have hlong : "net tax".length = 7 := by decide
    simp [orderedNames, taxFirst, Column.ofFormula, Column.ofKind, List.mergeSort,
      List.MergeSort.Internal.splitInTwo, hnet, htax, hlong]
  refine ⟨hnames, Evaluator.evaluate_of_same_names _ hnames _ _ _, ?_⟩
  simp only [Evaluator.evaluate, evaluateTextual, horder]
  decide +kernel

end Spreadsheet.Formula
