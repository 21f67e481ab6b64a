import Mathlib
import Spreadsheet.Proofs.Formula.Agreement
import Spreadsheet.Proofs.Formula.Arithmetic

namespace Spreadsheet.Formula

open Spreadsheet.Text

def beforeConditional : List String :=
  ["SUM(", "AVERAGE(", "AVG(", "COUNT(", "MAX(", "MIN(", "TODAY()"]

/-- The number that a text holds is finite, so it is a result as it is. -/
theorem settled_textResult (s marker : String) : (textResult s).settled marker = textResult s := by
  rw [textResult]
  cases h : Decimal.parse? s with
  | none => rfl
  | some x =>
    have hcell : (Cell.text s).number? = some x := h
    have hfinite := isFinite_number? hcell
    simp [Result.settled, hfinite]

namespace OperandCall

variable {c : OperandCall}

theorem infix_around (c : OperandCall) (l : Layout) : c.inner <:+: (l.around c.chars).toList := by
  rw [Layout.around, String.toList_ofList, c.chars_eq]
  refine ⟨l.before.chars ++ (l.opening ++ (c.opening.1.toList ++ ['('])), l.after.chars, ?_⟩
  simp

theorem isFirst_conditional {condition : Condition} {yes no : Spaced Quoted} {l : Layout}
    (h : ∀ w ∈ beforeConditional,
      ¬ w.toList <:+: (l.around (conditional condition yes no).chars).toList) :
    (conditional condition yes no).IsFirst := by
  have hinner : ∀ w ∈ beforeConditional, ¬ w.toList <:+: (conditional condition yes no).inner :=
    fun w hw hin => h w hw (hin.trans (infix_around _ l))
  have hearlier : ∀ o ∈ openings.takeWhile (· ≠ ("IF", Form.conditional)),
      o.1 ++ "(" ∈ beforeConditional := by decide
  refine ⟨fun o ho => ?_, hinner _ (by decide)⟩
  have := hinner _ (hearlier o ho)
  rwa [String.toList_append] at this

/-- The comparison of the texts of the operands decides for a branch, whose text is the result unless
it holds a number. -/
theorem evaluate_conditional (condition : Condition) (yes no : Spaced Quoted) (l : Layout)
    (e : Evaluator) (columns : List String) (rows : List Row) (row : Row)
    (hcolumns : ∀ name ∈ columns, '"' ∉ name.toList)
    (hfirst : ∀ w ∈ beforeConditional,
      ¬ w.toList <:+: (l.around (conditional condition yes no).chars).toList) :
    let scope : Scope := ⟨columns, row, rows, e.today⟩
    ∃ comparison, condition.op.symbol ∈ comparison.symbols ∧
      { e with mode := .compatibility }.evaluate columns rows row
          (l.around (conditional condition yes no).chars) =
        textResult (if compareLoose (condition.left.item.textIn Cell.toText scope) comparison
            (condition.right.item.textIn Cell.toText scope)
          then yes.item.text else no.item.text) := by
  intro scope
  obtain ⟨comparison, -, -, hop, -⟩ := condition.exists_split
  have hsymbol : condition.op.symbol ∈ comparison.symbols := by
    simpa using List.find?_some hop
  have htext : evaluateTextual scope (l.around (conditional condition yes no).chars) =
      .ok ((conditional condition yes no).result Cell.toText scope) :=
    (isFirst_conditional hfirst).evaluateTextual_eq hcolumns l
  rw [result, Condition.holds, hop, Option.any_some] at htext
  refine ⟨comparison, hsymbol, ?_⟩
  simp only [Evaluator.evaluate, scope, htext, Except.toOption, settled_textResult]

def quotedMarks : Condition where
  left := ⟨[], .name (.ofChars 'n' [] (by decide)), []⟩
  op := .less
  isComparison := by decide
  right := ⟨[], .quoted ⟨"IF(a, b) >= 'CONCAT(", by decide⟩, []⟩

def closingText : Spaced Quoted :=
  ⟨[], ⟨"), it's <> 1", by decide⟩, []⟩

def hundred : Spaced Quoted :=
  ⟨[], ⟨"1e2", by decide⟩, []⟩

theorem quotedMarks_evaluate :
    let formula := "=IF(n<\"IF(a, b) >= 'CONCAT(\",\"), it's <> 1\",\"1e2\")"
    let engine : Evaluator := ⟨.compatibility, "#ERROR", "2026-10-19"⟩
    engine.evaluate ["n"] [] ((Row.fresh "r").set "n" (.number 4)) formula =
        .text "), it's <> 1" ∧
      engine.evaluate ["n"] [] ((Row.fresh "r").set "n" (.text "few")) formula = .number 100 := by
  intro formula engine
  have hrender : Layout.around ⟨[], some [], []⟩
      (conditional quotedMarks closingText hundred).chars = formula := by rfl
  have hfirst : ∀ w ∈ beforeConditional, ¬ w.toList <:+: formula.toList := by decide
  have hless : ∀ comparison : Comparison, "<" ∈ comparison.symbols → comparison = .less := by
    intro comparison h
    cases comparison <;> simp_all [Comparison.symbols]
  have hrow (row : Row) := evaluate_conditional quotedMarks closingText hundred
    ⟨[], some [], []⟩ engine ["n"] [] row (by decide) (by rw [hrender]; exact hfirst)
  constructor
  · obtain ⟨comparison, hsymbol, h⟩ := hrow ((Row.fresh "r").set "n" (.number 4))
    obtain rfl := hless comparison hsymbol
    rw [hrender] at h
    exact h.trans (by decide +kernel)
  · obtain ⟨comparison, hsymbol, h⟩ := hrow ((Row.fresh "r").set "n" (.text "few"))
    obtain rfl := hless comparison hsymbol
    rw [hrender] at h
    exact h.trans (by decide +kernel)

end OperandCall

end Spreadsheet.Formula
