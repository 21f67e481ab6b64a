import Mathlib
import Spreadsheet.Formula.Evaluator
import Spreadsheet.Proofs.Formula.Computation
import Spreadsheet.Proofs.Formula.Numeral

namespace Spreadsheet.Formula

open Spreadsheet.Text
open Spreadsheet.Decimal (Alike)

/-- The cell is empty, or it can be read as a number. -/
def CountsAsNumber (v : Cell) : Prop :=
  v.isEmpty ∨ v.number?.isSome

instance (v : Cell) : Decidable (CountsAsNumber v) :=
  inferInstanceAs (Decidable (_ ∨ _))

theorem parse?_of_allBlank {s : String} (h : allBlank s.toList) : Decimal.parse? s = none := by
  rw [Decimal.parse?, Decimal.number?, trim_of_isBlank (List.all_eq_true.mp h)]
  rfl

theorem isFinite_of_finite? {x y : Float} (h : Decimal.finite? x = some y) : Decimal.isFinite y := by
  rw [Decimal.finite?] at h
  split at h
  · rename_i hx
    rwa [← Option.some.inj h]
  · cases h

theorem isFinite_number? {v : Cell} {x : Float} (h : v.number? = some x) : Decimal.isFinite x := by
  cases v with
  | blank | list => cases h
  | flag b =>
    obtain rfl := Option.some.inj h
    cases b <;> decide +kernel
  | number y => exact isFinite_of_finite? h
  | text s =>
    rw [Cell.number?, Decimal.parse?, Decimal.number?] at h
    split at h
    · cases h
    · obtain ⟨y, -, hy⟩ := Option.bind_eq_some_iff.mp h
      exact isFinite_of_finite? hy

theorem isFinite_numberOrZero (v : Cell) : Decimal.isFinite v.numberOrZero := by
  rw [Cell.numberOrZero]
  cases h : v.number? with
  | none => decide +kernel
  | some x => exact isFinite_number? h

theorem number?_of_isEmpty {v : Cell} (h : v.isEmpty) : v.number? = none := by
  cases v with
  | blank | list => rfl
  | flag | number => cases h
  | text s =>
    obtain rfl : s = "" := by simpa [Cell.isEmpty] using h
    exact parse?_of_allBlank rfl

theorem insertedText_eq {v : Cell} (h : CountsAsNumber v) :
    insertedText v = Decimal.numberText v.numberOrZero := by
  rw [insertedText, Cell.numberOrZero]
  split
  · rename_i hempty
    rw [number?_of_isEmpty hempty, Option.getD_none, Decimal.numberText, if_pos (by decide +kernel)]
  · rename_i hempty
    obtain ⟨x, hx⟩ := Option.isSome_iff_exists.mp (h.resolve_left hempty)
    rw [hx]
    rfl

theorem toNumber_ofCell {v : Cell} (h : CountsAsNumber v) :
    (Value.ofCell v).toNumber = .ok v.numberOrZero := by
  have hnumber : (Value.ofCell v).number? = some v.numberOrZero := by
    cases v with
    | blank | flag => rfl
    | number x =>
      obtain ⟨y, hy⟩ := Option.isSome_iff_exists.mp (h.resolve_left Bool.false_ne_true)
      have hxy : x = y := by
        change Decimal.finite? x = some y at hy
        rw [Decimal.finite?] at hy
        split at hy
        · exact Option.some.inj hy
        · cases hy
      rw [Cell.numberOrZero, hy, hxy]
      rfl
    | text s =>
      rw [Value.ofCell, Value.number?]
      split
      · rename_i hblank
        rw [Cell.numberOrZero, Cell.number?, parse?_of_allBlank hblank, Option.getD_none]
      · rename_i hblank
        have hsome : (Cell.text s).number?.isSome := by
          refine h.resolve_left fun hempty => hblank ?_
          obtain rfl : s = "" := by simpa [Cell.isEmpty] using hempty
          rfl
        obtain ⟨x, hx⟩ := Option.isSome_iff_exists.mp hsome
        rw [Cell.numberOrZero, hx]
        exact hx
    | list items =>
      have hempty : items = [] := by
        have := h.resolve_right (by simp [Cell.number?])
        simpa [Cell.isEmpty] using this
      rw [hempty]
      rfl
  rw [Value.toNumber, hnumber]

namespace Term

def value (number : PlainName → Float) : Term → Outcome Float
  | .number l _ => .ok l.value
  | .column n => .ok (number n)
  | .binary op _ left right => do
    let x ← left.value number
    let y ← right.value number
    compute op x y
  | .signed sign _ operand => do
    let x ← operand.value number
    applySign sign x

theorem evaluateArithmetic_tree (numeral : PlainName → Numeral) (t : Term) :
    evaluateArithmetic (t.tree fun n => (numeral n).atom) = t.value fun n => (numeral n).value := by
  induction t with
  | number l h => rfl
  | column n => exact (numeral n).evaluateArithmetic_tree
  | binary op h left right ihl ihr =>
    rw [tree, evaluateArithmetic, ihl, ihr]
    rfl
  | signed sign h operand ih =>
    rw [tree, evaluateArithmetic, ih]
    rfl

inductive CountsAs : Outcome Value → Outcome Float → Prop where
  | ok {v : Value} {x : Float} (h : v.toNumber = .ok x) : CountsAs (.ok v) (.ok x)
  | error (e : EvalError) : CountsAs (.error e) (.error e)

theorem CountsAs.map_number (o : Outcome Float) : CountsAs (o.map Value.number) o := by
  cases o with
  | error e => exact .error e
  | ok x => exact .ok rfl

theorem mem_computing {op : Operator} (h : op ∈ arithmetic) : op ∈ computing := by
  simp only [arithmetic, List.mem_cons, List.not_mem_nil, or_false] at h
  rcases h with rfl | rfl | rfl | rfl <;> decide

section Structured

variable {scope : Scope} {number : PlainName → Float} {t : Term}

/-- What a term becomes: a column its value, anything else a number. -/
def outcome (scope : Scope) (number : PlainName → Float) : Term → Outcome Value
  | .column n => .ok (scope.valueOf n.name)
  | t => (t.value number).map Value.number

theorem outcome_of_not_column (h : t.isColumn = false) :
    t.outcome scope number = (t.value number).map Value.number := by
  cases t with
  | column n => cases h
  | _ => rfl

theorem countsAs_outcome
    (h : ∀ n ∈ t.columns, (scope.valueOf n.name).toNumber = .ok (number n)) :
    CountsAs (t.outcome scope number) (t.value number) := by
  cases ht : t.isColumn with
  | false =>
    rw [outcome_of_not_column ht]
    exact .map_number _
  | true =>
    cases t with
    | column n => exact .ok (h n List.mem_cons_self)
    | _ => cases ht

theorem evaluate_tree (t : Term)
    (h : ∀ n ∈ t.columns, (scope.valueOf n.name).toNumber = .ok (number n)) :
    evaluate scope (t.tree PlainName.atom) = t.outcome scope number := by
  induction t with
  | number l hl =>
    rw [tree, evaluate]
    rfl
  | column n =>
    change evaluate scope (.column n.name) = _
    rw [evaluate]
    rfl
  | binary op hop left right ihl ihr =>
    have hleft := fun n hn => h n (List.mem_append_left _ hn)
    have hright := fun n hn => h n (List.mem_append_right _ hn)
    rw [outcome_of_not_column rfl, tree, evaluate, ihl hleft, ihr hright, value]
    have hl := countsAs_outcome hleft
    have hr := countsAs_outcome hright
    generalize left.outcome scope number = o at hl ⊢
    generalize left.value number = p at hl ⊢
    generalize right.outcome scope number = o' at hr ⊢
    generalize right.value number = p' at hr ⊢
    cases hl with
    | error e => rfl
    | ok hv =>
      cases hr with
      | error e => rfl
      | ok hw => exact applyOperator_eq (comparison?_of_computing (mem_computing hop)) hv hw
  | signed sign hs operand ih =>
    rw [outcome_of_not_column rfl, tree, evaluate, ih h, value]
    have ho := countsAs_outcome (t := operand) h
    generalize operand.outcome scope number = o at ho ⊢
    generalize operand.value number = p at ho ⊢
    cases ho with
    | error e => rfl
    | @ok v x hv =>
      change (v.toNumber >>= fun x => applySign sign x >>= fun y => pure (Value.number y)) = _
      rw [hv]
      change (applySign sign x >>= fun y => pure (Value.number y)) = (applySign sign x).map Value.number
      cases applySign sign x <;> rfl

end Structured

/-- The same number where zero has no sign, or the same error. -/
inductive SameOutcome : Outcome Float → Outcome Float → Prop where
  | ok {x y : Float} (h : Alike x y) : SameOutcome (.ok x) (.ok y)
  | error (e : EvalError) : SameOutcome (.error e) (.error e)

theorem sameOutcome_finite {x y : Float} (h : Alike x y) : SameOutcome (finite x) (finite y) := by
  rw [finite, finite, h.isFinite]
  split
  · exact .ok h
  · exact .error _

theorem sameOutcome_compute {op : Operator} (hop : op ∈ arithmetic) {x x' y y' : Float}
    (hx : Alike x x') (hy : Alike y y') : SameOutcome (compute op x y) (compute op x' y') := by
  simp only [arithmetic, List.mem_cons, List.not_mem_nil, or_false] at hop
  rcases hop with rfl | rfl | rfl | rfl
  · exact sameOutcome_finite (hx.add hy)
  · exact sameOutcome_finite (hx.sub hy)
  · exact sameOutcome_finite (hx.mul hy)
  · rw [compute, compute, ← hy.beq_zero]
    split
    · exact .error _
    · rename_i hzero
      exact sameOutcome_finite (hx.div hy (by simpa using hzero))

theorem sameOutcome_applySign {sign : Sign} (hs : sign = .plus ∨ sign = .minus) {x y : Float}
    (h : Alike x y) : SameOutcome (applySign sign x) (applySign sign y) := by
  rcases hs with rfl | rfl
  · exact .ok h
  · exact .ok h.neg

theorem value_alike {number number' : PlainName → Float} (t : Term)
    (h : ∀ n ∈ t.columns, Alike (number n) (number' n)) :
    SameOutcome (t.value number) (t.value number') := by
  induction t with
  | number l hl => exact .ok (.refl _)
  | column n => exact .ok (h n List.mem_cons_self)
  | binary op hop left right ihl ihr =>
    have hl := ihl fun n hn => h n (List.mem_append_left _ hn)
    have hr := ihr fun n hn => h n (List.mem_append_right _ hn)
    rw [value, value]
    generalize left.value number = o at hl ⊢
    generalize left.value number' = p at hl ⊢
    generalize right.value number = o' at hr ⊢
    generalize right.value number' = p' at hr ⊢
    cases hl with
    | error e => exact .error e
    | ok hx =>
      cases hr with
      | error e => exact .error e
      | ok hy => exact sameOutcome_compute hop hx hy
  | signed sign hs operand ih =>
    have ho := ih h
    rw [value, value]
    generalize operand.value number = o at ho ⊢
    generalize operand.value number' = p at ho ⊢
    cases ho with
    | error e => exact .error e
    | ok hx => exact sameOutcome_applySign hs hx

def settledResult (marker : String) : Outcome Float → Result
  | .ok x => (Result.number x).settled marker
  | .error _ => .error marker

/-- The two results are the same number, where zero has no sign, or both are the error marker. -/
inductive Agree (marker : String) : Result → Result → Prop where
  | number {x y : Float} (h : Alike x y) : Agree marker (.number x) (.number y)
  | error : Agree marker (.error marker) (.error marker)

theorem SameOutcome.agree {o p : Outcome Float} (h : SameOutcome o p) (marker : String) :
    Agree marker (settledResult marker o) (settledResult marker p) := by
  cases h with
  | error e => exact .error
  | @ok x y h =>
    simp only [settledResult, Result.settled, h.isFinite]
    split
    · exact .number h
    · exact .error

section Modes

variable {t : Term} {gap : Blanks} {e : Evaluator} {columns : List String} {rows : List Row}
  {row : Row}

theorem evaluate_textual (hmode : e.mode = .compatibility) (hgap : gap ≠ [])
    {numeral : PlainName → Numeral} (hplain : ∀ name ∈ columns, isPlainName name)
    (hcolumns : ∀ n ∈ t.columns, n.name ∈ columns)
    (htext : ∀ n ∈ t.columns, (numeral n).chars = (insertedText (row.get n.name)).toList)
    (l : Layout) :
    e.evaluate columns rows row (l.around (t.chars gap)) =
      settledResult e.marker (t.value fun n => (numeral n).value) := by
  have htextual := evaluateTextual_around ⟨columns, row, rows, e.today⟩ hgap hplain hcolumns htext l
  rw [evaluateArithmetic_tree] at htextual
  rw [Evaluator.evaluate, hmode]
  dsimp only
  rw [htextual]
  cases t.value fun n => (numeral n).value <;> rfl

theorem evaluate_structured (hmode : e.mode = .structured) (hgap : gap ≠ [])
    (hroot : t.isColumn = false) (hcolumns : ∀ n ∈ t.columns, n.name ∈ columns)
    (hcells : ∀ n ∈ t.columns, CountsAsNumber (row.get n.name)) (l : Layout) :
    e.evaluate columns rows row (l.around (t.chars gap)) =
      settledResult e.marker (t.value fun n => (row.get n.name).numberOrZero) := by
  have hnumber : ∀ n ∈ t.columns, (Scope.valueOf ⟨columns, row, rows, e.today⟩ n.name).toNumber =
      .ok (row.get n.name).numberOrZero := by
    intro n hn
    have hknown : Scope.hasColumn ⟨columns, row, rows, e.today⟩ n.name :=
      List.elem_iff.mpr (hcolumns n hn)
    rw [Scope.valueOf, if_pos hknown]
    exact toNumber_ofCell (hcells n hn)
  rw [Evaluator.evaluate, hmode]
  dsimp only
  rw [evaluateStructured, parseFormula_around hgap]
  dsimp only
  rw [evaluate_tree t hnumber, outcome_of_not_column hroot]
  cases t.value fun n => (row.get n.name).numberOrZero <;> rfl

end Modes

theorem evaluate_alike (t : Term) (gap : Blanks) (l : Layout) (e : Evaluator)
    (columns : List String) (rows : List Row) (row : Row) (hgap : gap ≠ [])
    (hroot : t.isColumn = false) (hplain : ∀ name ∈ columns, isPlainName name)
    (hcolumns : ∀ n ∈ t.columns, n.name ∈ columns)
    (hcells : ∀ n ∈ t.columns, CountsAsNumber (row.get n.name)) :
    Agree e.marker
      ({ e with mode := .compatibility }.evaluate columns rows row (l.around (t.chars gap)))
      ({ e with mode := .structured }.evaluate columns rows row (l.around (t.chars gap))) := by
  -- Each number is written as a numeral of that number, up to the sign of zero.
  choose numeral hchars hvalue using fun n : PlainName =>
    exists_numeral (isFinite_numberOrZero (row.get n.name))
  have htext : ∀ n ∈ t.columns, (numeral n).chars = (insertedText (row.get n.name)).toList := by
    intro n hn
    rw [insertedText_eq (hcells n hn), hchars]
  rw [evaluate_textual rfl hgap hplain hcolumns htext,
    evaluate_structured rfl hgap hroot hcolumns hcells]
  exact (value_alike t fun n _ => hvalue n).agree e.marker

theorem minus_isSign : Sign.minus = .plus ∨ Sign.minus = .minus :=
  .inr rfl

def sample : Term :=
  let a : PlainName := ⟨'a', [], by decide⟩
  let b : PlainName := ⟨'b', ['_', '1'], by decide⟩
  let l : Literal := ⟨['7'], some ['2', '5'], none, by simp, by simp, by simp⟩
  .binary .minus (by decide)
    (.binary .times (by decide) (.binary .plus (by decide) (.column a) (.number l rfl))
      (.signed .minus minus_isSign (.column b)))
    (.column a)

def sampleLayout : Layout :=
  ⟨[], some [], .space⟩

def sampleRow : Row :=
  (Row.fresh "r").set "a" (.number (-1.5))

/-- A negative number comes to stand behind an operator, and the zero of an empty cell behind a
sign. -/
theorem sample_alike :
    sample.isColumn = false ∧ (∀ name ∈ ["a", "b_1"], isPlainName name) ∧
      (∀ n ∈ sample.columns, n.name ∈ ["a", "b_1"] ∧ CountsAsNumber (sampleRow.get n.name)) ∧
      sampleLayout.around (sample.chars .space) = "=( a + 7.25 ) * - b_1 - a " ∧
      Evaluator.evaluate ⟨.structured, "#ERROR", "2026-10-19"⟩ ["a", "b_1"] [] sampleRow
        "=( a + 7.25 ) * - b_1 - a " = .number 1.5 ∧
      Agree "#ERROR"
        (Evaluator.evaluate ⟨.compatibility, "#ERROR", "2026-10-19"⟩ ["a", "b_1"] [] sampleRow
          "=( a + 7.25 ) * - b_1 - a ")
        (Evaluator.evaluate ⟨.structured, "#ERROR", "2026-10-19"⟩ ["a", "b_1"] [] sampleRow
          "=( a + 7.25 ) * - b_1 - a ") := by
  have hplain : ∀ name ∈ ["a", "b_1"], isPlainName name := List.all_eq_true.mp (by decide)
  have hcolumns : ∀ n ∈ sample.columns,
      n.name ∈ ["a", "b_1"] ∧ CountsAsNumber (sampleRow.get n.name) := by
    decide +kernel
  have hrender : sampleLayout.around (sample.chars .space) =
      "=( a + 7.25 ) * - b_1 - a " := by rfl
  have hvalue : Evaluator.evaluate ⟨.structured, "#ERROR", "2026-10-19"⟩ ["a", "b_1"] [] sampleRow
      "=( a + 7.25 ) * - b_1 - a " = .number 1.5 := by
    decide +kernel
  refine ⟨rfl, hplain, hcolumns, hrender, hvalue, ?_⟩
  have h := evaluate_alike sample .space sampleLayout ⟨default, "#ERROR", "2026-10-19"⟩
    ["a", "b_1"] [] sampleRow (by decide) rfl hplain (fun n hn => (hcolumns n hn).1)
    fun n hn => (hcolumns n hn).2
  rwa [hrender] at h

end Term

end Spreadsheet.Formula
