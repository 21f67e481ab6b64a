import Mathlib
import Spreadsheet.Proofs.Formula.Condition

namespace Spreadsheet.Formula

open Spreadsheet.Text

/-- A single call of a function of texts. -/
inductive OperandCall where
  | conditional (condition : Condition) (yes no : Spaced Quoted)
  | concatenation (short : Bool) (first : Spaced Operand) (rest : List (Spaced Operand))
  | difference (first second : Spaced Operand)

def textResult (s : String) : Result :=
  match Decimal.parse? s with
  | some x => .number x
  | none => .text s

section

variable (scope : Scope) {name : String} {cs args : List Char}

theorem conditionalResult_of {condition yes no left right : List Char} {comparison : Comparison}
    (hargs : argumentsOf "IF" cs = .ok args) (hsplit : splitArguments args = [condition, yes, no])
    (hcut : splitCondition condition = some (left, comparison, right)) :
    conditionalResult scope cs = .ok (branchResult
      (if compareLoose (operandText scope (trim left)) comparison (operandText scope (trim right))
        then yes else no)) := by
  simp only [conditionalResult, hargs, bind, Except.bind, hsplit, hcut]
  rfl

theorem concatenationResult_of {pieces : List (List Char)} (hargs : argumentsOf name cs = .ok args)
    (hsplit : splitArguments args = pieces) : concatenationResult scope name cs =
      .ok (.text (String.join (pieces.map (operandText scope)))) := by
  simp only [concatenationResult, hargs, bind, Except.bind, hsplit]
  rfl

theorem differenceResult_of {first second : List Char} (hargs : argumentsOf "DATEDIFF" cs = .ok args)
    (hsplit : splitArguments args = [first, second]) : differenceResult scope cs =
      .ok (.number (Float.ofNat (Calendar.daysBetween (operandText scope first).toList
        (operandText scope second).toList))) := by
  simp only [differenceResult, hargs, bind, Except.bind, hsplit]
  rfl

end

namespace OperandCall

def opening : OperandCall → String × Form
  | conditional .. => ("IF", .conditional)
  | concatenation false .. => ("CONCATENATE", .concatenation "CONCATENATE")
  | concatenation true .. => ("CONCAT", .concatenation "CONCAT")
  | difference .. => ("DATEDIFF", .difference)

theorem opening_mem (c : OperandCall) : c.opening ∈ openings := by
  unfold opening
  split <;> simp [openings]

def identifier (c : OperandCall) : Identifier :=
  match c with
  | conditional .. => .ofChars 'I' "F".toList (by decide)
  | concatenation false .. => .ofChars 'C' "ONCATENATE".toList (by decide)
  | concatenation true .. => .ofChars 'C' "ONCAT".toList (by decide)
  | difference .. => .ofChars 'D' "ATEDIFF".toList (by decide)

theorem name_identifier (c : OperandCall) : c.identifier.name = c.opening.1 := by
  unfold identifier opening
  split <;> rfl

def arguments : OperandCall → List (List Piece)
  | conditional condition yes no => [condition.pieces, yes.quoted.pieces, no.quoted.pieces]
  | concatenation _ first rest => first.pieces :: rest.map Spaced.pieces
  | difference first second => [first.pieces, second.pieces]

def exprs : OperandCall → List Expr
  | conditional condition yes no => [condition.expr, .text yes.item.text, .text no.item.text]
  | concatenation _ first rest => first.item.expr :: rest.map (·.item.expr)
  | difference first second => [first.item.expr, second.item.expr]

def chars (c : OperandCall) : List Char :=
  written (callPieces c.identifier c.arguments)

def inner (c : OperandCall) : List Char :=
  join [','] (c.arguments.map written) ++ [')']

/-- Behind its own opening, the call has no other one and no call for the date. -/
structure IsAlone (c : OperandCall) : Prop where
  openings : ∀ o ∈ openings, ¬ o.1.toList ++ ['('] <:+: c.inner
  today : ¬ "TODAY()".toList <:+: c.inner

/-- Behind its own opening, the call has none that is looked for earlier, and no call for the date. -/
structure IsFirst (c : OperandCall) : Prop where
  openings : ∀ o ∈ openings.takeWhile (· ≠ c.opening), ¬ o.1.toList ++ ['('] <:+: c.inner
  today : ¬ "TODAY()".toList <:+: c.inner

theorem IsAlone.isFirst {c : OperandCall} (h : c.IsAlone) : c.IsFirst where
  openings o ho := h.openings o ((List.takeWhile_prefix _).subset ho)
  today := h.today

def result (shown : Cell → String) (scope : Scope) : OperandCall → Result
  | conditional condition yes no =>
    textResult (if condition.holds shown scope then yes.item.text else no.item.text)
  | concatenation _ first rest =>
    .text (String.join ((first :: rest).map fun s => s.item.textIn shown scope))
  | difference first second =>
    let days := Calendar.daysBetween (first.item.textIn shown scope).toList
      (second.item.textIn shown scope).toList
    .number (Float.ofNat days)

variable (c : OperandCall)

theorem chars_eq : c.chars = c.opening.1.toList ++ '(' :: c.inner := by
  rw [chars, written_callPieces, name_identifier, inner]

theorem arguments_ne_nil : c.arguments ≠ [] := by
  cases c <;> exact List.cons_ne_nil _ _

theorem isArgument : ∀ cs ∈ c.arguments.map written, IsArgument cs := by
  have hspaced : ∀ s : Spaced Operand, IsArgument (written s.pieces) := Spaced.isArgument
  cases c with
  | conditional condition yes no => simp [arguments, condition.isArgument, hspaced]
  | concatenation short first rest => simp [arguments, hspaced]
  | difference first second => simp [arguments, hspaced]

theorem forall₂_written : List.Forall₂ Written c.arguments c.exprs := by
  cases c with
  | conditional condition yes no =>
    exact .cons condition.isWritten (.cons yes.quoted.isWritten (.cons no.quoted.isWritten .nil))
  | concatenation short first rest =>
    refine .cons first.isWritten ?_
    rw [List.forall₂_map_left_iff, List.forall₂_map_right_iff, List.forall₂_same]
    exact fun s _ => s.isWritten
  | difference first second => exact .cons first.isWritten (.cons second.isWritten .nil)

section Textual

variable {c} {scope : Scope}

theorem IsFirst.not_today (h : c.IsFirst) : ¬ "TODAY()".toList <:+: c.chars := by
  rw [c.chars_eq]
  exact not_today_of_opening c.opening_mem h.today

theorem openings_eq (c : OperandCall) :
    openings = openings.takeWhile (· ≠ c.opening) ++
      c.opening :: (openings.dropWhile (· ≠ c.opening)).tail := by
  unfold opening
  split <;> rfl

theorem IsFirst.formOf_eq (h : c.IsFirst) (b : Blanks) :
    formOf (b.chars ++ c.chars) = c.opening.2 := by
  rw [c.chars_eq]
  exact formOf_call c.openings_eq h.openings b

theorem argumentsOf_chars (c : OperandCall) (b : Blanks) :
    argumentsOf c.opening.1 (b.chars ++ c.chars) = .ok (join [','] (c.arguments.map written)) := by
  rw [c.chars_eq]
  exact argumentsOf_call c.opening_mem (afterAll?_join c.isArgument) b

theorem splitArguments_arguments (c : OperandCall) :
    splitArguments (join [','] (c.arguments.map written)) =
      c.arguments.map fun ps => trim (written ps) := by
  rw [splitArguments_join (by simp [c.arguments_ne_nil]) c.isArgument, List.map_map]
  rfl

theorem branchResult_quoted (s : Spaced Quoted) :
    branchResult (trim (written s.quoted.pieces)) = textResult s.item.text := by
  have hchars : s.quoted.item.chars = (Operand.quoted s.item).chars := rfl
  rw [Spaced.trim_pieces, hchars, branchResult, stripQuotes_quoted, String.ofList_toList]
  rfl

theorem result_form (h : ∀ name ∈ scope.columns, '"' ∉ name.toList) (c : OperandCall) (b : Blanks)
    (patterns : List NamePattern) :
    c.opening.2.result scope patterns (b.chars ++ c.chars) = .ok (c.result Cell.toText scope) := by
  have hargs := c.argumentsOf_chars b
  have hsplit := c.splitArguments_arguments
  have htext : ∀ s : Spaced Operand,
      operandText scope (trim (written s.pieces)) = s.item.textIn Cell.toText scope := by
    intro s
    rw [s.trim_pieces, operandText_eq h]
  cases c with
  | conditional condition yes no =>
    obtain ⟨comparison, left, right, hop, hcut, hleft, hright⟩ := condition.exists_split
    have hresult := conditionalResult_of scope hargs hsplit hcut
    rw [hleft, hright, operandText_eq h, operandText_eq h] at hresult
    have hholds : condition.holds Cell.toText scope = compareLoose
        (condition.left.item.textIn Cell.toText scope) comparison
        (condition.right.item.textIn Cell.toText scope) := by
      rw [Condition.holds, hop, Option.any_some]
    rw [← hholds] at hresult
    rw [opening, Form.result, hresult, result]
    split
    · rw [branchResult_quoted]
    · rw [branchResult_quoted]
  | concatenation short first rest =>
    have hresult := concatenationResult_of scope hargs hsplit
    have htexts : (((concatenation short first rest).arguments.map fun ps => trim (written ps)).map
        (operandText scope)) = (first :: rest).map fun s => s.item.textIn Cell.toText scope := by
      simp [arguments, htext]
    rw [htexts] at hresult
    cases short <;> exact hresult
  | difference first second =>
    have hresult := differenceResult_of scope hargs hsplit
    rw [htext, htext] at hresult
    exact hresult

theorem IsFirst.evaluateTextual_eq (h : ∀ name ∈ scope.columns, '"' ∉ name.toList)
    (hfirst : c.IsFirst) (l : Layout) :
    evaluateTextual scope (l.around c.chars) = .ok (c.result Cell.toText scope) := by
  have hbody := isBody_callPieces c.identifier c.arguments
  have htext := l.textualBody_around hbody hfirst.not_today scope.today
  have hform := hfirst.formOf_eq l.gap
  have hresult := result_form h c l.gap (namePatterns (orderedNames scope.columns))
  rw [evaluateTextual, chars, htext, ← chars, hform, hresult]

theorem evaluateTextual_around (h : ∀ name ∈ scope.columns, '"' ∉ name.toList)
    (halone : c.IsAlone) (l : Layout) :
    evaluateTextual scope (l.around c.chars) = .ok (c.result Cell.toText scope) :=
  halone.isFirst.evaluateTextual_eq h l

end Textual

section Structured

variable (scope : Scope)

theorem evaluate_condition (c : Condition) :
    evaluate scope c.expr = .ok (.flag (c.holds valueText scope)) := by
  obtain ⟨comparison, _, _, hop, -⟩ := c.exists_split
  obtain ⟨left, hleft, hlt⟩ := evaluate_operand scope c.left.item
  obtain ⟨right, hright, hrt⟩ := evaluate_operand scope c.right.item
  rw [Condition.holds, hop, Option.any_some, ← hlt, ← hrt, Condition.expr, evaluate, hleft, hright]
  simp only [bind, Except.bind, applyOperator, hop]

theorem evaluate_if {condition : Expr} {b : Bool} (s t : String)
    (h : evaluate scope condition = .ok (.flag b)) :
    evaluate scope (.call "IF" [condition, .text s, .text t]) =
      .ok (Value.text (if b then s else t)).settle := by
  cases b <;>
    simp [evaluate, evaluateEach, applyFunction, Aggregate.ofName?, h, bind, Except.bind,
      Value.isTrue, pure, Except.pure]

theorem collect_operands (os : List Operand) :
    ∃ vs, collect (evaluateEach scope (os.map Operand.expr)) = .ok vs ∧
      vs.map Value.toText = os.map (Operand.textIn valueText scope) := by
  induction os with
  | nil => exact ⟨[], rfl, rfl⟩
  | cons o os ih =>
    obtain ⟨v, hv, ht⟩ := evaluate_operand scope o
    obtain ⟨vs, hvs, hts⟩ := ih
    refine ⟨v :: vs, ?_, by simp [ht, hts]⟩
    rw [List.map_cons, evaluateEach, collect, hv, hvs]
    rfl

theorem evaluate_concatenate {name : String} (h : name = "CONCATENATE" ∨ name = "CONCAT")
    (os : List Operand) : evaluate scope (.call name (os.map Operand.expr)) =
      .ok (.text (String.join (os.map (Operand.textIn valueText scope)))) := by
  obtain ⟨vs, hvs, hts⟩ := collect_operands scope os
  rcases h with rfl | rfl <;>
    simp [evaluate, applyFunction, Aggregate.ofName?, hvs, hts, bind, Except.bind, pure,
      Except.pure]

theorem evaluate_difference (o o' : Operand) :
    evaluate scope (.call "DATEDIFF" [o.expr, o'.expr]) =
      .ok (.number (Float.ofNat (Calendar.daysBetween (o.textIn valueText scope).toList
        (o'.textIn valueText scope).toList))) := by
  obtain ⟨v, hv, ht⟩ := evaluate_operand scope o
  obtain ⟨v', hv', ht'⟩ := evaluate_operand scope o'
  rw [← ht, ← ht']
  simp [evaluate, evaluateEach, applyFunction, Aggregate.ofName?, hv, hv', bind, Except.bind,
    pure, Except.pure]

theorem result_settle (s : String) : (Value.text s).settle.result = textResult s := by
  rw [Value.settle, textResult]
  cases Decimal.parse? s <;> rfl

theorem evaluateStructured_around (c : OperandCall) (l : Layout) :
    evaluateStructured scope (l.around c.chars) = .ok (c.result valueText scope) := by
  have hwritten := Written.call c.forall₂_written c.identifier
  have hparse := hwritten.parseFormula_around (isBody_callPieces c.identifier c.arguments) l
  rw [evaluateStructured, chars, hparse, name_identifier]
  cases c with
  | conditional condition yes no =>
    have h := evaluate_if scope yes.item.text no.item.text (evaluate_condition scope condition)
    simp only [opening, exprs, h, result_settle, result]
  | concatenation short first rest =>
    have hexprs : (concatenation short first rest).exprs =
        ((first :: rest).map (·.item)).map Operand.expr := by simp [exprs]
    have hname : (concatenation short first rest).opening.1 = "CONCATENATE" ∨
        (concatenation short first rest).opening.1 = "CONCAT" := by
      cases short <;> simp [opening]
    dsimp only
    rw [hexprs, evaluate_concatenate scope hname, List.map_map]
    rfl
  | difference first second =>
    have h := evaluate_difference scope first.item second.item
    simp only [opening, exprs, h, result, Value.result]

end Structured

theorem valueText_eq {cell : Cell} (h : ∀ b, cell ≠ .flag b) : valueText cell = cell.toText := by
  cases cell with
  | flag b => exact absurd rfl (h b)
  | _ => rfl

/-- A truth value is no date, however it is shown. -/
theorem readDate?_valueText (cell : Cell) :
    Calendar.readDate? (valueText cell).toList = Calendar.readDate? cell.toText.toList := by
  cases cell with
  | flag b => cases b <;> decide
  | _ => rfl

def shown : OperandCall → List Operand
  | conditional condition _ _ => [condition.left.item, condition.right.item]
  | concatenation _ first rest => first.item :: rest.map (·.item)
  | difference _ _ => []

theorem result_valueText {scope : Scope} {c : OperandCall}
    (h : ∀ o ∈ c.shown, ∀ b, o.cell? scope ≠ some (.flag b)) :
    c.result valueText scope = c.result Cell.toText scope := by
  have htext : ∀ o ∈ c.shown, o.textIn valueText scope = o.textIn Cell.toText scope := by
    intro o ho
    refine Operand.textIn_congr fun cell hcell => valueText_eq ?_
    rintro b rfl
    exact h o ho b hcell
  cases c with
  | conditional condition yes no =>
    have hleft := htext condition.left.item (by simp [shown])
    have hright := htext condition.right.item (by simp [shown])
    have hholds : condition.holds valueText scope = condition.holds Cell.toText scope := by
      rw [Condition.holds, Condition.holds, hleft, hright]
    rw [result, result, hholds]
  | concatenation short first rest =>
    have hall : ∀ s ∈ first :: rest, s.item.textIn valueText scope =
        s.item.textIn Cell.toText scope := by
      intro s hs
      exact htext s.item (List.mem_map_of_mem (f := fun s : Spaced Operand => s.item) hs)
    rw [result, result, List.map_congr_left hall]
  | difference first second =>
    have hdate : ∀ o : Operand, Calendar.readDate? (o.textIn valueText scope).toList =
        Calendar.readDate? (o.textIn Cell.toText scope).toList := by
      intro o
      cases o with
      | name i =>
        rw [Operand.textIn, Operand.textIn]
        split
        · exact readDate?_valueText _
        · rfl
      | quoted s => rfl
    simp only [result, Calendar.daysBetween, hdate]

/-- Both modes give the result that the texts of the operands determine, unless one of the texts that
are seen is that of a truth value. -/
theorem evaluate_agree (c : OperandCall) (l : Layout) (e : Evaluator) (columns : List String)
    (rows : List Row) (row : Row) (halone : c.IsAlone)
    (hcolumns : ∀ name ∈ columns, '"' ∉ name.toList)
    (hflags : ∀ o ∈ c.shown, ∀ b, o.cell? ⟨columns, row, rows, e.today⟩ ≠ some (.flag b))
    (mode : Mode) : { e with mode := mode }.evaluate columns rows row (l.around c.chars) =
      (c.result Cell.toText ⟨columns, row, rows, e.today⟩).settled e.marker := by
  have htextual : evaluateTextual ⟨columns, row, rows, e.today⟩ (l.around c.chars) =
      .ok (c.result Cell.toText ⟨columns, row, rows, e.today⟩) :=
    evaluateTextual_around hcolumns halone l
  have hstructured := evaluateStructured_around ⟨columns, row, rows, e.today⟩ c l
  rw [result_valueText hflags] at hstructured
  cases mode with
  | compatibility => simp only [Evaluator.evaluate, htextual, Except.toOption]
  | structured => simp only [Evaluator.evaluate, hstructured, Except.toOption]

def sample : OperandCall :=
  .conditional
    { left := ⟨[], .name (.ofChars 'q' ['t', 'y'] (by decide)), .space⟩
      op := .greaterEqual
      isComparison := by decide
      right := ⟨.space, .quoted ⟨"10", by decide⟩, []⟩ }
    ⟨.space, ⟨"a, (b)", by decide⟩, []⟩ ⟨[], ⟨"1.5", by decide⟩, []⟩

def sampleLayout : Layout :=
  ⟨[], some .space, .space⟩

/-- A text cell that holds a number is compared as a number. -/
theorem sample_agree : sample.IsAlone ∧
    sampleLayout.around sample.chars = "= IF(qty >= \"10\", \"a, (b)\",\"1.5\") " ∧
    ∀ mode, Evaluator.evaluate ⟨mode, "#ERROR", "2026-10-19"⟩ ["qty"] []
      ((Row.fresh "r").set "qty" (.text "9")) "= IF(qty >= \"10\", \"a, (b)\",\"1.5\") " =
        .number 1.5 := by
  have halone : sample.IsAlone := ⟨by decide, by decide⟩
  have hrender : sampleLayout.around sample.chars =
      "= IF(qty >= \"10\", \"a, (b)\",\"1.5\") " := by rfl
  refine ⟨halone, hrender, fun mode => ?_⟩
  have h := evaluate_agree sample sampleLayout ⟨default, "#ERROR", "2026-10-19"⟩ ["qty"] []
    ((Row.fresh "r").set "qty" (.text "9")) halone (by decide) (by decide) mode
  rw [hrender] at h
  refine h.trans ?_
  decide +kernel

def flagged : OperandCall :=
  .concatenation false ⟨[], .name (.ofChars 'f' ['l', 'a', 'g'] (by decide)), []⟩ []

/-- The two modes show a truth value in different letters. -/
theorem flagged_disagree :
    let row := (Row.fresh "a").set "flag" (.flag true)
    Evaluator.evaluate ⟨.compatibility, "#ERROR", "2026-10-19"⟩ ["flag"] [row] row
        "=CONCATENATE(flag)" = .text "true" ∧
      Evaluator.evaluate ⟨.structured, "#ERROR", "2026-10-19"⟩ ["flag"] [row] row
        "=CONCATENATE(flag)" = .text "TRUE" := by
  intro row
  have hrender : Layout.around ⟨[], some [], []⟩ flagged.chars = "=CONCATENATE(flag)" := by rfl
  have halone : flagged.IsAlone := ⟨by decide, by decide⟩
  have htextual : evaluateTextual ⟨["flag"], row, [row], "2026-10-19"⟩ _ = _ :=
    evaluateTextual_around (by decide) halone ⟨[], some [], []⟩
  have hstructured := evaluateStructured_around ⟨["flag"], row, [row], "2026-10-19"⟩ flagged
    ⟨[], some [], []⟩
  rw [hrender] at htextual hstructured
  simp only [Evaluator.evaluate, htextual, hstructured, Except.toOption]
  decide +kernel

end OperandCall

end Spreadsheet.Formula
