import Mathlib
import Spreadsheet.Formula.Memo
import Spreadsheet.Proofs.Formula.PatternText

namespace Spreadsheet.Formula

section Step

variable {engine : Engine} {memo : Option (Memo engine)}

/-- The memo is empty, or holds a text with the pattern that the engine prepares from it. -/
def Memo.Sound (memo : Option (Memo engine)) : Prop :=
  ∀ m ∈ memo, engine.prepare? m.text = some m.pattern

namespace Memo

theorem lookUp_cases (memo : Option (Memo engine)) (text : String) :
    (∃ m ∈ memo, m.text = text ∧ lookUp memo text = (some m.pattern, memo)) ∨
      (∃ pattern, engine.prepare? text = some pattern ∧
        lookUp memo text = (some pattern, some ⟨text, pattern⟩)) ∨
      engine.prepare? text = none ∧ lookUp memo text = (none, memo) := by
  rw [lookUp]
  split
  · rename_i m hkept
    obtain ⟨hm, htext⟩ := Option.filter_eq_some_iff.mp hkept
    exact .inl ⟨m, hm, by simpa using htext, rfl⟩
  · right
    split
    · rename_i pattern hpattern
      exact .inl ⟨pattern, hpattern, rfl⟩
    · rename_i hrefused
      exact .inr ⟨hrefused, rfl⟩

theorem Sound.lookUp_fst (h : Sound memo) (text : String) :
    (lookUp memo text).1 = engine.prepare? text := by
  rcases lookUp_cases memo text with ⟨m, hm, rfl, hfound⟩ | ⟨pattern, hpattern, hfound⟩ |
    ⟨hrefused, hfound⟩
  · rw [hfound, h m hm]
  · rw [hfound, hpattern]
  · rw [hfound, hrefused]

theorem Sound.lookUp_snd (h : Sound memo) (text : String) : Sound (lookUp memo text).2 := by
  rcases lookUp_cases memo text with ⟨m, hm, -, hfound⟩ | ⟨pattern, hpattern, hfound⟩ |
    ⟨-, hfound⟩
  · rwa [hfound]
  · rw [hfound]
    rintro m hm
    obtain rfl := Option.mem_some_iff.mp hm
    exact hpattern
  · rwa [hfound]

theorem isSome_lookUp (text : String) (h : memo.isSome) : (lookUp memo text).2.isSome := by
  rcases lookUp_cases memo text with ⟨m, -, -, hfound⟩ | ⟨pattern, -, hfound⟩ | ⟨-, hfound⟩
  · rwa [hfound]
  · rw [hfound]
    rfl
  · rwa [hfound]

variable (scope : Scope) (formula : String)

theorem Sound.evaluateMemoized_fst (h : Sound memo) :
    (evaluateMemoized memo scope formula).1 = evaluateAfresh engine scope formula := by
  rw [evaluateMemoized, evaluateAfresh]
  split
  · dsimp only
    rw [h.lookUp_fst]
  · rfl

theorem Sound.evaluateMemoized_snd (h : Sound memo) :
    Sound (evaluateMemoized memo scope formula).2 := by
  rw [evaluateMemoized]
  split
  · exact h.lookUp_snd _
  · exact h

theorem isSome_evaluateMemoized (h : memo.isSome) :
    (evaluateMemoized memo scope formula).2.isSome := by
  rw [evaluateMemoized]
  split
  · exact isSome_lookUp _ h
  · exact h

end Memo

end Step

section Run

variable {engine : Engine} {memo : Option (Memo engine)}

theorem Memo.Sound.map_fst_evaluateInTurn (h : Memo.Sound memo) (calls : List (Scope × String)) :
    (evaluateInTurn memo calls).map (·.1) =
      calls.map fun call => evaluateAfresh engine call.1 call.2 := by
  induction calls generalizing memo with
  | nil => rfl
  | cons call calls ih =>
    rw [evaluateInTurn, List.map_cons, List.map_cons, h.evaluateMemoized_fst,
      ih (h.evaluateMemoized_snd call.1 call.2)]

/-- What each evaluation keeps of a memo holds of the memo after every one of a sequence. -/
theorem forall_evaluateInTurn {P : Option (Memo engine) → Prop} (h : P memo)
    (hstep : ∀ memo scope formula, P memo → P (evaluateMemoized memo scope formula).2)
    (calls : List (Scope × String)) : ∀ step ∈ evaluateInTurn memo calls, P step.2 := by
  induction calls generalizing memo with
  | nil => simp [evaluateInTurn]
  | cons call calls ih =>
    have hfirst := hstep memo call.1 call.2 h
    intro step hmem
    rcases List.mem_cons.mp hmem with rfl | hmem
    · exact hfirst
    · exact ih hfirst step hmem

/-- From a sound memo on, every evaluation of a sequence has the result of one that prepares its
pattern for itself, and leaves a sound memo, whether it fails or not; a pattern is never lost. -/
theorem evaluateInTurn_sound (h : Memo.Sound memo) (calls : List (Scope × String)) :
    (evaluateInTurn memo calls).map (·.1) =
        (calls.map fun call => evaluateAfresh engine call.1 call.2) ∧
      ∀ step ∈ evaluateInTurn memo calls,
        Memo.Sound step.2 ∧ (memo.isSome → step.2.isSome) := by
  refine ⟨h.map_fst_evaluateInTurn calls, fun step hstep => ⟨?_, fun hsome => ?_⟩⟩
  · exact forall_evaluateInTurn h (fun _ scope formula h => h.evaluateMemoized_snd scope formula)
      calls step hstep
  · exact forall_evaluateInTurn (P := fun memo => memo.isSome) hsome
      (fun _ scope formula h => Memo.isSome_evaluateMemoized scope formula h) calls step hstep

end Run

def stockRow : Row :=
  ((Row.fresh "r").set "qty" (.number 4)).set "q" (.number 100)

def stockScope (column : String) : Scope :=
  ⟨[column], stockRow, [stockRow], "2026-10-19"⟩

def stockMemo : Option (Memo nameEngine) :=
  some ⟨"\\bqty\\b", namePatterns ["qty"]⟩

def stockCalls : List (Scope × String) :=
  [(stockScope "qty", "=qty * 2"), (stockScope "q", "=q + 1"), (stockScope "q", "=qty + 1"),
    (stockScope "qty", "=qty + 1")]

theorem stock_sound :
    Memo.Sound stockMemo ∧
      (evaluateInTurn stockMemo stockCalls).map (·.1) =
        (stockCalls.map fun call => evaluateAfresh nameEngine call.1 call.2) ∧
      (stockCalls.map fun call => evaluateAfresh nameEngine call.1 call.2) =
        [.ok (.number 8), .ok (.number 101), .error (.disallowed "qty + 1"), .ok (.number 5)] ∧
      ∀ step ∈ evaluateInTurn stockMemo stockCalls,
        Memo.Sound step.2 ∧ (stockMemo.isSome → step.2.isSome) := by
  have hsound : Memo.Sound stockMemo := by
    rintro m hm
    obtain rfl := Option.mem_some_iff.mp hm
    rfl
  obtain ⟨hresults, hmemos⟩ := evaluateInTurn_sound hsound stockCalls
  exact ⟨hsound, hresults, by decide +kernel, hmemos⟩

theorem Form.result_patterns (scope : Scope) {form : Form} (h : form ≠ .arithmetic)
    (patterns : List NamePattern) (cs : List Char) :
    form.result scope patterns cs = form.result scope [] cs := by
  cases form with
  | arithmetic => exact absurd rfl h
  | _ => rfl

/-- With the patterns of names, an evaluation that prepares its pattern is that of a formula read as
text. -/
theorem evaluateAfresh_nameEngine (scope : Scope) (formula : String) :
    evaluateAfresh nameEngine scope formula = evaluateTextual scope formula := by
  rw [evaluateAfresh, evaluateTextual]
  generalize textualBody scope.today formula = cs
  by_cases hform : formOf cs = .arithmetic
  · rw [neededText?, hform]
    cases hnames : orderedNames scope.columns with
    | nil => rfl
    | cons name names =>
      have hread : nameEngine.prepare? (searchText (name :: names)) =
          some (namePatterns (name :: names)) := readPatterns?_searchText (List.cons_ne_nil _ _)
      dsimp only
      rw [hread]
      rfl
  · have hneeded : neededText? scope cs = none := by
      rw [neededText?]
      split
      · rename_i h _
        exact absurd h hform
      · rfl
    rw [hneeded, Form.result_patterns scope hform (namePatterns _)]

theorem Memo.Sound.map_fst_nameEngine {memo : Option (Memo nameEngine)} (h : Memo.Sound memo)
    (calls : List (Scope × String)) :
    (evaluateInTurn memo calls).map (·.1) =
      calls.map fun call => evaluateTextual call.1 call.2 := by
  simp only [h.map_fst_evaluateInTurn, evaluateAfresh_nameEngine]

end Spreadsheet.Formula
