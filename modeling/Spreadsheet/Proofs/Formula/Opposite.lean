import Mathlib
import Spreadsheet.Proofs.Formula.LooseOrder

namespace Spreadsheet.Formula

open Spreadsheet.Text

theorem ite_compareLoose_negation {α : Type} (s t : String) (c : Comparison) (a b : α) :
    (if compareLoose s c.negation t then b else a) = if compareLoose s c t then a else b := by
  rw [compareLoose_negation]
  cases compareLoose s c t <;> rfl

theorem ite_mem_pair {α : Type} (p : Bool) (a b : α) : (if p then a else b) ∈ [a, b] := by
  cases p <;> simp

theorem Unmarked.of_blanks {bs cs : List Char} (hbs : ∀ c ∈ bs, isBlank c)
    (h : Unmarked none (bs ++ cs)) : Unmarked none cs := by
  induction bs with
  | nil => exact h
  | cons b bs ih =>
    have hquote : isQuote b = false := by
      have hb := hbs b List.mem_cons_self
      by_contra hq
      simp only [isQuote, Bool.not_eq_false, Bool.or_eq_true, beq_iff_eq] at hq
      rcases hq with rfl | rfl <;> exact absurd hb (by decide)
    have hrest : Unmarked (nextQuote none b) (bs ++ cs) := h.2
    rw [nextQuote, hquote] at hrest
    exact ih (fun c hc => hbs c (List.mem_cons_of_mem b hc)) hrest

/-- A comparison between two texts and the texts of two branches, in which the readers of a formula
find no mark of a conditional and no call that they look for earlier. -/
structure IsAlternative (left right yes no : List Char) : Prop where
  isArgument : ∀ cs ∈ [left, right, yes, no], IsArgument cs
  unmarked : Unmarked none left
  head : right.head? ≠ some '=' ∧ right.head? ≠ some '>'
  first : ∀ cs ∈ [left, right, yes, no],
    ∀ o ∈ openings.takeWhile (· ≠ ("IF", Form.conditional)), ¬ o.1.toList ++ ['('] <:+: cs

theorem isAlternative_iff {left right yes no : List Char} :
    ((∀ cs ∈ [left, right, yes, no], IsArgument cs) ∧ Unmarked none left ∧
      (right.head? ≠ some '=' ∧ right.head? ≠ some '>') ∧
      ∀ cs ∈ [left, right, yes, no], ∀ o ∈ openings.takeWhile (· ≠ ("IF", Form.conditional)),
        ¬ o.1.toList ++ ['('] <:+: cs) ↔ IsAlternative left right yes no :=
  ⟨fun h => ⟨h.1, h.2.1, h.2.2.1, h.2.2.2⟩, fun h => ⟨h.isArgument, h.unmarked, h.head, h.first⟩⟩

instance (left right yes no : List Char) : Decidable (IsAlternative left right yes no) :=
  decidable_of_iff _ isAlternative_iff

def alternativeText (left : List Char) (symbol : String) (right yes no : List Char) : List Char :=
  join [','] [left ++ (symbol.toList ++ right), yes, no]

def conditionalText (left : List Char) (symbol : String) (right yes no : List Char) : List Char :=
  "IF".toList ++ '(' :: (alternativeText left symbol right yes no ++ [')'])

theorem Comparison.all_of_mem_symbols {c : Comparison} {symbol : String}
    (hs : symbol ∈ c.symbols) :
    ∀ d ∈ symbol.toList, isComparisonMark d ∧ isInert d ∧ isBlank d = false := by
  have hall : c.symbols.all fun s => s.toList.all fun d =>
      isComparisonMark d && isInert d && !isBlank d := by cases c <;> decide
  intro d hd
  simpa [and_assoc] using List.all_eq_true.mp (List.all_eq_true.mp hall symbol hs) d hd

theorem not_mem_opening {c : Char} (h : isComparisonMark c ∨ c = ',' ∨ c = ')') :
    ∀ o ∈ openings, c ∉ o.1.toList ++ ['('] := by
  simp only [isComparisonMark, Bool.or_eq_true, beq_iff_eq, or_assoc] at h
  rcases h with rfl | rfl | rfl | rfl | rfl | rfl <;> decide

namespace IsAlternative

variable {left right yes no : List Char} {c : Comparison} {symbol symbol' : String}

theorem exchange (h : IsAlternative left right yes no) : IsAlternative left right no yes where
  isArgument cs hcs := h.isArgument cs (by simp only [List.mem_cons] at hcs ⊢; tauto)
  unmarked := h.unmarked
  head := h.head
  first cs hcs := h.first cs (by simp only [List.mem_cons] at hcs ⊢; tauto)

theorem isArgument_parts (h : IsAlternative left right yes no) (hs : symbol ∈ c.symbols) :
    ∀ cs ∈ [left ++ (symbol.toList ++ right), yes, no], IsArgument cs := by
  have hleft := h.isArgument left (by simp)
  have hright := h.isArgument right (by simp)
  have hsymbol := IsArgument.of_inert fun d hd => (Comparison.all_of_mem_symbols hs d hd).2.1
  intro cs hcs
  simp only [List.mem_cons, List.not_mem_nil, or_false] at hcs
  rcases hcs with rfl | rfl | rfl
  · exact hleft.append (hsymbol.append hright)
  · exact h.isArgument _ (by simp)
  · exact h.isArgument _ (by simp)

theorem exists_split (h : IsAlternative left right yes no) (hs : symbol ∈ c.symbols) :
    ∃ l r, splitCondition (trim (left ++ (symbol.toList ++ right))) = some (l, c, r) ∧
      trim l = trim left ∧ trim r = trim right := by
  obtain ⟨bs, hbs, hleft⟩ := exists_blanks_trimStart left
  obtain ⟨es, hes, hright⟩ := exists_blanks_trimEnd right
  obtain ⟨d, ds, -, hsymbol⟩ := Comparison.exists_mark hs
  have htrim : trim (left ++ (symbol.toList ++ right)) =
      trimStart left ++ (symbol.toList ++ trimEnd right) :=
    trim_append_visible (by simp [hsymbol]) fun d hd => (Comparison.all_of_mem_symbols hs d hd).2.2
  have hunmarked : Unmarked none (trimStart left) := by
    have := h.unmarked
    rw [hleft] at this
    exact this.of_blanks hbs
  have hnext : ∀ d ∈ (trimEnd right).head?, d ≠ '=' ∧ d ≠ '>' := by
    intro d hd
    obtain ⟨rest, hrest⟩ := List.head?_eq_some_iff.mp hd
    have hhead : right.head? = some d := by rw [hright, hrest, List.cons_append, List.head?_cons]
    simpa [hhead] using h.head
  refine ⟨trimStart left, trimEnd right, ?_, ?_, ?_⟩
  · rw [htrim]
    exact splitCondition_symbol hunmarked hs (length_of_startsPair hs hnext)
  · conv_rhs => rw [hleft, trim_blanks_front hbs]
  · conv_rhs => rw [hright, trim_blanks_back hes]

theorem conditionalResult_eq (h : IsAlternative left right yes no) (hs : symbol ∈ c.symbols)
    (scope : Scope) (b : Blanks) :
    conditionalResult scope (b.chars ++ conditionalText left symbol right yes no) =
      .ok (branchResult (trim (if compareLoose (operandText scope (trim left)) c
        (operandText scope (trim right)) then yes else no))) := by
  have hif : ("IF", Form.conditional) ∈ openings := by simp [openings]
  have hparts := h.isArgument_parts hs
  have hargs := argumentsOf_call hif (afterAll?_join hparts) b
  have hsplit := splitArguments_join (List.cons_ne_nil _ _) hparts
  obtain ⟨l, r, hcut, hl, hr⟩ := h.exists_split hs
  rw [apply_ite trim, ← hl, ← hr]
  exact conditionalResult_of scope hargs hsplit hcut

theorem not_isInfix (h : IsAlternative left right yes no) (hs : symbol ∈ c.symbols) :
    ∀ o ∈ openings.takeWhile (· ≠ ("IF", Form.conditional)),
      ¬ o.1.toList ++ ['('] <:+: alternativeText left symbol right yes no ++ [')'] := by
  intro o ho hinfix
  have hmem : o ∈ openings := (List.takeWhile_prefix _).subset ho
  have hcomma : ',' ∉ o.1.toList ++ ['('] := not_mem_opening (.inr (.inl rfl)) o hmem
  have hclose : ')' ∉ o.1.toList ++ ['('] := not_mem_opening (.inr (.inr rfl)) o hmem
  have hfirst := fun cs hcs => h.first cs hcs o ho
  obtain ⟨d, ds, -, hsymbol⟩ := Comparison.exists_mark hs
  have hmark : ∀ e ∈ d :: ds, e ∉ o.1.toList ++ ['('] := fun e he =>
    not_mem_opening (.inl (Comparison.all_of_mem_symbols hs e (hsymbol ▸ he)).1) o hmem
  have htext : alternativeText left symbol right yes no ++ [')'] =
      left ++ d :: (ds ++ (right ++ ',' :: (yes ++ ',' :: (no ++ ')' :: [])))) := by
    simp [alternativeText, join, hsymbol]
  rw [htext] at hinfix
  rcases isInfix_append_cons (hmark d List.mem_cons_self) hinfix with hleft | hinfix
  · exact hfirst left (by simp) hleft
  replace hinfix := isInfix_of_append (fun e he => hmark e (List.mem_cons_of_mem d he)) hinfix
  rcases isInfix_append_cons hcomma hinfix with hright | hinfix
  · exact hfirst right (by simp) hright
  rcases isInfix_append_cons hcomma hinfix with hyes | hinfix
  · exact hfirst yes (by simp) hyes
  rcases isInfix_append_cons hclose hinfix with hno | hnil
  · exact hfirst no (by simp) hno
  · have := List.eq_nil_of_infix_nil hnil
    simp at this

/-- A formula of this text gives the result of the branch that the comparison decides for. -/
theorem evaluateTextual_eq (h : IsAlternative left right yes no) (hs : symbol ∈ c.symbols)
    {scope : Scope} {formula : String} {b : Blanks}
    (hbody : textualBody scope.today formula =
      b.chars ++ conditionalText left symbol right yes no) :
    evaluateTextual scope formula =
      .ok (branchResult (trim (if compareLoose (operandText scope (trim left)) c
        (operandText scope (trim right)) then yes else no))) := by
  have hopenings : openings = openings.takeWhile (· ≠ ("IF", Form.conditional)) ++
      ("IF", Form.conditional) :: (openings.dropWhile (· ≠ ("IF", Form.conditional))).tail := by
    rfl
  have hform : formOf (b.chars ++ conditionalText left symbol right yes no) = .conditional :=
    formOf_call hopenings (h.not_isInfix hs) b
  rw [evaluateTextual, hbody, hform]
  exact h.conditionalResult_eq hs scope b

theorem evaluateTextual_opposed (h : IsAlternative left right yes no) (hs : symbol ∈ c.symbols)
    (hs' : symbol' ∈ c.negation.symbols) {scope : Scope} {formula formula' : String}
    {b b' : Blanks}
    (hbody : textualBody scope.today formula = b.chars ++ conditionalText left symbol right yes no)
    (hbody' : textualBody scope.today formula' =
      b'.chars ++ conditionalText left symbol' right no yes) :
    ∃ branch ∈ [yes, no], evaluateTextual scope formula = .ok (branchResult (trim branch)) ∧
      evaluateTextual scope formula' = .ok (branchResult (trim branch)) := by
  refine ⟨_, ite_mem_pair (compareLoose (operandText scope (trim left)) c
    (operandText scope (trim right))) yes no, h.evaluateTextual_eq hs hbody, ?_⟩
  rw [h.exchange.evaluateTextual_eq hs' hbody', ite_compareLoose_negation]

end IsAlternative

theorem evaluate_compared {op : Operator} {c : Comparison} (hop : op.comparison? = some c)
    (scope : Scope) (left right yes no : Expr) :
    evaluate scope (.call "IF" [.binary op left right, yes, no]) = (do
      let v ← evaluate scope left
      let w ← evaluate scope right
      let branch ← evaluate scope (if compareLoose v.toText c w.toText then yes else no)
      return branch.settle) := by
  cases hleft : evaluate scope left with
  | error e =>
    simp [evaluate, evaluateEach, applyFunction, Aggregate.ofName?, hleft, bind, Except.bind]
  | ok v =>
    cases hright : evaluate scope right with
    | error e =>
      simp [evaluate, evaluateEach, applyFunction, Aggregate.ofName?, hleft, hright, bind,
        Except.bind]
    | ok w =>
      cases hholds : compareLoose v.toText c w.toText <;>
        simp [evaluate, evaluateEach, applyFunction, applyOperator, Aggregate.ofName?, hleft, hright,
          hop, hholds, Value.isTrue, bind, Except.bind]

/-- The tree of a conditional and that of the opposite one have the same value, which is that of one of
the branches if the operands of the comparison have values. -/
theorem evaluate_opposed {op op' : Operator} {c : Comparison} (hop : op.comparison? = some c)
    (hop' : op'.comparison? = some c.negation) (scope : Scope) (left right yes no : Expr) :
    let tree := Expr.call "IF" [.binary op left right, yes, no]
    evaluate scope (.call "IF" [.binary op' left right, no, yes]) = evaluate scope tree ∧
      ∀ v w, evaluate scope left = .ok v → evaluate scope right = .ok w →
        ∃ branch ∈ [yes, no], evaluate scope tree = (evaluate scope branch).map Value.settle := by
  intro tree
  constructor
  · simp only [tree, evaluate_compared hop, evaluate_compared hop', ite_compareLoose_negation]
  · intro v w hv hw
    refine ⟨_, ite_mem_pair (compareLoose v.toText c w.toText) yes no, ?_⟩
    rw [evaluate_compared hop, hv, hw]
    rfl

/-- Texts are ordered: exactly one of three comparisons holds of two texts, each comparison has a
negation, and the sides may be exchanged along with the direction. So a conditional gives the same
branch as the one on the negated comparison with exchanged branches. -/
theorem compareLoose_lawful :
    (∀ s t, ∃! c, c ∈ [Comparison.less, .equal, .greater] ∧ compareLoose s c t = true) ∧
      (∀ s c t, compareLoose s c.negation t = !compareLoose s c t) ∧
      (∀ s c t, compareLoose t c.converse s = compareLoose s c t) ∧
      (∀ (scope : Scope) (left right yes no : List Char) (c : Comparison) (symbol symbol' : String)
        (formula formula' : String) (b b' : Blanks),
        IsAlternative left right yes no → symbol ∈ c.symbols → symbol' ∈ c.negation.symbols →
        textualBody scope.today formula = b.chars ++ conditionalText left symbol right yes no →
        textualBody scope.today formula' = b'.chars ++ conditionalText left symbol' right no yes →
        ∃ branch ∈ [yes, no], evaluateTextual scope formula = .ok (branchResult (trim branch)) ∧
          evaluateTextual scope formula' = .ok (branchResult (trim branch))) ∧
      ∀ (scope : Scope) (op op' : Operator) (c : Comparison) (left right yes no : Expr),
        op.comparison? = some c → op'.comparison? = some c.negation →
        let tree := Expr.call "IF" [.binary op left right, yes, no]
        evaluate scope (.call "IF" [.binary op' left right, no, yes]) = evaluate scope tree ∧
          ∀ v w, evaluate scope left = .ok v → evaluate scope right = .ok w →
            ∃ branch ∈ [yes, no],
              evaluate scope tree = (evaluate scope branch).map Value.settle := by
  refine ⟨fun s t => ?_, fun s c t => compareLoose_negation s t c,
    fun s c t => compareLoose_converse s t c, ?_, ?_⟩
  · obtain ⟨ordering, h, -⟩ := exists_looseOrdering s t
    simpa only [compareLoose_eq_holds h] using Comparison.existsUnique_holds ordering
  · intro scope left right yes no c symbol symbol' formula formula' b b' h hs hs' hbody hbody'
    exact h.evaluateTextual_opposed hs hs' hbody hbody'
  · intro scope op op' c left right yes no hop hop'
    exact evaluate_opposed hop hop' scope left right yes no

theorem compareLoose_lawful_quantity :
    let scope : Scope := ⟨["qty"], (Row.fresh "r").set "qty" (.number 9), [], "2026-10-19"⟩
    let few := "\"few, or > none\"".toList
    let many := " 'IF(many)'".toList
    IsAlternative "qty ".toList "10".toList few many ∧
      evaluateTextual scope "=IF(qty <10,\"few, or > none\", 'IF(many)')" =
        .ok (.text "few, or > none") ∧
      evaluateTextual scope "= IF(qty >=10, 'IF(many)',\"few, or > none\") " =
        .ok (.text "few, or > none") ∧
      evaluate scope (.call "IF" [.binary .less (.column "qty") (.number 10), .text "few",
        .text "many"]) = .ok (.text "few") ∧
      evaluate scope (.call "IF" [.binary .greaterEqual (.column "qty") (.number 10), .text "many",
        .text "few"]) = .ok (.text "few") := by
  intro scope few many
  obtain ⟨-, -, -, htext, htree⟩ := compareLoose_lawful
  have halternative : IsAlternative "qty ".toList "10".toList few many := by decide +kernel
  obtain ⟨branch, -, hfew, hopposed⟩ := htext scope "qty ".toList "10".toList few many .less "<" ">="
    "=IF(qty <10,\"few, or > none\", 'IF(many)')" "= IF(qty >=10, 'IF(many)',\"few, or > none\") "
    [] [⟨' ', by decide⟩] halternative (by decide) (by decide) (by decide +kernel)
    (by decide +kernel)
  have hfew' : evaluateTextual scope "=IF(qty <10,\"few, or > none\", 'IF(many)')" =
      .ok (.text "few, or > none") := by decide +kernel
  have htree' : evaluate scope (.call "IF" [.binary .less (.column "qty") (.number 10), .text "few",
      .text "many"]) = .ok (.text "few") := by decide +kernel
  refine ⟨halternative, hfew', (hopposed.trans hfew.symm).trans hfew', htree', ?_⟩
  exact (htree scope .less .greaterEqual .less (.column "qty") (.number 10) (.text "few")
    (.text "many") rfl rfl).1.trans htree'

end Spreadsheet.Formula
