import Mathlib
import Spreadsheet.Formula.Textual
import Spreadsheet.Proofs.Formula.Parsing
import Spreadsheet.Proofs.Formula.Scanning
import Spreadsheet.Proofs.Formula.Term

namespace Spreadsheet.Formula

open Spreadsheet.Text

inductive Token.IsArithmetic : Token → Prop where
  | number (x : Float) : IsArithmetic (.number x)
  | operator {op : Operator} (h : op ∈ arithmetic) : IsArithmetic (.operator op)
  | openParen : IsArithmetic .openParen
  | closeParen : IsArithmetic .closeParen

theorem isArithmetic_cases {c : Char} (hc : isArithmetic c) (hblank : isBlank c = false) :
    (c.isDigit ∨ c = '.') ∨ (c = '+' ∨ c = '-' ∨ c = '*' ∨ c = '/') ∨ c = '(' ∨ c = ')' := by
  simp only [isArithmetic, hblank, Bool.or_false, Bool.or_eq_true, List.contains_eq_mem,
    decide_eq_true_eq, List.mem_cons, List.not_mem_nil, or_false] at hc
  tauto

theorem lexeme_admitted {c : Char} (hc : isArithmetic c) (hblank : isBlank c = false)
    {t : Token} {rest rest' : List Char} (h : lexeme c rest = .ok (t, rest')) : t.IsArithmetic := by
  rcases isArithmetic_cases hc hblank with hnumeral | hoperator | rfl | rfl
  · rw [lexeme_numeral hnumeral] at h
    split at h
    · cases h
      exact .number _
    · cases h
  · rcases hoperator with rfl | rfl | rfl | rfl <;> cases h <;> exact .operator (by decide)
  · cases h
    exact .openParen
  · cases h
    exact .closeParen

theorem lexFrom_admitted {size : Nat} {cs : List Char} (hcs : ∀ c ∈ cs, isArithmetic c)
    {ts : List Token} (h : lexFrom size cs = .ok ts) : ∀ t ∈ ts, t.IsArithmetic := by
  fun_induction lexFrom size cs generalizing ts with
  | case1 cs hnil =>
    cases h
    exact List.forall_mem_nil _
  | case2 cs c rest hcons cause herror => cases h
  | case3 cs c rest hcons t rest' ht ih =>
    have htrim : c :: rest <:+ cs := hcons ▸ List.dropWhile_suffix isBlank
    have htoken :=
      lexeme_admitted (hcs c (htrim.mem List.mem_cons_self)) (isBlank_of_trimStart hcons) ht
    cases hts : lexFrom size rest' with
    | error e =>
      rw [hts] at h
      cases h
    | ok ts' =>
      rw [hts] at h
      cases h
      have hrest' : ∀ d ∈ rest', isArithmetic d := fun d hd =>
        hcs d (htrim.mem (List.mem_cons_of_mem c ((lexeme_suffix ht).mem hd)))
      exact List.forall_mem_cons.mpr ⟨htoken, ih hrest' hts⟩

theorem body_suffix (cs : List Char) : body cs <:+ cs := by
  have htrim : trimStart cs <:+ cs := List.dropWhile_suffix _
  unfold body
  split
  · rename_i rest hcons
    rw [hcons] at htrim
    exact (List.suffix_cons _ _).trans htrim
  · exact htrim

theorem lex_admitted {s : String} (hs : ∀ c ∈ s.toList, isArithmetic c) {ts : List Token}
    (h : lex s = .ok ts) : ∀ t ∈ ts, t.IsArithmetic :=
  lexFrom_admitted (fun c hc => hs c ((body_suffix s.toList).mem hc)) h

inductive Expr.IsArithmetic : Expr → Prop where
  | number (x : Float) : IsArithmetic (.number x)
  | signed {sign : Sign} {operand : Expr} (h : sign = .plus ∨ sign = .minus)
      (ho : operand.IsArithmetic) : IsArithmetic (.signed sign operand)
  | binary {op : Operator} {left right : Expr} (h : op ∈ arithmetic) (hl : left.IsArithmetic)
      (hr : right.IsArithmetic) : IsArithmetic (.binary op left right)

mutual

/-- A rule with any other tree shows a token that is not of arithmetic: a power its operator, a call,
a text or a reference the token that it begins with. -/
theorem Derivation.isArithmetic_tree : {n : Nonterminal} → (d : Derivation n) →
    (∀ t ∈ d.tokens, t.IsArithmetic) → d.tree.IsArithmetic
  | _, .layer first rest, h => by
    simp only [Derivation.tokens, List.forall_mem_append] at h
    exact rest.isArithmetic_extend h.2 (first.isArithmetic_tree h.1)
  | _, .power b x, h => by
    simp only [Derivation.tokens, List.forall_mem_append, List.forall_mem_cons] at h
    obtain ⟨-, hpower, -⟩ := h
    cases hpower with
    | operator hop => exact absurd hop (by decide)
  | _, .base operand, h => operand.isArithmetic_tree h
  | _, .signed _ hsign operand, h =>
    .signed hsign (operand.isArithmetic_tree fun t ht => h t (List.mem_cons_of_mem _ ht))
  | _, .unsigned operand, h => operand.isArithmetic_tree h
  | _, .call name _, h => nomatch h (.name name) (by simp [Derivation.tokens])
  | _, .plain operand, h => operand.isArithmetic_tree h
  | _, .number x, _ => .number x
  | _, .text s, h => nomatch h (.text s) (by simp [Derivation.tokens])
  | _, .name s, h => nomatch h (.name s) (by simp [Derivation.tokens])
  | _, .column s, h => nomatch h (.column s) (by simp [Derivation.tokens])
  | _, .group inner, h =>
    inner.isArithmetic_tree fun t ht => h t (by simp [Derivation.tokens, ht])

theorem Chain.isArithmetic_extend : {l : Layer} → (c : Chain l) →
    (∀ t ∈ c.tokens, t.IsArithmetic) → {left : Expr} → left.IsArithmetic →
      (c.extend left).IsArithmetic
  | _, .done, _, _, hleft => hleft
  | _, .more _ _ operand rest, h, _, hleft => by
    simp only [Chain.tokens, List.forall_mem_append, List.forall_mem_cons] at h
    obtain ⟨hhead, hoperand, hrest⟩ := h
    cases hhead with
    | operator hop =>
      exact rest.isArithmetic_extend hrest (.binary hop hleft (operand.isArithmetic_tree hoperand))

end

theorem parseLayer_of_parse {ts : List Token} {e : Expr} (h : parse ts = .ok e) :
    parseLayer (parseFuel ts) .comparison ts = .ok (e, []) := by
  unfold parse at h
  split at h
  · cases h
  · split at h
    · rename_i hlayer
      cases h
      exact hlayer
    · cases h
    · cases h

theorem derives_of_parseFormula {s : String} {e : Expr} (h : parseFormula s = .ok e) :
    ∃ ts, lex s = .ok ts ∧ Derives (.layer .comparison) ts e := by
  unfold parseFormula at h
  split at h
  · rename_i ts hts
    obtain ⟨d, htree, htokens⟩ := (sound _).layer _ _ _ _ (parseLayer_of_parse h)
    rw [List.append_nil] at htokens
    exact ⟨ts, hts, d, htokens, htree⟩
  · cases h

theorem isArithmetic_of_parseFormula {s : String} (hs : ∀ c ∈ s.toList, isArithmetic c) {e : Expr}
    (h : parseFormula s = .ok e) : e.IsArithmetic := by
  obtain ⟨ts, hts, d, rfl, rfl⟩ := derives_of_parseFormula h
  exact d.isArithmetic_tree (lex_admitted hs hts)

/-- The trees that the evaluation of a tree may come to. -/
inductive Expr.Visits : Expr → Expr → Prop where
  | self (e : Expr) : Visits e e
  | operand {sign : Sign} {operand part : Expr} (h : operand.Visits part) :
      Visits (.signed sign operand) part
  | left {op : Operator} {left right part : Expr} (h : left.Visits part) :
      Visits (.binary op left right) part
  | right {op : Operator} {left right part : Expr} (h : right.Visits part) :
      Visits (.binary op left right) part

theorem finite_error {x : Float} {err : EvalError} (h : finite x = .error err) :
    err = .notFinite := by
  unfold finite at h
  split at h <;> cases h
  rfl

theorem compute_error {op : Operator} (hop : op ∈ arithmetic) {x y : Float} {err : EvalError}
    (h : compute op x y = .error err) : err = .divisionByZero ∨ err = .notFinite := by
  simp only [arithmetic, List.mem_cons, List.not_mem_nil, or_false] at hop
  rcases hop with rfl | rfl | rfl | rfl
  · exact .inr (finite_error h)
  · exact .inr (finite_error h)
  · exact .inr (finite_error h)
  · simp only [compute] at h
    split at h
    · cases h
      exact .inl rfl
    · exact .inr (finite_error h)

namespace Expr.IsArithmetic

variable {e part : Expr} {err : EvalError}

theorem of_visits (he : e.IsArithmetic) (h : e.Visits part) : part.IsArithmetic := by
  induction h with
  | self => exact he
  | operand _ ih =>
    cases he with
    | signed _ ho => exact ih ho
  | left _ ih =>
    cases he with
    | binary _ hl _ => exact ih hl
  | right _ ih =>
    cases he with
    | binary _ _ hr => exact ih hr

theorem evaluateArithmetic_error (he : e.IsArithmetic) (h : evaluateArithmetic e = .error err) :
    err = .divisionByZero ∨ err = .notFinite := by
  induction he with
  | number x => cases h
  | @signed sign operand hsign _ ih =>
    cases ho : evaluateArithmetic operand with
    | error err' =>
      simp only [evaluateArithmetic, ho] at h
      cases h
      exact ih ho
    | ok x =>
      simp only [evaluateArithmetic, ho] at h
      rcases hsign with rfl | rfl <;> cases h
  | @binary op left right hop _ _ ihl ihr =>
    cases hl : evaluateArithmetic left with
    | error err' =>
      simp only [evaluateArithmetic, hl] at h
      cases h
      exact ihl hl
    | ok x =>
      cases hr : evaluateArithmetic right with
      | error err' =>
        simp only [evaluateArithmetic, hl, hr] at h
        cases h
        exact ihr hr
      | ok y =>
        simp only [evaluateArithmetic, hl, hr] at h
        exact compute_error hop h

end Expr.IsArithmetic

/-- A text of the characters that arithmetic is made of has a tree of numbers, signs and the four
operators only, if it has one. Nothing that the evaluation of the tree comes to is anything else, and
each of its parts fails only for a division by zero or a result that is not finite. -/
theorem parseFormula_admitted {s : String} (hs : ∀ c ∈ s.toList, isArithmetic c) {e : Expr}
    (h : parseFormula s = .ok e) :
    e.IsArithmetic ∧ ∀ part, e.Visits part → part.IsArithmetic ∧
      ∀ err, evaluateArithmetic part = .error err → err = .divisionByZero ∨ err = .notFinite := by
  have he := isArithmetic_of_parseFormula hs h
  refine ⟨he, fun part hpart => ?_⟩
  have hp := he.of_visits hpart
  exact ⟨hp, fun err => hp.evaluateArithmetic_error⟩

def Expr.quotient : Expr :=
  .binary .divide (.signed .minus (.binary .plus (.number 1.5) (.number 2))) (.number 0)

theorem quotient_admitted :
    (∀ c ∈ "-(1.5 + 2) / 0".toList, isArithmetic c) ∧
      parseFormula "-(1.5 + 2) / 0" = .ok Expr.quotient ∧
      evaluateArithmetic Expr.quotient = .error .divisionByZero ∧
      Expr.quotient.IsArithmetic ∧
      ∀ part, Expr.quotient.Visits part → part.IsArithmetic ∧
        ∀ err, evaluateArithmetic part = .error err →
          err = .divisionByZero ∨ err = .notFinite := by
  have hs : ∀ c ∈ "-(1.5 + 2) / 0".toList, isArithmetic c := List.all_eq_true.mp (by decide)
  have hlex : lex "-(1.5 + 2) / 0" = .ok [.operator .minus, .openParen, .number 1.5,
      .operator .plus, .number 2, .closeParen, .operator .divide, .number 0] := by
    decide +kernel
  have hparse : parseFormula "-(1.5 + 2) / 0" = .ok Expr.quotient := by
    rw [parseFormula, hlex]
    rfl
  exact ⟨hs, hparse, by decide +kernel, parseFormula_admitted hs hparse⟩

end Spreadsheet.Formula
