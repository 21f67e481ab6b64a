import Mathlib
import Spreadsheet.Proofs.Formula.Grammar

namespace Spreadsheet.Formula

/-- What an open parenthesis encloses. -/
inductive Enclosure where
  | group
  | call
deriving DecidableEq

inductive Expected where
  | operand
  | argument
  /-- What follows an operand, which may be a name without an opening parenthesis. -/
  | continuation (named : Bool)
deriving DecidableEq

/-- A place in a formula, with the open parentheses from the inside to the outside. -/
structure Place where
  expected : Expected
  enclosures : List Enclosure
deriving DecidableEq

namespace Place

def start : Place :=
  ⟨.operand, []⟩

def afterOpening? (es : List Enclosure) : Token → Option Place
  | .number _ | .text _ | .column _ => some ⟨.continuation false, es⟩
  | .name _ => some ⟨.continuation true, es⟩
  | .operator op => if op = .plus ∨ op = .minus then some ⟨.operand, es⟩ else none
  | .openParen => some ⟨.operand, .group :: es⟩
  | .closeParen | .comma => none

def afterOperand? (named : Bool) (es : List Enclosure) : Token → Option Place
  | .operator op => if op ∈ Operator.all then some ⟨.operand, es⟩ else none
  | .openParen => if named then some ⟨.argument, .call :: es⟩ else none
  | .closeParen => if es = [] then none else some ⟨.continuation false, es.tail⟩
  | .comma => if es.head? = some .call then some ⟨.operand, es⟩ else none
  | .number _ | .text _ | .name _ | .column _ => none

/-- The place after one more token, if the token can stand here. -/
def after? (p : Place) (t : Token) : Option Place :=
  match p.expected with
  | .operand => afterOpening? p.enclosures t
  | .argument =>
    if t = .closeParen then some ⟨.continuation false, p.enclosures.tail⟩
    else afterOpening? p.enclosures t
  | .continuation named => afterOperand? named p.enclosures t

def afterAll? (p : Place) (ts : List Token) : Option Place :=
  ts.foldlM after? p

def IsComplete (p : Place) : Prop :=
  ∃ named, p = ⟨.continuation named, []⟩

/-- The tokens cannot go on here: the first one has no place, or there is none and the formula is not
complete. -/
def Refuses (p : Place) : List Token → Prop
  | [] => ¬ p.IsComplete
  | t :: _ => p.after? t = none

variable {p p' : Place} {t : Token} {ts us : List Token} {es : List Enclosure} {named : Bool}

@[simp] theorem afterAll?_nil : p.afterAll? [] = some p :=
  rfl

theorem afterAll?_cons : p.afterAll? (t :: ts) = (p.after? t).bind (·.afterAll? ts) :=
  List.foldlM_cons

theorem afterAll?_append : p.afterAll? (ts ++ us) = (p.afterAll? ts).bind (·.afterAll? us) := by
  simp only [afterAll?, List.foldlM_append]
  rfl

theorem afterAll?_cons_of (h : p.after? t = some p') : p.afterAll? (t :: ts) = p'.afterAll? ts := by
  rw [afterAll?_cons, h, Option.bind_some]

theorem afterAll?_append_of (h : p.afterAll? ts = some p') :
    p.afterAll? (ts ++ us) = p'.afterAll? us := by
  rw [afterAll?_append, h, Option.bind_some]

theorem after?_operator {op : Operator} (h : op ∈ Operator.all) :
    after? ⟨.continuation named, es⟩ (.operator op) = some ⟨.operand, es⟩ := by
  simp [after?, afterOperand?, h]

theorem after?_closeParen {e : Enclosure} :
    after? ⟨.continuation named, e :: es⟩ .closeParen = some ⟨.continuation false, es⟩ := by
  simp [after?, afterOperand?]

theorem after?_argument (h : t ≠ .closeParen) :
    after? ⟨.argument, es⟩ t = after? ⟨.operand, es⟩ t := by
  simp [after?, h]

theorem afterAll?_argument (h : t ≠ .closeParen) :
    afterAll? ⟨.argument, es⟩ (t :: ts) = afterAll? ⟨.operand, es⟩ (t :: ts) := by
  rw [afterAll?_cons, afterAll?_cons, after?_argument h]

/-- A formula ends after an operand only. -/
theorem refuses_nil (h : ∀ named, p.expected ≠ .continuation named) : p.Refuses [] := by
  rintro ⟨named, rfl⟩
  exact h named rfl

theorem exists_complete_of_operand (named : Bool) (es : List Enclosure) :
    ∃ more p, afterAll? ⟨.continuation named, es⟩ more = some p ∧ p.IsComplete := by
  induction es generalizing named with
  | nil => exact ⟨[], _, rfl, named, rfl⟩
  | cons e es ih =>
    obtain ⟨more, p, hmore, hp⟩ := ih false
    refine ⟨.closeParen :: more, p, ?_, hp⟩
    rw [afterAll?_cons_of after?_closeParen, hmore]

/-- From every place a formula can be completed. -/
theorem exists_complete (p : Place) : ∃ more p', p.afterAll? more = some p' ∧ p'.IsComplete := by
  obtain ⟨expected, es⟩ := p
  cases expected with
  | continuation named => exact exists_complete_of_operand named es
  | operand | argument =>
    obtain ⟨more, p, hmore, hp⟩ := exists_complete_of_operand false es
    exact ⟨.number 0 :: more, p, hmore, hp⟩

end Place

theorem mem_all_of_layer? {op : Operator} {l : Layer} (h : op.layer? = some l) :
    op ∈ Operator.all := by
  cases op with
  | other => cases h
  | _ => simp [Operator.all]

section

open Place

mutual

/-- A phrase leads from a place for an operand to the place after it. -/
theorem Derivation.afterAll?_tokens : {n : Nonterminal} → (d : Derivation n) → ∀ es,
    ∃ named, afterAll? ⟨.operand, es⟩ d.tokens = some ⟨.continuation named, es⟩
  | _, .layer first rest, es => by
    obtain ⟨named, hfirst⟩ := first.afterAll?_tokens es
    obtain ⟨named', hrest⟩ := rest.afterAll?_tokens named es
    exact ⟨named', by rw [Derivation.tokens, afterAll?_append_of hfirst, hrest]⟩
  | _, .power base exponent, es => by
    obtain ⟨named, hbase⟩ := base.afterAll?_tokens es
    obtain ⟨named', hexponent⟩ := exponent.afterAll?_tokens es
    refine ⟨named', ?_⟩
    rw [Derivation.tokens, afterAll?_append_of hbase,
      afterAll?_cons_of (after?_operator (by simp [Operator.all])), hexponent]
  | _, .base operand, es => by
    simpa only [Derivation.tokens] using operand.afterAll?_tokens es
  | _, .signed sign hsign operand, es => by
    obtain ⟨named, hoperand⟩ := operand.afterAll?_tokens es
    have hop : after? ⟨.operand, es⟩ (.operator sign.operator) = some ⟨.operand, es⟩ := by
      rcases hsign with rfl | rfl <;> rfl
    exact ⟨named, by rw [Derivation.tokens, afterAll?_cons_of hop, hoperand]⟩
  | _, .unsigned operand, es => by
    simpa only [Derivation.tokens] using operand.afterAll?_tokens es
  | _, .call name args, es => by
    have hargs := args.afterAll?_tokens es
    exact ⟨false, by rw [Derivation.tokens]; exact hargs⟩
  | _, .plain operand, es => by
    simpa only [Derivation.tokens] using operand.afterAll?_tokens es
  | _, .number x, es => ⟨false, rfl⟩
  | _, .text s, es => ⟨false, rfl⟩
  | _, .name s, es => ⟨true, rfl⟩
  | _, .column s, es => ⟨false, rfl⟩
  | _, .group inner, es => by
    obtain ⟨named, hinner⟩ := inner.afterAll?_tokens (.group :: es)
    refine ⟨false, ?_⟩
    have hopen : after? ⟨.operand, es⟩ .openParen = some ⟨.operand, .group :: es⟩ := rfl
    rw [Derivation.tokens, afterAll?_cons_of hopen, afterAll?_append_of hinner]
    rfl

theorem Chain.afterAll?_tokens : {l : Layer} → (c : Chain l) → ∀ named es,
    ∃ named', afterAll? ⟨.continuation named, es⟩ c.tokens = some ⟨.continuation named', es⟩
  | _, .done, named, es => ⟨named, rfl⟩
  | _, .more op hop operand rest, named, es => by
    obtain ⟨named', hoperand⟩ := operand.afterAll?_tokens es
    obtain ⟨named'', hrest⟩ := rest.afterAll?_tokens named' es
    have hall := mem_all_of_layer? (layer?_eq_some_iff.mpr hop)
    refine ⟨named'', ?_⟩
    rw [Chain.tokens, afterAll?_cons_of (after?_operator hall), afterAll?_append_of hoperand, hrest]

theorem Arguments.afterAll?_tokens : (a : Arguments) → ∀ es,
    afterAll? ⟨.argument, .call :: es⟩ (a.tokens ++ [.closeParen]) =
      some ⟨.continuation false, es⟩
  | .none, es => rfl
  | .some first rest, es => by
    obtain ⟨named, hfirst⟩ := first.afterAll?_tokens (.call :: es)
    obtain ⟨t, ts, ht, -, hclose⟩ := first.exists_head
    rw [Arguments.tokens, List.append_assoc, ht, List.cons_append, afterAll?_argument hclose,
      ← List.cons_append, ← ht, afterAll?_append_of hfirst]
    exact rest.afterAll?_tokens named es

theorem MoreArguments.afterAll?_tokens : (m : MoreArguments) → ∀ named es,
    afterAll? ⟨.continuation named, .call :: es⟩ (m.tokens ++ [.closeParen]) =
      some ⟨.continuation false, es⟩
  | .done, named, es => rfl
  | .more next rest, named, es => by
    obtain ⟨named', hnext⟩ := next.afterAll?_tokens (.call :: es)
    have hcomma : after? ⟨.continuation named, .call :: es⟩ .comma = some ⟨.operand, .call :: es⟩ :=
      rfl
    rw [MoreArguments.tokens, List.cons_append, afterAll?_cons_of hcomma, List.append_assoc,
      afterAll?_append_of hnext]
    exact rest.afterAll?_tokens named' es

end

end

end Spreadsheet.Formula
