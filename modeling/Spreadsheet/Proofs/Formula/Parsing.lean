import Mathlib
import Spreadsheet.Proofs.Formula.Grammar

namespace Spreadsheet.Formula

/-- With this much fuel, what a step of the parser takes has a derivation. -/
structure Sound (fuel : Nat) : Prop where
  layer : ∀ l ts e rest, parseLayer fuel l ts = .ok (e, rest) →
    ∃ d : Derivation (.layer l), d.tree = e ∧ d.tokens ++ rest = ts
  chain : ∀ l left ts e rest, parseChain fuel l left ts = .ok (e, rest) →
    ∃ c : Chain l, c.extend left = e ∧ c.tokens ++ rest = ts
  operand : ∀ l ts e rest, parseOperand fuel l ts = .ok (e, rest) →
    ∃ d : Derivation l.operand, d.tree = e ∧ d.tokens ++ rest = ts
  power : ∀ ts e rest, parsePower fuel ts = .ok (e, rest) →
    ∃ d : Derivation .power, d.tree = e ∧ d.tokens ++ rest = ts
  signed : ∀ ts e rest, parseSigned fuel ts = .ok (e, rest) →
    ∃ d : Derivation .unary, d.tree = e ∧ d.tokens ++ rest = ts
  primary : ∀ ts e rest, parsePrimary fuel ts = .ok (e, rest) →
    ∃ d : Derivation .call, d.tree = e ∧ d.tokens ++ rest = ts
  arguments : ∀ ts es rest, parseArguments fuel ts = .ok (es, rest) →
    ∃ a : Arguments, a.trees = es ∧ a.tokens ++ rest = ts
  moreArguments : ∀ e ts es rest, parseMoreArguments fuel e ts = .ok (es, rest) →
    ∃ m : MoreArguments, e :: m.trees = es ∧ m.tokens ++ rest = ts

namespace Sound

variable {fuel : Nat} {l : Layer} {left e : Expr} {es : List Expr} {ts rest : List Token}

theorem parseLayer_succ (h : Sound fuel) (hp : parseLayer (fuel + 1) l ts = .ok (e, rest)) :
    ∃ d : Derivation (.layer l), d.tree = e ∧ d.tokens ++ rest = ts := by
  unfold parseLayer at hp
  split at hp
  · rename_i left ts' hl
    obtain ⟨d, rfl, rfl⟩ := h.operand _ _ _ _ hl
    obtain ⟨c, rfl, rfl⟩ := h.chain _ _ _ _ _ hp
    exact ⟨.layer d c, by simp [Derivation.tree], by simp [Derivation.tokens]⟩
  · cases hp

theorem parseChain_succ (h : Sound fuel) (hp : parseChain (fuel + 1) l left ts = .ok (e, rest)) :
    ∃ c : Chain l, c.extend left = e ∧ c.tokens ++ rest = ts := by
  unfold parseChain at hp
  split at hp
  · rename_i op ts'
    split at hp
    · rename_i hop
      split at hp
      · rename_i right ts'' hr
        obtain ⟨d, rfl, rfl⟩ := h.operand _ _ _ _ hr
        obtain ⟨c, rfl, rfl⟩ := h.chain _ _ _ _ _ hp
        exact ⟨.more op (layer?_eq_some_iff.mp hop) d c, by simp [Chain.extend], by simp [Chain.tokens]⟩
      · cases hp
    · cases hp
      exact ⟨.done, by simp [Chain.extend], by simp [Chain.tokens]⟩
  · cases hp
    exact ⟨.done, by simp [Chain.extend], by simp [Chain.tokens]⟩

theorem parseOperand_succ (h : Sound fuel) (hp : parseOperand (fuel + 1) l ts = .ok (e, rest)) :
    ∃ d : Derivation l.operand, d.tree = e ∧ d.tokens ++ rest = ts := by
  cases l with
  | comparison => exact h.layer .sum _ _ _ hp
  | sum => exact h.layer .product _ _ _ hp
  | product => exact h.power _ _ _ hp

theorem parsePower_succ (h : Sound fuel) (hp : parsePower (fuel + 1) ts = .ok (e, rest)) :
    ∃ d : Derivation .power, d.tree = e ∧ d.tokens ++ rest = ts := by
  unfold parsePower at hp
  split at hp
  · rename_i base ts' hb
    obtain ⟨b, rfl, rfl⟩ := h.signed _ _ _ hb
    split at hp
    · rename_i exponent ts'' hx
      cases hp
      obtain ⟨x, rfl, rfl⟩ := h.power _ _ _ hx
      exact ⟨.power b x, by simp [Derivation.tree], by simp [Derivation.tokens]⟩
    · cases hp
  · obtain ⟨d, rfl, rfl⟩ := h.signed _ _ _ hp
    exact ⟨.base d, by simp [Derivation.tree], by simp [Derivation.tokens]⟩

theorem parseSigned_succ (h : Sound fuel) (hp : parseSigned (fuel + 1) ts = .ok (e, rest)) :
    ∃ d : Derivation .unary, d.tree = e ∧ d.tokens ++ rest = ts := by
  unfold parseSigned at hp
  split at hp
  · rename_i op ts'
    split at hp
    · rename_i sign hs
      split at hp
      · rename_i operand ts'' ho
        cases hp
        obtain ⟨d, rfl, rfl⟩ := h.signed _ _ _ ho
        obtain ⟨hsign, rfl⟩ := sign?_eq_some_iff.mp hs
        exact ⟨.signed sign hsign d, by simp [Derivation.tree], by simp [Derivation.tokens]⟩
      · cases hp
    · cases hp
  · obtain ⟨d, rfl, rfl⟩ := h.primary _ _ _ hp
    exact ⟨.unsigned d, by simp [Derivation.tree], by simp [Derivation.tokens]⟩

theorem parsePrimary_succ (h : Sound fuel) (hp : parsePrimary (fuel + 1) ts = .ok (e, rest)) :
    ∃ d : Derivation .call, d.tree = e ∧ d.tokens ++ rest = ts := by
  unfold parsePrimary at hp
  split at hp
  · rename_i s ts'
    split at hp
    · rename_i args ts'' ha
      cases hp
      obtain ⟨a, rfl, rfl⟩ := h.arguments _ _ _ ha
      exact ⟨.call s a, by simp [Derivation.tree], by simp [Derivation.tokens]⟩
    · cases hp
    · cases hp
  · rename_i x ts'
    cases hp
    exact ⟨.plain (.number x), rfl, rfl⟩
  · rename_i s ts'
    cases hp
    exact ⟨.plain (.text s), rfl, rfl⟩
  · rename_i s ts' _
    cases hp
    exact ⟨.plain (.name s), rfl, rfl⟩
  · rename_i s ts'
    cases hp
    exact ⟨.plain (.column s), rfl, rfl⟩
  · split at hp
    · rename_i inner ts'' hi
      cases hp
      obtain ⟨d, rfl, rfl⟩ := h.layer _ _ _ _ hi
      exact ⟨.plain (.group d), by simp [Derivation.tree], by simp [Derivation.tokens]⟩
    · cases hp
    · cases hp
  · cases hp
  · cases hp

theorem parseArguments_succ (h : Sound fuel) (hp : parseArguments (fuel + 1) ts = .ok (es, rest)) :
    ∃ a : Arguments, a.trees = es ∧ a.tokens ++ rest = ts := by
  unfold parseArguments at hp
  split at hp
  · cases hp
    exact ⟨.none, by simp [Arguments.trees], by simp [Arguments.tokens]⟩
  · split at hp
    · rename_i arg ts' ha
      obtain ⟨d, rfl, rfl⟩ := h.layer _ _ _ _ ha
      obtain ⟨m, rfl, rfl⟩ := h.moreArguments _ _ _ _ hp
      exact ⟨.some d m, by simp [Arguments.trees], by simp [Arguments.tokens]⟩
    · cases hp

theorem parseMoreArguments_succ (h : Sound fuel)
    (hp : parseMoreArguments (fuel + 1) e ts = .ok (es, rest)) :
    ∃ m : MoreArguments, e :: m.trees = es ∧ m.tokens ++ rest = ts := by
  unfold parseMoreArguments at hp
  split at hp
  · split at hp
    · rename_i next ts' hn
      split at hp
      · rename_i args ts'' hm
        cases hp
        obtain ⟨d, rfl, rfl⟩ := h.layer _ _ _ _ hn
        obtain ⟨m, rfl, rfl⟩ := h.moreArguments _ _ _ _ hm
        exact ⟨.more d m, by simp [MoreArguments.trees], by simp [MoreArguments.tokens]⟩
      · cases hp
    · cases hp
  · cases hp
    exact ⟨.done, by simp [MoreArguments.trees], by simp [MoreArguments.tokens]⟩

end Sound

theorem sound (fuel : Nat) : Sound fuel := by
  induction fuel with
  | zero =>
    constructor <;> intros <;> rename_i hp <;> cases hp
  | succ fuel ih =>
    exact {
      layer := fun _ _ _ _ => ih.parseLayer_succ
      chain := fun _ _ _ _ _ => ih.parseChain_succ
      operand := fun _ _ _ _ => ih.parseOperand_succ
      power := fun _ _ _ => ih.parsePower_succ
      signed := fun _ _ _ => ih.parseSigned_succ
      primary := fun _ _ _ => ih.parsePrimary_succ
      arguments := fun _ _ _ => ih.parseArguments_succ
      moreArguments := fun _ _ _ _ => ih.parseMoreArguments_succ }

def parseAs (fuel : Nat) : Nonterminal → List Token → Parsed Expr
  | .layer l => parseLayer fuel l
  | .power => parsePower fuel
  | .unary => parseSigned fuel
  | .call | .primary => parsePrimary fuel

theorem parseOperand_eq_parseAs (fuel : Nat) (l : Layer) (ts : List Token) :
    parseOperand (fuel + 1) l ts = parseAs fuel l.operand ts := by
  cases l <;> rfl

/-- The fuel for the descent to the first token of a phrase. -/
def Nonterminal.rank : Nonterminal → Nat
  | layer .comparison => 8
  | layer .sum => 6
  | layer .product => 4
  | power => 2
  | unary => 1
  | call | primary => 0

theorem rank_operand (l : Layer) : l.operand.rank + 2 = (Nonterminal.layer l).rank := by
  cases l <;> rfl

theorem rank_operand_le (l : Layer) : l.operand.rank ≤ 6 := by
  cases l <;> decide

mutual

/-- The parser gives back any phrase that ends where the rest begins. Ten units of fuel for each token
pay for the way from one token to the next, and the rank for the way to the first. -/
theorem Derivation.parseAs_tokens : {n : Nonterminal} → (d : Derivation n) → ∀ fuel rest,
    10 * d.tokens.length + n.rank ≤ fuel → n.Ends rest →
      parseAs fuel n (d.tokens ++ rest) = .ok (d.tree, rest)
  | .layer l, .layer first c, fuel, rest, hf, he => by
    have hl := rank_operand l
    simp only [Derivation.tokens, List.length_append] at hf
    obtain ⟨fuel, rfl⟩ : ∃ k, fuel = k + 2 := ⟨fuel - 2, by omega⟩
    have h := first.parseAs_tokens fuel (c.tokens ++ rest) (by omega) (he.chain c)
    change parseLayer (fuel + 2) l _ = _
    simp only [Derivation.tokens, Derivation.tree, List.append_assoc, parseLayer,
      parseOperand_eq_parseAs, h]
    exact c.parseChain_tokens (fuel + 1) _ rest (by omega) he
  | _, .power b x, fuel, rest, hf, he => by
    simp only [Derivation.tokens, List.length_append, List.length_cons, Nonterminal.rank] at hf
    obtain ⟨fuel, rfl⟩ : ∃ k, fuel = k + 1 := ⟨fuel - 1, by omega⟩
    have hb := b.parseAs_tokens fuel (.operator .power :: (x.tokens ++ rest))
      (by simp only [Nonterminal.rank]; omega) id
    have hx := x.parseAs_tokens fuel rest
      (by simp only [Nonterminal.rank]; omega) he
    simp only [parseAs] at hb hx
    simp [Derivation.tokens, Derivation.tree, parseAs, parsePower, hb, hx]
  | _, .base d, fuel, rest, hf, he => by
    simp only [Derivation.tokens, Nonterminal.rank] at hf
    obtain ⟨fuel, rfl⟩ : ∃ k, fuel = k + 1 := ⟨fuel - 1, by omega⟩
    have h := d.parseAs_tokens fuel rest
      (by simp only [Nonterminal.rank]; omega) he.unary
    simp only [parseAs] at h
    simp only [Derivation.tokens, Derivation.tree, parseAs, parsePower, h]
    split
    · rename_i heq
      cases heq
      exact absurd rfl he
    · rfl
  | _, .signed sign h d, fuel, rest, hf, he => by
    simp only [Derivation.tokens, List.length_cons, Nonterminal.rank] at hf
    obtain ⟨fuel, rfl⟩ : ∃ k, fuel = k + 1 := ⟨fuel - 1, by omega⟩
    have hd := d.parseAs_tokens fuel rest
      (by simp only [Nonterminal.rank]; omega) he
    have hs := sign?_eq_some_iff.mpr ⟨h, rfl⟩
    simp only [parseAs] at hd
    simp [Derivation.tokens, Derivation.tree, parseAs, parseSigned, hs, hd]
  | _, .unsigned d, fuel, rest, hf, he => by
    simp only [Derivation.tokens, Nonterminal.rank] at hf
    obtain ⟨fuel, rfl⟩ : ∃ k, fuel = k + 1 := ⟨fuel - 1, by omega⟩
    have h := d.parseAs_tokens fuel rest
      (by simp only [Nonterminal.rank]; omega) he
    obtain ⟨t, ts, ht, hop⟩ := d.exists_head_call
    simp only [parseAs, ht, List.cons_append] at h
    simp only [Derivation.tokens, Derivation.tree, parseAs, parseSigned, ht, List.cons_append]
    split
    · rename_i heq
      cases heq
      exact absurd rfl (hop _)
    · exact h
  | _, .call name args, fuel, rest, hf, he => by
    simp only [Derivation.tokens, List.length_cons, List.length_append] at hf
    obtain ⟨fuel, rfl⟩ : ∃ k, fuel = k + 1 := ⟨fuel - 1, by omega⟩
    have h := args.parseArguments_tokens fuel rest (by omega)
    simp [Derivation.tokens, Derivation.tree, parseAs, parsePrimary, h]
  | _, .plain d, _, _, hf, he => by
    simpa only [Derivation.tokens, Derivation.tree, parseAs] using d.parseAs_tokens _ _ hf he
  | _, .number x, fuel, rest, hf, he => by
    obtain ⟨fuel, rfl⟩ : ∃ k, fuel = k + 1 := ⟨fuel - 1, by simp [Derivation.tokens] at hf; omega⟩
    rfl
  | _, .text s, fuel, rest, hf, he => by
    obtain ⟨fuel, rfl⟩ : ∃ k, fuel = k + 1 := ⟨fuel - 1, by simp [Derivation.tokens] at hf; omega⟩
    rfl
  | _, .name s, fuel, rest, hf, he => by
    obtain ⟨fuel, rfl⟩ : ∃ k, fuel = k + 1 := ⟨fuel - 1, by simp [Derivation.tokens] at hf; omega⟩
    have hrest : ∀ ts, rest ≠ .openParen :: ts := by
      rintro ts rfl
      exact he
    simp [Derivation.tokens, Derivation.tree, parseAs, parsePrimary]
  | _, .column s, fuel, rest, hf, he => by
    obtain ⟨fuel, rfl⟩ : ∃ k, fuel = k + 1 := ⟨fuel - 1, by simp [Derivation.tokens] at hf; omega⟩
    rfl
  | _, .group inner, fuel, rest, hf, he => by
    simp only [Derivation.tokens, List.length_cons, List.length_append] at hf
    obtain ⟨fuel, rfl⟩ : ∃ k, fuel = k + 1 := ⟨fuel - 1, by omega⟩
    have h := inner.parseAs_tokens fuel (.closeParen :: rest)
      (by simp only [Nonterminal.rank]; omega) trivial
    simp only [parseAs] at h
    simp [Derivation.tokens, Derivation.tree, parseAs, parsePrimary, h]

theorem Chain.parseChain_tokens : {l : Layer} → (c : Chain l) → ∀ fuel left rest,
    10 * c.tokens.length + 1 ≤ fuel → (Nonterminal.layer l).Ends rest →
      parseChain fuel l left (c.tokens ++ rest) = .ok (c.extend left, rest)
  | l, .done, fuel, left, rest, hf, he => by
    obtain ⟨fuel, rfl⟩ : ∃ k, fuel = k + 1 := ⟨fuel - 1, by omega⟩
    simp only [Chain.tokens, Chain.extend, List.nil_append, parseChain]
    split
    · rw [if_neg he.layer?_ne]
    · rfl
  | l, .more op hop d c, fuel, left, rest, hf, he => by
    have hl := rank_operand_le l
    simp only [Chain.tokens, List.length_cons, List.length_append] at hf
    obtain ⟨fuel, rfl⟩ : ∃ k, fuel = k + 2 := ⟨fuel - 2, by omega⟩
    have h := d.parseAs_tokens fuel (c.tokens ++ rest) (by omega) (he.chain c)
    simp only [Chain.tokens, Chain.extend, List.cons_append, List.append_assoc, parseChain,
      layer?_eq_some_iff.mpr hop, if_true, parseOperand_eq_parseAs, h]
    exact c.parseChain_tokens (fuel + 1) _ rest (by omega) he

theorem Arguments.parseArguments_tokens : (a : Arguments) → ∀ fuel rest,
    10 * a.tokens.length + 9 ≤ fuel →
      parseArguments fuel (a.tokens ++ .closeParen :: rest) = .ok (a.trees, .closeParen :: rest)
  | .none, fuel, rest, hf => by
    obtain ⟨fuel, rfl⟩ : ∃ k, fuel = k + 1 := ⟨fuel - 1, by omega⟩
    rfl
  | .some d m, fuel, rest, hf => by
    simp only [Arguments.tokens, List.length_append] at hf
    obtain ⟨fuel, rfl⟩ : ∃ k, fuel = k + 1 := ⟨fuel - 1, by omega⟩
    have h := d.parseAs_tokens fuel (m.tokens ++ .closeParen :: rest)
      (by simp only [Nonterminal.rank]; omega) (m.ends rest)
    obtain ⟨t, ts, ht, -, hclose⟩ := d.exists_head
    simp only [parseAs, ht, List.cons_append] at h
    simp only [Arguments.tokens, Arguments.trees, List.append_assoc, parseArguments, ht,
      List.cons_append]
    split
    · rename_i heq
      cases heq
      exact absurd rfl hclose
    · rw [h]
      exact m.parseMoreArguments_tokens fuel d.tree rest (by omega)

theorem MoreArguments.parseMoreArguments_tokens : (m : MoreArguments) → ∀ fuel e rest,
    10 * m.tokens.length + 1 ≤ fuel →
      parseMoreArguments fuel e (m.tokens ++ .closeParen :: rest) =
        .ok (e :: m.trees, .closeParen :: rest)
  | .done, fuel, e, rest, hf => by
    obtain ⟨fuel, rfl⟩ : ∃ k, fuel = k + 1 := ⟨fuel - 1, by omega⟩
    rfl
  | .more d m, fuel, e, rest, hf => by
    simp only [MoreArguments.tokens, List.length_cons, List.length_append] at hf
    obtain ⟨fuel, rfl⟩ : ∃ k, fuel = k + 1 := ⟨fuel - 1, by omega⟩
    have h := d.parseAs_tokens fuel (m.tokens ++ .closeParen :: rest)
      (by simp only [Nonterminal.rank]; omega) (m.ends rest)
    have hm := m.parseMoreArguments_tokens fuel d.tree rest (by omega)
    simp only [parseAs] at h
    simp [MoreArguments.tokens, MoreArguments.trees, parseMoreArguments, h, hm]

end

theorem parse_of_derives {ts : List Token} {e : Expr} (h : Derives (.layer .comparison) ts e) :
    parse ts = .ok e := by
  obtain ⟨d, rfl, rfl⟩ := h
  obtain ⟨t, ts, ht, -⟩ := d.exists_head
  have h := d.parseAs_tokens (parseFuel d.tokens) []
    (by simp only [parseFuel, Nonterminal.rank]; omega) (ends_nil _)
  simp only [parseAs, List.append_nil] at h
  simp [parse, h, ht ▸ List.cons_ne_nil t ts]

/-- A list of tokens is parsed into a tree exactly when the grammar derives the whole list as that
tree; and the list determines the derivation. -/
theorem parse_eq_ok_iff (ts : List Token) (e : Expr) :
    (parse ts = .ok e ↔ Derives (.layer .comparison) ts e) ∧
      ∀ d d' : Derivation (.layer .comparison), d.tokens = ts → d'.tokens = ts → d = d' := by
  refine ⟨⟨fun h => ?_, parse_of_derives⟩, fun d d' hd hd' => ?_⟩
  · unfold parse at h
    split at h
    · cases h
    · split at h
      · rename_i heq
        cases h
        obtain ⟨d, hd, rfl⟩ := (sound _).layer _ _ _ _ heq
        exact ⟨d, (List.append_nil _).symm, hd⟩
      · cases h
      · cases h
  · exact (d.unique d' (ends_nil _) (ends_nil _) (by rw [hd, hd'])).1

end Spreadsheet.Formula
