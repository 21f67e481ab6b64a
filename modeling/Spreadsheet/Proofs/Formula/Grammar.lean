import Mathlib
import Spreadsheet.Formula.Parser

namespace Spreadsheet.Formula

inductive Nonterminal where
  | layer (l : Layer)
  | power
  | unary
  | call
  | primary
deriving DecidableEq

def Layer.operand : Layer → Nonterminal
  | comparison => .layer .sum
  | sum => .layer .product
  | product => .power

def Layer.operators : Layer → List Operator
  | comparison =>
    [.equal, .doubleEqual, .bangEqual, .lessGreater, .less, .greater, .lessEqual, .greaterEqual]
  | sum => [.plus, .minus]
  | product => [.times, .divide]

mutual

/-- The rules of the grammar. A layer is an operand and any number of operators with operands; a power
is a signed operand, or one with an exponent that is a power again. -/
inductive Derivation : Nonterminal → Type where
  | layer {l : Layer} (first : Derivation l.operand) (rest : Chain l) : Derivation (.layer l)
  | power (base : Derivation .unary) (exponent : Derivation .power) : Derivation .power
  | base (operand : Derivation .unary) : Derivation .power
  | signed (sign : Sign) (h : sign = .plus ∨ sign = .minus) (operand : Derivation .unary) :
      Derivation .unary
  | unsigned (operand : Derivation .call) : Derivation .unary
  | call (name : String) (args : Arguments) : Derivation .call
  | plain (operand : Derivation .primary) : Derivation .call
  | number (x : Float) : Derivation .primary
  | text (s : String) : Derivation .primary
  | name (s : String) : Derivation .primary
  | column (s : String) : Derivation .primary
  | group (inner : Derivation (.layer .comparison)) : Derivation .primary

inductive Chain : Layer → Type where
  | done {l : Layer} : Chain l
  | more {l : Layer} (op : Operator) (h : op ∈ l.operators) (operand : Derivation l.operand)
      (rest : Chain l) : Chain l

inductive Arguments : Type where
  | none
  | some (first : Derivation (.layer .comparison)) (rest : MoreArguments)

inductive MoreArguments : Type where
  | done
  | more (next : Derivation (.layer .comparison)) (rest : MoreArguments)

end

mutual

def Derivation.tokens : {n : Nonterminal} → Derivation n → List Token
  | _, .layer first rest => first.tokens ++ rest.tokens
  | _, .power base exponent => base.tokens ++ .operator .power :: exponent.tokens
  | _, .base operand => operand.tokens
  | _, .signed sign _ operand => .operator sign.operator :: operand.tokens
  | _, .unsigned operand => operand.tokens
  | _, .call name args => .name name :: .openParen :: (args.tokens ++ [.closeParen])
  | _, .plain operand => operand.tokens
  | _, .number x => [.number x]
  | _, .text s => [.text s]
  | _, .name s => [.name s]
  | _, .column s => [.column s]
  | _, .group inner => .openParen :: (inner.tokens ++ [.closeParen])

def Chain.tokens : {l : Layer} → Chain l → List Token
  | _, .done => []
  | _, .more op _ operand rest => .operator op :: (operand.tokens ++ rest.tokens)

def Arguments.tokens : Arguments → List Token
  | .none => []
  | .some first rest => first.tokens ++ rest.tokens

def MoreArguments.tokens : MoreArguments → List Token
  | .done => []
  | .more next rest => .comma :: (next.tokens ++ rest.tokens)

end

mutual

def Derivation.tree : {n : Nonterminal} → Derivation n → Expr
  | _, .layer first rest => rest.extend first.tree
  | _, .power base exponent => .binary .power base.tree exponent.tree
  | _, .base operand => operand.tree
  | _, .signed sign _ operand => .signed sign operand.tree
  | _, .unsigned operand => operand.tree
  | _, .call name args => .call name args.trees
  | _, .plain operand => operand.tree
  | _, .number x => .number x
  | _, .text s => .text s
  | _, .name s => .column s
  | _, .column s => .column s
  | _, .group inner => inner.tree

def Chain.extend : {l : Layer} → Chain l → Expr → Expr
  | _, .done, left => left
  | _, .more op _ operand rest, left => rest.extend (.binary op left operand.tree)

def Arguments.trees : Arguments → List Expr
  | .none => []
  | .some first rest => first.tree :: rest.trees

def MoreArguments.trees : MoreArguments → List Expr
  | .done => []
  | .more next rest => next.tree :: rest.trees

end

/-- The tokens derive the tree as a phrase of a kind. -/
def Derives (n : Nonterminal) (ts : List Token) (e : Expr) : Prop :=
  ∃ d : Derivation n, d.tokens = ts ∧ d.tree = e

theorem layer?_eq_some_iff {op : Operator} {l : Layer} :
    op.layer? = some l ↔ op ∈ l.operators := by
  cases op <;> cases l <;> simp [Operator.layer?, Layer.operators]

theorem sign?_eq_some_iff {op : Operator} {sign : Sign} :
    op.sign? = some sign ↔ (sign = .plus ∨ sign = .minus) ∧ sign.operator = op := by
  cases op <;> cases sign <;> simp [Operator.sign?, Sign.operator]

theorem Sign.operator_injective : Function.Injective Sign.operator := by
  intro s s' h
  cases s <;> cases s' <;> grind [Sign.operator]

/-- The operator after a phrase of this kind would belong to the phrase. -/
def Nonterminal.takes : Nonterminal → Operator → Prop
  | layer .comparison, op => op = .power ∨ op.layer? ≠ none
  | layer .sum, op => op = .power ∨ op.layer? = some .product ∨ op.layer? = some .sum
  | layer .product, op => op = .power ∨ op.layer? = some .product
  | power, op => op = .power
  | unary, _ | call, _ | primary, _ => False

/-- A phrase of this kind ends in front of the tokens. -/
def Nonterminal.Ends (n : Nonterminal) : List Token → Prop
  | .operator op :: _ => ¬ n.takes op
  | .openParen :: _ => False
  | _ => True

theorem takes_layer_iff (l : Layer) (op : Operator) :
    (Nonterminal.layer l).takes op ↔ op.layer? = some l ∨ l.operand.takes op := by
  have hp : op = .power → op.layer? = none := by
    rintro rfl
    rfl
  cases l <;> simp only [Nonterminal.takes, Layer.operand]
  · cases ho : op.layer? with
    | none => simp
    | some l => cases l <;> simp
  · tauto
  · tauto

theorem not_takes_operand {l : Layer} {op : Operator} (h : op.layer? = some l) :
    ¬ l.operand.takes op := by
  have hp : op ≠ .power := by
    rintro rfl
    cases h
  cases l <;> simp [Nonterminal.takes, Layer.operand, hp, h]

theorem ends_nil (n : Nonterminal) : n.Ends [] :=
  trivial

theorem ends_closeParen (n : Nonterminal) (rest : List Token) : n.Ends (.closeParen :: rest) :=
  trivial

namespace Nonterminal.Ends

variable {l : Layer} {ts : List Token}

theorem operand (h : (layer l).Ends ts) : l.operand.Ends ts := by
  unfold Ends at h ⊢
  split
  · exact fun ht => h ((takes_layer_iff l _).mpr (.inr ht))
  · exact h
  · trivial

theorem layer?_ne {op : Operator} (h : (layer l).Ends (.operator op :: ts)) :
    op.layer? ≠ some l :=
  fun hl => h ((takes_layer_iff l op).mpr (.inl hl))

/-- The first operand of a layer ends where the rest of the layer begins. -/
theorem chain (h : (layer l).Ends ts) (rest : Chain l) : l.operand.Ends (rest.tokens ++ ts) := by
  cases rest with
  | done => exact h.operand
  | more op hop _ _ => exact not_takes_operand (layer?_eq_some_iff.mpr hop)

theorem unary (h : power.Ends ts) : Nonterminal.unary.Ends ts := by
  unfold Ends at h ⊢
  split
  · exact id
  · exact h
  · trivial

end Nonterminal.Ends

namespace Derivation

theorem exists_head {n : Nonterminal} : (d : Derivation n) →
    ∃ t ts, d.tokens = t :: ts ∧ t ≠ .comma ∧ t ≠ .closeParen
  | .layer first rest => by
    obtain ⟨t, ts, h, ht⟩ := first.exists_head
    exact ⟨t, ts ++ rest.tokens, by simp [tokens, h], ht⟩
  | .power b x => by
    obtain ⟨t, ts, h, ht⟩ := b.exists_head
    exact ⟨t, ts ++ .operator .power :: x.tokens, by simp [tokens, h], ht⟩
  | .base operand => by simpa only [tokens] using operand.exists_head
  | .unsigned operand => by simpa only [tokens] using operand.exists_head
  | .plain operand => by simpa only [tokens] using operand.exists_head
  | .signed sign _ operand => ⟨.operator sign.operator, operand.tokens, by simp [tokens]⟩
  | .call s args => ⟨.name s, .openParen :: (args.tokens ++ [.closeParen]), by simp [tokens]⟩
  | .number x => ⟨.number x, [], by simp [tokens]⟩
  | .text s => ⟨.text s, [], by simp [tokens]⟩
  | .name s => ⟨.name s, [], by simp [tokens]⟩
  | .column s => ⟨.column s, [], by simp [tokens]⟩
  | .group inner => ⟨.openParen, inner.tokens ++ [.closeParen], by simp [tokens]⟩

theorem exists_head_call (d : Derivation .call) :
    ∃ t ts, d.tokens = t :: ts ∧ ∀ op, t ≠ .operator op := by
  cases d with
  | call s args => exact ⟨.name s, _, rfl, by simp⟩
  | plain d => cases d <;> exact ⟨_, _, rfl, by simp⟩

end Derivation

/-- An argument ends where the arguments after it begin. -/
theorem MoreArguments.ends (m : MoreArguments) (rest : List Token) :
    (Nonterminal.layer .comparison).Ends (m.tokens ++ .closeParen :: rest) := by
  cases m <;> trivial

mutual

/-- Two phrases of one kind that begin the same tokens are the same, if each ends where its rest
begins: the shorter one could take the operator that the longer one goes on with. -/
theorem Derivation.unique : {n : Nonterminal} → (d d' : Derivation n) → ∀ {rest rest'},
    n.Ends rest → n.Ends rest' → d.tokens ++ rest = d'.tokens ++ rest' → d = d' ∧ rest = rest'
  | .layer l, .layer first c, d', rest, rest', he, he', h => by
    cases d' with
    | layer first' c' =>
      simp only [Derivation.tokens, List.append_assoc] at h
      obtain ⟨rfl, hr⟩ := first.unique first' (he.chain c) (he'.chain c') h
      obtain ⟨rfl, hrest⟩ := c.unique c' he he' hr
      exact ⟨rfl, hrest⟩
  | _, .power b x, d', rest, rest', he, he', h => by
    cases d' with
    | power b' x' =>
      simp only [Derivation.tokens, List.append_assoc, List.cons_append] at h
      obtain ⟨rfl, hr⟩ := b.unique b' id id h
      obtain ⟨rfl, hrest⟩ := x.unique x' he he' (List.tail_eq_of_cons_eq hr)
      exact ⟨rfl, hrest⟩
    | base d' =>
      simp only [Derivation.tokens, List.append_assoc, List.cons_append] at h
      obtain ⟨-, rfl⟩ := b.unique d' id he'.unary h
      exact absurd rfl he'
  | _, .base d, d', rest, rest', he, he', h => by
    cases d' with
    | power b' x' =>
      simp only [Derivation.tokens, List.append_assoc, List.cons_append] at h
      obtain ⟨-, rfl⟩ := d.unique b' he.unary id h
      exact absurd rfl he
    | base d' =>
      obtain ⟨rfl, hr⟩ := d.unique d' he.unary he'.unary h
      exact ⟨rfl, hr⟩
  | _, .signed sign hs d, d', rest, rest', he, he', h => by
    cases d' with
    | signed sign' hs' d' =>
      simp only [Derivation.tokens, List.cons_append, List.cons.injEq, Token.operator.injEq] at h
      obtain ⟨hop, h⟩ := h
      obtain rfl := Sign.operator_injective hop
      obtain ⟨rfl, hr⟩ := d.unique d' he he' h
      exact ⟨rfl, hr⟩
    | unsigned d' =>
      obtain ⟨t, ts, ht, hop⟩ := d'.exists_head_call
      simp only [Derivation.tokens, ht, List.cons_append, List.cons.injEq] at h
      exact absurd h.1.symm (hop _)
  | _, .unsigned d, d', rest, rest', he, he', h => by
    cases d' with
    | signed sign' hs' d' =>
      obtain ⟨t, ts, ht, hop⟩ := d.exists_head_call
      simp only [Derivation.tokens, ht, List.cons_append, List.cons.injEq] at h
      exact absurd h.1 (hop _)
    | unsigned d' =>
      obtain ⟨rfl, hr⟩ := d.unique d' he he' h
      exact ⟨rfl, hr⟩
  | _, .call name args, d', rest, rest', he, he', h => by
    cases d' with
    | call name' args' =>
      simp only [Derivation.tokens, List.cons_append, List.append_assoc, List.nil_append,
        List.cons.injEq, Token.name.injEq, true_and] at h
      obtain ⟨rfl, h⟩ := h
      obtain ⟨rfl, hr⟩ := args.unique args' h
      exact ⟨rfl, hr⟩
    | plain d' =>
      cases d' <;> simp [Derivation.tokens] at h
      rw [← h.2] at he'
      exact he'.elim
  | _, .plain d, d', rest, rest', he, he', h => by
    cases d' with
    | call name' args' =>
      cases d <;> simp [Derivation.tokens] at h
      rw [h.2] at he
      exact he.elim
    | plain d' =>
      obtain ⟨rfl, hr⟩ := d.unique d' he he' h
      exact ⟨rfl, hr⟩
  | _, .number x, d', rest, rest', _, _, h => by
    cases d' <;> simp_all [Derivation.tokens]
  | _, .text s, d', rest, rest', _, _, h => by
    cases d' <;> simp_all [Derivation.tokens]
  | _, .name s, d', rest, rest', _, _, h => by
    cases d' <;> simp_all [Derivation.tokens]
  | _, .column s, d', rest, rest', _, _, h => by
    cases d' <;> simp_all [Derivation.tokens]
  | _, .group d, d', rest, rest', _, _, h => by
    cases d' with
    | group d' =>
      simp only [Derivation.tokens, List.cons_append, List.append_assoc, List.nil_append,
        List.cons.injEq, true_and] at h
      obtain ⟨rfl, hr⟩ := d.unique d' (ends_closeParen _ rest) (ends_closeParen _ rest') h
      exact ⟨rfl, List.tail_eq_of_cons_eq hr⟩
    | _ => simp [Derivation.tokens] at h
termination_by structural _ d => d

theorem Chain.unique : {l : Layer} → (c c' : Chain l) → ∀ {rest rest'},
    (Nonterminal.layer l).Ends rest → (Nonterminal.layer l).Ends rest' →
      c.tokens ++ rest = c'.tokens ++ rest' → c = c' ∧ rest = rest'
  | l, .done, c', rest, rest', he, he', h => by
    cases c' with
    | done => exact ⟨rfl, h⟩
    | more op hop d c' =>
      simp only [Chain.tokens, List.nil_append, List.cons_append] at h
      subst h
      exact absurd (layer?_eq_some_iff.mpr hop) he.layer?_ne
  | l, .more op hop d c, c', rest, rest', he, he', h => by
    cases c' with
    | done =>
      simp only [Chain.tokens, List.nil_append, List.cons_append] at h
      subst h
      exact absurd (layer?_eq_some_iff.mpr hop) he'.layer?_ne
    | more op' hop' d' c' =>
      simp only [Chain.tokens, List.cons_append, List.append_assoc, List.cons.injEq,
        Token.operator.injEq] at h
      obtain ⟨rfl, h⟩ := h
      obtain ⟨rfl, hr⟩ := d.unique d' (he.chain c) (he'.chain c') h
      obtain ⟨rfl, hrest⟩ := c.unique c' he he' hr
      exact ⟨rfl, hrest⟩

theorem Arguments.unique : (a a' : Arguments) → ∀ {rest rest'},
    a.tokens ++ .closeParen :: rest = a'.tokens ++ .closeParen :: rest' → a = a' ∧ rest = rest'
  | .none, a', rest, rest', h => by
    cases a' with
    | none => exact ⟨rfl, List.tail_eq_of_cons_eq h⟩
    | some d' m' =>
      obtain ⟨t, ts, ht, -, hclose⟩ := d'.exists_head
      simp only [Arguments.tokens, ht, List.cons_append, List.nil_append, List.cons.injEq] at h
      exact absurd h.1.symm hclose
  | .some d m, a', rest, rest', h => by
    cases a' with
    | none =>
      obtain ⟨t, ts, ht, -, hclose⟩ := d.exists_head
      simp only [Arguments.tokens, ht, List.cons_append, List.nil_append, List.cons.injEq] at h
      exact absurd h.1 hclose
    | some d' m' =>
      simp only [Arguments.tokens, List.append_assoc] at h
      obtain ⟨rfl, hr⟩ := d.unique d' (m.ends rest) (m'.ends rest') h
      obtain ⟨rfl, hrest⟩ := m.unique m' hr
      exact ⟨rfl, hrest⟩

theorem MoreArguments.unique : (m m' : MoreArguments) → ∀ {rest rest'},
    m.tokens ++ .closeParen :: rest = m'.tokens ++ .closeParen :: rest' → m = m' ∧ rest = rest'
  | .done, m', rest, rest', h => by
    cases m' with
    | done => exact ⟨rfl, List.tail_eq_of_cons_eq h⟩
    | more d' m' => simp [MoreArguments.tokens] at h
  | .more d m, m', rest, rest', h => by
    cases m' with
    | done => simp [MoreArguments.tokens] at h
    | more d' m' =>
      simp only [MoreArguments.tokens, List.cons_append, List.append_assoc, List.cons.injEq,
        true_and] at h
      obtain ⟨rfl, hr⟩ := d.unique d' (m.ends rest) (m'.ends rest') h
      obtain ⟨rfl, hrest⟩ := m.unique m' hr
      exact ⟨rfl, hrest⟩

end

end Spreadsheet.Formula
