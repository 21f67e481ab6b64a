import Mathlib
import Spreadsheet.Text.Case

namespace Spreadsheet.Text

/-- What stands around a text: the characters before it, the nearest one first, and those after it. -/
structure Surroundings where
  before : List Char
  after : List Char

namespace Surroundings

def nothing : Surroundings :=
  ⟨[], []⟩

variable (p : Surroundings)

def between (cs ds : List Char) : Surroundings :=
  ⟨cs.reverse ++ p.before, ds ++ p.after⟩

/-- A sigma that stands here ends a word, so it has the final form. -/
def endsWord : Bool :=
  meetsCased p.before && !meetsCased p.after

def lowerOne (c : Char) : List Char :=
  if c = 'Σ' then [if p.endsWord then 'ς' else 'σ'] else lowerChar c

def lower : Surroundings → List Char → List Char
  | _, [] => []
  | p, c :: cs => (p.between [] cs).lowerOne c ++ lower (p.between [c] []) cs

@[simp] theorem between_nil : p.between [] [] = p :=
  rfl

@[simp] theorem between_between (cs ds cs' ds' : List Char) :
    (p.between cs ds).between cs' ds' = p.between (cs ++ cs') (ds' ++ ds) := by
  simp [between]

theorem lower_append (cs ds : List Char) :
    p.lower (cs ++ ds) = (p.between [] ds).lower cs ++ (p.between cs []).lower ds := by
  induction cs generalizing p with
  | nil => rfl
  | cons c cs ih => simp [lower, ih]

theorem lowerAfter_eq (before cs : List Char) : lowerAfter before cs = lower ⟨before, []⟩ cs := by
  induction cs generalizing before with
  | nil => rfl
  | cons c cs ih =>
    have hsigma : c.toNat = 0x3a3 ↔ c = 'Σ' := Char.toNat_inj (d := 'Σ')
    rw [lowerAfter, lower, ih, lowerOne]
    congr 1
    simp only [hsigma, between, endsWord, List.append_nil, List.reverse_nil, List.nil_append]
    split
    · split <;> rfl
    · rfl

/-- Every capital sigma of the text has the same form in both surroundings. -/
def SameForms (p q : Surroundings) (cs : List Char) : Prop :=
  ∀ u v, cs = u ++ 'Σ' :: v → (p.between u v).endsWord = (q.between u v).endsWord

variable {p} {q : Surroundings} {c : Char} {cs : List Char}

theorem sameForms_nil : SameForms p q [] := by
  intro u v h
  simp at h

theorem sameForms_cons : SameForms p q (c :: cs) ↔
    (c = 'Σ' → (p.between [] cs).endsWord = (q.between [] cs).endsWord) ∧
      SameForms (p.between [c] []) (q.between [c] []) cs := by
  constructor
  · intro h
    refine ⟨fun hc => h [] cs (by simp [hc]), fun u v huv => ?_⟩
    have := h (c :: u) v (by simp [huv])
    simpa using this
  · rintro ⟨hfirst, hrest⟩ u v huv
    cases u with
    | nil =>
      obtain ⟨rfl, rfl⟩ := List.cons.inj huv
      exact hfirst rfl
    | cons d u =>
      obtain ⟨rfl, rfl⟩ := List.cons.inj huv
      simpa using hrest u v rfl

instance decidableSameForms : (p q : Surroundings) → (cs : List Char) → Decidable (SameForms p q cs)
  | _, _, [] => .isTrue sameForms_nil
  | p, q, c :: cs =>
    have := decidableSameForms (p.between [c] []) (q.between [c] []) cs
    decidable_of_iff _ sameForms_cons.symm

theorem SameForms.of_not_mem (h : 'Σ' ∉ cs) : SameForms p q cs := by
  rintro u v rfl
  simp at h

theorem lowerOne_eq_iff : p.lowerOne c = q.lowerOne c ↔ (c = 'Σ' → p.endsWord = q.endsWord) := by
  unfold lowerOne
  by_cases hc : c = 'Σ'
  · cases p.endsWord <;> cases q.endsWord <;> simp [hc]
  · simp [hc]

theorem length_lowerOne (p q : Surroundings) (c : Char) :
    (p.lowerOne c).length = (q.lowerOne c).length := by
  unfold lowerOne
  split <;> rfl

theorem lower_eq_iff : p.lower cs = q.lower cs ↔ SameForms p q cs := by
  induction cs generalizing p q with
  | nil => exact iff_of_true rfl sameForms_nil
  | cons c cs ih =>
    rw [sameForms_cons, ← lowerOne_eq_iff, ← ih]
    constructor
    · intro h
      exact List.append_inj h (length_lowerOne _ _ c)
    · rintro ⟨hfirst, hrest⟩
      rw [lower, lower, hfirst, hrest]

end Surroundings

open Surroundings

theorem lower_eq (cs : List Char) : lower cs = nothing.lower cs :=
  lowerAfter_eq [] cs

/-- In lower case, a text keeps a part in which every capital sigma has the form that it has in the
part alone. -/
theorem lower_infix {before cs after : List Char}
    (h : SameForms (nothing.between before after) nothing cs) :
    lower cs <:+: lower (before ++ cs ++ after) := by
  have hinner : (nothing.between [] after).between before [] = nothing.between before after := by simp
  rw [lower_eq, lower_eq, lower_append, lower_append, hinner, lower_eq_iff.mpr h]
  exact List.infix_append _ _ _

end Spreadsheet.Text
