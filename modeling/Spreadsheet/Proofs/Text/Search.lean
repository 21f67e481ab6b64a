import Mathlib
import Spreadsheet.Text.Search

namespace Spreadsheet.Text

theorem isPrefixOf?_eq_some_iff {needle cs rest : List Char} :
    needle.isPrefixOf? cs = some rest ↔ cs = needle ++ rest := by
  induction needle generalizing cs with
  | nil => simp [List.isPrefixOf?, eq_comm]
  | cons n needle ih =>
    cases cs with
    | nil => simp [List.isPrefixOf?]
    | cons c cs =>
      by_cases h : n = c
      · simp [List.isPrefixOf?, h, ih]
      · have h' : c ≠ n := Ne.symm h
        simp [List.isPrefixOf?, h, h']

theorem isPrefixOf?_eq_none_iff {needle cs : List Char} :
    needle.isPrefixOf? cs = none ↔ ¬ needle <+: cs := by
  rw [Option.eq_none_iff_forall_ne_some]
  simp only [ne_eq, isPrefixOf?_eq_some_iff]
  constructor
  · rintro h ⟨rest, rfl⟩
    exact h rest rfl
  · rintro h rest rfl
    exact h (List.prefix_append needle rest)

theorem splitOnce_eq_none_iff {needle cs : List Char} :
    splitOnce needle cs = none ↔ ¬ needle <:+: cs := by
  induction cs with
  | nil => simp [splitOnce]
  | cons c cs ih =>
    rw [splitOnce, List.infix_cons_iff, not_or]
    cases h : needle.isPrefixOf? (c :: cs) with
    | none =>
      rw [isPrefixOf?_eq_none_iff] at h
      simp [h, ih]
    | some rest =>
      rw [isPrefixOf?_eq_some_iff] at h
      have hp : needle <+: c :: cs := ⟨rest, h.symm⟩
      simp [hp]

theorem splitOnce_suffix {needle cs : List Char} {parts : List Char × List Char}
    (h : splitOnce needle cs = some parts) : parts.2 <:+ cs := by
  induction cs generalizing parts with
  | nil =>
    rw [splitOnce] at h
    split at h
    · cases h
      exact List.suffix_rfl
    · cases h
  | cons c cs ih =>
    rw [splitOnce] at h
    split at h
    · rename_i rest hrest
      cases h
      exact ⟨needle, (isPrefixOf?_eq_some_iff.mp hrest).symm⟩
    · obtain ⟨found, hfound, rfl⟩ := Option.map_eq_some_iff.mp h
      exact (ih hfound).trans (List.suffix_cons c cs)

theorem splitOnce_singleton_eq_some_iff {c : Char} {cs ds es : List Char} :
    splitOnce [c] cs = some (ds, es) ↔ cs = ds ++ c :: es ∧ c ∉ ds := by
  induction cs generalizing ds with
  | nil => simp [splitOnce]
  | cons d cs ih =>
    rw [splitOnce]
    by_cases h : c = d
    · subst h
      have hsome : [c].isPrefixOf? (c :: cs) = some cs := by simp [List.isPrefixOf?]
      simp only [hsome, Option.some.injEq, Prod.mk.injEq]
      cases ds <;> grind
    · have hnone : [c].isPrefixOf? (d :: cs) = none := by simp [List.isPrefixOf?, h]
      simp only [hnone, Option.map_eq_some_iff, Prod.exists, Prod.mk.injEq]
      cases ds <;> grind

theorem contains_iff_isInfix {needle cs : List Char} :
    contains needle cs = true ↔ needle <:+: cs := by
  rw [contains, Option.isSome_iff_ne_none, ne_eq, splitOnce_eq_none_iff, not_not]

/-- A text that a character does not belong to stands on one side of that character. -/
theorem isInfix_append_cons {needle cs ds : List Char} {c : Char} (hc : c ∉ needle)
    (h : needle <:+: cs ++ c :: ds) : needle <:+: cs ∨ needle <:+: ds := by
  obtain ⟨before, after, h⟩ := h
  rw [List.append_eq_append_iff] at h
  obtain ⟨es, rfl, -⟩ | ⟨es, hes, hds⟩ := h
  · exact .inl ⟨before, es, rfl⟩
  · cases es with
    | nil =>
      rw [List.append_nil] at hes
      exact .inl ⟨before, [], by rw [List.append_nil, hes]⟩
    | cons e es =>
      obtain ⟨rfl, rfl⟩ := List.cons_eq_cons.mp hds
      obtain ⟨fs, rfl, hfs⟩ | ⟨fs, rfl, hfs⟩ := List.append_eq_append_iff.mp hes
      · exact absurd (by rw [hfs]; simp) hc
      · cases fs with
        | nil =>
          rw [List.nil_append] at hfs
          rw [← hfs] at hc
          exact absurd List.mem_cons_self hc
        | cons f fs =>
          obtain ⟨-, rfl⟩ := List.cons_eq_cons.mp hfs
          exact .inr ⟨fs, after, by simp⟩

theorem isInfix_of_append {needle cs ds : List Char} (hcs : ∀ c ∈ cs, c ∉ needle)
    (h : needle <:+: cs ++ ds) : needle <:+: ds := by
  induction cs with
  | nil => exact h
  | cons c cs ih =>
    have hcons : needle <:+: [] ++ c :: (cs ++ ds) := h
    rcases isInfix_append_cons (hcs c List.mem_cons_self) hcons with hnil | hrest
    · rw [List.eq_nil_of_infix_nil hnil]
      exact List.nil_infix
    · exact ih (fun d hd => hcs d (List.mem_cons_of_mem c hd)) hrest

theorem splitWhere_eq (p : Char → Bool) (cs : List Char) : splitWhere p cs = cs.splitOnP p := by
  induction cs with
  | nil => rw [splitWhere, List.splitOnP_nil]
  | cons d cs ih =>
    obtain ⟨piece, pieces, hpieces⟩ := List.exists_cons_of_ne_nil (List.splitOnP_ne_nil p cs)
    rw [splitWhere, List.splitOnP_cons_eq_if_modifyHead, ih, hpieces]
    rfl

theorem intercalate_splitOn (c : Char) (cs : List Char) : [c].intercalate (splitOn c cs) = cs := by
  rw [splitOn, splitWhere_eq]
  exact List.intercalate_splitOn c

theorem splitOn_of_not_mem {c : Char} {ds : List Char} (h : c ∉ ds) : splitOn c ds = [ds] := by
  rw [splitOn, splitWhere_eq]
  apply List.splitOnP_eq_singleton
  rintro d hd
  exact beq_false_of_ne (ne_of_mem_of_not_mem hd h)

theorem splitOn_append {c : Char} {ds : List Char} (h : c ∉ ds) (cs : List Char) :
    splitOn c (ds ++ c :: cs) = ds :: splitOn c cs := by
  have hds := splitOn_of_not_mem h
  simp only [splitOn, splitWhere_eq] at hds ⊢
  rw [@List.splitOnP_append_cons _ (· == c) ds cs c (beq_self_eq_true c), hds,
    List.singleton_append]

end Spreadsheet.Text
