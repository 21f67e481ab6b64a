import Mathlib

namespace Spreadsheet

variable {α κ : Type} [DecidableEq κ] (key : α → κ) {le : κ → κ → Bool}

theorem filter_mergeSort (trans : ∀ a b c, le a b → le b c → le a c)
    (total : ∀ a b, le a b || le b a) (k : κ) (xs : List α) :
    (xs.mergeSort fun a b => le (key a) (key b)).filter (fun a => key a = k) =
      xs.filter fun a => key a = k := by
  have hrefl : le k k := by simpa using total k k
  have hpair : (xs.filter fun a => key a = k).Pairwise fun a b => le (key a) (key b) := by
    apply List.pairwise_of_forall_mem_list
    intro a ha b hb
    simp only [List.mem_filter, decide_eq_true_eq] at ha hb
    rw [ha.2, hb.2]
    exact hrefl
  have htrans := fun a b c => trans (key a) (key b) (key c)
  have htotal := fun a b => total (key a) (key b)
  have hsub := List.sublist_mergeSort htrans htotal hpair List.filter_sublist
  have hfilter := hsub.filter fun a => decide (key a = k)
  rw [List.filter_filter] at hfilter
  have hperm := (List.mergeSort_perm xs fun a b => le (key a) (key b)).filter
    fun a => decide (key a = k)
  refine (List.Sublist.eq_of_length ?_ hperm.length_eq.symm).symm
  simpa using hfilter

/-- Two sorted lists are equal if for each key they have the same items in the same order. -/
theorem eq_of_pairwise_of_filter_eq (antisymm : ∀ a b, le a b → le b a → a = b)
    (refl : ∀ a, le a a) {xs ys : List α} (hx : xs.Pairwise fun a b => le (key a) (key b))
    (hy : ys.Pairwise fun a b => le (key a) (key b))
    (h : ∀ k, xs.filter (fun a => key a = k) = ys.filter fun a => key a = k) : xs = ys := by
  have hmem : ∀ a, a ∈ xs ↔ a ∈ ys := by
    intro a
    have ha := congrArg (a ∈ ·) (h (key a))
    simpa using ha
  induction xs generalizing ys with
  | nil =>
    symm
    rw [List.eq_nil_iff_forall_not_mem]
    exact fun a ha => List.not_mem_nil ((hmem a).mpr ha)
  | cons x xs ih =>
    cases ys with
    | nil => exact absurd ((hmem x).mp List.mem_cons_self) List.not_mem_nil
    | cons y ys =>
      rw [List.pairwise_cons] at hx hy
      -- Each head stands in the other list, so neither key comes before the other.
      have hxy : le (key x) (key y) := by
        rcases List.mem_cons.mp ((hmem y).mpr List.mem_cons_self) with he | hm
        · rw [he]
          exact refl _
        · exact hx.1 y hm
      have hyx : le (key y) (key x) := by
        rcases List.mem_cons.mp ((hmem x).mp List.mem_cons_self) with he | hm
        · rw [he]
          exact refl _
        · exact hy.1 x hm
      have hkey := antisymm _ _ hxy hyx
      have hhead := h (key x)
      simp only [List.filter_cons, hkey, decide_true, if_true, List.cons.injEq] at hhead
      obtain ⟨rfl, -⟩ := hhead
      have htail : ∀ k, xs.filter (fun a => key a = k) = ys.filter fun a => key a = k := by
        intro k
        have hk := h k
        rw [List.filter_cons, List.filter_cons] at hk
        split at hk
        · exact List.tail_eq_of_cons_eq hk
        · exact hk
      rw [ih hx.2 hy.2 htail fun a => ?_]
      have ha := congrArg (a ∈ ·) (htail (key a))
      simpa using ha

section Together

variable {key} {k : κ} {xs : List α} (antisymm : ∀ a b, le a b → le b a → a = b)

include antisymm

/-- In a sorted list without smaller keys, the items of a key stand at the start. -/
theorem filter_prefix_of_pairwise (hx : xs.Pairwise fun a b => le (key a) (key b))
    (hk : ∀ a ∈ xs, le k (key a)) : (xs.filter fun a => key a = k) <+: xs := by
  induction xs with
  | nil => exact List.prefix_rfl
  | cons x xs ih =>
    rw [List.pairwise_cons] at hx
    by_cases h : key x = k
    · rw [List.filter_cons_of_pos (by simpa using h), List.prefix_cons_inj]
      exact ih hx.2 fun a ha => hk a (List.mem_cons_of_mem x ha)
    · have hnone : ((x :: xs).filter fun a => key a = k) = [] := by
        rw [List.filter_eq_nil_iff]
        intro a ha hak
        rw [decide_eq_true_eq] at hak
        rcases List.mem_cons.mp ha with rfl | ha
        · exact h hak
        · have hle : le (key x) k := hak ▸ hx.1 a ha
          exact h (antisymm _ _ hle (hk x List.mem_cons_self))
      rw [hnone]
      exact List.nil_prefix

/-- In a sorted list the items of a key stand together. -/
theorem filter_infix_of_pairwise (refl : ∀ a, le a a)
    (hx : xs.Pairwise fun a b => le (key a) (key b)) : (xs.filter fun a => key a = k) <:+: xs := by
  induction xs with
  | nil => exact List.infix_rfl
  | cons x xs ih =>
    by_cases h : key x = k
    · apply List.IsPrefix.isInfix
      apply filter_prefix_of_pairwise antisymm hx
      intro a ha
      rcases List.mem_cons.mp ha with rfl | ha
      · exact h ▸ refl (key a)
      · exact h ▸ List.rel_of_pairwise_cons hx ha
    · rw [List.filter_cons_of_neg (by simpa using h)]
      exact List.infix_cons (ih hx.of_cons)

end Together

end Spreadsheet
