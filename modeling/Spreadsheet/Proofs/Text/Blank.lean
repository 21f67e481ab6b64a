import Mathlib
import Spreadsheet.Text.Blank

namespace Spreadsheet.Text

structure Trimmed (cs : List Char) : Prop where
  head : ∀ c ∈ cs.head?, isBlank c = false
  last : ∀ c ∈ cs.getLast?, isBlank c = false

theorem trimmed_iff_all {cs : List Char} :
    (cs.head?.all (!isBlank ·) && cs.getLast?.all (!isBlank ·)) = true ↔ Trimmed cs := by
  simp only [Bool.and_eq_true, Option.all_eq_true, Bool.not_eq_true']
  exact ⟨fun h => ⟨h.1, h.2⟩, fun h => ⟨h.head, h.last⟩⟩

instance (cs : List Char) : Decidable (Trimmed cs) :=
  decidable_of_iff _ trimmed_iff_all

variable {cs ds es : List Char}

theorem trimStart_append_blanks (h : ∀ c ∈ cs, isBlank c) : trimStart (cs ++ ds) = trimStart ds :=
  List.dropWhile_append_of_pos h

theorem trimStart_of_head (h : ∀ c ∈ cs.head?, isBlank c = false) : trimStart cs = cs := by
  cases cs with
  | nil => rfl
  | cons c cs => simp [trimStart, h c rfl]

theorem isBlank_of_trimStart {c : Char} (h : trimStart cs = c :: ds) : isBlank c = false := by
  have hhead := List.head?_dropWhile_not isBlank cs
  rw [trimStart] at h
  rwa [h] at hhead

theorem trimEnd_eq_reverse (cs : List Char) : trimEnd cs = (trimStart cs.reverse).reverse :=
  rfl

theorem trimEnd_append_blanks (h : ∀ c ∈ ds, isBlank c) : trimEnd (cs ++ ds) = trimEnd cs := by
  have hrev : ∀ c ∈ ds.reverse, isBlank c := fun c hc => h c (List.mem_reverse.mp hc)
  rw [trimEnd_eq_reverse, List.reverse_append, trimStart_append_blanks hrev, ← trimEnd_eq_reverse]

theorem trimEnd_of_last (h : ∀ c ∈ cs.getLast?, isBlank c = false) : trimEnd cs = cs := by
  have hrev : ∀ c ∈ cs.reverse.head?, isBlank c = false := by
    rw [List.head?_reverse]
    exact h
  rw [trimEnd_eq_reverse, trimStart_of_head hrev, List.reverse_reverse]

theorem trimStart_append_of_head (h : ∀ c ∈ ds.head?, isBlank c = false) :
    trimStart (cs ++ ds) = trimStart cs ++ ds := by
  rw [trimStart, List.dropWhile_append, ← trimStart, ← trimStart]
  split
  · rename_i hempty
    rw [List.isEmpty_iff.mp hempty, trimStart_of_head h, List.nil_append]
  · rfl

theorem trimEnd_append_of_last (h : ∀ c ∈ cs.getLast?, isBlank c = false) :
    trimEnd (cs ++ ds) = cs ++ trimEnd ds := by
  have hrev : ∀ c ∈ cs.reverse.head?, isBlank c = false := by
    rw [List.head?_reverse]
    exact h
  rw [trimEnd_eq_reverse, List.reverse_append, trimStart_append_of_head hrev, List.reverse_append,
    List.reverse_reverse, ← trimEnd_eq_reverse]

/-- On both sides of a text without blanks only the outer blanks are cut off. -/
theorem trim_append_visible (hne : ds ≠ []) (h : ∀ c ∈ ds, isBlank c = false) :
    trim (cs ++ (ds ++ es)) = trimStart cs ++ (ds ++ trimEnd es) := by
  have hhead : ∀ c ∈ (ds ++ es).head?, isBlank c = false := by
    rw [List.head?_append_of_ne_nil _ hne]
    exact fun c hc => h c (List.mem_of_mem_head? hc)
  have hlast : ∀ c ∈ (trimStart cs ++ ds).getLast?, isBlank c = false := by
    rw [List.getLast?_append_of_ne_nil _ hne]
    exact fun c hc => h c (List.mem_of_getLast? hc)
  rw [trim, trimStart_append_of_head hhead, ← List.append_assoc, trimEnd_append_of_last hlast,
    List.append_assoc]

theorem trim_of_isBlank (h : ∀ c ∈ cs, isBlank c) : trim cs = [] := by
  have hstart : trimStart cs = [] := List.dropWhile_eq_nil_iff.mpr h
  rw [trim, hstart]
  rfl

theorem Trimmed.trim_eq (h : Trimmed cs) : trim cs = cs := by
  rw [trim, trimStart_of_head h.head, trimEnd_of_last h.last]

theorem Trimmed.trim_blanks (h : Trimmed ds) (hcs : ∀ c ∈ cs, isBlank c)
    (hes : ∀ c ∈ es, isBlank c) : trim (cs ++ (ds ++ es)) = ds := by
  cases ds with
  | nil =>
    have hall : ∀ c ∈ cs ++ es, isBlank c := by
      intro c hc
      exact (List.mem_append.mp hc).elim (hcs c) (hes c)
    rw [List.nil_append, trim_of_isBlank hall]
  | cons d ds =>
    have hhead : ∀ c ∈ (d :: ds ++ es).head?, isBlank c = false := h.head
    rw [trim, trimStart_append_blanks hcs, trimStart_of_head hhead, trimEnd_append_blanks hes,
      trimEnd_of_last h.last]

theorem exists_blanks_trimStart (cs : List Char) :
    ∃ bs, (∀ c ∈ bs, isBlank c) ∧ cs = bs ++ trimStart cs :=
  ⟨cs.takeWhile isBlank, fun _ hc => List.mem_takeWhile_imp hc,
    List.takeWhile_append_dropWhile.symm⟩

theorem exists_blanks_trimEnd (cs : List Char) :
    ∃ es, (∀ c ∈ es, isBlank c) ∧ cs = trimEnd cs ++ es := by
  obtain ⟨bs, hbs, hcs⟩ := exists_blanks_trimStart cs.reverse
  refine ⟨bs.reverse, fun c hc => hbs c (List.mem_reverse.mp hc), ?_⟩
  rw [trimEnd_eq_reverse, ← List.reverse_append, ← hcs, List.reverse_reverse]

theorem exists_blanks_trim (cs : List Char) :
    ∃ bs es, (∀ c ∈ bs, isBlank c) ∧ (∀ c ∈ es, isBlank c) ∧ cs = bs ++ (trim cs ++ es) := by
  obtain ⟨bs, hbs, hcs⟩ := exists_blanks_trimStart cs
  obtain ⟨es, hes, hstart⟩ := exists_blanks_trimEnd (trimStart cs)
  refine ⟨bs, es, hbs, hes, ?_⟩
  rw [trim, ← hstart]
  exact hcs

theorem trimmed_trim (cs : List Char) : Trimmed (trim cs) where
  head := by
    intro c hc
    obtain ⟨rest, hrest⟩ := List.head?_eq_some_iff.mp hc
    obtain ⟨es, -, hes⟩ := exists_blanks_trimEnd (trimStart cs)
    rw [← trim, hrest, List.cons_append] at hes
    exact isBlank_of_trimStart hes
  last := by
    intro c hc
    rw [trim, trimEnd, List.getLast?_reverse] at hc
    obtain ⟨rest, hrest⟩ := List.head?_eq_some_iff.mp hc
    exact isBlank_of_trimStart hrest

theorem trim_blanks_append (hcs : ∀ c ∈ cs, isBlank c) (hes : ∀ c ∈ es, isBlank c) :
    trim (cs ++ (ds ++ es)) = trim ds := by
  obtain ⟨bs, bs', hbs, hbs', hds⟩ := exists_blanks_trim ds
  have hall : cs ++ (ds ++ es) = (cs ++ bs) ++ (trim ds ++ (bs' ++ es)) := by
    conv_lhs => rw [hds]
    simp only [List.append_assoc]
  rw [hall]
  apply (trimmed_trim ds).trim_blanks
  · intro c hc
    exact (List.mem_append.mp hc).elim (hcs c) (hbs c)
  · intro c hc
    exact (List.mem_append.mp hc).elim (hbs' c) (hes c)

theorem trim_blanks_front (hcs : ∀ c ∈ cs, isBlank c) : trim (cs ++ ds) = trim ds := by
  have hnil : ∀ c ∈ ([] : List Char), isBlank c := by simp
  simpa only [List.append_nil] using @trim_blanks_append cs ds [] hcs hnil

theorem trim_blanks_back (hes : ∀ c ∈ es, isBlank c) : trim (ds ++ es) = trim ds := by
  have hnil : ∀ c ∈ ([] : List Char), isBlank c := by simp
  simpa only [List.nil_append] using @trim_blanks_append [] ds es hnil hes

theorem trim_trim (cs : List Char) : trim (trim cs) = trim cs :=
  (trimmed_trim cs).trim_eq

theorem Trimmed.append (h : Trimmed cs) (h' : Trimmed es) (hcs : cs ≠ []) (hes : es ≠ []) :
    Trimmed (cs ++ (ds ++ es)) where
  head := by
    rw [List.head?_append_of_ne_nil _ hcs]
    exact h.head
  last := by
    rw [← List.append_assoc, List.getLast?_append_of_ne_nil _ hes]
    exact h'.last

theorem Trimmed.eq_nil_of_blank (h : Trimmed (ds ++ cs)) (hcs : ∀ c ∈ cs, isBlank c) : cs = [] := by
  by_contra hne
  have hlast := h.last (cs.getLast hne) (by
    rw [List.getLast?_append_of_ne_nil _ hne, List.getLast?_eq_some_getLast hne]
    rfl)
  rw [hcs _ (List.getLast_mem hne)] at hlast
  cases hlast

theorem isBlank_of_all (h : cs.all (!isBlank ·)) : ∀ c ∈ cs, isBlank c = false := by
  intro c hc
  simpa using List.all_eq_true.mp h c hc

end Spreadsheet.Text
