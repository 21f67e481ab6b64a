import Mathlib
import Spreadsheet.Text.Collation
import Spreadsheet.Text.Search

namespace Spreadsheet.Text

section Lexicographic

variable {α : Type} (f : α → Nat)

instance transCmp_compareOn : Std.TransCmp (compareOn f) where
  eq_swap := Nat.compare_swap _ _ |>.symm
  isLE_trans := by
    intro a b c
    exact @Std.TransCmp.isLE_trans Nat compare _ _ _ _

theorem compareOn_eq_eq_iff {a b : α} : compareOn f a b = .eq ↔ f a = f b :=
  Nat.compare_eq_eq

end Lexicographic

theorem lexOrdering_eq_compareLex (cs ds : List Char) :
    lexOrdering cs ds = List.compareLex (compareOn Char.toNat) cs ds := by
  induction cs generalizing ds with
  | nil => cases ds <;> rfl
  | cons c cs ih =>
    cases ds with
    | nil => rfl
    | cons d ds =>
      rw [lexOrdering, List.compareLex_cons_cons, ← ih, compareOn, Nat.compare_eq_ite_lt]
      split
      · rfl
      · split <;> rfl

instance : Std.TransCmp lexOrdering where
  eq_swap := by
    intro cs ds
    simp only [lexOrdering_eq_compareLex]
    exact Std.OrientedCmp.eq_swap
  isLE_trans := by
    intro as bs cs
    simp only [lexOrdering_eq_compareLex]
    exact Std.TransCmp.isLE_trans

/-- Characters in the order of their case, lower case first, and then of their code points. -/
def caseThenCode (isLower : Char → Bool) : Char → Char → Ordering :=
  compareLex (compareOn fun c => if isLower c then 0 else 1) (compareOn Char.toNat)

instance (isLower : Char → Bool) : Std.TransCmp (caseThenCode isLower) :=
  inferInstanceAs (Std.TransCmp (compareLex _ _))

instance (isLower : Char → Bool) : Std.LawfulEqCmp (caseThenCode isLower) where
  eq_of_compare h :=
    Char.toNat_inj.mp ((compareOn_eq_eq_iff Char.toNat).mp (compareLex_eq_eq.mp h).2)

theorem caseOrdering_eq_caseThenCode (isLower : Char → Bool) {c d : Char} (h : c ≠ d) :
    caseOrdering isLower c d = caseThenCode isLower c d := by
  have hne : c.toNat ≠ d.toNat := fun he => h (Char.toNat_inj.mp he)
  have hcode : compareOn Char.toNat c d = if c.toNat < d.toNat then .lt else .gt := by
    rw [compareOn, Nat.compare_eq_ite_lt]
    split
    · rfl
    · rw [if_pos (by omega)]
  unfold caseOrdering caseThenCode compareLex
  cases hc : isLower c <;> cases hd : isLower d
  · simp [compareOn, hc, hd, ← hcode]
  · simp [compareOn, hc, hd]
    rfl
  · simp [compareOn, hc, hd]
    rfl
  · simp [compareOn, hc, hd, ← hcode]

theorem tieOrdering_eq_compareLex (isLower : Char → Bool) (cs ds : List Char) :
    tieOrdering isLower cs ds = List.compareLex (caseThenCode isLower) cs ds := by
  induction cs generalizing ds with
  | nil => cases ds <;> rfl
  | cons c cs ih =>
    cases ds with
    | nil => rfl
    | cons d ds =>
      rw [tieOrdering, List.compareLex_cons_cons, ← ih]
      by_cases h : c = d
      · have he : caseThenCode isLower c d = .eq := by
          rw [h]
          exact Std.ReflCmp.compare_self
        rw [if_pos h, he, Ordering.eq_then]
      · rw [if_neg h, caseOrdering_eq_caseThenCode isLower h]
        cases hc : caseThenCode isLower c d
        · rfl
        · exact absurd (Std.LawfulEqCmp.eq_of_compare hc) h
        · rfl

section Collate

variable (fold : Char → List Char) (isLower : Char → Bool)

instance : Std.TransCmp (tieOrdering isLower) where
  eq_swap := by
    intro cs ds
    simp only [tieOrdering_eq_compareLex]
    exact Std.OrientedCmp.eq_swap
  isLE_trans := by
    intro as bs cs
    simp only [tieOrdering_eq_compareLex]
    exact Std.TransCmp.isLE_trans

instance : Std.LawfulEqCmp (tieOrdering isLower) where
  eq_of_compare := by
    intro cs ds
    rw [tieOrdering_eq_compareLex]
    exact Std.LawfulEqCmp.eq_of_compare

theorem collateWith_eq_compareLex :
    collateWith fold isLower = compareLex
      (fun cs ds => lexOrdering (cs.flatMap fold) (ds.flatMap fold)) (tieOrdering isLower) :=
  rfl

instance : Std.TransCmp (collateWith fold isLower) := by
  have : Std.TransCmp fun cs ds : List Char =>
      lexOrdering (cs.flatMap fold) (ds.flatMap fold) :=
    { eq_swap := Std.OrientedCmp.eq_swap, isLE_trans := Std.TransCmp.isLE_trans }
  rw [collateWith_eq_compareLex]
  infer_instance

instance : Std.LawfulEqCmp (collateWith fold isLower) where
  eq_of_compare := by
    intro cs ds h
    have htie : tieOrdering isLower cs ds = .eq := (Ordering.then_eq_eq.mp h).2
    exact Std.LawfulEqCmp.eq_of_compare htie

end Collate

theorem foldl_utf8Size (n : Nat) (cs : List Char) :
    cs.foldl (fun n c => n + c.utf8Size) n = n + byteLength cs := by
  induction cs generalizing n with
  | nil => rfl
  | cons c cs ih =>
    rw [byteLength, List.foldl_cons, List.foldl_cons, ih, ih (0 + c.utf8Size)]
    omega

theorem byteLength_cons (c : Char) (cs : List Char) :
    byteLength (c :: cs) = c.utf8Size + byteLength cs := by
  rw [byteLength, List.foldl_cons, foldl_utf8Size, Nat.zero_add]

theorem byteLength_cons_pos (c : Char) (cs : List Char) : 0 < byteLength (c :: cs) := by
  have := c.utf8Size_pos
  rw [byteLength_cons]
  omega

theorem byteLength_of_lt {cs : List Char} (h : ∀ c ∈ cs, c.toNat < 0x80) :
    byteLength cs = cs.length := by
  induction cs with
  | nil => rfl
  | cons c cs ih =>
    have hc : c.utf8Size = 1 := by
      rw [Char.utf8Size_eq_one_iff, UInt32.le_iff_toNat_le]
      exact Nat.le_of_lt_succ (h c List.mem_cons_self)
    have hcs := ih fun d hd => h d (List.mem_cons_of_mem c hd)
    rw [byteLength_cons, hc, hcs, List.length_cons, Nat.add_comm]

/-- The first two characters at one place of two texts that are different. -/
def firstDifference? (cs ds : List Char) : Option (Char × Char) :=
  (cs.zip ds).find? fun p => p.1 ≠ p.2

theorem tieOrdering_eq_elim (isLower : Char → Bool) (cs ds : List Char) :
    tieOrdering isLower cs ds = (firstDifference? cs ds).elim
      (compare (byteLength cs) (byteLength ds)) fun p => caseOrdering isLower p.1 p.2 := by
  induction cs generalizing ds with
  | nil =>
    cases ds with
    | nil => rfl
    | cons d ds => exact (Nat.compare_eq_lt.mpr (byteLength_cons_pos d ds)).symm
  | cons c cs ih =>
    cases ds with
    | nil => exact (Nat.compare_eq_gt.mpr (byteLength_cons_pos c cs)).symm
    | cons d ds =>
      rw [tieOrdering]
      by_cases h : c = d
      · have hcompare : compare (byteLength (c :: cs)) (byteLength (c :: ds)) =
            compare (byteLength cs) (byteLength ds) := by
          rw [byteLength_cons, byteLength_cons]
          simp only [Nat.compare_eq_ite_lt, Nat.add_lt_add_iff_left]
        rw [if_pos h, ih, ← h, hcompare]
        simp [firstDifference?]
      · rw [if_neg h]
        simp [firstDifference?, h]

section Linear

variable {α β : Type}

/-- The comparison orders its items in a line, where each item is equal to itself only. -/
structure IsLinear (cmp : α → α → Ordering) : Prop where
  eq_iff : ∀ a b, cmp a b = .eq ↔ a = b
  swap : ∀ a b, cmp b a = (cmp a b).swap
  trans : ∀ a b c, cmp a b ≠ .gt → cmp b c ≠ .gt → cmp a c ≠ .gt

theorem isLinear_of_cmp (cmp : α → α → Ordering) [Std.TransCmp cmp] [Std.LawfulEqCmp cmp] :
    IsLinear cmp where
  eq_iff a b := Std.LawfulEqCmp.compare_eq_iff_eq
  swap a b := Std.OrientedCmp.eq_swap
  trans a b c := by
    simp only [Ordering.ne_gt_iff_isLE]
    exact Std.TransCmp.isLE_trans

theorem IsLinear.comap {cmp : β → β → Ordering} (h : IsLinear cmp) {f : α → β}
    (hf : Function.Injective f) : IsLinear fun a b => cmp (f a) (f b) where
  eq_iff a b := (h.eq_iff (f a) (f b)).trans hf.eq_iff
  swap a b := h.swap (f a) (f b)
  trans a b c := h.trans (f a) (f b) (f c)

end Linear

theorem isLinear_collateWith (fold : Char → List Char) (isLower : Char → Bool) :
    IsLinear fun s t : String => collateWith fold isLower s.toList t.toList :=
  (isLinear_of_cmp (collateWith fold isLower)).comap fun _ _ => String.toList_injective

instance : Std.TransCmp collate where
  eq_swap := by
    intro s t
    exact @Std.OrientedCmp.eq_swap _ (collateWith lowerChar isLowercase) _ _ _
  isLE_trans := by
    intro s t u
    exact @Std.TransCmp.isLE_trans _ (collateWith lowerChar isLowercase) _ _ _ _

instance : Std.LawfulEqCmp collate where
  eq_of_compare := by
    intro s t h
    have hchars : collateWith lowerChar isLowercase s.toList t.toList = .eq := h
    exact String.toList_inj.mp (Std.LawfulEqCmp.eq_of_compare hchars)

/-- Texts are in a linear order, whatever their characters are folded to and whichever of them count
as lower case. The folded characters come first, then the case at the first difference, and last the
lengths in UTF-8. -/
theorem collate_linear :
    (∀ fold isLower, IsLinear fun s t : String => collateWith fold isLower s.toList t.toList) ∧
      (∀ fold isLower cs ds, collateWith fold isLower cs ds =
        (lexOrdering (cs.flatMap fold) (ds.flatMap fold)).then
          ((firstDifference? cs ds).elim (compare (byteLength cs) (byteLength ds)) fun p =>
            caseOrdering isLower p.1 p.2)) ∧
      IsLinear collate := by
  refine ⟨isLinear_collateWith, ?_, isLinear_collateWith lowerChar isLowercase⟩
  intro fold isLower cs ds
  rw [collateWith, tieOrdering_eq_elim]

end Spreadsheet.Text
