import Mathlib
import Spreadsheet.Workbook.Address
import Spreadsheet.Proofs.Text.Classes

namespace Spreadsheet.Workbook

open Spreadsheet.Text

def letterDigit (c : Char) : Nat :=
  c.toUpper.toNat - 64

section

variable {c : Char}

theorem lt_of_isAlpha (h : c.isAlpha) : c.toNat < 0x80 := by
  have hz : c.val.toNat ≤ 122 := by
    simp only [Char.isAlpha, Char.isUpper, Char.isLower, Bool.or_eq_true, Bool.and_eq_true,
      decide_eq_true_eq] at h
    rcases h with ⟨-, h⟩ | ⟨-, h⟩
    · exact (UInt32.le_iff_toNat_le.mp h).trans (by decide)
    · exact UInt32.le_iff_toNat_le.mp h
  exact hz.trans_lt (by decide)

theorem toUpper_bounds (h : c.isAlpha) : 65 ≤ c.toUpper.toNat ∧ c.toUpper.toNat ≤ 90 :=
  ascii_of_lt (p := fun c => c.isAlpha → 65 ≤ c.toUpper.toNat ∧ c.toUpper.toNat ≤ 90)
    (by decide +kernel) (lt_of_isAlpha h) h

theorem letterValue?_eq (c : Char) :
    letterValue? c = if c.isAlpha then some (letterDigit c) else none := by
  by_cases h : c.isAlpha
  · rw [if_pos h]
    exact ascii_of_lt (p := fun c => c.isAlpha → letterValue? c = some (letterDigit c))
      (by decide +kernel) (lt_of_isAlpha h) h
  · rw [if_neg h]
    simp only [Char.isAlpha, Bool.or_eq_true, not_or] at h
    rw [letterValue?, if_neg h.1, if_neg h.2]

theorem ofNat_letterDigit (h : c.isAlpha) : Char.ofNat (65 + (letterDigit c - 1)) = c.toUpper := by
  have hbounds := toUpper_bounds h
  have hplace : 65 + (letterDigit c - 1) = c.toUpper.toNat := by
    rw [letterDigit]
    omega
  rw [hplace, Char.ofNat_toNat]

theorem letterDigit_ofNat {n : Nat} (h : n < 26) : letterDigit (Char.ofNat (65 + n)) = n + 1 := by
  decide +revert

theorem isAlpha_ofNat {n : Nat} (h : n < 26) : (Char.ofNat (65 + n)).isAlpha := by
  decide +revert

end

/-- The number that letters write in base 26, with digits from 1 to 26. -/
def lettersNumber (cs : List Char) : Nat :=
  Nat.ofDigits 26 (cs.reverse.map letterDigit)

section

variable {c : Char} {cs : List Char}

theorem lettersNumber_cons (c : Char) (cs : List Char) :
    lettersNumber (c :: cs) = 26 ^ cs.length * letterDigit c + lettersNumber cs := by
  simp [lettersNumber, Nat.ofDigits_append, add_comm]

theorem lettersNumber_concat (cs : List Char) (c : Char) :
    lettersNumber (cs ++ [c]) = 26 * lettersNumber cs + letterDigit c := by
  simp [lettersNumber, Nat.ofDigits_cons, add_comm]

/-- Reading fails at a character that is no letter, or where the number leaves the words. -/
theorem columnNumber?_eq (n : Nat) (hn : n < wordSize) (cs : List Char) :
    columnNumber? n cs =
      if (∀ c ∈ cs, c.isAlpha) ∧ 26 ^ cs.length * n + lettersNumber cs < wordSize then
        some (26 ^ cs.length * n + lettersNumber cs)
      else none := by
  induction cs generalizing n with
  | nil => simp [columnNumber?, lettersNumber, hn]
  | cons c cs ih =>
    have hvalue : 26 ^ (c :: cs).length * n + lettersNumber (c :: cs) =
        26 ^ cs.length * (26 * n + letterDigit c) + lettersNumber cs := by
      rw [lettersNumber_cons, List.length_cons]
      ring
    rw [columnNumber?, letterValue?_eq, hvalue]
    by_cases hc : c.isAlpha
    · rw [if_pos hc, Option.bind_some]
      by_cases hword : 26 * n + letterDigit c < wordSize
      · rw [if_pos hword, ih _ hword]
        simp [hc]
      -- A number that has left the words does not come back to them.
      · have hgrow : 26 * n + letterDigit c ≤ 26 ^ cs.length * (26 * n + letterDigit c) :=
          Nat.le_mul_of_pos_left _ (by positivity)
        rw [if_neg hword, if_neg]
        omega
    · simp [hc]

theorem columnIndex?_eq (cs : List Char) :
    columnIndex? cs =
      if cs ≠ [] ∧ (∀ c ∈ cs, c.isAlpha) ∧ lettersNumber cs < wordSize then some (lettersNumber cs - 1)
      else none := by
  by_cases h : cs = []
  · simp [columnIndex?, h]
  · rw [columnIndex?, if_neg h, columnNumber?_eq 0 (by decide)]
    split <;> simp_all

theorem lettersNumber_pos (hcs : cs ≠ []) (h : ∀ c ∈ cs, c.isAlpha) : 0 < lettersNumber cs := by
  obtain ⟨c, ds, rfl⟩ := List.exists_cons_of_ne_nil hcs
  have hbounds := toUpper_bounds (h c List.mem_cons_self)
  have hdigit : 0 < letterDigit c := by
    rw [letterDigit]
    omega
  rw [lettersNumber_cons]
  positivity

end

theorem lettersOf_zero (done : List Char) : lettersOf 0 done = done := by
  rw [lettersOf, if_pos rfl]

theorem lettersOf_append (n : Nat) (done : List Char) : lettersOf n done = lettersOf n [] ++ done := by
  induction n using Nat.strong_induction_on generalizing done with
  | _ n ih =>
    by_cases h : n = 0
    · simp [h, lettersOf_zero]
    · have hlt : (n - 1) / 26 < n := by omega
      rw [lettersOf, if_neg h, ih _ hlt, lettersOf.eq_def n [], if_neg h, ih _ hlt [_]]
      simp

/-- The last letter is a remainder counted from one, the others write the quotient. -/
theorem lettersOf_concat (n : Nat) {d : Nat} (hd : d < 26) :
    lettersOf (26 * n + (d + 1)) [] = lettersOf n [] ++ [Char.ofNat (65 + d)] := by
  have hquotient : (26 * n + (d + 1) - 1) / 26 = n := by omega
  have hremainder : (26 * n + (d + 1) - 1) % 26 = d := by omega
  rw [lettersOf, if_neg (by omega), hquotient, hremainder, lettersOf_append]

theorem exists_quotient {n : Nat} (h : n ≠ 0) : ∃ m d, d < 26 ∧ n = 26 * m + (d + 1) :=
  ⟨(n - 1) / 26, (n - 1) % 26, by omega, by omega⟩

theorem isAlpha_lettersOf (n : Nat) : ∀ c ∈ lettersOf n [], c.isAlpha := by
  induction n using Nat.strong_induction_on with
  | _ n ih =>
    by_cases h : n = 0
    · simp [h, lettersOf_zero]
    · obtain ⟨m, d, hd, rfl⟩ := exists_quotient h
      rw [lettersOf_concat m hd]
      simp only [List.forall_mem_append, List.forall_mem_singleton]
      exact ⟨ih m (by omega), isAlpha_ofNat hd⟩

theorem lettersNumber_lettersOf (n : Nat) : lettersNumber (lettersOf n []) = n := by
  induction n using Nat.strong_induction_on with
  | _ n ih =>
    by_cases h : n = 0
    · simp [h, lettersOf_zero, lettersNumber]
    · obtain ⟨m, d, hd, rfl⟩ := exists_quotient h
      rw [lettersOf_concat m hd, lettersNumber_concat, ih m (by omega), letterDigit_ofNat hd]

theorem lettersOf_lettersNumber {cs : List Char} (h : ∀ c ∈ cs, c.isAlpha) :
    lettersOf (lettersNumber cs) [] = cs.map Char.toUpper := by
  induction cs using List.reverseRecOn with
  | nil => exact lettersOf_zero []
  | append_singleton cs c ih =>
    simp only [List.forall_mem_append, List.forall_mem_singleton] at h
    have hbounds := toUpper_bounds h.2
    have hdigit : letterDigit c = letterDigit c - 1 + 1 ∧ letterDigit c - 1 < 26 := by
      rw [letterDigit]
      omega
    rw [lettersNumber_concat, hdigit.1, lettersOf_concat _ hdigit.2, ih h.1, ofNat_letterDigit h.2,
      List.map_append, List.map_singleton]

section

variable {s : String} {i : Nat}

theorem columnIndex?_of_lt (h : i + 1 < wordSize) :
    columnIndex? (columnLetters i).toList = some i := by
  have hnumber := lettersNumber_lettersOf (i + 1)
  have hne : lettersOf (i + 1) [] ≠ [] := by
    intro hnil
    rw [hnil] at hnumber
    cases hnumber
  rw [columnLetters, String.toList_ofList, columnIndex?_eq, hnumber,
    if_pos ⟨hne, isAlpha_lettersOf _, h⟩, Nat.add_sub_cancel]

theorem columnLetters_of_columnIndex? (h : columnIndex? s.toList = some i) :
    columnLetters i = s.toUpper := by
  rw [columnIndex?_eq] at h
  split at h
  · rename_i hletters
    obtain ⟨hne, halpha, hword⟩ := hletters
    have hpos := lettersNumber_pos hne halpha
    have hi : i + 1 = lettersNumber s.toList := by
      have hindex := Option.some.inj h
      omega
    rw [columnLetters, hi, lettersOf_lettersNumber halpha, ← String.toList_inj]
    simp [String.toUpper]
  · cases h

theorem columnIndex?_eq_none_iff :
    columnIndex? s.toList = none ↔
      s = "" ∨ (∃ c ∈ s.toList, c.isAlpha = false) ∨ wordSize ≤ lettersNumber s.toList := by
  rw [columnIndex?_eq, ite_eq_right_iff]
  simp only [reduceCtorEq, imp_false, not_and_or, not_not, String.toList_eq_nil_iff, not_forall,
    Bool.not_eq_true, not_lt, exists_prop]

end

/-- Reading the letters of a column gives its index, and writing an index that was read gives its
letters in upper case. Letters are not read exactly if there are none, if a character is none of the
alphabet, or if their number is none of a word. -/
theorem columnIndex?_columnLetters (s : String) (i : Nat) :
    (i + 1 < wordSize → columnIndex? (columnLetters i).toList = some i) ∧
      (columnIndex? s.toList = some i → columnLetters i = s.toUpper) ∧
      (columnIndex? s.toList = none ↔
        s = "" ∨ (∃ c ∈ s.toList, c.isAlpha = false) ∨ wordSize ≤ lettersNumber s.toList) :=
  ⟨columnIndex?_of_lt, columnLetters_of_columnIndex?, columnIndex?_eq_none_iff⟩

theorem columnIndex?_xfd :
    16383 + 1 < wordSize ∧ columnIndex? (columnLetters 16383).toList = some 16383 ∧
      columnIndex? "xfd".toList = some 16383 ∧ columnLetters 16383 = "XFD" := by
  have hindex : columnIndex? "xfd".toList = some 16383 := by decide
  obtain ⟨hread, hwritten, -⟩ := columnIndex?_columnLetters "xfd" 16383
  have hupper : "xfd".toUpper = "XFD" := by
    rw [← String.toList_inj, String.toUpper, String.toList_map]
    rfl
  exact ⟨by decide, hread (by decide), hindex, (hwritten hindex).trans hupper⟩

end Spreadsheet.Workbook
