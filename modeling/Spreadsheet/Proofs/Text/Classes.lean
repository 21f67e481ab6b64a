import Mathlib
import Spreadsheet.Text.Blank
import Spreadsheet.Text.Digits
import Spreadsheet.Text.Numeric

namespace Spreadsheet.Text

theorem ascii_of_lt {p : Char → Prop} (h : ∀ n < 0x80, p (Char.ofNat n)) {c : Char}
    (hc : c.toNat < 0x80) : p c := by
  simpa only [Char.ofNat_toNat] using h c.toNat hc

theorem not_inRanges_of_disjoint {rs rs' : List (Nat × Nat)}
    (h : ∀ r ∈ rs, ∀ r' ∈ rs', r.2 < r'.1 ∨ r'.2 < r.1) {c : Char} (hc : inRanges rs c) :
    inRanges rs' c = false := by
  simp only [inRanges, List.any_eq_true, Bool.and_eq_true, decide_eq_true_eq] at hc
  obtain ⟨r, hr, hlo, hhi⟩ := hc
  simp only [inRanges, List.any_eq_false, Bool.and_eq_true, decide_eq_true_eq]
  intro r' hr' hc'
  have := h r hr r' hr'
  omega

theorem isLetter_of_isBlank {c : Char} (h : isBlank c) : isLetter c = false := by
  by_cases hc : c.toNat < 0x80
  · exact ascii_of_lt (p := fun c => isBlank c → isLetter c = false) (by decide +kernel) hc h
  · rw [isLetter, if_neg hc]
    exact not_inRanges_of_disjoint (by decide +kernel) h

theorem isNumeric_of_isBlank {c : Char} (h : isBlank c) : isNumeric c = false := by
  by_cases hc : c.toNat < 0x80
  · exact ascii_of_lt (p := fun c => isBlank c → isNumeric c = false) (by decide +kernel) hc h
  · rw [isNumeric, if_neg hc]
    exact not_inRanges_of_disjoint (by decide +kernel) h

theorem lt_of_isDigit {c : Char} (h : c.isDigit) : c.toNat < 0x80 := by
  simp only [Char.isDigit, Bool.and_eq_true, decide_eq_true_eq] at h
  have h9 : c.toNat ≤ 57 := UInt32.le_iff_toNat_le.mp h.2
  omega

theorem isDigit_of_isBlank {c : Char} (h : isBlank c) : c.isDigit = false := by
  by_contra hd
  rw [Bool.not_eq_false] at hd
  have := isNumeric_of_isBlank h
  rw [isNumeric, if_pos (lt_of_isDigit hd), hd] at this
  cases this

theorem isBlank_of_isDigit {c : Char} (h : c.isDigit) : isBlank c = false := by
  by_contra hb
  rw [Bool.not_eq_false] at hb
  rw [isDigit_of_isBlank hb] at h
  cases h

section Scan

variable {p : Char → Bool} {ds rest : List Char}

theorem takeWhile_append_stop (h : ∀ c ∈ ds, p c) (hr : ∀ c ∈ rest.head?, p c = false) :
    (ds ++ rest).takeWhile p = ds := by
  rw [List.takeWhile_append_of_pos h]
  cases rest with
  | nil => simp
  | cons c rest => simp [hr c rfl]

theorem dropWhile_append_stop (h : ∀ c ∈ ds, p c) (hr : ∀ c ∈ rest.head?, p c = false) :
    (ds ++ rest).dropWhile p = rest := by
  rw [List.dropWhile_append_of_pos h]
  cases rest with
  | nil => simp
  | cons c rest => simp [hr c rfl]

theorem spanDigits_append (h : ∀ c ∈ ds, c.isDigit) (hr : ∀ c ∈ rest.head?, c.isDigit = false) :
    spanDigits (ds ++ rest) = (ds, rest) := by
  rw [spanDigits, takeWhile_append_stop h hr, dropWhile_append_stop h hr]

theorem spanDigits_stop (hr : ∀ c ∈ rest.head?, c.isDigit = false) :
    spanDigits rest = ([], rest) := by
  have h : ∀ c ∈ ([] : List Char), c.isDigit := by simp
  simpa only [List.nil_append] using spanDigits_append h hr

end Scan

theorem numeral?_eq_some_iff {ds : List Char} {n : Nat} :
    numeral? ds = some n ↔ (ds ≠ [] ∧ ∀ c ∈ ds, c.isDigit) ∧ valueFrom 0 ds = n := by
  simp only [numeral?, Option.ite_none_right_eq_some, Option.some.injEq, List.all_eq_true]

theorem numeral?_of_isDigit {ds : List Char} (hne : ds ≠ []) (h : ∀ c ∈ ds, c.isDigit) :
    numeral? ds = some (valueFrom 0 ds) :=
  numeral?_eq_some_iff.mpr ⟨⟨hne, h⟩, rfl⟩

end Spreadsheet.Text
