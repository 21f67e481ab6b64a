import Mathlib
import Spreadsheet.Proofs.Decimal.Whole

namespace Spreadsheet.Decimal

open Float.Model (UnpackedFloat)

section Signs

variable {x : Float} {d : Dyadic}

theorem lt_zero_iff (hd : dyadic? x = some d) : x < 0 ↔ d.value < 0 := by
  have hzero : dyadic? 0 = some ⟨false, 0, -1074⟩ := by decide +kernel
  rw [lt_iff_value hd hzero, Dyadic.value_of_zero (d := ⟨false, 0, -1074⟩) rfl]

theorem Dyadic.Canonical.withSign (h : d.Canonical) (negative : Bool) :
    ({ d with negative } : Dyadic).Canonical :=
  ⟨h.mantissa_lt, h.least, h.greatest, h.normal⟩

theorem dyadic?_abs (hd : dyadic? x = some d) : dyadic? x.abs = some { d with negative := false } := by
  obtain ⟨hcanonical, -⟩ := canonical_of_dyadic? hd
  have hunpacked : d.unpacked.abs = ({ d with negative := false } : Dyadic).unpacked := by
    rw [Dyadic.unpacked, Dyadic.unpacked]
    split <;> rfl
  have habs : x.abs = ({ d with negative := false } : Dyadic).float := by
    change Float.ofModel (.pack x.toModel.unpack.abs) = _
    rw [unpack_of_dyadic? hd, hunpacked]
    rfl
  rw [habs, (hcanonical.withSign false).dyadic?_float]

theorem Dyadic.abs_value (d : Dyadic) : ({ d with negative := false } : Dyadic).value = |d.value| := by
  have hmagnitude : (0 : ℚ) ≤ d.mantissa * 2 ^ d.exponent :=
    mul_nonneg (Nat.cast_nonneg _) (two_zpow_pos _).le
  rw [Dyadic.value, Dyadic.value, abs_mul, abs_of_nonneg hmagnitude]
  cases d.negative <;> simp

theorem IsWhole.abs {n : ℤ} (h : IsWhole x n) : IsWhole x.abs |n| := by
  obtain ⟨d, hd, hvalue⟩ := h
  refine ⟨_, dyadic?_abs hd, ?_⟩
  rw [d.abs_value, hvalue, Int.cast_abs]

theorem IsWhole.lt_zero_iff {n : ℤ} (h : IsWhole x n) : x < 0 ↔ n < 0 := by
  obtain ⟨d, hd, hvalue⟩ := h
  rw [Decimal.lt_zero_iff hd, hvalue]
  exact_mod_cast Iff.rfl

theorem IsWhole.finite?_eq {n : ℤ} (h : IsWhole x n) : finite? x = some x := by
  obtain ⟨d, hd, -⟩ := h
  have hfinite : isFinite x = true := by rw [isFinite, hd]; rfl
  exact if_pos hfinite

theorem IsWhole.neg_abs {n : ℤ} (h : IsWhole x n) (hn : n < 0) : -x.abs = x := by
  obtain ⟨⟨negative, m, e⟩, hd, hvalue⟩ := h
  obtain ⟨hcanonical, -⟩ := canonical_of_dyadic? hd
  have hcanonical' : (Dyadic.mk false m e).Canonical := hcanonical.withSign false
  have hn' : (n : ℚ) < 0 := by exact_mod_cast hn
  have hmagnitude : (0 : ℚ) ≤ m * 2 ^ e := mul_nonneg (Nat.cast_nonneg _) (two_zpow_pos _).le
  rw [Dyadic.value] at hvalue
  cases negative with
  | false =>
    simp only [Bool.false_eq_true, if_false, one_mul] at hvalue
    linarith
  | true =>
    have hpos : 0 < m := by
      rw [Nat.pos_iff_ne_zero]
      rintro rfl
      simp only [Nat.cast_zero, zero_mul, mul_zero] at hvalue
      linarith
    rw [← float_of_dyadic? (dyadic?_abs hd), ← float_of_dyadic? hd]
    exact hcanonical'.neg_float hpos

end Signs

end Spreadsheet.Decimal
