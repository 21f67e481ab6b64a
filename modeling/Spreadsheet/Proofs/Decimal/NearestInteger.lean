import Mathlib
import Spreadsheet.Proofs.Decimal.Order

namespace Spreadsheet.Decimal

/-- Nearest integer; a half goes away from zero. -/
def nearestInteger (q : ℚ) : ℤ :=
  if q < 0 then -⌊-q + 1 / 2⌋ else ⌊q + 1 / 2⌋

section

variable {p q : ℚ}

theorem nearestInteger_of_nonneg (h : 0 ≤ q) : nearestInteger q = ⌊q + 1 / 2⌋ :=
  if_neg h.not_gt

theorem nearestInteger_nonneg (h : 0 ≤ q) : 0 ≤ nearestInteger q := by
  rw [nearestInteger_of_nonneg h, Int.floor_nonneg]
  linarith

theorem nearestInteger_neg (q : ℚ) : nearestInteger (-q) = -nearestInteger q := by
  rcases lt_trichotomy q 0 with h | rfl | h
  · rw [nearestInteger_of_nonneg (neg_nonneg.mpr h.le), nearestInteger, if_pos h, neg_neg]
  · norm_num [nearestInteger]
  · rw [nearestInteger_of_nonneg h.le, nearestInteger, if_pos (neg_lt_zero.mpr h), neg_neg]

theorem nearestInteger_mono : Monotone nearestInteger := by
  have hnonneg : ∀ p q : ℚ, 0 ≤ p → p ≤ q → nearestInteger p ≤ nearestInteger q := by
    intro p q hp h
    rw [nearestInteger_of_nonneg hp, nearestInteger_of_nonneg (hp.trans h)]
    exact Int.floor_mono (by linarith)
  intro p q h
  rcases le_total 0 p with hp | hp
  · exact hnonneg p q hp h
  rcases le_total 0 q with hq | hq
  · have hleft := nearestInteger_nonneg (neg_nonneg.mpr hp)
    rw [nearestInteger_neg] at hleft
    have hright := nearestInteger_nonneg hq
    omega
  · have hopposite := hnonneg (-q) (-p) (neg_nonneg.mpr hq) (neg_le_neg h)
    rwa [nearestInteger_neg, nearestInteger_neg, neg_le_neg_iff] at hopposite

@[simp] theorem nearestInteger_natCast (n : Nat) : nearestInteger n = n := by
  rw [nearestInteger_of_nonneg (Nat.cast_nonneg n), Int.floor_natCast_add]
  norm_num

theorem le_nearestInteger {n : Nat} (h : (n : ℚ) ≤ q) : (n : ℤ) ≤ nearestInteger q := by
  simpa using nearestInteger_mono h

theorem nearestInteger_le {n : Nat} (h : q ≤ n) : nearestInteger q ≤ n := by
  simpa using nearestInteger_mono h

end

namespace Dyadic

variable {d : Dyadic}

/-- A number with a fraction is rounded by adding a half. -/
theorem round_cases (hsign : d.negative = false) :
    (∃ k : Nat, d.exponent = k ∧ d.round = (d.mantissa * 2 ^ k : Nat)) ∨
      ∃ k : Nat, d.exponent = -(k + 1) ∧
        d.round = ((d.mantissa + 2 ^ k) / 2 ^ (k + 1) : Nat) := by
  simp only [Dyadic.round, hsign, twoTo_eq]
  by_cases he : 0 ≤ d.exponent
  · refine .inl ⟨d.exponent.toNat, by omega, ?_⟩
    simp [he]
  · obtain ⟨k, hk⟩ : ∃ k : Nat, d.exponent = -(k + 1) := ⟨(-d.exponent).toNat - 1, by omega⟩
    have hunit : (-d.exponent).toNat = k + 1 := by omega
    refine .inr ⟨k, hk, ?_⟩
    simp [he, hunit]

theorem round_of_negative_eq_false (hsign : d.negative = false) :
    d.round = nearestInteger d.value := by
  rw [value_of_negative_eq_false hsign]
  rcases round_cases hsign with ⟨k, hk, hround⟩ | ⟨k, hk, hround⟩
  · have hvalue : (d.mantissa * 2 ^ (k : Int) : ℚ) = (d.mantissa * 2 ^ k : Nat) := by
      rw [zpow_natCast]
      push_cast
      rfl
    rw [hround, hk, hvalue, nearestInteger_natCast]
  · have hvalue : (d.mantissa * 2 ^ (-(k + 1) : Int) + 1 / 2 : ℚ) =
        (d.mantissa + 2 ^ k : Nat) / (2 ^ (k + 1) : Nat) := by
      rw [zpow_neg, ← Nat.cast_succ, zpow_natCast]
      push_cast
      field_simp
      rw [pow_succ]
      ring
    have hnonneg : (0 : ℚ) ≤ d.mantissa * 2 ^ (-(k + 1) : Int) :=
      mul_nonneg (Nat.cast_nonneg _) (two_zpow_pos _).le
    rw [hround, hk, nearestInteger_of_nonneg hnonneg, hvalue, Rat.floor_natCast_div_natCast]
    rfl

theorem round_eq_nearestInteger (d : Dyadic) : d.round = nearestInteger d.value := by
  cases hsign : d.negative with
  | false => exact round_of_negative_eq_false hsign
  | true =>
    -- Rounding goes by the magnitude, which the fraction has without its sign.
    let size : Dyadic := { d with negative := false }
    have hround : d.round = -size.round := by simp [Dyadic.round, hsign, size]
    have hvalue : d.value = -size.value := by simp [value, hsign, size]
    rw [hround, hvalue, nearestInteger_neg, round_of_negative_eq_false rfl]

end Dyadic

end Spreadsheet.Decimal
