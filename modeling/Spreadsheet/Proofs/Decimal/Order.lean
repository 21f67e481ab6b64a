import Mathlib
import Spreadsheet.Proofs.Decimal.Rounding

namespace Spreadsheet.Decimal

open Float.Model (UnpackedFloat)

namespace Dyadic

variable {d d' : Dyadic}

def value (d : Dyadic) : ℚ :=
  (if d.negative then -1 else 1) * (d.mantissa * 2 ^ d.exponent)

theorem value_of_zero (h : d.mantissa = 0) : d.value = 0 := by
  rw [value, h, Nat.cast_zero, zero_mul, mul_zero]

theorem value_of_negative_eq_false (hsign : d.negative = false) :
    d.value = d.mantissa * 2 ^ d.exponent := by
  rw [value, hsign, if_neg Bool.false_ne_true, one_mul]

theorem value_of_pos (h : 0 < d.mantissa) :
    (d.sign = .positive ∧ d.value = d.mantissa * 2 ^ d.exponent ∧ 0 < d.value) ∨
      (d.sign = .negative ∧ d.value = -(d.mantissa * 2 ^ d.exponent) ∧ d.value < 0) := by
  have hpos : (0 : ℚ) < d.mantissa * 2 ^ d.exponent :=
    mul_pos (by exact_mod_cast h) (two_zpow_pos _)
  rw [value, sign]
  cases d.negative with
  | false => exact .inl ⟨rfl, by simp, by simpa using hpos⟩
  | true => exact .inr ⟨rfl, by simp, by simpa using hpos⟩

namespace Canonical

/-- Of two canonical fractions the one with the greater exponent is the greater one, since it has its
leading bit. -/
theorem magnitude_lt (h : d.Canonical) (h' : d'.Canonical) (hlt : d.exponent < d'.exponent) :
    (d.mantissa * 2 ^ d.exponent : ℚ) < d'.mantissa * 2 ^ d'.exponent := by
  have hleast := h.least
  have hnormal : 2 ^ 52 ≤ d'.mantissa := h'.normal.resolve_right (by omega)
  calc (d.mantissa * 2 ^ d.exponent : ℚ)
    _ < 2 ^ 53 * 2 ^ d.exponent :=
      mul_lt_mul_of_pos_right (by exact_mod_cast h.mantissa_lt) (two_zpow_pos _)
    _ = 2 ^ 52 * 2 ^ (d.exponent + 1) := by
      rw [zpow_add_one₀ (by norm_num)]
      ring
    _ ≤ 2 ^ 52 * 2 ^ d'.exponent :=
      mul_le_mul_of_nonneg_left (zpow_le_zpow_right₀ (by norm_num) (by omega)) (by norm_num)
    _ ≤ d'.mantissa * 2 ^ d'.exponent :=
      mul_le_mul_of_nonneg_right (by exact_mod_cast hnormal) (two_zpow_pos _).le

theorem compare_magnitude (h : d.Canonical) (h' : d'.Canonical) :
    (compare d.exponent d'.exponent).then (compare d.mantissa d'.mantissa) =
      compare (d.mantissa * 2 ^ d.exponent : ℚ) (d'.mantissa * 2 ^ d'.exponent) := by
  rcases lt_trichotomy d.exponent d'.exponent with hlt | heq | hlt
  · rw [compare_lt_iff_lt.mpr hlt, compare_lt_iff_lt.mpr (h.magnitude_lt h' hlt)]
    rfl
  · have hscale := two_zpow_pos d'.exponent
    rw [heq, compare_eq_iff_eq.mpr rfl, Ordering.eq_then, ← cmp_eq_compare, ← cmp_eq_compare,
      cmp_mul_pos_right hscale, Nat.strictMono_cast.cmp_map_eq]
  · rw [compare_gt_iff_gt.mpr hlt, compare_gt_iff_gt.mpr (h'.magnitude_lt h hlt)]
    rfl

/-- Canonical fractions are compared as their numbers are; the two zeros are equal. -/
theorem compare_unpacked (h : d.Canonical) (h' : d'.Canonical) :
    d.unpacked.compare d'.unpacked = some (compare d.value d'.value) := by
  have hzero : ∀ e : Dyadic, e.mantissa = 0 → e.unpacked = .zero e.sign := by
    intro e he
    exact dif_neg (Nat.not_lt_of_le he.le)
  rcases Nat.eq_zero_or_pos d.mantissa with hm | hm <;>
    rcases Nat.eq_zero_or_pos d'.mantissa with hm' | hm'
  · rw [hzero d hm, hzero d' hm', value_of_zero hm, value_of_zero hm', compare_eq_iff_eq.mpr rfl]
    rfl
  · rw [hzero d hm, unpacked_of_pos hm', value_of_zero hm]
    rcases value_of_pos hm' with ⟨hsign, -, hlt⟩ | ⟨hsign, -, hlt⟩
    · rw [hsign, compare_lt_iff_lt.mpr hlt]
      rfl
    · rw [hsign, compare_gt_iff_gt.mpr hlt]
      rfl
  · rw [unpacked_of_pos hm, hzero d' hm', value_of_zero hm']
    rcases value_of_pos hm with ⟨hsign, -, hlt⟩ | ⟨hsign, -, hlt⟩
    · rw [hsign, compare_gt_iff_gt.mpr hlt]
      rfl
    · rw [hsign, compare_lt_iff_lt.mpr hlt]
      rfl
  · have hmagnitude := h.compare_magnitude h'
    have hanti : StrictAnti fun q : ℚ => -q := strictMono_id.neg
    rw [unpacked_of_pos hm, unpacked_of_pos hm']
    rcases value_of_pos hm with ⟨hsign, hvalue, hlt⟩ | ⟨hsign, hvalue, hlt⟩ <;>
      rcases value_of_pos hm' with ⟨hsign', hvalue', hlt'⟩ | ⟨hsign', hvalue', hlt'⟩ <;>
      rw [hsign, hsign', UnpackedFloat.compare]
    · rw [hmagnitude, hvalue, hvalue']
    · rw [compare_gt_iff_gt.mpr (hlt'.trans hlt)]
    · rw [compare_lt_iff_lt.mpr (hlt.trans hlt')]
    · rw [hmagnitude, hvalue, hvalue', ← cmp_eq_compare, ← cmp_eq_compare, cmp_swap,
        hanti.cmp_map_eq]

end Canonical

end Dyadic

section Floats

variable {x y : Float} {d d' : Dyadic}

theorem lt_iff_unpack : x < y ↔ x.toModel.unpack.lt y.toModel.unpack = true := by
  change decide (x.toModel < y.toModel) = true ↔ _
  rw [decide_eq_true_eq]
  rfl

theorem compare_unpack (hx : dyadic? x = some d) (hy : dyadic? y = some d') :
    x.toModel.unpack.compare y.toModel.unpack = some (compare d.value d'.value) := by
  rw [unpack_of_dyadic? hx, unpack_of_dyadic? hy,
    (canonical_of_dyadic? hx).1.compare_unpacked (canonical_of_dyadic? hy).1]

theorem lt_iff_value (hx : dyadic? x = some d) (hy : dyadic? y = some d') :
    x < y ↔ d.value < d'.value := by
  rw [lt_iff_unpack, UnpackedFloat.lt, compare_unpack hx hy, beq_iff_eq, Option.some_inj,
    compare_lt_iff_lt]

theorem beq_iff_value (hx : dyadic? x = some d) (hy : dyadic? y = some d') :
    (x == y) = true ↔ d.value = d'.value := by
  change x.toModel.unpack.beq y.toModel.unpack = true ↔ _
  rw [UnpackedFloat.beq, compare_unpack hx hy, beq_iff_eq, Option.some_inj, compare_eq_iff_eq]

end Floats

end Spreadsheet.Decimal
