import Mathlib
import Spreadsheet.Proofs.Decimal.NearestInteger
import Spreadsheet.Workbook.Color

namespace Spreadsheet.Workbook

open Decimal (clamp dyadic? nearestInteger)

/-- A channel with a tint that is any fraction, rounded and kept within its bounds. -/
def exactTint (c : Nat) (tint : ℚ) : Nat :=
  (clamp 0 255 (nearestInteger (blend 255 c tint))).toNat

section Blend

variable {full c c' s t : ℚ}

theorem blend_of_neg (h : t < 0) : blend full c t = c * (1 + t) :=
  if_pos h

theorem blend_of_nonneg (h : 0 ≤ t) : blend full c t = c + (full - c) * t := by
  rcases h.eq_or_lt with rfl | hpos
  · simp [blend]
  · rw [blend, if_neg h.not_gt, if_pos hpos]

theorem blend_zero : blend full c 0 = c := by
  rw [blend_of_nonneg le_rfl, mul_zero, add_zero]

theorem blend_mono_tint (hc : 0 ≤ c) (hfull : c ≤ full) : Monotone (blend full c) := by
  intro s t h
  rcases lt_or_ge s 0 with hs | hs <;> rcases lt_or_ge t 0 with ht | ht
  · rw [blend_of_neg hs, blend_of_neg ht]
    gcongr
  · rw [blend_of_neg hs, blend_of_nonneg ht]
    calc c * (1 + s)
      _ ≤ c := mul_le_of_le_one_right hc (by linarith)
      _ ≤ c + (full - c) * t := le_add_of_nonneg_right (mul_nonneg (sub_nonneg.mpr hfull) ht)
  · exact absurd (hs.trans h) ht.not_ge
  · rw [blend_of_nonneg hs, blend_of_nonneg ht]
    have hrest := sub_nonneg.mpr hfull
    gcongr

/-- Between the bounds of a tint, a greater channel stays the greater one. -/
theorem blend_mono_channel (hlow : -1 ≤ t) (hhigh : t ≤ 1) (h : c ≤ c') :
    blend full c t ≤ blend full c' t := by
  rcases lt_or_ge t 0 with ht | ht
  · rw [blend_of_neg ht, blend_of_neg ht]
    exact mul_le_mul_of_nonneg_right h (by linarith)
  · have hrest : ∀ c : ℚ, c + (full - c) * t = c * (1 - t) + full * t := fun c => by ring
    rw [blend_of_nonneg ht, blend_of_nonneg ht, hrest, hrest]
    exact add_le_add_left (mul_le_mul_of_nonneg_right h (sub_nonneg.mpr hhigh)) _

theorem blend_nonpos (hc : 0 ≤ c) (ht : t ≤ -1) : blend full c t ≤ 0 := by
  rw [blend_of_neg (by linarith)]
  exact mul_nonpos_of_nonneg_of_nonpos hc (by linarith)

theorem le_blend (hfull : c ≤ full) (ht : 1 ≤ t) : full ≤ blend full c t := by
  rw [blend_of_nonneg (by linarith)]
  have := le_mul_of_one_le_right (sub_nonneg.mpr hfull) ht
  linarith

end Blend

theorem clamp_nearestInteger_mono :
    Monotone fun q : ℚ => (clamp 0 255 (nearestInteger q)).toNat := by
  intro p q h
  have := Decimal.nearestInteger_mono h
  dsimp only [clamp]
  omega

variable {c c' : Nat} {t : ℚ}

theorem exactTint_zero (hc : c ≤ 255) : exactTint c 0 = c := by
  rw [exactTint, blend_zero, Decimal.nearestInteger_natCast, clamp]
  omega

theorem exactTint_of_le (ht : t ≤ -1) : exactTint c t = 0 := by
  have hmoved : blend 255 (c : ℚ) t ≤ (0 : Nat) := by exact_mod_cast blend_nonpos c.cast_nonneg ht
  have hround := Decimal.nearestInteger_le hmoved
  rw [exactTint, clamp]
  omega

theorem exactTint_of_ge (hc : c ≤ 255) (ht : 1 ≤ t) : exactTint c t = 255 := by
  have hfull : (c : ℚ) ≤ 255 := by exact_mod_cast hc
  have hmoved : (255 : Nat) ≤ blend 255 (c : ℚ) t := by exact_mod_cast le_blend hfull ht
  have hround := Decimal.le_nearestInteger hmoved
  rw [exactTint, clamp]
  omega

theorem exactTint_mono (hc : c ≤ 255) : Monotone (exactTint c) := by
  have hfull : (c : ℚ) ≤ 255 := by exact_mod_cast hc
  exact clamp_nearestInteger_mono.comp (blend_mono_tint c.cast_nonneg hfull)

theorem exactTint_mono_channel (h : c' ≤ c) (hc : c ≤ 255) (t : ℚ) :
    exactTint c' t ≤ exactTint c t := by
  rcases le_total t (-1) with hlow | hlow
  · rw [exactTint_of_le hlow, exactTint_of_le hlow]
  rcases le_total 1 t with hhigh | hhigh
  · rw [exactTint_of_ge hc hhigh, exactTint_of_ge (h.trans hc) hhigh]
  · exact clamp_nearestInteger_mono (blend_mono_channel hlow hhigh (by exact_mod_cast h))

/-- A channel whose float is exact is the exact channel. -/
theorem tintChannel_eq_exactTint {tint : Float} {d : Decimal.Dyadic}
    (hd : dyadic? (blend 255 (Float.ofNat c) tint) = some d) (ht : d.value = blend 255 (c : ℚ) t) :
    tintChannel c tint = exactTint c t := by
  rw [tintChannel, Decimal.roundWithin, hd, exactTint, ← ht, ← Decimal.Dyadic.round_eq_nearestInteger]

/-- The order of channels with a tint, its fixed point and its ends. The arithmetic is exact; where that
of floats is too, it gives the same channel. -/
theorem exactTint_ordered (hc : c ≤ 255) :
    (∀ s t, s ≤ t → exactTint c s ≤ exactTint c t) ∧
      (∀ c' ≤ c, ∀ t, exactTint c' t ≤ exactTint c t) ∧
      exactTint c 0 = c ∧ (∀ t ≤ -1, exactTint c t = 0) ∧ (∀ t, 1 ≤ t → exactTint c t = 255) ∧
      ∀ (tint : Float) (d : Decimal.Dyadic) (t : ℚ),
        dyadic? (blend 255 (Float.ofNat c) tint) = some d → d.value = blend 255 (c : ℚ) t →
          tintChannel c tint = exactTint c t :=
  ⟨fun _ _ h => exactTint_mono hc h, fun _ h t => exactTint_mono_channel h hc t, exactTint_zero hc,
    fun _ => exactTint_of_le, fun _ => exactTint_of_ge hc, fun _ _ _ => tintChannel_eq_exactTint⟩

theorem exactTint_hundred :
    100 ≤ 255 ∧ exactTint 100 (-1 / 2) ≤ exactTint 100 (1 / 3) ∧ exactTint 99 3 ≤ exactTint 100 3 ∧
      exactTint 100 0 = 100 ∧ exactTint 100 (-3) = 0 ∧ exactTint 100 3 = 255 ∧
      tintChannel 100 0.5 = exactTint 100 (1 / 2) := by
  obtain ⟨htint, hchannel, hzero, hlow, hhigh, hfloat⟩ := exactTint_ordered (c := 100) (by norm_num)
  refine ⟨by norm_num, htint _ _ (by norm_num), hchannel 99 (by norm_num) 3, hzero,
    hlow _ (by norm_num), hhigh _ (by norm_num), ?_⟩
  -- The float is 177.5, which is rounded up.
  exact hfloat 0.5 ⟨false, 355 * 2 ^ 44, -45⟩ (1 / 2) (by decide +kernel)
    (by norm_num [Decimal.Dyadic.value, blend])

end Spreadsheet.Workbook
