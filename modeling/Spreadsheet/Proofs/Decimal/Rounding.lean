import Mathlib
import Spreadsheet.Decimal.Shortest
import Spreadsheet.Proofs.Decimal.Bits

namespace Spreadsheet.Decimal

open Float.Model (UnpackedFloat Format totalExponent)
open Float.Model.UnpackedFloat

/-- The number between the mantissa and its successor that the residual bits tell. -/
def Describes (em : ExtendedMantissa) (q : ℚ) : Prop :=
  match em.roundBit, em.stickyBit with
  | false, false => q = em.mantissa
  | false, true => em.mantissa < q ∧ q < em.mantissa + 1 / 2
  | true, false => q = em.mantissa + 1 / 2
  | true, true => em.mantissa + 1 / 2 < q ∧ q < em.mantissa + 1

namespace Describes

variable {em : ExtendedMantissa} {q : ℚ}

theorem exact (m : Nat) : Describes (.ofMantissaAndAccuracy m .exact) m :=
  rfl

theorem bounds (h : Describes em q) : em.mantissa ≤ q ∧ q < em.mantissa + 1 := by
  obtain ⟨m, round, sticky⟩ := em
  cases round <;> cases sticky <;> dsimp only [Describes] at h ⊢ <;> constructor <;> linarith

theorem shiftRightOne (h : Describes em q) : Describes em.shiftRightOne (q / 2) := by
  obtain ⟨m, round, sticky⟩ := em
  obtain ⟨k, rfl | rfl⟩ := Nat.even_or_odd' m
  · have hhalf : 2 * k / 2 = k := by omega
    have hbit : (2 * k % 2 != 0) = false := by simp
    cases round <;> cases sticky <;>
      simp only [Describes, ExtendedMantissa.shiftRightOne, hhalf, hbit, Bool.or_true, Bool.or_false,
        Bool.or_self] at h ⊢ <;> push_cast at h ⊢
    · linarith
    · constructor <;> linarith
    · constructor <;> linarith
    · constructor <;> linarith
  · have hhalf : (2 * k + 1) / 2 = k := by omega
    have hbit : ((2 * k + 1) % 2 != 0) = true := by simp [Nat.add_mod]
    cases round <;> cases sticky <;>
      simp only [Describes, ExtendedMantissa.shiftRightOne, hhalf, hbit, Bool.or_true, Bool.or_false,
        Bool.or_self] at h ⊢ <;> push_cast at h ⊢
    · linarith
    · constructor <;> linarith
    · constructor <;> linarith
    · constructor <;> linarith

theorem shiftRight (h : Describes em q) (n : Nat) : Describes (em >>> n) (q / 2 ^ n) := by
  change Describes (n.repeat ExtendedMantissa.shiftRightOne em) _
  induction n with
  | zero => simpa [Nat.repeat] using h
  | succ n ih =>
    rw [Nat.repeat, pow_succ, ← div_div]
    exact ih.shiftRightOne

theorem roundedMantissa_eq (h : Describes em q) {n : Nat} (hlow : n - 1 / 2 ≤ q)
    (hhigh : q ≤ n + 1 / 2) (heven : q = n - 1 / 2 ∨ q = n + 1 / 2 → n % 2 = 0) :
    em.roundedMantissa = n := by
  obtain ⟨m, round, sticky⟩ := em
  have hle : ∀ k : Nat, (n : ℚ) < k + 1 → n ≤ k := fun k hk => by
    have : n < k + 1 := by exact_mod_cast hk
    omega
  have hge : ∀ k : Nat, (k : ℚ) < n + 1 → k ≤ n := fun k hk => by
    have : k < n + 1 := by exact_mod_cast hk
    omega
  cases round <;> cases sticky <;>
    dsimp only [Describes, ExtendedMantissa.roundedMantissa, ExtendedMantissa.accuracy,
      Accuracy.roundToNearestEven] at h ⊢
  · have := hle m (by linarith)
    have := hge m (by linarith)
    omega
  · have := hle m (by linarith)
    have := hge m (by linarith)
    omega
  · have := hle (m + 1) (by push_cast; linarith)
    have := hge m (by linarith)
    have htie : q = n - 1 / 2 ∨ q = n + 1 / 2 := by
      rcases (show n = m ∨ n = m + 1 by omega) with rfl | rfl
      · exact .inr h
      · refine .inl ?_
        push_cast
        linarith
    have := heven htie
    omega
  · have := hle (m + 1) (by push_cast; linarith)
    have := hge (m + 1) (by push_cast; linarith)
    omega

end Describes

structure Interval.Contains (i : Interval) (q : ℚ) : Prop where
  low : i.low * 2 ^ i.exponent ≤ q
  high : q ≤ i.high * 2 ^ i.exponent
  ends : i.low * 2 ^ i.exponent = q ∨ q = i.high * 2 ^ i.exponent → i.closed

/-- The number relative to the unit of a fraction, with what its rounding depends on. -/
structure Dyadic.Near (d : Dyadic) (r : ℚ) : Prop where
  low : d.mantissa - 1 / 2 ≤ r
  high : r ≤ d.mantissa + 1 / 2
  even : r = d.mantissa - 1 / 2 ∨ r = d.mantissa + 1 / 2 → d.mantissa % 2 = 0
  boundary : d.mantissa = 2 ^ 52 → -1074 < d.exponent → d.mantissa - 1 / 4 ≤ r

theorem two_zpow_pos (e : Int) : (0 : ℚ) < 2 ^ e :=
  zpow_pos (by norm_num) e

theorem Interval.low_around {d : Dyadic} (hpos : 0 < d.mantissa) :
    (4 * d.mantissa - 2 : ℚ) ≤ (around d).low ∧
      (d.mantissa = 2 ^ 52 → -1074 < d.exponent → ((around d).low : ℚ) = 4 * d.mantissa - 1) := by
  have hlow : (around d).low = 4 * d.mantissa - 1 ∨ (around d).low = 4 * d.mantissa - 2 := by
    rw [around]
    dsimp only
    split
    · exact .inl rfl
    · exact .inr rfl
  have hboundary : d.mantissa = 2 ^ 52 → -1074 < d.exponent →
      (around d).low = 4 * d.mantissa - 1 := fun hm he => if_pos ⟨hm, he⟩
  have hone : ((4 * d.mantissa - 1 : Nat) : ℚ) = 4 * d.mantissa - 1 := by
    rw [Nat.cast_sub (by omega)]
    push_cast
    ring
  have htwo : ((4 * d.mantissa - 2 : Nat) : ℚ) = 4 * d.mantissa - 2 := by
    rw [Nat.cast_sub (by omega)]
    push_cast
    ring
  constructor
  · rcases hlow with h | h
    · rw [h, hone]
      linarith
    · rw [h, htwo]
  · intro hm he
    rw [hboundary hm he, hone]

theorem Interval.Contains.near {d : Dyadic} {q : ℚ} (h : (Interval.around d).Contains q)
    (hpos : 0 < d.mantissa) : d.Near (q / 2 ^ d.exponent) := by
  have hu := two_zpow_pos d.exponent
  have hunit : (2 : ℚ) ^ d.exponent = 4 * 2 ^ (d.exponent - 2) := by
    rw [zpow_sub₀ (by norm_num)]
    norm_num
    ring
  -- Everything is compared in quarters of the unit.
  obtain ⟨r, rfl⟩ : ∃ r, q = r / 4 * 2 ^ d.exponent :=
    ⟨4 * (q / 2 ^ d.exponent), by field_simp⟩
  rw [mul_div_cancel_right₀ _ hu.ne']
  have hquarter : r / 4 * 2 ^ d.exponent = r * 2 ^ (d.exponent - 2) := by
    rw [hunit]
    ring
  have hv := two_zpow_pos (d.exponent - 2)
  have hhigh : ((Interval.around d).high : ℚ) = 4 * d.mantissa + 2 := by simp [Interval.around]
  obtain ⟨hlow, hboundary⟩ := Interval.low_around hpos
  obtain ⟨hl, hh, hends⟩ := h
  have hexponent : (Interval.around d).exponent = d.exponent - 2 := rfl
  have hclosed : (Interval.around d).closed = true ↔ d.mantissa % 2 = 0 := by
    simp [Interval.around]
  rw [hquarter, hexponent, mul_le_mul_iff_left₀ hv] at hl
  rw [hquarter, hexponent, mul_le_mul_iff_left₀ hv, hhigh] at hh
  rw [hquarter, hexponent, mul_left_inj' hv.ne', mul_left_inj' hv.ne', hhigh, hclosed] at hends
  refine ⟨by linarith, by linarith, ?_, ?_⟩
  · rintro (hr | hr)
    · exact hends (.inl (by linarith))
    · exact hends (.inr (by linarith))
  · intro hm he
    rw [hboundary hm he] at hl
    linarith

theorem targetExponent_eq (m : Nat) (e : Int) :
    Format.binary64.targetExponent (totalExponent m e) = max (m.log2 + 1 + e - 53) (-1074) :=
  rfl

theorem le_div_zpow {q : ℚ} {t : Int} (j : Int) : 2 ^ j ≤ q / 2 ^ t ↔ 2 ^ (j + t) ≤ q := by
  rw [le_div_iff₀ (two_zpow_pos t), zpow_add₀ (by norm_num)]

theorem div_zpow_lt {q : ℚ} {t : Int} (j : Int) : q / 2 ^ t < 2 ^ j ↔ q < 2 ^ (j + t) := by
  rw [div_lt_iff₀ (two_zpow_pos t), zpow_add₀ (by norm_num)]

/-- The exponent that a number is rounded at leaves it at most 53 bits, and all of them unless it is
the least one. -/
theorem window {m : Nat} {e t : Int} {q : ℚ} (hlow : m ≤ q / 2 ^ e) (hhigh : q / 2 ^ e < m + 1)
    (h : e ≤ -1074 ∨ 2 ^ 52 ≤ m) (ht : t = max ((m.log2 : Int) + 1 + e - 53) (-1074)) :
    e ≤ t ∧ q / 2 ^ t < 2 ^ (53 : Int) ∧ (t = -1074 ∨ 2 ^ (52 : Int) ≤ q / 2 ^ t) := by
  rw [div_zpow_lt, le_div_zpow]
  by_cases hm : m = 0
  · subst hm
    have he : e ≤ -1074 := h.resolve_right (by norm_num)
    have hte : t = -1074 := by
      rw [ht, Nat.log2_zero]
      omega
    refine ⟨by omega, ?_, .inl hte⟩
    have hq : q < 2 ^ (0 + e) := (div_zpow_lt 0).mp (by simpa using hhigh)
    exact hq.trans_le (zpow_le_zpow_right₀ (by norm_num) (by omega))
  · have hbits : 2 ^ m.log2 ≤ m := Nat.log2_self_le hm
    have hbits' : m + 1 ≤ 2 ^ (m.log2 + 1) := Nat.lt_log2_self
    have hq : 2 ^ ((m.log2 : Int) + e) ≤ q := by
      rw [← le_div_zpow, zpow_natCast]
      exact le_trans (by exact_mod_cast hbits) hlow
    have hq' : q < 2 ^ (((m.log2 + 1 : Nat) : Int) + e) := by
      rw [← div_zpow_lt, zpow_natCast]
      exact hhigh.trans_le (by exact_mod_cast hbits')
    have het : e ≤ t := by
      rcases h with h | h
      · omega
      · have : 52 ≤ m.log2 := (Nat.le_log2 hm).mpr h
        omega
    refine ⟨het, ?_, ?_⟩
    · exact hq'.trans_le (zpow_le_zpow_right₀ (by norm_num) (by omega))
    · by_cases hleast : t = -1074
      · exact .inl hleast
      · have hte : 52 + t = (m.log2 : Int) + e := by omega
        rw [hte]
        exact .inr hq

/-- A number near a canonical fraction is rounded at its exponent, or below a power of two at the
exponent before. -/
theorem exponent_of_near {d : Dyadic} (hd : d.Canonical) {q : ℚ} {t : Int}
    (hnear : d.Near (q / 2 ^ d.exponent)) (hleast : -1074 ≤ t) (hhigh : q / 2 ^ t < 2 ^ (53 : Int))
    (hlow : t = -1074 ∨ 2 ^ (52 : Int) ≤ q / 2 ^ t) :
    t = d.exponent ∨ t = d.exponent - 1 ∧ d.mantissa = 2 ^ 52 ∧ -1074 < d.exponent := by
  have hdleast := hd.least
  have hm : (d.mantissa : ℚ) + 1 ≤ 2 ^ (53 : Int) := by exact_mod_cast hd.mantissa_lt
  have hqd : q < 2 ^ (53 + d.exponent) := by
    rw [← div_zpow_lt]
    linarith [hnear.high]
  have hle : t ≤ d.exponent := by
    by_contra hlt
    have hq := (le_div_zpow 52).mp (hlow.resolve_left (by omega))
    have := (zpow_lt_zpow_iff_right₀ (by norm_num : (1 : ℚ) < 2)).mp (hq.trans_lt hqd)
    omega
  rw [div_zpow_lt] at hhigh
  rcases eq_or_lt_of_le hle with heq | hlt
  · exact .inl heq
  · have hnormal : 2 ^ 52 ≤ d.mantissa := hd.normal.resolve_right (by omega)
    have hmantissa : (2 : ℚ) ^ 52 ≤ d.mantissa := by exact_mod_cast hnormal
    have hbefore : t = d.exponent - 1 := by
      have hq : 2 ^ (51 + d.exponent) ≤ q := by
        rw [← le_div_zpow]
        have h51 : (2 : ℚ) ^ (51 : Int) ≤ 2 ^ 52 - 1 / 2 := by norm_num
        linarith [hnear.low]
      have := (zpow_lt_zpow_iff_right₀ (by norm_num : (1 : ℚ) < 2)).mp (hq.trans_lt hhigh)
      omega
    refine .inr ⟨hbefore, ?_, by omega⟩
    have hq : q / 2 ^ d.exponent < 2 ^ (52 : Int) := by
      rw [div_zpow_lt]
      have hexp : 53 + t = 52 + d.exponent := by omega
      rwa [hexp] at hhigh
    have hmq : (d.mantissa : ℚ) < 2 ^ 52 + 1 := by
      have h52 : (2 : ℚ) ^ (52 : Int) = 2 ^ 52 := by norm_num
      linarith [hnear.low]
    have : d.mantissa < 2 ^ 52 + 1 := by exact_mod_cast hmq
    omega

theorem shiftToTargetExponent_eq {m : Nat} {e t : Int}
    (ht : max ((m.log2 : Int) + 1 + e - 53) (-1074) = t) (het : e ≤ t) (accuracy : Accuracy) :
    shiftToTargetExponent .binary64 m e accuracy =
      (ExtendedMantissa.ofMantissaAndAccuracy m accuracy >>> (t - e).toNat, t) := by
  have hsum : e + ((t - e).toNat : Int) = t := by omega
  rw [shiftToTargetExponent, targetExponent_eq, ht, shiftToExponent]
  simp only [hsum]

theorem Describes.shiftTo {em : ExtendedMantissa} {q : ℚ} {e t : Int}
    (h : Describes em (q / 2 ^ e)) (het : e ≤ t) :
    Describes (em >>> (t - e).toNat) (q / 2 ^ t) := by
  have hpower : (2 : ℚ) ^ t = 2 ^ e * 2 ^ (t - e).toNat := by
    rw [← zpow_natCast, ← zpow_add₀ (by norm_num)]
    congr 1
    omega
  rw [hpower, ← div_div]
  exact h.shiftRight _

/-- A mantissa that is stored at its exponent is not shifted. -/
theorem shiftToTargetExponent_stored {m : Nat} {e : Int} (hm : m < 2 ^ 53) (hleast : -1074 ≤ e)
    (hnormal : 2 ^ 52 ≤ m ∨ e = -1074) :
    shiftToTargetExponent .binary64 m e .exact = (.ofMantissaAndAccuracy m .exact, e) := by
  have ht : max ((m.log2 : Int) + 1 + e - 53) (-1074) = e := by
    by_cases hzero : m = 0
    · have : e = -1074 := hnormal.resolve_left (by omega)
      rw [hzero, Nat.log2_zero]
      omega
    · have hlog : m.log2 < 53 := (Nat.log2_lt hzero).mpr hm
      rcases hnormal with h | h
      · have : 52 ≤ m.log2 := (Nat.le_log2 hzero).mpr h
        omega
      · omega
  rw [shiftToTargetExponent_eq ht le_rfl, Int.sub_self]
  rfl

theorem shiftToTargetExponent_power {e : Int} (he : -1074 < e) :
    shiftToTargetExponent .binary64 (2 ^ 53) (e - 1) .exact =
      (.ofMantissaAndAccuracy (2 ^ 52) .exact, e) := by
  have ht : max (((2 ^ 53 : Nat).log2 : Int) + 1 + (e - 1) - 53) (-1074) = e := by
    rw [Nat.log2_two_pow]
    omega
  have hone : (e - (e - 1)).toNat = 1 := by omega
  rw [shiftToTargetExponent, targetExponent_eq, ht, shiftToExponent, hone]
  simp
  rfl

theorem roundWithAccuracy_of_shifts {m n : Nat} {e e₁ e₂ : Int} {accuracy : Accuracy}
    {em : ExtendedMantissa} (hpos : 0 < n)
    (h : shiftToTargetExponent .binary64 m e accuracy = (em, e₁))
    (h' : shiftToTargetExponent .binary64 em.roundedMantissa e₁ .exact =
      (.ofMantissaAndAccuracy n .exact, e₂)) (s : Sign) :
    roundWithAccuracy .binary64 s m e accuracy = .finite s n e₂ hpos := by
  have hne : (ExtendedMantissa.ofMantissaAndAccuracy n .exact).mantissa ≠ 0 := Nat.ne_of_gt hpos
  rw [roundWithAccuracy]
  simp only [h, h']
  rw [dif_neg hne]
  rfl

theorem mantissa_ofMantissaAndAccuracy (m : Nat) (accuracy : Accuracy) :
    (ExtendedMantissa.ofMantissaAndAccuracy m accuracy).mantissa = m := by
  cases accuracy with
  | exact => rfl
  | inexact o => cases o <;> rfl

/-- The first of the two shifts of a rounding keeps what the mantissa describes, and it ends where
the number has 53 bits or at the least exponent. -/
theorem exists_shiftToTargetExponent {m : Nat} {e : Int} {accuracy : Accuracy} {q : ℚ}
    (hq : Describes (.ofMantissaAndAccuracy m accuracy) (q / 2 ^ e)) (he : e ≤ -1074 ∨ 2 ^ 52 ≤ m) :
    ∃ em t, shiftToTargetExponent .binary64 m e accuracy = (em, t) ∧ Describes em (q / 2 ^ t) ∧
      -1074 ≤ t ∧ q / 2 ^ t < 2 ^ (53 : Int) ∧ (t = -1074 ∨ 2 ^ (52 : Int) ≤ q / 2 ^ t) := by
  obtain ⟨hfloor, hceil⟩ := hq.bounds
  rw [mantissa_ofMantissaAndAccuracy] at hfloor hceil
  generalize ht : max ((m.log2 : Int) + 1 + e - 53) (-1074) = t
  obtain ⟨het, hhigh, hlow⟩ := window hfloor hceil he ht.symm
  exact ⟨_, t, shiftToTargetExponent_eq ht het accuracy, hq.shiftTo het, by omega, hhigh, hlow⟩

theorem roundWithAccuracy_eq {m : Nat} {e : Int} {accuracy : Accuracy} {q : ℚ} {d : Dyadic}
    (hd : d.Canonical) (hpos : 0 < d.mantissa)
    (hq : Describes (.ofMantissaAndAccuracy m accuracy) (q / 2 ^ e)) (he : e ≤ -1074 ∨ 2 ^ 52 ≤ m)
    (hnear : d.Near (q / 2 ^ d.exponent)) (s : Sign) :
    roundWithAccuracy .binary64 s m e accuracy = .finite s d.mantissa d.exponent hpos := by
  obtain ⟨em, t, hfirst, hshift, hleast, hhigh, hlow⟩ := exists_shiftToTargetExponent hq he
  rcases exponent_of_near hd hnear hleast hhigh hlow with rfl | ⟨rfl, hm, hnormal⟩
  · refine roundWithAccuracy_of_shifts hpos hfirst ?_ s
    rw [hshift.roundedMantissa_eq hnear.low hnear.high hnear.even]
    exact shiftToTargetExponent_stored hd.mantissa_lt hd.least hd.normal
  · -- One bit more is kept, and the number is rounded up to the next power of two.
    have hdouble : q / 2 ^ (d.exponent - 1) = 2 * (q / 2 ^ d.exponent) := by
      rw [zpow_sub₀ (by norm_num)]
      field_simp
    have hround : em.roundedMantissa = 2 ^ 53 := by
      have hboundary := hnear.boundary hm hnormal
      rw [hm] at hboundary
      rw [hdouble] at hshift hhigh
      refine hshift.roundedMantissa_eq ?_ ?_ fun _ => by decide
      · push_cast at hboundary ⊢
        linarith
      · push_cast
        have h53 : (2 : ℚ) ^ (53 : Int) = 2 ^ 53 := by norm_num
        linarith
    have hlast := shiftToTargetExponent_power hnormal
    rw [← hround, ← hm] at hlast
    exact roundWithAccuracy_of_shifts hpos hfirst hlast s

theorem roundedMantissa_cases (em : ExtendedMantissa) :
    em.roundedMantissa = em.mantissa ∨ em.roundedMantissa = em.mantissa + 1 := by
  obtain ⟨m, round, sticky⟩ := em
  cases round <;> cases sticky <;>
    dsimp only [ExtendedMantissa.roundedMantissa, ExtendedMantissa.accuracy,
      Accuracy.roundToNearestEven] <;> omega

/-- What is at least a power of two is not rounded below it, however large it is. -/
theorem exists_roundWithAccuracy {m : Nat} {e j : Int} {accuracy : Accuracy} {q : ℚ}
    (hq : Describes (.ofMantissaAndAccuracy m accuracy) (q / 2 ^ e)) (he : e ≤ -1074 ∨ 2 ^ 52 ≤ m)
    (hj : -1022 ≤ j) (h : 2 ^ j ≤ q) (s : Sign) :
    ∃ n t, ∃ hpos : 0 < n, roundWithAccuracy .binary64 s m e accuracy = .finite s n t hpos ∧
      (2 ^ 52 ≤ n ∧ n < 2 ^ 53) ∧ -1074 ≤ t ∧ j ≤ 52 + t := by
  obtain ⟨em, t, hfirst, hshift, hleast, hhigh, hlow⟩ := exists_shiftToTargetExponent hq he
  have hjt : j < 53 + t :=
    (zpow_lt_zpow_iff_right₀ (by norm_num)).mp (h.trans_lt ((div_zpow_lt 53).mp hhigh))
  have hfull : 2 ^ (52 : Int) ≤ q / 2 ^ t := by
    rcases hlow with rfl | hlow
    · rw [le_div_zpow]
      exact (zpow_le_zpow_right₀ (by norm_num) hj).trans h
    · exact hlow
  obtain ⟨hfloor, hceil⟩ := hshift.bounds
  have hnormal : 2 ^ 52 ≤ em.mantissa := by
    have : (2 : ℚ) ^ (52 : Int) < em.mantissa + 1 := hfull.trans_lt hceil
    have : 2 ^ 52 < em.mantissa + 1 := by exact_mod_cast this
    omega
  have hbits : em.mantissa < 2 ^ 53 := by
    have : (em.mantissa : ℚ) < 2 ^ (53 : Int) := hfloor.trans_lt hhigh
    exact_mod_cast this
  have hrounded := roundedMantissa_cases em
  by_cases hcarry : em.roundedMantissa = 2 ^ 53
  · have hlast := shiftToTargetExponent_power (show -1074 < t + 1 by omega)
    rw [add_sub_cancel_right, ← hcarry] at hlast
    exact ⟨2 ^ 52, t + 1, by norm_num, roundWithAccuracy_of_shifts _ hfirst hlast s, by norm_num,
      by omega, by omega⟩
  · have hlast := shiftToTargetExponent_stored (show em.roundedMantissa < 2 ^ 53 by omega) hleast
      (.inl (by omega))
    exact ⟨em.roundedMantissa, t, by omega, roundWithAccuracy_of_shifts _ hfirst hlast s,
      ⟨by omega, by omega⟩, hleast, by omega⟩

/-- The mantissa and the exponent at which a number is rounded, with all bits that it can have. -/
theorem exists_decreased {m : Nat} (hm : 0 < m) (e : Int) : ∃ (k : Nat) (t : Int),
    decreaseExponent m e (Format.binary64.targetExponent (totalExponent m e)) = (m * 2 ^ k, t) ∧
      t = e - k ∧ (t ≤ -1074 ∨ 2 ^ 52 ≤ m * 2 ^ k) := by
  rw [targetExponent_eq, decreaseExponent]
  refine ⟨(e - max ((m.log2 : Int) + 1 + e - 53) (-1074)).toNat, _, ?_, rfl, ?_⟩
  · rw [Nat.shiftLeft_eq]
  · by_cases hlow : e - ((e - max ((m.log2 : Int) + 1 + e - 53) (-1074)).toNat : Int) ≤ -1074
    · exact .inl hlow
    · right
      have hlog : 2 ^ m.log2 ≤ m := Nat.log2_self_le hm.ne'
      calc 2 ^ 52 ≤ 2 ^ (m.log2 + (e - max ((m.log2 : Int) + 1 + e - 53) (-1074)).toNat) :=
            Nat.pow_le_pow_right (by norm_num) (by omega)
        _ = 2 ^ m.log2 * 2 ^ (e - max ((m.log2 : Int) + 1 + e - 53) (-1074)).toNat := pow_add _ _ _
        _ ≤ m * 2 ^ (e - max ((m.log2 : Int) + 1 + e - 53) (-1074)).toNat := Nat.mul_le_mul_right _ hlog

theorem describes_decreased (m k : Nat) (e : Int) :
    Describes (.ofMantissaAndAccuracy (m * 2 ^ k) .exact) (m * 2 ^ e / 2 ^ (e - k)) := by
  have hvalue : (m * 2 ^ e / 2 ^ (e - k) : ℚ) = (m * 2 ^ k : Nat) := by
    rw [zpow_sub₀ (by norm_num), zpow_natCast]
    push_cast
    field_simp
  rw [hvalue]
  exact .exact _

theorem round_eq {m : Nat} {e : Int} {d : Dyadic} (hm : 0 < m) (hd : d.Canonical)
    (hpos : 0 < d.mantissa) (hnear : d.Near (m * 2 ^ e / 2 ^ d.exponent)) (s : Sign) :
    UnpackedFloat.round .binary64 s m e = .finite s d.mantissa d.exponent hpos := by
  obtain ⟨k, t, hdecrease, rfl, henough⟩ := exists_decreased hm e
  rw [UnpackedFloat.round, hdecrease]
  exact roundWithAccuracy_eq hd hpos (describes_decreased m k e) henough hnear s

theorem exists_round {m : Nat} {e j : Int} (hm : 0 < m) (hj : -1022 ≤ j) (h : 2 ^ j ≤ (m * 2 ^ e : ℚ))
    (s : Sign) :
    ∃ n t, ∃ hpos : 0 < n, UnpackedFloat.round .binary64 s m e = .finite s n t hpos ∧
      (2 ^ 52 ≤ n ∧ n < 2 ^ 53) ∧ -1074 ≤ t ∧ j ≤ 52 + t := by
  obtain ⟨k, t, hdecrease, rfl, henough⟩ := exists_decreased hm e
  rw [UnpackedFloat.round, hdecrease]
  exact exists_roundWithAccuracy (describes_decreased m k e) henough hj h s

end Spreadsheet.Decimal
