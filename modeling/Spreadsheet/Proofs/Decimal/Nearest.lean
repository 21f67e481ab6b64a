import Mathlib
import Spreadsheet.Decimal.Reading
import Spreadsheet.Proofs.Decimal.Rounding

namespace Spreadsheet.Decimal

open Float.Model (UnpackedFloat Format totalExponent)
open Float.Model.UnpackedFloat

theorem describes_quotient (n : Nat) {k : Nat} (hk : 0 < k) :
    Describes (.ofMantissaAndAccuracy (n / k) (accuracyOfFraction (n % k) k)) (n / k) := by
  have hkq : (0 : ℚ) < k := by exact_mod_cast hk
  have hlt : n % k < k := Nat.mod_lt n hk
  have hn : (n : ℚ) = k * (n / k : Nat) + (n % k : Nat) := by
    exact_mod_cast (Nat.div_add_mod n k).symm
  generalize n / k = a at hn ⊢
  generalize n % k = b at hn hlt ⊢
  have hvalue : (n : ℚ) / k = a + b / k := by
    rw [hn]
    field_simp
  rw [hvalue, accuracyOfFraction]
  split
  · rename_i hb
    rw [hb]
    simp [Describes, ExtendedMantissa.ofMantissaAndAccuracy]
  · rename_i hb
    have hbq : (0 : ℚ) < b := by exact_mod_cast Nat.pos_of_ne_zero hb
    have hfraction : (0 : ℚ) < b / k := by positivity
    have hone : (b : ℚ) / k < 1 := by
      rw [div_lt_one hkq]
      exact_mod_cast hlt
    cases hcompare : compare (2 * b) k with
    | lt =>
      have hb2 : (2 * b : ℚ) < k := by exact_mod_cast Nat.compare_eq_lt.mp hcompare
      have : (b : ℚ) / k < 1 / 2 := by
        rw [div_lt_div_iff₀ hkq (by norm_num)]
        linarith
      exact ⟨by dsimp only [ExtendedMantissa.ofMantissaAndAccuracy]; linarith,
        by dsimp only [ExtendedMantissa.ofMantissaAndAccuracy]; linarith⟩
    | eq =>
      have hb2 : (2 * b : ℚ) = k := by exact_mod_cast Nat.compare_eq_eq.mp hcompare
      have : (b : ℚ) / k = 1 / 2 := by
        rw [← hb2]
        field_simp
      rw [this]
      rfl
    | gt =>
      have hb2 : (k : ℚ) < 2 * b := by exact_mod_cast Nat.compare_eq_gt.mp hcompare
      have : (1 : ℚ) / 2 < b / k := by
        rw [div_lt_div_iff₀ (by norm_num) hkq]
        linarith
      exact ⟨by dsimp only [ExtendedMantissa.ofMantissaAndAccuracy]; linarith,
        by dsimp only [ExtendedMantissa.ofMantissaAndAccuracy]; linarith⟩

section Operations

variable {d : Dyadic} {m m' : Nat} {e e' : Int} (hm : 0 < m) (hm' : 0 < m')

theorem mul_eq (hd : d.Canonical) (hpos : 0 < d.mantissa) (he : e + e' ≤ -1074 ∨ 2 ^ 52 ≤ m * m')
    (hnear : d.Near (m * m' * 2 ^ (e + e') / 2 ^ d.exponent)) (s s' : Sign) :
    mul .binary64 (.finite s m e hm) (.finite s' m' e' hm') =
      .finite (s * s') d.mantissa d.exponent hpos := by
  have hexact : Describes (.ofMantissaAndAccuracy (m * m') .exact)
      (m * m' * 2 ^ (e + e') / 2 ^ (e + e')) := by
    rw [mul_div_cancel_right₀ _ (two_zpow_pos _).ne', ← Nat.cast_mul]
    exact .exact (m * m')
  exact roundWithAccuracy_eq hd hpos hexact he hnear (s * s')

include hm hm' in
/-- The exponent at which a quotient is computed leaves enough bits of it. -/
theorem enough_bits {t : Int} (ht : t = min (e - e')
      (Format.binary64.targetExponent (totalExponent m e - totalExponent m' e'))) :
    t ≤ -1074 ∨ 2 ^ 52 ≤ m * 2 ^ (e - e' - t).toNat / m' := by
  have htarget : Format.binary64.targetExponent (totalExponent m e - totalExponent m' e') =
      max ((m.log2 + 1 + e - (m'.log2 + 1 + e')) - 53) (-1074) := rfl
  rw [htarget] at ht
  by_cases hleast : t ≤ -1074
  · exact .inl hleast
  · right
    have hlow : 2 ^ m.log2 ≤ m := Nat.log2_self_le hm.ne'
    have hhigh : m' < 2 ^ (m'.log2 + 1) := Nat.lt_log2_self
    have hbits : m'.log2 + 53 ≤ m.log2 + (e - e' - t).toNat := by omega
    rw [Nat.le_div_iff_mul_le hm']
    calc 2 ^ 52 * m' ≤ 2 ^ 52 * 2 ^ (m'.log2 + 1) := Nat.mul_le_mul_left _ hhigh.le
      _ = 2 ^ (m'.log2 + 53) := by rw [← pow_add]; congr 1; omega
      _ ≤ 2 ^ (m.log2 + (e - e' - t).toNat) := Nat.pow_le_pow_right (by norm_num) hbits
      _ = 2 ^ m.log2 * 2 ^ (e - e' - t).toNat := pow_add _ _ _
      _ ≤ m * 2 ^ (e - e' - t).toNat := Nat.mul_le_mul_right _ hlow

theorem div_eq (hd : d.Canonical) (hpos : 0 < d.mantissa)
    (hnear : d.Near (m / m' * 2 ^ (e - e') / 2 ^ d.exponent)) (s s' : Sign) :
    div .binary64 (.finite s m e hm) (.finite s' m' e' hm') =
      .finite (s / s') d.mantissa d.exponent hpos := by
  rw [div]
  simp only [divCore]
  generalize ht : min (e - e')
    (Format.binary64.targetExponent (totalExponent m e - totalExponent m' e')) = t
  rw [Nat.shiftLeft_eq]
  have hte : t ≤ e - e' := by omega
  have hscale : ((m * 2 ^ (e - e' - t).toNat : Nat) : ℚ) / m' = m / m' * 2 ^ (e - e') / 2 ^ t := by
    have hpower : (2 : ℚ) ^ (e - e') = 2 ^ (e - e' - t).toNat * 2 ^ t := by
      rw [← zpow_natCast, ← zpow_add₀ (by norm_num)]
      congr 1
      omega
    rw [hpower, ← mul_assoc, mul_div_cancel_right₀ _ (two_zpow_pos t).ne']
    push_cast
    ring
  have hquotient := describes_quotient (m * 2 ^ (e - e' - t).toNat) hm'
  rw [hscale] at hquotient
  exact roundWithAccuracy_eq hd hpos hquotient (enough_bits hm hm' ht.symm) hnear (s / s')

end Operations

/-- The float is a positive number with all 53 bits. -/
def Holds (x : Float) (q : ℚ) : Prop :=
  ∃ d, dyadic? x = some d ∧ d.negative = false ∧ 2 ^ 52 ≤ d.mantissa ∧
    d.mantissa * 2 ^ d.exponent = q

theorem near_self {d : Dyadic} : d.Near d.mantissa where
  low := by linarith
  high := by linarith
  even := by
    rintro (h | h)
    · linarith
    · linarith
  boundary _ _ := by linarith

theorem exists_shift {n : Nat} (hpos : 0 < n) (hn : n < 2 ^ 53) :
    ∃ k : Nat, n.log2 + k = 52 ∧ 2 ^ 52 ≤ n * 2 ^ k ∧ n * 2 ^ k < 2 ^ 53 := by
  have hlow : 2 ^ n.log2 ≤ n := Nat.log2_self_le hpos.ne'
  have hhigh : n < 2 ^ (n.log2 + 1) := Nat.lt_log2_self
  have hlog : n.log2 < 53 := (Nat.log2_lt hpos.ne').mpr hn
  obtain ⟨k, hk⟩ : ∃ k, n.log2 + k = 52 := ⟨52 - n.log2, by omega⟩
  refine ⟨k, hk, ?_, ?_⟩
  · calc 2 ^ 52 = 2 ^ n.log2 * 2 ^ k := by rw [← pow_add, hk]
      _ ≤ n * 2 ^ k := Nat.mul_le_mul_right _ hlow
  · calc n * 2 ^ k < 2 ^ (n.log2 + 1) * 2 ^ k := Nat.mul_lt_mul_of_pos_right hhigh (by positivity)
      _ = 2 ^ 53 := by rw [← pow_add]; congr 1; omega

def Dyadic.shifted (n k : Nat) : Dyadic :=
  ⟨false, n * 2 ^ k, -k⟩

theorem value_shifted (n k : Nat) :
    ((Dyadic.shifted n k).mantissa : ℚ) * 2 ^ (Dyadic.shifted n k).exponent = n := by
  simp only [Dyadic.shifted]
  push_cast
  rw [mul_assoc, ← zpow_natCast, ← zpow_add₀ (by norm_num)]
  simp

theorem near_shifted (n k : Nat) :
    (Dyadic.shifted n k).Near (n / 2 ^ (Dyadic.shifted n k).exponent) := by
  rw [← value_shifted n k, mul_div_cancel_right₀ _ (two_zpow_pos _).ne']
  exact near_self

theorem mantissa_shifted_pos {n k : Nat} (hlow : 2 ^ 52 ≤ n * 2 ^ k) :
    0 < (Dyadic.shifted n k).mantissa :=
  Nat.lt_of_lt_of_le (by norm_num) hlow

section Shifted

variable {n k : Nat} (hk : n.log2 + k = 52) (hlow : 2 ^ 52 ≤ n * 2 ^ k) (hhigh : n * 2 ^ k < 2 ^ 53)

include hk hlow hhigh

theorem canonical_shifted : (Dyadic.shifted n k).Canonical where
  mantissa_lt := hhigh
  least := by
    simp only [Dyadic.shifted]
    omega
  greatest := by
    simp only [Dyadic.shifted]
    omega
  normal := .inl hlow

theorem ofNat_eq (hpos : 0 < n) : ofNat .binary64 n = (Dyadic.shifted n k).unpacked := by
  have hd := canonical_shifted hk hlow hhigh
  have hnormal := mantissa_shifted_pos hlow
  have hcompare : compare (n : Int) 0 = .gt := Int.compare_eq_gt.mpr (by omega)
  have hnear : (Dyadic.shifted n k).Near
      (n * 2 ^ (0 : Int) / 2 ^ (Dyadic.shifted n k).exponent) := by
    rw [zpow_zero, mul_one]
    exact near_shifted n k
  rw [ofNat, ofInt, UnpackedFloat.normalize, hcompare, Dyadic.unpacked_of_pos hnormal]
  exact round_eq hpos hd hnormal hnear .positive

theorem holds_shifted : Holds (Dyadic.shifted n k).float n :=
  ⟨_, (canonical_shifted hk hlow hhigh).dyadic?_float, rfl, hlow, value_shifted n k⟩

end Shifted

theorem holds_ofNat {n : Nat} (hpos : 0 < n) (hn : n < 2 ^ 53) : Holds n.toUInt64.toFloat n := by
  obtain ⟨k, hk, hlow, hhigh⟩ := exists_shift hpos hn
  have hword : n.toUInt64.toNat = n := by
    rw [Nat.toUInt64, UInt64.toNat_ofNat']
    exact Nat.mod_eq_of_lt (by omega)
  have hfloat : n.toUInt64.toFloat = (Dyadic.shifted n k).float := by
    have hof : ofUInt64 .binary64 n.toUInt64 = (Dyadic.shifted n k).unpacked := by
      rw [ofUInt64, hword, ofNat_eq hk hlow hhigh hpos]
    rw [UInt64.toFloat, Float.Model.ofUInt64, hof]
    rfl
  rw [hfloat]
  exact holds_shifted hk hlow hhigh

theorem dyadic?_power : ∀ e : Fin Float.exactlyRepresentablePowersOfTen.size,
    dyadic? Float.exactlyRepresentablePowersOfTen[e.val] =
      some ⟨false, 5 ^ e.val * 2 ^ (52 - (5 ^ e.val).log2), e.val - (52 - (5 ^ e.val).log2 : Nat)⟩ := by
  decide +kernel

/-- The powers of ten that fit into 53 bits up to a power of two. -/
theorem holds_power {e : Nat} (he : e < Float.exactlyRepresentablePowersOfTen.size) :
    Holds Float.exactlyRepresentablePowersOfTen[e] (10 ^ e) := by
  have hsize : e < 23 := he
  have hfive : 5 ^ e < 2 ^ 53 :=
    (Nat.pow_le_pow_right (by norm_num) (show e ≤ 22 by omega)).trans_lt (by norm_num)
  obtain ⟨k, hk, hlow, hhigh⟩ := exists_shift (show 0 < 5 ^ e by positivity) hfive
  have hdyadic := dyadic?_power ⟨e, he⟩
  have hshift : 52 - (5 ^ e).log2 = k := by omega
  simp only [hshift] at hdyadic
  refine ⟨_, hdyadic, rfl, hlow, ?_⟩
  have hvalue : (10 : ℚ) ^ e = 5 ^ e * 2 ^ e := by
    rw [← mul_pow]
    norm_num
  push_cast
  rw [hvalue, mul_assoc, ← zpow_natCast 2 k, ← zpow_add₀ (by norm_num), add_sub_cancel, zpow_natCast]

section Results

variable {d : Dyadic} {x y : Float} {p q : ℚ}

theorem Holds.exists_unpack (h : Holds x p) : ∃ m e, ∃ hm : 0 < m,
    x.toModel.unpack = .finite .positive m e hm ∧ 2 ^ 52 ≤ m ∧ m * 2 ^ e = p := by
  obtain ⟨dx, hdyadic, hsign, hlow, hvalue⟩ := h
  have hpos : 0 < dx.mantissa := by omega
  have hpositive : dx.sign = .positive := by rw [Dyadic.sign, hsign]; rfl
  refine ⟨dx.mantissa, dx.exponent, hpos, ?_, hlow, hvalue⟩
  rw [unpack_of_dyadic? hdyadic, Dyadic.unpacked_of_pos hpos, hpositive]

theorem float_of_unpacked (hpos : 0 < d.mantissa) (hsign : d.negative = false) :
    d.float = .ofModel (.pack (.finite .positive d.mantissa d.exponent hpos)) := by
  have hpositive : d.sign = .positive := by rw [Dyadic.sign, hsign]; rfl
  rw [Dyadic.float, Dyadic.unpacked_of_pos hpos, hpositive]

theorem Holds.mul_eq (hx : Holds x p) (hy : Holds y q) (hd : d.Canonical) (hpos : 0 < d.mantissa)
    (hsign : d.negative = false) (hnear : d.Near (p * q / 2 ^ d.exponent)) : x * y = d.float := by
  obtain ⟨m, e, hm, hux, hlow, rfl⟩ := hx.exists_unpack
  obtain ⟨m', e', hm', huy, -, rfl⟩ := hy.exists_unpack
  have hbits : 2 ^ 52 ≤ m * m' := hlow.trans (Nat.le_mul_of_pos_right m hm')
  have hvalue : (m * 2 ^ e * (m' * 2 ^ e') : ℚ) = m * m' * 2 ^ (e + e') := by
    rw [zpow_add₀ (by norm_num)]
    ring
  rw [hvalue] at hnear
  have hmul := Decimal.mul_eq hm hm' hd hpos (.inr hbits) hnear .positive .positive
  rw [float_of_unpacked hpos hsign]
  change Float.ofModel (.pack (mul .binary64 x.toModel.unpack y.toModel.unpack)) = _
  rw [hux, huy, hmul]
  rfl

theorem Holds.div_eq (hx : Holds x p) (hy : Holds y q) (hd : d.Canonical) (hpos : 0 < d.mantissa)
    (hsign : d.negative = false) (hnear : d.Near (p / q / 2 ^ d.exponent)) : x / y = d.float := by
  obtain ⟨m, e, hm, hux, -, rfl⟩ := hx.exists_unpack
  obtain ⟨m', e', hm', huy, -, rfl⟩ := hy.exists_unpack
  have hvalue : (m * 2 ^ e / (m' * 2 ^ e') : ℚ) = m / m' * 2 ^ (e - e') := by
    rw [zpow_sub₀ (by norm_num)]
    field_simp
  rw [hvalue] at hnear
  have hdiv := Decimal.div_eq hm hm' hd hpos hnear .positive .positive
  rw [float_of_unpacked hpos hsign]
  change Float.ofModel (.pack (div .binary64 x.toModel.unpack y.toModel.unpack)) = _
  rw [hux, huy, hdiv]
  rfl

theorem ofScientific_eq {m : Nat} {e : Int} (hm : 0 < m) (hhigh : e ≤ 2 ^ 11)
    (hlow : -(2 ^ 11 + (m.log2 : Int)) ≤ e) (hd : d.Canonical) (hpos : 0 < d.mantissa)
    (hnear : d.Near (m * 10 ^ e / 2 ^ d.exponent)) :
    ofScientific .binary64 m e = .finite .positive d.mantissa d.exponent hpos := by
  have hguard : ¬ e > 2 ^ Format.binary64.exponentBits := not_lt.mpr hhigh
  have hguard' : ¬ e < -(2 ^ Format.binary64.exponentBits + (m.log2 : Int)) := not_lt.mpr hlow
  rw [ofScientific, dif_neg hm.ne', if_neg hguard, if_neg hguard']
  split
  · rename_i he
    have hten : (10 : ℚ) ^ e = (10 ^ e.toNat : Nat) := by
      rw [Nat.cast_pow, ← zpow_natCast, Int.toNat_of_nonneg he]
      norm_num
    have hvalue : (m * 10 ^ e : ℚ) = (m <<< 53 : Nat) * (10 ^ e.toNat : Nat) * 2 ^ (-53 + 0 : Int) := by
      rw [hten, Nat.shiftLeft_eq]
      push_cast
      norm_num
      ring
    have hfactor : 0 < m <<< 53 := by
      rw [Nat.shiftLeft_eq]
      positivity
    have hpower : 0 < 10 ^ e.toNat := by positivity
    have hbits : 2 ^ 52 ≤ m <<< 53 * 10 ^ e.toNat := by
      rw [Nat.shiftLeft_eq]
      have : 2 ^ 52 ≤ m * 2 ^ 53 := by omega
      exact this.trans (Nat.le_mul_of_pos_right _ hpower)
    rw [hvalue] at hnear
    exact Decimal.mul_eq hfactor hpower hd hpos (.inr hbits) hnear .positive .positive
  · rename_i he
    have hten : (10 : ℚ) ^ e = ((10 ^ (-e).toNat : Nat) : ℚ)⁻¹ := by
      rw [Nat.cast_pow, ← zpow_natCast, ← zpow_neg, Int.toNat_of_nonneg (by omega), neg_neg]
      norm_num
    have hvalue : (m * 10 ^ e : ℚ) = m / (10 ^ (-e).toNat : Nat) * 2 ^ (0 - 0 : Int) := by
      rw [hten]
      simp [div_eq_mul_inv]
    have hpower : 0 < 10 ^ (-e).toNat := by positivity
    rw [hvalue] at hnear
    exact Decimal.div_eq hm hpower hd hpos hnear .positive .positive

/-- Both paths of the reading of a decimal round it to the fraction that it is near. -/
theorem scientific_eq {m : Nat} {e : Int} (hm : 0 < m) (hhigh : e ≤ 2 ^ 11)
    (hlow : -(2 ^ 11 + (m.log2 : Int)) ≤ e) (hd : d.Canonical) (hpos : 0 < d.mantissa)
    (hsign : d.negative = false) (hnear : d.Near (m * 10 ^ e / 2 ^ d.exponent)) :
    Float.ofScientific m (e < 0) e.natAbs = d.float := by
  rw [Float.ofScientific]
  split
  · rename_i h
    obtain ⟨hsmall, hexponent⟩ := h
    have hholds := holds_ofNat hm hsmall
    have hpower := holds_power (e := e.natAbs) (Nat.lt_succ_of_le hexponent)
    dsimp only
    by_cases he : e < 0
    · rw [if_pos (decide_eq_true he)]
      have hten : (m * 10 ^ e : ℚ) = m / 10 ^ e.natAbs := by
        have habs : e = -(e.natAbs : Int) := by omega
        rw [habs, zpow_neg, zpow_natCast, Int.natAbs_neg, Int.natAbs_natCast, div_eq_mul_inv]
      rw [hten] at hnear
      exact hholds.div_eq hpower hd hpos hsign hnear
    · rw [if_neg (by simpa using he)]
      have hten : (10 ^ e : ℚ) = 10 ^ e.natAbs := by
        have habs : e = (e.natAbs : Int) := by omega
        rw [habs, zpow_natCast, Int.natAbs_natCast]
      rw [hten] at hnear
      exact hholds.mul_eq hpower hd hpos hsign hnear
  · have hvalue : (if decide (e < 0) = true then Int.negOfNat e.natAbs else Int.ofNat e.natAbs) = e := by
      by_cases he : e < 0
      · rw [if_pos (decide_eq_true he), Int.negOfNat_eq, Int.ofNat_eq_natCast]
        omega
      · rw [if_neg (by simpa using he), Int.ofNat_eq_natCast]
        omega
    dsimp only
    rw [hvalue, float_of_unpacked hpos hsign, ← ofScientific_eq hm hhigh hlow hd hpos hnear]
    rfl

end Results

theorem lt_tenTo_digits (n : Nat) : n < 10 ^ (Nat.toDigits 10 n).length :=
  (Nat.length_toDigits_le_iff (by norm_num) Nat.length_toDigits_pos).mp le_rfl

theorem tenTo_digits_le {n : Nat} (h : 0 < n) : 10 ^ ((Nat.toDigits 10 n).length - 1) ≤ n := by
  have hpos : 0 < (Nat.toDigits 10 n).length := Nat.length_toDigits_pos
  by_cases hone : (Nat.toDigits 10 n).length = 1
  · rw [hone]
    exact h
  · by_contra hlt
    have hshort : (Nat.toDigits 10 n).length ≤ (Nat.toDigits 10 n).length - 1 :=
      (Nat.length_toDigits_le_iff (b := 10) (by norm_num) (by omega)).mpr (by omega)
    omega

section Lead

variable {d : Dyadic} {m : Nat} {e : Int}

theorem Dyadic.Canonical.near_bounds (hd : d.Canonical) (hpos : 0 < d.mantissa) {q : ℚ}
    (hnear : d.Near (q / 2 ^ d.exponent)) : 2 ^ (-1075 : Int) ≤ q ∧ q ≤ 2 ^ (1024 : Int) := by
  have hone : (1 : ℚ) ≤ d.mantissa := by exact_mod_cast hpos
  have hmantissa : (d.mantissa : ℚ) + 1 ≤ 2 ^ (53 : Int) := by exact_mod_cast hd.mantissa_lt
  constructor
  · have hlow : 2 ^ (-1 : Int) ≤ q / 2 ^ d.exponent := by
      have := hnear.low
      norm_num
      linarith
    exact (zpow_le_zpow_right₀ (by norm_num) (by have := hd.least; omega)).trans
      ((le_div_zpow (-1)).mp hlow)
  · have hhigh : q / 2 ^ d.exponent < 2 ^ (53 : Int) := by linarith [hnear.high]
    exact ((div_zpow_lt 53).mp hhigh).le.trans
      (zpow_le_zpow_right₀ (by norm_num) (by have := hd.greatest; omega))

theorem two_pow_1075_le : 2 ^ 1075 ≤ 10 ^ 400 := by
  decide +kernel

theorem two_pow_1024_lt : 2 ^ 1024 < 10 ^ 400 := by
  decide +kernel

/-- The leading exponent of a decimal between the least and the greatest float. -/
theorem lead_bounds (hm : 0 < m) (hlow : 2 ^ (-1075 : Int) ≤ (m * 10 ^ e : ℚ))
    (hhigh : (m * 10 ^ e : ℚ) ≤ 2 ^ (1024 : Int)) :
    -400 ≤ e + (Nat.toDigits 10 m).length ∧ e + (Nat.toDigits 10 m).length ≤ 400 := by
  have hten : (1 : ℚ) < 10 := by norm_num
  have hpower : (0 : ℚ) < 10 ^ e := zpow_pos (by norm_num) e
  have hlength : 0 < (Nat.toDigits 10 m).length := Nat.length_toDigits_pos
  have hupper : (m * 10 ^ e : ℚ) < 10 ^ (e + (Nat.toDigits 10 m).length) := by
    rw [add_comm, zpow_add₀ (by norm_num), zpow_natCast]
    exact mul_lt_mul_of_pos_right (by exact_mod_cast lt_tenTo_digits m) hpower
  have hlower : (10 : ℚ) ^ (e + (Nat.toDigits 10 m).length - 1) ≤ m * 10 ^ e := by
    have hsplit : e + ((Nat.toDigits 10 m).length : Int) - 1 =
        ((Nat.toDigits 10 m).length - 1 : Nat) + e := by omega
    rw [hsplit, zpow_add₀ (by norm_num), zpow_natCast]
    exact mul_le_mul_of_nonneg_right (by exact_mod_cast tenTo_digits_le hm) hpower.le
  constructor
  · have hleast : (10 : ℚ) ^ (-400 : Int) < 10 ^ (e + ((Nat.toDigits 10 m).length : Int)) := by
      refine lt_of_le_of_lt ?_ (hlow.trans_lt hupper)
      rw [zpow_neg, zpow_neg]
      exact inv_anti₀ (two_zpow_pos 1075) (by exact_mod_cast two_pow_1075_le)
    have := (zpow_lt_zpow_iff_right₀ hten).mp hleast
    omega
  · have hmost : (10 : ℚ) ^ (e + ((Nat.toDigits 10 m).length : Int) - 1) < 10 ^ (400 : Int) :=
      (hlower.trans hhigh).trans_lt (by exact_mod_cast two_pow_1024_lt)
    have := (zpow_lt_zpow_iff_right₀ hten).mp hmost
    omega

/-- A decimal near a positive fraction is read as the float of the fraction. -/
theorem nearest_eq (hd : d.Canonical) (hpos : 0 < d.mantissa) (hsign : d.negative = false)
    (hnear : d.Near (m * 10 ^ e / 2 ^ d.exponent)) : nearest m e = d.float := by
  obtain ⟨hlow, hhigh⟩ := hd.near_bounds hpos hnear
  have hm : 0 < m := by
    rw [Nat.pos_iff_ne_zero]
    rintro rfl
    have := (two_zpow_pos (-1075)).trans_le hlow
    simp at this
  obtain ⟨hleast, hmost⟩ := lead_bounds hm hlow hhigh
  have hlength : (Nat.toDigits 10 m).length ≤ m.log2 + 1 := by
    refine (Nat.length_toDigits_le_iff (b := 10) (by norm_num) (by omega)).mpr ?_
    exact Nat.lt_log2_self.trans_le (Nat.pow_le_pow_left (by norm_num) _)
  rw [nearest, if_neg (by omega), if_neg (by omega)]
  exact scientific_eq hm (by omega) (by omega) hd hpos hsign hnear

end Lead

end Spreadsheet.Decimal
