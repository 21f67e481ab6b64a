import Mathlib
import Spreadsheet.Proofs.Decimal.Nearest
import Spreadsheet.Proofs.Decimal.NearestInteger

namespace Spreadsheet.Decimal

open Float.Model (UnpackedFloat Format)
open Float.Model.UnpackedFloat

def IsWhole (x : Float) (n : ℤ) : Prop :=
  ∃ d, dyadic? x = some d ∧ d.value = n

section Values

variable {x y : Float} {p q : ℚ}

theorem IsWhole.holds {n : ℤ} (h : IsWhole x n) (hn : 0 < n) : Holds x n := by
  obtain ⟨d, hd, hvalue⟩ := h
  obtain ⟨hcanonical, -⟩ := canonical_of_dyadic? hd
  have hone : (1 : ℚ) ≤ n := by exact_mod_cast hn
  have hmagnitude : (0 : ℚ) ≤ d.mantissa * 2 ^ d.exponent :=
    mul_nonneg (Nat.cast_nonneg _) (two_zpow_pos _).le
  rw [Dyadic.value] at hvalue
  have hsign : d.negative = false := by
    by_contra hneg
    rw [Bool.not_eq_false] at hneg
    rw [hneg] at hvalue
    simp only [if_true] at hvalue
    linarith
  rw [hsign, if_neg Bool.false_ne_true, one_mul] at hvalue
  refine ⟨d, hd, hsign, hcanonical.normal.resolve_right fun hexponent => ?_, hvalue⟩
  have hmantissa : (d.mantissa : ℚ) < 2 ^ (53 : Int) := by exact_mod_cast hcanonical.mantissa_lt
  have hsmall : (d.mantissa * 2 ^ d.exponent : ℚ) < 2 ^ (53 : Int) * 2 ^ (-1074 : Int) := by
    rw [hexponent]
    exact mul_lt_mul_of_pos_right hmantissa (two_zpow_pos _)
  rw [← zpow_add₀ (by norm_num), hvalue] at hsmall
  have : (2 : ℚ) ^ (53 + -1074 : Int) ≤ 2 ^ (0 : Int) := zpow_le_zpow_right₀ (by norm_num) (by norm_num)
  rw [zpow_zero] at this
  linarith

theorem Holds.lt (hx : Holds x p) (hy : Holds y q) (h : p < q) : x < y := by
  obtain ⟨d, hd, hsign, -, rfl⟩ := hx
  obtain ⟨d', hd', hsign', -, rfl⟩ := hy
  have hvalue : d.value < d'.value := by simpa [Dyadic.value, hsign, hsign'] using h
  exact (lt_iff_value hd hd').mpr hvalue

/-- A product is exact if 53 bits are enough for it. -/
theorem Holds.mul_scaled (hx : Holds x p) (hy : Holds y q) {m : Nat} {e : Int} (hm : p * q = m * 2 ^ e)
    (hpos : 0 < m) (h : m < 2 ^ 53) (he : -1022 ≤ e ∧ e ≤ 971) : Holds (x * y) (m * 2 ^ e) := by
  obtain ⟨k, hk, hlow, hhigh⟩ := exists_shift hpos h
  have hd : (Dyadic.mk false (m * 2 ^ k) (e - k)).Canonical :=
    ⟨hhigh, by dsimp only; omega, by dsimp only; omega, .inl hlow⟩
  have hvalue : ((m * 2 ^ k : Nat) * 2 ^ (e - k) : ℚ) = m * 2 ^ e := by
    push_cast
    rw [mul_assoc, ← zpow_natCast, ← zpow_add₀ (by norm_num), add_sub_cancel]
  have hnear : (Dyadic.mk false (m * 2 ^ k) (e - k)).Near (p * q / 2 ^ (e - k)) := by
    rw [hm, ← hvalue, mul_div_cancel_right₀ _ (two_zpow_pos _).ne']
    exact near_self
  rw [hx.mul_eq hy hd (by dsimp only; omega) rfl hnear]
  exact ⟨_, hd.dyadic?_float, rfl, hlow, hvalue⟩

theorem Holds.mul_whole (hx : Holds x p) (hy : Holds y q) {n : Nat} (hn : p * q = n) (hpos : 0 < n)
    (h : n < 2 ^ 53) : Holds (x * y) n := by
  rw [← mul_one (n : ℚ), ← zpow_zero (2 : ℚ)] at hn ⊢
  exact hx.mul_scaled hy hn hpos h (by norm_num)

/-- The exact difference of two numbers is rounded. -/
theorem sub_eq_round {m m' : Nat} {e e' : Int} (hm : 0 < m) (hm' : 0 < m')
    (h : (m' * 2 ^ e' : ℚ) < m * 2 ^ e) : ∃ (n : Nat) (t : Int), 0 < n ∧
      (n * 2 ^ t : ℚ) = m * 2 ^ e - m' * 2 ^ e' ∧
        sub .binary64 (.finite .positive m e hm) (.finite .positive m' e' hm') =
          UnpackedFloat.round .binary64 .positive n t := by
  generalize ht : min e e' = t
  have hscale : ∀ (k : Nat) (u : Int), t ≤ u → ((k * 2 ^ (u - t).toNat : Nat) * 2 ^ t : ℚ) = k * 2 ^ u := by
    intro k u hu
    push_cast
    rw [mul_assoc, ← zpow_natCast, ← zpow_add₀ (by norm_num)]
    congr 2
    omega
  have hleft := hscale m e (by omega)
  have hright := hscale m' e' (by omega)
  generalize hn : m * 2 ^ (e - t).toNat = n at hleft
  generalize hn' : m' * 2 ^ (e' - t).toNat = n' at hright
  have hlt : n' < n := by
    rw [← hleft, ← hright] at h
    exact_mod_cast (mul_lt_mul_iff_left₀ (two_zpow_pos t)).mp h
  refine ⟨n - n', t, by omega, ?_, ?_⟩
  · rw [Nat.cast_sub hlt.le, sub_mul, hleft, hright]
  · have hcompare : compare ((n : Int) - n') 0 = .gt := Int.compare_eq_gt.mpr (by omega)
    have hnat : ((n : Int) - n').toNat = n - n' := by omega
    simp only [sub, decreaseExponent, ht, Nat.shiftLeft_eq, hn, hn', Sign.apply]
    rw [UnpackedFloat.normalize, hcompare]
    simp only [hnat]

theorem Holds.sub_eq_round (hx : Holds x p) (hy : Holds y q) (h : q < p) : ∃ (n : Nat) (t : Int),
    0 < n ∧ (n * 2 ^ t : ℚ) = p - q ∧
      x - y = .ofModel (.pack (UnpackedFloat.round .binary64 .positive n t)) := by
  obtain ⟨m, e, hm, hux, -, rfl⟩ := hx.exists_unpack
  obtain ⟨m', e', hm', huy, -, rfl⟩ := hy.exists_unpack
  obtain ⟨n, t, hn, hvalue, hsub⟩ := Decimal.sub_eq_round hm hm' h
  refine ⟨n, t, hn, hvalue, ?_⟩
  change Float.ofModel (.pack (sub .binary64 x.toModel.unpack y.toModel.unpack)) = _
  rw [hux, huy, hsub]

theorem Holds.sub_whole (hx : Holds x p) (hy : Holds y q) {n : Nat} (hn : p - q = n) (hpos : 0 < n)
    (h : n < 2 ^ 53) : Holds (x - y) n := by
  have hlt : q < p := by
    have : (0 : ℚ) < n := by exact_mod_cast hpos
    linarith
  obtain ⟨k, hk, hlow, hhigh⟩ := exists_shift hpos h
  obtain ⟨m, e, hm, hvalue, hsub⟩ := hx.sub_eq_round hy hlt
  have hmantissa := mantissa_shifted_pos hlow
  have hnear := near_shifted n k
  rw [← hn, ← hvalue] at hnear
  rw [hsub, round_eq hm (canonical_shifted hk hlow hhigh) hmantissa hnear,
    ← float_of_unpacked hmantissa rfl]
  exact holds_shifted hk hlow hhigh

inductive Large (j : Int) (x : Float) : Prop where
  | infinite (h : x.toModel.unpack = .infinity .positive)
  | finite {q : ℚ} (h : Holds x q) (hq : 2 ^ j ≤ q)

theorem unpack_infinity : (Float.ofModel (.pack (.infinity .positive))).toModel.unpack =
    .infinity .positive := by
  rfl

theorem Holds.sub_infinity (hx : x.toModel.unpack = .infinity .positive) (hy : Holds y q) :
    (x - y).toModel.unpack = .infinity .positive := by
  obtain ⟨m, e, hm, huy, -, -⟩ := hy.exists_unpack
  change (Float.ofModel (.pack (sub .binary64 x.toModel.unpack y.toModel.unpack))).toModel.unpack = _
  rw [hx, huy]
  exact unpack_infinity

theorem Holds.mul_infinity (hx : x.toModel.unpack = .infinity .positive) (hy : Holds y q) :
    (x * y).toModel.unpack = .infinity .positive := by
  obtain ⟨m, e, hm, huy, -, -⟩ := hy.exists_unpack
  change (Float.ofModel (.pack (UnpackedFloat.mul .binary64 x.toModel.unpack
    y.toModel.unpack))).toModel.unpack = _
  rw [hx, huy]
  exact unpack_infinity

theorem large_packed {n : Nat} {t j : Int} (hpos : 0 < n) (hn : 2 ^ 52 ≤ n ∧ n < 2 ^ 53)
    (ht : -1074 ≤ t) (hj : j ≤ 52 + t) :
    Large j (.ofModel (.pack (.finite .positive n t hpos))) := by
  by_cases hmost : t ≤ 971
  · have hd : (Dyadic.mk false n t).Canonical := ⟨hn.2, ht, hmost, .inl hn.1⟩
    have hfloat := float_of_unpacked (d := ⟨false, n, t⟩) hpos rfl
    rw [← hfloat]
    refine .finite ⟨_, hd.dyadic?_float, rfl, hn.1, rfl⟩ ?_
    calc (2 : ℚ) ^ j ≤ 2 ^ (52 + t) := zpow_le_zpow_right₀ (by norm_num) hj
      _ = 2 ^ (52 : Int) * 2 ^ t := zpow_add₀ (by norm_num) _ _
      _ ≤ n * 2 ^ t := mul_le_mul_of_nonneg_right (by exact_mod_cast hn.1) (two_zpow_pos t).le
  · have hbias : ((Format.binary64.exponentBias : Nat) : Int) = 1023 := rfl
    have hoverflow : 2 ^ Format.binary64.exponentBits ≤ (t + Format.binary64.exponentBias +
        Format.binary64.mantissaBitsWithoutImplicit).toNat + 1 := by
      dsimp only [Format.binary64] at hbias ⊢
      omega
    have hpack : pack .binary64 (.finite .positive n t hpos) = pack .binary64 (.infinity .positive) := by
      rw [pack, pack]
      simp only [if_pos hoverflow]
    have hfloat : Float.Model.pack (.finite .positive n t hpos) = .pack (.infinity .positive) := by
      simp only [Float.Model.pack, hpack]
    rw [hfloat]
    exact .infinite unpack_infinity

theorem Holds.large_sub (hx : Holds x p) (hy : Holds y q) {j : Int} (hj : -1022 ≤ j)
    (h : 2 ^ j ≤ p - q) : Large j (x - y) := by
  have hlt : q < p := by linarith [two_zpow_pos j]
  obtain ⟨m, e, hm, hvalue, hsub⟩ := hx.sub_eq_round hy hlt
  rw [← hvalue] at h
  obtain ⟨n, t, hn, hround, hbits, hleast, hlarge⟩ := exists_round hm hj h .positive
  rw [hsub, hround]
  exact large_packed hn hbits hleast hlarge

theorem Holds.large_mul (hx : Holds x p) (hy : Holds y q) {j : Int} (hj : -1022 ≤ j)
    (h : 2 ^ j ≤ p * q) : Large j (x * y) := by
  obtain ⟨m, e, hm, hux, hlow, rfl⟩ := hx.exists_unpack
  obtain ⟨m', e', hm', huy, -, rfl⟩ := hy.exists_unpack
  have hbits : 2 ^ 52 ≤ m * m' := hlow.trans (Nat.le_mul_of_pos_right m hm')
  have hexact : Describes (.ofMantissaAndAccuracy (m * m') .exact)
      (m * 2 ^ e * (m' * 2 ^ e') / 2 ^ (e + e')) := by
    have hvalue : (m * 2 ^ e * (m' * 2 ^ e') / 2 ^ (e + e') : ℚ) = (m * m' : Nat) := by
      rw [zpow_add₀ (by norm_num)]
      push_cast
      field_simp
    rw [hvalue]
    exact .exact _
  obtain ⟨n, t, hn, hround, hfull, hleast, hlarge⟩ :=
    exists_roundWithAccuracy hexact (.inr hbits) hj h .positive
  change Large j (.ofModel (.pack (UnpackedFloat.mul .binary64 x.toModel.unpack y.toModel.unpack)))
  rw [hux, huy]
  change Large j (.ofModel (.pack (roundWithAccuracy .binary64 .positive (m * m') (e + e') .exact)))
  rw [hround]
  exact large_packed hn hfull hleast hlarge

theorem Large.mul {i j : Int} (hx : Large i x) (hy : Holds y q) (hj : -1022 ≤ j)
    (h : 2 ^ j ≤ 2 ^ i * q) : Large j (x * y) := by
  cases hx with
  | infinite hux => exact .infinite (hy.mul_infinity hux)
  | finite hx hp =>
    obtain ⟨m, e, hm, -, -, hvalue⟩ := hy.exists_unpack
    have hq : 0 ≤ q := by
      rw [← hvalue]
      exact mul_nonneg (Nat.cast_nonneg _) (two_zpow_pos _).le
    exact hx.large_mul hy hj (h.trans (mul_le_mul_of_nonneg_right hp hq))

section

variable {d : Dyadic} {n : Nat}

theorem Holds.round_eq (hx : Holds x n) (hd : dyadic? x = some d) : d.round = n := by
  obtain ⟨d', hd', hsign, -, hvalue⟩ := hx
  obtain rfl := Option.some.inj (hd.symm.trans hd')
  rw [Dyadic.round_eq_nearestInteger, Dyadic.value_of_negative_eq_false hsign, hvalue,
    nearestInteger_natCast]

theorem Large.le_round {j : Nat} (hx : Large j x) (hd : dyadic? x = some d) : 2 ^ j ≤ d.round := by
  cases hx with
  | infinite hux =>
    have hfinite : isFinite x = true := by rw [isFinite, hd]; rfl
    rw [isFinite_eq, hux] at hfinite
    cases hfinite
  | finite hx hq =>
    obtain ⟨d', hd', hsign, -, rfl⟩ := hx
    obtain rfl := Option.some.inj (hd.symm.trans hd')
    have hround : ((2 ^ j : Nat) : Int) ≤ nearestInteger (d.mantissa * 2 ^ d.exponent) :=
      le_nearestInteger (by exact_mod_cast hq)
    rw [Dyadic.round_eq_nearestInteger, Dyadic.value_of_negative_eq_false hsign]
    exact_mod_cast hround

end

end Values

theorem holds_natural {n : Nat} (hpos : 0 < n) (h : n < 2 ^ 53) : Holds (Float.ofNat n) n := by
  obtain ⟨k, hk, hlow, hhigh⟩ := exists_shift hpos h
  have hmantissa := mantissa_shifted_pos hlow
  have hnear := near_shifted n k
  rw [← mul_one (n : ℚ), ← zpow_zero (10 : ℚ)] at hnear
  have hfloat := scientific_eq hpos (by norm_num) (by omega) (canonical_shifted hk hlow hhigh)
    hmantissa rfl hnear
  have hnatural : Float.ofNat n = (Dyadic.shifted n k).float := hfloat
  rw [hnatural]
  exact holds_shifted hk hlow hhigh

theorem holds_numeral (n : Nat) [n.AtLeastTwo] (h : n < 2 ^ 53) :
    Holds (OfNat.ofNat n) (OfNat.ofNat n) := by
  have hn := holds_natural (NeZero.pos n) h
  rwa [← Nat.cast_ofNat (R := ℚ)]

theorem isWhole_natural {n : Nat} (h : n < 2 ^ 53) : IsWhole (Float.ofNat n) n := by
  rcases Nat.eq_zero_or_pos n with rfl | hpos
  · exact ⟨⟨false, 0, -1074⟩, by decide +kernel, by simp [Dyadic.value]⟩
  · obtain ⟨d, hd, hsign, -, hvalue⟩ := holds_natural hpos h
    exact ⟨d, hd, by simp [Dyadic.value, hsign, hvalue]⟩

end Spreadsheet.Decimal
