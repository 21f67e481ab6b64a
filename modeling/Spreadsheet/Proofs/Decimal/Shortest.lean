import Mathlib
import Spreadsheet.Decimal.Shortest
import Spreadsheet.Proofs.Decimal.Nearest

namespace Spreadsheet.Decimal

def Digits.value (d : Digits) : ℚ :=
  d.digits * 10 ^ d.exponent

theorem ten_zpow_pos (k : Int) : (0 : ℚ) < 10 ^ k :=
  zpow_pos (by norm_num) k

theorem zpow_mul_toNat {b : ℚ} (hb : b ≠ 0) (k : Int) : b ^ k * b ^ (-k).toNat = b ^ k.toNat := by
  rw [← zpow_natCast, ← zpow_natCast, ← zpow_add₀ hb]
  congr 1
  omega

namespace Interval

variable {i : Interval} {k lead : Int}

/-- What a number is multiplied by to compare it in natural numbers. -/
def factor (i : Interval) (k : Int) : ℚ :=
  2 ^ (-i.exponent).toNat * 10 ^ (-k).toNat

theorem factor_pos (i : Interval) (k : Int) : 0 < i.factor k := by
  rw [factor]
  positivity

theorem scaled_eq (i : Interval) (k : Int) (n : Nat) :
    ((n * twoTo i.exponent.toNat * tenTo (-k).toNat : Nat) : ℚ) =
      n * 2 ^ i.exponent * i.factor k := by
  have htwo := zpow_mul_toNat (two_ne_zero' ℚ) i.exponent
  rw [factor, twoTo_eq, tenTo_eq]
  push_cast
  rw [← htwo]
  ring

theorem step_eq (i : Interval) (k : Int) : ((i.scale k).step : ℚ) = 10 ^ k * i.factor k := by
  have hten := zpow_mul_toNat (by norm_num : (10 : ℚ) ≠ 0) k
  simp only [scale, factor, twoTo_eq, tenTo_eq]
  push_cast
  rw [← hten]
  ring

theorem step_pos (i : Interval) (k : Int) : 0 < (i.scale k).step := by
  have h : (0 : ℚ) < (i.scale k).step := by
    rw [step_eq]
    exact mul_pos (ten_zpow_pos k) (i.factor_pos k)
  exact_mod_cast h

theorem point_eq (i : Interval) (k : Int) (n : Nat) :
    ((n * (i.scale k).step : Nat) : ℚ) = n * 10 ^ k * i.factor k := by
  rw [Nat.cast_mul, step_eq]
  ring

theorem Contains.of_lt {q : ℚ} (hlow : i.low * 2 ^ i.exponent < q)
    (hhigh : q < i.high * 2 ^ i.exponent) : i.Contains q where
  low := hlow.le
  high := hhigh.le
  ends := by
    rintro (h | h)
    · exact absurd h hlow.ne
    · exact absurd h hhigh.ne

theorem holds_iff (n : Nat) : (i.scale k).holds i.closed n = true ↔ i.Contains (n * 10 ^ k) := by
  have hf := i.factor_pos k
  have hlow : (i.scale k).low ≤ n * (i.scale k).step ↔ i.low * 2 ^ i.exponent ≤ n * (10 : ℚ) ^ k := by
    rw [← mul_le_mul_iff_of_pos_right hf, ← point_eq, ← scaled_eq]
    exact Nat.cast_le.symm
  have hhigh : n * (i.scale k).step ≤ (i.scale k).high ↔
      n * (10 : ℚ) ^ k ≤ i.high * 2 ^ i.exponent := by
    rw [← mul_le_mul_iff_of_pos_right hf, ← point_eq, ← scaled_eq]
    exact Nat.cast_le.symm
  have hlow' : (i.scale k).low < n * (i.scale k).step ↔ i.low * 2 ^ i.exponent < n * (10 : ℚ) ^ k := by
    rw [← mul_lt_mul_iff_of_pos_right hf, ← point_eq, ← scaled_eq]
    exact Nat.cast_lt.symm
  have hhigh' : n * (i.scale k).step < (i.scale k).high ↔
      n * (10 : ℚ) ^ k < i.high * 2 ^ i.exponent := by
    rw [← mul_lt_mul_iff_of_pos_right hf, ← point_eq, ← scaled_eq]
    exact Nat.cast_lt.symm
  rw [Scaled.holds]
  split
  · rename_i hclosed
    rw [Bool.and_eq_true, decide_eq_true_iff, decide_eq_true_iff, hlow, hhigh]
    exact ⟨fun h => ⟨h.1, h.2, fun _ => hclosed⟩, fun h => ⟨h.low, h.high⟩⟩
  · rename_i hopen
    rw [Bool.and_eq_true, decide_eq_true_iff, decide_eq_true_iff, hlow', hhigh']
    constructor
    · rintro ⟨hl, hh⟩
      exact .of_lt hl hh
    · intro h
      exact ⟨h.low.lt_of_ne fun he => hopen (h.ends (.inl he)),
        h.high.lt_of_ne fun he => hopen (h.ends (.inr he))⟩

theorem nearest?_contains {n : Nat} (h : (i.scale k).nearest? i.closed = some n) :
    i.Contains (n * 10 ^ k) := by
  rw [← holds_iff]
  rw [Scaled.nearest?] at h
  split at h
  · rename_i hbelow habove
    split at h
    · obtain rfl := Option.some.inj h
      exact hbelow
    · obtain rfl := Option.some.inj h
      exact habove
  · rename_i hbelow _
    obtain rfl := Option.some.inj h
    exact hbelow
  · rename_i _ habove
    obtain rfl := Option.some.inj h
    exact habove
  · cases h

theorem search_contains {fuel count : Nat} {d : Digits} (h : i.search lead fuel count = some d) :
    i.Contains d.value := by
  induction fuel generalizing count with
  | zero => cases h
  | succ fuel ih =>
    rw [search] at h
    split at h
    · rename_i n hn
      obtain rfl := Option.some.inj h
      exact nearest?_contains hn
    · exact ih h

theorem search_isSome {fuel count c : Nat} (hle : count ≤ c) (hlt : c < count + fuel)
    (h : ((i.scale (lead - c)).nearest? i.closed).isSome) : (i.search lead fuel count).isSome := by
  induction fuel generalizing count with
  | zero => omega
  | succ fuel ih =>
    rw [search]
    split
    · rfl
    · rename_i hnone
      rcases eq_or_lt_of_le hle with rfl | hlt'
      · rw [hnone] at h
        cases h
      · exact ih hlt' (by omega)

/-- The point of the grid below the value is less than one step away from it. -/
theorem exists_rest (i : Interval) (k : Int) :
    ∃ t : ℚ, 0 ≤ t ∧ t < 10 ^ k ∧
      i.value * 2 ^ i.exponent = ((i.scale k).value / (i.scale k).step : Nat) * 10 ^ k + t := by
  have hf := i.factor_pos k
  have hrest := Nat.mod_lt (i.scale k).value (i.step_pos k)
  have hdivision := Nat.div_add_mod (i.scale k).value (i.scale k).step
  generalize (i.scale k).value / (i.scale k).step = n at hdivision ⊢
  generalize (i.scale k).value % (i.scale k).step = r at hdivision hrest
  obtain ⟨t, ht⟩ : ∃ t : ℚ, (r : ℚ) = t * i.factor k := ⟨r / i.factor k, by field_simp⟩
  refine ⟨t, ?_, ?_, ?_⟩
  · have h0 : (0 : ℚ) ≤ t * i.factor k := ht ▸ r.cast_nonneg
    exact nonneg_of_mul_nonneg_left h0 hf
  · have hlt : (r : ℚ) < (i.scale k).step := by exact_mod_cast hrest
    rw [step_eq, ht] at hlt
    exact lt_of_mul_lt_mul_right hlt hf.le
  · have hcast : ((i.scale k).value : ℚ) = (n * (i.scale k).step : Nat) + r := by
      rw [← hdivision]
      push_cast
      ring
    have hscaled : ((i.scale k).value : ℚ) = i.value * 2 ^ i.exponent * i.factor k := scaled_eq i k _
    rw [hscaled, point_eq, ht, ← add_mul] at hcast
    exact mul_right_cancel₀ hf.ne' hcast

theorem nearest?_isSome_of_contains {n : Nat} (hn : (i.scale k).value / (i.scale k).step = n)
    (h : i.Contains (n * 10 ^ k) ∨ i.Contains ((n + 1 : Nat) * 10 ^ k)) :
    ((i.scale k).nearest? i.closed).isSome := by
  rw [← holds_iff, ← holds_iff] at h
  rw [Scaled.nearest?]
  simp only [hn]
  split
  · split <;> rfl
  · rfl
  · rfl
  · rename_i hbelow habove
    rcases h with h | h
    · exact absurd (h.symm.trans hbelow) (by decide)
    · exact absurd (h.symm.trans habove) (by decide)

/-- One of the two neighbours of the value on a grid is in the interval when the step is less than
twice the distance to each end, or less than the distance to the upper end. -/
theorem nearest?_isSome {u : ℚ} (hu : u = 2 ^ i.exponent)
    (h : 10 ^ k < 2 * ((i.value - i.low) * u) ∧ 10 ^ k < 2 * ((i.high - i.value) * u) ∨
      10 ^ k < (i.high - i.value) * u ∧ i.low * u ≤ i.value * u) :
    ((i.scale k).nearest? i.closed).isSome := by
  obtain ⟨t, ht0, htk, hvalue⟩ := i.exists_rest k
  generalize hn : (i.scale k).value / (i.scale k).step = n at hvalue
  rw [← hu] at hvalue
  apply nearest?_isSome_of_contains hn
  by_cases hnear : i.low * u < n * 10 ^ k ∧ n * 10 ^ k < i.high * u
  · rw [hu] at hnear
    exact .inl (.of_lt hnear.1 hnear.2)
  · right
    have habove : i.low * u < (n + 1) * 10 ^ k ∧ (n + 1) * 10 ^ k < i.high * u := by
      rcases h with ⟨hl, hh⟩ | ⟨hh, hl⟩
      · have : n * 10 ^ k < i.high * u := by linarith
        have : n * 10 ^ k ≤ i.low * u := not_lt.mp fun hlt => hnear ⟨hlt, this⟩
        constructor <;> linarith
      · constructor <;> linarith
    rw [hu] at habove
    push_cast
    exact .of_lt habove.1 habove.2

end Interval

theorem leadingExponent_le {a b : Nat} (ha : 0 < a) :
    (b : ℚ) * 10 ^ leadingExponent a b ≤ a := by
  have hten : (10 : ℚ) ≠ 0 := by norm_num
  rw [leadingExponent]
  generalize hguess : (digitCount a : Int) - digitCount b = guess
  by_cases hle : b * tenTo guess.toNat ≤ a * tenTo (-guess).toNat
  · rw [if_pos hle]
    rw [tenTo_eq, tenTo_eq] at hle
    have hfactor : (0 : ℚ) < 10 ^ (-guess).toNat := by positivity
    have hcast : (b : ℚ) * 10 ^ guess.toNat ≤ a * 10 ^ (-guess).toNat := by exact_mod_cast hle
    rw [← zpow_mul_toNat hten, ← mul_assoc] at hcast
    exact le_of_mul_le_mul_right hcast hfactor
  · rw [if_neg hle]
    have hb : (b : ℚ) < 10 ^ digitCount b := by exact_mod_cast lt_tenTo_digits b
    have hlow : (10 : ℚ) ^ (digitCount a - 1) ≤ a := by exact_mod_cast tenTo_digits_le ha
    have hlength : 0 < digitCount a := Nat.length_toDigits_pos
    calc (b : ℚ) * 10 ^ (guess - 1) ≤ 10 ^ digitCount b * 10 ^ (guess - 1) :=
          mul_le_mul_of_nonneg_right hb.le (ten_zpow_pos _).le
      _ = 10 ^ (digitCount a - 1) := by
          rw [← zpow_natCast, ← zpow_natCast, ← zpow_add₀ hten]
          congr 1
          omega
      _ ≤ a := hlow

theorem Interval.leadingExponent_le {i : Interval} (hpos : 0 < i.value) :
    (10 : ℚ) ^ leadingExponent (i.scale 0).value (i.scale 0).step ≤ i.value * 2 ^ i.exponent := by
  have hscaled : ((i.scale 0).value : ℚ) = i.value * 2 ^ i.exponent * i.factor 0 := i.scaled_eq 0 _
  have hvalue : 0 < (i.scale 0).value := by
    have h : (0 : ℚ) < (i.scale 0).value := by
      rw [hscaled]
      exact mul_pos (mul_pos (by exact_mod_cast hpos) (two_zpow_pos _)) (i.factor_pos 0)
    exact_mod_cast h
  have h := Decimal.leadingExponent_le (b := (i.scale 0).step) hvalue
  rw [hscaled, step_eq, zpow_zero, one_mul, mul_comm] at h
  exact le_of_mul_le_mul_right h (i.factor_pos 0)

theorem Digits.strip_value (fuel : Nat) (d : Digits) : (d.strip fuel).value = d.value := by
  induction fuel generalizing d with
  | zero => rfl
  | succ fuel ih =>
    rw [strip]
    split
    · rename_i hzero
      rw [ih]
      have hdigits : (d.digits : ℚ) = (d.digits / 10 : Nat) * 10 := by
        have : d.digits = d.digits / 10 * 10 := by omega
        exact_mod_cast this
      rw [value, value, hdigits, zpow_add₀ (by norm_num), zpow_one]
      ring
    · rfl

section Shortest

variable {d : Dyadic} (hd : d.Canonical) (hpos : 0 < d.mantissa)

include hd hpos

/-- The grid of seventeen digits has a point in the rounding interval. -/
theorem seventeen_digits {lead : Int}
    (hlead : (10 : ℚ) ^ lead ≤ (Interval.around d).value * 2 ^ (Interval.around d).exponent) :
    (((Interval.around d).scale (lead - (16 : Nat))).nearest? (Interval.around d).closed).isSome := by
  have hu := two_zpow_pos (Interval.around d).exponent
  generalize hunit : (2 : ℚ) ^ (Interval.around d).exponent = u at hlead hu
  have hstep : (10 : ℚ) ^ (lead - (16 : Nat)) * 10 ^ 16 ≤ 4 * d.mantissa * u := by
    rw [zpow_sub₀ (by norm_num), zpow_natCast, div_mul_cancel₀ _ (by norm_num)]
    simpa [Interval.around] using hlead
  have hvalue : ((Interval.around d).value : ℚ) = 4 * d.mantissa := by simp [Interval.around]
  have hhigh : ((Interval.around d).high : ℚ) = 4 * d.mantissa + 2 := by simp [Interval.around]
  obtain ⟨hlow, hboundary⟩ := Interval.low_around hpos
  have hmantissa : (d.mantissa : ℚ) * u ≤ 2 ^ 53 * u :=
    mul_le_mul_of_nonneg_right (by exact_mod_cast hd.mantissa_lt.le) hu.le
  refine Interval.nearest?_isSome hunit.symm ?_
  rw [hvalue, hhigh]
  by_cases hpower : d.mantissa = 2 ^ 52 ∧ -1074 < d.exponent
  · -- Below a power of two the lower end is near, so only the upper neighbour is sure to fit.
    right
    rw [hboundary hpower.1 hpower.2]
    rw [hpower.1] at hstep ⊢
    push_cast at hstep ⊢
    constructor <;> linarith
  · left
    have hbelow : ((Interval.around d).low : ℚ) = 4 * d.mantissa - 2 := by
      have hnat : (Interval.around d).low = 4 * d.mantissa - 2 := if_neg hpower
      rw [hnat, Nat.cast_sub (by omega)]
      push_cast
      ring
    rw [hbelow]
    constructor <;> linarith

theorem shortest_contains : (Interval.around d).Contains (shortest d).value := by
  have hvalue : 0 < (Interval.around d).value := by
    simp only [Interval.around]
    omega
  have hgrid := seventeen_digits hd hpos (Interval.leadingExponent_le hvalue)
  have hfound : ((Interval.around d).search _ 17 0).isSome :=
    Interval.search_isSome (by omega) (by omega) hgrid
  obtain ⟨digits, hdigits⟩ := Option.isSome_iff_exists.mp hfound
  rw [shortest]
  simp only [hdigits]
  rw [Digits.strip_value]
  exact Interval.search_contains hdigits

/-- However the shortest decimal is written, with the sign of the fraction it is read as the
float. -/
theorem nearest_of_eq_shortest {m : Nat} {e : Int} (h : (m * 10 ^ e : ℚ) = (shortest d).value) :
    (if d.negative then -nearest m e else nearest m e) = d.float := by
  obtain ⟨negative, mantissa, exponent⟩ := d
  have hcanonical : (Dyadic.mk false mantissa exponent).Canonical :=
    ⟨hd.mantissa_lt, hd.least, hd.greatest, hd.normal⟩
  have hnear := (shortest_contains hcanonical hpos).near hpos
  have hvalue : (m * 10 ^ e : ℚ) = (shortest ⟨false, mantissa, exponent⟩).value := h
  rw [← hvalue] at hnear
  rw [nearest_eq hcanonical hpos rfl hnear]
  cases negative with
  | false => rfl
  | true => exact hcanonical.neg_float hpos

end Shortest

end Spreadsheet.Decimal
