import Mathlib
import Spreadsheet.Proofs.Column.Grouping
import Spreadsheet.Proofs.Decimal.Absolute

namespace Spreadsheet

open Spreadsheet.Text
open Spreadsheet.Decimal (Holds Large IsWhole dyadic? roundWithin holds_numeral)

/-- The text of a whole amount: a sign if it is negative, its digits in groups, and no cents. -/
def IsWholeAmount (n : ℤ) (cs : List Char) : Prop :=
  ∃ gs, IsGrouped (natural n.natAbs) gs ∧ cs = signText (n < 0) ++ (gs ++ ['.', '0', '0'])

/-- The hundredths fit into a word, and 53 bits and a power of two are enough for them. -/
def HasExactHundredths (n : ℤ) : Prop :=
  100 * n.natAbs < 2 ^ 64 ∧ ∃ m e : Nat, m < 2 ^ 53 ∧ 100 * n.natAbs = m * 2 ^ e

def hundredths (x : Float) : Nat :=
  (roundWithin 0 (twoTo 64 - 1) (x.abs * 100)).toNat

theorem currencyText_eq (x : Float) :
    currencyText x = String.ofList (amountText (x < 0 && 0 < hundredths x) (hundredths x)) :=
  rfl

section Hundredths

variable {x : Float} {n : ℤ}

theorem hundredths_of_finite {d : Decimal.Dyadic} (hd : dyadic? (x.abs * 100) = some d) :
    hundredths x = (max 0 (min 18446744073709551615 d.round)).toNat := by
  rw [hundredths, roundWithin, hd]
  rfl

theorem hundredths_of_infinite (hd : dyadic? (x.abs * 100) = none) :
    hundredths x = if 0 < x.abs * 100 then 18446744073709551615 else 0 := by
  rw [hundredths, roundWithin, hd]
  dsimp only
  split
  · rfl
  · simp

theorem dyadic?_of_zero (hx : IsWhole x 0) : dyadic? x.abs = some ⟨false, 0, -1074⟩ := by
  obtain ⟨⟨negative, m, e⟩, hd, hvalue⟩ := hx
  obtain ⟨hcanonical, -⟩ := Decimal.canonical_of_dyadic? hd
  have hscale := Decimal.two_zpow_pos e
  have hm : m = 0 := by
    rw [Decimal.Dyadic.value] at hvalue
    cases negative <;> simpa [hscale.ne'] using hvalue
  subst hm
  have he : e = -1074 := hcanonical.normal.resolve_left (by simp)
  subst he
  exact Decimal.dyadic?_abs hd

theorem hundredths_zero (hx : IsWhole x 0) : hundredths x = 0 := by
  rw [hundredths, ← Decimal.float_of_dyadic? (dyadic?_of_zero hx)]
  decide +kernel

theorem holds_abs (hx : IsWhole x n) (hn : n ≠ 0) : Holds x.abs n.natAbs := by
  have habs := hx.abs.holds (abs_pos.mpr hn)
  rwa [Int.abs_eq_natAbs, Int.cast_natCast] at habs

theorem hundredths_of_exact (hx : IsWhole x n) (h : HasExactHundredths n) :
    hundredths x = 100 * n.natAbs := by
  obtain rfl | hn := eq_or_ne n 0
  · exact hundredths_zero hx
  · obtain ⟨hword, m, e, hm, heq⟩ := h
    have hpos : 0 < 100 * n.natAbs := by omega
    have hm' : 0 < m := Nat.pos_of_mul_pos_right (heq ▸ hpos)
    have he : e < 64 := by
      have hpower : 2 ^ e ≤ m * 2 ^ e := Nat.le_mul_of_pos_left _ hm'
      exact (Nat.pow_lt_pow_iff_right (by norm_num)).mp (hpower.trans_lt (heq ▸ hword))
    have hproduct : (n.natAbs * 100 : ℚ) = m * 2 ^ (e : ℤ) := by
      rw [zpow_natCast, mul_comm]
      exact_mod_cast heq
    have hholds := (holds_abs hx hn).mul_scaled (holds_numeral 100 (by norm_num)) hproduct hm' hm
      (by omega)
    rw [← hproduct] at hholds
    have hnat : Holds (x.abs * 100) (100 * n.natAbs : Nat) := by
      push_cast
      rwa [mul_comm]
    obtain ⟨d, hd, -⟩ := id hnat
    have hround := hnat.round_eq hd
    rw [hundredths_of_finite hd]
    omega

/-- A float that is rounded to a natural number has no more than 53 bits of it. -/
theorem exists_scale_of_round {d : Decimal.Dyadic} (hd : d.Canonical) {k : Nat} (hpos : 0 < k)
    (h : d.round = k) : ∃ m e : Nat, m < 2 ^ 53 ∧ k = m * 2 ^ e := by
  have hmantissa := hd.mantissa_lt
  have hsign : d.negative = false := by
    by_contra hneg
    rw [Bool.not_eq_false] at hneg
    rw [Decimal.Dyadic.round, if_pos hneg] at h
    omega
  rcases Decimal.Dyadic.round_cases hsign with ⟨e, -, hround⟩ | ⟨e, -, hround⟩
  · exact ⟨d.mantissa, e, hmantissa, by exact_mod_cast h.symm.trans hround⟩
  · have hk : k = (d.mantissa + 2 ^ e) / 2 ^ (e + 1) := by exact_mod_cast h.symm.trans hround
    refine ⟨k, 0, ?_, by rw [pow_zero, mul_one]⟩
    rw [hk, Nat.div_lt_iff_lt_mul (by positivity), pow_succ]
    have := Nat.two_pow_pos e
    omega

theorem exact_of_hundredths (h : hundredths x = 100 * n.natAbs) : HasExactHundredths n := by
  obtain rfl | hn := eq_or_ne n 0
  · exact ⟨by norm_num, 0, 0, by norm_num, by norm_num⟩
  · cases hd : dyadic? (x.abs * 100) with
    | none =>
      -- The bound of words is no whole amount.
      rw [hundredths_of_infinite hd] at h
      split at h <;> omega
    | some d =>
      rw [hundredths_of_finite hd] at h
      have hround : d.round = (100 * n.natAbs : Nat) := by omega
      refine ⟨by omega, ?_⟩
      exact exists_scale_of_round (Decimal.canonical_of_dyadic? hd).1 (by omega) hround

theorem hundredths_pos (hx : IsWhole x n) (hn : n ≠ 0) : 0 < hundredths x := by
  have hone : (1 : ℚ) ≤ n.natAbs := by exact_mod_cast Int.natAbs_pos.mpr hn
  have hlarge : Large (0 : Nat) (x.abs * 100) := by
    refine (holds_abs hx hn).large_mul (holds_numeral 100 (by norm_num)) (by norm_num) ?_
    rw [Nat.cast_zero, zpow_zero]
    linarith
  cases hd : dyadic? (x.abs * 100) with
  | some d =>
    have hround := hlarge.le_round hd
    rw [hundredths_of_finite hd]
    omega
  | none =>
    rw [hundredths_of_infinite hd]
    cases hlarge with
    | infinite h =>
      have hpos : 0 < x.abs * 100 := by
        rw [Decimal.lt_iff_unpack, h]
        rfl
      rw [if_pos hpos]
      decide
    | finite h =>
      obtain ⟨d, hd', -⟩ := h
      rw [hd] at hd'
      cases hd'

end Hundredths

section Texts

variable {x : Float} {n : ℤ} {cs : List Char}

theorem isWholeAmount_iff : IsWholeAmount n cs ↔ cs = amountText (n < 0) (100 * n.natAbs) := by
  have hwhole : 100 * n.natAbs / 100 = n.natAbs := by omega
  have hcents : centDigits (100 * n.natAbs) = ['0', '0'] := by
    rw [centDigits, Nat.mul_mod_right]
    decide
  rw [amountText_eq, hwhole, hcents]
  simp only [IsWholeAmount, isGrouped_iff (natural_ne_nil _), exists_eq_left]

/-- The sign is right whatever the hundredths are rounded to. -/
theorem render_whole (hx : IsWhole x n) :
    (ColumnKind.currency.render (.number x)).toList = amountText (n < 0) (hundredths x) := by
  have hsign : (x < 0 && 0 < hundredths x : Bool) = decide (n < 0) := by
    obtain rfl | hn := eq_or_ne n 0
    · simp [hx.lt_zero_iff]
    · simp [hx.lt_zero_iff, hundredths_pos hx hn]
  simp only [ColumnKind.render, Cell.number?, hx.finite?_eq]
  rw [currencyText_eq, hsign, String.toList_ofList]

/-- Reading the hundredths of a whole number as an amount gives its magnitude. -/
theorem nearest_hundredths (hx : IsWhole x n) (hn : n ≠ 0) :
    Decimal.nearest (100 * n.natAbs) (-2) = x.abs := by
  obtain ⟨d, hd, hsign, hlow, hvalue⟩ := holds_abs hx hn
  have hscale : ((100 * n.natAbs : Nat) * 10 ^ (-2 : ℤ) / 2 ^ d.exponent : ℚ) = d.mantissa := by
    have htwo := (Decimal.two_zpow_pos d.exponent).ne'
    push_cast
    rw [← hvalue]
    field_simp
    norm_num
  have hnear : d.Near ((100 * n.natAbs : Nat) * 10 ^ (-2 : ℤ) / 2 ^ d.exponent) := by
    rw [hscale]
    exact Decimal.near_self
  rw [Decimal.nearest_eq (Decimal.canonical_of_dyadic? hd).1 (by omega) hsign hnear,
    Decimal.float_of_dyadic? hd]

theorem parse?_whole (hx : IsWhole x n) : ∃ y,
    Decimal.parse? (String.ofList ((amountText (n < 0) (100 * n.natAbs)).filter (· != ','))) = some y ∧
      IsWhole y n := by
  rw [parse?_amountText]
  obtain rfl | hn := eq_or_ne n 0
  · have hzero : IsWhole (Float.ofNat 0) 0 := @Decimal.isWhole_natural 0 (by norm_num)
    have hnearest : Decimal.nearest (100 * (0 : ℤ).natAbs) (-2) = Float.ofNat 0 := by decide +kernel
    rw [hnearest]
    exact ⟨_, hzero.finite?_eq, hzero⟩
  · rw [nearest_hundredths hx hn]
    by_cases hneg : n < 0
    · rw [if_pos (decide_eq_true hneg), hx.neg_abs hneg]
      exact ⟨x, hx.finite?_eq, hx⟩
    · have habs := hx.abs
      rw [abs_of_nonneg (not_lt.mp hneg)] at habs
      rw [if_neg (by rwa [decide_eq_true_eq])]
      exact ⟨x.abs, habs.finite?_eq, habs⟩

/-- A whole number is shown as its amount if and only if its hundredths are exact, and that text without
its commas is read back as the number. The sign is right in any case. -/
theorem currency_whole (hx : IsWhole x n) :
    let text := (ColumnKind.currency.render (.number x)).toList
    (text.head? = some '-' ↔ n < 0) ∧ (IsWholeAmount n text ↔ HasExactHundredths n) ∧
      (HasExactHundredths n →
        ∃ y, Decimal.parse? (String.ofList (text.filter (· != ','))) = some y ∧ IsWhole y n) := by
  have hrender := render_whole hx
  intro text
  have htext : text = amountText (n < 0) (hundredths x) := hrender
  refine ⟨?_, ?_, fun hexact => ?_⟩
  · rw [htext, head?_amountText_iff, decide_eq_true_eq]
  · rw [isWholeAmount_iff, htext]
    constructor
    · intro heq
      exact exact_of_hundredths (eq_of_amountText _ _ heq)
    · intro hexact
      rw [hundredths_of_exact hx hexact]
  · rw [htext, hundredths_of_exact hx hexact]
    exact parse?_whole hx

theorem largeDebt_currency :
    IsWhole (-100000000000000000) (-100000000000000000) ∧
      HasExactHundredths (-100000000000000000) ∧
      ColumnKind.currency.render (.number (-100000000000000000)) = "-100,000,000,000,000,000.00" ∧
      IsWholeAmount (-100000000000000000) "-100,000,000,000,000,000.00".toList ∧
      ∃ y, Decimal.parse? "-100000000000000000.00" = some y ∧ IsWhole y (-100000000000000000) := by
  have hx : IsWhole (-100000000000000000) (-100000000000000000) :=
    ⟨⟨true, 6250000000000000, 4⟩, by decide +kernel, by norm_num [Decimal.Dyadic.value]⟩
  have hexact : HasExactHundredths (-100000000000000000) :=
    ⟨by norm_num, 5 ^ 19, 19, by norm_num, by norm_num⟩
  have hrender : ColumnKind.currency.render (.number (-100000000000000000)) =
      "-100,000,000,000,000,000.00" := by decide +kernel
  obtain ⟨-, hwhole, hparse⟩ := currency_whole hx
  rw [hrender] at hwhole hparse
  have hdigits : String.ofList ("-100,000,000,000,000,000.00".toList.filter (· != ',')) =
      "-100000000000000000.00" := by decide +kernel
  rw [hdigits] at hparse
  exact ⟨hx, hexact, hrender, hwhole.mpr hexact, hparse hexact⟩

/-- The hundredths of the one number have more than 53 bits, those of the other are no word. -/
theorem inexact_currency :
    IsWhole 9007199254740991 9007199254740991 ∧
      ColumnKind.currency.render (.number 9007199254740991) = "9,007,199,254,740,990.72" ∧
      ¬ IsWholeAmount 9007199254740991 "9,007,199,254,740,990.72".toList ∧
      IsWhole 1000000000000000000 1000000000000000000 ∧
      ColumnKind.currency.render (.number 1000000000000000000) = "184,467,440,737,095,516.15" ∧
      ¬ IsWholeAmount 1000000000000000000 "184,467,440,737,095,516.15".toList := by
  refine ⟨⟨⟨false, 9007199254740991, 0⟩, by decide +kernel, by norm_num [Decimal.Dyadic.value]⟩,
    by decide +kernel, ?_,
    ⟨⟨false, 7812500000000000, 7⟩, by decide +kernel, by norm_num [Decimal.Dyadic.value]⟩,
    by decide +kernel, ?_⟩
  · rw [isWholeAmount_iff]
    decide +kernel
  · rw [isWholeAmount_iff]
    decide +kernel

end Texts

end Spreadsheet
