import Mathlib
import Spreadsheet.Decimal.Binary

namespace Spreadsheet.Decimal

open Float.Model (UnpackedFloat Format)
open Float.Model.UnpackedFloat

theorem twoTo_eq (n : Nat) : twoTo n = 2 ^ n :=
  rfl

theorem tenTo_eq (n : Nat) : tenTo n = 10 ^ n :=
  rfl

section Fields

variable (b : BitVec Format.binary64.numBits)

theorem toNat_unpackMantissa : (unpackMantissa b).toNat = b.toNat % 2 ^ 52 := by
  simp [unpackMantissa, BitVec.extractLsb]

theorem toNat_unpackExponent : (unpackExponent b).toNat = b.toNat / 2 ^ 52 % 2 ^ 11 := by
  simp [unpackExponent, BitVec.extractLsb, Nat.shiftRight_eq_div_pow]

theorem toNat_unpackSign : (unpackSign b).toNat = b.toNat / 2 ^ 63 % 2 := by
  simp [unpackSign, BitVec.extractLsb, Nat.shiftRight_eq_div_pow]

theorem toNat_append {m n : Nat} (v : BitVec m) (w : BitVec n) :
    (v ++ w).toNat = v.toNat * 2 ^ n + w.toNat := by
  rw [BitVec.toNat_append, ← Nat.shiftLeft_add_eq_or_of_lt w.isLt, Nat.shiftLeft_eq]

theorem toNat_packComponents (s : Sign) (e : BitVec Format.binary64.exponentBits)
    (m : BitVec Format.binary64.mantissaBitsWithoutImplicit) :
    (packComponents .binary64 s e m).toNat =
      s.toBitVec.toNat * 2 ^ 63 + e.toNat * 2 ^ 52 + m.toNat := by
  rw [packComponents, toNat_append, toNat_append]
  dsimp only [Format.binary64]
  ring

end Fields

namespace Dyadic

def sign (d : Dyadic) : Sign :=
  if d.negative then .negative else .positive

def unpacked (d : Dyadic) : UnpackedFloat :=
  if h : 0 < d.mantissa then .finite d.sign d.mantissa d.exponent h else .zero d.sign

theorem unpacked_of_pos {d : Dyadic} (h : 0 < d.mantissa) :
    d.unpacked = .finite d.sign d.mantissa d.exponent h :=
  dif_pos h

/-- The fraction has the form in which a float of 64 bits stores it. -/
structure Canonical (d : Dyadic) : Prop where
  mantissa_lt : d.mantissa < 2 ^ 53
  least : -1074 ≤ d.exponent
  greatest : d.exponent ≤ 971
  normal : 2 ^ 52 ≤ d.mantissa ∨ d.exponent = -1074

def float (d : Dyadic) : Float :=
  .ofModel (.pack d.unpacked)

def bits (d : Dyadic) : Nat :=
  (if d.negative then 2 ^ 63 else 0) +
    if 2 ^ 52 ≤ d.mantissa then (d.exponent + 1075).toNat * 2 ^ 52 + (d.mantissa - 2 ^ 52)
    else d.mantissa

theorem toNat_sign (d : Dyadic) :
    d.sign.toBitVec.toNat * 2 ^ 63 = if d.negative then 2 ^ 63 else 0 := by
  cases hneg : d.negative <;> simp [sign, hneg, Sign.toBitVec]

theorem Canonical.toNat_pack {d : Dyadic} (h : d.Canonical) :
    (pack .binary64 d.unpacked).toNat = d.bits := by
  obtain ⟨hmantissa, hleast, hgreatest, hnormal⟩ := h
  have hbias : (d.exponent + Format.binary64.exponentBias +
      Format.binary64.mantissaBitsWithoutImplicit).toNat = (d.exponent + 1075).toNat := by
    have : (Format.binary64.exponentBias : Int) = 1023 := rfl
    dsimp only [Format.binary64] at this ⊢
    omega
  have hbits : Format.binary64.mantissaBits = 53 := rfl
  rw [unpacked, bits, ← toNat_sign]
  split
  · rename_i hpos
    have hne : d.mantissa ≠ 0 := Nat.ne_of_gt hpos
    have hinfinity : ¬ 2 ^ Format.binary64.exponentBits ≤ (d.exponent + 1075).toNat + 1 := by
      dsimp only [Format.binary64]
      omega
    rw [pack]
    simp only [hbias, if_neg hinfinity, hbits]
    by_cases hm : 2 ^ 52 ≤ d.mantissa
    · have hlog : d.mantissa.log2 + 1 = 53 := by
        have hlow : 52 ≤ d.mantissa.log2 := (Nat.le_log2 hne).mpr hm
        have hhigh : d.mantissa.log2 < 53 := (Nat.log2_lt hne).mpr hmantissa
        omega
      rw [if_pos hlog, if_pos hm, toNat_packComponents, BitVec.toNat_ofNat, BitVec.toNat_ofNat]
      dsimp only [Format.binary64]
      omega
    · have hlog : ¬ d.mantissa.log2 + 1 = 53 := by
        have hhigh : d.mantissa.log2 < 52 := (Nat.log2_lt hne).mpr (by omega)
        omega
      rw [if_neg hlog, if_neg hm, toNat_packComponents, BitVec.toNat_ofNat, BitVec.toNat_ofNat]
      dsimp only [Format.binary64]
      omega
  · rename_i hpos
    have hm : ¬ 2 ^ 52 ≤ d.mantissa := by omega
    have hzero : (pack .binary64 (.zero d.sign)).toNat = d.sign.toBitVec.toNat * 2 ^ 63 := by
      rw [pack, packedZero, toNat_packComponents]
      simp
    rw [hzero, if_neg hm]
    omega

theorem Canonical.toBits_float {d : Dyadic} (h : d.Canonical) : d.float.toBits.toNat = d.bits :=
  h.toNat_pack

end Dyadic

theorem eq_of_toBits {x y : Float} (h : x.toBits.toNat = y.toBits.toNat) : x = y := by
  obtain ⟨b, hb⟩ := x
  obtain ⟨c, hc⟩ := y
  have hbits : b = c := UInt64.toNat_inj.mp h
  simp only [hbits]

theorem toBits_lt (x : Float) : x.toBits.toNat < 2 ^ 64 :=
  x.toBits.toNat_lt

section Fraction

variable {x : Float} {d : Dyadic}

theorem dyadic?_of_scale {n scale fraction : Nat} (hn : x.toBits.toNat = n)
    (hscale : n / 2 ^ 52 % 2 ^ 11 = scale) (hfraction : n % 2 ^ 52 = fraction) :
    dyadic? x =
      if scale = 2047 then none
      else if scale = 0 then some ⟨n / 2 ^ 63 == 1, fraction, -1074⟩
      else some ⟨n / 2 ^ 63 == 1, 2 ^ 52 + fraction, scale - 1075⟩ := by
  subst hn hscale hfraction
  rfl

theorem negative_iff {n : Nat} (hn : n < 2 ^ 64) : (n / 2 ^ 63 == 1) = true ↔ 2 ^ 63 ≤ n := by
  rw [beq_iff_eq]
  omega

/-- A finite float has a fraction in canonical form, whose bits are those of the float. -/
theorem canonical_of_dyadic? (h : dyadic? x = some d) : d.Canonical ∧ x.toBits.toNat = d.bits := by
  have hlt := toBits_lt x
  generalize hn : x.toBits.toNat = n at hlt ⊢
  generalize hscale : n / 2 ^ 52 % 2 ^ 11 = scale
  generalize hfraction : n % 2 ^ 52 = fraction
  rw [dyadic?_of_scale hn hscale hfraction] at h
  have hneg := negative_iff hlt
  split at h
  · cases h
  · rename_i hinfinite
    split at h
    · rename_i hzero
      obtain rfl := Option.some.inj h
      refine ⟨⟨?_, ?_, ?_, .inr rfl⟩, ?_⟩
      · dsimp only
        omega
      · exact le_refl _
      · dsimp only
        omega
      · simp only [Dyadic.bits, hneg]
        split <;> split <;> omega
    · rename_i hzero
      obtain rfl := Option.some.inj h
      refine ⟨⟨?_, ?_, ?_, .inl ?_⟩, ?_⟩
      · dsimp only
        omega
      · dsimp only
        omega
      · dsimp only
        omega
      · dsimp only
        omega
      · simp only [Dyadic.bits, hneg]
        split <;> split <;> omega

theorem Dyadic.Canonical.bits_sign (h : d.Canonical) :
    d.bits / 2 ^ 63 = if d.negative then 1 else 0 := by
  obtain ⟨hmantissa, hleast, hgreatest, hnormal⟩ := h
  rw [Dyadic.bits]
  split <;> split <;> omega

theorem Dyadic.Canonical.bits_fields (h : d.Canonical) :
    (2 ^ 52 ≤ d.mantissa ∧ d.bits / 2 ^ 52 % 2 ^ 11 = (d.exponent + 1075).toNat ∧
        d.bits % 2 ^ 52 = d.mantissa - 2 ^ 52) ∨
      (d.mantissa < 2 ^ 52 ∧ d.bits / 2 ^ 52 % 2 ^ 11 = 0 ∧ d.bits % 2 ^ 52 = d.mantissa) := by
  obtain ⟨hmantissa, hleast, hgreatest, hnormal⟩ := h
  rw [Dyadic.bits]
  by_cases hm : 2 ^ 52 ≤ d.mantissa
  · rw [if_pos hm]
    refine .inl ⟨hm, ?_, ?_⟩ <;> split <;> omega
  · rw [if_neg hm]
    refine .inr ⟨by omega, ?_, ?_⟩ <;> split <;> omega

theorem Dyadic.Canonical.dyadic?_eq (h : d.Canonical) (hbits : x.toBits.toNat = d.bits) :
    dyadic? x = some d := by
  have hneg : (d.bits / 2 ^ 63 == 1) = d.negative := by
    rw [h.bits_sign]
    cases d.negative <;> rfl
  have hgreatest := h.greatest
  have hleast := h.least
  have hnormal := h.normal
  rcases h.bits_fields with ⟨hm, hscale, hfraction⟩ | ⟨hm, hscale, hfraction⟩
  · have hexponent : (((d.exponent + 1075).toNat : Nat) : Int) - 1075 = d.exponent := by omega
    rw [dyadic?_of_scale hbits hscale hfraction, if_neg (by omega), if_neg (by omega), hneg,
      hexponent, Nat.add_sub_cancel' hm]
  · have hexponent : d.exponent = -1074 := by omega
    rw [dyadic?_of_scale hbits hscale hfraction, if_neg (by omega), if_pos rfl, hneg, ← hexponent]

theorem Dyadic.Canonical.dyadic?_float (h : d.Canonical) : dyadic? d.float = some d :=
  h.dyadic?_eq h.toBits_float

theorem float_of_dyadic? (h : dyadic? x = some d) : d.float = x := by
  obtain ⟨hcanonical, hbits⟩ := canonical_of_dyadic? h
  apply eq_of_toBits
  rw [hcanonical.toBits_float, hbits]

theorem sign_eq {b : BitVec 1} (h : b.toNat = if d.negative then 1 else 0) :
    Sign.ofBitVec b = d.sign := by
  cases hneg : d.negative with
  | false =>
    have hb : b = 0#1 := BitVec.toNat_inj.mp (by simpa [hneg] using h)
    simp [Sign.ofBitVec, Dyadic.sign, hneg, hb]
  | true =>
    have hb : b = 1#1 := BitVec.toNat_inj.mp (by simpa [hneg] using h)
    simp [Sign.ofBitVec, Dyadic.sign, hneg, hb]

theorem unpack_of_fields {b : BitVec Format.binary64.numBits} {scale : Nat}
    (hsign : b.toNat / 2 ^ 63 % 2 = if d.negative then 1 else 0)
    (hscale : b.toNat / 2 ^ 52 % 2 ^ 11 = scale) (hfinite : scale ≠ 2047)
    (h : scale = 0 ∧ d.mantissa = b.toNat % 2 ^ 52 ∧ d.exponent = -1074 ∨
      scale ≠ 0 ∧ d.mantissa = 2 ^ 52 + b.toNat % 2 ^ 52 ∧ d.exponent = (scale : Int) - 1075) :
    unpack .binary64 b = d.unpacked := by
  rw [← toNat_unpackSign] at hsign
  rw [← toNat_unpackExponent] at hscale
  rw [← toNat_unpackMantissa] at h
  have hinfinite : unpackExponent b ≠ -1#_ := by
    intro he
    rw [he] at hscale
    exact hfinite (hscale.symm.trans (by decide))
  have hbias : ((unpackExponent b).toNat : Int) -
      (Format.binary64.exponentBias + Format.binary64.mantissaBitsWithoutImplicit) =
        (scale : Int) - 1075 := by
    rw [hscale]
    have hb : ((Format.binary64.exponentBias : Nat) : Int) = 1023 := rfl
    dsimp only [Format.binary64] at hb ⊢
    omega
  rw [unpack]
  simp only [if_neg hinfinite, hbias, sign_eq hsign]
  rcases h with ⟨rfl, hmantissa, hexponent⟩ | ⟨hne, hmantissa, hexponent⟩
  · have hzero : unpackExponent b = 0#_ := BitVec.toNat_inj.mp (by simpa using hscale)
    rw [if_pos hzero, Dyadic.unpacked]
    by_cases hm : unpackMantissa b = 0#_
    · have hnone : ¬ 0 < d.mantissa := by simp [hmantissa, hm]
      rw [dif_pos hm, dif_neg hnone]
    · have hpos : 0 < d.mantissa := by
        rw [hmantissa, Nat.pos_iff_ne_zero]
        intro hnone
        exact hm (BitVec.toNat_inj.mp (by simpa using hnone))
      rw [dif_neg hm, dif_pos hpos]
      simp [hmantissa, hexponent]
  · have hzero : unpackExponent b ≠ 0#_ := by
      intro he
      rw [he] at hscale
      simp at hscale
      omega
    have happend : (1#1 ++ unpackMantissa b).toNat = d.mantissa := by
      rw [toNat_append, hmantissa]
      rfl
    have hpos : 0 < d.mantissa := by omega
    rw [if_neg hzero, Dyadic.unpacked, dif_pos hpos]
    simp only [happend, hexponent]

theorem exists_unpack (x : Float) : ∃ b : BitVec Format.binary64.numBits,
    b.toNat = x.toBits.toNat ∧ x.toModel.unpack = unpack .binary64 b :=
  ⟨x.toBits.toBitVec, rfl, rfl⟩

theorem unpack_of_dyadic? (h : dyadic? x = some d) : x.toModel.unpack = d.unpacked := by
  obtain ⟨hcanonical, hbits⟩ := canonical_of_dyadic? h
  obtain ⟨b, hnat, hunpack⟩ := exists_unpack x
  rw [hbits] at hnat
  have hsign : b.toNat / 2 ^ 63 % 2 = if d.negative then 1 else 0 := by
    rw [hnat, hcanonical.bits_sign]
    split <;> rfl
  have hgreatest := hcanonical.greatest
  have hleast := hcanonical.least
  have hnormal := hcanonical.normal
  have hfields := hcanonical.bits_fields
  rw [← hnat] at hfields
  rw [hunpack]
  rcases hfields with ⟨hm, hscale, hfraction⟩ | ⟨hm, hscale, hfraction⟩
  · exact unpack_of_fields hsign hscale (by omega) (.inr ⟨by omega, by omega, by omega⟩)
  · exact unpack_of_fields hsign hscale (by omega) (.inl ⟨rfl, hfraction.symm, by omega⟩)

theorem Dyadic.Canonical.neg_float {m : Nat} {e : Int} (h : (Dyadic.mk false m e).Canonical)
    (hpos : 0 < m) : -(Dyadic.mk false m e).float = (Dyadic.mk true m e).float := by
  have hunpacked : ∀ negative, (Dyadic.mk negative m e).unpacked =
      .finite (Dyadic.mk negative m e).sign m e hpos := fun _ => Dyadic.unpacked_of_pos hpos
  have hunpack := unpack_of_dyadic? h.dyadic?_float
  rw [hunpacked] at hunpack
  change Float.ofModel (.pack (neg (Dyadic.mk false m e).float.toModel.unpack)) = _
  rw [hunpack, Dyadic.float, hunpacked]
  rfl

theorem isFinite_unpacked (d : Dyadic) : d.unpacked.isFinite = true := by
  rw [Dyadic.unpacked]
  split <;> rfl

theorem isFinite_eq (x : Float) : isFinite x = x.toModel.unpack.isFinite := by
  rw [isFinite]
  cases h : dyadic? x with
  | some d => rw [unpack_of_dyadic? h, isFinite_unpacked, Option.isSome_some]
  | none =>
    obtain ⟨b, hnat, hunpack⟩ := exists_unpack x
    rw [dyadic?_of_scale rfl rfl rfl, ← hnat, ← toNat_unpackExponent] at h
    have hscale : (unpackExponent b).toNat = 2047 := by
      by_contra hne
      rw [if_neg hne] at h
      split at h <;> cases h
    have hinfinite : unpackExponent b = -1#_ := BitVec.toNat_inj.mp (hscale.trans (by decide))
    rw [hunpack, unpack]
    simp only [if_pos hinfinite]
    split <;> rfl

end Fraction

end Spreadsheet.Decimal
