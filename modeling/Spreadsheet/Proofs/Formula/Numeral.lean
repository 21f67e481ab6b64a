import Mathlib
import Spreadsheet.Decimal.Layout
import Spreadsheet.Proofs.Decimal.Shortest
import Spreadsheet.Proofs.Decimal.SignedZero
import Spreadsheet.Proofs.Formula.TermText
import Spreadsheet.Proofs.Text.Digits

namespace Spreadsheet.Formula

open Spreadsheet.Text
open Spreadsheet.Decimal (Alike Digits positionalText)

/-- The literal has no exponent, and it is read from these digits at this power of ten. -/
structure Literal.Writes (l : Literal) (cs : List Char) (q : ℚ) : Prop where
  positional : l.exponent = none
  chars_eq : l.chars = cs
  value_eq : ∃ m e, l.value = Decimal.nearest m e ∧ (m * 10 ^ e : ℚ) = q

theorem exists_whole {ds : List Char} (h : ∀ c ∈ ds, c.isDigit) (hne : ds ≠ []) :
    ∃ l : Literal, l.Writes ds (valueFrom 0 ds) := by
  refine ⟨⟨ds, none, none, h, by simp, by simpa using hne⟩, rfl, ?_, valueFrom 0 ds, 0, ?_, by simp⟩
  · simp [Literal.chars, Literal.point, Literal.power]
  · simp [Literal.value]

theorem exists_fraction {ds ds' : List Char} (h : ∀ c ∈ ds, c.isDigit) (h' : ∀ c ∈ ds', c.isDigit)
    (hne : ds ≠ []) :
    ∃ l : Literal, l.Writes (ds ++ '.' :: ds') (valueFrom 0 (ds ++ ds') * 10 ^ (-ds'.length : Int)) := by
  have hfraction : ∀ cs ∈ some ds', ∀ c ∈ cs, c.isDigit := by
    rintro cs ⟨⟩
    exact h'
  refine ⟨⟨ds, some ds', none, h, hfraction, by simp [hne]⟩, rfl, ?_,
    valueFrom 0 (ds ++ ds'), -ds'.length, ?_, rfl⟩
  · simp [Literal.chars, Literal.point, Literal.power]
  · simp [Literal.value]

/-- The positional text of a decimal is a literal of that decimal. -/
theorem exists_positional (d : Digits) :
    ∃ l : Literal, l.Writes (positionalText false (natural d.digits) d.exponent) d.value := by
  have hdigits := isDigit_natural d.digits
  have hne := natural_ne_nil d.digits
  have hvalue := valueFrom_natural d.digits
  rw [positionalText, Digits.value]
  generalize natural d.digits = ds at hdigits hne hvalue ⊢
  obtain ⟨n, k⟩ := d
  subst hvalue
  dsimp only
  split
  · rename_i hk
    obtain ⟨j, rfl⟩ := Int.eq_ofNat_of_zero_le hk
    have h := exists_whole (isDigit_append hdigits (isDigit_replicate j)) (by simp [hne])
    rw [valueFrom_append_zeros] at h
    simpa using h
  · rename_i hk
    obtain ⟨j, rfl⟩ : ∃ j : Nat, k = -j := ⟨(-k).toNat, by omega⟩
    have hplaces : (- -(j : Int)).toNat = j := by omega
    rw [hplaces]
    split
    · rename_i hlt
      have htake : ds.take (ds.length - j) ≠ [] := by
        rw [ne_eq, List.take_eq_nil_iff]
        push Not
        exact ⟨by omega, hne⟩
      have hdrop : ∀ c ∈ ds.drop (ds.length - j), c.isDigit :=
        fun c hc => hdigits c (List.mem_of_mem_drop hc)
      have h := exists_fraction (fun c hc => hdigits c (List.mem_of_mem_take hc)) hdrop htake
      have hlength : (ds.drop (ds.length - j)).length = j := by
        rw [List.length_drop]
        omega
      rwa [List.take_append_drop, hlength] at h
    · rename_i hge
      have h := exists_fraction (isDigit_replicate 1)
        (isDigit_append (isDigit_replicate (j - ds.length)) hdigits) (by simp)
      have hlength : (List.replicate (j - ds.length) '0' ++ ds).length = j := by
        rw [List.length_append, List.length_replicate]
        omega
      rw [valueFrom_zeros_append, valueFrom_zeros_append, hlength] at h
      simpa using h

theorem magnitude_plain {d : Decimal.Dyadic} (h : d.mantissa ≠ 0) :
    Decimal.plain.magnitude d =
      positionalText false (natural (Decimal.shortest d).digits) (Decimal.shortest d).exponent := by
  rw [Decimal.Layout.magnitude, if_neg h]
  rfl

namespace Numeral

def value (n : Numeral) : Float :=
  if n.negative then -n.literal.value else n.literal.value

theorem evaluateArithmetic_tree (n : Numeral) : evaluateArithmetic n.atom.tree = .ok n.value := by
  change evaluateArithmetic n.tree = _
  rw [tree, value]
  split <;> rfl

end Numeral

theorem exists_numeral {x : Float} (hx : Decimal.isFinite x) :
    ∃ n : Numeral, n.chars = (Decimal.numberText x).toList ∧ Alike n.value x := by
  obtain ⟨d, hd⟩ := Option.isSome_iff_exists.mp hx
  obtain ⟨hcanonical, -⟩ := Decimal.canonical_of_dyadic? hd
  rw [Decimal.numberText]
  split
  · rename_i hzero
    obtain ⟨l, hpositional, hchars, m, e, hvalue, hq⟩ := exists_whole (isDigit_replicate 1) (by simp)
    have hm : m = 0 := by
      have hzero : valueFrom 0 (List.replicate 1 '0') = 0 := by decide
      rw [hzero, Nat.cast_zero] at hq
      exact_mod_cast (mul_eq_zero_iff_right (Decimal.ten_zpow_pos e).ne').mp hq
    refine ⟨⟨false, l, hpositional⟩, by simp [Numeral.chars, hchars], .inr ⟨?_, hzero⟩⟩
    rw [Numeral.value, if_neg (by simp), hvalue, hm, Decimal.nearest, if_pos (.inl rfl)]
    decide +kernel
  · rename_i hzero
    have hpos : 0 < d.mantissa := by
      rw [Nat.pos_iff_ne_zero]
      intro hm
      refine hzero (Decimal.beq_zero_iff.mpr ⟨d.sign, ?_⟩)
      rw [Decimal.unpack_of_dyadic? hd, Decimal.Dyadic.unpacked, dif_neg (by omega)]
    obtain ⟨l, hpositional, hchars, m, e, hvalue, hq⟩ := exists_positional (Decimal.shortest d)
    refine ⟨⟨d.negative, l, hpositional⟩, ?_, .inl ?_⟩
    · rw [Numeral.chars, hchars, String.toList_ofList, Decimal.Layout.text, hd]
      dsimp only
      rw [magnitude_plain hpos.ne']
    · rw [Numeral.value, hvalue, Decimal.nearest_of_eq_shortest hcanonical hpos hq]
      exact Decimal.float_of_dyadic? hd

end Spreadsheet.Formula
