import Mathlib
import Spreadsheet.Proofs.Calendar.Succession
import Spreadsheet.Proofs.Decimal.Whole
import Spreadsheet.Workbook.Worksheet

namespace Spreadsheet.Workbook

open Spreadsheet.Decimal (isFinite dyadic? holds_numeral isFinite_eq)
open Spreadsheet.Calendar (Date Instant)
open Float.Model (UnpackedFloat)

section Infinite

variable {x y : Float}

theorem isFinite_zero : isFinite 0 = true := by
  decide +kernel

theorem isFinite_epochSerial : isFinite epochSerial = true := by
  decide +kernel

theorem unpack_of_not_isFinite (hx : isFinite x = false) :
    x.toModel.unpack = .notANumber ∨ ∃ sign, x.toModel.unpack = .infinity sign := by
  rw [isFinite_eq] at hx
  cases h : x.toModel.unpack with
  | notANumber => exact .inl rfl
  | infinity sign => exact .inr ⟨sign, rfl⟩
  | zero | finite =>
    rw [h] at hx
    cases hx

/-- Above a finite number, nothing but the positive infinity is not finite. -/
theorem lt_iff_infinity (hx : isFinite x = false) (hy : isFinite y = true) :
    y < x ↔ x.toModel.unpack = .infinity .positive := by
  rw [isFinite_eq] at hy
  rw [Decimal.lt_iff_unpack]
  generalize y.toModel.unpack = b at hy
  rcases unpack_of_not_isFinite hx with h | ⟨sign, h⟩
  · rw [h]
    cases b <;> simp [UnpackedFloat.lt, UnpackedFloat.compare]
  · rw [h]
    cases sign <;> cases b <;> simp_all [UnpackedFloat.lt, UnpackedFloat.compare, UnpackedFloat.isFinite]

theorem serialInstant?_infinity (hx : x.toModel.unpack = .infinity .positive) :
    serialInstant? x = none := by
  have hdays := (holds_numeral 25569 (by norm_num)).sub_infinity hx
  have hmilliseconds : ((x - epochSerial) * 86400000).toModel.unpack = .infinity .positive :=
    (holds_numeral 86400000 (by norm_num)).mul_infinity hdays
  have hnone : (dyadic? ((x - epochSerial) * 86400000)).isSome = false := by
    rw [← isFinite, isFinite_eq, hmilliseconds]
    rfl
  rw [Option.isSome_eq_false_iff, Option.isNone_iff_eq_none] at hnone
  rw [serialInstant?, hnone]
  rfl

end Infinite

def leastMillisecond : Int :=
  Date.firstDay * 86400000

def greatestMillisecond : Int :=
  Date.lastDay * 86400000 + 86399999

/-- The milliseconds since the beginning of 1970 are in the supported span. -/
def HasInstant (serial : Float) : Prop :=
  ∃ d, dyadic? ((serial - epochSerial) * 86400000) = some d ∧
    leastMillisecond ≤ d.round ∧ d.round ≤ greatestMillisecond

theorem isSome_ofMilliseconds?_iff (n : Int) :
    (Instant.ofMilliseconds? n).isSome ↔ leastMillisecond ≤ n ∧ n ≤ greatestMillisecond := by
  rw [Instant.ofMilliseconds?, Instant.valid?_isSome_iff, leastMillisecond, greatestMillisecond]
  dsimp only
  omega

theorem isSome_serialInstant?_iff (serial : Float) :
    (serialInstant? serial).isSome ↔ HasInstant serial := by
  rw [serialInstant?, HasInstant]
  cases hd : dyadic? ((serial - epochSerial) * 86400000) with
  | none => simp
  | some d =>
    have hspan := isSome_ofMilliseconds?_iff d.round
    have hleast : leastMillisecond = -8334601228800000 := by decide
    have hgreatest : greatestMillisecond = 8210266876799999 := by decide
    rw [Option.bind_some]
    split
    · simpa using hspan
    · rename_i hwide
      rw [Decimal.twoTo_eq] at hwide
      simp
      omega

/-- Errors are the serials that are not finite, numbers those that have no instant after the beginning
of 1970, and all others are dates. -/
structure Shown.Classifies (shown : Shown) (serial : Float) : Prop where
  error : shown.type = .error ∧ shown.value = .blank ∧ shown.text = "" ↔ isFinite serial = false
  number : shown.type = .number ∧ shown.value = .number serial ↔
    isFinite serial = true ∧ epochSerial < serial ∧ ¬ HasInstant serial
  date : shown.type = .date ∧ shown.value = .number serial ↔
    isFinite serial = true ∧ (epochSerial < serial → HasInstant serial)

section Kinds

variable {serial : Float} (dateFormat : String)

theorem showSerial_finite (h : isFinite serial = true) :
    (showSerial dateFormat serial).Classifies serial := by
  have hinstant := isSome_serialInstant?_iff serial
  unfold showSerial
  by_cases hafter : epochSerial < serial
  · rw [if_pos hafter]
    cases ht : serialInstant? serial with
    | none =>
      have hnone : ¬ HasInstant serial := by rw [← hinstant, ht]; simp
      exact ⟨by simp [h], by simp [h, hafter, hnone], by simp [hafter, hnone]⟩
    | some t =>
      have hsome : HasInstant serial := by rw [← hinstant, ht]; rfl
      exact ⟨by simp [h], by simp [hsome], by simp [h, hsome]⟩
  · rw [if_neg hafter, if_pos h]
    exact ⟨by simp [h], by simp [hafter], by simp [h, hafter]⟩

theorem showSerial_infinite (h : isFinite serial = false) (hpos : 0 < serial) :
    showSerial dateFormat serial = ⟨.number serial, Decimal.numberText serial, .number⟩ := by
  have hinfinity := (lt_iff_infinity h isFinite_zero).mp hpos
  have hafter := (lt_iff_infinity h isFinite_epochSerial).mpr hinfinity
  rw [showSerial, if_pos hafter, serialInstant?_infinity hinfinity]

theorem showSerial_error (h : isFinite serial = false) (hpos : ¬ 0 < serial) :
    showSerial dateFormat serial = ⟨.blank, "", .error⟩ := by
  have hbefore : ¬ epochSerial < serial := by
    rwa [lt_iff_infinity h isFinite_epochSerial, ← lt_iff_infinity h isFinite_zero]
  rw [showSerial, if_neg hbefore, if_neg (by simp [h])]

/-- Serials are classified by their finiteness and their instants, whatever the pattern of dates is.
The only exception is the positive infinity, which stays a number although it is not finite. -/
theorem date_shown_cases (serial : Float) :
    let shown := (Scalar.date serial).shown dateFormat
    (0 < serial → isFinite serial = true) ∧ shown.Classifies serial ∨
      (0 < serial ∧ isFinite serial = false) ∧ ¬ shown.Classifies serial ∧
        shown = ⟨.number serial, Decimal.numberText serial, .number⟩ := by
  intro shown
  cases h : isFinite serial with
  | true => exact .inl ⟨fun _ => rfl, showSerial_finite dateFormat h⟩
  | false =>
    by_cases hpos : 0 < serial
    · have hshown : shown = _ := showSerial_infinite dateFormat h hpos
      refine .inr ⟨⟨hpos, rfl⟩, fun hclass => ?_, hshown⟩
      have herror := hclass.error.mpr h
      rw [hshown] at herror
      simp at herror
    · have hshown : shown = _ := showSerial_error dateFormat h hpos
      rw [hshown]
      exact .inl ⟨fun hpos' => absurd hpos' hpos, by simp [h], by simp [h], by simp [h]⟩

theorem infinity_not_classified : isFinite (1 / 0) = false ∧
    (Scalar.date (1 / 0)).shown Config.defaultDecode.dateFormat = ⟨.number (1 / 0), "inf", .number⟩ ∧
    ¬ ((Scalar.date (1 / 0)).shown Config.defaultDecode.dateFormat).Classifies (1 / 0) := by
  have hinfinite : isFinite (1 / 0) = false := by decide +kernel
  have hshown : (Scalar.date (1 / 0)).shown Config.defaultDecode.dateFormat =
      ⟨.number (1 / 0), "inf", .number⟩ := by
    decide +kernel
  refine ⟨hinfinite, hshown, fun h => ?_⟩
  have herror := h.error.mpr hinfinite
  rw [hshown] at herror
  cases herror.1

end Kinds

end Spreadsheet.Workbook
