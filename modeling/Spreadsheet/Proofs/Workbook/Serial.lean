import Mathlib
import Spreadsheet.Proofs.Calendar.DateText
import Spreadsheet.Proofs.Decimal.Whole
import Spreadsheet.Workbook.Worksheet

namespace Spreadsheet.Workbook

open Spreadsheet.Decimal (Holds Large IsWhole)
open Spreadsheet.Calendar (Date Instant)

theorem holds_epochSerial : Holds epochSerial 25569 :=
  Decimal.holds_numeral 25569 (by norm_num)

theorem holds_millisecondsPerDay : Holds 86400000 86400000 :=
  Decimal.holds_numeral 86400000 (by norm_num)

section

variable {x : Float} {n : Nat}

/-- The milliseconds of fewer than 104249992 days have at most 53 bits, and their number is exact. -/
theorem holds_milliseconds (hx : Holds x (25569 + n : Nat)) (hpos : 0 < n) (h : n < 104249992) :
    Holds ((x - epochSerial) * 86400000) (n * 86400000 : Nat) := by
  have hdays : Holds (x - epochSerial) n :=
    hx.sub_whole holds_epochSerial (by push_cast; ring) hpos (by omega)
  exact hdays.mul_whole holds_millisecondsPerDay (by push_cast; ring) (by omega) (by omega)

/-- The number of milliseconds of more days may be rounded, but it stays large. -/
theorem large_milliseconds (hx : Holds x (25569 + n : Nat)) (h : 104249992 ≤ n) :
    Large 53 ((x - epochSerial) * 86400000) := by
  have hmilliseconds : (104249992 : ℚ) ≤ n := by exact_mod_cast h
  by_cases hn : n < 2 ^ 53
  · have hdays : Holds (x - epochSerial) n :=
      hx.sub_whole holds_epochSerial (by push_cast; ring) (by omega) hn
    refine hdays.large_mul holds_millisecondsPerDay (by norm_num) ?_
    norm_num
    linarith
  · have hn' : (2 ^ 53 : ℚ) ≤ n := by exact_mod_cast not_lt.mp hn
    have hdays : Large 53 (x - epochSerial) := by
      refine hx.large_sub holds_epochSerial (by norm_num) ?_
      push_cast
      norm_num at hn' ⊢
      linarith
    exact hdays.mul holds_millisecondsPerDay (by norm_num) (by norm_num)

theorem exists_milliseconds {t : Instant} (ht : serialInstant? x = some t) : ∃ d,
    Decimal.dyadic? ((x - epochSerial) * 86400000) = some d ∧
      Instant.ofMilliseconds? d.round = some t := by
  obtain ⟨d, hd, hround⟩ := Option.bind_eq_some_iff.mp ht
  split at hround
  · exact ⟨d, hd, hround⟩
  · cases hround

theorem lt_of_valid (h : (Date.ofDayNumber n).Valid) : n < 100000000 := by
  have hdays := (Date.valid_iff.mp h).1.dayNumber_lt h.2.1
  rw [Date.dayNumber_ofDayNumber] at hdays
  omega

theorem date_ofMilliseconds? {ms : Int} {t : Instant} (h : Instant.ofMilliseconds? ms = some t) :
    t.date = .ofDayNumber (ms / 86400000) ∧ t.date.Valid := by
  rw [Instant.ofMilliseconds?, Instant.valid?] at h
  split at h
  · rename_i hyear
    obtain rfl := Option.some.inj h
    have hdays : ms / 1000 / 86400 = ms / 86400000 := by omega
    refine ⟨by rw [Instant.date, hdays], ?_⟩
    exact Date.valid_iff.mpr ⟨Date.inYear_ofDayNumber _, hyear⟩
  · cases h

/-- A serial that is an instant has few enough days, so that its date is the one that it counts. -/
theorem date_of_serialInstant? (hx : Holds x (25569 + n : Nat)) (hpos : 0 < n) {t : Instant}
    (ht : serialInstant? x = some t) : t.date = .ofDayNumber n ∧ t.date.Valid := by
  obtain ⟨d, hd, hinstant⟩ := exists_milliseconds ht
  obtain ⟨hdate, hvalid⟩ := date_ofMilliseconds? hinstant
  have hfew : n < 104249992 := by
    by_contra hmany
    have hround : 2 ^ 53 ≤ d.round := (large_milliseconds hx (not_lt.mp hmany)).le_round hd
    have hdays := (Date.inYear_ofDayNumber _).dayNumber_lt (hdate ▸ hvalid).2.1
    rw [Date.dayNumber_ofDayNumber] at hdays
    omega
  have hround := (holds_milliseconds hx hpos hfew).round_eq hd
  have hdays : d.round / 86400000 = n := by omega
  exact ⟨hdays ▸ hdate, hvalid⟩

theorem shown_serial (hx : Holds x (25569 + n : Nat)) (hpos : 0 < n)
    (ht : (serialInstant? x).isSome) :
    ((Scalar.date x).shown Config.defaultDecode.dateFormat).text =
        String.ofList (Date.ofDayNumber n).slashed ∧ (Date.ofDayNumber n).Valid := by
  obtain ⟨t, ht⟩ := Option.isSome_iff_exists.mp ht
  obtain ⟨hdate, hvalid⟩ := date_of_serialInstant? hx hpos ht
  have hafter : epochSerial < x := by
    refine holds_epochSerial.lt hx ?_
    push_cast
    have : (0 : ℚ) < n := by exact_mod_cast hpos
    linarith
  have hyear : t.date.year ≠ 1899 := by
    intro hyear
    have hneg := (Date.valid_iff.mp hvalid).1.dayNumber_neg (by omega)
    rw [hdate, Date.dayNumber_ofDayNumber] at hneg
    omega
  refine ⟨?_, hdate ▸ hvalid⟩
  rw [Scalar.shown, showSerial, if_pos hafter, ht]
  simp only [instantText, if_neg hyear]
  rw [← hdate]
  exact congrArg (Option.getD · _) (Calendar.format?_usual t)

end

/-- The texts shown for two whole serials after the beginning of 1970 are as many days apart as the
serials, whenever both are dates of the supported span. -/
theorem daysBetween_serials {x y : Float} {n m : ℤ} (hx : IsWhole x n) (hy : IsWhole y m)
    (hn : 25569 < n) (hm : 25569 < m) (hx' : (serialInstant? x).isSome)
    (hy' : (serialInstant? y).isSome) :
    let days := Calendar.daysBetween
      ((Scalar.date x).shown Config.defaultDecode.dateFormat).text.toList
      ((Scalar.date y).shown Config.defaultDecode.dateFormat).text.toList
    days = |n - m| ∧ IsWhole (Float.ofNat days) |n - m| := by
  obtain ⟨a, rfl⟩ : ∃ a : Nat, n = (25569 + a : Nat) := ⟨(n - 25569).toNat, by omega⟩
  obtain ⟨b, rfl⟩ : ∃ b : Nat, m = (25569 + b : Nat) := ⟨(m - 25569).toNat, by omega⟩
  have hxq := hx.holds (by omega)
  have hyq := hy.holds (by omega)
  rw [Int.cast_natCast] at hxq hyq
  obtain ⟨htext, hvalid⟩ := shown_serial hxq (by omega) hx'
  obtain ⟨htext', hvalid'⟩ := shown_serial hyq (by omega) hy'
  intro days
  have hdays : days = ((a : ℤ) - b).natAbs := by
    simp only [days, htext, htext', String.toList_ofList, Calendar.daysBetween,
      Calendar.readDate?_slashed hvalid, Calendar.readDate?_slashed hvalid',
      Date.dayNumber_ofDayNumber]
  have hdistance : (days : ℤ) = |((25569 + a : Nat) : ℤ) - (25569 + b : Nat)| := by
    rw [hdays, Int.natCast_natAbs]
    congr 1
    push_cast
    ring
  have hsmall : days < 2 ^ 53 := by
    have hleft := lt_of_valid hvalid
    have hright := lt_of_valid hvalid'
    omega
  exact ⟨hdistance, hdistance ▸ Decimal.isWhole_natural hsmall⟩

theorem daysBetween_sample :
    IsWhole 45366 45366 ∧ IsWhole 3000000 3000000 ∧ (serialInstant? 45366).isSome ∧
      (serialInstant? 3000000).isSome ∧
      ((Scalar.date 3000000).shown Config.defaultDecode.dateFormat).text = "+10113/09/19" ∧
      let days := Calendar.daysBetween
        ((Scalar.date 45366).shown Config.defaultDecode.dateFormat).text.toList
        ((Scalar.date 3000000).shown Config.defaultDecode.dateFormat).text.toList
      days = |(45366 : ℤ) - 3000000| ∧ IsWhole (Float.ofNat days) |(45366 : ℤ) - 3000000| := by
  have hx : IsWhole 45366 45366 := Decimal.isWhole_natural (n := 45366) (by norm_num)
  have hy : IsWhole 3000000 3000000 := Decimal.isWhole_natural (n := 3000000) (by norm_num)
  have hx' : (serialInstant? 45366).isSome := by decide +kernel
  have hy' : (serialInstant? 3000000).isSome := by decide +kernel
  exact ⟨hx, hy, hx', hy', by decide +kernel,
    daysBetween_serials hx hy (by norm_num) (by norm_num) hx' hy'⟩

end Spreadsheet.Workbook
