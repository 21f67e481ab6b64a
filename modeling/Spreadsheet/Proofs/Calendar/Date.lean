import Mathlib
import Spreadsheet.Calendar.Date

namespace Spreadsheet.Calendar

def daysBefore (year : Int) : Int :=
  365 * year + year / 4 - year / 100 + year / 400

theorem daysBefore_succ (year : Int) :
    daysBefore (year + 1) = daysBefore year + if isLeapYear (year + 1) then 366 else 365 := by
  unfold daysBefore isLeapYear
  simp only [Bool.and_eq_true, Bool.or_eq_true, beq_iff_eq, bne_iff_ne, ne_eq]
  split <;> omega

/-- A day of a cycle of 400 years, other than the last: its century, its span of four years, the year
of the span and the day of the year. -/
structure CycleDay where
  century : Int
  span : Int
  year : Int
  day : Int
  century_mem : 0 ≤ century ∧ century ≤ 3
  span_mem : 0 ≤ span ∧ span ≤ 24
  year_mem : 0 ≤ year ∧ year ≤ 3
  day_mem : 0 ≤ day ∧ (day ≤ 364 ∨ day = 365 ∧ year = 3 ∧ span ≤ 23)

namespace CycleDay

variable (d : CycleDay)

def number : Int :=
  36524 * d.century + 1461 * d.span + 365 * d.year + d.day

def yearOfCycle : Int :=
  100 * d.century + 4 * d.span + d.year

theorem number_eq : d.number = daysBefore d.yearOfCycle + d.day := by
  obtain ⟨hcentury, hspan, hyear, hday⟩ := d
  simp only [number, yearOfCycle, daysBefore]
  omega

end CycleDay

theorem exists_cycleDay {n : Int} (h : 0 ≤ n) (h' : n < 146096) : ∃ d : CycleDay, d.number = n := by
  obtain ⟨century, r, hcentury, hr, rfl⟩ : ∃ c r : Int, (0 ≤ c ∧ c ≤ 3) ∧ (0 ≤ r ∧ r < 36524) ∧
      n = 36524 * c + r :=
    ⟨n / 36524, n % 36524, by omega⟩
  obtain ⟨span, r, hspan, hr, rfl⟩ : ∃ s t : Int, (0 ≤ s ∧ s ≤ 24) ∧ (0 ≤ t ∧ t ≤ 1460) ∧
      r = 1461 * s + t :=
    ⟨r / 1461, r % 1461, by omega⟩
  by_cases hleap : r = 1460
  · exact ⟨⟨century, span, 3, 365, hcentury, hspan, by omega, by omega⟩, by
      simp only [CycleDay.number]
      omega⟩
  · exact ⟨⟨century, span, r / 365, r % 365, hcentury, hspan, by omega, by omega⟩, by
      simp only [CycleDay.number]
      omega⟩

def yearOfCycle (n : Int) : Int :=
  (n - n / 1460 + n / 36524 - n / 146096) / 365

theorem yearOfCycle_number (d : CycleDay) : yearOfCycle d.number = d.yearOfCycle := by
  obtain ⟨century, span, year, day, hcentury, hspan, hyear, hday⟩ := d
  simp only [CycleDay.number, CycleDay.yearOfCycle, yearOfCycle]
  generalize hn : 36524 * century + 1461 * span + 365 * year + day = n
  have hcenturies : n / 36524 = century := by omega
  have hspans : n / 1460 = 25 * century + span + (24 * century + span + 365 * year + day) / 1460 := by
    omega
  have hcycle : n / 146096 = 0 := by omega
  rw [hcenturies, hspans, hcycle]
  omega

theorem yearOfCycle_bounds {n : Int} (h : 0 ≤ n) (h' : n < 146097) :
    (0 ≤ yearOfCycle n ∧ yearOfCycle n < 400) ∧
      daysBefore (yearOfCycle n) ≤ n ∧ n < daysBefore (yearOfCycle n + 1) := by
  by_cases hlast : n = 146096
  · subst hlast
    decide
  · obtain ⟨d, rfl⟩ := exists_cycleDay h (by omega)
    rw [yearOfCycle_number, daysBefore_succ, d.number_eq]
    obtain ⟨century, span, year, day, hcentury, hspan, hyear, hday⟩ := d
    simp only [CycleDay.yearOfCycle]
    refine ⟨by omega, by omega, ?_⟩
    simp only [isLeapYear, Bool.and_eq_true, Bool.or_eq_true, beq_iff_eq, bne_iff_ne, ne_eq]
    split <;> omega

namespace Date

/-- The date of a day of a year that begins in March. Five months have 153 days. -/
def fromMarch (year dayOfYear : Int) : Date :=
  let month := (5 * dayOfYear + 2) / 153
  { year := year + if month < 10 then 0 else 1
    month := (if month < 10 then month + 3 else month - 9).toNat
    day := (dayOfYear - (153 * month + 2) / 5 + 1).toNat }

theorem ofDayNumber_eq (n : Int) : ∃ year dayOfYear : Int, ofDayNumber n = fromMarch year dayOfYear ∧
    daysBefore year + dayOfYear = n + 719468 ∧ 0 ≤ dayOfYear ∧
      daysBefore year + dayOfYear < daysBefore (year + 1) := by
  generalize hdays : n + 719468 = days
  obtain ⟨⟨hleast, hmost⟩, hbefore, hafter⟩ :=
    yearOfCycle_bounds (Int.emod_nonneg days (by norm_num)) (Int.emod_lt_of_pos days (by norm_num))
  generalize hy : yearOfCycle (days % 146097) = y at *
  have hcycle : ∀ z, daysBefore (400 * (days / 146097) + z) = 146097 * (days / 146097) + daysBefore z := by
    intro z
    unfold daysBefore
    omega
  have hfour : daysBefore y = 365 * y + y / 4 - y / 100 := by
    unfold daysBefore
    omega
  refine ⟨400 * (days / 146097) + y, days % 146097 - daysBefore y, ?_, ?_, ?_, ?_⟩
  · rw [ofDayNumber, hfour]
    simp only [hdays, ← hy, yearOfCycle, fromMarch, add_assoc]
  · rw [hcycle]
    omega
  · omega
  · rw [add_assoc, hcycle, hcycle]
    omega

theorem dayNumber_fromMarch (year : Int) {dayOfYear : Int} (h : 0 ≤ dayOfYear) (h' : dayOfYear ≤ 365) :
    (fromMarch year dayOfYear).dayNumber = daysBefore year + dayOfYear - 719468 := by
  generalize hmonth : (5 * dayOfYear + 2) / 153 = month
  simp only [fromMarch, dayNumber, daysBefore, hmonth]
  by_cases hm : month < 10
  · have hafter : ¬ (month + 3).toNat ≤ 2 := by omega
    have hmod : (((month + 3).toNat : Int) + 9) % 12 = month := by omega
    simp only [if_pos hm, if_neg hafter, hmod, add_zero]
    omega
  · have hbefore : (month - 9).toNat ≤ 2 := by omega
    have hmod : (((month - 9).toNat : Int) + 9) % 12 = month := by omega
    simp only [if_neg hm, if_pos hbefore, hmod, add_sub_cancel_right]
    omega

/-- The month and the day exist in the year. -/
structure InYear (d : Date) : Prop where
  month : 1 ≤ d.month ∧ d.month ≤ 12
  day : 1 ≤ d.day ∧ d.day ≤ daysInMonth d.year d.month

theorem inYear_fromMarch {year dayOfYear : Int} (h : 0 ≤ dayOfYear)
    (h' : daysBefore year + dayOfYear < daysBefore (year + 1)) : (fromMarch year dayOfYear).InYear := by
  rw [daysBefore_succ] at h'
  generalize hmonth : (5 * dayOfYear + 2) / 153 = month
  have hmost : dayOfYear ≤ 365 := by split at h' <;> omega
  have hlow : 0 ≤ month := by omega
  have hhigh : month ≤ 11 := by omega
  constructor
  · simp only [fromMarch, hmonth]
    split <;> omega
  · simp only [fromMarch, hmonth]
    refine ⟨by omega, ?_⟩
    by_cases hlast : month = 11
    · -- Only the length of February depends on the year.
      subst hlast
      change _ ≤ if isLeapYear (year + 1) then 29 else 28
      split at h' <;> rename_i hleap
      · rw [if_pos hleap]
        omega
      · rw [if_neg hleap]
        omega
    · interval_cases month <;> simp [daysInMonth] <;> omega

variable (n : Int)

theorem dayNumber_ofDayNumber : (ofDayNumber n).dayNumber = n := by
  obtain ⟨year, dayOfYear, hdate, hnumber, hfirst, hlast⟩ := ofDayNumber_eq n
  have hmost : dayOfYear ≤ 365 := by
    rw [daysBefore_succ] at hlast
    split at hlast <;> omega
  rw [hdate, dayNumber_fromMarch year hfirst hmost]
  omega

theorem inYear_ofDayNumber : (ofDayNumber n).InYear := by
  obtain ⟨year, dayOfYear, hdate, -, hfirst, hlast⟩ := ofDayNumber_eq n
  rw [hdate]
  exact inYear_fromMarch hfirst hlast

variable {d : Date}

theorem valid_iff :
    d.Valid ↔ d.InYear ∧ leastYear ≤ d.year ∧ d.year ≤ greatestYear := by
  constructor
  · rintro ⟨hleast, hgreatest, hmonth, hmonth', hday, hday'⟩
    exact ⟨⟨⟨hmonth, hmonth'⟩, ⟨hday, hday'⟩⟩, hleast, hgreatest⟩
  · rintro ⟨⟨hmonth, hday⟩, hleast, hgreatest⟩
    exact ⟨hleast, hgreatest, hmonth.1, hmonth.2, hday.1, hday.2⟩

theorem InYear.day_le (h : d.InYear) : d.day ≤ 31 := by
  refine h.day.2.trans ?_
  unfold daysInMonth
  split_ifs <;> decide

theorem InYear.dayNumber_neg (h : d.InYear) (hyear : d.year < 1970) : d.dayNumber < 0 := by
  have hday := h.day_le
  obtain ⟨hmonth, hmonth'⟩ := h.month
  simp only [dayNumber]
  split
  · omega
  · have hlast : ((d.month : Int) + 9) % 12 ≤ 9 := by omega
    omega

theorem InYear.dayNumber_lt (h : d.InYear) (hyear : d.year ≤ greatestYear) :
    d.dayNumber < 100000000 := by
  have hday := h.day_le
  obtain ⟨hmonth, hmonth'⟩ := h.month
  unfold greatestYear at hyear
  simp only [dayNumber]
  split <;> omega

end Date

end Spreadsheet.Calendar
