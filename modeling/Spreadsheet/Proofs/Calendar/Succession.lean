import Mathlib
import Spreadsheet.Calendar.Instant
import Spreadsheet.Proofs.Calendar.Date

namespace Spreadsheet.Calendar

def monthStart (k : Int) : Int :=
  Date.dayNumber ⟨k / 12, (k % 12).toNat + 1, 1⟩

def monthLength (k : Int) : Nat :=
  daysInMonth (k / 12) ((k % 12).toNat + 1)

theorem monthLength_pos (k : Int) : 0 < monthLength k := by
  unfold monthLength daysInMonth
  split_ifs <;> decide

theorem monthStart_succ (k : Int) : monthStart (k + 1) = monthStart k + monthLength k := by
  obtain ⟨y, m, hm, hm', rfl⟩ : ∃ y m : Int, 0 ≤ m ∧ m < 12 ∧ k = 12 * y + m :=
    ⟨k / 12, k % 12, by omega⟩
  have hyear : (12 * y + m) / 12 = y := by omega
  have hmonth : (12 * y + m) % 12 = m := by omega
  simp only [monthStart, monthLength, hyear, hmonth]
  by_cases hlast : m = 11
  · have hyear' : (12 * y + m + 1) / 12 = y + 1 := by omega
    have hmonth' : (12 * y + m + 1) % 12 = 0 := by omega
    subst hlast
    simp [hyear', hmonth', Date.dayNumber, daysInMonth]
    omega
  · have hyear' : (12 * y + m + 1) / 12 = y := by omega
    have hmonth' : (12 * y + m + 1) % 12 = m + 1 := by omega
    simp only [hyear', hmonth']
    by_cases hfebruary : m = 1
    · -- The years before and after the leap day begin in March of two years.
      subst hfebruary
      have hleap := daysBefore_succ (y - 1)
      rw [sub_add_cancel, daysBefore, daysBefore] at hleap
      simp [Date.dayNumber, daysInMonth]
      split at hleap <;> rename_i hleap' <;> simp [hleap'] <;> omega
    · interval_cases m <;> simp [Date.dayNumber, daysInMonth] at hfebruary ⊢ <;> omega

theorem strictMono_monthStart : StrictMono monthStart :=
  strictMono_int_of_lt_succ fun k => by
    rw [monthStart_succ]
    have := monthLength_pos k
    omega

namespace Date

def monthIndex (d : Date) : Int :=
  12 * d.year + (d.month - 1 : Nat)

variable {a b d : Date}

theorem InYear.monthIndex_div (h : d.InYear) : d.monthIndex / 12 = d.year := by
  have := h.month
  unfold monthIndex
  omega

theorem InYear.monthIndex_mod (h : d.InYear) : (d.monthIndex % 12).toNat + 1 = d.month := by
  have := h.month
  unfold monthIndex
  omega

theorem InYear.monthLength_eq (h : d.InYear) :
    monthLength d.monthIndex = daysInMonth d.year d.month := by
  rw [monthLength, h.monthIndex_div, h.monthIndex_mod]

theorem InYear.dayNumber_eq (h : d.InYear) :
    d.dayNumber = monthStart d.monthIndex + (d.day - 1 : Nat) := by
  have := h.day
  rw [monthStart, h.monthIndex_div, h.monthIndex_mod]
  simp only [dayNumber]
  omega

theorem InYear.month_bounds (h : d.InYear) :
    monthStart d.monthIndex ≤ d.dayNumber ∧ d.dayNumber < monthStart (d.monthIndex + 1) := by
  have hday := h.day
  rw [← h.monthLength_eq] at hday
  rw [monthStart_succ, h.dayNumber_eq]
  omega

theorem InYear.monthIndex_lt_iff (h : d.InYear) (k : Int) :
    d.monthIndex < k ↔ d.dayNumber < monthStart k := by
  obtain ⟨hfirst, hlast⟩ := h.month_bounds
  constructor
  · intro hlt
    exact hlast.trans_le (strictMono_monthStart.monotone (by omega))
  · intro hlt
    exact strictMono_monthStart.lt_iff_lt.mp (hfirst.trans_lt hlt)

/-- The dates before a year are those with a number below its first day. -/
theorem InYear.year_lt_iff (h : d.InYear) (y : Int) : d.year < y ↔ d.dayNumber < dayNumber ⟨y, 1, 1⟩ := by
  have hstart : monthStart (12 * y) = dayNumber ⟨y, 1, 1⟩ := by
    have hyear : 12 * y / 12 = y := by omega
    have hmonth : 12 * y % 12 = 0 := by omega
    rw [monthStart, hyear, hmonth]
    rfl
  have hmonth := h.month
  rw [← hstart, ← h.monthIndex_lt_iff, monthIndex]
  omega

theorem InYear.eq_of_dayNumber (ha : a.InYear) (hb : b.InYear) (h : a.dayNumber = b.dayNumber) :
    a = b := by
  have hindex : a.monthIndex = b.monthIndex := by
    have hle := hb.monthIndex_lt_iff (a.monthIndex + 1)
    have hge := ha.monthIndex_lt_iff (b.monthIndex + 1)
    have := ha.month_bounds
    have := hb.month_bounds
    omega
  have hyear : a.year = b.year := by rw [← ha.monthIndex_div, hindex, hb.monthIndex_div]
  have hmonth : a.month = b.month := by rw [← ha.monthIndex_mod, hindex, hb.monthIndex_mod]
  have hday : a.day = b.day := by
    rw [ha.dayNumber_eq, hb.dayNumber_eq, hindex] at h
    have := ha.day
    have := hb.day
    omega
  cases a
  cases b
  simp_all

def next (d : Date) : Date :=
  if d.day < daysInMonth d.year d.month then { d with day := d.day + 1 }
  else if d.month < 12 then ⟨d.year, d.month + 1, 1⟩
  else ⟨d.year + 1, 1, 1⟩

theorem daysInMonth_pos (year : Int) (month : Nat) : 1 ≤ daysInMonth year month := by
  unfold daysInMonth
  split_ifs <;> decide

theorem InYear.next (h : d.InYear) : d.next.InYear := by
  obtain ⟨hmonth, hday⟩ := h
  unfold Date.next
  split
  · rename_i hinside
    exact ⟨hmonth, Nat.le_add_left 1 d.day, hinside⟩
  · split
    · rename_i hbefore
      exact ⟨⟨Nat.le_add_left 1 d.month, hbefore⟩, le_rfl, daysInMonth_pos _ _⟩
    · exact ⟨⟨le_rfl, Nat.le_add_left 1 11⟩, le_rfl, daysInMonth_pos _ _⟩

theorem InYear.dayNumber_next (h : d.InYear) : d.next.dayNumber = d.dayNumber + 1 := by
  have hnext := h.next
  have hsucc := monthStart_succ d.monthIndex
  rw [hnext.dayNumber_eq, h.dayNumber_eq]
  rw [h.monthLength_eq] at hsucc
  obtain ⟨hmonth, hday⟩ := h
  unfold Date.next
  split
  · rename_i hinside
    simp only [monthIndex]
    omega
  · have hlast : d.day = daysInMonth d.year d.month := by omega
    rw [← hlast] at hsucc
    have hindex : ∀ e : Date, e.monthIndex = d.monthIndex + 1 → e.day = 1 →
        monthStart e.monthIndex + (e.day - 1 : Nat) = monthStart d.monthIndex + (d.day - 1 : Nat) + 1 := by
      intro e he hone
      rw [he, hone, hsucc]
      omega
    split
    · refine hindex _ ?_ rfl
      simp only [monthIndex]
      omega
    · refine hindex _ ?_ rfl
      simp only [monthIndex]
      omega

theorem InYear.iterate_next (h : d.InYear) (n : Nat) :
    (Date.next^[n] d).InYear ∧ (Date.next^[n] d).dayNumber = d.dayNumber + n := by
  induction n with
  | zero => exact ⟨h, by simp⟩
  | succ n ih =>
    rw [Function.iterate_succ_apply']
    refine ⟨ih.1.next, ?_⟩
    rw [ih.1.dayNumber_next, ih.2]
    push_cast
    ring

/-- So many days after a date is the date whose number is greater by so many. -/
theorem iterate_next_eq_iff (ha : a.InYear) (hb : b.InYear) (n : Nat) :
    Date.next^[n] a = b ↔ b.dayNumber = a.dayNumber + n := by
  obtain ⟨hyear, hnumber⟩ := ha.iterate_next n
  constructor
  · rintro rfl
    exact hnumber
  · intro h
    exact hyear.eq_of_dayNumber hb (hnumber.trans h.symm)

def firstDay : Int :=
  dayNumber ⟨leastYear, 1, 1⟩

def lastDay : Int :=
  dayNumber ⟨greatestYear, 12, 31⟩

theorem InYear.inSpan_iff (h : d.InYear) :
    leastYear ≤ d.year ∧ d.year ≤ greatestYear ↔ firstDay ≤ d.dayNumber ∧ d.dayNumber ≤ lastDay := by
  have hlast : dayNumber ⟨greatestYear + 1, 1, 1⟩ = lastDay + 1 := by decide
  have hleast := h.year_lt_iff leastYear
  have hgreatest := h.year_lt_iff (greatestYear + 1)
  rw [← firstDay] at hleast
  rw [hlast] at hgreatest
  omega

end Date

theorem Instant.valid?_isSome_iff (t : Instant) :
    t.valid?.isSome ↔ Date.firstDay ≤ t.seconds / 86400 ∧ t.seconds / 86400 ≤ Date.lastDay := by
  have hspan := (Date.inYear_ofDayNumber (t.seconds / 86400)).inSpan_iff
  rw [Date.dayNumber_ofDayNumber] at hspan
  rw [← hspan, valid?, Option.isSome_ite]
  rfl

end Spreadsheet.Calendar
