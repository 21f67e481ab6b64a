import Mathlib
import Spreadsheet.Proofs.Calendar.InternetForm
import Spreadsheet.Proofs.Decimal.Whole

namespace Spreadsheet.Calendar

open Spreadsheet.Text
open Spreadsheet.Decimal (IsWhole)

variable {a b d : Date} {cs ds bs es bs' es' : List Char}

theorem Date.Written.year_bounds (h : d.Written cs) : 0 ≤ d.year ∧ d.year ≤ 9999 := by
  cases h with
  | alone _ h => exact h.year_bounds
  | seconds h | spacedSeconds h | minutes h | spacedMinutes h | internet h => exact h.year_bounds

theorem dateForm_mem {separator : Char} (h : separator ∈ ['-', '/', '.']) :
    dateForm separator ∈ dateForms := by
  simp only [List.mem_cons, List.not_mem_nil, or_false] at h
  rcases h with rfl | rfl | rfl <;> decide

theorem ZoneText.endsVisibly {zs : List Char} (h : ZoneText zs) : EndsVisibly zs := by
  cases h with
  | universal hz => exact ⟨_, rfl, by rcases hz with rfl | rfl <;> rfl⟩
  | offset hsign hcs => exact @EndsVisibly.append_cons _ _ [] hcs.endsVisibly

theorem Date.Written.readDate? (h : d.Written cs) (hin : d.InYear) :
    Calendar.readDate? cs = some d := by
  cases h with
  | alone hsep hcs => exact hcs.readDate?_alone hin hsep (dateForm_mem hsep)
  | seconds hcs hts => exact hcs.readDate?_marked hin (by simp) hts.isTimeText (by decide)
  | spacedSeconds hcs hne hbs hts =>
    exact hcs.readDate?_spaced hin (by simp) hne hbs hts.isTimeText (by decide)
  | minutes hcs hts => exact hcs.readDate?_marked hin (by simp) hts.isTimeText (by decide)
  | spacedMinutes hcs hne hbs hts =>
    exact hcs.readDate?_spaced hin (by simp) hne hbs hts.isTimeText (by decide)
  | internet hcs hmark hts hfs hzs =>
    obtain ⟨t, ht⟩ := hcs.exists_internet? (hcs.valid hin) hmark hts hfs hzs
    refine hcs.readDate?_of_internet (hcs.valid hin) (by simp) ?_
      (hcs.trimmed hzs.endsVisibly.append.append.append_cons) ht
    rintro _ ⟨⟩
    rcases hmark with rfl | rfl | rfl <;> rfl

theorem Date.Written.readDate?_blanks (h : d.Written cs) (hin : d.InYear) (hbs : ∀ c ∈ bs, isBlank c)
    (hes : ∀ c ∈ es, isBlank c) : Calendar.readDate? (bs ++ (cs ++ es)) = some d := by
  have hread := h.readDate? hin
  rw [Calendar.readDate?] at hread ⊢
  rwa [trim_blanks_append hbs hes]

/-- Two dates in any of their written forms, with any blanks around them, are as many days apart as
it takes to get from one of them to the other: the form, the time of day and the zone do not count,
nor does the order of the two. -/
theorem daysBetween_written (ha : a.InYear) (hb : b.InYear) (hcs : a.Written cs) (hds : b.Written ds)
    (hbs : ∀ c ∈ bs, isBlank c) (hes : ∀ c ∈ es, isBlank c) (hbs' : ∀ c ∈ bs', isBlank c)
    (hes' : ∀ c ∈ es', isBlank c) :
    let days := daysBetween (bs ++ (cs ++ es)) (bs' ++ (ds ++ es'))
    (Date.next^[days] a = b ∨ Date.next^[days] b = a) ∧
      days = |a.dayNumber - b.dayNumber| ∧
      days = daysBetween (bs' ++ (ds ++ es')) (bs ++ (cs ++ es)) ∧
      IsWhole (Float.ofNat days) days := by
  have hfirst := hcs.readDate?_blanks ha hbs hes
  have hsecond := hds.readDate?_blanks hb hbs' hes'
  intro days
  have hdays : days = (a.dayNumber - b.dayNumber).natAbs := by
    simp only [days, daysBetween, hfirst, hsecond]
  have hswapped : daysBetween (bs' ++ (ds ++ es')) (bs ++ (cs ++ es)) =
      (b.dayNumber - a.dayNumber).natAbs := by
    simp only [daysBetween, hfirst, hsecond]
  have hsmall : days < 2 ^ 53 := by
    have hzero : Date.dayNumber ⟨0, 1, 1⟩ = -719528 := rfl
    have hten : Date.dayNumber ⟨10000, 1, 1⟩ = 2932897 := rfl
    have := hcs.year_bounds
    have := hds.year_bounds
    have := ha.year_lt_iff 0
    have := ha.year_lt_iff 10000
    have := hb.year_lt_iff 0
    have := hb.year_lt_iff 10000
    omega
  refine ⟨?_, by rw [hdays, Int.natCast_natAbs], by omega, Decimal.isWhole_natural hsmall⟩
  rw [Date.iterate_next_eq_iff ha hb, Date.iterate_next_eq_iff hb ha]
  omega

theorem daysBetween_centuries :
    Date.InYear ⟨1900, 2, 28⟩ ∧ Date.InYear ⟨2000, 3, 1⟩ ∧
      Date.Written ⟨1900, 2, 28⟩ "1900.2.28".toList ∧
      Date.Written ⟨2000, 3, 1⟩ "2000-03-01t23:59:60.5-14:00".toList ∧
      let days := daysBetween ([' '] ++ ("1900.2.28".toList ++ ['\n']))
        ([] ++ ("2000-03-01t23:59:60.5-14:00".toList ++ [' ']))
      (Date.next^[days] ⟨1900, 2, 28⟩ = ⟨2000, 3, 1⟩ ∨ Date.next^[days] ⟨2000, 3, 1⟩ = ⟨1900, 2, 28⟩) ∧
      days = |Date.dayNumber ⟨1900, 2, 28⟩ - Date.dayNumber ⟨2000, 3, 1⟩| ∧
      days = daysBetween ([] ++ ("2000-03-01t23:59:60.5-14:00".toList ++ [' ']))
        ([' '] ++ ("1900.2.28".toList ++ ['\n'])) ∧
      IsWhole (Float.ofNat days) days := by
  have ha : Date.InYear ⟨1900, 2, 28⟩ := ⟨by decide, by decide⟩
  have hb : Date.InYear ⟨2000, 3, 1⟩ := ⟨by decide, by decide⟩
  have hcs : Date.Written ⟨1900, 2, 28⟩ "1900.2.28".toList :=
    .alone (by decide : '.' ∈ ['-', '/', '.']) (@DateText.mk false ⟨1900, 2, 28⟩ '.' 1900
      ['1', '9', '0', '0'] ['2'] ['2', '8'] rfl (by decide) (by decide) (by decide))
  have hdate : DateText true ⟨2000, 3, 1⟩ '-' "2000-03-01".toList :=
    @DateText.mk true ⟨2000, 3, 1⟩ '-' 2000 ['2', '0', '0', '0'] ['0', '3'] ['0', '1'] rfl (by decide)
      (by decide) (by decide)
  have hminutes : MinuteText true "23:59".toList :=
    @MinuteText.mk true 23 59 ['2', '3'] ['5', '9'] (by decide) (by decide) (by decide) (by decide)
  have htime : SecondText true "23:59:60".toList :=
    @SecondText.mk true 60 _ ['6', '0'] hminutes (by decide) (by decide)
  have hoffset : MinuteText true "14:00".toList :=
    @MinuteText.mk true 14 0 ['1', '4'] ['0', '0'] (by decide) (by decide) (by decide) (by decide)
  have hds : Date.Written ⟨2000, 3, 1⟩ "2000-03-01t23:59:60.5-14:00".toList :=
    .internet hdate (.inr (.inl rfl)) htime
      (@FractionText.digits ['5'] (by decide) (List.forall_mem_singleton.mpr rfl))
      (.offset (.inr rfl) hoffset)
  exact ⟨ha, hb, hcs, hds, daysBetween_written ha hb hcs hds (List.forall_mem_singleton.mpr rfl)
    (List.forall_mem_singleton.mpr rfl) (List.forall_mem_nil _) (List.forall_mem_singleton.mpr rfl)⟩

end Spreadsheet.Calendar
