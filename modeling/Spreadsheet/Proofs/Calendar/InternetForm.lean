import Mathlib
import Spreadsheet.Proofs.Calendar.DateForm
import Spreadsheet.Proofs.Calendar.Succession

namespace Spreadsheet.Calendar

open Spreadsheet.Text

variable {d : Date} {cs rest : List Char}

theorem Field.spanFixed? {width n : Nat} {ds : List Char} (h : Field true width n ds)
    (hrest : ∀ c ∈ rest.head?, c.isDigit = false) :
    spanFixed? width (ds ++ rest) = some (n, rest) := by
  obtain rfl := h.full rfl
  rw [Calendar.spanFixed?, spanDigits_append h.isDigit hrest]
  simp [numeral?_of_isDigit h.ne_nil h.isDigit, h.value]

theorem FractionText.exists_spanFraction? {fs : List Char} (h : FractionText fs)
    (hrest : ∀ c ∈ rest.head?, c.isDigit = false ∧ c ≠ '.') :
    ∃ nanos, spanFraction? (fs ++ rest) = some (nanos, rest) := by
  cases h with
  | none =>
    refine ⟨0, ?_⟩
    rw [List.nil_append]
    unfold spanFraction?
    split
    · exact absurd rfl (hrest '.' rfl).2
    · rfl
  | @digits ds hne hds =>
    have hspan := spanDigits_append hds fun c hc => (hrest c hc).1
    have htake : ∀ c ∈ ds.take 9, c.isDigit := fun c hc => hds c (List.mem_of_mem_take hc)
    have hne' : ds.take 9 ≠ [] := by simpa using hne
    exact ⟨valueFrom 0 (ds.take 9) * tenTo (9 - (ds.take 9).length), by
      rw [List.cons_append, spanFraction?]
      simp only [hspan, numeral?_of_isDigit hne' htake, Option.map_some]⟩

theorem ZoneText.head {zs : List Char} (h : ZoneText zs) :
    ∀ c ∈ zs.head?, c.isDigit = false ∧ c ≠ '.' := by
  intro c hc
  cases h with
  | universal hz =>
    obtain rfl := Option.some.inj hc
    rcases hz with rfl | rfl <;> decide
  | offset hsign =>
    obtain rfl := Option.some.inj hc
    rcases hsign with rfl | rfl <;> decide

theorem ZoneText.exists_zone? {zs : List Char} (h : ZoneText zs) :
    ∃ offset, zone? colon? zs = some (offset, []) ∧ offset.natAbs < 86400 := by
  cases h with
  | universal hz => exact ⟨0, by simp [zone?, hz], by decide⟩
  | @offset sign cs hsign hcs =>
    cases hcs with
    | @mk hour minute hs ms hhour hminute hhs hms =>
      obtain ⟨unit, hunit, hsize⟩ : ∃ unit, offsetSign? sign = some unit ∧ unit.natAbs = 1 := by
        rcases hsign with rfl | rfl
        · exact ⟨1, rfl, rfl⟩
        · exact ⟨-1, by decide, rfl⟩
      have hzulu : ¬ (sign = 'Z' ∨ sign = 'z') := by
        rcases hsign with rfl | rfl <;> decide
      have hhours : spanFixed? 2 (hs ++ ':' :: ms) = some (hour, ':' :: ms) :=
        hhs.spanFixed? (by simp)
      have hminutes : spanFixed? 2 (ms ++ []) = some (minute, []) := hms.spanFixed? (by simp)
      rw [List.append_nil] at hminutes
      refine ⟨unit * (hour * 3600 + minute * 60), ?_, ?_⟩
      · have hsixty : minute < 60 := by omega
        rw [zone?, if_neg hzulu]
        simp [hunit, hhours, colon?, hminutes, hsixty]
      · rw [Int.natAbs_mul, hsize]
        omega

/-- A stamp with a date of four digits is an instant in every zone. -/
theorem Stamp.exists_instant? {s : Stamp} (hs : s.date? = some d) (hd : d.InYear)
    (hyear : 0 ≤ d.year ∧ d.year ≤ 9999) (hhour : s.hour ≤ 23) (hminute : s.minute ≤ 59)
    (hsecond : s.second ≤ 60) {offset : Int} (hoffset : offset.natAbs < 86400) :
    ∃ t, s.instant? offset = some t := by
  have hfirst := hd.year_lt_iff 0
  have hlast := hd.year_lt_iff 10000
  have hzero : Date.dayNumber ⟨0, 1, 1⟩ = -719528 := rfl
  have hten : Date.dayNumber ⟨10000, 1, 1⟩ = 2932897 := rfl
  have hleast : Date.firstDay = -96465292 := rfl
  have hgreatest : Date.lastDay = 95026236 := rfl
  rw [← Option.isSome_iff_exists, Stamp.instant?, hs]
  simp only [Option.bind_eq_bind, Option.bind_some]
  rw [Instant.valid?_isSome_iff]
  dsimp only
  omega

theorem FractionText.isDigit_head {fs zs : List Char} (h : FractionText fs) (hzs : ZoneText zs) :
    ∀ c ∈ (fs ++ zs).head?, c.isDigit = false := by
  cases h with
  | none => exact fun c hc => (hzs.head c hc).1
  | digits => simp

theorem DateText.exists_spanInternet? (h : DateText true d '-' cs) (hd : d.Valid) {mark : Char}
    (hmark : mark = 'T' ∨ mark = 't' ∨ mark = ' ') {ts fs zs : List Char} (hts : SecondText true ts)
    (hfs : FractionText fs) (hzs : ZoneText zs) :
    ∃ (s : Stamp) (offset : Int),
      spanInternet? (cs ++ mark :: (ts ++ (fs ++ zs))) = some ((s, offset), []) ∧
        s.date? = some d ∧ s.hour ≤ 23 ∧ s.minute ≤ 59 ∧ s.second ≤ 60 ∧ offset.natAbs < 86400 := by
  obtain ⟨offset, hoffset, hsize⟩ := hzs.exists_zone?
  obtain ⟨nanos, hnanos⟩ := hfs.exists_spanFraction? hzs.head
  obtain ⟨hyear, hys, hms, hds⟩ := h
  obtain ⟨⟨hhour, hminute, hhs, hmins⟩, hsecond, hss⟩ := hts
  rename_i year ys ms ds second ss hour minute hs mins
  have hstamp : Stamp.date? ⟨year, d.month, d.day, hour, minute, second, nanos⟩ = some d := by
    rw [← hyear]
    exact if_pos hd
  refine ⟨⟨year, d.month, d.day, hour, minute, second, nanos⟩, offset, ?_, hstamp, hhour, hminute,
    hsecond, hsize⟩
  have hhyphen : ∀ cs, ∀ c ∈ ('-' :: cs : List Char).head?, c.isDigit = false := by simp
  have hcolon : ∀ cs, ∀ c ∈ (':' :: cs : List Char).head?, c.isDigit = false := by simp
  have hbehind : ∀ cs, ∀ c ∈ (mark :: cs).head?, c.isDigit = false := by
    rintro cs c ⟨⟩
    rcases hmark with rfl | rfl | rfl <;> rfl
  simp only [List.append_assoc, List.cons_append]
  refine Option.bind_eq_some_iff.mpr ⟨_, hys.spanFixed? (hhyphen _), ?_⟩
  refine Option.bind_eq_some_iff.mpr ⟨_, Part.read?_mark '-', ?_⟩
  refine Option.bind_eq_some_iff.mpr ⟨_, hms.spanFixed? (hhyphen _), ?_⟩
  refine Option.bind_eq_some_iff.mpr ⟨_, Part.read?_mark '-', ?_⟩
  refine Option.bind_eq_some_iff.mpr ⟨_, hds.spanFixed? (hbehind _), ?_⟩
  refine (if_pos hmark).trans ?_
  refine Option.bind_eq_some_iff.mpr ⟨_, rfl, ?_⟩
  refine Option.bind_eq_some_iff.mpr ⟨_, hhs.spanFixed? (hcolon _), ?_⟩
  refine Option.bind_eq_some_iff.mpr ⟨_, rfl, ?_⟩
  refine Option.bind_eq_some_iff.mpr ⟨_, hmins.spanFixed? (hcolon _), ?_⟩
  refine Option.bind_eq_some_iff.mpr ⟨_, rfl, ?_⟩
  refine Option.bind_eq_some_iff.mpr ⟨_, hss.spanFixed? (hfs.isDigit_head hzs), ?_⟩
  refine Option.bind_eq_some_iff.mpr ⟨_, hnanos, ?_⟩
  refine Option.bind_eq_some_iff.mpr ⟨_, hoffset, ?_⟩
  exact if_pos ⟨hhour, hminute, hsecond, hsize⟩

theorem DateText.exists_internet? (h : DateText true d '-' cs) (hd : d.Valid) {mark : Char}
    (hmark : mark = 'T' ∨ mark = 't' ∨ mark = ' ') {ts fs zs : List Char} (hts : SecondText true ts)
    (hfs : FractionText fs) (hzs : ZoneText zs) :
    ∃ t, internet? (cs ++ mark :: (ts ++ (fs ++ zs))) = some (t, d) := by
  obtain ⟨s, offset, hspan, hdate, hhour, hminute, hsecond, hsize⟩ :=
    h.exists_spanInternet? hd hmark hts hfs hzs
  obtain ⟨t, ht⟩ := Stamp.exists_instant? hdate (Date.valid_iff.mp hd).1 h.year_bounds hhour hminute
    hsecond hsize
  refine ⟨t, ?_⟩
  rw [internet?, hspan]
  simp only [Option.bind_eq_bind, Option.bind_some, if_true, ht, hdate]

end Spreadsheet.Calendar
