import Mathlib
import Spreadsheet.Column.Validation
import Spreadsheet.Proofs.Text.Classes
import Spreadsheet.Proofs.Text.Collation
import Spreadsheet.Proofs.Text.Search

namespace Spreadsheet

open Spreadsheet.Text

/-- Hours, minutes and perhaps seconds between colons, minutes and seconds with two characters. -/
inductive ClockOf (field : Nat → List Char → Prop) : List Char → Prop
  | minutes {h m : List Char} (hh : field 23 h) (hm : field 59 m) (hlm : m.length = 2) :
      ClockOf field (h ++ ':' :: m)
  | seconds {h m s : List Char} (hh : field 23 h) (hm : field 59 m) (hlm : m.length = 2)
      (hs : field 59 s) (hls : s.length = 2) : ClockOf field (h ++ ':' :: (m ++ ':' :: s))

structure IsClockNumeral (most : Nat) (cs : List Char) : Prop where
  length : cs.length = 1 ∨ cs.length = 2
  digits : ∀ c ∈ cs, c.isDigit
  value_le : valueFrom 0 cs ≤ most

def IsTimeOfDay : List Char → Prop :=
  ClockOf IsClockNumeral

/-- A numeral, or one of a single digit behind a plus sign. -/
def IsSignedNumeral (most : Nat) (cs : List Char) : Prop :=
  IsClockNumeral most cs ∨ ∃ d, cs = ['+', d] ∧ IsClockNumeral most [d]

variable {most : Nat} {cs : List Char}

theorem any_numeral?_iff :
    (numeral? cs).any (· ≤ most) = true ↔
      cs ≠ [] ∧ (∀ c ∈ cs, c.isDigit) ∧ valueFrom 0 cs ≤ most := by
  simp only [Option.any_eq_true, numeral?_eq_some_iff, decide_eq_true_eq]
  constructor
  · rintro ⟨n, ⟨⟨hne, hdigits⟩, rfl⟩, hvalue⟩
    exact ⟨hne, hdigits, hvalue⟩
  · rintro ⟨hne, hdigits, hvalue⟩
    exact ⟨_, ⟨⟨hne, hdigits⟩, rfl⟩, hvalue⟩

theorem byteLength_of_isDigit (h : ∀ c ∈ cs, c.isDigit) : byteLength cs = cs.length :=
  byteLength_of_lt fun c hc => lt_of_isDigit (h c hc)

theorem isClockField_plus (ds : List Char) :
    isClockField most ('+' :: ds) = true ↔ ∃ d, ds = [d] ∧ IsClockNumeral most [d] := by
  have hplus : byteLength ('+' :: ds) = 1 + byteLength ds := byteLength_cons '+' ds
  simp only [isClockField, hplus, Bool.and_eq_true, decide_eq_true_eq, any_numeral?_iff]
  constructor
  · rintro ⟨⟨-, hlength⟩, hne, hdigits, hvalue⟩
    rw [byteLength_of_isDigit hdigits] at hlength
    have hone : ds.length = 1 := by
      have := List.length_pos_iff.mpr hne
      omega
    obtain ⟨d, rfl⟩ := List.length_eq_one_iff.mp hone
    exact ⟨d, rfl, .inl rfl, hdigits, hvalue⟩
  · rintro ⟨d, rfl, hfield⟩
    rw [byteLength_of_isDigit hfield.digits]
    exact ⟨⟨rfl, le_rfl⟩, by simp, hfield.digits, hfield.value_le⟩

theorem isClockField_of_head (h : cs.head? ≠ some '+') :
    isClockField most cs = true ↔ IsClockNumeral most cs := by
  have hplain : isClockField most cs =
      (cs != [] && byteLength cs ≤ 2 && (numeral? cs).any (· ≤ most)) := by
    unfold isClockField
    split
    · exact absurd rfl h
    · rfl
  simp only [hplain, Bool.and_eq_true, bne_iff_ne, decide_eq_true_eq, any_numeral?_iff]
  constructor
  · rintro ⟨⟨hne, hlength⟩, -, hdigits, hvalue⟩
    rw [byteLength_of_isDigit hdigits] at hlength
    have := List.length_pos_iff.mpr hne
    exact ⟨by omega, hdigits, hvalue⟩
  · intro hfield
    have hlength := hfield.length
    have hne : cs ≠ [] := by
      rintro rfl
      simp at hlength
    rw [byteLength_of_isDigit hfield.digits]
    exact ⟨⟨hne, by omega⟩, hne, hfield.digits, hfield.value_le⟩

theorem IsClockNumeral.ne_of_mem {c : Char} (h : IsClockNumeral most cs) (hc : c ∈ cs) :
    c ≠ '+' ∧ c ≠ ':' := by
  have hdigit := h.digits c hc
  constructor
  · rintro rfl
    exact absurd hdigit (by decide)
  · rintro rfl
    exact absurd hdigit (by decide)

theorem isClockField_iff : isClockField most cs = true ↔ IsSignedNumeral most cs := by
  by_cases h : cs.head? = some '+'
  · obtain ⟨ds, rfl⟩ := List.head?_eq_some_iff.mp h
    have hno : ¬ IsClockNumeral most ('+' :: ds) := fun hfield =>
      (hfield.ne_of_mem List.mem_cons_self).1 rfl
    rw [isClockField_plus, IsSignedNumeral, or_iff_right hno]
    simp
  · have hno : ¬ ∃ d, cs = ['+', d] ∧ IsClockNumeral most [d] := by
      rintro ⟨d, rfl, -⟩
      exact h rfl
    rw [isClockField_of_head h, IsSignedNumeral, or_iff_left hno]

theorem IsSignedNumeral.byteLength_eq (h : IsSignedNumeral most cs) :
    byteLength cs = cs.length := by
  apply byteLength_of_lt
  rcases h with h | ⟨d, rfl, h⟩
  · exact fun c hc => lt_of_isDigit (h.digits c hc)
  · intro c hc
    rcases List.mem_pair.mp hc with rfl | rfl
    · decide
    · exact lt_of_isDigit (h.digits c List.mem_cons_self)

theorem IsSignedNumeral.colon_not_mem (h : IsSignedNumeral most cs) : ':' ∉ cs := by
  rcases h with h | ⟨d, rfl, h⟩
  · exact fun hc => (h.ne_of_mem hc).2 rfl
  · have hd := (h.ne_of_mem List.mem_cons_self).2
    simp [Ne.symm hd]

theorem isClock_iff : isClock cs = true ↔ ClockOf IsSignedNumeral cs := by
  have hjoined := intercalate_splitOn ':' cs
  constructor
  · intro hclock
    unfold isClock at hclock
    split at hclock
    · rename_i h m hpieces
      have hcs : h ++ ':' :: m = cs := by simpa [hpieces, List.intercalate] using hjoined
      simp only [Bool.and_eq_true, beq_iff_eq, isClockField_iff] at hclock
      obtain ⟨⟨hh, hlm⟩, hm⟩ := hclock
      rw [hm.byteLength_eq] at hlm
      exact hcs ▸ .minutes hh hm hlm
    · rename_i h m s hpieces
      have hcs : h ++ ':' :: (m ++ ':' :: s) = cs := by
        simpa [hpieces, List.intercalate] using hjoined
      simp only [Bool.and_eq_true, beq_iff_eq, isClockField_iff] at hclock
      obtain ⟨⟨⟨⟨hh, hlm⟩, hm⟩, hls⟩, hs⟩ := hclock
      rw [hm.byteLength_eq] at hlm
      rw [hs.byteLength_eq] at hls
      exact hcs ▸ .seconds hh hm hlm hs hls
    · cases hclock
  · intro hclock
    cases hclock with
    | minutes hh hm hlm =>
      rw [isClock, splitOn_append hh.colon_not_mem, splitOn_of_not_mem hm.colon_not_mem]
      simp only [Bool.and_eq_true, beq_iff_eq, isClockField_iff, hm.byteLength_eq]
      exact ⟨⟨hh, hlm⟩, hm⟩
    | seconds hh hm hlm hs hls =>
      rw [isClock, splitOn_append hh.colon_not_mem, splitOn_append hm.colon_not_mem,
        splitOn_of_not_mem hs.colon_not_mem]
      simp only [Bool.and_eq_true, beq_iff_eq, isClockField_iff, hm.byteLength_eq,
        hs.byteLength_eq]
      exact ⟨⟨⟨⟨hh, hlm⟩, hm⟩, hls⟩, hs⟩

theorem IsTimeOfDay.plus_not_mem (h : IsTimeOfDay cs) : '+' ∉ cs := by
  have hfield : ∀ {most : Nat} {ds : List Char}, IsClockNumeral most ds → '+' ∉ ds :=
    fun hds hplus => (hds.ne_of_mem hplus).1 rfl
  rcases h with ⟨hh, hm, -⟩ | ⟨hh, hm, -, hs, -⟩
  · simp [hfield hh, hfield hm]
  · simp [hfield hh, hfield hm, hfield hs]

theorem IsSignedNumeral.isClockNumeral (h : IsSignedNumeral most cs) (hplus : '+' ∉ cs) :
    IsClockNumeral most cs := by
  rcases h with h | ⟨d, rfl, -⟩
  · exact h
  · exact absurd List.mem_cons_self hplus

/-- Texts without a plus sign pass only as times of day. -/
theorem clockOf_isSignedNumeral_iff (hplus : '+' ∉ cs) :
    ClockOf IsSignedNumeral cs ↔ IsTimeOfDay cs := by
  constructor
  · rintro (⟨hh, hm, hlm⟩ | ⟨hh, hm, hlm, hs, hls⟩)
    · simp only [List.mem_append, List.mem_cons, not_or] at hplus
      exact .minutes (hh.isClockNumeral hplus.1) (hm.isClockNumeral hplus.2.2) hlm
    · simp only [List.mem_append, List.mem_cons, not_or] at hplus
      exact .seconds (hh.isClockNumeral hplus.1) (hm.isClockNumeral hplus.2.2.1) hlm
        (hs.isClockNumeral hplus.2.2.2.2) hls
  · rintro (⟨hh, hm, hlm⟩ | ⟨hh, hm, hlm, hs, hls⟩)
    · exact .minutes (.inl hh) (.inl hm) hlm
    · exact .seconds (.inl hh) (.inl hm) hlm (.inl hs) hls

namespace Column

variable {c : Column} {s : String}

theorem validate_time (hkind : c.kind = .time) (hpattern : c.rules.pattern = none) (hs : s ≠ "") :
    c.validate (.text s) = if isClock s.toList then [] else [.invalidTime s] := by
  have hempty : (Cell.text s).isEmpty = false := by simpa [Cell.isEmpty] using hs
  have hissues : c.kindIssues (.text s) = if isClock s.toList then [] else [.invalidTime s] := by
    rw [kindIssues, hkind]
    rfl
  have hbounds : c.boundIssues (.text s) = [] := by
    simp [boundIssues, hkind, ColumnKind.isNumeric]
  have hmatches : c.patternIssues (.text s) = [] := by
    simp [patternIssues, hpattern]
  rw [validate, hempty, hissues, hbounds, hmatches, List.append_nil, List.append_nil]
  rfl

/-- In a column of times without a pattern a text passes exactly if it is a clock in which a plus
sign may stand for the first of two digits. Every time of day is one, and a text without a plus sign
passes only if it is a time of day. -/
theorem validate_time_eq_nil_iff (hkind : c.kind = .time) (hpattern : c.rules.pattern = none)
    (hs : s ≠ "") :
    (c.validate (.text s) = [] ↔ ClockOf IsSignedNumeral s.toList) ∧
      (IsTimeOfDay s.toList → c.validate (.text s) = []) ∧
      ('+' ∉ s.toList → (c.validate (.text s) = [] ↔ IsTimeOfDay s.toList)) := by
  have hclock : c.validate (.text s) = [] ↔ ClockOf IsSignedNumeral s.toList := by
    rw [validate_time hkind hpattern hs, ← isClock_iff]
    simp
  refine ⟨hclock, fun htime => ?_, fun hplus => ?_⟩
  · rw [hclock, clockOf_isSignedNumeral_iff htime.plus_not_mem]
    exact htime
  · rw [hclock, clockOf_isSignedNumeral_iff hplus]

def startColumn : Column :=
  .ofKind "start" .time

theorem start_validate :
    startColumn.kind = .time ∧ startColumn.rules.pattern = none ∧
      (startColumn.validate (.text "7:+5") = [] ∧ ClockOf IsSignedNumeral "7:+5".toList) ∧
      (startColumn.validate (.text "7:05:30") = [] ∧ IsTimeOfDay "7:05:30".toList) ∧
      startColumn.validate (.text "24:00") = [.invalidTime "24:00"] ∧
      ¬ IsTimeOfDay "24:00".toList := by
  have hkind : startColumn.kind = .time := rfl
  have hpattern : startColumn.rules.pattern = none := rfl
  have hsign : startColumn.validate (.text "7:+5") = [] := by decide
  have htime : startColumn.validate (.text "7:05:30") = [] := by decide
  have hlate : startColumn.validate (.text "24:00") = [.invalidTime "24:00"] := by decide
  obtain ⟨hsigned, -, -⟩ := validate_time_eq_nil_iff (s := "7:+5") hkind hpattern (by decide)
  obtain ⟨-, -, hplain⟩ := validate_time_eq_nil_iff (s := "7:05:30") hkind hpattern (by decide)
  obtain ⟨-, hpasses, -⟩ := validate_time_eq_nil_iff (s := "24:00") hkind hpattern (by decide)
  refine ⟨hkind, hpattern, ⟨hsign, hsigned.mp hsign⟩, ⟨htime, (hplain (by decide)).mp htime⟩, hlate,
    fun h => ?_⟩
  rw [hpasses h] at hlate
  cases hlate

/-- A sign before the hour is no part of a time of day, and passes. -/
theorem signedHour_validate :
    startColumn.kind = .time ∧ startColumn.rules.pattern = none ∧ ¬ IsTimeOfDay "+7:05".toList ∧
      startColumn.validate (.text "+7:05") = [] := by
  refine ⟨rfl, rfl, fun h => ?_, by decide⟩
  exact h.plus_not_mem (by decide)

end Column

end Spreadsheet
