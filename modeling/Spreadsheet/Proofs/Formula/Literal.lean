import Mathlib
import Spreadsheet.Formula.Lexer
import Spreadsheet.Proofs.Text.Classes

namespace Spreadsheet.Formula

open Spreadsheet.Text

structure Exponent where
  mark : Char
  sign : Option Char
  digits : List Char
  mark_eq : mark = 'e' ∨ mark = 'E'
  sign_eq : ∀ c ∈ sign, c = '+' ∨ c = '-'
  digits_ne : digits ≠ []
  isDigit : ∀ c ∈ digits, c.isDigit

namespace Exponent

def chars (x : Exponent) : List Char :=
  x.mark :: (x.sign.toList ++ x.digits)

def value (x : Exponent) : Int :=
  if x.sign = some '-' then -valueFrom 0 x.digits else valueFrom 0 x.digits

def lower (x : Exponent) : Exponent :=
  { x with mark := 'e', mark_eq := .inl rfl }

end Exponent

/-- An unsigned decimal: digits with an optional point, at least one digit on one side of it, and an
optional exponent. -/
structure Literal where
  whole : List Char
  fraction : Option (List Char)
  exponent : Option Exponent
  whole_isDigit : ∀ c ∈ whole, c.isDigit
  fraction_isDigit : ∀ ds ∈ fraction, ∀ c ∈ ds, c.isDigit
  digits_ne : whole ++ fraction.getD [] ≠ []

namespace Literal

def point (l : Literal) : List Char :=
  l.fraction.elim [] ('.' :: ·)

def power (l : Literal) : List Char :=
  l.exponent.elim [] Exponent.chars

def chars (l : Literal) : List Char :=
  l.whole ++ (l.point ++ l.power)

def value (l : Literal) : Float :=
  Decimal.nearest (valueFrom 0 (l.whole ++ l.fraction.getD []))
    (l.exponent.elim 0 Exponent.value - (l.fraction.getD []).length)

def lower (l : Literal) : Literal :=
  { l with exponent := l.exponent.map Exponent.lower }

/-- A literal ends where such a character follows. -/
def Stops (c : Char) : Prop :=
  c.isDigit = false ∧ c ≠ '.' ∧ c ≠ 'e' ∧ c ≠ 'E'

instance (c : Char) : Decidable (Stops c) :=
  inferInstanceAs (Decidable (_ ∧ _))

theorem value_lower (l : Literal) : l.lower.value = l.value := by
  obtain ⟨whole, fraction, exponent, _, _, _⟩ := l
  cases exponent <;> rfl

end Literal

theorem exponent?_chars (x : Exponent) : Decimal.exponent? x.chars = some x.value := by
  obtain ⟨mark, sign, ds, hm, hs, hne, hd⟩ := x
  have hn := numeral?_of_isDigit hne hd
  cases sign with
  | none =>
    cases ds with
    | nil => exact absurd rfl hne
    | cons d ds =>
      have hdigit : d.isDigit := hd d List.mem_cons_self
      have hplus : d ≠ '+' := by
        rintro rfl
        cases hdigit
      have hminus : d ≠ '-' := by
        rintro rfl
        cases hdigit
      simp [Exponent.chars, Exponent.value, Decimal.exponent?, hm, hplus, hminus, hn]
  | some c =>
    rcases hs c rfl with rfl | rfl
    · simp [Exponent.chars, Exponent.value, Decimal.exponent?, hm, hn]
    · simp [Exponent.chars, Exponent.value, Decimal.exponent?, hm, hn]

theorem Exponent.spanNumber_chars (x : Exponent) {rest : List Char}
    (h : ∀ c ∈ rest.head?, c.isDigit = false) :
    spanNumber (x.chars ++ rest) = (x.lower.chars, rest) := by
  obtain ⟨mark, sign, ds, hm, hs, hne, hd⟩ := x
  have hspan := spanDigits_append hd h
  have hmark : spanDigits (mark :: (sign.toList ++ (ds ++ rest))) =
      ([], mark :: (sign.toList ++ (ds ++ rest))) :=
    spanDigits_stop (by rcases hm with rfl | rfl <;> simp)
  have hpoint : mark ≠ '.' := by rcases hm with rfl | rfl <;> decide
  cases sign with
  | none =>
    cases ds with
    | nil => exact absurd rfl hne
    | cons d ds =>
      have hdigit := hd d List.mem_cons_self
      have hsign : ¬ (d = '+' ∨ d = '-') := by
        rintro (rfl | rfl) <;> cases hdigit
      simp only [List.cons_append] at hspan
      simp only [Option.toList_none, List.nil_append, List.cons_append] at hmark
      simp [Exponent.chars, Exponent.lower, spanNumber, hmark, hpoint, hm, hsign, hspan]
  | some c =>
    simp only [Option.toList_some, List.singleton_append] at hmark
    have hsign := hs c rfl
    simp [Exponent.chars, Exponent.lower, spanNumber, hmark, hpoint, hm, hsign, hspan]

theorem spanNumber_stop {rest : List Char} (h : ∀ c ∈ rest.head?, Literal.Stops c) :
    spanNumber rest = ([], rest) := by
  cases rest with
  | nil => rfl
  | cons c rest =>
    obtain ⟨hd, hpoint, he, hE⟩ := h c rfl
    simp [spanNumber, spanDigits, hd, hpoint, he, hE]

namespace Literal

theorem exponent?_power (l : Literal) :
    Decimal.exponent? l.power = some (l.exponent.elim 0 Exponent.value) := by
  unfold power
  cases l.exponent with
  | none => rfl
  | some x => exact exponent?_chars x

theorem stops_of_mem_power (l : Literal) : ∀ c ∈ l.power.head?, c.isDigit = false ∧ c ≠ '.' := by
  intro c hc
  unfold power at hc
  cases hx : l.exponent with
  | none => simp [hx] at hc
  | some x =>
    obtain rfl : x.mark = c := by simpa [hx, Exponent.chars] using hc
    rcases x.mark_eq with h | h <;> rw [h] <;> decide

theorem spanDigits_chars (l : Literal) {rest : List Char} (h : ∀ c ∈ rest.head?, c.isDigit = false) :
    spanDigits (l.whole ++ (l.point ++ rest)) = (l.whole, l.point ++ rest) := by
  refine spanDigits_append l.whole_isDigit fun c hc => ?_
  unfold point at hc
  cases hf : l.fraction with
  | none => exact h c (by simpa [hf] using hc)
  | some ds =>
    obtain rfl : '.' = c := by simpa [hf] using hc
    rfl

theorem unsigned?_chars (l : Literal) : Decimal.unsigned? l.chars = some l.value := by
  have hd := fun c hc => (l.stops_of_mem_power c hc).1
  have hx := l.exponent?_power
  have hne := l.digits_ne
  have hspan := l.spanDigits_chars hd
  unfold Decimal.unsigned? chars value
  rw [hspan]
  cases hf : l.fraction with
  | none =>
    have hpoint : ∀ ds, l.power ≠ '.' :: ds := fun ds hds =>
      (l.stops_of_mem_power '.' (by rw [hds]; rfl)).2 rfl
    simp only [hf, Option.getD_none, List.append_nil] at hne
    simp [point, hf, hx, hne]
  | some ds =>
    have hds := spanDigits_append (l.fraction_isDigit ds hf) hd
    simp only [hf, Option.getD_some, ne_eq, List.append_eq_nil_iff] at hne
    simp [point, hf, hds, hx, hne]

theorem spanNumber_eq (l : Literal) {tail : List Char}
    (h : ∀ c ∈ tail.head?, c.isDigit = false ∧ c ≠ '.') :
    spanNumber (l.whole ++ (l.point ++ tail)) =
      (l.whole ++ (l.point ++ (spanNumber tail).1), (spanNumber tail).2) := by
  have hd := fun c hc => (h c hc).1
  have htail := spanDigits_stop hd
  have hpoint : ∀ ds, tail ≠ '.' :: ds := fun ds hds => (h '.' (by rw [hds]; rfl)).2 rfl
  unfold spanNumber
  rw [l.spanDigits_chars hd, htail]
  cases hf : l.fraction with
  | none => simp [point, hf]
  | some ds =>
    have hds := spanDigits_append (l.fraction_isDigit ds hf) hd
    simp [point, hf, hds]

theorem spanNumber_chars (l : Literal) {rest : List Char} (h : ∀ c ∈ rest.head?, Stops c) :
    spanNumber (l.chars ++ rest) = (l.lower.chars, rest) := by
  have hpower : spanNumber (l.power ++ rest) = (l.lower.power, rest) := by
    unfold power lower
    cases hx : l.exponent with
    | none => simpa using spanNumber_stop h
    | some x => simpa using x.spanNumber_chars fun c hc => (h c hc).1
  have htail : ∀ c ∈ (l.power ++ rest).head?, c.isDigit = false ∧ c ≠ '.' := by
    intro c hc
    have hp := l.stops_of_mem_power
    cases hl : l.power with
    | nil =>
      rw [hl] at hc
      exact ⟨(h c hc).1, (h c hc).2.1⟩
    | cons d ds =>
      rw [hl] at hc hp
      exact hp c hc
  rw [chars, List.append_assoc, List.append_assoc, l.spanNumber_eq htail, hpower]
  rfl

theorem exists_chars (l : Literal) :
    ∃ c cs, l.chars = c :: cs ∧ (c.isDigit ∨ c = '.') := by
  have hne := l.digits_ne
  unfold chars point
  cases hw : l.whole with
  | cons c cs => exact ⟨c, _, rfl, .inl (l.whole_isDigit c (by simp [hw]))⟩
  | nil =>
    cases hf : l.fraction with
    | none => simp [hw, hf] at hne
    | some ds => exact ⟨'.', _, rfl, .inr rfl⟩

theorem float?_chars (l : Literal) : Decimal.float? l.chars = some l.value := by
  obtain ⟨c, cs, hchars, hc⟩ := l.exists_chars
  have hplus : c ≠ '+' := by
    rintro rfl
    exact absurd hc (by decide)
  have hminus : c ≠ '-' := by
    rintro rfl
    exact absurd hc (by decide)
  have hvalue := l.unsigned?_chars
  rw [hchars] at hvalue ⊢
  simp [Decimal.float?, hplus, hminus, hvalue]

end Literal

end Spreadsheet.Formula
