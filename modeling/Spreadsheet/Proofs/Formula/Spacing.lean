import Mathlib
import Spreadsheet.Proofs.Formula.Layout

namespace Spreadsheet.Formula

open Spreadsheet.Text

/-- A lexeme and the blanks behind it. -/
structure Spacing where
  lexeme : Lexeme
  gap : Blanks

namespace Spacing

def pieces (s : Spacing) : List Piece :=
  .lexeme s.lexeme :: s.gap.pieces

def chars (s : Spacing) : List Char :=
  s.lexeme.chars ++ s.gap.chars

def Apart (ss : List Spacing) : Prop :=
  ss.IsChain fun s _ => s.gap ≠ []

variable {ss : List Spacing}

theorem written_flatMap (ss : List Spacing) : written (ss.flatMap pieces) = ss.flatMap chars := by
  induction ss with
  | nil => rfl
  | cons s ss ih => simp [pieces, chars, ih]

theorem lexed_flatMap (ss : List Spacing) : lexed (ss.flatMap pieces) = ss.map (·.lexeme.token) := by
  induction ss with
  | nil => rfl
  | cons s ss ih => simp [pieces, ih]

/-- The gap behind a lexeme shows where it ends. -/
theorem reads (h : Apart ss) : Reads (ss.flatMap pieces) [] := by
  induction ss with
  | nil => exact .nil
  | cons s ss ih =>
    have hss := (ih h.tail).blanks s.gap
    refine hss.lexeme fun c hc => ?_
    cases hgap : s.gap with
    | nil =>
      cases ss with
      | nil => simp [hgap] at hc
      | cons s' ss => exact absurd hgap (List.isChain_cons_cons.mp h).1
    | cons b bs =>
      obtain rfl : b.1 = c := by simpa [hgap] using hc
      exact Delimits.stops (.inl b.2) s.lexeme

/-- Lexemes that blanks keep apart are read as one token each, in their order; a literal is read as the
number that its text holds. -/
theorem lex_equals (ss : List Spacing) (h : Apart ss) :
    lex (String.ofList ('=' :: ss.flatMap chars)) = .ok (ss.map (·.lexeme.token)) ∧
      ∀ l, .number l ∈ ss.map (·.lexeme) → Decimal.float? l.chars = some l.value := by
  refine ⟨?_, fun l _ => l.float?_chars⟩
  have hreads := reads h (ss.flatMap chars).length
  rw [List.append_nil, written_flatMap, lexed_flatMap, lexFrom_nil] at hreads
  rw [lex, String.toList_ofList, body_equals, hreads]
  simp [Except.map]

theorem five_isDigit : ∀ ds ∈ some ['5'], ∀ c ∈ ds, c.isDigit := by
  simp

theorem five_isNamePart : ∀ c ∈ ['5'], isNamePart c := by
  simp [isNamePart, isAlphanumeric, isLetter, isNumeric]

def neighbours : List Spacing :=
  let tiny : Exponent := ⟨'E', some '-', ['5'], .inr rfl, by simp, by simp, by simp⟩
  let half : Literal := ⟨[], some ['5'], some tiny, by simp, five_isDigit, by simp⟩
  let name : Identifier := ⟨'E', ['5'], by decide, five_isNamePart⟩
  let price : Bracketed := ⟨" Unit price ".toList, by decide, by decide⟩
  [⟨.number half, .space⟩, ⟨.name name, .space⟩, ⟨.operator .equal (by decide), [⟨'\t', by decide⟩]⟩,
    ⟨.operator .doubleEqual (by decide), .space ++ .space⟩, ⟨.text .single "it's", .space⟩,
    ⟨.column price, .space⟩, ⟨.openParen, .space⟩, ⟨.comma, .space⟩, ⟨.closeParen, []⟩]

theorem neighbours_lex :
    Apart neighbours ∧
      '=' :: neighbours.flatMap chars =
        "=.5E-5 E5 =\t==  'it''s' [ Unit price ] ( , )".toList ∧
      lex "=.5E-5 E5 =\t==  'it''s' [ Unit price ] ( , )" =
        .ok [.number (Decimal.nearest 5 (-6)), .name "E5", .operator .equal, .operator .doubleEqual,
          .text "it's", .column "Unit price", .openParen, .comma, .closeParen] ∧
      Decimal.float? ".5E-5".toList = some (Decimal.nearest 5 (-6)) := by
  have hapart : Apart neighbours := by simp [Apart, neighbours, Blanks.space]
  have hchars : '=' :: neighbours.flatMap chars =
      "=.5E-5 E5 =\t==  'it''s' [ Unit price ] ( , )".toList := by rfl
  obtain ⟨hlex, hnumber⟩ := lex_equals neighbours hapart
  rw [hchars, String.ofList_toList] at hlex
  exact ⟨hapart, hchars, hlex, hnumber _ List.mem_cons_self⟩

end Spacing

end Spreadsheet.Formula
