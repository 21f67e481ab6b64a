import Mathlib
import Spreadsheet.Proofs.Formula.Scanning
import Spreadsheet.Proofs.Text.Blank

namespace Spreadsheet.Formula

open Spreadsheet.Text

variable {size : Nat} {cs : List Char} {e : LexError}

theorem eq_blanks_append {c : Char} {rest : List Char} (h : trimStart cs = c :: rest) :
    ∃ blanks, (∀ d ∈ blanks, isBlank d) ∧ cs = blanks ++ c :: rest := by
  rw [← h]
  exact exists_blanks_trimStart cs

/-- The text in front of an error is read to its end, as a text of any size. -/
theorem exists_front (h : lexFrom size cs = .error e) :
    ∃ front c rest, cs = front ++ c :: rest ∧ e.position = size - (rest.length + 1) ∧
      lexeme c rest = .error e.cause ∧ ∃ ts, ∀ size, lexFrom size front = .ok ts := by
  fun_induction lexFrom size cs with
  | case1 cs hnil => cases h
  | case2 cs c rest hcons cause hcause =>
    cases h
    obtain ⟨blanks, hblanks, rfl⟩ := eq_blanks_append hcons
    refine ⟨blanks, c, rest, rfl, rfl, hcause, [], fun size => ?_⟩
    have hend := @lexFrom_blanks size [] _ hblanks
    rwa [List.append_nil, lexFrom_nil] at hend
  | case3 cs c rest hcons t rest' ht ih =>
    obtain ⟨blanks, hblanks, rfl⟩ := eq_blanks_append hcons
    cases herror : lexFrom size rest' with
    | ok ts =>
      rw [herror] at h
      cases h
    | error e' =>
      rw [herror] at h
      cases h
      obtain ⟨front, d, ds, rfl, hposition, hcause, ts, hts⟩ := ih herror
      -- The error stands behind the lexeme, so the cut in front of it leaves the lexeme whole.
      obtain ⟨taken, rfl⟩ := lexeme_suffix ht
      rw [← List.append_assoc] at ht
      refine ⟨blanks ++ c :: (taken ++ front), d, ds, by simp, hposition, hcause, t :: ts, ?_⟩
      intro size
      have hc := isBlank_of_trimStart hcons
      rw [lexFrom_blanks size hblanks, lexFrom_cons size hc (lexeme_cut ht), hts]
      rfl

/-- An error is at one of the characters of the formula: no token starts there, and the characters in
front of it are read as tokens. -/
theorem lex_error_position {s : String} (h : lex s = .error e) :
    e.position < (body s.toList).length ∧
      (∃ ts, lex (String.ofList ('=' :: (body s.toList).take e.position)) = .ok ts) ∧
      ∃ c rest, (body s.toList).drop e.position = c :: rest ∧ lexeme c rest = .error e.cause := by
  obtain ⟨front, c, rest, hbody, hposition, hcause, ts, hts⟩ := exists_front h
  have hfront : e.position = front.length := by
    rw [hposition, hbody, List.length_append, List.length_cons]
    omega
  rw [hfront, hbody]
  refine ⟨by simp, ⟨ts, ?_⟩, c, rest, by simp, hcause⟩
  rw [lex, String.toList_ofList, List.take_left, body_equals, hts]

theorem unclosedText_position :
    lex " =qty<=12 \"open" = .error ⟨.unclosedText, 8⟩ ∧
      body " =qty<=12 \"open".toList = "qty<=12 ".toList ++ "\"open".toList ∧
      ∃ ts, lex "=qty<=12 " = .ok ts := by
  have h : lex " =qty<=12 \"open" = .error ⟨.unclosedText, 8⟩ := by decide +kernel
  have hbody : body " =qty<=12 \"open".toList = "qty<=12 ".toList ++ "\"open".toList := by decide
  obtain ⟨-, hfront, -⟩ := lex_error_position h
  rw [hbody] at hfront
  exact ⟨h, hbody, hfront⟩

end Spreadsheet.Formula
