import Mathlib
import Spreadsheet.Formula.Textual
import Spreadsheet.Proofs.Formula.Arguments
import Spreadsheet.Proofs.Formula.ComparisonMark
import Spreadsheet.Proofs.Text.Blank

namespace Spreadsheet.Formula

open Spreadsheet.Text

variable {cs ds : List Char}

theorem trim_isInfix (cs : List Char) : trim cs <:+: cs := by
  obtain ⟨bs, es, -, -, hcs⟩ := exists_blanks_trim cs
  rw [← List.append_assoc] at hcs
  exact ⟨bs, es, hcs.symm⟩

theorem between?_isInfix {q : Char} (h : between? q cs = some ds) : ds <:+: cs := by
  unfold between? at h
  split at h
  · rename_i c d rest
    split at h
    · cases h
      exact (List.dropLast_prefix _).isInfix.trans (List.infix_cons List.infix_rfl)
    · cases h
  · cases h

theorem stripQuotes_isInfix (cs : List Char) : stripQuotes cs <:+: cs := by
  have hpart : stripQuotes cs <:+: trim cs := by
    rw [stripQuotes]
    cases hdouble : between? '"' (trim cs) with
    | some ds => exact between?_isInfix hdouble
    | none =>
      cases hsingle : between? '\x27' (trim cs) with
      | some ds => exact between?_isInfix hsingle
      | none => exact List.infix_rfl
  exact hpart.trans (trim_isInfix cs)

theorem stripBrackets_isInfix (cs : List Char) : stripBrackets cs <:+: cs := by
  have hpart : stripBrackets cs <:+: trim cs := by
    unfold stripBrackets
    dsimp only
    split
    · rename_i rest hcs
      rw [hcs]
      split
      · have hinner : rest.dropLast <:+: '[' :: rest :=
          (List.dropLast_prefix rest).isInfix.trans (List.infix_cons List.infix_rfl)
        exact (trim_isInfix _).trans hinner
      · exact List.infix_rfl
    · exact List.infix_rfl
  exact hpart.trans (trim_isInfix cs)

theorem closed?_isPrefix {depth : Nat} {quote : Option Char} (h : closed? depth quote cs = some ds) :
    ds <+: cs := by
  induction cs generalizing depth quote ds with
  | nil => cases h
  | cons c cs ih =>
    have hmap : ∀ {depth quote}, (closed? depth quote cs).map (c :: ·) = some ds → ds <+: c :: cs := by
      intro depth quote hmap
      obtain ⟨es, hes, rfl⟩ := Option.map_eq_some_iff.mp hmap
      exact List.cons_prefix_cons.mpr ⟨rfl, ih hes⟩
    rw [closed?.eq_def] at h
    dsimp only at h
    split at h
    · exact hmap h
    · split at h
      · split at h
        · cases h
          exact List.nil_prefix
        · exact hmap h
      · exact hmap h

theorem argumentsOf_isInfix {name : String} (h : argumentsOf name cs = .ok ds) : ds <:+: cs := by
  unfold argumentsOf at h
  split at h
  · rename_i args hargs
    cases h
    obtain ⟨parts, hsplit, hclosed⟩ := Option.bind_eq_some_iff.mp hargs
    exact (closed?_isPrefix hclosed).isInfix.trans (splitOnce_suffix hsplit).isInfix
  · cases h

theorem infix_join_of_mem {separator : List Char} {pieces : List (List Char)} (h : ds ∈ pieces) :
    ds <:+: join separator pieces := by
  induction pieces with
  | nil => cases h
  | cons piece pieces ih =>
    by_cases hpieces : pieces = []
    · subst hpieces
      rw [List.mem_singleton.mp h]
      exact List.infix_rfl
    · rw [join_cons_of_ne_nil separator piece hpieces]
      rcases List.mem_cons.mp h with rfl | h
      · exact (List.prefix_append ds _).isInfix
      · have hrest : join separator pieces <:+ piece ++ (separator ++ join separator pieces) :=
          (List.suffix_append separator _).trans (List.suffix_append piece _)
        exact (ih h).trans hrest.isInfix

theorem splitArguments_isInfix (h : ds ∈ splitArguments cs) : ds <:+: cs := by
  obtain ⟨piece, hpiece, rfl⟩ := List.mem_map.mp h
  have hjoin : piece <:+: join [','] (segments 0 none cs) := infix_join_of_mem hpiece
  rw [join_segments] at hjoin
  exact (trim_isInfix piece).trans hjoin

theorem splitCondition_isInfix {left right : List Char} {comparison : Comparison}
    (h : splitCondition cs = some (left, comparison, right)) : left <:+: cs ∧ right <:+: cs := by
  obtain ⟨symbol, -, rfl, -⟩ := splitCondition_eq_some_iff.mp h
  have hright := List.suffix_append symbol.toList right
  exact ⟨(List.prefix_append left _).isInfix, (hright.trans (List.suffix_append left _)).isInfix⟩

end Spreadsheet.Formula
