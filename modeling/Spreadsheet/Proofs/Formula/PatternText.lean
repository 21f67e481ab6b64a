import Mathlib
import Spreadsheet.Formula.PatternText
import Spreadsheet.Proofs.Formula.Quotation

namespace Spreadsheet.Formula

open Spreadsheet.Text

def boundaryItems (required : Bool) : List PatternItem :=
  if required then [.boundary] else []

def NamePattern.items (p : NamePattern) : List PatternItem :=
  boundaryItems p.boundedBefore ++ (p.name.map .char ++ boundaryItems p.boundedAfter)

section Items

variable (rest : List Char)

theorem patternItems?_escaped (c : Char) :
    patternItems? (escaped c ++ rest) = (patternItems? rest).map (.char c :: ·) := by
  by_cases h : isSpecial c
  · have hb : c ≠ 'b' := by
      rintro rfl
      exact absurd h (by decide)
    rw [escaped, if_pos h, List.cons_append, List.singleton_append, patternItems?, if_neg hb,
      if_pos h]
  · have hescape : c ≠ '\\' := by
      rintro rfl
      exact h (by decide)
    have hbar : c ≠ '|' := by
      rintro rfl
      exact h (by decide)
    rw [escaped, if_neg h, List.singleton_append, patternItems?, if_neg hbar, if_neg h]
    · rintro rfl
      exact absurd rfl hescape
    · rintro d ds rfl
      exact absurd rfl hescape

theorem patternItems?_boundary (required : Bool) :
    patternItems? (boundaryText required ++ rest) =
      (patternItems? rest).map (boundaryItems required ++ ·) := by
  cases required with
  | false => simp [boundaryText, boundaryItems]
  | true => rfl

theorem patternItems?_name (name : List Char) :
    patternItems? (name.flatMap escaped ++ rest) =
      (patternItems? rest).map (name.map .char ++ ·) := by
  induction name with
  | nil => simp
  | cons c name ih =>
    rw [List.flatMap_cons, List.append_assoc, patternItems?_escaped, ih]
    simp [Function.comp_def]

theorem patternItems?_text (p : NamePattern) :
    patternItems? (p.text ++ rest) = (patternItems? rest).map (p.items ++ ·) := by
  rw [NamePattern.text, List.append_assoc, List.append_assoc, patternItems?_boundary,
    patternItems?_name, patternItems?_boundary]
  simp [NamePattern.items, Function.comp_def]

end Items

theorem patternItems?_join (ps : List NamePattern) :
    patternItems? (join ['|'] (ps.map NamePattern.text)) =
      some ([PatternItem.bar].intercalate (ps.map NamePattern.items)) := by
  rw [join_eq_intercalate]
  induction ps with
  | nil => rfl
  | cons p ps ih =>
    cases ps with
    | nil =>
      have h := patternItems?_text [] p
      rw [List.append_nil] at h
      simp [h, patternItems?]
    | cons q ps =>
      simp only [List.map_cons] at ih ⊢
      rw [List.intercalate_cons_cons, List.intercalate_cons_cons, List.append_assoc,
        patternItems?_text]
      have hbar : ∀ cs, patternItems? ('|' :: cs) = (patternItems? cs).map (.bar :: ·) :=
        fun cs => rfl
      rw [List.singleton_append, hbar, ih]
      simp

theorem alternatives_append_bar {piece : List PatternItem} (h : .bar ∉ piece)
    (items : List PatternItem) :
    alternatives (piece ++ .bar :: items) = piece :: alternatives items := by
  induction piece with
  | nil => rfl
  | cons item piece ih =>
    rw [List.mem_cons, not_or] at h
    rw [List.cons_append, alternatives, ih h.2]
    exact fun hitem => h.1 hitem.symm

theorem alternatives_of_not_bar {piece : List PatternItem} (h : .bar ∉ piece) :
    alternatives piece = [piece] := by
  induction piece with
  | nil => rfl
  | cons item piece ih =>
    rw [List.mem_cons, not_or] at h
    rw [alternatives, ih h.2]
    exact fun hitem => h.1 hitem.symm

theorem alternatives_intercalate {pieces : List (List PatternItem)} (hne : pieces ≠ [])
    (h : ∀ piece ∈ pieces, .bar ∉ piece) :
    alternatives ([PatternItem.bar].intercalate pieces) = pieces := by
  induction pieces with
  | nil => exact absurd rfl hne
  | cons piece pieces ih =>
    have hpiece := h piece List.mem_cons_self
    cases pieces with
    | nil => rw [List.intercalate_singleton, alternatives_of_not_bar hpiece]
    | cons next pieces =>
      rw [List.intercalate_cons_cons, List.append_assoc, List.singleton_append,
        alternatives_append_bar hpiece, ih (by simp) fun p hp => h p (List.mem_cons_of_mem _ hp)]

theorem NamePattern.bar_not_mem_items (p : NamePattern) : .bar ∉ p.items := by
  have hboundary : ∀ required, .bar ∉ boundaryItems required := by
    intro required
    cases required <;> simp [boundaryItems]
  simp [items, hboundary]

theorem readName?_items (name : List Char) (bounded : Bool) :
    readName? (name.map .char ++ boundaryItems bounded) = some (name, bounded) := by
  induction name with
  | nil => cases bounded <;> rfl
  | cons c name ih => rw [List.map_cons, List.cons_append, readName?, ih, Option.map_some]

theorem NamePattern.ofItems?_items {p : NamePattern} (h : p.name = [] → p.boundedAfter = false) :
    NamePattern.ofItems? p.items = some p := by
  obtain ⟨name, before, after⟩ := p
  have hname := readName?_items name after
  cases before with
  | true =>
    change (readName? (name.map .char ++ boundaryItems after)).map _ = _
    rw [hname]
    rfl
  | false =>
    cases name with
    | nil =>
      obtain rfl : after = false := h rfl
      rfl
    | cons c name =>
      change (readName? ((c :: name).map .char ++ boundaryItems after)).map _ = _
      rw [hname]
      rfl

theorem NamePattern.ofItems?_ofName (name : String) :
    NamePattern.ofItems? (NamePattern.ofName name).items = some (NamePattern.ofName name) := by
  refine NamePattern.ofItems?_items fun h => ?_
  have hname : name.toList = [] := h
  simp [NamePattern.ofName, hname]

theorem mapM_ofItems? (names : List String) :
    ((namePatterns names).map NamePattern.items).mapM NamePattern.ofItems? =
      some (namePatterns names) := by
  induction names with
  | nil => rfl
  | cons name names ih =>
    simp only [namePatterns, List.map_cons, List.mapM_cons] at ih ⊢
    rw [NamePattern.ofItems?_ofName, ih]
    rfl

/-- The text of the pattern for names is read as the patterns of these names. -/
theorem readPatterns?_searchText {names : List String} (hne : names ≠ []) :
    readPatterns? (searchText names) = some (namePatterns names) := by
  have hpieces : ∀ piece ∈ (namePatterns names).map NamePattern.items, .bar ∉ piece := by
    intro piece hpiece
    obtain ⟨p, -, rfl⟩ := List.mem_map.mp hpiece
    exact p.bar_not_mem_items
  rw [readPatterns?, searchText, String.toList_ofList, patternItems?_join, Option.bind_some,
    alternatives_intercalate (by simpa [namePatterns] using hne) hpieces, mapM_ofItems?]

end Spreadsheet.Formula
