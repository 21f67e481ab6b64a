import Mathlib
import Spreadsheet.Proofs.Formula.TermText

namespace Spreadsheet.Formula

open Spreadsheet.Text

variable {before : Option Char} {cs : List Char}

theorem prefix_of_matchesAt {p : NamePattern} (h : p.matchesAt before cs = true) :
    p.name <+: cs := by
  rw [NamePattern.matchesAt] at h
  split at h
  · rename_i rest hrest
    exact ⟨rest, (isPrefixOf?_eq_some_iff.mp hrest).symm⟩
  · cases h

/-- Names of one length that match at one place are the same: the text there begins with both. -/
theorem eq_of_matchesAt {name other : String} (h : (NamePattern.ofName name).matchesAt before cs = true)
    (h' : (NamePattern.ofName other).matchesAt before cs = true)
    (hlength : name.length = other.length) : name = other := by
  have hbegin : name.toList <+: cs := prefix_of_matchesAt h
  have hbegin' : other.toList <+: cs := prefix_of_matchesAt h'
  rw [← String.length_toList, ← String.length_toList] at hlength
  rw [← String.toList_inj]
  exact (List.prefix_of_prefix_length_le hbegin hbegin' hlength.le).eq_of_length hlength

theorem pairwise_orderedNames (columns : List String) :
    (orderedNames columns).Pairwise fun a b => b.length ≤ a.length := by
  rw [orderedNames]
  have h := @List.pairwise_mergeSort String (fun a b => b.length ≤ a.length)
    (fun a b c hab hbc => by simp only [decide_eq_true_eq] at hab hbc ⊢; omega)
    (fun a b => by simp only [Bool.or_eq_true, decide_eq_true_eq]; omega)
    (columns.filter (· != ""))
  simpa only [decide_eq_true_eq] using h

theorem find?_eq_some_iff_longest {names : List String} {q : String → Bool} {name : String}
    (hsorted : names.Pairwise fun a b => b.length ≤ a.length)
    (hunique : ∀ a b, q a = true → q b = true → a.length = b.length → a = b) :
    names.find? q = some name ↔
      name ∈ names ∧ q name = true ∧ ∀ other ∈ names, q other = true → other.length ≤ name.length := by
  induction names with
  | nil => simp
  | cons a names ih =>
    obtain ⟨hfirst, hrest⟩ := List.pairwise_cons.mp hsorted
    by_cases ha : q a = true
    · rw [List.find?_cons_of_pos ha, Option.some_inj]
      constructor
      · rintro rfl
        exact ⟨List.mem_cons_self, ha, fun other hother _ =>
          (List.mem_cons.mp hother).elim (fun h => h ▸ le_rfl) (hfirst other)⟩
      · rintro ⟨hmem, hname, hlongest⟩
        rcases List.mem_cons.mp hmem with h | h
        · exact h.symm
        · exact hunique a name ha hname
            (le_antisymm (hlongest a List.mem_cons_self ha) (hfirst name h))
    · rw [List.find?_cons_of_neg ha, ih hrest]
      simp only [List.mem_cons]
      constructor
      · rintro ⟨hmem, hname, hlongest⟩
        refine ⟨.inr hmem, hname, ?_⟩
        rintro other (rfl | hother) hq
        · exact absurd hq ha
        · exact hlongest other hother hq
      · rintro ⟨rfl | hmem, hname, hlongest⟩
        · exact absurd hname ha
        · exact ⟨hmem, hname, fun other hother => hlongest other (.inr hother)⟩

theorem find?_namePatterns_congr {columns columns' : List String}
    (h : ∀ name, name ∈ columns ↔ name ∈ columns') (before : Option Char) (cs : List Char) :
    (namePatterns (orderedNames columns)).find? (·.matchesAt before cs) =
      (namePatterns (orderedNames columns')).find? (·.matchesAt before cs) := by
  let q (name : String) : Bool := (NamePattern.ofName name).matchesAt before cs
  have hunique : ∀ a b, q a = true → q b = true → a.length = b.length → a = b :=
    fun a b => eq_of_matchesAt
  rw [namePatterns, namePatterns, List.find?_map, List.find?_map]
  congr 1
  ext name
  change (orderedNames columns).find? q = some name ↔ (orderedNames columns').find? q = some name
  rw [find?_eq_some_iff_longest (pairwise_orderedNames columns) hunique,
    find?_eq_some_iff_longest (pairwise_orderedNames columns') hunique]
  simp only [Term.mem_orderedNames, h]

/-- The replacement sees of the patterns only which one is found at each place, and of the values only
those of names that stand in the text. -/
theorem substituteFrom_congr {patterns patterns' : List NamePattern}
    {value value' : List Char → List Char} {cs : List Char}
    (hfind : ∀ before cs,
      patterns.find? (·.matchesAt before cs) = patterns'.find? (·.matchesAt before cs))
    (hvalue : ∀ name, name <:+: cs → value name = value' name) (skip : Nat) (before : Option Char) :
    substituteFrom patterns value skip before cs = substituteFrom patterns' value' skip before cs := by
  induction cs generalizing skip before with
  | nil => cases skip <;> rfl
  | cons c cs ih =>
    have hrest := ih fun name hname => hvalue name (List.infix_cons hname)
    cases skip with
    | succ skip => exact hrest skip (some c)
    | zero =>
      rw [substituteFrom, substituteFrom, ← hfind before (c :: cs)]
      split
      · rename_i p hp
        have hmatch := List.find?_some hp
        have hname : p.name <+: c :: cs := prefix_of_matchesAt hmatch
        rw [hvalue p.name hname.isInfix, hrest]
      · rw [hrest]

end Spreadsheet.Formula
