import Mathlib
import Spreadsheet.Proofs.Decimal.Order
import Spreadsheet.Proofs.Formula.Conditional

namespace Spreadsheet.Formula

open Spreadsheet.Text

namespace Comparison

def negation : Comparison → Comparison
  | equal => unequal
  | unequal => equal
  | less => greaterEqual
  | greaterEqual => less
  | greater => lessEqual
  | lessEqual => greater

def converse : Comparison → Comparison
  | equal => equal
  | unequal => unequal
  | less => greater
  | greater => less
  | lessEqual => greaterEqual
  | greaterEqual => lessEqual

@[simp] theorem holds_negation (ordering : Ordering) (c : Comparison) :
    c.negation.holds ordering = !c.holds ordering := by
  cases c <;> cases ordering <;> rfl

@[simp] theorem holds_converse (ordering : Ordering) (c : Comparison) :
    c.converse.holds ordering.swap = c.holds ordering := by
  cases c <;> cases ordering <;> rfl

theorem existsUnique_holds (ordering : Ordering) :
    ∃! c : Comparison, c ∈ [less, equal, greater] ∧ c.holds ordering = true := by
  have hordering : ∃ c ∈ [less, equal, greater], ∀ c' ∈ [less, equal, greater],
      c'.holds ordering = true ↔ c' = c := by
    cases ordering <;> decide
  obtain ⟨c, hc, hiff⟩ := hordering
  exact ⟨c, ⟨hc, (hiff c hc).mpr rfl⟩, fun c' ⟨hc', h⟩ => (hiff c' hc').mp h⟩

end Comparison

section Order

variable {x y : Float} {d d' : Decimal.Dyadic}

theorem numberOrdering?_eq (hx : Decimal.dyadic? x = some d) (hy : Decimal.dyadic? y = some d') :
    numberOrdering? x y = some (compare d.value d'.value) := by
  rw [numberOrdering?]
  rcases lt_trichotomy d.value d'.value with hlt | heq | hlt
  · rw [if_pos ((Decimal.lt_iff_value hx hy).mpr hlt), compare_lt_iff_lt.mpr hlt]
  · have hnlt : ¬ x < y := by
      rw [Decimal.lt_iff_value hx hy, heq]
      exact lt_irrefl _
    rw [if_neg hnlt, if_pos ((Decimal.beq_iff_value hx hy).mpr heq), compare_eq_iff_eq.mpr heq]
  · have hnlt : ¬ x < y := by
      rw [Decimal.lt_iff_value hx hy]
      exact hlt.not_gt
    have hne : ¬ (x == y) = true := by
      rw [Decimal.beq_iff_value hx hy]
      exact hlt.ne'
    rw [if_neg hnlt, if_neg hne, if_pos ((Decimal.lt_iff_value hy hx).mpr hlt),
      compare_gt_iff_gt.mpr hlt]

theorem exists_dyadic?_of_parse? {s : String} (h : Decimal.parse? s = some x) :
    ∃ d, Decimal.dyadic? x = some d := by
  have hcell : (Cell.text s).number? = some x := h
  exact Option.isSome_iff_exists.mp (isFinite_number? hcell)

/-- Two texts are in an order, and in the opposite one the other way round. -/
theorem exists_looseOrdering (s t : String) :
    ∃ ordering, looseOrdering? s t = some ordering ∧ looseOrdering? t s = some ordering.swap := by
  have htexts : some (lexOrdering t.toList s.toList) =
      some (lexOrdering s.toList t.toList).swap := by
    rw [lexOrdering_swap]
  unfold looseOrdering?
  cases hs : Decimal.parse? s with
  | none => exact ⟨_, rfl, by cases Decimal.parse? t <;> exact htexts⟩
  | some x =>
    cases ht : Decimal.parse? t with
    | none => exact ⟨_, rfl, htexts⟩
    | some y =>
      obtain ⟨d, hd⟩ := exists_dyadic?_of_parse? hs
      obtain ⟨d', hd'⟩ := exists_dyadic?_of_parse? ht
      refine ⟨compare d.value d'.value, numberOrdering?_eq hd hd', ?_⟩
      rw [← Std.OrientedCmp.eq_swap]
      exact numberOrdering?_eq hd' hd

theorem compareLoose_eq_holds {s t : String} {ordering : Ordering}
    (h : looseOrdering? s t = some ordering) (c : Comparison) :
    compareLoose s c t = c.holds ordering := by
  rw [compareLoose, h]

theorem compareLoose_negation (s t : String) (c : Comparison) :
    compareLoose s c.negation t = !compareLoose s c t := by
  obtain ⟨ordering, h, -⟩ := exists_looseOrdering s t
  rw [compareLoose_eq_holds h, compareLoose_eq_holds h, Comparison.holds_negation]

theorem compareLoose_converse (s t : String) (c : Comparison) :
    compareLoose t c.converse s = compareLoose s c t := by
  obtain ⟨ordering, h, h'⟩ := exists_looseOrdering s t
  rw [compareLoose_eq_holds h, compareLoose_eq_holds h', Comparison.holds_converse]

end Order

end Spreadsheet.Formula
