import Mathlib
import Spreadsheet.Proofs.Dictionary
import Spreadsheet.Proofs.Sorting
import Spreadsheet.Proofs.Table.Session
import Spreadsheet.Proofs.Text.Collation
import Spreadsheet.Proofs.Text.Search
import Spreadsheet.Table.View

namespace Spreadsheet

def Session.view : Session (List Row) := do
  return (← get).view

namespace Table

variable {t : Table}

/-- For every filter, the text of the cell in lower case contains the text of the filter. -/
def Passes (t : Table) (row : Row) : Prop :=
  ∀ name substring, t.filters.get? name = some substring →
    substring.toList <:+: Text.lower (t.textOf row name).toList

theorem isVisible_iff {row : Row} : t.isVisible row = true ↔ t.Passes row := by
  simp only [isVisible, List.all_eq_true, passes, Text.contains_iff_isInfix, Passes,
    Dictionary.get?_eq_some_iff]
  constructor
  · exact fun h name substring hm => h (name, substring) hm
  · exact fun h f hf => h f.1 f.2 hf

instance (t : Table) (row : Row) : Decidable (t.Passes row) :=
  decidable_of_iff _ isVisible_iff

def passing (t : Table) : List Row :=
  t.rows.filter fun row => t.Passes row

theorem filter_isVisible : t.rows.filter t.isVisible = t.passing := by
  refine List.filter_congr fun row _ => ?_
  rw [Bool.eq_iff_iff, isVisible_iff, decide_eq_true_iff]

/-- The key of the second row does not force it in front of the first. -/
def InOrder (direction : Direction) (key key' : String) : Prop :=
  match direction with
  | .ascending => Text.collate key' key ≠ .lt
  | .descending => Text.collate key key' ≠ .lt

theorem admits_iff {direction : Direction} {key key' : String} :
    admits direction key key' = true ↔ InOrder direction key key' := by
  cases direction with
  | ascending =>
    have hswap : Text.collate key key' = .gt ↔ Text.collate key' key = .lt :=
      Std.OrientedCmp.gt_iff_lt
    simp [admits, InOrder, hswap]
  | descending =>
    have hswap : Text.collate key' key = .gt ↔ Text.collate key key' = .lt :=
      Std.OrientedCmp.gt_iff_lt
    simp [admits, InOrder, hswap]

theorem admits_eq_isLE (direction : Direction) (key key' : String) :
    admits direction key key' = match direction with
      | .ascending => (Text.collate key key').isLE
      | .descending => (Text.collate key' key).isLE := by
  cases direction with
  | ascending => cases h : Text.collate key key' <;> simp [admits, h]
  | descending => cases h : Text.collate key' key <;> simp [admits, h]

theorem admits_refl (direction : Direction) (key : String) : admits direction key key := by
  have h : (Text.collate key key).isLE := Std.ReflCmp.isLE_rfl
  rw [admits_eq_isLE]
  cases direction <;> exact h

theorem admits_trans (direction : Direction) (a b c : String) (h : admits direction a b)
    (h' : admits direction b c) : admits direction a c := by
  rw [admits_eq_isLE] at h h' ⊢
  cases direction with
  | ascending => exact Std.TransCmp.isLE_trans h h'
  | descending => exact Std.TransCmp.isLE_trans h' h

theorem admits_total (direction : Direction) (a b : String) :
    admits direction a b || admits direction b a := by
  have hswap : Text.collate a b = (Text.collate b a).swap := Std.OrientedCmp.eq_swap
  rw [admits_eq_isLE, admits_eq_isLE]
  cases direction <;> cases h : Text.collate b a <;> simp [h, hswap]

theorem admits_antisymm (direction : Direction) (a b : String) (h : admits direction a b)
    (h' : admits direction b a) : a = b := by
  rw [admits_eq_isLE] at h h'
  have heq : Text.collate a b = .eq → a = b := Std.LawfulEqCmp.eq_of_compare
  apply heq
  cases direction with
  | ascending => exact Std.OrientedCmp.isLE_antisymm h h'
  | descending => exact Std.OrientedCmp.isLE_antisymm h' h

theorem sortRows_eq_mergeSort (s : SortOrder) (rows : List Row) :
    t.sortRows s rows = rows.mergeSort fun r r' =>
      admits s.direction (t.sortKey r s.column) (t.sortKey r' s.column) := by
  unfold sortRows
  rw [List.map_mergeSort (s := fun r r' =>
    admits s.direction (t.sortKey r s.column) (t.sortKey r' s.column))]
  · simp [Function.comp_def]
  · intro a ha b hb
    obtain ⟨r, -, rfl⟩ := List.mem_map.mp ha
    obtain ⟨r', -, rfl⟩ := List.mem_map.mp hb
    rfl

/-- A list of rows shows a table. -/
structure Shows (t : Table) (rs : List Row) : Prop where
  perm : rs.Perm t.passing
  stored : t.sort = none → rs = t.passing
  ordered : ∀ s ∈ t.sort, rs.Pairwise fun r r' =>
    InOrder s.direction (t.sortKey r s.column) (t.sortKey r' s.column)
  stable : ∀ s ∈ t.sort, ∀ key, (rs.filter fun r => t.sortKey r s.column = key) =
    t.passing.filter fun r => t.sortKey r s.column = key

theorem shows_view (t : Table) : t.Shows t.view := by
  cases hs : t.sort with
  | none =>
    have hview : t.view = t.passing := by
      simp only [view, hs, filter_isVisible]
    rw [hview]
    refine ⟨.refl _, fun _ => rfl, ?_, ?_⟩ <;> simp [hs]
  | some s =>
    have hview : t.view = t.passing.mergeSort fun r r' =>
        admits s.direction (t.sortKey r s.column) (t.sortKey r' s.column) := by
      simp only [view, hs, filter_isVisible, sortRows_eq_mergeSort]
    refine ⟨?_, by simp [hs], ?_, ?_⟩
    · rw [hview]
      exact List.mergeSort_perm _ _
    · intro s' hs'
      obtain rfl : s = s' := by simpa [hs] using hs'
      rw [hview]
      have hpair := List.pairwise_mergeSort
        (fun r r' r'' : Row => admits_trans s.direction (t.sortKey r s.column)
          (t.sortKey r' s.column) (t.sortKey r'' s.column))
        (fun r r' => admits_total s.direction (t.sortKey r s.column) (t.sortKey r' s.column))
        t.passing
      exact hpair.imp admits_iff.mp
    · intro s' hs' key
      obtain rfl : s = s' := by simpa [hs] using hs'
      rw [hview]
      exact filter_mergeSort (t.sortKey · s.column) (admits_trans s.direction)
        (admits_total s.direction) key t.passing

theorem Shows.unique {rs rs' : List Row} (h : t.Shows rs) (h' : t.Shows rs') : rs = rs' := by
  cases hs : t.sort with
  | none => rw [h.stored hs, h'.stored hs]
  | some s =>
    apply eq_of_pairwise_of_filter_eq (t.sortKey · s.column) (admits_antisymm s.direction)
      (admits_refl s.direction)
    · exact (h.ordered s hs).imp admits_iff.mpr
    · exact (h'.ordered s hs).imp admits_iff.mpr
    · intro key
      rw [h.stable s hs key, h'.stable s hs key]

/-- Rows with different keys are shown in the one order that their keys have. -/
theorem view_eq_of_perm {s : SortOrder} {rs : List Row} (hs : t.sort = some s)
    (hperm : rs.Perm t.passing)
    (hordered : rs.Pairwise fun r r' =>
      admits s.direction (t.sortKey r s.column) (t.sortKey r' s.column))
    (hkeys : (rs.map (t.sortKey · s.column)).Nodup) : t.view = rs := by
  have hview := t.shows_view
  have hsorted := (hview.ordered s hs).imp admits_iff.mpr
  have hsame := hview.perm.trans hperm.symm
  refine List.Perm.eq_of_pairwise (fun r r' hr hr' h h' => ?_) hsorted hordered hsame
  exact List.inj_on_of_nodup_map hkeys (hsame.subset hr) hr' (admits_antisymm _ _ _ h h')

/-- The view is the one list that shows the table, and reading it leaves the table as it is. -/
theorem shows_iff_eq_view (t : Table) :
    (∀ rs, t.Shows rs ↔ rs = t.view) ∧ Session.view.run t = .ok t.view t := by
  refine ⟨fun rs => ⟨fun h => h.unique t.shows_view, ?_⟩, rfl⟩
  rintro rfl
  exact t.shows_view

end Table

end Spreadsheet
