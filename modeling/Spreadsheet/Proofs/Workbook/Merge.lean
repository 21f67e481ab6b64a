import Mathlib
import Spreadsheet.Workbook.Merge

namespace Spreadsheet.Workbook

namespace MergeRange

structure Ordered (m : MergeRange) : Prop where
  row_le : m.firstRow ≤ m.lastRow
  column_le : m.firstColumn ≤ m.lastColumn

structure Fits (rows columns : Nat) (m : MergeRange) : Prop extends m.Ordered where
  lastRow_lt : m.lastRow < rows
  lastColumn_lt : m.lastColumn < columns

def origin (m : MergeRange) : Position :=
  (m.firstRow, m.firstColumn)

theorem contains_iff (m : MergeRange) (p : Position) :
    m.contains p.1 p.2 = true ↔
      m.firstRow ≤ p.1 ∧ p.1 ≤ m.lastRow ∧ m.firstColumn ≤ p.2 ∧ p.2 ≤ m.lastColumn := by
  simp [contains, and_assoc]

theorem isOrigin_iff (m : MergeRange) (p : Position) :
    m.isOrigin p.1 p.2 = true ↔ p = m.origin := by
  simp [isOrigin, origin, Prod.ext_iff]

theorem overlaps_iff (m n : MergeRange) :
    m.overlaps n = true ↔
      m.firstRow ≤ n.lastRow ∧ n.firstRow ≤ m.lastRow ∧ m.firstColumn ≤ n.lastColumn ∧
        n.firstColumn ≤ m.lastColumn := by
  simp [overlaps, and_assoc]

theorem overlaps_comm (m n : MergeRange) : m.overlaps n = n.overlaps m := by
  rw [Bool.eq_iff_iff, overlaps_iff, overlaps_iff]
  omega

theorem overlaps_of_contains {m n : MergeRange} {p : Position}
    (hm : m.contains p.1 p.2 = true) (hn : n.contains p.1 p.2 = true) : m.overlaps n = true := by
  rw [contains_iff] at hm hn
  rw [overlaps_iff]
  omega

theorem Ordered.contains_origin {m : MergeRange} (h : m.Ordered) :
    m.contains m.origin.1 m.origin.2 = true := by
  rw [contains_iff]
  exact ⟨le_rfl, h.row_le, le_rfl, h.column_le⟩

theorem ofCorners_ordered (a b : Position) (label : String) : (ofCorners a b label).Ordered :=
  ⟨by simp [ofCorners], by simp [ofCorners]⟩

theorem read_ordered {label : String} {m : MergeRange} (h : read label = .ok m) : m.Ordered := by
  unfold read at h
  split at h
  · cases h
  · split at h
    · cases h
      exact ofCorners_ordered ..
    · cases h

theorem clip?_fits {rows columns : Nat} {m n : MergeRange} (hm : m.Ordered)
    (h : m.clip? rows columns = some n) : n.Fits rows columns := by
  have hr := hm.row_le
  have hc := hm.column_le
  unfold clip? at h
  split at h
  · cases h
  · split at h
    · obtain rfl := Option.some.inj h
      refine ⟨⟨?_, ?_⟩, ?_, ?_⟩ <;> dsimp only <;> omega
    · obtain rfl := Option.some.inj h
      exact ⟨hm, by omega, by omega⟩

end MergeRange

/-- Rectangles that lie in a grid and share no cells. -/
structure Laid (rows columns : Nat) (ranges : List MergeRange) : Prop where
  fits : ∀ m ∈ ranges, m.Fits rows columns
  apart : ranges.Pairwise fun m n => m.overlaps n = false

namespace Laid

variable {rows columns : Nat} {ranges : List MergeRange}

theorem nil : Laid rows columns [] :=
  ⟨by simp, .nil⟩

theorem concat (h : Laid rows columns ranges) {m : MergeRange} (hm : m.Fits rows columns)
    (ha : ranges.any (·.overlaps m) = false) : Laid rows columns (ranges ++ [m]) := by
  refine ⟨?_, ?_⟩
  · simpa [or_imp, forall_and] using ⟨h.fits, hm⟩
  · rw [List.pairwise_append]
    refine ⟨h.apart, List.pairwise_singleton _ _, ?_⟩
    simpa using ha

theorem eq_of_contains (h : Laid rows columns ranges) {m n : MergeRange} (hm : m ∈ ranges)
    (hn : n ∈ ranges) {p : Position} (hmp : m.contains p.1 p.2 = true)
    (hnp : n.contains p.1 p.2 = true) : m = n := by
  by_contra hne
  have hsymm : Std.Symm fun a b : MergeRange => a.overlaps b = false :=
    ⟨fun a b hab => by rwa [MergeRange.overlaps_comm]⟩
  have ha := h.apart.forall hm hn hne
  rw [MergeRange.overlaps_of_contains hmp hnp] at ha
  cases ha

end Laid

namespace Merges

variable {rows columns : Nat}

theorem keep_laid {kept : List MergeRange} (h : Laid rows columns kept) {m : MergeRange}
    (hm : m.Ordered) : Laid rows columns (keep rows columns kept m) := by
  unfold keep
  split
  · exact h
  · rename_i cut hcut
    split
    · exact h
    · rename_i ha
      exact h.concat (m.clip?_fits hm hcut) (by simpa using ha)

theorem foldl_keep_laid {kept : List MergeRange} (h : Laid rows columns kept)
    {ranges : List MergeRange} (ho : ∀ m ∈ ranges, m.Ordered) :
    Laid rows columns (ranges.foldl (keep rows columns) kept) := by
  induction ranges generalizing kept with
  | nil => exact h
  | cons m ranges ih =>
    rw [List.forall_mem_cons] at ho
    exact ih (keep_laid h ho.1) ho.2

theorem ofLabels_laid (rows columns : Nat) (labels : List String) :
    Laid rows columns (ofLabels rows columns labels).ranges := by
  refine foldl_keep_laid .nil fun m hm => ?_
  obtain ⟨label, -, hl⟩ := List.mem_filterMap.mp hm
  cases hr : MergeRange.read label with
  | error e => simp [hr, Except.toOption] at hl
  | ok n =>
    simp only [hr, Except.toOption, Option.some.injEq] at hl
    exact hl ▸ MergeRange.read_ordered hr

variable {m : Merges}

theorem rangeAt?_eq_some_iff (h : Laid rows columns m.ranges) {p : Position} {range : MergeRange} :
    m.rangeAt? p.1 p.2 = some range ↔ range ∈ m.ranges ∧ range.contains p.1 p.2 = true := by
  constructor
  · intro hr
    exact ⟨List.mem_of_find?_eq_some hr, (List.find?_eq_some_iff_append.mp hr).1⟩
  · rintro ⟨hm, hp⟩
    obtain ⟨found, hf⟩ : ∃ found, m.rangeAt? p.1 p.2 = some found := by
      rw [← Option.isSome_iff_exists, rangeAt?, List.find?_isSome]
      exact ⟨range, hm, hp⟩
    have hfp := (List.find?_eq_some_iff_append.mp hf).1
    rw [hf, h.eq_of_contains (List.mem_of_find?_eq_some hf) hm hfp hp]

/-- The rectangle of the cell at `q` contains `p`. -/
def Covers (m : Merges) (q p : Position) : Prop :=
  q.1 ≤ p.1 ∧ p.1 < q.1 + (m.span q.1 q.2).1 ∧ q.2 ≤ p.2 ∧ p.2 < q.2 + (m.span q.1 q.2).2

/-- The cell that shows a position: the origin of the rectangle over it, or its own. -/
def anchor (m : Merges) (p : Position) : Position :=
  match m.rangeAt? p.1 p.2 with
  | some range => range.origin
  | none => p

/-- A cell that is not hidden is the origin of a rectangle, or outside of all and alone. -/
theorem visible_cases {q : Position} (hq : m.isHidden q.1 q.2 = false) :
    (∃ range, m.rangeAt? q.1 q.2 = some range ∧ q = range.origin ∧
      m.span q.1 q.2 = (range.rowSpan, range.columnSpan)) ∨
    (m.rangeAt? q.1 q.2 = none ∧ m.span q.1 q.2 = (1, 1)) := by
  cases hr : m.rangeAt? q.1 q.2 with
  | none => exact .inr ⟨rfl, by simp [span, hr]⟩
  | some range =>
    have ho : range.isOrigin q.1 q.2 = true := by simpa [isHidden, hr] using hq
    exact .inl ⟨range, rfl, (range.isOrigin_iff q).mp ho, by simp [span, hr, ho]⟩

theorem rangeAt?_origin (h : Laid rows columns m.ranges) {range : MergeRange}
    (hr : range ∈ m.ranges) : m.rangeAt? range.origin.1 range.origin.2 = some range :=
  (rangeAt?_eq_some_iff h).mpr ⟨hr, (h.fits range hr).contains_origin⟩

theorem isHidden_origin (h : Laid rows columns m.ranges) {range : MergeRange}
    (hr : range ∈ m.ranges) : m.isHidden range.origin.1 range.origin.2 = false := by
  have ho := (range.isOrigin_iff range.origin).mpr rfl
  simp [isHidden, rangeAt?_origin h hr, ho]

theorem span_origin (h : Laid rows columns m.ranges) {range : MergeRange}
    (hr : range ∈ m.ranges) :
    m.span range.origin.1 range.origin.2 = (range.rowSpan, range.columnSpan) := by
  have ho := (range.isOrigin_iff range.origin).mpr rfl
  simp [span, rangeAt?_origin h hr, ho]

theorem covers_origin_iff (h : Laid rows columns m.ranges) {range : MergeRange}
    (hr : range ∈ m.ranges) (p : Position) :
    m.Covers range.origin p ↔ range.contains p.1 p.2 = true := by
  have hf := h.fits range hr
  have hrows := hf.row_le
  have hcolumns := hf.column_le
  rw [Covers, span_origin h hr, MergeRange.contains_iff]
  simp only [MergeRange.origin, MergeRange.rowSpan, MergeRange.columnSpan]
  omega

/-- Of the cells that are not hidden, exactly the anchor of a position covers it. -/
theorem visible_covers_iff (h : Laid rows columns m.ranges) (q p : Position) :
    (m.isHidden q.1 q.2 = false ∧ m.Covers q p) ↔ q = m.anchor p := by
  constructor
  · rintro ⟨hv, hc⟩
    rcases visible_cases hv with ⟨range, hr, rfl, -⟩ | ⟨hr, hs⟩
    · have hm := ((rangeAt?_eq_some_iff h).mp hr).1
      have hp := (covers_origin_iff h hm p).mp hc
      rw [anchor, (rangeAt?_eq_some_iff h).mpr ⟨hm, hp⟩]
    · have hqp : q = p := by
        simp only [Covers, hs] at hc
        exact Prod.ext (by omega) (by omega)
      subst hqp
      rw [anchor, hr]
  · rintro rfl
    unfold anchor
    cases hr : m.rangeAt? p.1 p.2 with
    | none => exact ⟨by simp [isHidden, hr], by simp [Covers, span, hr]⟩
    | some range =>
      obtain ⟨hm, hp⟩ := (rangeAt?_eq_some_iff h).mp hr
      exact ⟨isHidden_origin h hm, (covers_origin_iff h hm p).mpr hp⟩

theorem anchor_lt (h : Laid rows columns m.ranges) {p : Position} (hr : p.1 < rows)
    (hc : p.2 < columns) : (m.anchor p).1 < rows ∧ (m.anchor p).2 < columns := by
  unfold anchor
  cases hf : m.rangeAt? p.1 p.2 with
  | none => exact ⟨hr, hc⟩
  | some range =>
    have hp := (range.contains_iff p).mp ((rangeAt?_eq_some_iff h).mp hf).2
    exact ⟨by simp only [MergeRange.origin]; omega, by simp only [MergeRange.origin]; omega⟩

theorem visible_inside (h : Laid rows columns m.ranges) {q : Position}
    (hv : m.isHidden q.1 q.2 = false) (hr : q.1 < rows) (hc : q.2 < columns) :
    q.1 + (m.span q.1 q.2).1 ≤ rows ∧ q.2 + (m.span q.1 q.2).2 ≤ columns := by
  rcases visible_cases hv with ⟨range, hf, rfl, hs⟩ | ⟨-, hs⟩
  · have hfits := h.fits range ((rangeAt?_eq_some_iff h).mp hf).1
    obtain ⟨⟨hrows, hcolumns⟩, hlr, hlc⟩ := hfits
    rw [hs]
    simp only [MergeRange.origin, MergeRange.rowSpan, MergeRange.columnSpan]
    omega
  · simp only [hs]
    omega

theorem span_pos (m : Merges) (q : Position) :
    0 < (m.span q.1 q.2).1 ∧ 0 < (m.span q.1 q.2).2 := by
  unfold span
  split
  · split <;> simp [MergeRange.rowSpan, MergeRange.columnSpan]
  · simp

end Merges

end Spreadsheet.Workbook
