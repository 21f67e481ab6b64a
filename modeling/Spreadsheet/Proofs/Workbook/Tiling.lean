import Mathlib
import Spreadsheet.Proofs.Workbook.Merge
import Spreadsheet.Workbook.Worksheet

namespace Spreadsheet.Workbook

/-- The rectangle that a placed cell takes contains a position. -/
def Covers (c : Position × DecodedCell) (p : Position) : Prop :=
  c.1.1 ≤ p.1 ∧ p.1 < c.1.1 + c.2.rowSpan ∧ c.1.2 ≤ p.2 ∧ p.2 < c.1.2 + c.2.columnSpan

instance (c : Position × DecodedCell) (p : Position) : Decidable (Covers c p) :=
  inferInstanceAs (Decidable (_ ∧ _))

/-- The sizes of a worksheet agree, and its visible cells part the grid. -/
structure Worksheet.Tiled (w : Worksheet) : Prop where
  row_count : w.cells.length = w.rows
  cell_count : ∀ row ∈ w.cells, row.length = w.columns
  width_count : w.columnWidths.length = w.columns
  height_count : w.rowHeights.length = w.rows
  span_pos : ∀ c ∈ w.visibleCells, 0 < c.2.rowSpan ∧ 0 < c.2.columnSpan
  inside : ∀ c ∈ w.visibleCells,
    c.1.1 + c.2.rowSpan ≤ w.rows ∧ c.1.2 + c.2.columnSpan ≤ w.columns
  covered_once : ∀ p : Position, p.1 < w.rows → p.2 < w.columns →
    w.visibleCells.countP (fun c => Covers c p) = 1

theorem zipIdx_map_range {α : Type} (f : Nat → α) (n : Nat) :
    ((List.range n).map f).zipIdx = (List.range n).map fun i => (f i, i) := by
  apply List.ext_getElem
  · simp
  · intro i hi hi'
    simp

/-- The positions of a grid, row by row. -/
def places (size : Nat × Nat) : List Position :=
  (List.range size.1).flatMap fun r => (List.range size.2).map fun c => (r, c)

theorem mem_places {size : Nat × Nat} {p : Position} :
    p ∈ places size ↔ p.1 < size.1 ∧ p.2 < size.2 := by
  simp [places, Prod.ext_iff]

theorem nodup_places (size : Nat × Nat) : (places size).Nodup :=
  List.nodup_range.product List.nodup_range

theorem Worksheet.placedCells_eq_map (w : Worksheet) (size : Nat × Nat) (f : Position → DecodedCell)
    (h : w.cells = (List.range size.1).map fun r => (List.range size.2).map fun c => f (r, c)) :
    w.placedCells = (places size).map fun p => (p, f p) := by
  rw [placedCells, h, zipIdx_map_range, List.map_map, places, List.map_flatMap, List.flatMap]
  congr 1
  refine List.map_congr_left fun r _ => ?_
  simp [zipIdx_map_range]

namespace SourceSheet

variable (sheet : SourceSheet) (config : DecodeConfig) (size : Nat × Nat)

def gridMerges : Merges :=
  .ofLabels size.1 size.2 sheet.merges

def gridCell (p : Position) : DecodedCell :=
  sheet.decodeAt config size (sheet.gridMerges size) p

variable {sheet config size} in
theorem decode_eq (h : sheet.dimensions.resolve config = .ok size) :
    sheet.decode config = .ok (sheet.decodeSized config size) := by
  rw [decode, h]
  rfl

variable {sheet config size} in
theorem eq_of_decode {w : Worksheet} (h : sheet.dimensions.resolve config = .ok size)
    (hw : sheet.decode config = .ok w) : w = sheet.decodeSized config size :=
  Except.ok.inj (hw.symm.trans (decode_eq h))

theorem gridMerges_laid : Laid size.1 size.2 (sheet.gridMerges size).ranges :=
  Merges.ofLabels_laid ..

theorem visibleCells_decodeSized :
    (sheet.decodeSized config size).visibleCells =
      ((places size).filter fun p => !(sheet.gridMerges size).isHidden p.1 p.2).map
        fun p => (p, sheet.gridCell config size p) := by
  rw [Worksheet.visibleCells,
    Worksheet.placedCells_eq_map _ size (sheet.gridCell config size) rfl, List.filter_map]
  rfl

theorem mem_visibleCells_decodeSized {c : Position × DecodedCell} :
    c ∈ (sheet.decodeSized config size).visibleCells ↔
      ∃ p ∈ places size, (sheet.gridMerges size).isHidden p.1 p.2 = false ∧
        (p, sheet.gridCell config size p) = c := by
  simp [visibleCells_decodeSized, and_assoc]

/-- A position of the grid is in the rectangle of its anchor and of no other visible cell. -/
theorem countP_covers {p : Position} (hp : p ∈ places size) :
    (sheet.decodeSized config size).visibleCells.countP (fun c => Covers c p) = 1 := by
  have hl := sheet.gridMerges_laid size
  have ha : (sheet.gridMerges size).anchor p ∈ places size := by
    rw [mem_places] at hp ⊢
    exact Merges.anchor_lt hl hp.1 hp.2
  rw [visibleCells_decodeSized, List.countP_map, List.countP_filter]
  calc (places size).countP _
      = (places size).countP (· == (sheet.gridMerges size).anchor p) := by
        refine List.countP_congr fun q _ => ?_
        simp only [Bool.and_eq_true, Bool.not_eq_true', beq_iff_eq, ← Merges.visible_covers_iff hl]
        exact and_comm.trans (and_congr_right fun _ => decide_eq_true_iff)
    _ = 1 := List.count_eq_one_of_mem (nodup_places _) ha

/-- Each merge of the grid is the rectangle of a visible cell. -/
theorem exists_visible_of_mem_merges {m : MergeRange}
    (hm : m ∈ (sheet.decodeSized config size).merges) :
    ∃ c ∈ (sheet.decodeSized config size).visibleCells,
      c.1 = m.origin ∧ c.2.rowSpan = m.rowSpan ∧ c.2.columnSpan = m.columnSpan := by
  have hl := sheet.gridMerges_laid size
  have hf := hl.fits m hm
  have hs := Merges.span_origin hl hm
  refine ⟨(m.origin, sheet.gridCell config size m.origin), ?_, rfl, ?_, ?_⟩
  · rw [mem_visibleCells_decodeSized]
    refine ⟨m.origin, ?_, Merges.isHidden_origin hl hm, rfl⟩
    rw [mem_places]
    exact ⟨hf.row_le.trans_lt hf.lastRow_lt, hf.column_le.trans_lt hf.lastColumn_lt⟩
  · exact congrArg Prod.fst hs
  · exact congrArg Prod.snd hs

theorem tiled_decodeSized : (sheet.decodeSized config size).Tiled where
  row_count := by simp [decodeSized]
  cell_count := by simp [decodeSized]
  width_count := by simp [decodeSized]
  height_count := by simp [decodeSized]
  span_pos := by
    intro c hc
    obtain ⟨p, -, -, rfl⟩ := (mem_visibleCells_decodeSized sheet config size).mp hc
    exact Merges.span_pos _ p
  inside := by
    intro c hc
    obtain ⟨p, hp, hv, rfl⟩ := (mem_visibleCells_decodeSized sheet config size).mp hc
    rw [mem_places] at hp
    exact Merges.visible_inside (sheet.gridMerges_laid size) hv hp.1 hp.2
  covered_once := fun p hr hc => sheet.countP_covers config size (mem_places.mpr ⟨hr, hc⟩)

variable {sheet config size} in
/-- The visible cells of a decoded sheet part its grid, and the merges are among their rectangles. -/
theorem decode_tiled (h : sheet.dimensions.resolve config = .ok size) :
    ∃ w, sheet.decode config = .ok w ∧ (w.rows, w.columns) = size ∧ w.Tiled ∧
      ∀ m ∈ w.merges, ∃ c ∈ w.visibleCells,
        c.1 = m.origin ∧ c.2.rowSpan = m.rowSpan ∧ c.2.columnSpan = m.columnSpan :=
  ⟨_, decode_eq h, rfl, sheet.tiled_decodeSized config size,
    fun _ => sheet.exists_visible_of_mem_merges config size⟩

/-- The second label overlaps the first one and leaves the grid, and the third one is none. -/
def overlaid : SourceSheet :=
  { SourceSheet.named "S" with
    dimensions := { Dimensions.unknown with rows := some 2, columns := some 2 }
    merges := ["A1:B2", "B2:C4", "A3"] }

theorem overlaid_tiled :
    overlaid.dimensions.resolve Config.defaultDecode = .ok (3, 2) ∧
      ∃ w, overlaid.decode Config.defaultDecode = .ok w ∧ (w.rows, w.columns) = (3, 2) ∧ w.Tiled ∧
        w.visibleCells.map (fun c => (c.1, c.2.rowSpan, c.2.columnSpan)) =
          [((0, 0), 2, 2), ((2, 0), 1, 1), ((2, 1), 1, 1)] := by
  have hsize : overlaid.dimensions.resolve Config.defaultDecode = .ok (3, 2) := by decide
  obtain ⟨w, hw, hgrid, htiled, -⟩ := decode_tiled hsize
  refine ⟨hsize, w, hw, hgrid, htiled, ?_⟩
  obtain rfl := eq_of_decode hsize hw
  decide

end SourceSheet

end Spreadsheet.Workbook
