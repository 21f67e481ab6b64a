import Mathlib
import Spreadsheet.Proofs.Dictionary
import Spreadsheet.Proofs.Workbook.Border

namespace Spreadsheet.Workbook

theorem cellBorder?_congr {gridlineColor : String} {borderAt borderAt' : Position → Option SourceBorder}
    {p : Position} (h : ∀ e, drawnEdge? borderAt p e = drawnEdge? borderAt' p e) :
    cellBorder? gridlineColor borderAt p = cellBorder? gridlineColor borderAt' p := by
  rw [cellBorder?, cellBorder?, funext h]

def DecodedCell.unbordered (c : DecodedCell) : DecodedCell :=
  { c with style := { c.style with border := none } }

theorem DecodedCell.eq_of_unbordered {c d : DecodedCell} (h : c.unbordered = d.unbordered)
    (hborder : c.style.border = d.style.border) : c = d := by
  have hrestored : ∀ c : DecodedCell, { c.unbordered with
      style := { c.unbordered.style with border := c.style.border } } = c := fun _ => rfl
  rw [← hrestored c, h, hborder, hrestored d]

namespace SourceSheet

/-- The sheets store the same apart from the cell at one position. -/
structure AgreeExcept (p : Position) (s s' : SourceSheet) : Prop where
  name : s.name = s'.name
  dimensions : s.dimensions = s'.dimensions
  merges : s.merges = s'.merges
  columnWidths : s.columnWidths = s'.columnWidths
  rowHeights : s.rowHeights = s'.rowHeights
  cell : ∀ q : Position, q ≠ p → s.cell? q.1 q.2 = s'.cell? q.1 q.2

namespace AgreeExcept

variable {p q : Position} {s s' : SourceSheet} (h : AgreeExcept p s s') (config : DecodeConfig)
  (size : Nat × Nat)

include h

theorem gridMerges : s.gridMerges size = s'.gridMerges size := by
  rw [SourceSheet.gridMerges, SourceSheet.gridMerges, h.merges]

theorem gridSide? (hq : q ≠ p) (e : Edge) : s.gridSide? size q e = s'.gridSide? size q e := by
  simp only [SourceSheet.gridSide?, side?, h.cell q hq]

theorem facing? {e : Edge} (he : e.neighbor? q ≠ some p) :
    s.facing? size q e = s'.facing? size q e := by
  rw [SourceSheet.facing?, SourceSheet.facing?]
  cases hn : e.neighbor? q with
  | none => rfl
  | some r =>
    have hr : r ≠ p := by
      rintro rfl
      exact he hn
    exact h.gridSide? size hr e.opposite

theorem drawnEdge? (hq : q ≠ p) {e : Edge} (he : e.neighbor? q ≠ some p) :
    Workbook.drawnEdge? (s.borderAt size) q e = Workbook.drawnEdge? (s'.borderAt size) q e := by
  rw [drawnEdge?_borderAt, drawnEdge?_borderAt, h.gridSide? size hq, h.facing? size he]

theorem unbordered_gridCell (hq : q ≠ p) :
    (s.gridCell config size q).unbordered = (s'.gridCell config size q).unbordered := by
  simp only [DecodedCell.unbordered, gridCell, decodeAt, h.cell q hq, h.gridMerges]

theorem edge_gridCell (hq : q ≠ p) {e : Edge} (he : e.neighbor? q ≠ some p) :
    (s.gridCell config size q).edge config.gridlineColor e =
      (s'.gridCell config size q).edge config.gridlineColor e := by
  rw [SourceSheet.edge_gridCell, SourceSheet.edge_gridCell, h.gridSide? size hq, h.facing? size he]

theorem gridCell (hq : q ≠ p) (hfar : ∀ e : Edge, e.neighbor? q ≠ some p) :
    s.gridCell config size q = s'.gridCell config size q :=
  DecodedCell.eq_of_unbordered (h.unbordered_gridCell config size hq)
    (cellBorder?_congr fun e => h.drawnEdge? size hq (hfar e))

end AgreeExcept

/-- Sheets that store the same apart from one cell are decoded alike apart from that cell and from
the edges of its neighbours that face it, or both fail in the same way. -/
theorem decode_local {p : Position} {s s' : SourceSheet} (h : AgreeExcept p s s')
    (config : DecodeConfig) :
    (∀ fault, s.dimensions.resolve config = .error fault →
      s.decode config = .error fault ∧ s'.decode config = .error fault) ∧
    ∀ size, s.dimensions.resolve config = .ok size →
      ∃ w w', s.decode config = .ok w ∧ s'.decode config = .ok w' ∧ (w.rows, w.columns) = size ∧
        { w with cells := [] } = { w' with cells := [] } ∧
        ∀ q : Position, w.Contains q → ∃ c c', w.cell? q = some c ∧ w'.cell? q = some c' ∧
          (q ≠ p → (∀ e : Edge, e.neighbor? p ≠ some q) → c = c') ∧
          (∀ e : Edge, e.neighbor? p = some q →
            c.unbordered = c'.unbordered ∧
              ∀ f, f ≠ e.opposite → c.edge config.gridlineColor f = c'.edge config.gridlineColor f) ∧
          c.hidden = c'.hidden ∧ c.rowSpan = c'.rowSpan ∧ c.columnSpan = c'.columnSpan := by
  constructor
  · intro fault hfault
    rw [decode, decode, ← h.dimensions, hfault]
    exact ⟨rfl, rfl⟩
  · intro size hsize
    refine ⟨_, _, decode_eq hsize, decode_eq (h.dimensions ▸ hsize), rfl, ?_, fun q hq => ?_⟩
    · simp only [decodeSized, h.name, h.merges, h.columnWidths, h.rowHeights]
    · refine ⟨_, _, cell?_decodeSized hq, cell?_decodeSized hq, ?_, ?_, ?_⟩
      · intro hne hfar
        exact h.gridCell config size hne fun e he => hfar e.opposite (Edge.neighbor?_opposite he)
      · intro e he
        have hne : q ≠ p := Edge.neighbor?_ne he
        refine ⟨h.unbordered_gridCell config size hne, fun f hf => ?_⟩
        refine h.edge_gridCell config size hne fun hback => hf ?_
        exact Edge.eq_of_neighbor? hback (Edge.neighbor?_opposite he)
      · simp only [SourceSheet.gridCell, decodeAt, h.gridMerges, true_and]

def blemished : SourceSheet :=
  { underlined with
    cells := underlined.cells.insert (0, 0) { SourceCell.blank with
      value := .error "#REF!"
      style := some ⟨none, none, some ⟨none, some ⟨some "thick", none⟩, none, none⟩, none⟩ } }

/-- The edge between the first cell and the one below is gone, and nothing else of that one. A cell
farther off is the same. -/
theorem blemished_local :
    AgreeExcept (0, 0) underlined blemished ∧ Edge.bottom.neighbor? (0, 0) = some (1, 0) ∧
      (∀ e : Edge, e.neighbor? (0, 0) ≠ some (2, 1)) ∧
      ∃ w w', underlined.decode Config.defaultDecode = .ok w ∧
        blemished.decode Config.defaultDecode = .ok w' ∧ (w.rows, w.columns) = (3, 2) ∧
        { w with cells := [] } = { w' with cells := [] } ∧
        (∃ c c', w.cell? (1, 0) = some c ∧ w'.cell? (1, 0) = some c' ∧
          c.unbordered = c'.unbordered ∧
          (∀ f, f ≠ .top → c.edge "#D4D4D4" f = c'.edge "#D4D4D4" f) ∧
          (c.edge "#D4D4D4" .top).source = .neighbor ∧
          (c'.edge "#D4D4D4" .top).source = .gridline ∧
          c.hidden = c'.hidden ∧ c.rowSpan = c'.rowSpan ∧ c.columnSpan = c'.columnSpan) ∧
        ∃ c, w.cell? (2, 1) = some c ∧ w'.cell? (2, 1) = some c := by
  have hagree : AgreeExcept (0, 0) underlined blemished := by
    refine ⟨rfl, rfl, rfl, rfl, rfl, fun q hq => ?_⟩
    exact ((Dictionary.get?_insert _ _ q _).trans (if_neg hq)).symm
  have hfar : ∀ e : Edge, e.neighbor? (0, 0) ≠ some (2, 1) := by
    intro e
    cases e <;> decide
  obtain ⟨-, hdecoded⟩ := decode_local hagree Config.defaultDecode
  obtain ⟨w, w', hw, hw', hgrid, hsame, hcells⟩ := hdecoded _ resolve_underlined
  refine ⟨hagree, rfl, hfar, w, w', hw, hw', hgrid, hsame, ?_, ?_⟩
  · obtain ⟨c, c', hc, hc', -, hnear, hmerged⟩ :=
      hcells (1, 0) ((Worksheet.contains_iff hgrid).mpr (by decide))
    obtain ⟨hrest, hedges⟩ := hnear .bottom rfl
    refine ⟨c, c', hc, hc', hrest, hedges, ?_, ?_, hmerged⟩
    · obtain rfl := eq_of_decode resolve_underlined hw
      have htop : ((underlined.decodeSized Config.defaultDecode (3, 2)).cell? (1, 0)).map
          (fun c => (c.edge "#D4D4D4" .top).source) = some .neighbor := by decide
      rw [hc] at htop
      exact Option.some.inj htop
    · have hsize : blemished.dimensions.resolve Config.defaultDecode = .ok (3, 2) :=
        resolve_underlined
      obtain rfl := eq_of_decode hsize hw'
      have htop : ((blemished.decodeSized Config.defaultDecode (3, 2)).cell? (1, 0)).map
          (fun c => (c.edge "#D4D4D4" .top).source) = some .gridline := by decide
      rw [hc'] at htop
      exact Option.some.inj htop
  · obtain ⟨c, c', hc, hc', hequal, -⟩ :=
      hcells (2, 1) ((Worksheet.contains_iff hgrid).mpr (by decide))
    obtain rfl := hequal (by decide) hfar
    exact ⟨c, hc, hc'⟩

end SourceSheet

end Spreadsheet.Workbook
