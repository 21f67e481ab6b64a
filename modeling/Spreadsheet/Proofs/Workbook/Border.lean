import Mathlib
import Spreadsheet.Proofs.Dictionary
import Spreadsheet.Proofs.Workbook.Tiling

namespace Spreadsheet.Workbook

namespace Edge

@[simp] theorem opposite_opposite (e : Edge) : e.opposite.opposite = e := by
  cases e <;> rfl

theorem mem_all (e : Edge) : e ∈ all := by
  cases e <;> simp [all]

/-- The second position is one step from the first one, across an edge. -/
def Leads : Edge → Position → Position → Prop
  | top, p, q => p.1 = q.1 + 1 ∧ p.2 = q.2
  | right, p, q => p.1 = q.1 ∧ p.2 + 1 = q.2
  | bottom, p, q => p.1 + 1 = q.1 ∧ p.2 = q.2
  | left, p, q => p.1 = q.1 ∧ p.2 = q.2 + 1

theorem neighbor?_eq_some_iff {e : Edge} {p q : Position} :
    e.neighbor? p = some q ↔ e.Leads p q := by
  cases e with
  | top | left =>
    simp only [neighbor?, Leads]
    split
    · simp only [reduceCtorEq, false_iff]
      omega
    · simp only [Option.some.injEq, Prod.ext_iff]
      omega
  | right | bottom => simp [neighbor?, Leads, Prod.ext_iff]

/-- A cell is seen back across the opposite edge, also at the first row and the first column. -/
theorem neighbor?_opposite {e : Edge} {p q : Position} (h : e.neighbor? p = some q) :
    e.opposite.neighbor? q = some p := by
  rw [neighbor?_eq_some_iff] at h ⊢
  cases e <;> simp only [opposite, Leads] at h ⊢ <;> omega

theorem neighbor?_ne {e : Edge} {p q : Position} (h : e.neighbor? p = some q) : q ≠ p := by
  rintro rfl
  rw [neighbor?_eq_some_iff] at h
  cases e <;> simp only [Leads] at h <;> omega

theorem eq_of_neighbor? {e f : Edge} {p q : Position} (h : e.neighbor? p = some q)
    (h' : f.neighbor? p = some q) : e = f := by
  rw [neighbor?_eq_some_iff] at h h'
  cases e <;> cases f <;> grind [Leads]

end Edge

def SourceBorder.side (b : SourceBorder) : Edge → Option SourceSide
  | .top => b.top
  | .right => b.right
  | .bottom => b.bottom
  | .left => b.left

theorem SourceBorder.declared?_eq (b : SourceBorder) (e : Edge) :
    b.declared? e = (b.side e).filter (·.isDeclared) := by
  cases e <;> rfl

@[simp] theorem SourceSide.source_edge (side : SourceSide) (source : EdgeSource) :
    (side.edge source).source = source :=
  rfl

def CellBorder.edge (b : CellBorder) : Edge → BorderEdge
  | .top => b.top
  | .right => b.right
  | .bottom => b.bottom
  | .left => b.left

/-- The edge that a cell shows; a cell without a border shows gridlines. -/
def DecodedCell.edge (c : DecodedCell) (gridlineColor : String) (e : Edge) : BorderEdge :=
  c.style.border.elim (gridline gridlineColor) (·.edge e)

section Border

variable {gridlineColor : String} {borderAt : Position → Option SourceBorder} {p : Position}

/-- The missing border and the border with gridlines look alike on every edge. -/
theorem elim_cellBorder? (e : Edge) :
    (cellBorder? gridlineColor borderAt p).elim (gridline gridlineColor) (·.edge e) =
      (drawnEdge? borderAt p e).getD (gridline gridlineColor) := by
  rw [cellBorder?]
  split
  · rename_i hnone
    have he : (drawnEdge? borderAt p e).isNone := List.all_eq_true.mp hnone e e.mem_all
    rw [Option.isNone_iff_eq_none.mp he]
    rfl
  · cases e <;> rfl

theorem cellBorder?_eq_none_iff :
    cellBorder? gridlineColor borderAt p = none ↔ ∀ e, drawnEdge? borderAt p e = none := by
  rw [cellBorder?]
  split
  · rename_i hnone
    have hall := List.all_eq_true.mp hnone
    exact iff_of_true rfl fun e => Option.isNone_iff_eq_none.mp (hall e e.mem_all)
  · rename_i hsome
    refine iff_of_false (Option.some_ne_none _) fun hall => hsome ?_
    exact List.all_eq_true.mpr fun e _ => Option.isNone_iff_eq_none.mpr (hall e)

end Border

namespace Worksheet

/-- The position is in the grid. -/
def Contains (w : Worksheet) (p : Position) : Prop :=
  p.1 < w.rows ∧ p.2 < w.columns

instance (w : Worksheet) (p : Position) : Decidable (w.Contains p) :=
  inferInstanceAs (Decidable (_ ∧ _))

theorem contains_iff {w : Worksheet} {size : Nat × Nat} (h : (w.rows, w.columns) = size)
    {p : Position} : w.Contains p ↔ p.1 < size.1 ∧ p.2 < size.2 := by
  subst h
  rfl

end Worksheet

namespace SourceSheet

variable (sheet : SourceSheet) (config : DecodeConfig) (size : Nat × Nat)

def side? (p : Position) (e : Edge) : Option SourceSide :=
  ((((sheet.cell? p.1 p.2).bind (·.style)).bind (·.border)).bind (·.side e)).filter (·.isDeclared)

/-- The side that a cell of the grid declares. The cells that are stored beyond the grid declare
nothing. -/
def gridSide? (p : Position) (e : Edge) : Option SourceSide :=
  if p.1 < size.1 ∧ p.2 < size.2 then sheet.side? p e else none

def facing? (p : Position) (e : Edge) : Option SourceSide :=
  (e.neighbor? p).bind fun q => sheet.gridSide? size q e.opposite

variable {sheet config size}

theorem facing?_eq {p q : Position} {e : Edge} (h : e.neighbor? p = some q)
    (hq : (sheet.decodeSized config size).Contains q) :
    sheet.facing? size p e = sheet.side? q e.opposite := by
  rw [facing?, h, Option.bind_some]
  exact if_pos hq

theorem facing?_eq_none_iff {p : Position} {e : Edge} :
    sheet.facing? size p e = none ↔
      ∀ q, (sheet.decodeSized config size).Contains q → e.neighbor? p = some q →
        sheet.side? q e.opposite = none := by
  rw [facing?, Option.bind_eq_none_iff]
  refine forall_congr' fun q => ?_
  rw [gridSide?]
  split
  · rename_i hq
    exact ⟨fun h _ => h, fun h => h hq⟩
  · rename_i hq
    exact iff_of_true (fun _ => rfl) fun h => absurd h hq

theorem cell?_decodeSized {p : Position} (hp : (sheet.decodeSized config size).Contains p) :
    (sheet.decodeSized config size).cell? p = some (sheet.gridCell config size p) := by
  obtain ⟨hr, hc⟩ := hp
  change p.1 < size.1 at hr
  change p.2 < size.2 at hc
  have hcells : (sheet.decodeSized config size).cells = (List.range size.1).map fun r =>
      (List.range size.2).map fun c => sheet.gridCell config size (r, c) := rfl
  simp [Worksheet.cell?, hcells, hr, hc]

variable (sheet size)

theorem bind_borderAt (p : Position) (e : Edge) :
    (sheet.borderAt size p).bind (·.declared? e) = sheet.gridSide? size p e := by
  rw [borderAt, gridSide?]
  split
  · rw [side?]
    cases ((sheet.cell? p.1 p.2).bind (·.style)).bind (·.border) with
    | none => rfl
    | some b => exact b.declared?_eq e
  · rfl

theorem drawnEdge?_borderAt (p : Position) (e : Edge) :
    drawnEdge? (sheet.borderAt size) p e =
      ((sheet.gridSide? size p e).map (·.edge .declared)).or
        ((sheet.facing? size p e).map (·.edge .neighbor)) := by
  have hfacing : ((e.neighbor? p).bind (sheet.borderAt size)).bind (·.declared? e.opposite) =
      sheet.facing? size p e := by
    rw [facing?, Option.bind_assoc]
    simp only [sheet.bind_borderAt size]
  rw [drawnEdge?, hfacing, sheet.bind_borderAt size]
  cases sheet.gridSide? size p e <;> rfl

variable (config)

theorem edge_gridCell (p : Position) (e : Edge) :
    (sheet.gridCell config size p).edge config.gridlineColor e =
      (((sheet.gridSide? size p e).map (·.edge .declared)).or
        ((sheet.facing? size p e).map (·.edge .neighbor))).getD (gridline config.gridlineColor) := by
  rw [← sheet.drawnEdge?_borderAt size p e, ← elim_cellBorder? e]
  rfl

end SourceSheet

/-- How the cells on the two sides of an edge show it, from the sides that they declare for it. -/
structure SharedEdge (gridlineColor : String) (side side' : Option SourceSide)
    (shown shown' : BorderEdge) : Prop where
  declared : ∀ s ∈ side, shown = s.edge .declared
  declared' : ∀ s ∈ side', shown' = s.edge .declared
  neighbor : side = none → side'.isSome → shown.source = .neighbor
  neighbor' : side' = none → side.isSome → shown'.source = .neighbor
  gridlines : side = none → side' = none →
    shown = gridline gridlineColor ∧ shown' = gridline gridlineColor
  alike : side = none ∨ side' = none →
    shown.width = shown'.width ∧ shown.dash = shown'.dash ∧ shown.color = shown'.color

theorem SharedEdge.eq_neighbor {gridlineColor : String} {side : SourceSide}
    {shown shown' : BorderEdge} (h : SharedEdge gridlineColor (some side) none shown shown') :
    shown' = side.edge .neighbor := by
  obtain ⟨hwidth, hdash, hcolor⟩ := h.alike (.inr rfl)
  rw [h.declared side rfl] at hwidth hdash hcolor
  calc shown' = ⟨shown'.width, shown'.dash, shown'.color, shown'.source⟩ := rfl
    _ = side.edge .neighbor := by
      rw [← hwidth, ← hdash, ← hcolor, h.neighbor' rfl rfl]
      rfl

theorem sharedEdge_getD (gridlineColor : String) (side side' : Option SourceSide) :
    SharedEdge gridlineColor side side'
      (((side.map (·.edge .declared)).or (side'.map (·.edge .neighbor))).getD
        (gridline gridlineColor))
      (((side'.map (·.edge .declared)).or (side.map (·.edge .neighbor))).getD
        (gridline gridlineColor)) := by
  cases side with
  | none =>
    cases side' with
    | none => exact ⟨by simp, by simp, by simp, by simp, by simp, by simp⟩
    | some s' => exact ⟨by simp, by simp, by simp, by simp, by simp, fun _ => ⟨rfl, rfl, rfl⟩⟩
  | some s =>
    cases side' with
    | none => exact ⟨by simp, by simp, by simp, by simp, by simp, fun _ => ⟨rfl, rfl, rfl⟩⟩
    | some s' => exact ⟨by simp, by simp, by simp, by simp, by simp, by simp⟩

namespace SourceSheet

variable {sheet : SourceSheet} {config : DecodeConfig} {size : Nat × Nat}

/-- Adjacent cells agree on the edge between them as far as one declaration allows, and a cell has no
border exactly if none of its edges is declared on either side. -/
theorem decode_sharedEdge (h : sheet.dimensions.resolve config = .ok size) :
    ∃ w, sheet.decode config = .ok w ∧ (w.rows, w.columns) = size ∧
      (∀ (p q : Position) (e : Edge), w.Contains p → w.Contains q → e.neighbor? p = some q →
        ∃ c d, w.cell? p = some c ∧ w.cell? q = some d ∧
          SharedEdge config.gridlineColor (sheet.side? p e) (sheet.side? q e.opposite)
            (c.edge config.gridlineColor e) (d.edge config.gridlineColor e.opposite)) ∧
      ∀ p : Position, w.Contains p → ∃ c, w.cell? p = some c ∧
        (c.style.border = none ↔
          ∀ e, sheet.side? p e = none ∧ ∀ q, w.Contains q → e.neighbor? p = some q →
            sheet.side? q e.opposite = none) := by
  refine ⟨_, decode_eq h, rfl, ?_, ?_⟩
  · intro p q e hp hq hpq
    refine ⟨_, _, cell?_decodeSized hp, cell?_decodeSized hq, ?_⟩
    have hside : sheet.gridSide? size p e = sheet.side? p e := if_pos hp
    have hside' : sheet.gridSide? size q e.opposite = sheet.side? q e.opposite := if_pos hq
    have hback : sheet.facing? size q e.opposite = sheet.side? p e := by
      rw [facing?_eq (Edge.neighbor?_opposite hpq) hp, e.opposite_opposite]
    rw [sheet.edge_gridCell, sheet.edge_gridCell, hside, hside', hback, facing?_eq hpq hq]
    exact sharedEdge_getD _ _ _
  · intro p hp
    refine ⟨_, cell?_decodeSized hp, ?_⟩
    have hborder : (sheet.gridCell config size p).style.border =
        cellBorder? config.gridlineColor (sheet.borderAt size) p := rfl
    rw [hborder, cellBorder?_eq_none_iff]
    refine forall_congr' fun e => ?_
    have hside : sheet.gridSide? size p e = sheet.side? p e := if_pos hp
    rw [sheet.drawnEdge?_borderAt, hside, Option.or_eq_none_iff, Option.map_eq_none_iff,
      Option.map_eq_none_iff, facing?_eq_none_iff]

def underlined : SourceSheet :=
  { SourceSheet.named "S" with
    dimensions := { Dimensions.unknown with rows := some 2, columns := some 2 }
    cells := Dictionary.empty.insert (0, 0) { SourceCell.blank with
      style := some ⟨none, none, some ⟨none, none, some ⟨some "medium", none⟩, none⟩, none⟩ } }

theorem underlined_side? {p : Position} (hp : p ≠ (0, 0)) (e : Edge) :
    underlined.side? p e = none := by
  have hcell : underlined.cell? p.1 p.2 = none :=
    (Dictionary.get?_insert _ _ p _).trans (if_neg hp)
  rw [side?, hcell]
  rfl

theorem resolve_underlined : underlined.dimensions.resolve Config.defaultDecode = .ok (3, 2) := by
  decide

/-- The cell below shows the same edge, and a cell of the second column has no border. -/
theorem underlined_sharedEdge :
    underlined.dimensions.resolve Config.defaultDecode = .ok (3, 2) ∧
      underlined.side? (0, 0) .bottom = some ⟨some "medium", none⟩ ∧
      underlined.side? (1, 0) .top = none ∧
      ∃ w, underlined.decode Config.defaultDecode = .ok w ∧ (w.rows, w.columns) = (3, 2) ∧
        (∃ c d, w.cell? (0, 0) = some c ∧ w.cell? (1, 0) = some d ∧
          c.edge "#D4D4D4" .bottom = ⟨1.5, .solid, "#000000", .declared⟩ ∧
          d.edge "#D4D4D4" .top = ⟨1.5, .solid, "#000000", .neighbor⟩) ∧
        ∃ c, w.cell? (1, 1) = some c ∧ c.style.border = none := by
  have hside : underlined.side? (0, 0) .bottom = some ⟨some "medium", none⟩ := by decide
  have hside' : underlined.side? (1, 0) .top = none := by decide
  obtain ⟨w, hw, hgrid, hshared, hborder⟩ := decode_sharedEdge resolve_underlined
  refine ⟨resolve_underlined, hside, hside', w, hw, hgrid, ?_, ?_⟩
  · obtain ⟨c, d, hc, hd, h⟩ := hshared (0, 0) (1, 0) .bottom
      ((Worksheet.contains_iff hgrid).mpr (by decide))
      ((Worksheet.contains_iff hgrid).mpr (by decide)) rfl
    rw [hside, Edge.opposite, hside'] at h
    exact ⟨c, d, hc, hd, h.declared _ rfl, h.eq_neighbor⟩
  · obtain ⟨c, hc, hnone⟩ := hborder (1, 1) ((Worksheet.contains_iff hgrid).mpr (by decide))
    refine ⟨c, hc, hnone.mpr fun e => ?_⟩
    have hneighbor : ∀ q, e.neighbor? (1, 1) = some q → q ≠ (0, 0) := by
      rintro q hq rfl
      cases e <;> cases hq
    exact ⟨underlined_side? (by decide) e, fun q _ hq => underlined_side? (hneighbor q hq) _⟩

end SourceSheet

end Spreadsheet.Workbook
