import Mathlib
import Spreadsheet.Proofs.Dictionary
import Spreadsheet.Workbook.Source

namespace Spreadsheet.Workbook

open Dictionary

/-- The document that is written from the cells of a sheet in the given order: they are sorted by
their places. -/
def SourceSheet.toDocumentFrom (sheet : SourceSheet) (listing : List (Position × SourceCell)) :
    SheetDocument :=
  { sheet.toDocument with
    cells := (listing.map fun e => ⟨e.1, e.2⟩).mergeSort fun a b =>
      !KeyOrder.lt b.position a.position }

theorem lt_position_iff {p q : Position} :
    KeyOrder.lt p q = true ↔ p.1 < q.1 ∨ p.1 = q.1 ∧ p.2 < q.2 := by
  simp [KeyOrder.lt, pairPrecedes]

def PlacedCell.entry (c : PlacedCell) : Position × SourceCell :=
  (c.position, c.cell)

theorem PlacedCell.entry_injective : Function.Injective PlacedCell.entry := by
  rintro ⟨p, c⟩ ⟨q, d⟩ h
  cases h
  rfl

namespace SourceSheet

theorem map_entry_toDocument (sheet : SourceSheet) :
    sheet.toDocument.cells.map PlacedCell.entry = sheet.cells.entries := by
  rw [toDocument, List.map_map]
  exact List.map_id sheet.cells.entries

theorem toSheet_toDocument (sheet : SourceSheet) : sheet.toDocument.toSheet = sheet := by
  calc sheet.toDocument.toSheet
    _ = { sheet with cells := ofList (sheet.toDocument.cells.map PlacedCell.entry) } := rfl
    _ = sheet := by rw [map_entry_toDocument, ofList_entries]

theorem toDocumentFrom_eq {sheet : SourceSheet} {listing : List (Position × SourceCell)}
    (h : listing.Perm sheet.cells.entries) : sheet.toDocumentFrom listing = sheet.toDocument := by
  have hsort := mergeSort_of_perm_entries h
  rw [toDocumentFrom, ← List.map_mergeSort (r := fun a b => !KeyOrder.lt b.1 a.1)
    fun _ _ _ _ => rfl, hsort]
  rfl

end SourceSheet

namespace SheetDocument

variable {d : SheetDocument}

theorem pairwise_toDocument (d : SheetDocument) : d.toSheet.toDocument.cells.Pairwise fun a b =>
    a.position.1 < b.position.1 ∨
      a.position.1 = b.position.1 ∧ a.position.2 < b.position.2 := by
  refine List.pairwise_map.mpr (d.toSheet.cells.sorted.imp ?_)
  exact lt_position_iff.mp

/-- The cells that come back are the last ones of their places. -/
theorem mem_toDocument {c : PlacedCell} : c ∈ d.toSheet.toDocument.cells ↔
    (d.cells.filter (·.position = c.position)).getLast? = some c := by
  have hcells : d.toSheet.cells = ofList (d.cells.map PlacedCell.entry) := rfl
  have hfilter : (d.cells.map PlacedCell.entry).filter (·.1 = c.entry.1) =
      (d.cells.filter (·.position = c.position)).map PlacedCell.entry := List.filter_map
  rw [← List.mem_map_of_injective PlacedCell.entry_injective, d.toSheet.map_entry_toDocument, hcells,
    mem_entries_ofList, hfilter, List.getLast?_map, ← Option.map_some,
    (Option.map_injective PlacedCell.entry_injective).eq_iff]

end SheetDocument

/-- A sheet is the one of its document, whose cells may be listed in any order before they are written.
A document comes back with the last of its cells at each place, by row and column, and is else as it
was. -/
theorem sheet_document_roundTrip :
    (∀ sheet : SourceSheet, sheet.toDocument.toSheet = sheet ∧
        ∀ listing, listing.Perm sheet.cells.entries →
          sheet.toDocumentFrom listing = sheet.toDocument) ∧
      ∀ d : SheetDocument, ∃ cells, d.toSheet.toDocument = { d with cells := cells } ∧
        cells.Pairwise (fun a b => a.position.1 < b.position.1 ∨
          a.position.1 = b.position.1 ∧ a.position.2 < b.position.2) ∧
        ∀ c, c ∈ cells ↔ (d.cells.filter (·.position = c.position)).getLast? = some c :=
  ⟨fun sheet => ⟨sheet.toSheet_toDocument, fun _ => SourceSheet.toDocumentFrom_eq⟩, fun d =>
    ⟨_, rfl, d.pairwise_toDocument, fun _ => SheetDocument.mem_toDocument⟩⟩

theorem sheet_document_roundTrip_roster :
    let roster : SourceCell := { SourceCell.blank with value := .text "Roster" }
    let listing := [((1, 0), SourceCell.blank), ((0, 1), roster)]
    let sheet : SourceSheet := { SourceSheet.named "Shift" with cells := .ofList listing }
    listing.Perm sheet.cells.entries ∧ sheet.toDocumentFrom listing = sheet.toDocument := by
  intro roster listing sheet
  have hperm : listing.Perm sheet.cells.entries := List.Perm.swap _ _ []
  exact ⟨hperm, (sheet_document_roundTrip.1 sheet).2 listing hperm⟩

end Spreadsheet.Workbook
