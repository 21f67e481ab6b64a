import Spreadsheet.Error
import Spreadsheet.Workbook.Address

namespace Spreadsheet.Workbook

open Spreadsheet.Text

structure MergeRange where
  firstRow : Nat
  lastRow : Nat
  firstColumn : Nat
  lastColumn : Nat
  label : String
deriving DecidableEq, Repr, Inhabited

namespace MergeRange

def contains (m : MergeRange) (row column : Nat) : Bool :=
  m.firstRow ≤ row && row ≤ m.lastRow && m.firstColumn ≤ column && column ≤ m.lastColumn

def isOrigin (m : MergeRange) (row column : Nat) : Bool :=
  row == m.firstRow && column == m.firstColumn

def overlaps (m n : MergeRange) : Bool :=
  m.firstRow ≤ n.lastRow && n.firstRow ≤ m.lastRow && m.firstColumn ≤ n.lastColumn &&
    n.firstColumn ≤ m.lastColumn

def rowSpan (m : MergeRange) : Nat :=
  m.lastRow - m.firstRow + 1

def columnSpan (m : MergeRange) : Nat :=
  m.lastColumn - m.firstColumn + 1

def cornerLabel (m : MergeRange) : String :=
  addressText (m.firstRow, m.firstColumn) ++ ":" ++ addressText (m.lastRow, m.lastColumn)

def ofCorners (a b : Position) (label : String) : MergeRange where
  firstRow := min a.1 b.1
  lastRow := max a.1 b.1
  firstColumn := min a.2 b.2
  lastColumn := max a.2 b.2
  label := label

def read (label : String) : Except Failure MergeRange :=
  match splitOnce [':'] label.toList with
  | none => .error (.parse ("Merge range '" ++ label ++ "' has no ':'"))
  | some (first, second) =>
    match readAddress? first, readAddress? second with
    | some a, some b => .ok (ofCorners a b (String.ofList (trim label.toList)))
    | _, _ => .error (.parse ("Invalid cell address in merge range '" ++ label ++ "'"))

/-- The part of a rectangle in a grid. A rectangle that begins outside has none; one that is cut
gets the label of its new corners. -/
def clip? (rows columns : Nat) (m : MergeRange) : Option MergeRange :=
  if rows ≤ m.firstRow ∨ columns ≤ m.firstColumn then none
  else if rows ≤ m.lastRow ∨ columns ≤ m.lastColumn then
    let cut := { m with
      lastRow := min m.lastRow (rows - 1), lastColumn := min m.lastColumn (columns - 1) }
    some { cut with label := cut.cornerLabel }
  else some m

end MergeRange

/-- The merged rectangles of a grid, which share no cells. -/
structure Merges where
  ranges : List MergeRange
deriving DecidableEq, Inhabited

namespace Merges

def keep (rows columns : Nat) (kept : List MergeRange) (m : MergeRange) : List MergeRange :=
  match m.clip? rows columns with
  | none => kept
  | some m => if kept.any (·.overlaps m) then kept else kept ++ [m]

def ofRanges (rows columns : Nat) (ranges : List MergeRange) : Merges :=
  ⟨ranges.foldl (keep rows columns) []⟩

def ofLabels (rows columns : Nat) (labels : List String) : Merges :=
  ofRanges rows columns (labels.filterMap fun label => (MergeRange.read label).toOption)

def rangeAt? (m : Merges) (row column : Nat) : Option MergeRange :=
  m.ranges.find? (·.contains row column)

def isHidden (m : Merges) (row column : Nat) : Bool :=
  (m.rangeAt? row column).any fun range => !range.isOrigin row column

def span (m : Merges) (row column : Nat) : Nat × Nat :=
  match m.rangeAt? row column with
  | some range =>
    if range.isOrigin row column then (range.rowSpan, range.columnSpan) else (1, 1)
  | none => (1, 1)

end Merges

end Spreadsheet.Workbook
