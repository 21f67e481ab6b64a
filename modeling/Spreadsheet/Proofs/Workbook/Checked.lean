import Mathlib
import Spreadsheet.Proofs.Workbook.Label

namespace Spreadsheet.Workbook

open Spreadsheet.Text

namespace Checked

theorem add_eq_ok {a b : Nat} (h : a + b < wordSize) : add a b = .ok (a + b) :=
  if_pos h

theorem add_eq_error {a b : Nat} (h : wordSize ≤ a + b) : add a b = .error .overflow :=
  if_neg (Nat.not_lt.mpr h)

theorem sub_eq_ok {a b : Nat} (h : b ≤ a) : sub a b = .ok (a - b) :=
  if_pos h

def letterValue? (c : Char) : Checked (Option Nat) :=
  if c.isAlpha then do
    let place ← sub c.toUpper.toNat 65
    return some (← add place 1)
  else return none

def columnNumber? (n : Nat) : List Char → Checked (Option Nat)
  | [] => return some n
  | c :: cs => do
    match ← letterValue? c with
    | none => return none
    | some d => if 26 * n + d < wordSize then columnNumber? (26 * n + d) cs else return none

def columnIndex? (letters : List Char) : Checked (Option Nat) :=
  if letters = [] then return none
  else do
    match ← columnNumber? 0 letters with
    | none => return none
    | some n => return some (← sub n 1)

def readAddress? (cs : List Char) : Checked (Option Position) :=
  let cs := (trim cs).filter (· != '$')
  let letters := cs.takeWhile fun c => !c.isDigit
  match cs.dropWhile fun c => !c.isDigit with
  | [] => return none
  | digits => do
    match ← columnIndex? letters, word? digits with
    | some column, some row => if row = 0 then return none else return some (← sub row 1, column)
    | _, _ => return none

def addressText (position : Position) : Checked String := do
  let letters ← columnLetters position.2
  let row ← add position.1 1
  return letters ++ String.ofList (natural row)

variable {i n : Nat} {cs : List Char}

theorem letterValue?_eq (c : Char) : letterValue? c = .ok (Workbook.letterValue? c) := by
  rw [letterValue?, Workbook.letterValue?_eq]
  by_cases h : c.isAlpha
  · obtain ⟨hlow, hhigh⟩ := toUpper_bounds h
    have hword : c.toUpper.toNat - 65 + 1 < wordSize :=
      lt_of_le_of_lt (by omega : _ ≤ 26) (by decide)
    have hvalue : letterDigit c = c.toUpper.toNat - 65 + 1 := by
      rw [letterDigit]
      omega
    rw [if_pos h, if_pos h, sub_eq_ok hlow, hvalue]
    simp only [bind, Except.bind, add_eq_ok hword]
    rfl
  · rw [if_neg h, if_neg h]
    rfl

theorem columnNumber?_eq (n : Nat) (cs : List Char) :
    columnNumber? n cs = .ok (Workbook.columnNumber? n cs) := by
  induction cs generalizing n with
  | nil => rfl
  | cons c cs ih =>
    rw [columnNumber?, letterValue?_eq, Workbook.columnNumber?]
    cases Workbook.letterValue? c with
    | none => rfl
    | some d =>
      simp only [bind, Except.bind, Option.bind, ih]
      split <;> rfl

/-- A column is counted from one, so that its index is no negative number. -/
theorem columnIndex?_eq (cs : List Char) : columnIndex? cs = .ok (Workbook.columnIndex? cs) := by
  rw [columnIndex?, Workbook.columnIndex?]
  by_cases h : cs = []
  · rw [if_pos h, if_pos h]
    rfl
  · rw [if_neg h, if_neg h, columnNumber?_eq]
    cases hn : Workbook.columnNumber? 0 cs with
    | none => rfl
    | some n =>
      have hpos : 1 ≤ n := by
        rw [Workbook.columnNumber?_eq 0 (by decide)] at hn
        split at hn
        · rename_i hletters
          have hnumber := lettersNumber_pos h hletters.1
          have hvalue := Option.some.inj hn
          omega
        · cases hn
      simp only [bind, Except.bind, sub_eq_ok hpos]
      rfl

theorem readAddress?_eq (cs : List Char) : readAddress? cs = .ok (Workbook.readAddress? cs) := by
  unfold readAddress? Workbook.readAddress?
  simp only [columnIndex?_eq]
  generalize (trim cs).filter (· != '$') = ds
  cases ds.dropWhile fun c => !c.isDigit with
  | nil => rfl
  | cons d digits =>
    dsimp only
    cases Workbook.columnIndex? (ds.takeWhile fun c => !c.isDigit) with
    | none => rfl
    | some column =>
      cases word? (d :: digits) with
      | none => rfl
      | some row =>
        by_cases h : row = 0
        · simp [bind, Except.bind, pure, Except.pure, h]
        · have hpos : 1 ≤ row := Nat.one_le_iff_ne_zero.mpr h
          simp [bind, Except.bind, pure, Except.pure, h, sub_eq_ok hpos]

theorem lettersOf_eq (n : Nat) (done : List Char) :
    lettersOf n done = .ok (Workbook.lettersOf n done) := by
  induction n using Nat.strong_induction_on generalizing done with
  | _ n ih =>
    rw [lettersOf, Workbook.lettersOf]
    by_cases h : n = 0
    · rw [if_pos h, if_pos h]
      rfl
    · have hpos : 1 ≤ n := Nat.one_le_iff_ne_zero.mpr h
      have hlt : (n - 1) / 26 < n := by omega
      rw [if_neg h, if_neg h]
      split
      · rename_i fault hfault
        rw [sub_eq_ok hpos] at hfault
        cases hfault
      · rename_i place hplace
        rw [eq_of_sub_eq_ok hplace]
        exact ih _ hlt _

theorem columnLetters_eq (h : i + 1 < wordSize) :
    columnLetters i = .ok (Workbook.columnLetters i) := by
  rw [columnLetters, Workbook.columnLetters]
  simp only [bind, Except.bind, add_eq_ok h, lettersOf_eq]
  rfl

theorem addressText_eq {p : Position} (hr : p.1 + 1 < wordSize) (hc : p.2 + 1 < wordSize) :
    addressText p = .ok (Workbook.addressText p) := by
  rw [addressText, columnLetters_eq hc, add_eq_ok hr]
  rfl

def rowSpan (m : MergeRange) : Checked Nat := do
  add (← sub m.lastRow m.firstRow) 1

def columnSpan (m : MergeRange) : Checked Nat := do
  add (← sub m.lastColumn m.firstColumn) 1

def cornerLabel (m : MergeRange) : Checked String := do
  let first ← addressText (m.firstRow, m.firstColumn)
  let last ← addressText (m.lastRow, m.lastColumn)
  return first ++ ":" ++ last

def read (label : String) : Checked (Except Failure MergeRange) :=
  match splitOnce [':'] label.toList with
  | none => return .error (.parse ("Merge range '" ++ label ++ "' has no ':'"))
  | some (first, second) => do
    match ← readAddress? first, ← readAddress? second with
    | some a, some b => return .ok (.ofCorners a b (String.ofList (trim label.toList)))
    | _, _ => return .error (.parse ("Invalid cell address in merge range '" ++ label ++ "'"))

def clip? (rows columns : Nat) (m : MergeRange) : Checked (Option MergeRange) :=
  if rows ≤ m.firstRow ∨ columns ≤ m.firstColumn then return none
  else if rows ≤ m.lastRow ∨ columns ≤ m.lastColumn then do
    let lastRow := min m.lastRow (← sub rows 1)
    let lastColumn := min m.lastColumn (← sub columns 1)
    let cut := { m with lastRow := lastRow, lastColumn := lastColumn }
    return some { cut with label := ← cornerLabel cut }
  else return some m

def keep (rows columns : Nat) (kept : List MergeRange) (m : MergeRange) :
    Checked (List MergeRange) := do
  match ← clip? rows columns m with
  | none => return kept
  | some m => return if kept.any (·.overlaps m) then kept else kept ++ [m]

def place (rows columns : Nat) (kept : List MergeRange) (label : String) :
    Checked (List MergeRange) := do
  match ← read label with
  | .ok m => keep rows columns kept m
  | .error _ => return kept

def ofLabels (rows columns : Nat) (labels : List String) : Checked Merges := do
  return ⟨← labels.foldlM (place rows columns) []⟩

variable {m : MergeRange} {rows columns : Nat}

theorem rowSpan_eq (h : m.InWords) : rowSpan m = .ok m.rowSpan := by
  have hspan : m.lastRow - m.firstRow + 1 < wordSize := by
    have hlast := h.lastRow_lt
    omega
  rw [rowSpan, sub_eq_ok h.row_le]
  exact add_eq_ok hspan

theorem columnSpan_eq (h : m.InWords) : columnSpan m = .ok m.columnSpan := by
  have hspan : m.lastColumn - m.firstColumn + 1 < wordSize := by
    have hlast := h.lastColumn_lt
    omega
  rw [columnSpan, sub_eq_ok h.column_le]
  exact add_eq_ok hspan

theorem cornerLabel_eq (h : m.InWords) : cornerLabel m = .ok m.cornerLabel := by
  have hrow := h.row_le
  have hcolumn := h.column_le
  have hrow' := h.lastRow_lt
  have hcolumn' := h.lastColumn_lt
  have hfirstRow : m.firstRow + 1 < wordSize := by omega
  have hfirstColumn : m.firstColumn + 1 < wordSize := by omega
  have hfirst := @addressText_eq (m.firstRow, m.firstColumn) hfirstRow hfirstColumn
  have hlast := @addressText_eq (m.lastRow, m.lastColumn) hrow' hcolumn'
  rw [cornerLabel, hfirst, hlast]
  rfl

theorem read_eq (label : String) : read label = .ok (MergeRange.read label) := by
  unfold read MergeRange.read
  cases splitOnce [':'] label.toList with
  | none => rfl
  | some parts =>
    dsimp only
    rw [readAddress?_eq, readAddress?_eq]
    cases Workbook.readAddress? parts.1 <;> cases Workbook.readAddress? parts.2 <;> rfl

/-- A grid that has the first corner of a rectangle has a last row and a last column. -/
theorem clip?_eq (h : m.InWords) : clip? rows columns m = .ok (m.clip? rows columns) := by
  unfold clip? MergeRange.clip?
  split
  · rfl
  · rename_i hinside
    rw [not_or, not_le, not_le] at hinside
    split
    · have hcut := h.cut hinside.1 hinside.2
      have hrows : 1 ≤ rows := by omega
      have hcolumns : 1 ≤ columns := by omega
      rw [sub_eq_ok hrows, sub_eq_ok hcolumns]
      simp only [bind, Except.bind, cornerLabel_eq hcut]
      rfl
    · rfl

theorem keep_eq (h : m.InWords) (kept : List MergeRange) :
    keep rows columns kept m = .ok (Merges.keep rows columns kept m) := by
  rw [keep, clip?_eq h, Merges.keep]
  cases m.clip? rows columns <;> rfl

theorem place_eq (kept : List MergeRange) (label : String) :
    place rows columns kept label = .ok (Merges.place rows columns kept label) := by
  rw [place, read_eq, Merges.place]
  cases hread : MergeRange.read label with
  | error e => rfl
  | ok m => exact keep_eq (MergeRange.read_inWords hread) kept

/-- The merges of any labels are found without a fault. -/
theorem ofLabels_eq (rows columns : Nat) (labels : List String) :
    ofLabels rows columns labels = .ok (Merges.ofLabels rows columns labels) := by
  have hfold : ∀ kept, labels.foldlM (place rows columns) kept =
      .ok (labels.foldl (Merges.place rows columns) kept) := by
    induction labels with
    | nil => exact fun kept => rfl
    | cons label labels ih =>
      intro kept
      rw [List.foldlM_cons, place_eq]
      exact ih _
  rw [ofLabels, hfold, ← Merges.ranges_ofLabels]
  rfl

end Checked

namespace MergeRange

def corners (m : MergeRange) : Position × Position :=
  ((m.firstRow, m.firstColumn), (m.lastRow, m.lastColumn))

/-- The corners that a label names are in order. Their spans and their label are found without a
fault, and the label is read as the same corners, as is the label with its addresses exchanged. -/
theorem read_corners {label : String} {m : MergeRange} (h : read label = .ok m) :
    (m.firstRow ≤ m.lastRow ∧ m.firstColumn ≤ m.lastColumn) ∧
      (Checked.rowSpan m = .ok m.rowSpan ∧ Checked.columnSpan m = .ok m.columnSpan ∧
        Checked.cornerLabel m = .ok m.cornerLabel) ∧
      (∃ n, read m.cornerLabel = .ok n ∧ n.corners = m.corners) ∧
      (∃ first second, label = first ++ ":" ++ second) ∧
      ∀ first second, label = first ++ ":" ++ second →
        ∃ n, read (second ++ ":" ++ first) = .ok n ∧ n.corners = m.corners := by
  have hwords := read_inWords h
  obtain ⟨first, second, -, -, hlabel, -⟩ := read_eq_ok_iff.mp h
  refine ⟨⟨hwords.row_le, hwords.column_le⟩, ?_, ?_, ?_, ?_⟩
  · exact ⟨Checked.rowSpan_eq hwords, Checked.columnSpan_eq hwords, Checked.cornerLabel_eq hwords⟩
  · exact ⟨_, read_cornerLabel hwords, rfl⟩
  · refine ⟨String.ofList first, String.ofList second, ?_⟩
    rw [← String.toList_inj, hlabel]
    simp
  · rintro first second rfl
    exact ⟨_, read_swap h, rfl⟩

theorem read_corners_last :
    ∃ m, read " $d$4 :b18446744073709551615" = .ok m ∧
      m.corners = ((3, 1), (18446744073709551614, 3)) ∧ m.rowSpan = 18446744073709551612 ∧
      Checked.rowSpan m = .ok m.rowSpan ∧ Checked.cornerLabel m = .ok m.cornerLabel ∧
      (∃ n, read m.cornerLabel = .ok n ∧ n.corners = m.corners) ∧
      ∃ n, read "b18446744073709551615: $d$4 " = .ok n ∧ n.corners = m.corners := by
  have hread : ∃ m, read " $d$4 :b18446744073709551615" = .ok m ∧
      m.corners = ((3, 1), (18446744073709551614, 3)) := ⟨_, by rfl, by decide⟩
  obtain ⟨m, hm, hcorners⟩ := hread
  obtain ⟨-, ⟨hrows, -, hlabel⟩, hcorner, -, hswap⟩ := read_corners hm
  have hspan : m.rowSpan = 18446744073709551612 := by
    simp only [corners, Prod.mk.injEq] at hcorners
    simp [rowSpan, hcorners]
  exact ⟨m, hm, hcorners, hspan, hrows, hlabel, hcorner,
    hswap " $d$4 " "b18446744073709551615" (by decide)⟩

end MergeRange

end Spreadsheet.Workbook
