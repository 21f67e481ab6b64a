import Mathlib
import Spreadsheet.Proofs.Text.Blank
import Spreadsheet.Proofs.Text.Digits
import Spreadsheet.Proofs.Text.Search
import Spreadsheet.Proofs.Workbook.Address
import Spreadsheet.Proofs.Workbook.Merge

namespace Spreadsheet.Text

theorem word?_eq_some_iff {ds : List Char} {n : Nat} :
    word? ds = some n ↔ (ds ≠ [] ∧ ∀ c ∈ ds, c.isDigit) ∧ valueFrom 0 ds = n ∧ n < twoTo 64 := by
  simp only [word?, Option.filter_eq_some_iff, numeral?_eq_some_iff, decide_eq_true_eq, and_assoc]

theorem isAlpha_of_isBlank {c : Char} (h : isBlank c) : c.isAlpha = false := by
  by_contra ha
  rw [Bool.not_eq_false] at ha
  have hletter : c.isAlpha → isBlank c = false :=
    ascii_of_lt (p := fun c => c.isAlpha → isBlank c = false) (by decide +kernel)
      (Workbook.lt_of_isAlpha ha)
  rw [hletter ha] at h
  cases h

theorem isDigit_of_isAlpha {c : Char} (h : c.isAlpha) : c.isDigit = false :=
  ascii_of_lt (p := fun c => c.isAlpha → c.isDigit = false) (by decide +kernel)
    (Workbook.lt_of_isAlpha h) h

end Spreadsheet.Text

namespace Spreadsheet.Workbook

open Spreadsheet.Text

section

variable {cs ds : List Char} {p : Position}

theorem isAlpha_of_columnIndex? {i : Nat} (h : columnIndex? cs = some i) : ∀ c ∈ cs, c.isAlpha := by
  rw [columnIndex?_eq] at h
  split at h
  · rename_i hletters
    exact hletters.2.1
  · cases h

theorem lt_of_columnIndex? {i : Nat} (h : columnIndex? cs = some i) : i + 1 < wordSize := by
  rw [columnIndex?_eq] at h
  split at h
  · rename_i hletters
    have hpos := lettersNumber_pos hletters.1 hletters.2.1
    have hi := Option.some.inj h
    omega
  · cases h

/-- An address is letters and digits, once the blanks around it and all dollar signs are gone. -/
theorem readAddress?_eq_some_iff :
    readAddress? cs = some p ↔
      ∃ letters digits, (trim cs).filter (· != '$') = letters ++ digits ∧
        columnIndex? letters = some p.2 ∧ word? digits = some (p.1 + 1) := by
  unfold readAddress?
  generalize (trim cs).filter (· != '$') = ds
  constructor
  · intro h
    refine ⟨ds.takeWhile fun c => !c.isDigit, ds.dropWhile fun c => !c.isDigit,
      List.takeWhile_append_dropWhile.symm, ?_⟩
    dsimp only at h
    split at h
    · cases h
    · simp only [Option.bind_eq_bind, Option.bind_eq_some_iff] at h
      obtain ⟨column, hcolumn, row, hrow, hp⟩ := h
      split at hp
      · cases hp
      · cases hp
        have hsucc : row - 1 + 1 = row := by omega
        rw [hsucc]
        exact ⟨hcolumn, hrow⟩
  · rintro ⟨letters, digits, rfl, hcolumn, hrow⟩
    have hletters : ∀ c ∈ letters, (!c.isDigit) = true := by
      intro c hc
      rw [isDigit_of_isAlpha (isAlpha_of_columnIndex? hcolumn c hc)]
      rfl
    obtain ⟨⟨hne, hdigits⟩, -, -⟩ := word?_eq_some_iff.mp hrow
    obtain ⟨d, digits, rfl⟩ := List.exists_cons_of_ne_nil hne
    have hstop : ∀ c ∈ (d :: digits).head?, (!c.isDigit) = false := by
      simp [hdigits d List.mem_cons_self]
    dsimp only
    rw [takeWhile_append_stop hletters hstop, dropWhile_append_stop hletters hstop]
    simp [hcolumn, hrow]

theorem readAddress?_congr (h : trim cs = trim ds) : readAddress? cs = readAddress? ds := by
  rw [readAddress?, readAddress?, h]

theorem lt_of_readAddress? (h : readAddress? cs = some p) :
    p.1 + 1 < wordSize ∧ p.2 + 1 < wordSize := by
  obtain ⟨letters, digits, -, hcolumn, hrow⟩ := readAddress?_eq_some_iff.mp h
  exact ⟨(word?_eq_some_iff.mp hrow).2.2, lt_of_columnIndex? hcolumn⟩

theorem trim_ne_nil_of_readAddress? (h : readAddress? cs = some p) : trim cs ≠ [] := by
  obtain ⟨letters, digits, hparts, -, hrow⟩ := readAddress?_eq_some_iff.mp h
  rintro hnil
  rw [hnil, List.filter_nil, eq_comm, List.append_eq_nil_iff] at hparts
  exact (word?_eq_some_iff.mp hrow).1.1 hparts.2

theorem colon_not_mem (h : readAddress? cs = some p) : ':' ∉ cs := by
  obtain ⟨letters, digits, hparts, hcolumn, hrow⟩ := readAddress?_eq_some_iff.mp h
  intro hmem
  obtain ⟨bs, es, hbs, hes, hcs⟩ := exists_blanks_trim cs
  have htrim : ':' ∈ (trim cs).filter (· != '$') := by
    rw [hcs, List.mem_append, List.mem_append] at hmem
    have hblank : isBlank ':' = false := by decide
    rcases hmem with hmem | hmem | hmem
    · rw [hbs ':' hmem] at hblank
      cases hblank
    · exact List.mem_filter.mpr ⟨hmem, by decide⟩
    · rw [hes ':' hmem] at hblank
      cases hblank
  rw [hparts, List.mem_append] at htrim
  rcases htrim with hmem | hmem
  · exact absurd (isAlpha_of_columnIndex? hcolumn ':' hmem) (by decide)
  · exact absurd ((word?_eq_some_iff.mp hrow).1.2 ':' hmem) (by decide)

theorem toList_addressText :
    (addressText p).toList = lettersOf (p.2 + 1) [] ++ natural (p.1 + 1) := by
  simp [addressText, columnLetters]

theorem isAlphanum_addressText : ∀ c ∈ (addressText p).toList, c.isAlpha ∨ c.isDigit := by
  intro c hmem
  rw [toList_addressText, List.mem_append] at hmem
  exact hmem.imp (isAlpha_lettersOf _ c) (isDigit_natural _ c)

theorem addressText_ne_nil : (addressText p).toList ≠ [] := by
  rw [toList_addressText]
  simp [natural_ne_nil]

theorem trimmed_addressText : Trimmed (addressText p).toList := by
  have hblank : ∀ c ∈ (addressText p).toList, isBlank c = false := by
    intro c hmem
    by_contra hb
    rw [Bool.not_eq_false] at hb
    rcases isAlphanum_addressText c hmem with h | h
    · rw [isAlpha_of_isBlank hb] at h
      cases h
    · rw [isDigit_of_isBlank hb] at h
      cases h
  exact ⟨fun c hmem => hblank c (List.mem_of_mem_head? hmem),
    fun c hmem => hblank c (List.mem_of_getLast? hmem)⟩

/-- An address that is written is read as its place. -/
theorem readAddress?_addressText (hr : p.1 + 1 < wordSize) (hc : p.2 + 1 < wordSize) :
    readAddress? (addressText p).toList = some p := by
  have hfilter : (addressText p).toList.filter (· != '$') = (addressText p).toList := by
    rw [List.filter_eq_self]
    intro c hmem
    have hne : c ≠ '$' := by
      rintro rfl
      exact absurd (isAlphanum_addressText '$' hmem) (by decide)
    simpa using hne
  have hcolumn : columnIndex? (lettersOf (p.2 + 1) []) = some p.2 := by
    have h := columnIndex?_of_lt hc
    rwa [columnLetters, String.toList_ofList] at h
  rw [readAddress?_eq_some_iff, trimmed_addressText.trim_eq, hfilter, toList_addressText]
  refine ⟨_, _, rfl, hcolumn, ?_⟩
  rw [word?_eq_some_iff]
  exact ⟨⟨natural_ne_nil _, isDigit_natural _⟩, valueFrom_natural _, hr⟩

end

namespace MergeRange

variable {label : String} {m : MergeRange}

structure InWords (m : MergeRange) : Prop extends m.Ordered where
  lastRow_lt : m.lastRow + 1 < wordSize
  lastColumn_lt : m.lastColumn + 1 < wordSize

theorem InWords.cut {rows columns : Nat} (h : m.InWords) (hr : m.firstRow < rows)
    (hc : m.firstColumn < columns) :
    ({ m with
      lastRow := min m.lastRow (rows - 1)
      lastColumn := min m.lastColumn (columns - 1) } : MergeRange).InWords := by
  obtain ⟨⟨hrow, hcolumn⟩, hrow', hcolumn'⟩ := h
  refine ⟨⟨?_, ?_⟩, ?_, ?_⟩ <;> dsimp only <;> omega

theorem read_eq_ok_iff :
    read label = .ok m ↔
      ∃ first second a b, label.toList = first ++ ':' :: second ∧ readAddress? first = some a ∧
        readAddress? second = some b ∧ m = ofCorners a b (String.ofList (trim label.toList)) := by
  constructor
  · intro h
    unfold read at h
    split at h
    · cases h
    · rename_i first second hsplit
      split at h
      · rename_i a b ha hb
        cases h
        exact ⟨first, second, a, b, (splitOnce_singleton_eq_some_iff.mp hsplit).1, ha, hb, rfl⟩
      · cases h
  · rintro ⟨first, second, a, b, hlabel, ha, hb, rfl⟩
    have hsplit := splitOnce_singleton_eq_some_iff.mpr ⟨hlabel, colon_not_mem ha⟩
    simp only [read, hsplit, ha, hb]

theorem read_inWords (h : read label = .ok m) : m.InWords := by
  obtain ⟨first, second, a, b, -, ha, hb, rfl⟩ := read_eq_ok_iff.mp h
  obtain ⟨har, hac⟩ := lt_of_readAddress? ha
  obtain ⟨hbr, hbc⟩ := lt_of_readAddress? hb
  refine ⟨ofCorners_ordered a b _, ?_, ?_⟩ <;> simp only [ofCorners] <;> omega

/-- Between the outer blanks of a label stand the two addresses, with blanks of their own. -/
theorem exists_trim_label {first second : List Char} {a b : Position}
    (ha : readAddress? first = some a) (hb : readAddress? second = some b) :
    ∃ first' second', trim (first ++ ':' :: second) = first' ++ ':' :: second' ∧
      readAddress? first' = some a ∧ readAddress? second' = some b := by
  obtain ⟨bs, es, hbs, hes, hfirst⟩ := exists_blanks_trim first
  obtain ⟨bs', es', hbs', hes', hsecond⟩ := exists_blanks_trim second
  have htrimmed : Trimmed (trim first ++ ((es ++ ':' :: bs') ++ trim second)) :=
    (trimmed_trim first).append (trimmed_trim second) (trim_ne_nil_of_readAddress? ha)
      (trim_ne_nil_of_readAddress? hb)
  refine ⟨trim first ++ es, bs' ++ trim second, ?_, ?_, ?_⟩
  · calc trim (first ++ ':' :: second)
        = trim ((bs ++ (trim first ++ es)) ++ ':' :: (bs' ++ (trim second ++ es'))) := by
          rw [← hfirst, ← hsecond]
      _ = trim (bs ++ ((trim first ++ ((es ++ ':' :: bs') ++ trim second)) ++ es')) := by simp
      _ = trim first ++ ((es ++ ':' :: bs') ++ trim second) := htrimmed.trim_blanks hbs hes'
      _ = (trim first ++ es) ++ ':' :: (bs' ++ trim second) := by simp
  · rw [← ha]
    apply readAddress?_congr
    rw [trim_blanks_back hes, trim_trim]
  · rw [← hb]
    apply readAddress?_congr
    rw [trim_blanks_front hbs', trim_trim]

/-- The label that a rectangle keeps is read like the one that it was read from. -/
theorem read_label (h : read label = .ok m) : read m.label = .ok m := by
  obtain ⟨first, second, a, b, hlabel, ha, hb, rfl⟩ := read_eq_ok_iff.mp h
  obtain ⟨first', second', htrim, ha', hb'⟩ := exists_trim_label ha hb
  have hkept : (ofCorners a b (String.ofList (trim label.toList))).label.toList =
      trim label.toList := String.toList_ofList
  rw [read_eq_ok_iff, hkept, trim_trim]
  refine ⟨first', second', a, b, ?_, ha', hb', rfl⟩
  rw [hlabel, htrim]

theorem read_cornerLabel (h : m.InWords) :
    read m.cornerLabel = .ok { m with label := m.cornerLabel } := by
  have hrow := h.row_le
  have hcolumn := h.column_le
  have hrow' := h.lastRow_lt
  have hcolumn' := h.lastColumn_lt
  have hfirst : m.firstColumn + 1 < wordSize := by omega
  have ha := readAddress?_addressText (p := (m.firstRow, m.firstColumn)) (by omega) hfirst
  have hb := readAddress?_addressText (p := (m.lastRow, m.lastColumn)) hrow' hcolumn'
  have hlabel : m.cornerLabel.toList = (addressText (m.firstRow, m.firstColumn)).toList ++
      ':' :: (addressText (m.lastRow, m.lastColumn)).toList := by
    simp [cornerLabel]
  have htrimmed : Trimmed m.cornerLabel.toList := by
    rw [hlabel]
    exact @Trimmed.append _ [':'] _ trimmed_addressText trimmed_addressText addressText_ne_nil
      addressText_ne_nil
  rw [read_eq_ok_iff, htrimmed.trim_eq, String.ofList_toList]
  refine ⟨_, _, _, _, hlabel, ha, hb, ?_⟩
  simp [ofCorners, hrow, hcolumn]

theorem read_swap {first second : String} (h : read (first ++ ":" ++ second) = .ok m) :
    read (second ++ ":" ++ first) =
      .ok { m with label := String.ofList (trim (second ++ ":" ++ first).toList) } := by
  obtain ⟨ds, es, a, b, hlabel, ha, hb, rfl⟩ := read_eq_ok_iff.mp h
  have hparts : first.toList ++ ':' :: second.toList = ds ++ ':' :: es := by
    rw [← hlabel]
    simp
  rw [eq_comm, List.append_cons_inj_of_notMem (colon_not_mem ha) (colon_not_mem hb)] at hparts
  obtain ⟨rfl, -, rfl⟩ := hparts
  rw [read_eq_ok_iff]
  refine ⟨_, _, b, a, by simp, hb, ha, ?_⟩
  simp [ofCorners, min_comm, max_comm]

end MergeRange

namespace Merges

/-- What is kept after one label more. -/
def place (rows columns : Nat) (kept : List MergeRange) (label : String) : List MergeRange :=
  match MergeRange.read label with
  | .ok m => keep rows columns kept m
  | .error _ => kept

theorem ranges_ofLabels (rows columns : Nat) (labels : List String) :
    (ofLabels rows columns labels).ranges = labels.foldl (place rows columns) [] := by
  rw [ofLabels, ofRanges, List.foldl_filterMap]
  dsimp only
  congr 1
  funext kept label
  rw [place]
  cases MergeRange.read label <;> rfl

end Merges

end Spreadsheet.Workbook
