import Mathlib
import Spreadsheet.Proofs.Workbook.Checked
import Spreadsheet.Workbook.Worksheet

namespace Spreadsheet

def DecodeConfig.IsPositive (config : DecodeConfig) : Prop :=
  1 ≤ config.maxRows ∧ 1 ≤ config.maxColumns ∧ 1 ≤ config.defaultRows ∧ 1 ≤ config.defaultColumns

instance (config : DecodeConfig) : Decidable config.IsPositive :=
  inferInstanceAs (Decidable (_ ∧ _ ∧ _ ∧ _))

namespace Workbook

section Greater

variable {m m' last : Option Nat} {n : Nat}

theorem forall_mem_greater? (bound : Nat) :
    (∀ n ∈ greater? m m', n < bound) ↔ (∀ n ∈ m, n < bound) ∧ ∀ n ∈ m', n < bound := by
  cases m <;> cases m' <;> simp [greater?]

theorem greater?_getD_bounds {default : Nat} (hpos : ∀ n ∈ m, 0 < n) (hdefault : 1 ≤ default) :
    1 ≤ (greater? m (last.map (· + 1))).getD default ∧
      ∀ i ∈ last, i < (greater? m (last.map (· + 1))).getD default := by
  cases m with
  | none => cases last <;> simp [greater?, hdefault]
  | some n =>
    have hn : 1 ≤ n := hpos n rfl
    cases last <;> simp [greater?, hn]

theorem Checked.countUpTo_eq_ok (h : ∀ i ∈ last, i + 1 < wordSize) :
    countUpTo last = .ok (last.map (· + 1)) := by
  cases last with
  | none => rfl
  | some i =>
    rw [countUpTo, add_eq_ok (h i rfl)]
    rfl

theorem Checked.countUpTo_eq_error (h : ¬ ∀ i ∈ last, i + 1 < wordSize) :
    countUpTo last = .error .overflow := by
  cases last with
  | none => exact absurd (fun i hi => nomatch hi) h
  | some i =>
    have hi : wordSize ≤ i + 1 := by simpa using h
    rw [countUpTo, add_eq_error hi]
    rfl

theorem pos_of_mem_counted? {a b : Option Nat}
    (h : n ∈ (counted? a).orElse fun _ => counted? b) : 0 < n := by
  rcases ha : counted? a with _ | k
  · rw [ha] at h
    exact of_decide_eq_true (Option.mem_filter_iff.mp h).2
  · rw [ha] at h
    cases h
    exact of_decide_eq_true (Option.mem_filter_iff.mp ha).2

end Greater

namespace Dimensions

def coveredRows (d : Dimensions) : Option Nat :=
  greater? d.reportedRows (d.lastUsedRow.map (· + 1))

def coveredColumns (d : Dimensions) : Option Nat :=
  greater? d.reportedColumns (d.lastUsedColumn.map (· + 1))

/-- The rows before the cap, counted without a bound. -/
def rowCount (d : Dimensions) (config : DecodeConfig) : Nat :=
  d.coveredRows.elim config.defaultRows (· + 1)

def columnCount (d : Dimensions) (config : DecodeConfig) : Nat :=
  d.coveredColumns.getD config.defaultColumns

/-- The rows with one more behind them, and the columns up to the last one, are words. -/
structure Fits (d : Dimensions) : Prop where
  reported : ∀ n ∈ d.reportedRows, n + 1 < wordSize
  lastRow : ∀ r ∈ d.lastUsedRow, r + 2 < wordSize
  lastColumn : ∀ c ∈ d.lastUsedColumn, c + 1 < wordSize

theorem fits_iff {d : Dimensions} :
    d.Fits ↔ (∀ n ∈ d.reportedRows, n + 1 < wordSize) ∧ (∀ r ∈ d.lastUsedRow, r + 2 < wordSize) ∧
      ∀ c ∈ d.lastUsedColumn, c + 1 < wordSize :=
  ⟨fun h => ⟨h.reported, h.lastRow, h.lastColumn⟩, fun h => ⟨h.1, h.2.1, h.2.2⟩⟩

instance (d : Dimensions) : Decidable d.Fits :=
  decidable_of_iff _ fits_iff.symm

variable {d : Dimensions} {config : DecodeConfig}

theorem le_rowCount : d.coveredRows.getD config.defaultRows ≤ d.rowCount config := by
  rw [rowCount]
  cases d.coveredRows <;> simp

theorem forall_mem_coveredRows :
    (∀ n ∈ d.coveredRows, n < wordSize - 1) ↔
      (∀ n ∈ d.reportedRows, n + 1 < wordSize) ∧ ∀ r ∈ d.lastUsedRow, r + 2 < wordSize := by
  have hsucc : ∀ n, n < wordSize - 1 ↔ n + 1 < wordSize := fun n => by omega
  rw [coveredRows, forall_mem_greater?]
  simp only [hsucc, Option.mem_map, forall_exists_index, and_imp, forall_apply_eq_imp_iff₂]

/-- Where the last positions are counted, only the row behind the others may be no word. -/
theorem resolve_eq_map (hrow : ∀ r ∈ d.lastUsedRow, r + 1 < wordSize)
    (hcolumn : ∀ c ∈ d.lastUsedColumn, c + 1 < wordSize) :
    d.resolve config = (d.coveredRows.elim (.ok config.defaultRows) (Checked.add · 1)).map
      fun rows => (min rows config.maxRows, min (d.columnCount config) config.maxColumns) := by
  unfold resolve
  rw [Checked.countUpTo_eq_ok hrow, Checked.countUpTo_eq_ok hcolumn, coveredRows]
  simp only [bind, Except.bind]
  cases greater? d.reportedRows (d.lastUsedRow.map (· + 1)) with
  | none => rfl
  | some n =>
    dsimp only [Option.elim_some]
    cases Checked.add n 1 <;> rfl

theorem resolve_eq_ok (h : d.Fits) :
    d.resolve config =
      .ok (min (d.rowCount config) config.maxRows, min (d.columnCount config) config.maxColumns) := by
  have hrow : ∀ r ∈ d.lastUsedRow, r + 1 < wordSize := fun r hr => Nat.lt_of_succ_lt (h.lastRow r hr)
  have hcovered := forall_mem_coveredRows.mpr ⟨h.reported, h.lastRow⟩
  rw [resolve_eq_map hrow h.lastColumn, rowCount]
  cases hrows : d.coveredRows with
  | none => rfl
  | some n =>
    have hn : n + 1 < wordSize := Nat.add_lt_of_lt_sub (hcovered n hrows)
    rw [Option.elim_some, Checked.add_eq_ok hn]
    rfl

theorem resolve_eq_error (h : ¬ d.Fits) : d.resolve config = .error .overflow := by
  by_cases hrow : ∀ r ∈ d.lastUsedRow, r + 1 < wordSize
  · by_cases hcolumn : ∀ c ∈ d.lastUsedColumn, c + 1 < wordSize
    · have hcovered : ¬ ∀ n ∈ d.coveredRows, n < wordSize - 1 := by
        rw [forall_mem_coveredRows]
        exact fun hrows => h ⟨hrows.1, hrows.2, hcolumn⟩
      push Not at hcovered
      obtain ⟨n, hrows, hn⟩ := hcovered
      have hsum : wordSize ≤ n + 1 := Nat.le_add_of_sub_le hn
      rw [resolve_eq_map hrow hcolumn, Option.mem_def.mp hrows, Option.elim_some,
        Checked.add_eq_error hsum]
      rfl
    · unfold resolve
      rw [Checked.countUpTo_eq_ok hrow, Checked.countUpTo_eq_error hcolumn]
      rfl
  · unfold resolve
    rw [Checked.countUpTo_eq_error hrow]
    rfl

/-- A size is found exactly if the counts fit. It is what the sheet covers, and one row more, up to
the caps: at least one row and one column, with the last ones in use unless these are cut off. -/
theorem resolve_bounds (hconfig : config.IsPositive) :
    (d.Fits → ∃ rows columns, d.resolve config = .ok (rows, columns) ∧
      (rows = min (d.rowCount config) config.maxRows ∧
        columns = min (d.columnCount config) config.maxColumns) ∧
      (1 ≤ rows ∧ rows ≤ config.maxRows) ∧ (1 ≤ columns ∧ columns ≤ config.maxColumns) ∧
      (∀ r ∈ d.lastUsedRow, r < rows ∨ rows = config.maxRows) ∧
      ∀ c ∈ d.lastUsedColumn, c < columns ∨ columns = config.maxColumns) ∧
    (¬ d.Fits → d.resolve config = .error .overflow) := by
  refine ⟨fun h => ⟨_, _, resolve_eq_ok h, ⟨rfl, rfl⟩, ?_⟩, resolve_eq_error⟩
  obtain ⟨hmaxRows, hmaxColumns, hdefaultRows, hdefaultColumns⟩ := hconfig
  have hrows : 1 ≤ d.rowCount config ∧ ∀ r ∈ d.lastUsedRow, r < d.rowCount config := by
    have hcovered : 1 ≤ d.coveredRows.getD config.defaultRows ∧
        ∀ r ∈ d.lastUsedRow, r < d.coveredRows.getD config.defaultRows :=
      greater?_getD_bounds (fun _ => pos_of_mem_counted?) hdefaultRows
    exact ⟨hcovered.1.trans le_rowCount, fun r hr => (hcovered.2 r hr).trans_le le_rowCount⟩
  have hcolumns : 1 ≤ d.columnCount config ∧ ∀ c ∈ d.lastUsedColumn, c < d.columnCount config :=
    greater?_getD_bounds (fun _ => pos_of_mem_counted?) hdefaultColumns
  refine ⟨⟨le_min hrows.1 hmaxRows, min_le_right _ _⟩,
    ⟨le_min hcolumns.1 hmaxColumns, min_le_right _ _⟩, fun r hr => ?_, fun c hc => ?_⟩
  · have hlt := hrows.2 r hr
    omega
  · have hlt := hcolumns.2 c hc
    omega

def greatest : Dimensions where
  actualRows := some 0
  actualColumns := none
  rows := some (wordSize - 2)
  columns := some (wordSize - 1)
  lastUsedRow := some (wordSize - 3)
  lastUsedColumn := some (wordSize - 2)

theorem greatest_resolve_bounds :
    let config := { Config.defaultDecode with maxRows := wordSize }
    (config.IsPositive ∧ greatest.Fits) ∧
      greatest.resolve config = .ok (wordSize - 1, 50) ∧
      (1 ≤ wordSize - 1 ∧ wordSize - 1 ≤ config.maxRows) ∧ (1 ≤ 50 ∧ 50 ≤ config.maxColumns) ∧
      (wordSize - 3 < wordSize - 1 ∨ wordSize - 1 = config.maxRows) ∧
      (wordSize - 2 < 50 ∨ 50 = config.maxColumns) := by
  intro config
  have hconfig : config.IsPositive := by decide
  have hfits : greatest.Fits := by decide
  obtain ⟨rows, columns, hsize, ⟨hrows, hcolumns⟩, hbounds, hbounds', hlast, hlast'⟩ :=
    (resolve_bounds hconfig).1 hfits
  have hrows' : rows = wordSize - 1 := by
    rw [hrows]
    decide
  have hcolumns' : columns = 50 := by
    rw [hcolumns]
    decide
  subst hrows' hcolumns'
  exact ⟨⟨hconfig, hfits⟩, hsize, hbounds, hbounds', hlast _ rfl, hlast' _ rfl⟩

/-- The greatest count of rows has no row behind it, although the cap leaves 500 of them. -/
theorem resolve_overflow :
    let d := { Dimensions.unknown with actualRows := some (wordSize - 1) }
    let config := Config.defaultDecode
    config.IsPositive ∧ d.resolve config = .error .overflow ∧
      min (d.rowCount config) config.maxRows = 500 ∧
      min (d.columnCount config) config.maxColumns = 26 := by
  intro d config
  decide

end Dimensions

end Workbook

end Spreadsheet
