import Mathlib
import Spreadsheet.Proofs.Dictionary
import Spreadsheet.Proofs.Table.Consistency

namespace Spreadsheet

namespace Table

variable {t t' : Table} {n : String}

/-- A row has a cell under the name, or the view is shaped by it. -/
def Mentions (t : Table) (n : String) : Prop :=
  (∃ r ∈ t.rows, n ∈ r.cells.keys) ∨ n ∈ t.filters.keys ∨ ∃ s ∈ t.sort, s.column = n

theorem not_mentions_empty (config : Config) (today : String) :
    ¬ (Table.empty config today).Mentions n := by
  simp [Mentions, Table.empty]

theorem mentions_addRow {id : String} : (t.addRow id).Mentions n ↔ t.Mentions n := by
  simp [Mentions, addRow, Row.fresh, or_and_right, exists_or]

theorem Mentions.of_deleteRow {id : String} (h : (t.deleteRow id).Mentions n) : t.Mentions n := by
  refine h.imp_left ?_
  rintro ⟨r, hr, hn⟩
  exact ⟨r, List.mem_of_mem_filter hr, hn⟩

theorem exists_mem_setCell {id column : String} {v : Cell} {rows : List Row}
    (h : ∃ r ∈ setCell id column v rows, n ∈ r.cells.keys) :
    n = column ∨ ∃ r ∈ rows, n ∈ r.cells.keys := by
  induction rows with
  | nil => simpa [setCell, Row.set, Row.fresh, Dictionary.mem_keys_insert] using h
  | cons r rows ih =>
    unfold setCell at h
    split at h
    · simp only [List.mem_cons, exists_eq_or_imp, Row.set, Dictionary.mem_keys_insert] at h ⊢
      rwa [or_assoc] at h
    · rw [List.exists_mem_cons_iff] at h ⊢
      rcases h with h | h
      · exact .inr (.inl h)
      · exact (ih h).imp_right .inr

theorem Mentions.of_updateCell {id column : String} {v : Cell}
    (h : (t.updateCell id column v).Mentions n) : n = column ∨ t.Mentions n := by
  rcases h with h | h
  · exact (exists_mem_setCell h).imp_right .inl
  · exact .inr (.inr h)

theorem exists_mem_copyAfter {id copy : String} {rows : List Row}
    (h : ∃ r ∈ copyAfter id copy rows, n ∈ r.cells.keys) : ∃ r ∈ rows, n ∈ r.cells.keys := by
  induction rows with
  | nil => exact h
  | cons r rows ih =>
    unfold copyAfter at h
    split at h
    · simpa only [List.exists_mem_cons_iff, or_self_left] using h
    · rw [List.exists_mem_cons_iff] at h ⊢
      exact h.imp_right ih

theorem Mentions.of_duplicateRow {id copy : String} (h : (t.duplicateRow id copy).Mentions n) :
    t.Mentions n :=
  h.imp_left exists_mem_copyAfter

theorem mentions_renamed {old new : String} :
    (t.renamed old new).Mentions n ↔
      ∃ m, t.Mentions m ∧ (if m = old then new else m) = n := by
  have hrows : (∃ r ∈ (t.renamed old new).rows, n ∈ r.cells.keys) ↔
      ∃ m, (∃ r ∈ t.rows, m ∈ r.cells.keys) ∧ (if m = old then new else m) = n := by
    simp only [renamed, List.mem_map, exists_exists_and_eq_and, Row.rename,
      Dictionary.mem_keys_rename]
    constructor
    · rintro ⟨r, hr, m, hm, hn⟩
      exact ⟨m, ⟨r, hr, hm⟩, hn⟩
    · rintro ⟨m, ⟨r, hr, hm⟩, hn⟩
      exact ⟨r, hr, m, hm, hn⟩
  have hsort : (∃ s ∈ (t.renamed old new).sort, s.column = n) ↔
      ∃ m, (∃ s ∈ t.sort, s.column = m) ∧ (if m = old then new else m) = n := by
    cases hs : t.sort with
    | none => simp [renamed, hs]
    | some s => by_cases hc : s.column = old <;> simp [renamed, hs, hc]
  have hfilters : n ∈ (t.renamed old new).filters.keys ↔
      ∃ m, m ∈ t.filters.keys ∧ (if m = old then new else m) = n :=
    Dictionary.mem_keys_rename
  unfold Mentions
  rw [hrows, hfilters, hsort]
  simp only [or_and_right, exists_or]

theorem mentions_deleteColumn {name : String} (h : name ∈ t.columnNames) :
    (t.deleteColumn name).Mentions n ↔ t.Mentions n ∧ n ≠ name := by
  have hsome : (t.column? name).isNone = false := by
    rw [← Bool.not_eq_true, column?_isNone_iff, not_not]
    exact h
  have hsort : (∃ s ∈ (t.deleteColumn name).sort, s.column = n) ↔
      (∃ s ∈ t.sort, s.column = n) ∧ n ≠ name := by
    cases hs : t.sort with
    | none => simp [deleteColumn, hsome, hs]
    | some s =>
      by_cases hc : s.column = name
      · simp [deleteColumn, hsome, hs, hc, eq_comm (a := n)]
      · simp only [deleteColumn, hsome, hs, Option.filter_some]
        grind
  unfold Mentions
  rw [hsort]
  simp only [deleteColumn, hsome, Bool.false_eq_true, if_false, List.mem_map,
    exists_exists_and_eq_and, Row.erase, Dictionary.mem_keys_erase]
  grind

theorem Mentions.of_filterBy {column substring : String}
    (h : (t.filterBy column substring).Mentions n) : n = column ∨ t.Mentions n := by
  unfold filterBy at h
  split at h
  · rcases h with h | h | h
    · exact .inr (.inl h)
    · exact .inr (.inr (.inl (Dictionary.mem_keys_erase.mp h).1))
    · exact .inr (.inr (.inr h))
  · rcases h with h | h | h
    · exact .inr (.inl h)
    · exact (Dictionary.mem_keys_insert.mp h).imp_right fun h => .inr (.inl h)
    · exact .inr (.inr (.inr h))

theorem Mentions.of_sortBy {column : String} {direction : Direction}
    (h : (t.sortBy column direction).Mentions n) : n = column ∨ t.Mentions n := by
  rcases h with h | h | ⟨s, hs, rfl⟩
  · exact .inr (.inl h)
  · exact .inr (.inr (.inl h))
  · obtain rfl := Option.some.inj hs
    exact .inl rfl

theorem Mentions.of_clearSort (h : t.clearSort.Mentions n) : t.Mentions n := by
  rcases h with h | h | ⟨s, hs, -⟩
  · exact .inl h
  · exact .inr (.inl h)
  · cases hs

theorem Mentions.of_clearFilters (h : t.clearFilters.Mentions n) : t.Mentions n := by
  rcases h with h | h | h
  · exact .inl h
  · cases h
  · exact .inr (.inr h)

theorem mentions_of_same_rows {cs : List Column} :
    ({ t with columns := cs } : Table).Mentions n ↔ t.Mentions n :=
  Iff.rfl

end Table

/-- The column that a change sets a cell, a filter or the sort for. -/
def Edit.target? : Edit → Option String
  | updateCell _ column _ | filter column _ | sort column _ => some column
  | _ => none

/-- Cells, filters and the sort are set for columns of the table only. -/
def Edit.OnTarget (e : Edit) (t : Table) : Prop :=
  ∀ column ∈ e.target?, column ∈ t.columnNames

instance (e : Edit) (t : Table) : Decidable (e.OnTarget t) :=
  inferInstanceAs (Decidable (∀ column ∈ e.target?, column ∈ t.columnNames))

namespace Table

variable {t t' : Table}

def Closed (t : Table) : Prop :=
  ∀ n, t.Mentions n → n ∈ t.columnNames

namespace Closed

theorem renamed (h : t.Closed) (old new : String) : (t.renamed old new).Closed := by
  intro n hn
  obtain ⟨m, hm, rfl⟩ := mentions_renamed.mp hn
  rw [columnNames_renamed]
  exact List.mem_map_of_mem (h m hm)

theorem deleteColumn (h : t.Closed) (name : String) : (t.deleteColumn name).Closed := by
  intro n hn
  by_cases hname : name ∈ t.columnNames
  · obtain ⟨hm, hne⟩ := (mentions_deleteColumn hname).mp hn
    rw [columnNames_deleteColumn, List.mem_filter]
    exact ⟨h n hm, by simpa using hne⟩
  · rw [Table.deleteColumn, if_pos (column?_isNone_iff.mpr hname)] at hn ⊢
    exact h n hn

theorem insertColumn (h : t.Closed) {c : Column} (hi : t.insertColumn c = .ok t') : t'.Closed := by
  obtain ⟨-, -, -, rfl⟩ := insertColumn_eq_ok_iff.mp hi
  intro n hn
  have hmem := h n (mentions_of_same_rows.mp hn)
  rw [columnNames, List.map_append]
  exact List.mem_append_left _ hmem

theorem modifyColumn (h : t.Closed) (name : String) {f : Column → Column}
    (hf : ∀ c ∈ t.columns, c.name = name → (f c).name = c.name) :
    (t.modifyColumn name f).Closed := by
  intro n hn
  rw [columnNames_modifyColumn name hf]
  exact h n (mentions_of_same_rows.mp hn)

theorem setColumnFormula (h : t.Closed) {name formula : String}
    (hs : t.setColumnFormula name formula = .ok t') : t'.Closed := by
  obtain ⟨-, rfl⟩ := setColumnFormula_eq_ok_iff.mp hs
  exact h.modifyColumn name fun _ _ _ => rfl

theorem renameColumn (h : t.Closed) {old new : String}
    (hr : t.renameColumn old new = .ok t') : t'.Closed := by
  rcases renameColumn_eq_ok_iff.mp hr with ⟨-, rfl⟩ | ⟨-, -, -, -, rfl⟩
  · exact h
  · exact h.renamed old new

theorem of_mentions (h : t.Closed) (hc : t'.columns = t.columns)
    (hm : ∀ n, t'.Mentions n → t.Mentions n) : t'.Closed := by
  intro n hn
  rw [columnNames, hc]
  exact h n (hm n hn)

theorem of_mentions_target (h : t.Closed) {column : String} (hcolumn : column ∈ t.columnNames)
    (hc : t'.columns = t.columns) (hm : ∀ n, t'.Mentions n → n = column ∨ t.Mentions n) :
    t'.Closed := by
  intro n hn
  rw [columnNames, hc]
  rcases hm n hn with rfl | hn
  · exact hcolumn
  · exact h n hn

theorem apply (h : t.Closed) {e : Edit} (ht : e.OnTarget t) (ha : t.apply e = .ok t') :
    t'.Closed := by
  cases e with
  | addRow id =>
    obtain rfl := Except.ok.inj ha
    exact h.of_mentions rfl fun _ => mentions_addRow.mp
  | deleteRow id =>
    obtain rfl := Except.ok.inj ha
    exact h.of_mentions rfl fun _ => .of_deleteRow
  | updateCell id column v =>
    obtain rfl := Except.ok.inj ha
    exact h.of_mentions_target (ht column rfl) rfl fun _ hn => hn.of_updateCell
  | duplicateRow id copy =>
    obtain rfl := Except.ok.inj ha
    exact h.of_mentions rfl fun _ => .of_duplicateRow
  | addColumn kind name => exact h.insertColumn ha
  | addFormulaColumn name formula => exact h.insertColumn ha
  | insertColumn c => exact h.insertColumn ha
  | setColumnFormula name formula => exact h.setColumnFormula ha
  | renameColumn old new => exact h.renameColumn ha
  | deleteColumn name =>
    obtain rfl := Except.ok.inj ha
    exact h.deleteColumn name
  | setColumnWidth name width =>
    obtain rfl := Except.ok.inj ha
    exact h.modifyColumn name fun _ _ _ => rfl
  | sort column direction =>
    obtain rfl := Except.ok.inj ha
    exact h.of_mentions_target (ht column rfl) rfl fun _ hn => hn.of_sortBy
  | clearSort =>
    obtain rfl := Except.ok.inj ha
    exact h.of_mentions rfl fun _ => .of_clearSort
  | filter column substring =>
    obtain rfl := Except.ok.inj ha
    refine h.of_mentions_target (ht column rfl) ?_ fun _ hn => hn.of_filterBy
    unfold filterBy
    split <;> rfl
  | clearFilters =>
    obtain rfl := Except.ok.inj ha
    exact h.of_mentions rfl fun _ => .of_clearFilters

theorem after (h : t.Closed) {e : Edit} (ht : e.OnTarget t) : (t.after e).Closed := by
  rcases apply_or_eq_after t e with ha | hsame
  · exact h.apply ht ha
  · rwa [hsame]

end Closed

/-- The tables of runs on target, from an empty table or from a document in which the cells of all
rows stand under names of columns. -/
inductive Tracked : Table → Prop
  | empty (config : Config) (today : String) : Tracked (Table.empty config today)
  | load {config : Config} {today : String} {d : TableDocument} {t : Table}
      (h : load config today d = .ok t)
      (hd : ∀ r ∈ d.rows, ∀ n ∈ r.cells.keys, n ∈ d.columns.map (·.name)) : Tracked t
  | after {t : Table} (h : Tracked t) (e : Edit) (ht : e.OnTarget t) : Tracked (t.after e)

theorem Tracked.closed (h : Tracked t) : t.Closed := by
  induction h with
  | empty config today => exact fun n hn => absurd hn (not_mentions_empty config today)
  | load h hd =>
    obtain ⟨-, rfl⟩ := load_eq_ok_iff.mp h
    rintro n (⟨r, hr, hn⟩ | hn | ⟨s, hs, -⟩)
    · exact hd r hr n hn
    · cases hn
    · cases hs
  | after _ e ht ih => exact ih.after ht

/-- All that rows, filters and the sort name are columns, whatever was renamed, deleted and added
again, and whatever failed. -/
theorem Tracked.names_columns (h : Tracked t) :
    (∀ r ∈ t.rows, ∀ n ∈ r.cells.keys, n ∈ t.columnNames) ∧
      (∀ n ∈ t.filters.keys, n ∈ t.columnNames) ∧
      ∀ s ∈ t.sort, s.column ∈ t.columnNames := by
  have hc := h.closed
  refine ⟨fun r hr n hn => ?_, fun n hn => ?_, fun s hs => ?_⟩
  · exact hc n (.inl ⟨r, hr, hn⟩)
  · exact hc n (.inr (.inl hn))
  · exact hc s.column (.inr (.inr ⟨s, hs, rfl⟩))

def trackedDocument : TableDocument :=
  ⟨[.ofKind "a" .text, .ofKind "b" .text], [(Row.fresh "1").set "a" (.text "x")]⟩

def tracked : Table :=
  { Table.empty Config.default "2026-10-19" with
    columns := trackedDocument.columns, rows := trackedDocument.rows }
    |>.after (.updateCell "2" "b" (.text "y"))
    |>.after (.filter "b" "Y")
    |>.after (.sort "a" .descending)
    |>.after (.renameColumn "a" "c")
    |>.after (.renameColumn "c" "b")
    |>.after (.deleteColumn "b")
    |>.after (.addColumn .number (some "a"))

theorem tracked_names_columns :
    Tracked tracked ∧ tracked.columnNames = ["c", "a"] ∧
      tracked.rows.map (·.cells.keys) = [["c"], []] ∧ tracked.sort = some ⟨"c", .descending⟩ ∧
      (∀ r ∈ tracked.rows, ∀ n ∈ r.cells.keys, n ∈ tracked.columnNames) ∧
      (∀ n ∈ tracked.filters.keys, n ∈ tracked.columnNames) ∧
      ∀ s ∈ tracked.sort, s.column ∈ tracked.columnNames := by
  have h : Tracked tracked := by
    iterate 7 refine .after ?_ _ (by decide)
    have hload : load Config.default "2026-10-19" trackedDocument = .ok
        { Table.empty Config.default "2026-10-19" with
          columns := trackedDocument.columns, rows := trackedDocument.rows } := by rfl
    exact .load hload (by decide)
  exact ⟨h, by decide, by decide, by decide, h.names_columns⟩

end Table

end Spreadsheet
