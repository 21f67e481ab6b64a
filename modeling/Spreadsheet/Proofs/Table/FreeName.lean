import Mathlib
import Spreadsheet.Proofs.Table.Consistency
import Spreadsheet.Proofs.Text.Digits

namespace Spreadsheet.Table

variable (t : Table)

/-- The search from a number on ends with a name after so many rounds: a round takes the name of its
number if no column has it, and otherwise goes on to the next number. -/
inductive SearchesFrom : Nat → String → Nat → Prop
  | free {n : Nat} (h : (t.column? (numberedName n)).isNone) : SearchesFrom n (numberedName n) 1
  | taken {n : Nat} {name : String} {rounds : Nat} (h : (t.column? (numberedName n)).isSome)
      (hrest : SearchesFrom (n + 1) name rounds) : SearchesFrom n name (rounds + 1)

theorem numberedName_injective : Function.Injective numberedName := by
  intro n m h
  rw [numberedName, numberedName, String.append_right_inj, String.ofList_inj] at h
  have hnatural : Function.LeftInverse (Text.valueFrom 0) Text.natural := Text.valueFrom_natural
  exact hnatural.injective h

theorem allBlank_numberedName (n : Nat) : Text.allBlank (numberedName n).toList = false := by
  rw [numberedName, String.toList_append, Text.allBlank, List.all_append, Bool.and_eq_false_iff]
  exact .inl (by decide)

variable {t} {n : Nat}

structure FirstFree (t : Table) (start n : Nat) : Prop where
  start_le : start ≤ n
  free : numberedName n ∉ t.columnNames
  taken : ∀ m, start ≤ m → m < n → numberedName m ∈ t.columnNames

/-- The columns cannot have one more name than there are columns. -/
theorem exists_free (t : Table) (start : Nat) :
    ∃ n, start ≤ n ∧ n ≤ start + t.columns.length ∧ numberedName n ∉ t.columnNames := by
  by_contra hno
  simp only [not_exists, not_and, not_not] at hno
  have hnodup : ((List.range' start (t.columns.length + 1)).map numberedName).Nodup :=
    (List.nodup_range' 1).map numberedName_injective
  have hsubset : (List.range' start (t.columns.length + 1)).map numberedName ⊆ t.columnNames := by
    intro name hname
    obtain ⟨n, hn, rfl⟩ := List.mem_map.mp hname
    rw [List.mem_range'_1] at hn
    exact hno n hn.1 (by omega)
  have hlength := hnodup.length_le_of_subset hsubset
  simp [columnNames] at hlength

theorem exists_firstFree (t : Table) (start : Nat) :
    ∃ n, t.FirstFree start n ∧ n ≤ start + t.columns.length := by
  obtain ⟨m, hstart, hm, hfree⟩ := exists_free t start
  have hexists : ∃ n, start ≤ n ∧ numberedName n ∉ t.columnNames := ⟨m, hstart, hfree⟩
  obtain ⟨hstart', hfree'⟩ := Nat.find_spec hexists
  refine ⟨Nat.find hexists, ⟨hstart', hfree', fun i hi hlt => ?_⟩, ?_⟩
  · by_contra hi'
    exact Nat.find_min hexists hlt ⟨hi, hi'⟩
  · exact (Nat.find_min' hexists ⟨hstart, hfree⟩).trans hm

/-- The search passes the taken numbers, a round for each, and stops at the first free one. -/
theorem FirstFree.searchesFrom {start : Nat} (h : t.FirstFree start n) :
    t.SearchesFrom start (numberedName n) (n - start + 1) := by
  -- By induction on how far the free number is from the start.
  obtain ⟨i, rfl⟩ := Nat.exists_eq_add_of_le h.start_le
  induction i generalizing start with
  | zero =>
    rw [Nat.add_zero, Nat.sub_self]
    exact .free (column?_isNone_iff.mpr h.free)
  | succ i ih =>
    have hshift : start + (i + 1) = start + 1 + i := by omega
    have hrest : t.FirstFree (start + 1) (start + 1 + i) := by
      refine ⟨by omega, hshift ▸ h.free, fun m hm hlt => h.taken m (by omega) (by omega)⟩
    have hsearch := ih hrest
    have hrounds : start + (i + 1) - start = start + 1 + i - (start + 1) + 1 := by omega
    rw [hrounds, hshift]
    exact .taken (column?_isSome_iff.mpr (h.taken start le_rfl (by omega))) hsearch

theorem SearchesFrom.unique {start rounds rounds' : Nat} {name name' : String}
    (h : t.SearchesFrom start name rounds) (h' : t.SearchesFrom start name' rounds') :
    name = name' ∧ rounds = rounds' := by
  induction h generalizing rounds' with
  | free hnone =>
    cases h' with
    | free _ => exact ⟨rfl, rfl⟩
    | taken hsome _ =>
      exact absurd (column?_isSome_iff.mp hsome) (column?_isNone_iff.mp hnone)
  | taken hsome _ ih =>
    cases h' with
    | free hnone =>
      exact absurd (column?_isSome_iff.mp hsome) (column?_isNone_iff.mp hnone)
    | taken _ hrest =>
      obtain ⟨hname, hrounds⟩ := ih hrest
      exact ⟨hname, by rw [hrounds]⟩

theorem FirstFree.searchesFrom_iff {start rounds : Nat} {name : String} (h : t.FirstFree start n) :
    t.SearchesFrom start name rounds ↔ name = numberedName n ∧ rounds = n - start + 1 := by
  constructor
  · intro hsearch
    exact hsearch.unique h.searchesFrom
  · rintro ⟨rfl, rfl⟩
    exact h.searchesFrom

theorem FirstFree.nextColumnName_eq (h : t.FirstFree (t.columns.length + 1) n)
    (hn : n ≤ 2 * t.columns.length + 1) : t.nextColumnName = numberedName n := by
  have hfind : (List.range' (t.columns.length + 1) (t.columns.length + 1)).find?
      ((fun name => (t.column? name).isNone) ∘ numberedName) = some n := by
    rw [List.find?_range'_eq_some, List.mem_range'_1]
    have hstart := h.start_le
    refine ⟨column?_isNone_iff.mpr h.free, ⟨hstart, by omega⟩, fun m hm hlt => ?_⟩
    have hsome := column?_isSome_iff.mpr (h.taken m hm hlt)
    rw [Function.comp_apply, Bool.not_eq_true', Option.isNone_eq_false_iff]
    exact hsome
  rw [nextColumnName, List.find?_map, hfind]
  rfl

theorem addColumn_of_free {kind : ColumnKind} {name : String}
    (hblank : Text.allBlank name.toList = false) (hfree : name ∉ t.columnNames) :
    t.addColumn kind (some name) = .ok { t with
      columns := t.columns ++ [{ Column.ofKind name kind with width := some t.columnWidth }] } := by
  have hproblem : (Column.ofKind name kind).problem? = none := by
    rw [Column.problem?_eq_none_iff]
    by_cases hkind : kind = .formula <;> simp [Column.ofKind, hkind]
  exact insertColumn_eq_ok_iff.mpr ⟨hblank, hfree, hproblem, rfl⟩

/-- In a table of any `k` columns the search ends, at the least number greater than `k` whose name
is free, which is at most `2 * k + 1`. So a column of any kind can be added without a name. -/
theorem addColumn_unnamed (t : Table) :
    ∃ n, t.columns.length + 1 ≤ n ∧ n ≤ 2 * t.columns.length + 1 ∧
      numberedName n ∉ t.columnNames ∧
      (∀ m, t.columns.length + 1 ≤ m → m < n → numberedName m ∈ t.columnNames) ∧
      (∀ name rounds, t.SearchesFrom (t.columns.length + 1) name rounds ↔
        name = numberedName n ∧ rounds = n - t.columns.length) ∧
      t.nextColumnName = numberedName n ∧
      ∀ kind, t.addColumn kind none = .ok { t with
        columns := t.columns ++
          [{ Column.ofKind (numberedName n) kind with width := some t.columnWidth }] } := by
  obtain ⟨n, hn, hle⟩ := exists_firstFree t (t.columns.length + 1)
  have hmost : n ≤ 2 * t.columns.length + 1 := by omega
  have hname := hn.nextColumnName_eq hmost
  have hstart := hn.start_le
  refine ⟨n, hstart, hmost, hn.free, hn.taken, fun name rounds => ?_, hname, fun kind => ?_⟩
  · have hrounds : n - (t.columns.length + 1) + 1 = n - t.columns.length := by omega
    rw [hn.searchesFrom_iff, hrounds]
  · rw [← addColumn_of_free (allBlank_numberedName n) hn.free, addColumn, addColumn, hname]
    rfl

def crowded : Table :=
  Table.empty Config.default "2026-10-19"
    |>.after (.addColumn .text (some "Column 4"))
    |>.after (.addColumn .number (some "Column 7"))
    |>.after (.addFormulaColumn "Column 5" "")

example : crowded.nextColumnName = "Column 6" := by decide

end Spreadsheet.Table
