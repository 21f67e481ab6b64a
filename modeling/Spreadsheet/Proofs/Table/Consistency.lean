import Mathlib
import Spreadsheet.Proofs.Table.Session

namespace Spreadsheet

def Edit.newId? : Edit → Option String
  | addRow id => some id
  | duplicateRow _ copy => some copy
  | _ => none

/-- A new row gets an identifier that no row of the table has. -/
def Edit.Fresh (e : Edit) (t : Table) : Prop :=
  ∀ id ∈ e.newId?, id ∉ t.rowIds

instance (e : Edit) (t : Table) : Decidable (e.Fresh t) :=
  inferInstanceAs (Decidable (∀ id ∈ e.newId?, id ∉ t.rowIds))

namespace Table

variable {t t' : Table}

structure Consistent (t : Table) : Prop where
  nodup_names : t.columnNames.Nodup
  no_problem : ∀ c ∈ t.columns, c.problem? = none
  nodup_ids : t.rowIds.Nodup

namespace Consistent

theorem addRow (h : t.Consistent) {id : String} (hid : id ∉ t.rowIds) :
    (t.addRow id).Consistent := by
  refine ⟨h.nodup_names, h.no_problem, ?_⟩
  rw [rowIds_addRow, ← List.concat_eq_append]
  exact h.nodup_ids.concat hid

theorem deleteRow (h : t.Consistent) (id : String) : (t.deleteRow id).Consistent :=
  ⟨h.nodup_names, h.no_problem, h.nodup_ids.sublist (List.filter_sublist.map _)⟩

theorem updateCell (h : t.Consistent) (id column : String) (v : Cell) :
    (t.updateCell id column v).Consistent := by
  refine ⟨h.nodup_names, h.no_problem, ?_⟩
  rw [rowIds_updateCell]
  split
  · exact h.nodup_ids
  · rename_i hid
    rw [← List.concat_eq_append]
    exact h.nodup_ids.concat hid

theorem duplicateRow (h : t.Consistent) (id : String) {copy : String} (hc : copy ∉ t.rowIds) :
    (t.duplicateRow id copy).Consistent :=
  ⟨h.nodup_names, h.no_problem, nodup_map_id_copyAfter id h.nodup_ids hc⟩

theorem modifyColumn (h : t.Consistent) (name : String) {f : Column → Column}
    (hn : ∀ c ∈ t.columns, c.name = name → (f c).name = c.name)
    (hp : ∀ c ∈ t.columns, c.name = name → (f c).problem? = none) :
    (t.modifyColumn name f).Consistent := by
  refine ⟨columnNames_modifyColumn name hn ▸ h.nodup_names, ?_, h.nodup_ids⟩
  intro c hc
  obtain ⟨d, hd, rfl⟩ := List.mem_map.mp hc
  by_cases hdn : d.name = name
  · rw [if_pos hdn]
    exact hp d hd hdn
  · rw [if_neg hdn]
    exact h.no_problem d hd

theorem insertColumn (h : t.Consistent) {c : Column} (hi : t.insertColumn c = .ok t') :
    t'.Consistent := by
  obtain ⟨-, hc, hp, rfl⟩ := insertColumn_eq_ok_iff.mp hi
  refine ⟨?_, ?_, h.nodup_ids⟩
  · rw [columnNames, List.map_append, List.map_singleton, ← List.concat_eq_append]
    exact h.nodup_names.concat hc
  · intro d hd
    rcases List.mem_append.mp hd with hd | hd
    · exact h.no_problem d hd
    · obtain rfl := List.mem_singleton.mp hd
      exact hp

theorem setColumnFormula (h : t.Consistent) {name formula : String}
    (hs : t.setColumnFormula name formula = .ok t') : t'.Consistent := by
  obtain ⟨⟨c, hc, hk⟩, rfl⟩ := setColumnFormula_eq_ok_iff.mp hs
  refine h.modifyColumn name (fun _ _ _ => rfl) fun d hd hdn => ?_
  have hdc : t.column? name = some d := (column?_eq_some_iff h.nodup_names).mpr ⟨hd, hdn⟩
  obtain rfl : c = d := Option.some.inj (hc.symm.trans hdc)
  rw [Column.problem?_eq_none_iff]
  simpa using hk

theorem renamed (h : t.Consistent) (old : String) {new : String} (hn : new ∉ t.columnNames) :
    (t.renamed old new).Consistent := by
  refine ⟨?_, ?_, ?_⟩
  · rw [columnNames_renamed]
    refine h.nodup_names.map_on fun x hx y hy hxy => ?_
    have hxn := ne_of_mem_of_not_mem hx hn
    have hyn := ne_of_mem_of_not_mem hy hn
    grind
  · intro c hc
    obtain ⟨d, hd, rfl⟩ := List.mem_map.mp hc
    have hp := h.no_problem d hd
    rw [Column.problem?_eq_none_iff] at hp ⊢
    split <;> exact hp
  · rw [rowIds_renamed]
    exact h.nodup_ids

theorem renameColumn (h : t.Consistent) {old new : String}
    (hr : t.renameColumn old new = .ok t') : t'.Consistent := by
  rcases renameColumn_eq_ok_iff.mp hr with ⟨-, rfl⟩ | ⟨-, -, -, hn, rfl⟩
  · exact h
  · exact h.renamed old hn

theorem deleteColumn (h : t.Consistent) (name : String) : (t.deleteColumn name).Consistent := by
  refine ⟨?_, ?_, ?_⟩
  · rw [columnNames_deleteColumn]
    exact h.nodup_names.filter _
  · exact fun c hc => h.no_problem c (mem_columns_of_mem_deleteColumn hc)
  · rw [rowIds_deleteColumn]
    exact h.nodup_ids

theorem setColumnWidth (h : t.Consistent) (name : String) (width : Float) :
    (t.setColumnWidth name width).Consistent :=
  h.modifyColumn name (fun _ _ _ => rfl) fun c hc _ => h.no_problem c hc

/-- Filters and sort concern neither columns nor rows. -/
theorem of_same_data (h : t.Consistent) (hc : t'.columns = t.columns) (hr : t'.rows = t.rows) :
    t'.Consistent := by
  refine ⟨?_, ?_, ?_⟩
  · rw [columnNames, hc]
    exact h.nodup_names
  · rw [hc]
    exact h.no_problem
  · rw [rowIds, hr]
    exact h.nodup_ids

theorem filterBy (h : t.Consistent) (column substring : String) :
    (t.filterBy column substring).Consistent := by
  unfold Table.filterBy
  split <;> exact h.of_same_data rfl rfl

theorem apply (h : t.Consistent) {e : Edit} (hf : e.Fresh t) (ha : t.apply e = .ok t') :
    t'.Consistent := by
  cases e with
  | addRow id =>
    obtain rfl := Except.ok.inj ha
    exact h.addRow (hf id rfl)
  | deleteRow id =>
    obtain rfl := Except.ok.inj ha
    exact h.deleteRow id
  | updateCell id column v =>
    obtain rfl := Except.ok.inj ha
    exact h.updateCell id column v
  | duplicateRow id copy =>
    obtain rfl := Except.ok.inj ha
    exact h.duplicateRow id (hf copy rfl)
  | addColumn kind name => exact h.insertColumn ha
  | addFormulaColumn name formula => exact h.insertColumn ha
  | insertColumn c => exact h.insertColumn ha
  | setColumnFormula name formula => exact h.setColumnFormula ha
  | renameColumn old new => exact h.renameColumn ha
  | deleteColumn name =>
    obtain rfl := Except.ok.inj ha
    exact h.deleteColumn name
  | setColumnWidth name width =>
    obtain rfl := Except.ok.inj ha
    exact h.setColumnWidth name width
  | filter column substring =>
    obtain rfl := Except.ok.inj ha
    exact h.filterBy column substring
  | sort _ _ | clearSort | clearFilters =>
    obtain rfl := Except.ok.inj ha
    exact h.of_same_data rfl rfl

end Consistent

theorem columnsError?_eq_none_iff (seen : List String) (cs : List Column) :
    columnsError? seen cs = none ↔
      (cs.map (·.name)).Nodup ∧ (∀ c ∈ cs, c.problem? = none) ∧ ∀ c ∈ cs, c.name ∉ seen := by
  induction cs generalizing seen with
  | nil => simp [columnsError?]
  | cons c cs ih =>
    unfold columnsError?
    by_cases hs : c.name ∈ seen
    · simp [hs]
    · cases hp : c.problem? with
      | some problem => simp [hs, hp]
      | none =>
        have hc : seen.contains c.name = false := by simpa using hs
        simp only [hc, Bool.false_eq_true, if_false, ih, List.map_cons, List.nodup_cons,
          List.mem_map, List.mem_cons]
        grind

theorem rowsError?_eq_none_iff (seen : List String) (rs : List Row) :
    rowsError? seen rs = none ↔ (rs.map (·.id)).Nodup ∧ ∀ r ∈ rs, r.id ∉ seen := by
  induction rs generalizing seen with
  | nil => simp [rowsError?]
  | cons r rs ih =>
    unfold rowsError?
    by_cases hs : r.id ∈ seen
    · simp [hs]
    · have hr : seen.contains r.id = false := by simpa using hs
      simp only [hr, Bool.false_eq_true, if_false, ih, List.map_cons, List.nodup_cons,
        List.mem_map, List.mem_cons]
      grind

/-- A document is loaded exactly when it holds the data of a consistent table. -/
theorem load_eq_ok_iff {config : Config} {today : String} {d : TableDocument} :
    load config today d = .ok t ↔
      t.Consistent ∧ t = { empty config today with columns := d.columns, rows := d.rows } := by
  have hc := columnsError?_eq_none_iff [] d.columns
  have hr := rowsError?_eq_none_iff [] d.rows
  simp only [List.not_mem_nil, not_false_eq_true, implies_true, and_true] at hc hr
  constructor
  · intro h
    unfold load at h
    split at h
    · cases h
    · cases h
    · rename_i hcn hrn
      obtain rfl := Except.ok.inj h
      obtain ⟨hn, hp⟩ := hc.mp hcn
      exact ⟨⟨hn, hp, hr.mp hrn⟩, rfl⟩
  · rintro ⟨⟨hn, hp, hi⟩, rfl⟩
    rw [load, hc.mpr ⟨hn, hp⟩, hr.mpr hi]

theorem Consistent.empty (config : Config) (today : String) :
    (Table.empty config today).Consistent :=
  ⟨.nil, by simp [Table.empty], .nil⟩

theorem Consistent.load_toDocument (h : t.Consistent) (config : Config) (today : String) :
    load config today t.toDocument =
      .ok { Table.empty config today with columns := t.columns, rows := t.rows } :=
  load_eq_ok_iff.mpr ⟨h.of_same_data rfl rfl, rfl⟩

/-- The table after a session that carries out a change, whether or not the change fails. -/
def after (t : Table) (e : Edit) : Table :=
  match (Session.perform e).run t with
  | .ok _ t' | .error _ t' => t'

/-- The tables that arise from an empty or a loaded one by changes. -/
inductive Reachable : Table → Prop
  | empty (config : Config) (today : String) : Reachable (Table.empty config today)
  | load {config : Config} {today : String} {d : TableDocument} {t : Table}
      (h : load config today d = .ok t) : Reachable t
  | after {t : Table} (h : Reachable t) (e : Edit) (hf : e.Fresh t) : Reachable (t.after e)

theorem apply_or_eq_after (t : Table) (e : Edit) : t.apply e = .ok (t.after e) ∨ t.after e = t := by
  rw [after, Session.run_perform]
  cases t.apply e with
  | ok t' => exact .inl rfl
  | error err => exact .inr rfl

theorem Consistent.after (h : t.Consistent) {e : Edit} (hf : e.Fresh t) :
    (t.after e).Consistent := by
  rcases apply_or_eq_after t e with ha | hsame
  · exact h.apply hf ha
  · rwa [hsame]

theorem Reachable.consistent (h : Reachable t) : t.Consistent := by
  induction h with
  | empty config today => exact .empty config today
  | load h => exact (load_eq_ok_iff.mp h).1
  | after _ e hf ih => exact ih.after hf

/-- A failed change has written nothing. -/
theorem eq_of_run_perform_eq_error {e : Edit} {err : TableError}
    (h : (Session.perform e).run t = .error err t') : t' = t := by
  rw [Session.run_perform] at h
  cases ha : t.apply e with
  | ok _ => simp [Session.atomic, ha] at h
  | error _ =>
    simp only [Session.atomic, ha, EStateM.Result.error.injEq] at h
    exact h.2.symm

/-- Of every table that changes lead to: names, formulas and identifiers are in order, a change that
fails leaves the table as it is, and the document can be loaded again. -/
theorem reachable_sound (h : Reachable t) :
    t.columnNames.Nodup ∧
      (∀ c ∈ t.columns, c.formula.isSome = true ↔ c.kind = .formula) ∧
      t.rowIds.Nodup ∧
      (∀ e err t', (Session.perform e).run t = .error err t' → t' = t) ∧
      ∀ config today, ∃ t', Table.load config today t.toDocument = .ok t' ∧
        t'.columns = t.columns ∧ t'.rows = t.rows ∧ t'.filters = .empty ∧ t'.sort = none := by
  have hc := h.consistent
  refine ⟨hc.nodup_names, fun c hm => (c.problem?_eq_none_iff).mp (hc.no_problem c hm),
    hc.nodup_ids, fun e err t' => eq_of_run_perform_eq_error, fun config today => ?_⟩
  exact ⟨_, hc.load_toDocument config today, rfl, rfl, rfl, rfl⟩

def sample : Table :=
  Table.empty Config.default "2026-10-19"
    |>.after (.addColumn .number (some "price"))
    |>.after (.addFormulaColumn "total" "price * 2")
    |>.after (.addRow "a")
    |>.after (.updateCell "a" "price" (.text "7"))
    |>.after (.duplicateRow "a" "b")
    |>.after (.renameColumn "price" "cost")
    |>.after (.addColumn .text (some "total"))

theorem sample_sound :
    Reachable sample ∧ sample.columnNames = ["cost", "total"] ∧ sample.rowIds = ["a", "b"] ∧
      sample.columnNames.Nodup ∧
      (∀ c ∈ sample.columns, c.formula.isSome = true ↔ c.kind = .formula) ∧
      sample.rowIds.Nodup ∧
      (∀ e err t', (Session.perform e).run sample = .error err t' → t' = sample) ∧
      ∀ config today, ∃ t', Table.load config today sample.toDocument = .ok t' ∧
        t'.columns = sample.columns ∧ t'.rows = sample.rows ∧ t'.filters = .empty ∧
        t'.sort = none := by
  have h : Reachable sample := by
    iterate 7 refine .after ?_ _ (by decide)
    exact .empty _ _
  exact ⟨h, by decide, by decide, reachable_sound h⟩

end Table

end Spreadsheet
