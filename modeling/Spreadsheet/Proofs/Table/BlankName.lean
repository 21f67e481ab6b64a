import Mathlib
import Spreadsheet.Proofs.Table.Consistency

namespace Spreadsheet.Table

variable {t t' : Table} {name : String}

theorem columnNames_insertColumn {c : Column} (h : t.insertColumn c = .ok t') :
    Text.allBlank c.name.toList = false ∧ t'.columnNames = t.columnNames ++ [c.name] := by
  obtain ⟨hblank, -, -, rfl⟩ := insertColumn_eq_ok_iff.mp h
  exact ⟨hblank, by simp [columnNames]⟩

/-- Names are taken away, or one name that is not blank comes in, new or for an old one. -/
theorem columnNames_apply {e : Edit} (h : t.apply e = .ok t') :
    t'.columnNames.Sublist t.columnNames ∨
      (∃ new, Text.allBlank new.toList = false ∧ t'.columnNames = t.columnNames ++ [new]) ∨
      ∃ old new, Text.allBlank new.toList = false ∧
        t'.columnNames = t.columnNames.map fun name => if name = old then new else name := by
  cases e with
  | addColumn kind name => exact .inr (.inl ⟨_, columnNames_insertColumn h⟩)
  | addFormulaColumn name formula => exact .inr (.inl ⟨_, columnNames_insertColumn h⟩)
  | insertColumn c => exact .inr (.inl ⟨_, columnNames_insertColumn h⟩)
  | setColumnFormula name formula =>
    obtain ⟨-, rfl⟩ := setColumnFormula_eq_ok_iff.mp h
    have hnames := columnNames_modifyColumn (t := t) name
      (f := fun c => { c with formula := some formula }) fun _ _ _ => rfl
    exact .inl (hnames ▸ .refl _)
  | renameColumn old new =>
    rcases renameColumn_eq_ok_iff.mp h with ⟨-, rfl⟩ | ⟨-, -, hblank, -, rfl⟩
    · exact .inl (.refl _)
    · exact .inr (.inr ⟨old, new, hblank, columnNames_renamed old new⟩)
  | deleteColumn name =>
    obtain rfl := Except.ok.inj h
    rw [columnNames_deleteColumn]
    exact .inl List.filter_sublist
  | setColumnWidth name width =>
    obtain rfl := Except.ok.inj h
    have hnames : (t.setColumnWidth name width).columnNames = t.columnNames :=
      columnNames_modifyColumn name fun _ _ _ => rfl
    exact .inl (hnames ▸ .refl _)
  | filter column substring =>
    obtain rfl := Except.ok.inj h
    unfold filterBy
    split <;> exact .inl (.refl _)
  | addRow _ | deleteRow _ | updateCell _ _ _ | duplicateRow _ _ | sort _ _ | clearSort
  | clearFilters =>
    obtain rfl := Except.ok.inj h
    exact .inl (.refl _)

theorem blank_mem_of_apply {e : Edit} (h : t.apply e = .ok t') (hname : name ∈ t'.columnNames)
    (hblank : Text.allBlank name.toList = true) : name ∈ t.columnNames := by
  have hne : ∀ new, Text.allBlank new.toList = false → name ≠ new := by
    rintro new hnew rfl
    rw [hblank] at hnew
    cases hnew
  rcases columnNames_apply h with hsub | ⟨new, hnew, hnames⟩ | ⟨old, new, hnew, hnames⟩
  · exact hsub.subset hname
  · rw [hnames, List.mem_append, List.mem_singleton] at hname
    exact hname.resolve_right (hne new hnew)
  · rw [hnames] at hname
    obtain ⟨m, hm, hmap⟩ := List.mem_map.mp hname
    split at hmap
    · exact absurd hmap.symm (hne new hnew)
    · rwa [← hmap]

/-- The table after changes one after another, of which any may fail. -/
def afterAll (t : Table) (es : List Edit) : Table :=
  es.foldl after t

theorem blank_mem_of_after {e : Edit} (hname : name ∈ (t.after e).columnNames)
    (hblank : Text.allBlank name.toList = true) : name ∈ t.columnNames := by
  rcases apply_or_eq_after t e with ha | hsame
  · exact blank_mem_of_apply ha hname hblank
  · rwa [hsame] at hname

theorem blank_mem_of_afterAll {es : List Edit} (hname : name ∈ (t.afterAll es).columnNames)
    (hblank : Text.allBlank name.toList = true) : name ∈ t.columnNames := by
  induction es generalizing t with
  | nil => exact hname
  | cons e es ih => exact blank_mem_of_after (ih hname) hblank

theorem columnNames_of_load {config : Config} {today : String} {d : TableDocument}
    (h : load config today d = .ok t) : t.columnNames = d.columns.map (·.name) := by
  obtain ⟨-, rfl⟩ := load_eq_ok_iff.mp h
  rfl

/-- Changes of an empty table never lead to a blank name. A blank name that is met after changes of
a loaded table stands in the document, so that there are none exactly if the document has none. -/
theorem columnNames_afterAll {config : Config} {today : String} {d : TableDocument}
    (h : load config today d = .ok t) :
    (∀ es, ∀ name ∈ ((Table.empty config today).afterAll es).columnNames,
        Text.allBlank name.toList = false) ∧
      (∀ es, ∀ name ∈ (t.afterAll es).columnNames, Text.allBlank name.toList = true →
        name ∈ d.columns.map (·.name)) ∧
      ((∀ es, ∀ name ∈ (t.afterAll es).columnNames, Text.allBlank name.toList = false) ↔
        ∀ name ∈ d.columns.map (·.name), Text.allBlank name.toList = false) := by
  have hnames := columnNames_of_load h
  refine ⟨fun es name hname => ?_, fun es name hname hblank => ?_, fun hall => ?_, ?_⟩
  · rw [Bool.eq_false_iff]
    intro hblank
    cases blank_mem_of_afterAll hname hblank
  · rw [← hnames]
    exact blank_mem_of_afterAll hname hblank
  · rw [← hnames]
    exact hall []
  · intro hall es name hname
    rw [Bool.eq_false_iff]
    intro hblank
    have hmem := blank_mem_of_afterAll hname hblank
    rw [hnames] at hmem
    exact Bool.eq_false_iff.mp (hall name hmem) hblank

def halfNamed : TableDocument :=
  ⟨[.ofKind " " .text, .ofKind "price" .number], []⟩

def halfNamedTable : Table :=
  { Table.empty Config.default "2026-10-19" with columns := halfNamed.columns }

theorem load_halfNamed : load Config.default "2026-10-19" halfNamed = .ok halfNamedTable := by
  rfl

theorem halfNamed_columnNames_afterAll :
    load Config.default "2026-10-19" halfNamed = .ok halfNamedTable ∧
      (halfNamedTable.afterAll [.renameColumn "price" "\t", .addColumn .text (some ""),
        .addColumn .text none]).columnNames = [" ", "price", "Column 3"] ∧
      (∀ es, ∀ name ∈ (halfNamedTable.afterAll es).columnNames,
        Text.allBlank name.toList = true → name ∈ [" ", "price"]) ∧
      ∀ es, ∀ name ∈ ((Table.empty Config.default "2026-10-19").afterAll es).columnNames,
        Text.allBlank name.toList = false := by
  obtain ⟨hempty, hloaded, -⟩ := columnNames_afterAll load_halfNamed
  exact ⟨load_halfNamed, by decide, hloaded, hempty⟩

/-- Loaded tables may have blank names. -/
theorem halfNamed_blank :
    (" " ∈ halfNamedTable.columnNames ∧ Text.allBlank " ".toList = true) ∧
      ¬ ∀ t, Reachable t → ∀ name ∈ t.columnNames, Text.allBlank name.toList = false := by
  have hmem : " " ∈ halfNamedTable.columnNames := by decide
  have hblank : Text.allBlank " ".toList = true := by decide
  refine ⟨⟨hmem, hblank⟩, fun h => ?_⟩
  rw [h halfNamedTable (.load load_halfNamed) " " hmem] at hblank
  cases hblank

end Spreadsheet.Table
