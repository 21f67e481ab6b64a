import Mathlib
import Spreadsheet.Proofs.Formula.Calculation
import Spreadsheet.Proofs.Formula.ColumnOrder

namespace Spreadsheet.Formula

open Spreadsheet.Text
open Spreadsheet.Decimal (Alike)

def punctuationRanges : List (Nat × Nat) :=
  [(0x21, 0x2f), (0x3a, 0x40), (0x5b, 0x60), (0x7b, 0x7e)]

def isPunctuation (c : Char) : Bool :=
  inRanges punctuationRanges c

/-- The name is not empty, and it has no blanks around it and no ASCII punctuation. -/
structure IsBare (name : String) : Prop where
  nonempty : name ≠ ""
  trimmed : Trimmed name.toList
  bare : ∀ c ∈ name.toList, isPunctuation c = false

theorem isBare_iff_all {name : String} :
    (name ≠ "" ∧ Trimmed name.toList ∧ name.toList.all (!isPunctuation ·) = true) ↔ IsBare name := by
  simp only [List.all_eq_true, Bool.not_eq_true']
  exact ⟨fun h => ⟨h.1, h.2.1, h.2.2⟩, fun h => ⟨h.nonempty, h.trimmed, h.bare⟩⟩

instance (name : String) : Decidable (IsBare name) :=
  decidable_of_iff _ isBare_iff_all

/-- The character asks for the boundary of a word, but it belongs to no word. -/
def isStray (c : Char) : Bool :=
  isWordEdge c && !isWord c

def hasStrayEnd (name : String) : Bool :=
  name.toList.head?.any isStray || name.toList.getLast?.any isStray

section Characters

variable {c : Char}

theorem isWordEdge_of_isStray (h : isStray c) : isWordEdge c := by
  rw [isStray, Bool.and_eq_true] at h
  exact h.1

theorem isWord_of_isStray (h : isStray c) : isWord c = false := by
  simp only [isStray, Bool.and_eq_true, Bool.not_eq_true'] at h
  exact h.2

theorem isArithmetic_of_isStray (h : isStray c) (hb : isBlank c = false) : isArithmetic c = false := by
  by_cases hc : c.toNat < 0x80
  · have hnone : isStray c = false :=
      ascii_of_lt (p := fun c => isStray c = false) (by decide +kernel) hc
    rw [hnone] at h
    cases h
  · have hdigit : c.isDigit = false := by
      by_contra hd
      exact hc (lt_of_isDigit (by simpa using hd))
    have hmark : c ∉ ['+', '-', '*', '/', '(', ')', '.'] := by
      intro hm
      have hascii : ∀ d ∈ ['+', '-', '*', '/', '(', ')', '.'], d.toNat < 0x80 := by simp
      exact hc (hascii c hm)
    simp [isArithmetic, hdigit, hb, hmark]

end Characters

namespace IsBare

variable {name : String} (h : IsBare name)

include h

theorem not_mem {c : Char} (hc : isPunctuation c = true) : c ∉ name.toList := by
  intro hm
  rw [h.bare c hm] at hc
  cases hc

theorem isBody : IsBody name.toList where
  nonempty := by simpa using h.nonempty
  trimmed := h.trimmed
  noEquals c hc heq := h.not_mem (c := '=') (by decide) (heq ▸ List.mem_of_mem_head? hc)

theorem not_isInfix {needle : List Char} (hparen : '(' ∈ needle) : ¬ needle <:+: name.toList :=
  fun hinside => h.not_mem (by decide) (hinside.subset hparen)

theorem formOf_eq : formOf name.toList = .arithmetic := by
  have hquote : ∀ c ∈ name.toList.head?, c ≠ '"' ∧ c ≠ '\x27' := by
    intro c hc
    have hm := List.mem_of_mem_head? hc
    constructor
    · rintro rfl
      exact h.not_mem (by decide) hm
    · rintro rfl
      exact h.not_mem (by decide) hm
  exact formOf_of_head h.isBody hquote (fun o _ => h.not_isInfix (by simp)) []

theorem textualBody_eq (today : String) : textualBody today ("=" ++ name) = name.toList := by
  have hlayout : Layout.around ⟨[], some [], []⟩ name.toList = "=" ++ name := by
    rw [← String.toList_inj]
    simp [Layout.around, Layout.opening]
  rw [← hlayout, Layout.textualBody_around _ h.isBody (h.not_isInfix (by decide))]
  rfl

end IsBare

section Search

variable {name : String} {before : Option Char} {cs : List Char} {c : Char}

theorem matchesAt_ofName_iff : (NamePattern.ofName name).matchesAt before cs = true ↔
    ∃ rest, cs = name.toList ++ rest ∧
      (name.toList.head?.any isWordEdge → isBoundary before cs.head?) ∧
      (name.toList.getLast?.any isWordEdge → isBoundary name.toList.getLast? rest.head?) := by
  rw [NamePattern.matchesAt]
  cases hbegin : (NamePattern.ofName name).name.isPrefixOf? cs with
  | none =>
    rw [isPrefixOf?_eq_none_iff] at hbegin
    simp only [Bool.false_eq_true, false_iff]
    rintro ⟨rest, rfl, -⟩
    exact hbegin (List.prefix_append _ rest)
  | some rest =>
    rw [isPrefixOf?_eq_some_iff] at hbegin
    have hrest : ∀ rest', cs = name.toList ++ rest' ↔ rest' = rest := by
      intro rest'
      rw [hbegin]
      exact List.append_right_inj _ |>.trans eq_comm
    simp only [hrest, exists_eq_left]
    cases hb : (name.toList.head?.any isWordEdge) <;>
      cases ha : (name.toList.getLast?.any isWordEdge) <;>
        simp [NamePattern.ofName, hb, ha]

theorem isStray_of_matchesAt_none (h : (NamePattern.ofName name).matchesAt none cs = true)
    (hc : name.toList.head? = some c) : isStray c = false := by
  obtain ⟨rest, rfl, hbefore, -⟩ := matchesAt_ofName_iff.mp h
  rw [List.head?_append_of_ne_nil _ (by rintro hnil; simp [hnil] at hc), hc] at hbefore
  by_contra hstray
  rw [Bool.not_eq_false] at hstray
  have hboundary := hbefore (isWordEdge_of_isStray hstray)
  simp [isBoundary, isWord_of_isStray hstray] at hboundary

theorem isStray_of_matchesAt_all (h : (NamePattern.ofName name).matchesAt before name.toList = true)
    (hc : name.toList.getLast? = some c) : isStray c = false := by
  obtain ⟨rest, hrest, -, hafter⟩ := matchesAt_ofName_iff.mp h
  obtain rfl : rest = [] := by simpa using hrest
  rw [hc] at hafter
  by_contra hstray
  rw [Bool.not_eq_false] at hstray
  have hboundary := hafter (isWordEdge_of_isStray hstray)
  simp [isBoundary, isWord_of_isStray hstray] at hboundary

/-- A match in a text that ends with a stray character ends before that character. -/
theorem length_lt_of_matchesAt (h : (NamePattern.ofName name).matchesAt before cs = true)
    (hlast : cs.getLast? = some c) (hc : isStray c) : name.toList.length < cs.length := by
  have hbegin : name.toList <+: cs := prefix_of_matchesAt h
  apply lt_of_le_of_ne hbegin.length_le
  intro hlength
  have hall : name.toList = cs := hbegin.eq_of_length hlength
  rw [← hall] at h hlast
  rw [isStray_of_matchesAt_all h hlast] at hc
  cases hc

theorem matchesAt_self (hends : hasStrayEnd name = false) :
    (NamePattern.ofName name).matchesAt none name.toList = true := by
  simp only [hasStrayEnd, Bool.or_eq_false_iff] at hends
  rw [matchesAt_ofName_iff]
  refine ⟨[], by simp, ?_, ?_⟩
  · intro hedge
    cases hc : name.toList.head? with
    | none => simp [hc] at hedge
    | some c => simp_all [isStray, isBoundary]
  · intro hedge
    cases hc : name.toList.getLast? with
    | none => simp [hc] at hedge
    | some c => simp_all [isStray, isBoundary]

end Search

section Replacement

variable {name : String} {columns : List String} {value : List Char → List Char}

/-- No other name that is found in the text of a name is longer. -/
theorem find?_self (hne : name ≠ "") (hcolumn : name ∈ columns) (hends : hasStrayEnd name = false) :
    (namePatterns (orderedNames columns)).find? (·.matchesAt none name.toList) =
      some (.ofName name) := by
  let q (other : String) : Bool := (NamePattern.ofName other).matchesAt none name.toList
  have hunique : ∀ a b, q a = true → q b = true → a.length = b.length → a = b :=
    fun a b => eq_of_matchesAt
  have hfind : (orderedNames columns).find? q = some name := by
    rw [find?_eq_some_iff_longest (pairwise_orderedNames columns) hunique]
    refine ⟨Term.mem_orderedNames.mpr ⟨hcolumn, hne⟩, matchesAt_self hends, ?_⟩
    intro other _ hother
    have hbegin : other.toList <+: name.toList := prefix_of_matchesAt hother
    simpa only [String.length_toList] using hbegin.length_le
  rw [namePatterns, List.find?_map]
  exact congrArg (Option.map NamePattern.ofName) hfind

theorem substituteFrom_self (hne : name ≠ "") (hcolumn : name ∈ columns)
    (hends : hasStrayEnd name = false) :
    substituteFrom (namePatterns (orderedNames columns)) value 0 none name.toList =
      value name.toList := by
  have hfind := find?_self hne hcolumn hends
  rw [← List.append_nil name.toList] at hfind
  have h : substituteFrom _ value 0 none (name.toList ++ []) = _ := substituteFrom_found hne hfind
  rwa [substituteFrom, List.append_nil, List.append_nil] at h

section Stray

variable {names : List String} (hnames : ∀ name ∈ names, name ≠ "") {c : Char} (hc : isStray c)

include hnames hc

theorem mem_substituteFrom_of_head {cs : List Char} :
    c ∈ substituteFrom (namePatterns names) value 0 none (c :: cs) := by
  rw [substituteFrom_kept ?_]
  · exact List.mem_cons_self
  · intro other hother
    by_contra hmatch
    rw [Bool.not_eq_false] at hmatch
    have hhead : other.toList.head? = some c := by
      obtain ⟨d, ds, hd⟩ := exists_toList_eq_cons (hnames other hother)
      have hbegin : other.toList <+: c :: cs := prefix_of_matchesAt hmatch
      rw [hd, List.cons_prefix_cons] at hbegin
      rw [hd, hbegin.1]
      rfl
    rw [isStray_of_matchesAt_none hmatch hhead] at hc
    cases hc

/-- A stray character at the end of a text stays: what is replaced ends before it. -/
theorem mem_substituteFrom_of_last {skip : Nat} {before : Option Char} {cs : List Char}
    (hlast : cs.getLast? = some c) (hskip : skip < cs.length) :
    c ∈ substituteFrom (namePatterns names) value skip before cs := by
  induction cs generalizing skip before with
  | nil => cases hlast
  | cons d cs ih =>
    have hrest : 0 < cs.length → cs.getLast? = some c := by
      intro hpos
      rwa [List.getLast?_cons_of_ne_nil (List.ne_nil_of_length_pos hpos)] at hlast
    cases skip with
    | succ skip =>
      have hlt : skip < cs.length := by simpa using hskip
      exact ih (hrest (by omega)) hlt
    | zero =>
      rw [substituteFrom]
      split
      · rename_i p hp
        have hmatch := List.find?_some hp
        obtain ⟨name, hname, rfl⟩ := List.mem_map.mp (List.mem_of_find?_eq_some hp)
        have hpos : 0 < name.toList.length :=
          List.length_pos_of_ne_nil (by simpa using hnames name hname)
        have hshort : name.toList.length < cs.length + 1 := length_lt_of_matchesAt hmatch hlast hc
        have hlt : (NamePattern.ofName name).name.length - 1 < cs.length := by
          change name.toList.length - 1 < cs.length
          omega
        exact List.mem_append_right _ (ih (hrest (by omega)) hlt)
      · by_cases hpos : 0 < cs.length
        · exact List.mem_cons_of_mem d (ih (hrest hpos) hpos)
        · obtain rfl : cs = [] := by simpa using hpos
          obtain rfl : d = c := by simpa using hlast
          exact List.mem_cons_self

end Stray

end Replacement

theorem Numeral.arithmeticResult_chars (n : Numeral) :
    arithmeticResult n.chars = .ok (.number n.value) := by
  let column : Term := .column ⟨'n', [], by decide⟩
  have hchars : column.replaced .space (fun _ => n) = n.chars := n.chars_word
  have h : arithmeticResult (Blanks.chars [] ++ column.replaced .space (fun _ => n)) = _ :=
    Term.arithmeticResult_replaced (List.cons_ne_nil _ _) []
  rw [hchars, Term.evaluateArithmetic_tree] at h
  exact h

theorem arithmeticResult_numberText {x : Float} (hx : Decimal.isFinite x) :
    arithmeticResult (Decimal.numberText x).toList = .ok (.number (if x == 0 then 0 else x)) := by
  split
  · rename_i hzero
    rw [Decimal.numberText, if_pos hzero]
    decide +kernel
  · rename_i hzero
    obtain ⟨n, hchars, halike⟩ := exists_numeral hx
    have hvalue : n.value = x := halike.resolve_right fun h => hzero h.2
    rw [← hchars, n.arithmeticResult_chars, hvalue]

theorem insertedText_number {x : Float} (hx : Decimal.isFinite x) :
    insertedText (.number x) = Decimal.numberText x := by
  have hnumber : (Cell.number x).number? = some x := by rw [Cell.number?, Decimal.finite?, if_pos hx]
  simp only [insertedText, Cell.isEmpty, hnumber]
  rfl

section Evaluation

variable {name : String} (h : IsBare name) (scope : Scope)

include h

theorem IsBare.evaluateTextual_eq : evaluateTextual scope ("=" ++ name) = arithmeticResult
    (substitute (namePatterns (orderedNames scope.columns)) scope.row name.toList) := by
  rw [evaluateTextual, h.textualBody_eq, h.formOf_eq, Form.result]

theorem IsBare.evaluateTextual_number {x : Float} (hcolumn : name ∈ scope.columns)
    (hcell : scope.row.get name = .number x) (hx : Decimal.isFinite x)
    (hends : hasStrayEnd name = false) :
    evaluateTextual scope ("=" ++ name) = .ok (.number (if x == 0 then 0 else x)) := by
  rw [h.evaluateTextual_eq, substitute, substituteFrom_self h.nonempty hcolumn hends,
    String.ofList_toList, hcell, insertedText_number hx, arithmeticResult_numberText hx]

theorem IsBare.evaluateTextual_stray (hends : hasStrayEnd name = true) :
    ∃ e, evaluateTextual scope ("=" ++ name) = .error e := by
  have hnames : ∀ other ∈ orderedNames scope.columns, other ≠ "" :=
    fun other hother => (Term.mem_orderedNames.mp hother).2
  obtain ⟨c, cs, hname⟩ := exists_toList_eq_cons h.nonempty
  obtain ⟨d, hd, hmem, hblank⟩ : ∃ d, isStray d ∧
      d ∈ substitute (namePatterns (orderedNames scope.columns)) scope.row name.toList ∧
      isBlank d = false := by
    rw [hasStrayEnd, Bool.or_eq_true, Option.any_eq_true, Option.any_eq_true] at hends
    rcases hends with ⟨d, hd, hstray⟩ | ⟨d, hd, hstray⟩
    · refine ⟨d, hstray, ?_, h.trimmed.head d hd⟩
      obtain rfl : c = d := by simpa [hname] using hd
      rw [hname]
      exact mem_substituteFrom_of_head hnames hstray
    · refine ⟨d, hstray, ?_, h.trimmed.last d hd⟩
      exact mem_substituteFrom_of_last hnames hstray hd (by simp [hname])
  rw [h.evaluateTextual_eq, Calculation.arithmeticResult_eq_disallowed hmem
    (isArithmetic_of_isStray hd hblank)]
  exact ⟨_, rfl⟩

end Evaluation

theorem isFinite_unsigned {x : Float} (hx : Decimal.isFinite x) :
    Decimal.isFinite (if x == 0 then 0 else x) := by
  split
  · decide +kernel
  · exact hx

/-- A name without punctuation gives the number of its cell, whatever other columns there are, unless
an end of it asks for a boundary that is not there. -/
theorem evaluate_name (e : Evaluator) (columns : List String) (rows : List Row) (row : Row)
    {name : String} {x : Float} (hmode : e.mode = .compatibility) (hname : IsBare name)
    (hcolumn : name ∈ columns) (hcell : row.get name = .number x) (hx : Decimal.isFinite x) :
    e.evaluate columns rows row ("=" ++ name) =
      if hasStrayEnd name then .error e.marker else .number (if x == 0 then 0 else x) := by
  rw [Evaluator.evaluate, hmode]
  dsimp only
  by_cases hends : hasStrayEnd name = true
  · obtain ⟨err, herr⟩ := hname.evaluateTextual_stray ⟨columns, row, rows, e.today⟩ hends
    rw [herr, if_pos hends]
    rfl
  · rw [Bool.not_eq_true] at hends
    rw [hname.evaluateTextual_number ⟨columns, row, rows, e.today⟩ hcolumn hcell hx hends, hends]
    simp only [Except.toOption, Result.settled, isFinite_unsigned hx]
    rfl

def lengthNames : List String :=
  ["Länge", "Länge ü", "Länge über", "Länge über Puffer", "Länge über Puffer m²"]

def lengthRow : Row :=
  ((Row.fresh "r").set "Länge" (.number 7)).set "Länge über" (.number (-18.25))

theorem length_evaluate_name :
    IsBare "Länge über" ∧ "Länge über" ∈ lengthNames ∧
      lengthRow.get "Länge über" = .number (-18.25) ∧ Decimal.isFinite (-18.25) ∧
      Evaluator.evaluate ⟨.compatibility, "#ERROR", "2026-10-19"⟩ lengthNames [] lengthRow
        "=Länge über" = .number (-18.25) := by
  have hname : IsBare "Länge über" := by decide +kernel
  have hcolumn : "Länge über" ∈ lengthNames := by decide
  have hcell : lengthRow.get "Länge über" = .number (-18.25) := by decide +kernel
  have hfinite : Decimal.isFinite (-18.25) := by decide +kernel
  have hends : hasStrayEnd "Länge über" = false := by decide +kernel
  have h := evaluate_name ⟨.compatibility, "#ERROR", "2026-10-19"⟩ lengthNames [] lengthRow rfl hname
    hcolumn hcell hfinite
  rw [hends] at h
  refine ⟨hname, hcolumn, hcell, hfinite, h.trans ?_⟩
  decide +kernel

/-- The figure in the name of a square metre counts as a numeral but not as a part of a word. -/
theorem squareMetres_not_found :
    IsBare "m²" ∧ hasStrayEnd "m²" = true ∧
      ((Row.fresh "r").set "m²" (.number 3)).get "m²" = .number 3 ∧ Decimal.isFinite 3 ∧
      Evaluator.evaluate ⟨.compatibility, "#ERROR", "2026-10-19"⟩ ["m²"] []
        ((Row.fresh "r").set "m²" (.number 3)) "=m²" = .error "#ERROR" :=
  ⟨by decide +kernel, by decide +kernel, by decide +kernel, by decide +kernel, by decide +kernel⟩

end Spreadsheet.Formula
