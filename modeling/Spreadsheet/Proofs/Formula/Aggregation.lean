import Mathlib
import Spreadsheet.Proofs.Formula.Agreement
import Spreadsheet.Proofs.Formula.Term

namespace Spreadsheet.Formula

open Spreadsheet.Text

/-- The characters other than apostrophes that enclose a part of a formula. -/
def enclosing : List Char :=
  ['(', ')', '[', ']', '"']

/-- What is open behind so many apostrophes. -/
def Nesting.behind (apostrophes : Nat) : Nesting :=
  ⟨0, if Even apostrophes then none else some '\x27'⟩

section Apostrophes

variable {cs : List Char} (h : ∀ c ∈ cs, c ∉ ['(', ')', '"'])

include h

theorem afterAll?_behind (n : Nat) :
    (Nesting.behind n).afterAll? cs = some (.behind (n + cs.count '\x27')) := by
  induction cs generalizing n with
  | nil => rfl
  | cons c cs ih =>
    have hstep : (Nesting.behind n).after? c = some (.behind (n + [c].count '\x27')) := by
      have hc := h c List.mem_cons_self
      simp only [List.mem_cons, List.not_mem_nil, or_false, not_or] at hc
      by_cases heven : Even n <;> by_cases hquote : c = '\x27' <;>
        simp [Nesting.behind, Nesting.after?, nextQuote, isQuote, Nat.even_add_one, heven, hc, hquote]
    rw [Nesting.afterAll?_cons, hstep, Option.bind_some, ih fun d hd => h d (List.mem_cons_of_mem c hd),
      Nat.add_assoc, ← List.count_append, List.singleton_append]

theorem closed_of_even (heven : Even (cs.count '\x27')) :
    Nesting.outside.afterAll? cs = some .outside := by
  have hall := afterAll?_behind h 0
  simpa [Nesting.behind, heven, Nesting.outside] using hall

/-- Behind an odd number of apostrophes the parenthesis of a call is never closed. -/
theorem closed?_eq_none_of_odd (hodd : Odd (cs.count '\x27')) : closed? 0 none (cs ++ [')']) = none := by
  have hall := afterAll?_behind h 0
  have hend := @closed?_append _ _ _ [')'] hall
  rw [← Nat.not_even_iff_odd] at hodd
  simpa [Nesting.behind, hodd, closed?] using hend

end Apostrophes

section Textual

variable {f : String} {kind : Aggregate} {cs : List Char} (hf : Aggregate.ofName? f = some kind)

def callOf (f : String) (cs : List Char) : String :=
  "=" ++ f ++ "(" ++ String.ofList cs ++ ")"

theorem callOf_eq_around (f : String) (cs : List Char) :
    callOf f cs = Layout.around ⟨[], some [], []⟩ (f.toList ++ '(' :: (cs ++ [')'])) := by
  rw [← String.toList_inj]
  simp [callOf, Layout.around, Layout.opening]

include hf

theorem mem_openings_of_ofName? : (f, .aggregate f kind) ∈ openings := by
  unfold Aggregate.ofName? at hf
  split at hf <;> cases hf <;> simp [openings]

theorem exists_identifier_of_ofName? : ∃ i : Identifier, i.name = f := by
  unfold Aggregate.ofName? at hf
  split at hf
  · exact ⟨.ofChars 'S' "UM".toList (by decide), rfl⟩
  · exact ⟨.ofChars 'A' "VERAGE".toList (by decide), rfl⟩
  · exact ⟨.ofChars 'A' "VG".toList (by decide), rfl⟩
  · exact ⟨.ofChars 'C' "OUNT".toList (by decide), rfl⟩
  · exact ⟨.ofChars 'M' "AX".toList (by decide), rfl⟩
  · exact ⟨.ofChars 'M' "IN".toList (by decide), rfl⟩
  · cases hf

theorem textualBody_callOf (h : '(' ∉ cs) (today : String) :
    textualBody today (callOf f cs) = f.toList ++ '(' :: (cs ++ [')']) := by
  have hopening := mem_openings_of_ofName? hf
  have hinner : ¬ "TODAY()".toList <:+: cs ++ [')'] := fun hin => by
    have hmem : '(' ∈ cs ++ [')'] := hin.subset (by decide)
    simp [h] at hmem
  rw [callOf_eq_around, Layout.textualBody_around _ (isBody_opening hopening _)
    (not_today_of_opening hopening hinner)]
  rfl

theorem evaluateTextual_callOf (h : '(' ∉ cs) (scope : Scope) :
    evaluateTextual scope (callOf f cs) =
      aggregateResult scope f kind (f.toList ++ '(' :: (cs ++ [')'])) := by
  have hopening := mem_openings_of_ofName? hf
  obtain ⟨earlier, later, heq⟩ := List.append_of_mem hopening
  have hinner : ∀ o ∈ earlier, ¬ o.1.toList ++ ['('] <:+: cs ++ [')'] := fun o _ hin => by
    have hmem : '(' ∈ cs ++ [')'] := hin.subset (by simp)
    simp [h] at hmem
  have hform := formOf_call heq hinner []
  rw [Blanks.chars_nil, List.nil_append] at hform
  rw [evaluateTextual, textualBody_callOf hf h, hform]
  rfl

theorem evaluateTextual_column (h : '(' ∉ cs) (hclosed : Nesting.outside.afterAll? cs = some .outside)
    (scope : Scope) {name : String} (hname : stripBrackets (stripQuotes cs) = name.toList) :
    evaluateTextual scope (callOf f cs) =
      if scope.hasColumn name then .ok (.number (kind.apply name scope.rows))
      else .error (.unknownColumn f name) := by
  have hargs := argumentsOf_call (mem_openings_of_ofName? hf) hclosed []
  rw [Blanks.chars_nil, List.nil_append] at hargs
  rw [evaluateTextual_callOf hf h, aggregateResult, hargs]
  simp only [bind, Except.bind, hname, String.ofList_toList]
  rfl

theorem evaluateTextual_unclosed (hfree : ∀ c ∈ cs, c ∉ ['(', ')', '"'])
    (hodd : Odd (cs.count '\x27')) (scope : Scope) :
    evaluateTextual scope (callOf f cs) = .error (.unclosedCall f) := by
  have hopen : '(' ∉ cs := fun hc => hfree '(' hc List.mem_cons_self
  have hsplit := splitOnce_append (f.toList ++ ['(']) (cs ++ [')'])
  rw [List.append_assoc, List.singleton_append] at hsplit
  have hargs : argumentsOf f (f.toList ++ '(' :: (cs ++ [')'])) = .error (.unclosedCall f) := by
    rw [argumentsOf, callArguments?, hsplit, Option.bind_some, closed?_eq_none_of_odd hfree hodd]
  rw [evaluateTextual_callOf hf hopen, aggregateResult, hargs]
  rfl

end Textual

section Structured

variable {f name : String} {kind : Aggregate} (hf : Aggregate.ofName? f = some kind)

include hf

theorem evaluate_aggregate (scope : Scope) {e : Expr} (he : e = .column name ∨ e = .text name) :
    evaluate scope (.call f [e]) =
      if scope.hasColumn name then .ok (.number (kind.apply name scope.rows))
      else .error (.unknownColumn name) := by
  have haggregated : e.aggregated scope =
      if scope.hasColumn name then .ok name else .error (.unknownColumn name) := by
    rcases he with rfl | rfl <;> rfl
  rw [evaluate, applyFunction.eq_def, hf]
  simp only [haggregated]
  split <;> rfl

end Structured

def Evaluator.ofColumn (e : Evaluator) (columns : List String) (rows : List Row) (kind : Aggregate)
    (name : String) : Result :=
  if name ∈ columns ∧ Decimal.isFinite (kind.apply name rows) then .number (kind.apply name rows)
  else .error e.marker

theorem Lexeme.isWritten {l : Lexeme} {e : Expr} (h : Derives .primary [l.token] e) :
    Written [.lexeme l] e where
  reads _ hrest := .single fun c hc => (hrest c hc).stops l
  derives := h.comparison

/-- In the text as in the tree of a call, the lexeme is read as the name. -/
structure Lexeme.Spells (l : Lexeme) (name : String) : Prop where
  unopened : '(' ∉ l.chars
  closed : Nesting.outside.afterAll? l.chars = some .outside
  stripped : stripBrackets (stripQuotes l.chars) = name.toList
  derives : ∃ e : Expr, Derives .primary [l.token] e ∧ (e = .column name ∨ e = .text name)

namespace Lexeme.Spells

variable {l : Lexeme} {name f : String} {kind : Aggregate}

theorem evaluateStructured_callOf (h : l.Spells name) (hf : Aggregate.ofName? f = some kind)
    (scope : Scope) : evaluateStructured scope (callOf f l.chars) =
      if scope.hasColumn name then .ok (.number (kind.apply name scope.rows))
      else .error (.evaluation (.unknownColumn name)) := by
  obtain ⟨e, hderives, he⟩ := h.derives
  obtain ⟨i, rfl⟩ := exists_identifier_of_ofName? hf
  have hwritten := Written.call (.cons (Lexeme.isWritten hderives) .nil) i
  have hparse := hwritten.parseFormula_around (isBody_callPieces i _) ⟨[], some [], []⟩
  have hchars : written (callPieces i [[.lexeme l]]) = i.name.toList ++ '(' :: (l.chars ++ [')']) := by
    simp [written_callPieces, join]
  rw [hchars, ← callOf_eq_around] at hparse
  have hvalue := evaluate_aggregate hf scope he
  rw [evaluateStructured, hparse]
  cases hcolumn : scope.hasColumn name with
  | true =>
    rw [hcolumn, if_pos rfl] at hvalue
    simp only [hvalue]
    rfl
  | false =>
    rw [hcolumn, if_neg Bool.false_ne_true] at hvalue
    simp only [hvalue]
    rfl

theorem evaluate_callOf (h : l.Spells name) (hf : Aggregate.ofName? f = some kind) (e : Evaluator)
    (columns : List String) (rows : List Row) (row : Row) :
    e.evaluate columns rows row (callOf f l.chars) = e.ofColumn columns rows kind name := by
  obtain ⟨mode, marker, today⟩ := e
  let scope : Scope := ⟨columns, row, rows, today⟩
  have htextual := evaluateTextual_column hf h.unopened h.closed scope h.stripped
  have hstructured := h.evaluateStructured_callOf hf scope
  have hcolumn : scope.hasColumn name = true ↔ name ∈ columns := List.contains_iff_mem
  rw [Evaluator.ofColumn]
  by_cases hname : name ∈ columns
  · rw [if_pos (hcolumn.mpr hname)] at htextual hstructured
    cases mode <;>
      simp [Evaluator.evaluate, scope, htextual, hstructured, Except.toOption, Result.settled, hname]
  · rw [if_neg (mt hcolumn.mp hname)] at htextual hstructured
    cases mode <;> simp [Evaluator.evaluate, scope, htextual, hstructured, Except.toOption, hname]

end Lexeme.Spells

/-- A name without anything that encloses a part of a formula, apostrophes apart. -/
structure StandsAlone (name : String) : Prop where
  nonempty : name ≠ ""
  trimmed : Trimmed name.toList
  free : ∀ c ∈ name.toList, c ∉ enclosing

theorem standsAlone_iff_all {name : String} :
    (name ≠ "" ∧ Trimmed name.toList ∧ name.toList.all (!enclosing.contains ·) = true) ↔
      StandsAlone name := by
  simp only [List.all_eq_true, Bool.not_eq_true', List.contains_eq_mem, decide_eq_false_iff_not]
  exact ⟨fun h => ⟨h.1, h.2.1, h.2.2⟩, fun h => ⟨h.nonempty, h.trimmed, h.free⟩⟩

instance (name : String) : Decidable (StandsAlone name) :=
  decidable_of_iff _ standsAlone_iff_all

/-- The apostrophes of the name come in pairs, and no two of them enclose it. -/
structure IsPaired (name : String) : Prop where
  even : Even (name.toList.count '\x27')
  unenclosed : ¬ (name.toList.head? = some '\x27' ∧ name.toList.getLast? = some '\x27')

namespace StandsAlone

variable {name : String} (h : StandsAlone name)

include h

theorem not_mem {c : Char} (hc : c ∈ enclosing) : c ∉ name.toList :=
  fun hmem => h.free c hmem hc

theorem free_of_calls : ∀ c ∈ name.toList, c ∉ ['(', ')', '"'] := by
  intro c hc hmem
  refine h.free c hc ?_
  simp only [enclosing, List.mem_cons, List.not_mem_nil, or_false] at hmem ⊢
  tauto

theorem allBlank_eq_false : allBlank name.toList = false := by
  have hne : name.toList ≠ [] := by simpa using h.nonempty
  obtain ⟨c, cs, hname⟩ := List.exists_cons_of_ne_nil hne
  have hc : isBlank c = false := h.trimmed.head c (by simp [hname])
  simp [allBlank, hname, hc]

theorem stripBrackets_eq : stripBrackets name.toList = name.toList := by
  refine stripBrackets_of_head h.trimmed fun c hc => ?_
  rintro rfl
  exact h.not_mem (by decide) (List.mem_of_mem_head? hc)

theorem stripped (hp : IsPaired name) : stripBrackets (stripQuotes name.toList) = name.toList := by
  have hends : ∀ q, isQuote q → ¬ (name.toList.head? = some q ∧ name.toList.getLast? = some q) := by
    intro q hq hends
    simp only [isQuote, Bool.or_eq_true, beq_iff_eq] at hq
    rcases hq with rfl | rfl
    · exact h.not_mem (by decide) (List.mem_of_mem_head? hends.1)
    · exact hp.unenclosed hends
  rw [stripQuotes_of_ends h.trimmed hends, h.stripBrackets_eq]

theorem spells_column (hquote : '\x27' ∉ name.toList) : Lexeme.Spells
    (.column ⟨name.toList, h.allBlank_eq_false, h.not_mem (by decide)⟩) name where
  unopened := by
    have hname : '(' ∉ name.toList := h.not_mem (by decide)
    simp [Lexeme.chars, hname]
  closed := by
    apply closed_of_even
    · simp only [Lexeme.chars, List.forall_mem_cons, List.forall_mem_append]
      exact ⟨by simp, h.free_of_calls, by simp⟩
    · have hcount : name.toList.count '\x27' = 0 := List.count_eq_zero.mpr hquote
      simp [Lexeme.chars, hcount]
  stripped := by
    have hends : ∀ q, isQuote q → ¬ (('[' :: (name.toList ++ [']'])).head? = some q ∧
        ('[' :: (name.toList ++ [']'])).getLast? = some q) := by
      rintro q hq ⟨hhead, -⟩
      obtain rfl : '[' = q := by simpa using hhead
      exact absurd hq (by decide)
    rw [Lexeme.chars, stripQuotes_of_ends (trimmed_bracketed _) hends, stripBrackets_bracketed h.trimmed]
  derives := by
    refine ⟨.column name, ⟨.column name, ?_, rfl⟩, .inl rfl⟩
    simp [Derivation.tokens, Lexeme.token, h.trimmed.trim_eq]

theorem chars_text : (Lexeme.text .double name).chars = '"' :: (name.toList ++ ['"']) :=
  Operand.chars_quoted ⟨name, h.not_mem (by decide)⟩

theorem spells_text : Lexeme.Spells (.text .double name) name where
  unopened := by
    have hname : '(' ∉ name.toList := h.not_mem (by decide)
    rw [h.chars_text]
    simp [hname]
  closed := (Operand.quoted ⟨name, h.not_mem (by decide)⟩).isArgument.closed
  stripped := by
    have hstrip : stripQuotes (Lexeme.text .double name).chars = name.toList :=
      stripQuotes_quoted ⟨name, h.not_mem (by decide)⟩
    rw [hstrip, h.stripBrackets_eq]
  derives := ⟨.text name, ⟨.text name, rfl, rfl⟩, .inr rfl⟩

end StandsAlone

theorem Identifier.spells (i : Identifier) : Lexeme.Spells (.name i) i.name where
  unopened hopen := i.not_mem_scanned '(' hopen (by simp [scanned])
  closed := (Operand.name i).isArgument.closed
  stripped := by
    have hbracket : ∀ c ∈ (Operand.name i).chars.head?, c ≠ '[' := fun c hc =>
      ne_of_isNamePart (i.isNamePart_of_mem c (List.mem_of_mem_head? hc)) (by decide)
    have hstrip := stripBrackets_of_head (Operand.name i).trimmed hbracket
    have hchars : (Operand.name i).chars = i.first :: i.rest := rfl
    rw [hchars] at hstrip
    change stripBrackets (stripQuotes (Operand.name i).chars) = _
    rw [stripQuotes_name, hstrip, Identifier.name, String.toList_ofList]
  derives := ⟨.column i.name, (Operand.name i).derives, .inl rfl⟩

/-- Both modes give the same for a column in brackets, in quotes and, if it is an identifier, as it
is. -/
theorem evaluate_spellings {f name : String} {kind : Aggregate} (hf : Aggregate.ofName? f = some kind)
    (hname : StandsAlone name) (hquote : '\x27' ∉ name.toList) (e : Evaluator)
    (columns : List String) (rows : List Row) (row : Row) (mode : Mode) :
    let evaluated := { e with mode := mode }.evaluate columns rows row
    evaluated ("=" ++ f ++ "([" ++ name ++ "])") = e.ofColumn columns rows kind name ∧
      evaluated ("=" ++ f ++ "(\"" ++ name ++ "\")") = e.ofColumn columns rows kind name ∧
      (isPlainName name →
        evaluated ("=" ++ f ++ "(" ++ name ++ ")") = e.ofColumn columns rows kind name) := by
  have hspelled : ∀ l : Lexeme, l.Spells name →
      { e with mode := mode }.evaluate columns rows row (callOf f l.chars) =
        e.ofColumn columns rows kind name :=
    fun l h => h.evaluate_callOf hf _ columns rows row
  refine ⟨?_, ?_, fun hplain => ?_⟩
  · rw [← hspelled _ (hname.spells_column hquote)]
    congr 1
    simp [← String.toList_inj, callOf, Lexeme.chars]
  · rw [← hspelled _ hname.spells_text]
    congr 1
    simp [← String.toList_inj, callOf, hname.chars_text]
  · obtain ⟨c, cs, hchars, -, -⟩ := exists_first hplain
    obtain rfl : name = String.ofList (c :: cs) := by rw [← hchars, String.ofList_toList]
    have hident := hspelled _ (PlainName.identifier ⟨c, cs, hplain⟩).spells
    exact hident

def unitRow (name : String) (x : Float) : Row :=
  (Row.fresh "r").set name (.number x)

def netRows : List Row :=
  [unitRow "net_2" 3, unitRow "net_2" 5]

theorem average_spellings :
    Aggregate.ofName? "AVG" = some .average ∧ StandsAlone "net_2" ∧ '\x27' ∉ "net_2".toList ∧
      isPlainName "net_2" ∧
      ∀ mode row, let evaluated := Evaluator.evaluate ⟨mode, "#ERROR", ""⟩ ["net_2"] netRows row
        evaluated "=AVG([net_2])" = .number 4 ∧ evaluated "=AVG(\"net_2\")" = .number 4 ∧
          evaluated "=AVG(net_2)" = .number 4 := by
  have hf : Aggregate.ofName? "AVG" = some .average := rfl
  have hname : StandsAlone "net_2" := by decide
  have hquote : '\x27' ∉ "net_2".toList := by decide
  have hplain : isPlainName "net_2" := by decide
  refine ⟨hf, hname, hquote, hplain, fun mode row => ?_⟩
  obtain ⟨hcolumn, htext, hident⟩ :=
    evaluate_spellings hf hname hquote ⟨mode, "#ERROR", ""⟩ ["net_2"] netRows row mode
  have hvalue : Evaluator.ofColumn ⟨mode, "#ERROR", ""⟩ ["net_2"] netRows .average "net_2" =
      .number 4 := by
    cases mode <;> decide +kernel
  exact ⟨hcolumn.trans hvalue, htext.trans hvalue, (hident hplain).trans hvalue⟩

/-- In the text of a call, the apostrophes of a name are quotes. A name in which they come in pairs is
still found. -/
theorem evaluate_paired {f name : String} {kind : Aggregate} (hf : Aggregate.ofName? f = some kind)
    (hname : StandsAlone name) (hpaired : IsPaired name) (e : Evaluator) {columns : List String}
    (hcolumn : name ∈ columns) {rows : List Row} (hfinite : Decimal.isFinite (kind.apply name rows))
    (row : Row) :
    { e with mode := .compatibility }.evaluate columns rows row ("=" ++ f ++ "(" ++ name ++ ")") =
      .number (kind.apply name rows) := by
  let scope : Scope := ⟨columns, row, rows, e.today⟩
  have hclosed := closed_of_even hname.free_of_calls hpaired.even
  have htextual := evaluateTextual_column hf (hname.not_mem (by decide)) hclosed scope
    (hname.stripped hpaired)
  have hknown : scope.hasColumn name = true := List.contains_iff_mem.mpr hcolumn
  rw [if_pos hknown, callOf, String.ofList_toList] at htextual
  simp [Evaluator.evaluate, scope, htextual, Except.toOption, Result.settled, hfinite]

theorem rockAndRoll_evaluate :
    Aggregate.ofName? "SUM" = some .sum ∧ StandsAlone "Rock 'n' Roll, €" ∧
      IsPaired "Rock 'n' Roll, €" ∧ "Rock 'n' Roll, €" ∈ ["Rock 'n' Roll, €"] ∧
      Decimal.isFinite (Aggregate.sum.apply "Rock 'n' Roll, €" [unitRow "Rock 'n' Roll, €" 7]) ∧
      Evaluator.evaluate ⟨.compatibility, "#ERROR", ""⟩ ["Rock 'n' Roll, €"]
        [unitRow "Rock 'n' Roll, €" 7] (unitRow "Rock 'n' Roll, €" 7) "=SUM(Rock 'n' Roll, €)" =
          .number 7 := by
  have hf : Aggregate.ofName? "SUM" = some .sum := rfl
  have hname : StandsAlone "Rock 'n' Roll, €" := by decide
  have hpaired : IsPaired "Rock 'n' Roll, €" := ⟨by decide, by decide⟩
  have hcolumn : "Rock 'n' Roll, €" ∈ ["Rock 'n' Roll, €"] := List.mem_singleton_self _
  have hsum : Aggregate.sum.apply "Rock 'n' Roll, €" [unitRow "Rock 'n' Roll, €" 7] = 7 := by
    decide +kernel
  have hfinite : Decimal.isFinite (Aggregate.sum.apply "Rock 'n' Roll, €"
      [unitRow "Rock 'n' Roll, €" 7]) := by decide +kernel
  have hvalue := evaluate_paired hf hname hpaired ⟨.compatibility, "#ERROR", ""⟩ hcolumn hfinite
    (unitRow "Rock 'n' Roll, €" 7)
  rw [hsum] at hvalue
  exact ⟨hf, hname, hpaired, hcolumn, hfinite, hvalue⟩

/-- An odd number of apostrophes leaves a quote open, in which the call never ends. -/
theorem evaluate_unpaired {f name : String} {kind : Aggregate} (hf : Aggregate.ofName? f = some kind)
    (hname : StandsAlone name) (hodd : Odd (name.toList.count '\x27')) (e : Evaluator)
    (columns : List String) (rows : List Row) (row : Row) :
    { e with mode := .compatibility }.evaluate columns rows row ("=" ++ f ++ "(" ++ name ++ ")") =
      .error e.marker := by
  have htextual := evaluateTextual_unclosed hf hname.free_of_calls hodd ⟨columns, row, rows, e.today⟩
  rw [callOf, String.ofList_toList] at htextual
  simp [Evaluator.evaluate, htextual, Except.toOption]

def enclosedRow : Row :=
  (unitRow "'a'" 2).set "a" (.number 3)

/-- The sum of a column is lost to an open quote, and the apostrophes around a name give the sum of
the other column. -/
theorem apostrophes_evaluate :
    Aggregate.ofName? "SUM" = some .sum ∧
      (StandsAlone "it's" ∧ Decimal.isFinite (Aggregate.sum.apply "it's" [unitRow "it's" 2]) ∧
        Evaluator.evaluate ⟨.compatibility, "#ERROR", ""⟩ ["it's"] [unitRow "it's" 2]
          (unitRow "it's" 2) "=SUM(it's)" = .error "#ERROR") ∧
      StandsAlone "'a'" ∧ Aggregate.sum.apply "'a'" [enclosedRow] = 2 ∧ Decimal.isFinite 2 ∧
        Evaluator.evaluate ⟨.compatibility, "#ERROR", ""⟩ ["'a'", "a"] [enclosedRow] enclosedRow
          "=SUM('a')" = .number 3 := by
  have hf : Aggregate.ofName? "SUM" = some .sum := rfl
  have hname : StandsAlone "it's" := by decide
  have hopen := evaluate_unpaired hf hname (by decide) ⟨.compatibility, "#ERROR", ""⟩ ["it's"]
    [unitRow "it's" 2] (unitRow "it's" 2)
  refine ⟨hf, ⟨hname, by decide +kernel, hopen⟩, ?_⟩
  decide +kernel

end Spreadsheet.Formula
