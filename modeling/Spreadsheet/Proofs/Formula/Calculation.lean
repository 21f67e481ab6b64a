import Mathlib
import Spreadsheet.Proofs.Formula.Arithmetic

namespace Spreadsheet.Formula

open Spreadsheet.Text

/-- An arithmetic formula as it is written, the blanks between its lexemes included. -/
inductive Calculation where
  | number (l : Literal) (h : l.exponent = none)
  | column (n : PlainName)
  | group (before : Blanks) (inner : Calculation) (after : Blanks)
  | signed (sign : Sign) (h : sign = .plus ∨ sign = .minus) (gap : Blanks) (operand : Calculation)
  | binary (op : Operator) (h : op ∈ arithmetic) (left : Calculation) (before after : Blanks)
      (right : Calculation)

def separators : List Char :=
  ['+', '-', '*', '/', '(', ')']

/-- The text is made of operators, parentheses and blanks. -/
def IsSeparator (cs : List Char) : Prop :=
  ∀ c ∈ cs, isBlank c ∨ c ∈ separators

namespace IsSeparator

variable {cs ds : List Char}

theorem not_word (h : IsSeparator cs) : ∀ c ∈ cs, isWord c = false := by
  have hmarks : ∀ c ∈ separators, isWord c = false := by simp [separators, isWord]
  exact fun c hc => (h c hc).elim isWord_of_isBlank (hmarks c)

theorem append (h : IsSeparator cs) (h' : IsSeparator ds) : IsSeparator (cs ++ ds) :=
  fun c hc => (List.mem_append.mp hc).elim (h c) (h' c)

theorem mark {c : Char} (h : c ∈ separators) : IsSeparator [c] := by
  intro d hd
  rw [List.mem_singleton] at hd
  exact .inr (hd ▸ h)

theorem blanks (b : Blanks) : IsSeparator b.chars :=
  fun c hc => .inl (b.isBlank_of_mem c hc)

end IsSeparator

/-- No parenthesis is opened right behind a name. -/
def NoCall (cs : List Char) : Prop :=
  cs.IsChain fun c d => d = '(' → isPlain c = false

instance (cs : List Char) : Decidable (NoCall cs) :=
  inferInstanceAs (Decidable (List.IsChain _ _))

namespace NoCall

variable {cs ds : List Char}

theorem of_not_mem (h : '(' ∉ cs) : NoCall cs := by
  induction cs with
  | nil => exact .nil
  | cons c cs ih =>
    rw [List.mem_cons, not_or] at h
    refine List.isChain_cons.mpr ⟨?_, ih h.2⟩
    rintro d hd rfl
    exact absurd (List.mem_of_mem_head? hd) h.2

theorem append (h : NoCall cs) (h' : NoCall ds) (hd : ∀ d ∈ ds.head?, d ≠ '(') :
    NoCall (cs ++ ds) :=
  List.isChain_append.mpr ⟨h, h', fun _ _ d hmem heq => absurd heq (hd d hmem)⟩

theorem separator_append (hcs : IsSeparator cs) (h : NoCall ds) : NoCall (cs ++ ds) := by
  induction cs with
  | nil => exact h
  | cons c cs ih =>
    have hc : isPlain c = false := not_plain_of_not_word (hcs.not_word c List.mem_cons_self)
    exact List.isChain_cons.mpr ⟨fun _ _ _ => hc, ih fun d hd => hcs d (List.mem_cons_of_mem c hd)⟩

theorem not_isInfix {needle : List Char} (h : NoCall cs) (hcall : ¬ NoCall needle) :
    ¬ needle <:+: cs :=
  fun hinside => hcall <| List.IsChain.infix h hinside

theorem not_isInfix_opening (h : NoCall cs) {o : String × Form} (ho : o ∈ openings) :
    ¬ o.1.toList ++ ['('] <:+: cs := by
  have hcalls : ∀ o ∈ openings, ¬ NoCall (o.1.toList ++ ['(']) := by decide
  exact h.not_isInfix (hcalls o ho)

theorem not_isInfix_today (h : NoCall cs) : ¬ "TODAY()".toList <:+: cs :=
  h.not_isInfix (by decide)

end NoCall

/-- The text has sober characters at its ends and no calls. -/
structure IsCompact (cs : List Char) : Prop where
  nonempty : cs ≠ []
  head : ∀ c ∈ cs.head?, isMark c ∨ isPlain c
  last : ∀ c ∈ cs.getLast?, isMark c ∨ isPlain c
  noCall : NoCall cs

namespace IsCompact

variable {cs ds s t : List Char}

theorem of_sober (hne : cs ≠ []) (h : ∀ c ∈ cs, isMark c ∨ isPlain c) (hparen : '(' ∉ cs) :
    IsCompact cs :=
  ⟨hne, fun c hc => h c (List.mem_of_mem_head? hc), fun c hc => h c (List.mem_of_getLast? hc),
    .of_not_mem hparen⟩

theorem enclose (h : IsCompact cs) (hs : IsSeparator s) (ht : '(' ∉ t)
    (hhead : ∀ c ∈ s.head?, isMark c ∨ isPlain c) (hlast : ∀ c ∈ t.getLast?, isMark c ∨ isPlain c) :
    IsCompact (s ++ (cs ++ t)) where
  nonempty := by simp [h.nonempty]
  head := by
    rw [List.head?_append, List.head?_append_of_ne_nil _ h.nonempty]
    intro c hc
    rcases Option.or_eq_some_iff.mp hc with hc | ⟨-, hc⟩
    · exact hhead c hc
    · exact h.head c hc
  last := by
    rw [List.getLast?_append_of_ne_nil _ (by simp [h.nonempty]), List.getLast?_append]
    intro c hc
    rcases Option.or_eq_some_iff.mp hc with hc | ⟨-, hc⟩
    · exact hlast c hc
    · exact h.last c hc
  noCall := by
    refine .separator_append hs (h.noCall.append (.of_not_mem ht) ?_)
    rintro d hd rfl
    exact ht (List.mem_of_mem_head? hd)

theorem separate (h : IsCompact cs) (h' : IsCompact ds) (ht : IsSeparator t) (hparen : '(' ∉ t)
    (hne : t ≠ []) : IsCompact (cs ++ (t ++ ds)) where
  nonempty := by simp [h.nonempty]
  head := by
    rw [List.head?_append_of_ne_nil _ h.nonempty]
    exact h.head
  last := by
    rw [List.getLast?_append_of_ne_nil _ (by simp [hne]),
      List.getLast?_append_of_ne_nil _ h'.nonempty]
    exact h'.last
  noCall := by
    refine h.noCall.append (.separator_append ht h'.noCall) ?_
    rw [List.head?_append_of_ne_nil _ hne]
    rintro d hd rfl
    exact hparen (List.mem_of_mem_head? hd)

theorem isBody (h : IsCompact cs) : IsBody cs where
  nonempty := h.nonempty
  trimmed :=
    ⟨fun c hc => isBlank_of_sober (h.head c hc), fun c hc => isBlank_of_sober (h.last c hc)⟩
  noEquals c hc := ne_of_sober (h.head c hc) (by decide)

theorem formOf_eq (h : IsCompact cs) (b : Blanks) : formOf (b.chars ++ cs) = .arithmetic :=
  formOf_eq_arithmetic h.isBody h.head (fun _ ho => h.noCall.not_isInfix_opening ho) b

end IsCompact

namespace Calculation

def columns : Calculation → List PlainName
  | number _ _ => []
  | column n => [n]
  | group _ inner _ => inner.columns
  | signed _ _ _ operand => operand.columns
  | binary _ _ left _ _ right => left.columns ++ right.columns

def opening (gap : Blanks) : List Char :=
  '(' :: gap.chars

def closing (gap : Blanks) : List Char :=
  gap.chars ++ [')']

def signing (sign : Sign) (gap : Blanks) : List Char :=
  sign.operator.symbol.toList ++ gap.chars

def joining (op : Operator) (before after : Blanks) : List Char :=
  before.chars ++ (op.symbol.toList ++ after.chars)

/-- The characters of a calculation, with a text in the place of each column. -/
def write (text : PlainName → List Char) : Calculation → List Char
  | number l _ => l.chars
  | column n => text n
  | group before inner after => opening before ++ (inner.write text ++ closing after)
  | signed sign _ gap operand => signing sign gap ++ operand.write text
  | binary op _ left before after right =>
    left.write text ++ (joining op before after ++ right.write text)

def chars (c : Calculation) : List Char :=
  c.write fun n => n.name.toList

theorem mem_write {text : PlainName → List Char} {c : Calculation} {n : PlainName} {d : Char}
    (hn : n ∈ c.columns) (hd : d ∈ text n) : d ∈ c.write text := by
  induction c with
  | number l h => cases hn
  | column m =>
    rw [columns, List.mem_singleton] at hn
    rwa [write, ← hn]
  | group before inner after ih =>
    exact List.mem_append_right _ (List.mem_append_left _ (ih hn))
  | signed sign h gap operand ih => exact List.mem_append_right _ (ih hn)
  | binary op h left before after right ihl ihr =>
    rcases List.mem_append.mp hn with hn | hn
    · exact List.mem_append_left _ (ihl hn)
    · exact List.mem_append_right _ (List.mem_append_right _ (ihr hn))

theorem symbol_arithmetic {op : Operator} (h : op ∈ arithmetic) :
    ∃ c ∈ ['+', '-', '*', '/'], op.symbol.toList = [c] := by
  simp only [arithmetic, List.mem_cons, List.not_mem_nil, or_false] at h
  rcases h with rfl | rfl | rfl | rfl <;> exact ⟨_, by decide, rfl⟩

section Separators

variable {op : Operator} {sign : Sign} (before after gap : Blanks)

theorem isSeparator_opening : IsSeparator (opening gap) :=
  (IsSeparator.mark (by decide)).append (.blanks gap)

theorem isSeparator_closing : IsSeparator (closing gap) :=
  (IsSeparator.blanks gap).append (.mark (by decide))

theorem isSeparator_symbol (h : op ∈ arithmetic) : IsSeparator op.symbol.toList := by
  obtain ⟨c, hc, hsymbol⟩ := symbol_arithmetic h
  rw [hsymbol]
  exact .mark (List.mem_append_left ['(', ')'] hc)

theorem isSeparator_signing (h : sign = .plus ∨ sign = .minus) : IsSeparator (signing sign gap) :=
  (isSeparator_symbol (Sign.operator_mem_arithmetic h)).append (.blanks gap)

theorem isSeparator_joining (h : op ∈ arithmetic) : IsSeparator (joining op before after) :=
  (IsSeparator.blanks before).append ((isSeparator_symbol h).append (.blanks after))

theorem openParen_not_mem_blanks (b : Blanks) : '(' ∉ b.chars := by
  intro h
  have hblank : isBlank '(' := b.isBlank_of_mem _ h
  exact absurd hblank (by decide)

theorem openParen_not_mem_closing : '(' ∉ closing gap := by
  simp [closing, openParen_not_mem_blanks gap]

theorem openParen_not_mem_joining (h : op ∈ arithmetic) : '(' ∉ joining op before after := by
  obtain ⟨c, hc, hsymbol⟩ := symbol_arithmetic h
  have hne : '(' ≠ c := by
    rintro rfl
    exact absurd hc (by decide)
  simp [joining, hsymbol, openParen_not_mem_blanks, hne]

theorem joining_ne_nil (h : op ∈ arithmetic) : joining op before after ≠ [] := by
  obtain ⟨c, -, hsymbol⟩ := symbol_arithmetic h
  simp [joining, hsymbol]

end Separators

section Replacement

variable {columns : List String} {row : Row}

/-- What comes to stand in the place of a name: its cell, or the name itself if no column has it. -/
def inserted (columns : List String) (row : Row) (n : PlainName) : List Char :=
  if n.name ∈ columns then (insertedText (row.get n.name)).toList else n.name.toList

theorem becomes_column {names : List String} {value : List Char → List Char}
    (h : ∀ name ∈ names, isPlainName name) (n : PlainName) :
    Becomes names value n.name.toList
      (if n.name ∈ names then value n.name.toList else n.name.toList) := by
  split
  · rename_i hmem
    exact Replaced.becomes h (.name hmem)
  · rename_i hmem
    have hne : n.name ≠ "" := by simp [PlainName.name]
    intro before rest hbefore hr
    refine substituteFrom_unknown h (isPlain_of_mem n.plain) (by simpa using hne) ?_ hbefore hr
    intro name hname heq
    rw [String.toList_inj] at heq
    exact hmem (heq ▸ hname)

theorem becomes_chars {names : List String} {value : List Char → List Char}
    (h : ∀ name ∈ names, isPlainName name) (c : Calculation) :
    Becomes names value c.chars
      (c.write fun n => if n.name ∈ names then value n.name.toList else n.name.toList) := by
  rw [chars]
  induction c with
  | number l hl =>
    refine Replaced.becomes h (.other fun d hd => ?_)
    exact not_plain_of_isMark (isMark_of_numeral (Literal.chars_positional hl d hd))
  | column n => exact becomes_column h n
  | group before inner after ih =>
    exact ih.enclose h (isSeparator_opening before).not_word (isSeparator_closing after).not_word
  | signed sign hs gap operand ih =>
    have henclosed := ih.enclose h (isSeparator_signing gap hs).not_word (t := []) (by simp)
    simp only [List.append_nil] at henclosed
    exact henclosed
  | binary op hop left before after right ihl ihr =>
    exact ihl.separate h (isSeparator_joining before after hop).not_word
      (joining_ne_nil before after hop) ihr

theorem substitute_chars (hplain : ∀ name ∈ columns, isPlainName name) (c : Calculation)
    (b : Blanks) :
    substitute (namePatterns (orderedNames columns)) row (b.chars ++ c.chars) =
      b.chars ++ c.write (inserted columns row) := by
  have hnames : ∀ name ∈ orderedNames columns, isPlainName name :=
    fun name hname => hplain name (Term.mem_orderedNames.mp hname).1
  have hbecomes : substitute (namePatterns (orderedNames columns)) row (b.chars ++ c.chars) = _ :=
    (becomes_chars hnames c).substitute_blanks hnames b
  have hinserted : (fun n : PlainName => if n.name ∈ orderedNames columns then
      (insertedText (row.get (String.ofList n.name.toList))).toList else n.name.toList) =
      inserted columns row := by
    funext n
    have hne : n.name ≠ "" := by simp [PlainName.name]
    simp [inserted, Term.mem_orderedNames, hne]
  rw [hbecomes, hinserted]

end Replacement

theorem isCompact_chars (c : Calculation) : IsCompact c.chars := by
  rw [chars]
  induction c with
  | number l h =>
    have hnumeral : ∀ c ∈ l.chars, c.isDigit ∨ c = '.' := Literal.chars_positional h
    have hmark : ∀ c ∈ l.chars, isMark c := fun c hc => isMark_of_numeral (hnumeral c hc)
    refine .of_sober l.chars_ne_nil (fun c hc => .inl (hmark c hc)) fun hc => ?_
    exact absurd (hnumeral _ hc) (by decide)
  | column n =>
    have hplain : ∀ c ∈ n.name.toList, isPlain c := isPlain_of_mem n.plain
    have hne : n.name.toList ≠ [] := by simp [PlainName.name]
    exact .of_sober hne (fun c hc => .inr (hplain c hc)) fun hc => absurd (hplain _ hc) (by decide)
  | group before inner after ih =>
    refine ih.enclose (isSeparator_opening before) (openParen_not_mem_closing after) ?_ ?_
    · intro c hc
      obtain rfl : '(' = c := by simpa [opening] using hc
      decide
    · intro c hc
      obtain rfl : ')' = c := by simpa [closing] using hc
      decide
  | signed sign h gap operand ih =>
    have hmarks : ∀ c ∈ ['+', '-', '*', '/'], isMark c := List.all_eq_true.mp (by decide)
    obtain ⟨d, hd, hsymbol⟩ := symbol_arithmetic (Sign.operator_mem_arithmetic h)
    have hhead : ∀ c ∈ (signing sign gap).head?, isMark c ∨ isPlain c := by
      intro c hc
      obtain rfl : d = c := by simpa [signing, hsymbol] using hc
      exact .inl (hmarks d hd)
    have henclosed := ih.enclose (isSeparator_signing gap h) (t := []) (by simp) hhead (by simp)
    simp only [List.append_nil] at henclosed
    exact henclosed
  | binary op h left before after right ihl ihr =>
    exact ihl.separate ihr (isSeparator_joining before after h)
      (openParen_not_mem_joining before after h) (joining_ne_nil before after h)

theorem arithmeticResult_eq_disallowed {cs : List Char} {d : Char} (hd : d ∈ cs)
    (hforeign : isArithmetic d = false) :
    arithmeticResult cs = .error (.disallowed (String.ofList cs)) := by
  have hall : ¬ cs.all isArithmetic := by
    intro hall
    rw [List.all_eq_true.mp hall d hd] at hforeign
    cases hforeign
  rw [arithmeticResult, if_pos (.inr hall)]

theorem insertedText_of_not_number {v : Cell} (h : ¬ CountsAsNumber v) :
    insertedText v = v.toText := by
  rw [CountsAsNumber, not_or] at h
  have hnone : v.number? = none := by simpa using h.2
  rw [insertedText, if_neg h.1, hnone]

theorem evaluateTextual_around (scope : Scope) (hplain : ∀ name ∈ scope.columns, isPlainName name)
    (c : Calculation) (l : Layout) :
    evaluateTextual scope (l.around c.chars) =
      arithmeticResult (l.gap.chars ++ c.write (inserted scope.columns scope.row)) := by
  have hcompact := c.isCompact_chars
  rw [evaluateTextual, l.textualBody_around hcompact.isBody hcompact.noCall.not_isInfix_today,
    hcompact.formOf_eq, Form.result, substitute_chars hplain]

/-- The text is arithmetic with the value `x`. -/
structure HasValue (cs : List Char) (x : Float) : Prop where
  admitted : ∀ d ∈ cs, isArithmetic d
  computed : ∃ tree, parseFormula (String.ofList cs) = .ok tree ∧ evaluateArithmetic tree = .ok x
  finite : Decimal.isFinite x

theorem arithmeticResult_eq_number_iff {cs : List Char} {x : Float} :
    arithmeticResult cs = .ok (.number x) ↔ (∀ d ∈ cs, isArithmetic d) ∧
      ∃ tree, parseFormula (String.ofList cs) = .ok tree ∧ evaluateArithmetic tree = .ok x := by
  rw [arithmeticResult]
  split
  · rename_i hrefused
    refine iff_of_false (fun h => by cases h) ?_
    rintro ⟨hall, tree, hparse, -⟩
    rcases hrefused with rfl | hforeign
    · have hempty : (parseFormula (String.ofList [])).toOption = none := by decide +kernel
      rw [hparse] at hempty
      cases hempty
    · exact hforeign (List.all_eq_true.mpr hall)
  · rename_i hadmitted
    rw [not_or, not_not, List.all_eq_true] at hadmitted
    cases parseFormula (String.ofList cs) with
    | error err => simp
    | ok tree =>
      cases hvalue : evaluateArithmetic tree with
      | error err => simp [hvalue]
      | ok y => simpa [hvalue] using fun _ => hadmitted.2

theorem eq_number_of_arithmeticResult {cs : List Char} {r : Result} (h : arithmeticResult cs = .ok r) :
    ∃ x, r = .number x := by
  unfold arithmeticResult at h
  split at h
  · cases h
  · split at h
    · cases h
    · split at h
      · cases h
      · exact ⟨_, (Except.ok.inj h).symm⟩

section Evaluation

variable {e : Evaluator} {columns : List String} (hmode : e.mode = .compatibility)
  (hplain : ∀ name ∈ columns, isPlainName name) (c : Calculation) (l : Layout) (rows : List Row)
  (row : Row)

include hmode hplain

theorem evaluate_around :
    e.evaluate columns rows row (l.around c.chars) =
      match arithmeticResult (l.gap.chars ++ c.write (inserted columns row)) with
      | .ok r => r.settled e.marker
      | .error _ => .error e.marker := by
  rw [Evaluator.evaluate, hmode]
  dsimp only
  rw [evaluateTextual_around ⟨columns, row, rows, e.today⟩ hplain c l]
  cases arithmeticResult (l.gap.chars ++ c.write (inserted columns row)) <;> rfl

theorem evaluate_of_hasValue {x : Float}
    (h : HasValue (l.gap.chars ++ c.write (inserted columns row)) x) :
    e.evaluate columns rows row (l.around c.chars) = .number x := by
  rw [evaluate_around hmode hplain, arithmeticResult_eq_number_iff.mpr ⟨h.admitted, h.computed⟩]
  exact if_pos h.finite

theorem evaluate_of_no_value
    (h : ¬ ∃ x, HasValue (l.gap.chars ++ c.write (inserted columns row)) x) :
    e.evaluate columns rows row (l.around c.chars) = .error e.marker := by
  rw [evaluate_around hmode hplain]
  cases hresult : arithmeticResult (l.gap.chars ++ c.write (inserted columns row)) with
  | error err => rfl
  | ok r =>
    obtain ⟨x, rfl⟩ := eq_number_of_arithmeticResult hresult
    obtain ⟨hadmitted, hcomputed⟩ := arithmeticResult_eq_number_iff.mp hresult
    exact if_neg fun hfinite => h ⟨x, hadmitted, hcomputed, hfinite⟩

end Evaluation

/-- In compatibility mode, a calculation has a number exactly if what the texts of the cells make of
it is arithmetic; otherwise it has the marker. The text of a cell that is no number stands there as
it is, so that one foreign character in it suffices for the marker. -/
theorem evaluate_eq_number_iff (c : Calculation) (l : Layout) (e : Evaluator) (columns : List String)
    (rows : List Row) (row : Row) (hmode : e.mode = .compatibility)
    (hplain : ∀ name ∈ columns, isPlainName name) :
    let result := e.evaluate columns rows row (l.around c.chars)
    let spliced := l.gap.chars ++ c.write (inserted columns row)
    (∀ x, result = .number x ↔ HasValue spliced x) ∧
      (result = .error e.marker ↔ ¬ ∃ x, HasValue spliced x) ∧
      ∀ n ∈ c.columns, n.name ∈ columns → ¬ CountsAsNumber (row.get n.name) →
        inserted columns row n = (row.get n.name).toText.toList ∧
          ((∃ d ∈ (row.get n.name).toText.toList, isArithmetic d = false) →
            result = .error e.marker) := by
  intro result spliced
  have hnumber : ∀ {x}, HasValue spliced x → result = .number x :=
    evaluate_of_hasValue hmode hplain c l rows row
  have herror : (¬ ∃ x, HasValue spliced x) → result = .error e.marker :=
    evaluate_of_no_value hmode hplain c l rows row
  refine ⟨fun x => ⟨fun h => ?_, hnumber⟩, ⟨?_, herror⟩, fun n hn hcolumn hcell => ?_⟩
  · by_cases hvalue : ∃ y, HasValue spliced y
    · obtain ⟨y, hy⟩ := hvalue
      obtain rfl : y = x := Result.number.inj ((hnumber hy).symm.trans h)
      exact hy
    · cases h.symm.trans (herror hvalue)
  · rintro h ⟨x, hx⟩
    cases h.symm.trans (hnumber hx)
  · have hinserted : inserted columns row n = (row.get n.name).toText.toList := by
      rw [inserted, if_pos hcolumn, insertedText_of_not_number hcell]
    refine ⟨hinserted, fun hforeign => herror ?_⟩
    obtain ⟨d, hd, hforeign⟩ := hforeign
    rw [← hinserted] at hd
    rintro ⟨x, h⟩
    rw [h.admitted d (List.mem_append_right _ (mem_write hn hd))] at hforeign
    cases hforeign

theorem times_mem_arithmetic : Operator.times ∈ arithmetic := by decide

theorem plus_mem_arithmetic : Operator.plus ∈ arithmetic := by decide

theorem one_isDigit : ∀ c ∈ ['1'], c.isDigit := by simp

def sample : Calculation :=
  let two : Literal := ⟨['2'], none, none, by simp, by simp, by simp⟩
  let one : Literal := ⟨['1'], none, none, one_isDigit, by simp, by simp⟩
  let qty : PlainName := ⟨'q', ['t', 'y'], by decide⟩
  .binary .times times_mem_arithmetic (.number two rfl) [] []
    (.group [] (.binary .plus plus_mem_arithmetic (.column qty) [] [] (.number one rfl)) [])

def sampleLayout : Layout :=
  ⟨[], some [], []⟩

def sampleRow (s : String) : Row :=
  (Row.fresh "r").set "qty" (.text s)

/-- The one text has a foreign character. The other one has none, and stands for two numbers in a
row. -/
theorem sample_eq_error :
    (∀ name ∈ ["qty"], isPlainName name) ∧ sampleLayout.around sample.chars = "=2*(qty+1)" ∧
      (¬ CountsAsNumber ((sampleRow "12:30").get "qty") ∧
        Evaluator.evaluate ⟨.compatibility, "#ERROR", "2026-10-19"⟩ ["qty"] [] (sampleRow "12:30")
          "=2*(qty+1)" = .error "#ERROR") ∧
      ¬ CountsAsNumber ((sampleRow "030 1234").get "qty") ∧
        sample.write (inserted ["qty"] (sampleRow "030 1234")) = "2*(030 1234+1)".toList ∧
        Evaluator.evaluate ⟨.compatibility, "#ERROR", "2026-10-19"⟩ ["qty"] [] (sampleRow "030 1234")
          "=2*(qty+1)" = .error "#ERROR" := by
  have hplain : ∀ name ∈ ["qty"], isPlainName name := List.all_eq_true.mp (by decide)
  have hrender : sampleLayout.around sample.chars = "=2*(qty+1)" := by rfl
  have hclock : ¬ CountsAsNumber ((sampleRow "12:30").get "qty") := by decide +kernel
  have hphone : ¬ CountsAsNumber ((sampleRow "030 1234").get "qty") := by decide +kernel
  have hspliced : sample.write (inserted ["qty"] (sampleRow "030 1234")) =
      "2*(030 1234+1)".toList := by decide +kernel
  have hrow := fun s => evaluate_eq_number_iff sample sampleLayout
    ⟨.compatibility, "#ERROR", "2026-10-19"⟩ ["qty"] [] (sampleRow s) rfl hplain
  rw [hrender] at hrow
  refine ⟨hplain, hrender, ⟨hclock, ?_⟩, hphone, hspliced, ?_⟩
  · obtain ⟨-, -, hforeign⟩ := hrow "12:30"
    have hcolumn : (⟨'q', ['t', 'y'], by decide⟩ : PlainName) ∈ sample.columns := by
      simp [sample, columns]
    exact (hforeign _ hcolumn (by decide) hclock).2 ⟨':', by decide, by decide⟩
  · obtain ⟨-, herror, -⟩ := hrow "030 1234"
    refine herror.mpr ?_
    rintro ⟨x, h⟩
    obtain ⟨tree, hparse, -⟩ := h.computed
    have hnone : (parseFormula "2*(030 1234+1)").toOption = none := by decide +kernel
    have htext : String.ofList (sampleLayout.gap.chars ++ "2*(030 1234+1)".toList) =
        "2*(030 1234+1)" := by decide
    rw [hspliced, htext] at hparse
    rw [hparse] at hnone
    cases hnone

/-- The text of a date is made of the characters of arithmetic, and is taken for two differences. -/
theorem date_evaluated :
    (∀ name ∈ ["qty"], isPlainName name) ∧ sampleLayout.around sample.chars = "=2*(qty+1)" ∧
      sample.columns.map PlainName.name = ["qty"] ∧
      (sampleRow "2024-01-15").get "qty" = .text "2024-01-15" ∧
      ¬ CountsAsNumber ((sampleRow "2024-01-15").get "qty") ∧
      Evaluator.evaluate ⟨.compatibility, "#ERROR", "2026-10-19"⟩ ["qty"] []
        (sampleRow "2024-01-15") "=2*(qty+1)" = .number 4018 := by
  have hplain : ∀ name ∈ ["qty"], isPlainName name := List.all_eq_true.mp (by decide)
  have hrender : sampleLayout.around sample.chars = "=2*(qty+1)" := by rfl
  exact ⟨hplain, hrender, by rfl, by rfl, by decide +kernel, by decide +kernel⟩

end Calculation

end Spreadsheet.Formula
