import Mathlib
import Spreadsheet.Proofs.Formula.Term

namespace Spreadsheet.Formula

open Spreadsheet.Text

def isMark (c : Char) : Bool :=
  isArithmetic c && !isBlank c

theorem isMark_of_numeral {c : Char} (h : c.isDigit ∨ c = '.') : isMark c := by
  have hblank : isBlank c = false := isBlank_of_numeral h
  rcases h with h | rfl
  · simp [isMark, isArithmetic, h, hblank]
  · decide

theorem not_plain_of_isMark {c : Char} (h : isMark c) : isPlain c = false ∨ c.isDigit := by
  by_cases hp : isPlain c
  · refine .inr ?_
    exact ascii_of_lt (p := fun c => isMark c → isPlain c → c.isDigit) (by decide +kernel)
      (lt_of_isPlain hp) h hp
  · exact .inl (by simpa using hp)

theorem isBlank_of_sober {c : Char} (h : isMark c ∨ isPlain c) : isBlank c = false := by
  rcases h with h | h
  · simp only [isMark, Bool.and_eq_true, Bool.not_eq_true'] at h
    exact h.2
  · by_contra hb
    rw [Bool.not_eq_false] at hb
    rw [isPlain_of_isBlank hb] at h
    cases h

theorem ne_of_sober {c d : Char} (h : isMark c ∨ isPlain c) (hd : ¬ (isMark d ∨ isPlain d)) :
    c ≠ d := by
  rintro rfl
  exact hd h

/-- Behind blanks, a text without a quote at its start and without the opening of a function is
arithmetic. -/
theorem formOf_of_head {cs : List Char} (hbody : IsBody cs)
    (hquote : ∀ c ∈ cs.head?, c ≠ '"' ∧ c ≠ '\x27')
    (hopenings : ∀ o ∈ openings, ¬ o.1.toList ++ ['('] <:+: cs) (b : Blanks) :
    formOf (b.chars ++ cs) = .arithmetic := by
  have hfind : (openings.find? fun o => contains (o.1.toList ++ ['(']) (b.chars ++ cs)) = none := by
    rw [List.find?_eq_none]
    intro o ho
    rw [contains_iff_isInfix, isInfix_blanks_append (by simp) (isBlank_opening ho)]
    exact hopenings o ho
  have htrim : trim (b.chars ++ cs) = cs := by
    have htrim : trim (b.chars ++ (cs ++ [])) = cs :=
      hbody.trimmed.trim_blanks b.isBlank_of_mem (by simp)
    rwa [List.append_nil] at htrim
  rw [formOf, hfind]
  simp only [literal?, htrim, between?_of_head fun c hc => (hquote c hc).1,
    between?_of_head fun c hc => (hquote c hc).2]
  rfl

theorem formOf_eq_arithmetic {cs : List Char} (hbody : IsBody cs)
    (hhead : ∀ c ∈ cs.head?, isMark c ∨ isPlain c)
    (hopenings : ∀ o ∈ openings, ¬ o.1.toList ++ ['('] <:+: cs) (b : Blanks) :
    formOf (b.chars ++ cs) = .arithmetic := by
  apply formOf_of_head hbody _ hopenings
  intro c hc
  exact ⟨ne_of_sober (hhead c hc) (by decide), ne_of_sober (hhead c hc) (by decide)⟩

namespace Numeral

variable (n : Numeral)

def chars : List Char :=
  (if n.negative then ['-'] else []) ++ n.literal.chars

@[simp] theorem chars_word : n.word.chars = n.chars := by
  rw [word, chars]
  split <;> simp [Word.chars, Lexeme.chars, Operator.symbol]

end Numeral

theorem Literal.chars_positional {l : Literal} (h : l.exponent = none) :
    ∀ c ∈ l.chars, c.isDigit ∨ c = '.' := by
  intro c hc
  rw [chars, power, h, Option.elim_none, List.append_nil, List.mem_append] at hc
  rcases hc with hc | hc
  · exact .inl (l.whole_isDigit c hc)
  · cases hf : l.fraction with
    | none => simp [point, hf] at hc
    | some ds =>
      rw [point, hf, Option.elim_some, List.mem_cons] at hc
      rcases hc with rfl | hc
      · exact .inr rfl
      · exact .inl (l.fraction_isDigit ds hf c hc)

theorem Literal.chars_ne_nil (l : Literal) : l.chars ≠ [] := by
  obtain ⟨c, cs, hchars, -⟩ := l.exists_chars
  simp [hchars]

theorem Numeral.chars_ne_nil (n : Numeral) : n.chars ≠ [] := by
  simp [chars, n.literal.chars_ne_nil]

theorem Numeral.isMark_of_mem (n : Numeral) : ∀ c ∈ n.chars, isMark c := by
  intro c hc
  rw [chars, List.mem_append] at hc
  rcases hc with hc | hc
  · obtain rfl : c = '-' := by
      split at hc
      · simpa using hc
      · cases hc
    decide
  · exact isMark_of_numeral (Literal.chars_positional n.positional c hc)

namespace Term

theorem IsFixed.chars_eq {w : Word} (h : IsFixed w) :
    (∃ l : Literal, l.exponent = none ∧ w.chars = l.chars) ∨
      ∃ c ∈ ['+', '-', '*', '/', '(', ')'], w.chars = [c] := by
  cases h with
  | @number l h => exact .inl ⟨l, h, by simp [Word.chars, Lexeme.chars]⟩
  | operator _ ha =>
    simp only [arithmetic, List.mem_cons, List.not_mem_nil, or_false] at ha
    rcases ha with rfl | rfl | rfl | rfl <;> exact .inr ⟨_, by decide, rfl⟩
  | openParen => exact .inr ⟨'(', by decide, rfl⟩
  | closeParen => exact .inr ⟨')', by decide, rfl⟩

theorem IsFixed.isMark_of_mem {w : Word} (h : IsFixed w) : ∀ c ∈ w.chars, isMark c := by
  have hmarks : ∀ c ∈ ['+', '-', '*', '/', '(', ')'], isMark c := List.all_eq_true.mp (by decide)
  intro d hd
  rcases h.chars_eq with ⟨l, hl, hw⟩ | ⟨c, hc, hw⟩
  · rw [hw] at hd
    exact isMark_of_numeral (Literal.chars_positional hl d hd)
  · rw [hw, List.mem_singleton] at hd
    exact hmarks d (hd ▸ hc)

theorem IsFixed.chars_ne_nil {w : Word} (h : IsFixed w) : w.chars ≠ [] := by
  rcases h.chars_eq with ⟨l, -, hw⟩ | ⟨c, -, hw⟩
  · rw [hw]
    exact l.chars_ne_nil
  · simp [hw]

theorem IsFixed.length_of_openParen {w : Word} (h : IsFixed w) (hw : '(' ∈ w.chars) :
    w.chars.length = 1 := by
  rcases h.chars_eq with ⟨l, hl, hchars⟩ | ⟨c, -, hchars⟩
  · rw [hchars] at hw
    rcases Literal.chars_positional hl _ hw with hd | hp
    · exact absurd hd (by decide)
    · exact absurd hp (by decide)
  · rw [hchars, List.length_singleton]

/-- The word is not empty, and its characters are marks, digits, letters and underscores. -/
def IsSober (w : Word) : Prop :=
  w.chars ≠ [] ∧ ∀ c ∈ w.chars, isMark c ∨ isPlain c

theorem IsFixed.isSober {w : Word} (h : IsFixed w) : IsSober w :=
  ⟨h.chars_ne_nil, fun c hc => .inl (h.isMark_of_mem c hc)⟩

theorem isBody_of_sober (gap : Blanks) {ws : List Word} (hne : ws ≠ []) (h : ∀ w ∈ ws, IsSober w) :
    IsBody (join gap.chars (ws.map Word.chars)) := by
  refine isBody_join gap.chars (by simp [hne]) fun cs hcs => ?_
  obtain ⟨w, hw, rfl⟩ := List.mem_map.mp hcs
  obtain ⟨hchars, hsober⟩ := h w hw
  refine ⟨hchars, fun c hc => ⟨isBlank_of_sober (hsober c hc), ?_⟩⟩
  exact ne_of_sober (hsober c hc) (by decide)

section Search

variable {gap : Blanks} (t : Term)

theorem isSober_of_mem : ∀ w ∈ t.words PlainName.atom, IsSober w := by
  refine forall_words PlainName.atom (fun w hw => hw.isSober) t fun n _ => ?_
  rw [IsSober, n.chars_atom, PlainName.name, String.toList_ofList]
  exact ⟨List.cons_ne_nil _ _, fun c hc => .inr (n.isPlain_of_mem c hc)⟩

theorem isBody_chars : IsBody (t.chars gap) :=
  isBody_of_sober gap (words_ne_nil _ t) t.isSober_of_mem

/-- No text with a parenthesis inside of a longer word is found in a term. -/
theorem not_isInfix_chars (hgap : gap ≠ []) {needle : List Char}
    (hblank : ∀ c ∈ needle, isBlank c = false) (hparen : '(' ∈ needle) (hlong : 1 < needle.length) :
    ¬ needle <:+: t.chars gap := by
  rw [chars, isInfix_join (List.ne_nil_of_mem hparen) hblank hgap]
  rintro ⟨cs, hcs, hinside⟩
  obtain ⟨w, hw, rfl⟩ := List.mem_map.mp hcs
  have hlength : '(' ∈ w.chars → w.chars.length = 1 := by
    refine forall_words (p := fun w => '(' ∈ w.chars → w.chars.length = 1) PlainName.atom
      (fun w hw => hw.length_of_openParen) t (fun n _ hmem => ?_) w hw
    rw [n.chars_atom, PlainName.name, String.toList_ofList] at hmem
    exact absurd (n.isPlain_of_mem _ hmem) (by decide)
  have hle := hinside.length_le
  have := hlength (hinside.subset hparen)
  omega

theorem isSober_head : ∀ c ∈ (t.chars gap).head?, isMark c ∨ isPlain c := by
  intro c hc
  have hwords : (t.words PlainName.atom).map Word.chars ≠ [] := by simp [words_ne_nil]
  obtain ⟨cs, hcs, hbegin⟩ := exists_prefix_join gap.chars hwords
  obtain ⟨w, hw, rfl⟩ := List.mem_map.mp hcs
  obtain ⟨hne, hchars⟩ := t.isSober_of_mem w hw
  rw [chars, head?_eq_of_starts hbegin hne] at hc
  exact hchars c (List.mem_of_mem_head? hc)

theorem formOf_chars (hgap : gap ≠ []) (b : Blanks) :
    formOf (b.chars ++ t.chars gap) = .arithmetic := by
  refine formOf_eq_arithmetic t.isBody_chars t.isSober_head (fun o ho => ?_) b
  have hlong : 1 < (o.1.toList ++ ['(']).length := by
    revert o
    decide
  exact t.not_isInfix_chars hgap (isBlank_opening ho) (by simp) hlong

end Search

section Replacement

variable {gap : Blanks} {columns : List String} {row : Row} {numeral : PlainName → Numeral}
  {t : Term}

theorem mem_orderedNames {name : String} :
    name ∈ orderedNames columns ↔ name ∈ columns ∧ name ≠ "" := by
  rw [orderedNames, List.mem_mergeSort, List.mem_filter, bne_iff_ne]

def replaced (gap : Blanks) (numeral : PlainName → Numeral) (t : Term) : List Char :=
  join gap.chars ((t.words fun n => (numeral n).atom).map Word.chars)

theorem substitute_chars (hgap : gap ≠ []) (hplain : ∀ name ∈ columns, isPlainName name)
    (hcolumns : ∀ n ∈ t.columns, n.name ∈ columns)
    (htext : ∀ n ∈ t.columns, (numeral n).chars = (insertedText (row.get n.name)).toList)
    (b : Blanks) :
    substitute (namePatterns (orderedNames columns)) row (b.chars ++ t.chars gap) =
      b.chars ++ t.replaced gap numeral := by
  have hnames : ∀ name ∈ orderedNames columns, isPlainName name :=
    fun name hname => hplain name (mem_orderedNames.mp hname).1
  have hwords := forall₂_words PlainName.atom (fun n => (numeral n).atom)
    (r := fun w w' => Replaced (orderedNames columns)
      (fun name => (insertedText (row.get (String.ofList name))).toList) w.chars w'.chars)
    (fun w hw => .other fun c hc => not_plain_of_isMark (hw.isMark_of_mem c hc)) t ?_
  · refine (Becomes.join hnames hgap ?_).substitute_blanks hnames b
    rw [List.forall₂_map_left_iff, List.forall₂_map_right_iff]
    exact hwords
  · intro n hn
    have hne : n.name ≠ "" := by simp [PlainName.name]
    have hreplaced : Replaced (orderedNames columns)
        (fun name => (insertedText (row.get (String.ofList name))).toList) n.name.toList _ :=
      .name (mem_orderedNames.mpr ⟨hcolumns n hn, hne⟩)
    rw [String.ofList_toList, ← htext n hn] at hreplaced
    rw [n.chars_atom]
    simpa [Numeral.atom] using hreplaced

theorem isMark_of_mem_words : ∀ w ∈ t.words fun n => (numeral n).atom,
    w.chars ≠ [] ∧ ∀ c ∈ w.chars, isMark c := by
  refine forall_words _ (fun w hw => ⟨hw.chars_ne_nil, hw.isMark_of_mem⟩) t fun n _ => ?_
  have hchars : (numeral n).atom.word.chars = (numeral n).chars := (numeral n).chars_word
  rw [hchars]
  exact ⟨(numeral n).chars_ne_nil, (numeral n).isMark_of_mem⟩

/-- The result of arithmetic. -/
def textualResult : Outcome Float → Textual Result
  | .error e => .error (.evaluation e)
  | .ok x => .ok (.number x)

/-- What the replacement makes of a term is arithmetic, and it is parsed into the tree with the
numbers. -/
theorem arithmeticResult_replaced (hgap : gap ≠ []) (b : Blanks) :
    arithmeticResult (b.chars ++ t.replaced gap numeral) =
      textualResult (evaluateArithmetic (t.tree fun n => (numeral n).atom)) := by
  have hmarks : ∀ w ∈ t.words fun n => (numeral n).atom, w.chars ≠ [] ∧ ∀ c ∈ w.chars, isMark c :=
    isMark_of_mem_words
  have hbody : IsBody (t.replaced gap numeral) :=
    isBody_of_sober gap (words_ne_nil _ t) fun w hw =>
      ⟨(hmarks w hw).1, fun c hc => .inl ((hmarks w hw).2 c hc)⟩
  have hblank : ∀ c, isBlank c → isArithmetic c := fun c hc => by simp [isArithmetic, hc]
  have hall : ∀ c ∈ b.chars ++ t.replaced gap numeral, isArithmetic c := by
    intro c hc
    rcases List.mem_append.mp hc with hc | hc
    · exact hblank c (b.isBlank_of_mem c hc)
    · rcases mem_join hc with hc | ⟨cs, hcs, hc⟩
      · exact hblank c (gap.isBlank_of_mem c hc)
      · obtain ⟨w, hw, rfl⟩ := List.mem_map.mp hcs
        exact (Bool.and_eq_true_iff.mp ((hmarks w hw).2 c hc)).1
  have hguard : ¬ (b.chars ++ t.replaced gap numeral = [] ∨
      ¬ (b.chars ++ t.replaced gap numeral).all isArithmetic) := by
    simp only [List.append_eq_nil_iff, hbody.nonempty, and_false, false_or, not_not]
    exact List.all_eq_true.mpr hall
  have hparse : parseFormula (String.ofList (b.chars ++ t.replaced gap numeral)) =
      .ok (t.tree fun n => (numeral n).atom) := by
    have hwritten := isWritten (fun n => (numeral n).atom) hgap t
    rw [replaced, ← written_spread] at hbody ⊢
    have := hwritten.parseFormula_around hbody ⟨b, none, []⟩
    simpa [Layout.around, Layout.opening] using this
  rw [arithmeticResult, if_neg hguard, hparse]
  dsimp only
  cases evaluateArithmetic (t.tree fun n => (numeral n).atom) <;> rfl

theorem evaluateTextual_around (scope : Scope) (hgap : gap ≠ [])
    (hplain : ∀ name ∈ scope.columns, isPlainName name)
    (hcolumns : ∀ n ∈ t.columns, n.name ∈ scope.columns)
    (htext : ∀ n ∈ t.columns, (numeral n).chars = (insertedText (scope.row.get n.name)).toList)
    (l : Layout) :
    evaluateTextual scope (l.around (t.chars gap)) =
      textualResult (evaluateArithmetic (t.tree fun n => (numeral n).atom)) := by
  have htoday : ¬ "TODAY()".toList <:+: t.chars gap :=
    t.not_isInfix_chars hgap (isBlank_of_all (by decide)) (by decide) (by decide)
  rw [evaluateTextual, l.textualBody_around t.isBody_chars htoday, t.formOf_chars hgap, Form.result,
    substitute_chars hgap hplain hcolumns htext, arithmeticResult_replaced hgap]

theorem parseFormula_around (hgap : gap ≠ []) (l : Layout) :
    parseFormula (l.around (t.chars gap)) = .ok (t.tree PlainName.atom) := by
  have hwritten := isWritten PlainName.atom hgap t
  have hbody : IsBody (t.chars gap) := t.isBody_chars
  rw [chars, ← written_spread] at hbody ⊢
  exact hwritten.parseFormula_around hbody l

end Replacement

end Term

end Spreadsheet.Formula
