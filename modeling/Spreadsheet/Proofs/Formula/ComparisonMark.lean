import Mathlib
import Spreadsheet.Proofs.Formula.Quotation

namespace Spreadsheet.Formula

namespace Comparison

variable {s : String} {op : Comparison}

theorem ofSymbol?_eq_some_iff : ofSymbol? s = some op ↔ s ∈ op.symbols := by
  constructor
  · intro h
    simpa using List.find?_some h
  · intro h
    have hall : op.symbols.all fun s => ofSymbol? s == some op := by cases op <;> decide
    simpa using List.all_eq_true.mp hall s h

theorem toList_of_mem_symbols (h : s ∈ op.symbols) :
    (∃ c, s.toList = [c]) ∨ ∃ c d, s.toList = [c, d] := by
  have hall : op.symbols.all fun s => s.length == 1 || s.length == 2 := by cases op <;> decide
  have hlength := List.all_eq_true.mp hall s h
  simpa [← String.length_toList, List.length_eq_one_iff, List.length_eq_two] using hlength

theorem exists_mark (h : s ∈ op.symbols) : ∃ c cs, isComparisonMark c ∧ s.toList = c :: cs := by
  have hall : op.symbols.all fun s => s.toList.head?.any isComparisonMark := by cases op <;> decide
  obtain ⟨c, hc, hmark⟩ := (Option.any_eq_true _ _).mp (List.all_eq_true.mp hall s h)
  obtain ⟨cs, hcs⟩ := List.head?_eq_some_iff.mp hc
  exact ⟨c, cs, hmark, hcs⟩

theorem ofSymbol?_eq_none_iff {c : Char} (h : isComparisonMark c) :
    ofSymbol? c.toString = none ↔ c = '!' := by
  simp only [isComparisonMark, Bool.or_eq_true, beq_iff_eq, or_assoc] at h
  rcases h with rfl | rfl | rfl | rfl <;> decide

theorem eq_of_bang_mem_symbols {d : Char} (h : String.ofList ['!', d] ∈ op.symbols) : d = '=' := by
  have hall : op.symbols.all fun s => s.toList.head? != some '!' || s.toList.tail == ['='] := by
    cases op <;> decide
  simpa using List.all_eq_true.mp hall _ h

theorem second_of_mem_symbols {c d : Char} (h : String.ofList [c, d] ∈ op.symbols) :
    d = '=' ∨ d = '>' := by
  have hall : op.symbols.all fun s => s.toList.tail.all fun e => e == '=' || e == '>' := by
    cases op <;> decide
  simpa using List.all_eq_true.mp hall _ h

end Comparison

/-- The first two characters of a text write a comparison. -/
def StartsPair (cs : List Char) : Prop :=
  ∃ c d rest, cs = c :: d :: rest ∧ ∃ op : Comparison, String.ofList [c, d] ∈ op.symbols

section

variable {c d : Char} {cs rest : List Char} {op : Comparison}

theorem spanComparison?_pair (h : String.ofList [c, d] ∈ op.symbols) :
    spanComparison? c (d :: rest) = some (op, rest) := by
  rw [spanComparison?, Comparison.ofSymbol?_eq_some_iff.mpr h]

theorem spanComparison?_single (h : ¬ StartsPair (c :: cs)) :
    spanComparison? c cs = (Comparison.ofSymbol? c.toString).map fun op => (op, cs) := by
  cases cs with
  | nil => rfl
  | cons d rest =>
    have hpair : Comparison.ofSymbol? (String.ofList [c, d]) = none := by
      rw [Option.eq_none_iff_forall_ne_some]
      intro op hop
      exact h ⟨c, d, rest, rfl, op, Comparison.ofSymbol?_eq_some_iff.mp hop⟩
    rw [spanComparison?, hpair]

theorem spanComparison?_eq_some_iff :
    spanComparison? c cs = some (op, rest) ↔
      ∃ symbol ∈ op.symbols, c :: cs = symbol.toList ++ rest ∧
        (StartsPair (c :: cs) → symbol.length = 2) := by
  by_cases h : StartsPair (c :: cs)
  · obtain ⟨_, d, ds, heq, found, hfound⟩ := h
    cases heq
    rw [spanComparison?_pair hfound]
    constructor
    · intro heq
      cases heq
      exact ⟨_, hfound, by simp, fun _ => by simp⟩
    · rintro ⟨symbol, hsymbol, heq, hlength⟩
      obtain ⟨a, ha⟩ | ⟨a, b, hab⟩ := Comparison.toList_of_mem_symbols hsymbol
      · have htwo := hlength ⟨_, _, _, rfl, found, hfound⟩
        rw [← String.length_toList, ha] at htwo
        cases htwo
      · rw [hab] at heq
        cases heq
        rw [← String.ofList_toList (s := symbol), hab] at hsymbol
        have hop := Comparison.ofSymbol?_eq_some_iff.mpr hsymbol
        rw [Comparison.ofSymbol?_eq_some_iff.mpr hfound] at hop
        cases hop
        rfl
  · rw [spanComparison?_single h, Option.map_eq_some_iff]
    constructor
    · rintro ⟨found, hfound, heq⟩
      cases heq
      exact ⟨c.toString, Comparison.ofSymbol?_eq_some_iff.mp hfound, by simp [Char.toString],
        fun hpair => absurd hpair h⟩
    · rintro ⟨symbol, hsymbol, heq, -⟩
      obtain ⟨a, ha⟩ | ⟨a, b, hab⟩ := Comparison.toList_of_mem_symbols hsymbol
      · rw [ha] at heq
        cases heq
        have hsingle : symbol = c.toString := by
          rw [← String.toList_inj, ha, Char.toString, String.toList_singleton]
        rw [hsingle] at hsymbol
        exact ⟨op, Comparison.ofSymbol?_eq_some_iff.mpr hsymbol, rfl⟩
      · rw [hab] at heq
        cases heq
        rw [← String.ofList_toList (s := symbol), hab] at hsymbol
        exact absurd ⟨_, _, _, rfl, op, hsymbol⟩ h

theorem length_of_startsPair {symbol : String} (h : symbol ∈ op.symbols)
    (hrest : ∀ d ∈ rest.head?, d ≠ '=' ∧ d ≠ '>') (hpair : StartsPair (symbol.toList ++ rest)) :
    symbol.length = 2 := by
  obtain ⟨a, ha⟩ | ⟨a, b, hab⟩ := Comparison.toList_of_mem_symbols h
  · obtain ⟨c, d, ds, heq, found, hfound⟩ := hpair
    rw [ha] at heq
    cases heq
    have hd := hrest d rfl
    exact ((Comparison.second_of_mem_symbols hfound).elim hd.1 hd.2).elim
  · rw [← String.length_toList, hab]
    rfl

/-- One of the marks writes a comparison only in front of an equals sign. -/
theorem spanComparison?_eq_none_iff (hc : isComparisonMark c) :
    spanComparison? c cs = none ↔ c = '!' ∧ cs.head? ≠ some '=' := by
  by_cases h : StartsPair (c :: cs)
  · obtain ⟨_, d, ds, heq, op, hop⟩ := h
    cases heq
    have hequals : c = '!' → d = '=' := by
      rintro rfl
      exact Comparison.eq_of_bang_mem_symbols hop
    simpa [spanComparison?_pair hop] using hequals
  · have hpair : c = '!' → cs.head? ≠ some '=' := by
      rintro rfl hhead
      obtain ⟨ds, rfl⟩ := List.head?_eq_some_iff.mp hhead
      exact h ⟨'!', '=', ds, rfl, .unequal, by decide⟩
    rw [spanComparison?_single h, Option.map_eq_none_iff, Comparison.ofSymbol?_eq_none_iff hc]
    exact ⟨fun hbang => ⟨hbang, hpair hbang⟩, And.left⟩

end

/-- A text that closes each quote that it opens, with a quote of the same kind. -/
inductive QuotesClosed : List Char → Prop where
  | nil : QuotesClosed []
  | plain {c : Char} {cs : List Char} (hc : isQuote c = false) (h : QuotesClosed cs) :
      QuotesClosed (c :: cs)
  | quoted {q : Char} {part cs : List Char} (hq : isQuote q) (hpart : q ∉ part)
      (h : QuotesClosed cs) : QuotesClosed (q :: (part ++ q :: cs))

section

variable {q : Char} {part : List Char}

theorem foldl_nextQuote_quoted (h : q ∉ part) (cs : List Char) :
    (part ++ q :: cs).foldl nextQuote (some q) = cs.foldl nextQuote none := by
  induction part with
  | nil => simp [nextQuote]
  | cons c part ih =>
    rw [List.mem_cons, not_or] at h
    have hc : c ≠ q := Ne.symm h.1
    simpa [nextQuote, hc] using ih h.2

/-- Behind such a text no quote is open. Inside of quotes, the text up to the closing one is skipped. -/
theorem quotesClosed_of_foldl (cs : List Char) :
    (cs.foldl nextQuote none = none → QuotesClosed cs) ∧
      ∀ q, cs.foldl nextQuote (some q) = none →
        ∃ part rest, cs = part ++ q :: rest ∧ q ∉ part ∧ QuotesClosed rest := by
  induction cs with
  | nil => exact ⟨fun _ => .nil, fun q h => nomatch h⟩
  | cons c cs ih =>
    constructor
    · intro h
      cases hc : isQuote c with
      | false => exact .plain hc (ih.1 (by simpa [nextQuote, hc] using h))
      | true =>
        obtain ⟨part, rest, rfl, hpart, hrest⟩ := ih.2 c (by simpa [nextQuote, hc] using h)
        exact .quoted hc hpart hrest
    · intro q h
      by_cases hc : c = q
      · subst hc
        exact ⟨[], cs, rfl, List.not_mem_nil, ih.1 (by simpa [nextQuote] using h)⟩
      · obtain ⟨part, rest, rfl, hpart, hrest⟩ := ih.2 q (by simpa [nextQuote, hc] using h)
        exact ⟨c :: part, rest, rfl, by simp [hpart, Ne.symm hc], hrest⟩

theorem quotesClosed_iff {cs : List Char} : QuotesClosed cs ↔ cs.foldl nextQuote none = none := by
  refine ⟨fun h => ?_, (quotesClosed_of_foldl cs).1⟩
  induction h with
  | nil => rfl
  | plain hc _ ih => simpa [nextQuote, hc] using ih
  | quoted hq hpart _ ih => simpa [nextQuote, hq, foldl_nextQuote_quoted hpart] using ih

end

/-- With a quote open in front of it, the text has a comparison mark outside of quotes. -/
def MarkedBehind (quote : Option Char) (cs : List Char) : Prop :=
  ∃ l c r, cs = l ++ c :: r ∧ l.foldl nextQuote quote = none ∧ isComparisonMark c

section

variable {quote : Option Char} {c : Char} {cs : List Char}

theorem markedBehind_cons : MarkedBehind quote (c :: cs) ↔
    (quote = none ∧ isComparisonMark c) ∨ MarkedBehind (nextQuote quote c) cs := by
  constructor
  · rintro ⟨l, d, r, heq, hl, hd⟩
    cases l with
    | nil =>
      cases heq
      exact .inl ⟨hl, hd⟩
    | cons e l =>
      cases heq
      exact .inr ⟨l, d, r, rfl, hl, hd⟩
  · rintro (⟨hquote, hc⟩ | ⟨l, d, r, rfl, hl, hd⟩)
    · exact ⟨[], c, cs, rfl, hquote, hc⟩
    · exact ⟨c :: l, d, r, rfl, hl, hd⟩

theorem unmarked_iff :
    Unmarked quote cs ↔ cs.foldl nextQuote quote = none ∧ ¬ MarkedBehind quote cs := by
  induction cs generalizing quote with
  | nil => simp [Unmarked, MarkedBehind]
  | cons c cs ih =>
    rw [Unmarked, ih, markedBehind_cons, List.foldl_cons]
    tauto

/-- Without a mark there is no cut; otherwise a first mark stands outside of quotes. -/
theorem splitConditionFrom_cases (quote : Option Char) (cs : List Char) :
    (¬ MarkedBehind quote cs ∧ splitConditionFrom quote cs = none) ∨
      ∃ l c r, cs = l ++ c :: r ∧ Unmarked quote l ∧ isComparisonMark c := by
  induction cs generalizing quote with
  | nil => exact .inl ⟨by simp [MarkedBehind], rfl⟩
  | cons c cs ih =>
    by_cases hmark : quote = none ∧ isComparisonMark c
    · exact .inr ⟨[], c, cs, rfl, hmark.1, hmark.2⟩
    · rcases ih (nextQuote quote c) with ⟨hnone, hcut⟩ | ⟨l, d, r, rfl, hl, hd⟩
      · refine .inl ⟨?_, by rw [splitConditionFrom, if_neg hmark, hcut, Option.map_none]⟩
        rw [markedBehind_cons]
        tauto
      · exact .inr ⟨c :: l, d, r, rfl, ⟨hmark, hl⟩, hd⟩

end

def HasMark (cs : List Char) : Prop :=
  ∃ l c r, cs = l ++ c :: r ∧ QuotesClosed l ∧ isComparisonMark c

theorem hasMark_iff {cs : List Char} : HasMark cs ↔ MarkedBehind none cs := by
  simp only [HasMark, MarkedBehind, quotesClosed_iff]

theorem unmarked_none_iff {cs : List Char} : Unmarked none cs ↔ QuotesClosed cs ∧ ¬ HasMark cs := by
  rw [unmarked_iff, quotesClosed_iff, hasMark_iff]

/-- Behind a text that the scan passes over, a mark cuts the condition. -/
theorem splitCondition_mark {l r : List Char} {c : Char} (hl : Unmarked none l)
    (hc : isComparisonMark c) :
    splitCondition (l ++ c :: r) = (spanComparison? c r).map fun p => (l, p.1, p.2) := by
  rw [splitCondition, hl.splitConditionFrom_append, splitConditionFrom, if_pos ⟨rfl, hc⟩,
    Option.map_map]
  simp [Function.comp_def]

theorem splitCondition_symbol {symbol : String} {op : Comparison} {l r : List Char}
    (hl : Unmarked none l) (h : symbol ∈ op.symbols)
    (hlongest : StartsPair (symbol.toList ++ r) → symbol.length = 2) :
    splitCondition (l ++ (symbol.toList ++ r)) = some (l, op, r) := by
  obtain ⟨c, ds, hc, hds⟩ := Comparison.exists_mark h
  have hcut : c :: (ds ++ r) = symbol.toList ++ r := by rw [hds, List.cons_append]
  rw [← hcut] at hlongest ⊢
  rw [splitCondition_mark hl hc, spanComparison?_eq_some_iff.mpr ⟨symbol, h, hcut, hlongest⟩,
    Option.map_some]

section

variable {cs l r : List Char} {op : Comparison}

theorem splitCondition_eq_some_iff :
    splitCondition cs = some (l, op, r) ↔
      ∃ symbol ∈ op.symbols, cs = l ++ (symbol.toList ++ r) ∧ QuotesClosed l ∧ ¬ HasMark l ∧
        (StartsPair (symbol.toList ++ r) → symbol.length = 2) := by
  constructor
  · intro h
    rcases splitConditionFrom_cases none cs with ⟨-, hnone⟩ | ⟨l', c, ds, rfl, hl, hc⟩
    · rw [splitCondition, hnone] at h
      cases h
    · rw [splitCondition_mark hl hc, Option.map_eq_some_iff] at h
      obtain ⟨⟨found, rest⟩, hspan, heq⟩ := h
      cases heq
      obtain ⟨symbol, hsymbol, hcut, hlongest⟩ := spanComparison?_eq_some_iff.mp hspan
      obtain ⟨hclosed, hmark⟩ := unmarked_none_iff.mp hl
      exact ⟨symbol, hsymbol, by rw [hcut], hclosed, hmark, hcut ▸ hlongest⟩
  · rintro ⟨symbol, hsymbol, rfl, hclosed, hmark, hlongest⟩
    exact splitCondition_symbol (unmarked_none_iff.mpr ⟨hclosed, hmark⟩) hsymbol hlongest

theorem splitCondition_eq_none_iff :
    splitCondition cs = none ↔ ¬ HasMark cs ∨
      ∃ l r, cs = l ++ '!' :: r ∧ QuotesClosed l ∧ ¬ HasMark l ∧ r.head? ≠ some '=' := by
  constructor
  · intro h
    rcases splitConditionFrom_cases none cs with ⟨hnone, -⟩ | ⟨l, c, r, rfl, hl, hc⟩
    · exact .inl fun hmark => hnone (hasMark_iff.mp hmark)
    · rw [splitCondition_mark hl hc, Option.map_eq_none_iff] at h
      obtain ⟨rfl, hhead⟩ := (spanComparison?_eq_none_iff hc).mp h
      obtain ⟨hclosed, hmark⟩ := unmarked_none_iff.mp hl
      exact .inr ⟨l, r, rfl, hclosed, hmark, hhead⟩
  · rintro (hnone | ⟨l, r, rfl, hclosed, hmark, hhead⟩)
    · rcases splitConditionFrom_cases none cs with ⟨-, hcut⟩ | ⟨l, c, r, rfl, hl, hc⟩
      · exact hcut
      · exact absurd ⟨l, c, r, rfl, (unmarked_none_iff.mp hl).1, hc⟩ hnone
    · have hc : isComparisonMark '!' := by decide
      rw [splitCondition_mark (unmarked_none_iff.mpr ⟨hclosed, hmark⟩) hc,
        (spanComparison?_eq_none_iff hc).mpr ⟨rfl, hhead⟩, Option.map_none]

end

/-- A condition is cut at its first comparison mark outside of quotes, where the longest symbol is
taken. It is not cut if it has no such mark, or if the first one is a `!` without a `=`. -/
theorem splitCondition_parts (cs : List Char) :
    (∀ l op r, splitCondition cs = some (l, op, r) ↔
      ∃ symbol ∈ op.symbols, cs = l ++ (symbol.toList ++ r) ∧ QuotesClosed l ∧ ¬ HasMark l ∧
        (StartsPair (symbol.toList ++ r) → symbol.length = 2)) ∧
      (splitCondition cs = none ↔ ¬ HasMark cs ∨
        ∃ l r, cs = l ++ '!' :: r ∧ QuotesClosed l ∧ ¬ HasMark l ∧ r.head? ≠ some '=') :=
  ⟨fun _ _ _ => splitCondition_eq_some_iff, splitCondition_eq_none_iff⟩

end Spreadsheet.Formula
