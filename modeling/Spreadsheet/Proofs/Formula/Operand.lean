import Mathlib
import Spreadsheet.Formula.Evaluator
import Spreadsheet.Proofs.Formula.Call

namespace Spreadsheet.Formula

open Spreadsheet.Text

theorem isNamePart_of_isNameStart {c : Char} (h : isNameStart c) : isNamePart c := by
  simp only [isNameStart, Bool.or_eq_true] at h
  simp only [isNamePart, isAlphanumeric, Bool.or_eq_true]
  tauto

theorem ne_of_isNamePart {c d : Char} (h : isNamePart c) (hd : isNamePart d = false) : c ≠ d := by
  rintro rfl
  rw [h] at hd
  cases hd

def Identifier.ofChars (c : Char) (cs : List Char) (h : isNameStart c ∧ cs.all isNamePart) :
    Identifier :=
  ⟨c, cs, h.1, List.all_eq_true.mp h.2⟩

theorem Identifier.isNamePart_of_mem (i : Identifier) : ∀ c ∈ i.first :: i.rest, isNamePart c := by
  intro c hc
  rcases List.mem_cons.mp hc with rfl | hc
  · exact isNamePart_of_isNameStart i.isStart
  · exact i.isPart c hc

theorem Identifier.not_mem_scanned (i : Identifier) : ∀ c ∈ i.first :: i.rest, c ∉ scanned := by
  intro c hc hmem
  have hscanned : ∀ d ∈ scanned, isNamePart d = false := by
    simp [scanned, isNamePart, isAlphanumeric, isLetter, isNumeric]
  exact ne_of_isNamePart (i.isNamePart_of_mem c hc) (hscanned c hmem) rfl

structure Quoted where
  text : String
  plain : '"' ∉ text.toList

inductive Operand where
  | name (i : Identifier)
  | quoted (s : Quoted)

namespace Operand

def lexeme : Operand → Lexeme
  | name i => .name i
  | quoted s => .text .double s.text

def expr : Operand → Expr
  | name i => .column i.name
  | quoted s => .text s.text

def chars (o : Operand) : List Char :=
  o.lexeme.chars

theorem chars_quoted (s : Quoted) :
    (quoted s).chars = '"' :: (s.text.toList ++ ['"']) := by
  have hdoubled : ∀ cs : List Char, '"' ∉ cs → doubled '"' cs = cs := by
    intro cs h
    induction cs with
    | nil => rfl
    | cons c cs ih =>
      rw [List.mem_cons, not_or] at h
      have hcs := ih h.2
      have hc : c ≠ '"' := Ne.symm h.1
      simp only [doubled] at hcs
      simp [doubled, hc, hcs]
  simp [chars, lexeme, Lexeme.chars, Quote.char, hdoubled _ s.plain]

theorem isArgument (o : Operand) : IsArgument o.chars := by
  cases o with
  | name i => exact .of_inert fun c hc => isInert_of_not_mem_scanned (i.not_mem_scanned c hc)
  | quoted s =>
    rw [chars_quoted]
    exact .quoted (by decide) s.plain

theorem unmarked (o : Operand) : Unmarked none o.chars := by
  cases o with
  | name i => exact .of_not_mem_scanned i.not_mem_scanned
  | quoted s =>
    rw [chars_quoted]
    exact .quoted (by decide) s.plain

theorem exists_head (o : Operand) : ∃ c cs, o.chars = c :: cs ∧ (isNameStart c ∨ c = '"') := by
  cases o with
  | name i => exact ⟨i.first, i.rest, rfl, .inl i.isStart⟩
  | quoted s => exact ⟨'"', _, chars_quoted s, .inr rfl⟩

theorem chars_ne_nil (o : Operand) : o.chars ≠ [] := by
  obtain ⟨c, cs, hchars, -⟩ := o.exists_head
  rw [hchars]
  exact List.cons_ne_nil c cs

theorem trimmed (o : Operand) : Trimmed o.chars := by
  cases o with
  | name i =>
    have hpart : ∀ c ∈ (name i).chars, isBlank c = false := by
      intro c hc
      by_contra hb
      rw [Bool.not_eq_false] at hb
      have := Delimits.isNamePart (.inl hb)
      rw [i.isNamePart_of_mem c hc] at this
      cases this
    exact ⟨fun c hc => hpart c (List.mem_of_mem_head? hc),
      fun c hc => hpart c (List.mem_of_getLast? hc)⟩
  | quoted s =>
    have hblank : isBlank '"' = false := by decide
    rw [chars_quoted, ← List.cons_append]
    refine ⟨by simp [hblank], ?_⟩
    rw [List.getLast?_concat]
    simp [hblank]

theorem stops {c : Char} (h : Delimits c ∨ isComparisonMark c) (o : Operand) : o.lexeme.Stops c := by
  rcases h with h | h
  · exact h.stops _
  · simp only [isComparisonMark, Bool.or_eq_true, beq_iff_eq] at h
    cases o with
    | name i =>
      change isNamePart c = false
      rcases h with ((rfl | rfl) | rfl) | rfl <;> decide
    | quoted s =>
      change c ≠ '"'
      rcases h with ((rfl | rfl) | rfl) | rfl <;> decide

def cell? (scope : Scope) : Operand → Option Cell
  | name i => if scope.hasColumn i.name then some (scope.row.get i.name) else none
  | quoted _ => none

/-- The text of an operand, where cells are shown in a given way. -/
def textIn (shown : Cell → String) (scope : Scope) : Operand → String
  | name i => if scope.hasColumn i.name then shown (scope.row.get i.name) else i.name
  | quoted s => s.text

theorem textIn_congr {shown shown' : Cell → String} {scope : Scope} {o : Operand}
    (h : ∀ cell ∈ o.cell? scope, shown cell = shown' cell) :
    o.textIn shown scope = o.textIn shown' scope := by
  cases o with
  | name i =>
    rw [textIn, textIn]
    split
    · rename_i hcolumn
      exact h _ (by simp [cell?, hcolumn])
    · rfl
  | quoted s => rfl

end Operand

theorem stripBrackets_of_head {cs : List Char} (h : Trimmed cs) (hb : ∀ c ∈ cs.head?, c ≠ '[') :
    stripBrackets cs = cs := by
  rw [stripBrackets, h.trim_eq]
  cases cs with
  | nil => rfl
  | cons c cs =>
    have hc : c ≠ '[' := hb c rfl
    simp [hc]

theorem trimmed_bracketed (cs : List Char) : Trimmed ('[' :: (cs ++ [']'])) := by
  have hopen : isBlank '[' = false := by decide
  have hclose : isBlank ']' = false := by decide
  rw [← List.cons_append]
  refine ⟨by simp [hopen], ?_⟩
  rw [List.getLast?_concat]
  simp [hclose]

theorem stripBrackets_bracketed {cs : List Char} (h : Trimmed cs) :
    stripBrackets ('[' :: (cs ++ [']'])) = cs := by
  rw [stripBrackets, (trimmed_bracketed cs).trim_eq]
  change (if (cs ++ [']']).getLast? = some ']' then trim (cs ++ [']']).dropLast else _) = cs
  rw [List.getLast?_concat, if_pos rfl, List.dropLast_concat, h.trim_eq]

theorem between?_eq_none {q : Char} {cs : List Char}
    (h : ¬ (cs.head? = some q ∧ cs.getLast? = some q)) : between? q cs = none := by
  match cs with
  | [] => rfl
  | [_] => rfl
  | c :: d :: cs =>
    have hends : ¬ (c = q ∧ (d :: cs).getLast? = some q) := by simpa using h
    rw [between?, if_neg hends]

theorem between?_of_head {q : Char} {cs : List Char} (h : ∀ c ∈ cs.head?, c ≠ q) :
    between? q cs = none :=
  between?_eq_none fun hends => h q hends.1 rfl

/-- No quote stands at both ends. -/
theorem stripQuotes_of_ends {cs : List Char} (h : Trimmed cs)
    (hends : ∀ q, isQuote q → ¬ (cs.head? = some q ∧ cs.getLast? = some q)) : stripQuotes cs = cs := by
  rw [stripQuotes, h.trim_eq, between?_eq_none (hends '"' (by decide)),
    between?_eq_none (hends '\x27' (by decide))]
  rfl

theorem between?_quoted (q : Char) (cs : List Char) : between? q (q :: (cs ++ [q])) = some cs := by
  obtain ⟨d, ds, hds⟩ : ∃ d ds, cs ++ [q] = d :: ds := List.exists_cons_of_ne_nil (by simp)
  rw [hds, between?, ← hds, List.getLast?_concat, List.dropLast_concat]
  simp

theorem stripQuotes_quoted (s : Quoted) : stripQuotes (Operand.quoted s).chars = s.text.toList := by
  rw [stripQuotes, (Operand.quoted s).trimmed.trim_eq, Operand.chars_quoted, between?_quoted]
  rfl

theorem stripQuotes_name (i : Identifier) : stripQuotes (Operand.name i).chars = i.first :: i.rest := by
  have hends : ∀ q, isQuote q → ¬ ((Operand.name i).chars.head? = some q ∧
      (Operand.name i).chars.getLast? = some q) := by
    rintro q hq ⟨hhead, -⟩
    have hpart := i.isNamePart_of_mem q (List.mem_of_mem_head? hhead)
    simp only [isQuote, Bool.or_eq_true, beq_iff_eq] at hq
    rcases hq with rfl | rfl <;> exact ne_of_isNamePart hpart (by decide) rfl
  exact stripQuotes_of_ends (Operand.name i).trimmed hends

/-- No text in double quotes is the name of a column. -/
theorem operandText_eq {scope : Scope} (h : ∀ name ∈ scope.columns, '"' ∉ name.toList)
    (o : Operand) : operandText scope o.chars = o.textIn Cell.toText scope := by
  obtain ⟨c, cs, hchars, hc⟩ := o.exists_head
  have hbracket : c ≠ '[' := by
    rintro rfl
    rcases hc with hc | hc
    · exact absurd hc (by decide)
    · exact absurd hc (by decide)
  have hstrip : stripBrackets o.chars = o.chars :=
    stripBrackets_of_head o.trimmed (by simp [hchars, hbracket])
  rw [operandText, hstrip]
  cases o with
  | name i => rw [stripQuotes_name]; rfl
  | quoted s =>
    have hcolumn : scope.hasColumn (String.ofList (Operand.quoted s).chars) = false := by
      rw [Scope.hasColumn, List.contains_eq_mem, decide_eq_false_iff_not]
      intro hmem
      have := h _ hmem
      rw [String.toList_ofList, Operand.chars_quoted] at this
      exact this List.mem_cons_self
    rw [hcolumn, stripQuotes_quoted, String.ofList_toList]
    rfl

def valueText (cell : Cell) : String :=
  (Value.ofCell cell).toText

theorem evaluate_operand (scope : Scope) (o : Operand) :
    ∃ v, evaluate scope o.expr = .ok v ∧ v.toText = o.textIn valueText scope := by
  cases o with
  | name i =>
    refine ⟨scope.valueOf i.name, rfl, ?_⟩
    rw [Scope.valueOf, Operand.textIn]
    split
    · rfl
    · split
      · rename_i ht
        exact ht.symm
      · split
        · rename_i hf
          exact hf.symm
        · rfl
  | quoted s => exact ⟨.text s.text, rfl, rfl⟩

theorem Operand.derives (o : Operand) : Derives .primary [o.lexeme.token] o.expr := by
  cases o with
  | name i => exact ⟨.name i.name, rfl, rfl⟩
  | quoted s => exact ⟨.text s.text, rfl, rfl⟩

namespace Blanks

variable (b : Blanks)

theorem not_mem_scanned : ∀ c ∈ b.chars, c ∉ scanned := by
  intro c hc hmem
  have hscanned : ∀ d ∈ scanned, isBlank d = false := isBlank_of_all (by decide)
  have := b.isBlank_of_mem c hc
  rw [hscanned c hmem] at this
  cases this

theorem isArgument : IsArgument b.chars :=
  .of_inert fun c hc => isInert_of_not_mem_scanned (b.not_mem_scanned c hc)

theorem unmarked : Unmarked none b.chars :=
  .of_not_mem_scanned b.not_mem_scanned

end Blanks

structure Spaced (α : Type) where
  before : Blanks
  item : α
  after : Blanks

namespace Spaced

variable (s : Spaced Operand)

def quoted (s : Spaced Quoted) : Spaced Operand :=
  ⟨s.before, .quoted s.item, s.after⟩

def pieces : List Piece :=
  s.before.pieces ++ .lexeme s.item.lexeme :: s.after.pieces

theorem written_pieces :
    written s.pieces = s.before.chars ++ (s.item.chars ++ s.after.chars) := by
  simp [pieces, Operand.chars]

theorem lexed_pieces : lexed s.pieces = [s.item.lexeme.token] := by
  simp [pieces]

theorem trim_pieces : trim (written s.pieces) = s.item.chars := by
  rw [written_pieces]
  exact s.item.trimmed.trim_blanks s.before.isBlank_of_mem s.after.isBlank_of_mem

theorem reads {rest : List Char} (h : ∀ c ∈ rest.head?, Delimits c ∨ isComparisonMark c) :
    Reads s.pieces rest := by
  have hnil : Reads [] rest := .nil
  have hafter : Reads s.after.pieces rest := by
    simpa using hnil.blanks s.after
  refine Reads.blanks (hafter.lexeme fun c hc => ?_) s.before
  rw [Blanks.written_pieces] at hc
  apply Operand.stops
  cases ha : s.after with
  | nil =>
    rw [ha] at hc
    exact h c hc
  | cons d b =>
    obtain rfl : d.1 = c := by simpa [ha] using hc
    exact .inl (.inl d.2)

theorem isArgument : IsArgument (written s.pieces) := by
  rw [written_pieces]
  exact s.before.isArgument.append (s.item.isArgument.append s.after.isArgument)

theorem isWritten : Written s.pieces s.item.expr where
  reads _ h := s.reads fun c hc => .inl (h c hc)
  derives := by
    rw [lexed_pieces]
    exact s.item.derives.comparison

end Spaced

end Spreadsheet.Formula
