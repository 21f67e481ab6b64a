import Mathlib
import Spreadsheet.Proofs.Formula.Literal

namespace Spreadsheet.Formula

open Spreadsheet.Text

structure Identifier where
  first : Char
  rest : List Char
  isStart : isNameStart first
  isPart : ∀ c ∈ rest, isNamePart c

def Identifier.name (i : Identifier) : String :=
  String.ofList (i.first :: i.rest)

structure Bracketed where
  chars : List Char
  notBlank : allBlank chars = false
  notClosed : ']' ∉ chars

inductive Quote where
  | double
  | single

def Quote.char : Quote → Char
  | double => '"'
  | single => '\x27'

def doubled (q : Char) (cs : List Char) : List Char :=
  cs.flatMap fun c => if c = q then [q, q] else [c]

def Operator.longer : Operator → List Char
  | less => ['=', '>']
  | greater | equal => ['=']
  | _ => []

theorem Operator.eq_of_mem_longer {op : Operator} {c : Char} (h : c ∈ op.longer) :
    c = '=' ∨ c = '>' := by
  cases op <;> simp_all [longer]

inductive Lexeme where
  | number (l : Literal)
  | name (i : Identifier)
  | text (q : Quote) (s : String)
  | column (b : Bracketed)
  | operator (op : Operator) (h : op ∈ Operator.all)
  | openParen
  | closeParen
  | comma

namespace Lexeme

def chars : Lexeme → List Char
  | number l => l.chars
  | name i => i.first :: i.rest
  | text q s => q.char :: (doubled q.char s.toList ++ [q.char])
  | column b => '[' :: (b.chars ++ [']'])
  | operator op _ => op.symbol.toList
  | openParen => ['(']
  | closeParen => [')']
  | comma => [',']

def token : Lexeme → Token
  | number l => .number l.value
  | name i => .name i.name
  | text _ s => .text s
  | column b => .column (String.ofList (trim b.chars))
  | operator op _ => .operator op
  | openParen => .openParen
  | closeParen => .closeParen
  | comma => .comma

/-- The lexeme ends where this character follows it. -/
def Stops : Lexeme → Char → Prop
  | number _, c => Literal.Stops c
  | name _, c => isNamePart c = false
  | text q _, c => c ≠ q.char
  | operator op _, c => c ∉ op.longer
  | column _, _ | openParen, _ | closeParen, _ | comma, _ => True

end Lexeme

/-- Every lexeme ends where such a character follows. -/
def Delimits (c : Char) : Prop :=
  isBlank c ∨ c = ')' ∨ c = ','

instance (c : Char) : Decidable (Delimits c) :=
  inferInstanceAs (Decidable (_ ∨ _))

namespace Delimits

variable {c : Char}

theorem ne {d : Char} (h : Delimits c) (hd : ¬ Delimits d) : c ≠ d := by
  rintro rfl
  exact hd h

theorem isNamePart (h : Delimits c) : isNamePart c = false := by
  have hunder : c ≠ '_' := h.ne (by decide)
  have hpoint : c ≠ '.' := h.ne (by decide)
  rcases h with h | rfl | rfl
  · simp [Formula.isNamePart, isAlphanumeric, isLetter_of_isBlank h, isNumeric_of_isBlank h, hunder,
      hpoint]
  · decide
  · decide

theorem literal (h : Delimits c) : Literal.Stops c := by
  have hdigit : c.isDigit = false := by
    rcases h with h | rfl | rfl
    · exact isDigit_of_isBlank h
    · decide
    · decide
  exact ⟨hdigit, h.ne (by decide), h.ne (by decide), h.ne (by decide)⟩

theorem stops (h : Delimits c) (l : Lexeme) : l.Stops c := by
  cases l with
  | number l => exact h.literal
  | name i => exact h.isNamePart
  | text q s => cases q <;> exact h.ne (by decide)
  | operator op ho =>
    intro hc
    rcases op.eq_of_mem_longer hc with rfl | rfl <;> exact absurd h (by decide)
  | column | openParen | closeParen | comma => trivial

end Delimits

/-- The characters that a lexeme without letters and digits begins with. -/
def punctuation : List Char :=
  ['"', '\x27', '[', '(', ')', ',', '+', '-', '*', '/', '^', '<', '>', '=', '!']

theorem isNameStart_of_mem_punctuation : ∀ c ∈ punctuation, isNameStart c = false := by
  simp [punctuation, isNameStart, isLetter]

theorem not_numeral_of_mem_punctuation : ∀ c ∈ punctuation, ¬ (c.isDigit ∨ c = '.') := by
  simp [punctuation]

section

variable {c : Char} {rest rest' : List Char}

theorem lexeme_numeral (h : c.isDigit ∨ c = '.') :
    lexeme c rest =
      match Decimal.unsigned? (spanNumber (c :: rest)).1 with
      | some x => .ok (.number x, (spanNumber (c :: rest)).2)
      | none => .error (.badNumber (String.ofList (spanNumber (c :: rest)).1)) := by
  have hc : c ∉ punctuation := fun hc => not_numeral_of_mem_punctuation c hc h
  simp only [punctuation, List.mem_cons, not_or] at hc
  cases hx : Decimal.unsigned? (spanNumber (c :: rest)).1 <;>
    simp [lexeme, operator?, hc, h, hx]

theorem lexeme_number (h : c.isDigit ∨ c = '.') {text : List Char} {x : Float}
    (hspan : spanNumber (c :: rest) = (text, rest')) (hx : Decimal.unsigned? text = some x) :
    lexeme c rest = .ok (.number x, rest') := by
  rw [lexeme_numeral h, hspan, hx]

theorem lexeme_name (h : isNameStart c) :
    lexeme c rest =
      .ok (.name (String.ofList (c :: rest.takeWhile isNamePart)), rest.dropWhile isNamePart) := by
  have hc : c ∉ punctuation := fun hc => by
    rw [isNameStart_of_mem_punctuation c hc] at h
    cases h
  have hn : ¬ (c.isDigit ∨ c = '.') := by
    rintro (hd | rfl)
    · have := ascii_of_lt (p := fun c => c.isDigit → isNameStart c = false) (by decide +kernel)
        (lt_of_isDigit hd) hd
      rw [h] at this
      cases this
    · exact absurd h (by decide)
  simp only [punctuation, List.mem_cons, not_or] at hc
  simp [lexeme, operator?, hc, hn, h]

theorem quoted?_doubled {q : Char} (h : ∀ c ∈ rest.head?, c ≠ q) (cs : List Char) :
    quoted? q (doubled q cs ++ q :: rest) = some (cs, rest) := by
  induction cs with
  | nil =>
    cases rest with
    | nil => simp [doubled, quoted?]
    | cons d rest => simp [doubled, quoted?, h d rfl]
  | cons c cs ih =>
    by_cases hc : c = q
    · subst hc
      simp only [doubled] at ih
      simp [doubled, quoted?, ih]
    · obtain ⟨d, ds, hds⟩ : ∃ d ds, doubled q cs ++ q :: rest = d :: ds :=
        List.exists_cons_of_ne_nil (by simp)
      have hcons : doubled q (c :: cs) = c :: doubled q cs := by simp [doubled, hc]
      rw [hds] at ih
      simp [hcons, hds, quoted?, hc, ih]

theorem bracketed?_append {cs : List Char} (h : ']' ∉ cs) :
    bracketed? (cs ++ ']' :: rest) = some (cs, rest) := by
  have hne : ∀ c ∈ cs, (c != ']') = true := by
    intro c hc
    have : c ≠ ']' := by
      rintro rfl
      exact h hc
    simpa using this
  have hstop : ∀ c ∈ (']' :: rest).head?, (c != ']') = false := by simp
  rw [bracketed?, takeWhile_append_stop hne hstop, dropWhile_append_stop hne hstop]

theorem lexeme_symbol {op : Operator} (hop : op ∈ Operator.all) (h : ∀ c ∈ rest.head?, c ∉ op.longer)
    {cs : List Char} (hs : op.symbol.toList = c :: cs) :
    lexeme c (cs ++ rest) = .ok (.operator op, rest) := by
  cases op with
  | other => simp [Operator.all] at hop
  | _ =>
    simp [Operator.symbol] at hs
    obtain ⟨rfl, rfl⟩ := hs
    cases rest <;> simp_all [lexeme, operator?, Operator.longer]

end

theorem isBlank_of_isNameStart {c : Char} (h : isNameStart c) : isBlank c = false := by
  by_contra hb
  rw [Bool.not_eq_false] at hb
  have hunder : c ≠ '_' := by
    rintro rfl
    exact absurd hb (by decide)
  simp [isNameStart, isLetter_of_isBlank hb, hunder] at h

theorem isBlank_of_numeral {c : Char} (h : c.isDigit ∨ c = '.') : isBlank c = false := by
  rcases h with h | rfl
  · exact isBlank_of_isDigit h
  · decide

namespace Lexeme

/-- A lexeme is read back as its token, up to the place where it ends. -/
theorem lexeme_chars (l : Lexeme) {rest : List Char} (h : ∀ c ∈ rest.head?, l.Stops c) :
    ∃ c cs, l.chars = c :: cs ∧ isBlank c = false ∧ lexeme c (cs ++ rest) = .ok (l.token, rest) := by
  cases l with
  | number l =>
    obtain ⟨c, cs, hl, hc⟩ := l.exists_chars
    have hspan := l.spanNumber_chars h
    have hvalue := l.lower.unsigned?_chars
    rw [l.value_lower] at hvalue
    rw [hl] at hspan
    exact ⟨c, cs, hl, isBlank_of_numeral hc, lexeme_number hc hspan hvalue⟩
  | name i =>
    refine ⟨i.first, i.rest, rfl, isBlank_of_isNameStart i.isStart, ?_⟩
    rw [lexeme_name i.isStart, takeWhile_append_stop i.isPart h, dropWhile_append_stop i.isPart h]
    rfl
  | text q s =>
    refine ⟨q.char, _, rfl, by cases q <;> decide, ?_⟩
    have hq : q.char = '"' ∨ q.char = '\x27' := by cases q <;> simp [Quote.char]
    have hs := quoted?_doubled h s.toList
    simp [lexeme, hq, hs, token]
  | column b =>
    refine ⟨'[', _, rfl, by decide, ?_⟩
    simp [lexeme, bracketed?_append b.notClosed, b.notBlank, token]
  | operator op hop =>
    obtain ⟨c, cs, hs, hc⟩ : ∃ c cs, op.symbol.toList = c :: cs ∧ isBlank c = false := by
      cases op with
      | other => simp [Operator.all] at hop
      | _ => exact ⟨_, _, rfl, by decide⟩
    exact ⟨c, cs, hs, hc, lexeme_symbol hop h hs⟩
  | openParen => exact ⟨'(', [], rfl, by decide, rfl⟩
  | closeParen => exact ⟨')', [], rfl, by decide, rfl⟩
  | comma => exact ⟨',', [], rfl, by decide, rfl⟩

end Lexeme

section

variable (size : Nat) {rest : List Char}

theorem lexFrom_nil : lexFrom size [] = .ok [] := by
  rw [lexFrom]
  rfl

theorem lexFrom_blank {c : Char} (h : isBlank c) : lexFrom size (c :: rest) = lexFrom size rest := by
  have ht : trimStart (c :: rest) = trimStart rest := by simp [trimStart, h]
  rw [lexFrom.eq_def, lexFrom.eq_def size rest]
  grind

theorem lexFrom_blanks {blanks : List Char} (h : ∀ c ∈ blanks, isBlank c) :
    lexFrom size (blanks ++ rest) = lexFrom size rest := by
  induction blanks with
  | nil => rfl
  | cons c blanks ih =>
    rw [List.cons_append, lexFrom_blank size (h c List.mem_cons_self),
      ih fun d hd => h d (List.mem_cons_of_mem c hd)]

theorem lexFrom_cons {c : Char} (hc : isBlank c = false) {cs : List Char} {t : Token}
    (h : lexeme c cs = .ok (t, rest)) :
    lexFrom size (c :: cs) = (lexFrom size rest).map (t :: ·) := by
  have htrim : trimStart (c :: cs) = c :: cs := by simp [trimStart, hc]
  rw [lexFrom.eq_def]
  split
  · rename_i heq
    rw [htrim] at heq
    cases heq
  · rename_i heq
    rw [htrim] at heq
    cases heq
    split
    · rename_i heq
      rw [h] at heq
      cases heq
    · rename_i heq
      rw [h] at heq
      cases heq
      rfl

theorem lexFrom_lexeme (l : Lexeme) (h : ∀ c ∈ rest.head?, l.Stops c) :
    lexFrom size (l.chars ++ rest) = (lexFrom size rest).map (l.token :: ·) := by
  obtain ⟨c, cs, hl, hc, ht⟩ := l.lexeme_chars h
  rw [hl, List.cons_append, lexFrom_cons size hc ht]

end

theorem body_equals (cs : List Char) : body ('=' :: cs) = cs := by
  have hblank : isBlank '=' = false := by decide
  simp [body, trimStart, hblank]

inductive Piece where
  | lexeme (l : Lexeme)
  | blank (c : Char) (h : isBlank c)

namespace Piece

def space : Piece :=
  blank ' ' (by decide)

def chars : Piece → List Char
  | lexeme l => l.chars
  | blank c _ => [c]

def token? : Piece → Option Token
  | lexeme l => some l.token
  | blank _ _ => none

end Piece

def written (ps : List Piece) : List Char :=
  ps.flatMap Piece.chars

def lexed (ps : List Piece) : List Token :=
  ps.filterMap Piece.token?

@[simp] theorem written_nil : written [] = [] :=
  rfl

@[simp] theorem written_append (ps qs : List Piece) : written (ps ++ qs) = written ps ++ written qs :=
  List.flatMap_append

@[simp] theorem written_lexeme (l : Lexeme) (ps : List Piece) :
    written (.lexeme l :: ps) = l.chars ++ written ps :=
  rfl

@[simp] theorem written_blank {c : Char} (h : isBlank c) (ps : List Piece) :
    written (.blank c h :: ps) = c :: written ps :=
  rfl

@[simp] theorem written_space (ps : List Piece) : written (.space :: ps) = ' ' :: written ps :=
  rfl

@[simp] theorem lexed_append (ps qs : List Piece) : lexed (ps ++ qs) = lexed ps ++ lexed qs :=
  List.filterMap_append

@[simp] theorem lexed_nil : lexed [] = [] :=
  rfl

@[simp] theorem lexed_lexeme (l : Lexeme) (ps : List Piece) :
    lexed (.lexeme l :: ps) = l.token :: lexed ps :=
  rfl

@[simp] theorem lexed_space (ps : List Piece) : lexed (.space :: ps) = lexed ps :=
  rfl

@[simp] theorem lexed_spaces (n : Nat) : lexed (List.replicate n .space) = [] := by
  induction n with
  | zero => rfl
  | succ n ih => simpa [List.replicate_succ] using ih

/-- In front of the rest, the characters of the pieces are read as their tokens. -/
def Reads (ps : List Piece) (rest : List Char) : Prop :=
  ∀ size, lexFrom size (written ps ++ rest) = (lexFrom size rest).map (lexed ps ++ ·)

namespace Reads

variable {ps qs : List Piece} {rest : List Char}

theorem nil : Reads [] rest := by
  intro size
  cases h : lexFrom size rest <;> simp [h, Except.map]

theorem append (h : Reads ps (written qs ++ rest)) (h' : Reads qs rest) : Reads (ps ++ qs) rest := by
  intro size
  rw [written_append, List.append_assoc, h, h']
  cases lexFrom size rest <;> simp [Except.map]

theorem blank {c : Char} (hc : isBlank c) (h : Reads ps rest) : Reads (.blank c hc :: ps) rest := by
  intro size
  rw [written_blank, List.cons_append, lexFrom_blank size hc, h]
  rfl

theorem space (h : Reads ps rest) : Reads (.space :: ps) rest :=
  h.blank _

theorem spaces (h : Reads ps rest) (n : Nat) : Reads (List.replicate n .space ++ ps) rest := by
  induction n with
  | zero => exact h
  | succ n ih => exact ih.space

theorem lexeme {l : Lexeme} (h : Reads ps rest) (hl : ∀ c ∈ (written ps ++ rest).head?, l.Stops c) :
    Reads (.lexeme l :: ps) rest := by
  intro size
  rw [written_lexeme, List.append_assoc, lexFrom_lexeme size l hl, h]
  cases lexFrom size rest <;> rfl

theorem single {l : Lexeme} (hl : ∀ c ∈ rest.head?, l.Stops c) : Reads [.lexeme l] rest :=
  nil.lexeme hl

end Reads

end Spreadsheet.Formula
