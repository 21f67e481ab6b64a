import Mathlib
import Spreadsheet.Formula.Textual
import Spreadsheet.Proofs.Formula.Rendering
import Spreadsheet.Proofs.Text.Blank
import Spreadsheet.Proofs.Text.Search

namespace Spreadsheet.Formula

open Spreadsheet.Text

abbrev Blanks := List {c : Char // isBlank c}

namespace Blanks

def chars (b : Blanks) : List Char :=
  b.map (·.1)

def pieces (b : Blanks) : List Piece :=
  b.map fun c => .blank c.1 c.2

theorem isBlank_space : isBlank ' ' := by
  decide

def space : Blanks :=
  [⟨' ', isBlank_space⟩]

theorem isBlank_of_mem (b : Blanks) : ∀ c ∈ b.chars, isBlank c := by
  intro c hc
  obtain ⟨d, -, rfl⟩ := List.mem_map.mp hc
  exact d.2

@[simp] theorem chars_nil : chars [] = [] :=
  rfl

@[simp] theorem chars_cons (c : {c : Char // isBlank c}) (b : Blanks) :
    chars (c :: b) = c.1 :: b.chars :=
  rfl

@[simp] theorem written_pieces (b : Blanks) : written b.pieces = b.chars := by
  induction b with
  | nil => rfl
  | cons c b ih => exact congrArg (c.1 :: ·) ih

@[simp] theorem lexed_pieces (b : Blanks) : lexed b.pieces = [] := by
  induction b with
  | nil => rfl
  | cons c b ih => exact ih

end Blanks

theorem Reads.blanks {ps : List Piece} {rest : List Char} (h : Reads ps rest) (b : Blanks) :
    Reads (b.pieces ++ ps) rest := by
  induction b with
  | nil => exact h
  | cons c b ih => exact ih.blank c.2

theorem Blanks.lexFrom_append (size : Nat) (b : Blanks) (rest : List Char) :
    lexFrom size (b.chars ++ rest) = lexFrom size rest :=
  lexFrom_blanks size b.isBlank_of_mem

section Search

variable {needle cs : List Char}

theorem not_prefix_blank (hne : needle ≠ []) (h : ∀ c ∈ needle, isBlank c = false) {c : Char}
    (hc : isBlank c) : ¬ needle <+: c :: cs := by
  intro hp
  cases needle with
  | nil => exact hne rfl
  | cons d needle =>
    obtain ⟨rfl, -⟩ := List.cons_prefix_cons.mp hp
    rw [h d List.mem_cons_self] at hc
    cases hc

theorem isInfix_blanks_append (hne : needle ≠ []) (h : ∀ c ∈ needle, isBlank c = false)
    (b : Blanks) : needle <:+: b.chars ++ cs ↔ needle <:+: cs := by
  induction b with
  | nil => rfl
  | cons c b ih =>
    rw [Blanks.chars_cons, List.cons_append, List.infix_cons_iff, ih]
    simp [not_prefix_blank hne h c.2]

theorem splitOnce_blanks_append (hne : needle ≠ []) (h : ∀ c ∈ needle, isBlank c = false)
    (b : Blanks) : splitOnce needle (b.chars ++ cs) =
      (splitOnce needle cs).map fun p => (b.chars ++ p.1, p.2) := by
  induction b with
  | nil => simp
  | cons c b ih =>
    have hp : needle.isPrefixOf? (c.1 :: (Blanks.chars b ++ cs)) = none :=
      isPrefixOf?_eq_none_iff.mpr (not_prefix_blank hne h c.2)
    rw [Blanks.chars_cons, List.cons_append, splitOnce, hp]
    simp [ih, Function.comp_def]

end Search

/-- A text as it stands between the blanks and the equals sign around it. -/
structure IsBody (cs : List Char) : Prop where
  nonempty : cs ≠ []
  trimmed : Trimmed cs
  noEquals : ∀ c ∈ cs.head?, c ≠ '='

/-- The surroundings of the body of a formula: blanks, at most one equals sign with blanks after it,
and blanks at the end. -/
structure Layout where
  before : Blanks
  equals : Option Blanks
  after : Blanks

namespace Layout

variable (l : Layout) {cs : List Char}

def opening : List Char :=
  l.equals.elim [] fun gap => '=' :: gap.chars

def gap : Blanks :=
  l.equals.getD []

def around (cs : List Char) : String :=
  String.ofList (l.before.chars ++ (l.opening ++ (cs ++ l.after.chars)))

theorem trim_around (h : IsBody cs) : trim (l.around cs).toList = l.opening ++ cs := by
  have hne : (l.opening ++ cs).getLast? = cs.getLast? := by
    rw [List.getLast?_append_of_ne_nil _ h.nonempty]
  have htrimmed : Trimmed (l.opening ++ cs) := by
    refine ⟨?_, by rw [hne]; exact h.trimmed.last⟩
    cases he : l.equals with
    | none => simpa [opening, he] using h.trimmed.head
    | some gap =>
      have hblank : isBlank '=' = false := by decide
      simp [opening, he, hblank]
  rw [around, String.toList_ofList, ← List.append_assoc l.opening]
  exact htrimmed.trim_blanks l.before.isBlank_of_mem l.after.isBlank_of_mem

theorem lexFrom_body (h : IsBody cs) (size : Nat) :
    lexFrom size (body (l.around cs).toList) = lexFrom size (cs ++ l.after.chars) := by
  obtain ⟨c, ds, rfl⟩ := List.exists_cons_of_ne_nil h.nonempty
  rw [body, around, String.toList_ofList, trimStart_append_blanks l.before.isBlank_of_mem]
  cases he : l.equals with
  | none =>
    have hc : isBlank c = false := h.trimmed.head c rfl
    have heq : c ≠ '=' := h.noEquals c rfl
    simp [opening, he, trimStart, hc, heq]
  | some gap =>
    have hblank : isBlank '=' = false := by decide
    simp [opening, he, trimStart, hblank, Blanks.lexFrom_append]

end Layout

theorem replaceFrom_eq_self {needle replacement cs : List Char} (h : ¬ needle <:+: cs) :
    replaceFrom needle replacement 0 cs = cs := by
  induction cs with
  | nil => rfl
  | cons c cs ih =>
    rw [List.infix_cons_iff, not_or] at h
    have hp : needle.isPrefixOf (c :: cs) = false := by
      rw [← Bool.not_eq_true, List.isPrefixOf_iff_prefix]
      exact h.1
    rw [replaceFrom, hp, ih h.2]
    rfl

theorem Layout.textualBody_around (l : Layout) {cs : List Char} (h : IsBody cs)
    (htoday : ¬ "TODAY()".toList <:+: cs) (today : String) :
    textualBody today (l.around cs) = l.gap.chars ++ cs := by
  have hneedle : ∀ c ∈ "TODAY()".toList, isBlank c = false := isBlank_of_all (by decide)
  have hfree : ¬ "TODAY()".toList <:+: l.gap.chars ++ cs := by
    rwa [isInfix_blanks_append (by decide) hneedle]
  have hself : replaceFrom "TODAY()".toList ('"' :: today.toList ++ ['"']) 0
      (l.gap.chars ++ cs) = l.gap.chars ++ cs := replaceFrom_eq_self hfree
  obtain ⟨c, ds, rfl⟩ := List.exists_cons_of_ne_nil h.nonempty
  have heq : c ≠ '=' := h.noEquals c rfl
  rw [textualBody, l.trim_around h]
  cases he : l.equals with
  | none => simpa [opening, gap, he, heq, replace] using hself
  | some b => simpa [opening, gap, he, replace] using hself

/-- The text of the pieces is read as their tokens, which derive the tree. -/
structure Written (ps : List Piece) (e : Expr) : Prop where
  reads : ∀ rest, (∀ c ∈ rest.head?, Delimits c) → Reads ps rest
  derives : Derives (.layer .comparison) (lexed ps) e

theorem Written.parseFormula_around {ps : List Piece} {e : Expr} (h : Written ps e)
    (hbody : IsBody (written ps)) (l : Layout) : parseFormula (l.around (written ps)) = .ok e := by
  have hlex : lex (l.around (written ps)) = .ok (lexed ps) := by
    have hafter : ∀ size, lexFrom size l.after.chars = .ok [] := by
      intro size
      have := l.after.lexFrom_append size []
      rwa [List.append_nil, lexFrom_nil] at this
    have hdelimits : ∀ c ∈ l.after.chars.head?, Delimits c := by
      intro c hc
      exact .inl (l.after.isBlank_of_mem c (List.mem_of_mem_head? hc))
    rw [lex, l.lexFrom_body hbody, h.reads _ hdelimits, hafter]
    simp [Except.map]
  rw [parseFormula, hlex]
  exact parse_of_derives h.derives

end Spreadsheet.Formula
