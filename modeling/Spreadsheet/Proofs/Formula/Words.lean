import Mathlib
import Spreadsheet.Proofs.Formula.Layout
import Spreadsheet.Proofs.Formula.Quotation

namespace Spreadsheet.Formula

open Spreadsheet.Text

theorem written_intercalate (separator : List Piece) (args : List (List Piece)) :
    written (separator.intercalate args) = join (written separator) (args.map written) := by
  rw [join_eq_intercalate]
  induction args with
  | nil => rfl
  | cons ps args ih =>
    cases args with
    | nil => simp
    | cons qs args =>
      simp only [List.map_cons] at ih ⊢
      rw [List.intercalate_cons_cons, List.intercalate_cons_cons, written_append, written_append, ih]

theorem lexed_intercalate (separator : List Piece) (args : List (List Piece)) :
    lexed (separator.intercalate args) = (lexed separator).intercalate (args.map lexed) := by
  induction args with
  | nil => rfl
  | cons ps args ih =>
    cases args with
    | nil => simp
    | cons qs args =>
      simp only [List.map_cons] at ih ⊢
      rw [List.intercalate_cons_cons, List.intercalate_cons_cons, lexed_append, lexed_append, ih]

abbrev Word := List Lexeme

namespace Word

def pieces (w : Word) : List Piece :=
  w.map .lexeme

def chars (w : Word) : List Char :=
  w.flatMap Lexeme.chars

def tokens (w : Word) : List Token :=
  w.map Lexeme.token

theorem written_pieces (w : Word) : written w.pieces = w.chars := by
  induction w with
  | nil => rfl
  | cons l w ih => exact congrArg (l.chars ++ ·) ih

theorem lexed_pieces (w : Word) : lexed w.pieces = w.tokens := by
  induction w with
  | nil => rfl
  | cons l w ih => exact congrArg (l.token :: ·) ih

/-- Each lexeme ends where the next one begins, and the last one ends at whatever delimits. -/
def Separate (w : Word) : Prop :=
  ∀ rest, (∀ c ∈ rest.head?, Delimits c) → Reads w.pieces rest

theorem separate_single (l : Lexeme) : Separate [l] :=
  fun _ h => .single fun c hc => (h c hc).stops l

end Word

def spread (gap : Blanks) (ws : List Word) : List Piece :=
  gap.pieces.intercalate (ws.map Word.pieces)

theorem written_spread (gap : Blanks) (ws : List Word) :
    written (spread gap ws) = join gap.chars (ws.map Word.chars) := by
  rw [spread, written_intercalate, gap.written_pieces, List.map_map]
  have h : written ∘ Word.pieces = Word.chars := funext Word.written_pieces
  rw [h]

theorem lexed_spread (gap : Blanks) (ws : List Word) :
    lexed (spread gap ws) = Word.tokens ws.flatten := by
  rw [spread, lexed_intercalate, gap.lexed_pieces]
  induction ws with
  | nil => rfl
  | cons w ws ih =>
    have hflatten : Word.tokens (w :: ws).flatten = w.tokens ++ Word.tokens ws.flatten :=
      List.map_append
    rw [hflatten, ← ih, List.map_cons, List.map_cons, w.lexed_pieces]
    cases ws with
    | nil => simp
    | cons v ws => simp [List.intercalate_cons_cons]

theorem reads_spread {gap : Blanks} (hgap : gap ≠ []) {ws : List Word}
    (h : ∀ w ∈ ws, Word.Separate w) {rest : List Char} (hr : ∀ c ∈ rest.head?, Delimits c) :
    Reads (spread gap ws) rest := by
  induction ws with
  | nil => exact .nil
  | cons w ws ih =>
    have hw := h w List.mem_cons_self
    have hrest := ih fun v hv => h v (List.mem_cons_of_mem w hv)
    cases ws with
    | nil =>
      rw [spread, List.map_singleton, List.intercalate_singleton]
      exact hw rest hr
    | cons v ws =>
      rw [spread, List.map_cons, List.map_cons, List.intercalate_cons_cons, List.append_assoc]
      refine Reads.append (hw _ ?_) (hrest.blanks gap)
      obtain ⟨b, bs, rfl⟩ := List.exists_cons_of_ne_nil hgap
      have hb : Delimits b.1 := .inl b.2
      simp [hb]

theorem prefix_of_prefix_append_cons {needle cs rest : List Char} {c : Char} (hc : c ∉ needle)
    (h : needle <+: cs ++ c :: rest) : needle <+: cs := by
  induction cs generalizing needle with
  | nil =>
    cases needle with
    | nil => exact List.nil_prefix
    | cons d needle =>
      obtain ⟨rfl, -⟩ := List.cons_prefix_cons.mp h
      exact absurd List.mem_cons_self hc
  | cons d cs ih =>
    cases needle with
    | nil => exact List.nil_prefix
    | cons e needle =>
      obtain ⟨rfl, hneedle⟩ := List.cons_prefix_cons.mp h
      exact List.cons_prefix_cons.mpr ⟨rfl, ih (fun he => hc (List.mem_cons_of_mem _ he)) hneedle⟩

section Search

variable {needle : List Char} (hne : needle ≠ []) (hblank : ∀ c ∈ needle, isBlank c = false)

include hne hblank

theorem isInfix_append_blank {c : Char} (hc : isBlank c) (cs rest : List Char) :
    needle <:+: cs ++ c :: rest ↔ needle <:+: cs ∨ needle <:+: rest := by
  have hmem : c ∉ needle := by
    intro hmem
    rw [hblank c hmem] at hc
    cases hc
  induction cs with
  | nil =>
    have hnil : ¬ needle <:+: [] := fun h => hne (List.infix_nil.mp h)
    rw [List.nil_append, List.infix_cons_iff]
    simp [not_prefix_blank hne hblank hc, hnil]
  | cons d cs hcs =>
    have hbegin : needle <+: d :: cs ++ c :: rest ↔ needle <+: d :: cs :=
      ⟨prefix_of_prefix_append_cons hmem, fun h => h.trans (List.prefix_append _ _)⟩
    rw [List.cons_append] at hbegin
    rw [List.cons_append, List.infix_cons_iff, List.infix_cons_iff, hbegin, or_assoc]
    exact or_congr_right hcs

/-- A text without blanks is found in a text of words only where it is found in a word. -/
theorem isInfix_join {gap : Blanks} (hgap : gap ≠ []) (texts : List (List Char)) :
    needle <:+: join gap.chars texts ↔ ∃ cs ∈ texts, needle <:+: cs := by
  obtain ⟨b, bs, rfl⟩ := List.exists_cons_of_ne_nil hgap
  rw [join_eq_intercalate]
  induction texts with
  | nil => simp [hne]
  | cons cs texts ih =>
    cases texts with
    | nil => simp
    | cons ds texts =>
      rw [List.intercalate_cons_cons, List.append_assoc, Blanks.chars_cons, List.cons_append,
        isInfix_append_blank hne hblank b.2, isInfix_blanks_append hne hblank bs, ← Blanks.chars_cons,
        ih]
      simp

end Search

theorem mem_join {separator : List Char} {texts : List (List Char)} {c : Char}
    (h : c ∈ join separator texts) : c ∈ separator ∨ ∃ cs ∈ texts, c ∈ cs := by
  rw [join_eq_intercalate] at h
  induction texts with
  | nil => cases h
  | cons cs texts ih =>
    by_cases htexts : texts = []
    · rw [htexts, List.intercalate_singleton] at h
      exact .inr ⟨cs, List.mem_cons_self, h⟩
    · rw [List.intercalate_cons_of_ne_nil htexts, List.mem_append, List.mem_append] at h
      rcases h with (h | h) | h
      · exact .inr ⟨cs, List.mem_cons_self, h⟩
      · exact .inl h
      · exact (ih h).imp_right fun ⟨ds, hds, hc⟩ => ⟨ds, List.mem_cons_of_mem cs hds, hc⟩

theorem exists_suffix_join (separator : List Char) {texts : List (List Char)} (hne : texts ≠ []) :
    ∃ cs ∈ texts, cs <:+ join separator texts := by
  rw [join_eq_intercalate]
  induction texts with
  | nil => exact absurd rfl hne
  | cons cs texts ih =>
    by_cases htexts : texts = []
    · subst htexts
      exact ⟨cs, List.mem_cons_self, by rw [List.intercalate_singleton]⟩
    · obtain ⟨ds, hds, hsuffix⟩ := ih htexts
      refine ⟨ds, List.mem_cons_of_mem cs hds, ?_⟩
      rw [List.intercalate_cons_of_ne_nil htexts]
      exact hsuffix.trans (List.suffix_append _ _)

theorem exists_prefix_join (separator : List Char) {texts : List (List Char)} (hne : texts ≠ []) :
    ∃ cs ∈ texts, cs <+: join separator texts := by
  obtain ⟨cs, texts, rfl⟩ := List.exists_cons_of_ne_nil hne
  refine ⟨cs, List.mem_cons_self, ?_⟩
  cases texts with
  | nil => exact List.prefix_rfl
  | cons ds texts => exact ⟨_, (List.append_assoc cs _ _).symm⟩

theorem head?_eq_of_starts {cs ds : List Char} (h : cs <+: ds) (hne : cs ≠ []) :
    ds.head? = cs.head? := by
  obtain ⟨rest, rfl⟩ := h
  exact List.head?_append_of_ne_nil cs hne

theorem getLast?_eq_of_suffix {cs ds : List Char} (h : cs <:+ ds) (hne : cs ≠ []) :
    ds.getLast? = cs.getLast? := by
  obtain ⟨rest, rfl⟩ := h
  exact List.getLast?_append_of_ne_nil rest hne

theorem isBody_join (separator : List Char) {texts : List (List Char)} (hne : texts ≠ [])
    (h : ∀ cs ∈ texts, cs ≠ [] ∧ ∀ c ∈ cs, isBlank c = false ∧ c ≠ '=') :
    IsBody (join separator texts) := by
  obtain ⟨cs, hcs, hbegin⟩ := exists_prefix_join separator hne
  obtain ⟨ds, hds, hsuffix⟩ := exists_suffix_join separator hne
  have hhead : ∀ c ∈ (join separator texts).head?, isBlank c = false ∧ c ≠ '=' := by
    rw [head?_eq_of_starts hbegin (h cs hcs).1]
    exact fun c hc => (h cs hcs).2 c (List.mem_of_mem_head? hc)
  have hlast : ∀ c ∈ (join separator texts).getLast?, isBlank c = false := by
    rw [getLast?_eq_of_suffix hsuffix (h ds hds).1]
    exact fun c hc => ((h ds hds).2 c (List.mem_of_getLast? hc)).1
  exact ⟨hbegin.ne_nil (h cs hcs).1, ⟨fun c hc => (hhead c hc).1, hlast⟩, fun c hc => (hhead c hc).2⟩

end Spreadsheet.Formula
