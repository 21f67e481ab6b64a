import Mathlib
import Spreadsheet.Formula.Comparison
import Spreadsheet.Proofs.Text.Search

namespace Spreadsheet.Formula

open Spreadsheet.Text

/-- What is open at a place of a text: so many parentheses, and at most one quote. -/
structure Nesting where
  depth : Nat
  quote : Option Char
deriving DecidableEq

namespace Nesting

def outside : Nesting :=
  ⟨0, none⟩

/-- What is open after one more character, unless it closes a parenthesis that is not open. -/
def after? (s : Nesting) (c : Char) : Option Nesting :=
  if s.quote = none ∧ c = '(' then some ⟨s.depth + 1, none⟩
  else if s.quote = none ∧ c = ')' then
    match s.depth with
    | 0 => none
    | depth + 1 => some ⟨depth, none⟩
  else some ⟨s.depth, nextQuote s.quote c⟩

def afterAll? (s : Nesting) (cs : List Char) : Option Nesting :=
  cs.foldlM after? s

/-- No comma stands where nothing is open. -/
def Undivided : Nesting → List Char → Prop
  | _, [] => True
  | s, c :: cs => ¬ (s = outside ∧ c = ',') ∧ ∀ s' ∈ s.after? c, s'.Undivided cs

instance decidableUndivided : (s : Nesting) → (cs : List Char) → Decidable (s.Undivided cs)
  | _, [] => inferInstanceAs (Decidable True)
  | s, c :: cs =>
    have : DecidablePred (Undivided · cs) := fun s' => s'.decidableUndivided cs
    inferInstanceAs (Decidable (¬ (s = outside ∧ c = ',') ∧ ∀ s' ∈ s.after? c, s'.Undivided cs))

variable {s s' : Nesting} {c : Char} {cs ds : List Char}

@[simp] theorem afterAll?_nil : s.afterAll? [] = some s :=
  rfl

theorem afterAll?_cons : s.afterAll? (c :: cs) = (s.after? c).bind (·.afterAll? cs) :=
  List.foldlM_cons

theorem afterAll?_append (h : s.afterAll? cs = some s') :
    s.afterAll? (cs ++ ds) = s'.afterAll? ds := by
  simp only [afterAll?] at h ⊢
  rw [List.foldlM_append, h]
  rfl

theorem Undivided.append (h : s.Undivided cs) (hs : s.afterAll? cs = some s')
    (h' : s'.Undivided ds) : s.Undivided (cs ++ ds) := by
  induction cs generalizing s with
  | nil =>
    obtain rfl : s = s' := by simpa using hs
    exact h'
  | cons c cs ih =>
    rw [afterAll?_cons] at hs
    obtain ⟨t, ht, hs⟩ := Option.bind_eq_some_iff.mp hs
    refine ⟨h.1, ?_⟩
    intro t' ht'
    obtain rfl : t = t' := by simpa [ht] using ht'
    exact ih (h.2 t ht) hs

end Nesting

/-- A text that can stand as one argument of a call: it closes what it opens, and no comma divides
it. -/
structure IsArgument (cs : List Char) : Prop where
  closed : Nesting.outside.afterAll? cs = some .outside
  undivided : Nesting.outside.Undivided cs

theorem isArgument_iff {cs : List Char} :
    (Nesting.outside.afterAll? cs = some .outside ∧ Nesting.outside.Undivided cs) ↔ IsArgument cs :=
  ⟨fun h => ⟨h.1, h.2⟩, fun h => ⟨h.closed, h.undivided⟩⟩

instance (cs : List Char) : Decidable (IsArgument cs) :=
  decidable_of_iff _ isArgument_iff

def scanned : List Char :=
  ['"', '\x27', '(', ')', ',', '>', '<', '=', '!']

/-- A character that opens, closes and divides nothing. -/
def isInert (c : Char) : Bool :=
  !isQuote c && c != '(' && c != ')' && c != ','

theorem isInert_of_not_mem_scanned {c : Char} (h : c ∉ scanned) : isInert c := by
  simp only [scanned, List.mem_cons, not_or] at h
  simp [isInert, isQuote, h]

namespace Nesting

variable {s : Nesting} {c q : Char} {cs ds : List Char}

theorem after?_inert (h : isInert c) : outside.after? c = some outside := by
  simp only [isInert, Bool.and_eq_true, Bool.not_eq_true', bne_iff_ne] at h
  obtain ⟨⟨⟨hq, hopen⟩, hclose⟩, -⟩ := h
  simp [after?, outside, nextQuote, hq, hopen, hclose]

theorem after?_quote (h : isQuote q) : outside.after? q = some ⟨0, some q⟩ := by
  have hopen : q ≠ '(' := by
    rintro rfl
    exact absurd h (by decide)
  have hclose : q ≠ ')' := by
    rintro rfl
    exact absurd h (by decide)
  simp [after?, outside, nextQuote, h, hopen, hclose]

theorem after?_quoted {depth : Nat} :
    after? ⟨depth, some q⟩ c = some ⟨depth, if c = q then none else some q⟩ := by
  simp [after?, nextQuote]

end Nesting

namespace IsArgument

variable {c q : Char} {cs ds : List Char}

theorem nil : IsArgument [] :=
  ⟨rfl, trivial⟩

theorem append (h : IsArgument cs) (h' : IsArgument ds) : IsArgument (cs ++ ds) where
  closed := by rw [Nesting.afterAll?_append h.closed, h'.closed]
  undivided := h.undivided.append h.closed h'.undivided

theorem single (h : isInert c) : IsArgument [c] := by
  have hstep := Nesting.after?_inert h
  refine ⟨by simp [Nesting.afterAll?_cons, hstep], ?_, fun _ _ => trivial⟩
  rintro ⟨-, rfl⟩
  exact absurd h (by decide)

theorem of_inert (h : ∀ c ∈ cs, isInert c) : IsArgument cs := by
  induction cs with
  | nil => exact nil
  | cons c cs ih =>
    have hc := single (h c List.mem_cons_self)
    have hcs := ih fun d hd => h d (List.mem_cons_of_mem c hd)
    exact hc.append hcs

theorem quoted (hq : isQuote q) (h : q ∉ cs) : IsArgument (q :: (cs ++ [q])) := by
  have hopen := Nesting.after?_quote hq
  have hne : q ≠ ',' := by
    rintro rfl
    exact absurd hq (by decide)
  -- Inside of the quote nothing stops the scan before the quote that closes it.
  have hinner : Nesting.afterAll? ⟨0, some q⟩ (cs ++ [q]) = some .outside ∧
      Nesting.Undivided ⟨0, some q⟩ (cs ++ [q]) := by
    induction cs with
    | nil => simp [Nesting.afterAll?_cons, Nesting.after?_quoted, Nesting.Undivided, Nesting.outside]
    | cons c cs ih =>
      rw [List.mem_cons, not_or] at h
      have hc : c ≠ q := Ne.symm h.1
      obtain ⟨hclosed, hundivided⟩ := ih h.2
      constructor
      · rw [List.cons_append, Nesting.afterAll?_cons, Nesting.after?_quoted, if_neg hc]
        exact hclosed
      · refine ⟨by simp [Nesting.outside], ?_⟩
        simpa [Nesting.after?_quoted, hc] using hundivided
  constructor
  · rw [Nesting.afterAll?_cons, hopen]
    exact hinner.1
  · refine ⟨by simp [hne], ?_⟩
    simpa [hopen] using hinner.2

end IsArgument

section Closed

variable {s s' : Nesting} {c : Char} {cs rest : List Char}

theorem closed?_cons (h : s.after? c = some s') :
    closed? s.depth s.quote (c :: cs) = (closed? s'.depth s'.quote cs).map (c :: ·) := by
  obtain ⟨depth, quote⟩ := s
  simp only [Nesting.after?] at h
  rw [closed?.eq_def]
  dsimp only
  split at h
  · rename_i hopen
    cases h
    simp [hopen, nextQuote, isQuote]
  · rename_i hopen
    split at h
    · rename_i hclose
      cases depth with
      | zero => cases h
      | succ depth =>
        cases h
        simp [hclose, nextQuote, isQuote]
    · rename_i hclose
      cases h
      rw [if_neg hopen, if_neg hclose]

theorem closed?_append (h : s.afterAll? cs = some s') :
    closed? s.depth s.quote (cs ++ rest) = (closed? s'.depth s'.quote rest).map (cs ++ ·) := by
  induction cs generalizing s with
  | nil =>
    obtain rfl : s = s' := by simpa using h
    simp
  | cons c cs ih =>
    rw [Nesting.afterAll?_cons] at h
    obtain ⟨t, ht, hs⟩ := Option.bind_eq_some_iff.mp h
    rw [List.cons_append, closed?_cons ht, ih hs, Option.map_map]
    rfl

end Closed

section Segments

variable {s s' : Nesting} {c : Char} {cs rest piece : List Char} {pieces : List (List Char)}

theorem segments_cons (hc : ¬ (s = .outside ∧ c = ',')) (h : s.after? c = some s')
    (hp : segments s'.depth s'.quote cs = piece :: pieces) :
    segments s.depth s.quote (c :: cs) = (c :: piece) :: pieces := by
  obtain ⟨depth, quote⟩ := s
  have hcomma : ¬ (quote = none ∧ c = ',' ∧ (depth : Int) = 0) := by
    rintro ⟨rfl, rfl, hdepth⟩
    obtain rfl : depth = 0 := by omega
    exact hc ⟨rfl, rfl⟩
  simp only [Nesting.after?] at h
  rw [segments, if_neg hcomma]
  split at h
  · rename_i hopen
    cases h
    rw [Int.natCast_add] at hp
    simp_all [nextQuote, isQuote]
  · rename_i hopen
    split at h
    · rename_i hclose
      cases depth with
      | zero => cases h
      | succ depth =>
        cases h
        simp_all [nextQuote, isQuote]
    · rename_i hclose
      cases h
      rw [if_neg hopen, if_neg hclose]
      dsimp only
      rw [Int.add_zero, hp]

theorem segments_comma : segments 0 none (',' :: rest) = [] :: segments 0 none rest := by
  simp [segments]

theorem segments_append (h : s.Undivided cs) (hs : s.afterAll? cs = some .outside)
    (hp : segments 0 none rest = piece :: pieces) :
    segments s.depth s.quote (cs ++ rest) = (cs ++ piece) :: pieces := by
  induction cs generalizing s with
  | nil =>
    obtain rfl : s = .outside := by simpa using hs
    exact hp
  | cons c cs ih =>
    rw [Nesting.afterAll?_cons] at hs
    obtain ⟨t, ht, hs⟩ := Option.bind_eq_some_iff.mp hs
    exact segments_cons h.1 ht (ih (h.2 t ht) hs)

theorem IsArgument.segments_eq (h : IsArgument cs) : segments 0 none cs = [cs] := by
  have hnil : segments 0 none [] = [[]] := rfl
  have := segments_append h.undivided h.closed hnil
  rwa [List.append_nil] at this

theorem IsArgument.segments_cons (h : IsArgument cs) :
    segments 0 none (cs ++ ',' :: rest) = cs :: segments 0 none rest := by
  have hcomma : segments 0 none (',' :: rest) = [] :: segments 0 none rest := segments_comma
  have := segments_append h.undivided h.closed hcomma
  rwa [List.append_nil] at this

end Segments

variable {args : List (List Char)}

theorem join_eq_intercalate (separator : List Char) (pieces : List (List Char)) :
    join separator pieces = separator.intercalate pieces := by
  induction pieces with
  | nil => rfl
  | cons piece pieces ih =>
    cases pieces with
    | nil => simp [join]
    | cons next pieces =>
      rw [join, ih, List.intercalate_cons_cons]
      simp

theorem segments_join (hne : args ≠ []) (h : ∀ cs ∈ args, IsArgument cs) :
    segments 0 none (join [','] args) = args := by
  rw [join_eq_intercalate]
  induction args with
  | nil => exact absurd rfl hne
  | cons cs args ih =>
    have hcs := h cs List.mem_cons_self
    by_cases hargs : args = []
    · rw [hargs, List.intercalate_singleton]
      exact hcs.segments_eq
    · have hrest := ih hargs fun ds hds => h ds (List.mem_cons_of_mem cs hds)
      rw [List.intercalate_cons_of_ne_nil hargs, List.append_assoc, List.singleton_append,
        hcs.segments_cons, hrest]

theorem splitArguments_join (hne : args ≠ []) (h : ∀ cs ∈ args, IsArgument cs) :
    splitArguments (join [','] args) = args.map trim := by
  rw [splitArguments, segments_join hne h]

theorem afterAll?_join (h : ∀ cs ∈ args, IsArgument cs) :
    Nesting.outside.afterAll? (join [','] args) = some .outside := by
  have hcomma : Nesting.outside.afterAll? [','] = some .outside := by decide
  rw [join_eq_intercalate]
  induction args with
  | nil => rfl
  | cons cs args ih =>
    have hcs := (h cs List.mem_cons_self).closed
    by_cases hargs : args = []
    · rw [hargs, List.intercalate_singleton, hcs]
    · have hrest := ih fun ds hds => h ds (List.mem_cons_of_mem cs hds)
      rw [List.intercalate_cons_of_ne_nil hargs, List.append_assoc,
        Nesting.afterAll?_append hcs, Nesting.afterAll?_append hcomma, hrest]

theorem closed?_of_closed {cs : List Char} (h : Nesting.outside.afterAll? cs = some .outside)
    (rest : List Char) : closed? 0 none (cs ++ ')' :: rest) = some cs := by
  have hclose : closed? 0 none (')' :: rest) = some [] := by simp [closed?]
  have := @closed?_append _ _ _ (')' :: rest) h
  simpa [Nesting.outside, hclose] using this

/-- With a quote open, the text closes it and every other quote, and no comparison mark stands
outside of quotes. -/
def Unmarked : Option Char → List Char → Prop
  | quote, [] => quote = none
  | quote, c :: cs => ¬ (quote = none ∧ isComparisonMark c) ∧ Unmarked (nextQuote quote c) cs

instance decidableUnmarked : (quote : Option Char) → (cs : List Char) → Decidable (Unmarked quote cs)
  | quote, [] => inferInstanceAs (Decidable (quote = none))
  | quote, c :: cs =>
    have := decidableUnmarked (nextQuote quote c) cs
    inferInstanceAs
      (Decidable (¬ (quote = none ∧ isComparisonMark c) ∧ Unmarked (nextQuote quote c) cs))

namespace Unmarked

variable {quote : Option Char} {q : Char} {cs ds rest : List Char}

theorem append (h : Unmarked quote cs) (h' : Unmarked none ds) : Unmarked quote (cs ++ ds) := by
  induction cs generalizing quote with
  | nil =>
    obtain rfl : quote = none := h
    exact h'
  | cons c cs ih => exact ⟨h.1, ih h.2⟩

theorem of_not_mem_scanned (h : ∀ c ∈ cs, c ∉ scanned) : Unmarked none cs := by
  induction cs with
  | nil => rfl
  | cons c cs ih =>
    have hc := h c List.mem_cons_self
    simp only [scanned, List.mem_cons, not_or] at hc
    have hquote : isQuote c = false := by simp [isQuote, hc]
    have hmark : isComparisonMark c = false := by simp [isComparisonMark, hc]
    have hcs := ih fun d hd => h d (List.mem_cons_of_mem c hd)
    refine ⟨by simp [hmark], ?_⟩
    simpa [nextQuote, hquote] using hcs

theorem quoted (hq : isQuote q) (h : q ∉ cs) : Unmarked none (q :: (cs ++ [q])) := by
  have hmark : isComparisonMark q = false := by
    simp only [isQuote, Bool.or_eq_true, beq_iff_eq] at hq
    rcases hq with rfl | rfl <;> decide
  have hinner : Unmarked (some q) (cs ++ [q]) := by
    induction cs with
    | nil => simp [Unmarked, nextQuote]
    | cons c cs ih =>
      rw [List.mem_cons, not_or] at h
      have hc : c ≠ q := Ne.symm h.1
      refine ⟨by simp, ?_⟩
      simpa [nextQuote, hc] using ih h.2
  refine ⟨by simp [hmark], ?_⟩
  simpa [nextQuote, hq] using hinner

theorem splitConditionFrom_append (h : Unmarked quote cs) :
    splitConditionFrom quote (cs ++ rest) =
      (splitConditionFrom none rest).map fun p => (cs ++ p.1, p.2) := by
  induction cs generalizing quote with
  | nil =>
    obtain rfl : quote = none := h
    simp
  | cons c cs ih =>
    rw [List.cons_append, splitConditionFrom, if_neg h.1, ih h.2, Option.map_map]
    rfl

end Unmarked

end Spreadsheet.Formula
