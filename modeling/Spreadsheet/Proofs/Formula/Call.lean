import Mathlib
import Spreadsheet.Proofs.Formula.Words

namespace Spreadsheet.Formula

open Spreadsheet.Text

def callPieces (i : Identifier) (args : List (List Piece)) : List Piece :=
  .lexeme (.name i) :: .lexeme .openParen ::
    ([.lexeme .comma].intercalate args ++ [.lexeme .closeParen])

theorem written_callPieces (i : Identifier) (args : List (List Piece)) :
    written (callPieces i args) =
      i.name.toList ++ '(' :: (join [','] (args.map written) ++ [')']) := by
  simp [callPieces, written_intercalate, Identifier.name, Lexeme.chars]

namespace Written

variable {args : List (List Piece)} {es : List Expr}

theorem reads_intercalate (h : List.Forall₂ Written args es) (rest : List Char) :
    Reads ([.lexeme .comma].intercalate args) (')' :: rest) := by
  induction h with
  | nil => exact .nil
  | @cons ps e args es hp hargs ih =>
    cases args with
    | nil =>
      rw [List.intercalate_singleton]
      exact hp.reads _ (by simp [Delimits])
    | cons qs args =>
      rw [List.intercalate_cons_cons, List.append_assoc]
      refine Reads.append (hp.reads _ ?_) (ih.lexeme fun _ _ => trivial)
      simp [Lexeme.chars, Delimits]

theorem exists_arguments (h : List.Forall₂ Written args es) :
    ∃ a : Arguments, a.tokens = [.comma].intercalate (args.map lexed) ∧ a.trees = es := by
  induction h with
  | nil => exact ⟨.none, rfl, rfl⟩
  | @cons ps e args es hp hargs ih =>
    obtain ⟨d, htokens, rfl⟩ := hp.derives
    obtain ⟨a, hatokens, rfl⟩ := ih
    cases a with
    | none =>
      cases hargs with
      | nil => exact ⟨.some d .done, by simp [Arguments.tokens, MoreArguments.tokens, htokens], rfl⟩
    | some next rest =>
      cases hargs with
      | cons _ _ =>
        refine ⟨.some d (.more next rest), ?_, rfl⟩
        simp only [List.map_cons] at hatokens ⊢
        rw [List.intercalate_cons_cons, ← hatokens, ← htokens]
        simp [Arguments.tokens, MoreArguments.tokens]

theorem call (h : List.Forall₂ Written args es) (i : Identifier) :
    Written (callPieces i args) (.call i.name es) where
  reads rest _ := .call i (reads_intercalate h rest)
  derives := by
    obtain ⟨a, htokens, rfl⟩ := exists_arguments h
    have hcall : Derives .call (lexed (callPieces i args)) (.call i.name a.trees) := by
      refine ⟨.call i.name a, ?_, rfl⟩
      simp [Derivation.tokens, callPieces, Lexeme.token, htokens, lexed_intercalate]
    exact hcall.comparison

end Written

/-- A call stands between the blanks around it, whatever is between its parentheses. -/
theorem isBody_call {c : Char} (hblank : isBlank c = false) (hequals : c ≠ '=')
    (cs inner : List Char) : IsBody (c :: cs ++ '(' :: (inner ++ [')'])) := by
  have hclose : isBlank ')' = false := by decide
  refine ⟨List.cons_ne_nil _ _, ⟨by simpa using hblank, ?_⟩, by simpa using hequals⟩
  rw [List.getLast?_append_of_ne_nil _ (List.cons_ne_nil _ _), ← List.cons_append,
    List.getLast?_concat]
  simpa using hclose

theorem isBody_callPieces (i : Identifier) (args : List (List Piece)) :
    IsBody (written (callPieces i args)) := by
  have hequals : i.first ≠ '=' := by
    intro he
    have hstart := i.isStart
    rw [he] at hstart
    exact absurd hstart (by decide)
  rw [written_callPieces, Identifier.name, String.toList_ofList]
  exact isBody_call (isBlank_of_isNameStart i.isStart) hequals i.rest _

section Search

variable {w v p inner : List Char}

theorem prefix_opening_iff (hw : '(' ∉ w) (hp : '(' ∉ p) :
    w ++ '(' :: v <+: p ++ '(' :: inner ↔ w = p ∧ v <+: inner := by
  constructor
  · rintro ⟨t, ht⟩
    have htake : ∀ (q r : List Char), '(' ∉ q → (q ++ '(' :: r).takeWhile (· != '(') = q := by
      intro q r hq
      refine takeWhile_append_stop (fun c hc => ?_) (by simp)
      have hne : c ≠ '(' := by
        rintro rfl
        exact hq hc
      simpa using hne
    rw [List.append_assoc, List.cons_append] at ht
    obtain rfl : w = p := by rw [← htake w (v ++ t) hw, ht, htake p inner hp]
    exact ⟨rfl, t, List.cons_injective (List.append_cancel_left ht)⟩
  · rintro ⟨rfl, t, rfl⟩
    exact ⟨t, by simp⟩

theorem isInfix_opening_iff (hw : '(' ∉ w) (hp : '(' ∉ p) :
    w ++ '(' :: v <:+: p ++ '(' :: inner ↔ (w <:+ p ∧ v <+: inner) ∨ w ++ '(' :: v <:+: inner := by
  induction p with
  | nil =>
    have hbegin : w ++ '(' :: v <+: '(' :: inner ↔ w = [] ∧ v <+: inner :=
      prefix_opening_iff hw hp
    rw [List.nil_append, List.infix_cons_iff, hbegin, List.suffix_nil]
  | cons c p ih =>
    have hbegin : w ++ '(' :: v <+: c :: (p ++ '(' :: inner) ↔ w = c :: p ∧ v <+: inner :=
      prefix_opening_iff hw hp
    rw [List.mem_cons, not_or] at hp
    rw [List.cons_append, List.infix_cons_iff, hbegin, ih hp.2, List.suffix_cons_iff, or_and_right,
      or_assoc]

end Search

theorem openings_apart : openings.Pairwise fun o o' => ¬ o.1.toList <:+ o'.1.toList := by
  decide

theorem openings_plain : ∀ o ∈ openings, (o.1.toList ++ ['(']).all (!isBlank ·) ∧
    '(' ∉ o.1.toList := by
  decide

theorem isBlank_opening {o : String × Form} (ho : o ∈ openings) :
    ∀ c ∈ o.1.toList ++ ['('], isBlank c = false :=
  isBlank_of_all (openings_plain o ho).1

/-- A call is taken for what its function is, unless a function that is looked for earlier is called
in what follows. -/
theorem formOf_call {earlier later : List (String × Form)} {o : String × Form}
    (ho : openings = earlier ++ o :: later) {inner : List Char}
    (h : ∀ o' ∈ earlier, ¬ o'.1.toList ++ ['('] <:+: inner) (b : Blanks) :
    formOf (b.chars ++ (o.1.toList ++ '(' :: inner)) = o.2 := by
  have hmem : ∀ o' ∈ earlier ++ o :: later, o' ∈ openings := by simp [ho]
  have hcontains : ∀ o' ∈ openings, contains (o'.1.toList ++ ['('])
      (b.chars ++ (o.1.toList ++ '(' :: inner)) = true ↔
        o'.1.toList <:+ o.1.toList ∨ o'.1.toList ++ ['('] <:+: inner := by
    intro o' ho'
    have hparen := (openings_plain o' ho').2
    have hparen' := (openings_plain o (hmem o (by simp))).2
    rw [contains_iff_isInfix, isInfix_blanks_append (by simp) (isBlank_opening ho'),
      isInfix_opening_iff hparen hparen']
    simp
  have hfind : (openings.find? fun o' => contains (o'.1.toList ++ ['('])
      (b.chars ++ (o.1.toList ++ '(' :: inner))) = some o := by
    rw [List.find?_eq_some_iff_append]
    refine ⟨(hcontains o (hmem o (by simp))).mpr (.inl (List.suffix_refl _)), earlier, later, ho, ?_⟩
    intro o' ho'
    have hapart := openings_apart
    rw [ho, List.pairwise_append] at hapart
    have hsuffix := hapart.2.2 o' ho' o List.mem_cons_self
    rw [Bool.not_eq_true', ← Bool.not_eq_true, hcontains o' (hmem o' (by simp [ho'])), not_or]
    exact ⟨hsuffix, h o' ho'⟩
  rw [formOf, hfind]

theorem not_today_of_opening {o : String × Form} (ho : o ∈ openings) {inner : List Char}
    (h : ¬ "TODAY()".toList <:+: inner) : ¬ "TODAY()".toList <:+: o.1.toList ++ '(' :: inner := by
  have hsuffix : ∀ o ∈ openings, ¬ "TODAY".toList <:+ o.1.toList := by decide
  have htoday : "TODAY()".toList = "TODAY".toList ++ '(' :: [')'] := rfl
  rw [htoday] at h ⊢
  rw [isInfix_opening_iff (by decide) (openings_plain o ho).2]
  rintro (⟨h', -⟩ | h')
  · exact hsuffix o ho h'
  · exact h h'

theorem isBody_opening {o : String × Form} (ho : o ∈ openings) (inner : List Char) :
    IsBody (o.1.toList ++ '(' :: (inner ++ [')'])) := by
  have hfirst : ∀ o ∈ openings, o.1.toList.head?.any fun c => !isBlank c && c != '=' := by decide
  have hplain := hfirst o ho
  obtain ⟨c, cs, ho'⟩ : ∃ c cs, o.1.toList = c :: cs := by
    refine List.exists_cons_of_ne_nil fun hnil => ?_
    simp [hnil] at hplain
  rw [ho'] at hplain ⊢
  simp only [List.head?_cons, Option.any_some, Bool.and_eq_true, Bool.not_eq_true', bne_iff_ne]
    at hplain
  exact isBody_call hplain.1 hplain.2 cs inner

theorem splitOnce_append (needle rest : List Char) :
    splitOnce needle (needle ++ rest) = some ([], rest) := by
  cases h : needle ++ rest with
  | nil =>
    obtain ⟨rfl, rfl⟩ := List.append_eq_nil_iff.mp h
    rfl
  | cons c cs => rw [splitOnce, isPrefixOf?_eq_some_iff.mpr h.symm]

theorem callArguments?_of_closed {cs : List Char} (h : Nesting.outside.afterAll? cs = some .outside)
    (name rest : List Char) :
    callArguments? name (name ++ '(' :: (cs ++ ')' :: rest)) = some cs := by
  have hsplit := splitOnce_append (name ++ ['(']) (cs ++ ')' :: rest)
  rw [List.append_assoc, List.singleton_append] at hsplit
  rw [callArguments?, hsplit]
  exact closed?_of_closed h rest

theorem callArguments?_blanks {name cs : List Char} (h : ∀ c ∈ name ++ ['('], isBlank c = false)
    (b : Blanks) : callArguments? name (b.chars ++ cs) = callArguments? name cs := by
  rw [callArguments?, callArguments?, splitOnce_blanks_append (by simp) h, Option.bind_map]
  rfl

theorem argumentsOf_call {o : String × Form} (ho : o ∈ openings) {cs : List Char}
    (h : Nesting.outside.afterAll? cs = some .outside) (b : Blanks) :
    argumentsOf o.1 (b.chars ++ (o.1.toList ++ '(' :: (cs ++ [')']))) = .ok cs := by
  rw [argumentsOf, callArguments?_blanks (isBlank_opening ho), callArguments?_of_closed h]

end Spreadsheet.Formula
