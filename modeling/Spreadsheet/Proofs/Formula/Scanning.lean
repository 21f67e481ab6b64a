import Mathlib
import Spreadsheet.Proofs.Formula.Lexeme

namespace Spreadsheet.Formula

open Spreadsheet.Text

/-- A scan takes characters from the front of a text, and the same from a text that is cut off behind
them. -/
structure IsScan (scan : List Char → List Char × List Char) : Prop where
  suffix (cs : List Char) : (scan cs).2 <:+ cs
  cut {cs rest tail : List Char} (h : (scan (cs ++ tail)).2 = rest ++ tail) :
    scan cs = ((scan (cs ++ tail)).1, rest)

/-- The second scan reads what the first one leaves. -/
def andThen (first second : List Char → List Char × List Char) (cs : List Char) :
    List Char × List Char :=
  ((first cs).1 ++ (second (first cs).2).1, (second (first cs).2).2)

def marked (p : Char → Bool) (f : Char → Char) (scan : List Char → List Char × List Char) :
    List Char → List Char × List Char
  | [] => ([], [])
  | c :: cs => if p c then (f c :: (scan cs).1, (scan cs).2) else ([], c :: cs)

section

variable {p : Char → Bool} {cs rest tail : List Char}

/-- A cut behind the place where the scan ends leaves what is taken as it is. -/
theorem span_cut (h : (cs ++ tail).dropWhile p = rest ++ tail) :
    cs.takeWhile p = (cs ++ tail).takeWhile p ∧ cs.dropWhile p = rest := by
  have htake : ∀ c ∈ (cs ++ tail).takeWhile p, p c := fun c hc => List.mem_takeWhile_imp hc
  have hhead : ∀ c ∈ rest.head?, p c = false := by
    intro c hc
    have hstop := List.head?_dropWhile_not p (cs ++ tail)
    obtain ⟨ds, rfl⟩ := List.head?_eq_some_iff.mp hc
    rw [h] at hstop
    exact hstop
  have hcs : cs = (cs ++ tail).takeWhile p ++ rest := by
    have happend := List.takeWhile_append_dropWhile (p := p) (l := cs ++ tail)
    rw [h, ← List.append_assoc] at happend
    exact (List.append_cancel_right happend).symm
  constructor
  · conv_lhs => rw [hcs, takeWhile_append_stop htake hhead]
  · conv_lhs => rw [hcs, dropWhile_append_stop htake hhead]

end

namespace IsScan

variable {first second scan : List Char → List Char × List Char}

theorem nothing : IsScan fun cs => ([], cs) where
  suffix _ := List.suffix_rfl
  cut h := by rw [List.append_cancel_right h]

theorem digits : IsScan spanDigits where
  suffix _ := List.dropWhile_suffix _
  cut h := by
    obtain ⟨htake, hdrop⟩ := span_cut h
    rw [spanDigits, spanDigits, htake, hdrop]

theorem andThen (h : IsScan first) (h' : IsScan second) : IsScan (andThen first second) where
  suffix cs := (h'.suffix _).trans (h.suffix cs)
  cut {cs rest tail} heq := by
    obtain ⟨taken, htaken⟩ := h'.suffix (first (cs ++ tail)).2
    rw [Formula.andThen] at heq
    rw [heq, ← List.append_assoc] at htaken
    rw [← htaken] at heq
    have hfirst := h.cut htaken.symm
    have hsecond := h'.cut heq
    rw [Formula.andThen, Formula.andThen, hfirst, hsecond, ← htaken]

theorem marked (p : Char → Bool) (f : Char → Char) (h : IsScan scan) : IsScan (marked p f scan) where
  suffix cs := by
    cases cs with
    | nil => exact List.suffix_rfl
    | cons c cs =>
      rw [Formula.marked]
      split
      · exact (h.suffix cs).trans (List.suffix_cons c cs)
      · exact List.suffix_rfl
  cut {cs rest tail} heq := by
    cases cs with
    | nil =>
      cases tail with
      | nil => simp_all [Formula.marked]
      | cons c tail =>
        rw [List.nil_append, Formula.marked] at heq ⊢
        split at heq
        · have hlength := (h.suffix tail).length_le
          rw [heq, List.length_append, List.length_cons] at hlength
          omega
        · rename_i hc
          rw [if_neg hc, List.self_eq_append_left.mp heq]
          rfl
    | cons c cs =>
      rw [List.cons_append, Formula.marked] at heq ⊢
      rw [Formula.marked]
      split at heq
      · rename_i hc
        rw [if_pos hc, if_pos hc, h.cut heq]
      · rename_i hc
        have hrest : c :: cs = rest := List.append_cancel_right heq
        rw [if_neg hc, if_neg hc, hrest]

end IsScan

theorem spanNumber_eq_andThen : spanNumber =
    andThen (andThen spanDigits (marked (· == '.') id spanDigits))
      (marked (fun c => c == 'e' || c == 'E') (fun _ => 'e')
        (andThen (marked (fun c => c == '+' || c == '-') id fun cs => ([], cs)) spanDigits)) := by
  funext cs
  unfold spanNumber
  extract_lets whole fraction exponent
  have hfraction : fraction = marked (· == '.') id spanDigits whole.2 := by
    unfold fraction
    split
    · rename_i ds hds
      rw [hds]
      rfl
    · rename_i hpoint
      cases hds : whole.2 with
      | nil => rfl
      | cons c ds =>
        have hc : c ≠ '.' := by
          rintro rfl
          exact hpoint ds hds
        simp [marked, hc]
  have hexponent : exponent = marked (fun c => c == 'e' || c == 'E') (fun _ => 'e')
      (andThen (marked (fun c => c == '+' || c == '-') id fun cs => ([], cs)) spanDigits)
      fraction.2 := by
    unfold exponent
    split
    · rename_i c ds hds
      rw [hds]
      split_ifs with hc
      · split
        · split_ifs with hsign <;> simp [marked, andThen, hc, hsign]
        · simp [marked, andThen, hc, spanDigits]
      · simp [marked, hc]
    · rename_i hnil
      rw [hnil]
      rfl
  rw [hexponent, hfraction]
  rfl

theorem isScan_spanNumber : IsScan spanNumber := by
  rw [spanNumber_eq_andThen]
  have hsign := IsScan.nothing.marked (fun c => c == '+' || c == '-') id
  have hexponent := (hsign.andThen .digits).marked (fun c => c == 'e' || c == 'E') fun _ => 'e'
  exact (IsScan.digits.andThen (.marked _ id .digits)).andThen hexponent

section

variable {c q : Char} {cs s rest tail : List Char} {t : Token}

theorem eq_doubled_of_quoted? (h : quoted? q cs = some (s, rest)) :
    cs = doubled q s ++ q :: rest ∧ ∀ c ∈ rest.head?, c ≠ q := by
  fun_induction quoted? q cs generalizing s with
  | case1 => cases h
  | case2 =>
    cases h
    simp [doubled]
  | case3 => cases h
  | case4 ds ih =>
    obtain ⟨p, hp, heq⟩ := Option.map_eq_some_iff.mp h
    cases heq
    obtain ⟨hds, hrest⟩ := ih hp
    refine ⟨?_, hrest⟩
    rw [hds]
    simp [doubled]
  | case5 d ds hd =>
    cases h
    refine ⟨rfl, ?_⟩
    simpa using hd
  | case6 c d ds hc ih =>
    obtain ⟨p, hp, heq⟩ := Option.map_eq_some_iff.mp h
    cases heq
    obtain ⟨hds, hrest⟩ := ih hp
    refine ⟨?_, hrest⟩
    rw [hds]
    simp [doubled, hc]

theorem eq_append_of_bracketed? (h : bracketed? cs = some (s, rest)) :
    cs = s ++ ']' :: rest ∧ ']' ∉ s := by
  have happend := List.takeWhile_append_dropWhile (p := (· != ']')) (l := cs)
  have hhead := List.head?_dropWhile_not (· != ']') cs
  unfold bracketed? at h
  split at h
  · rename_i d ds hds
    cases h
    rw [hds] at happend hhead
    obtain rfl : d = ']' := by simpa using hhead
    refine ⟨happend.symm, fun hmem => ?_⟩
    simpa using List.mem_takeWhile_imp hmem
  · cases h

theorem eq_symbol_of_operator? {op : Operator} (h : operator? c cs = some (op, rest)) :
    op ∈ Operator.all ∧ c :: cs = op.symbol.toList ++ rest ∧ ∀ d ∈ rest.head?, d ∉ op.longer := by
  unfold operator? at h
  split at h <;> cases h <;> refine ⟨by simp [Operator.all], rfl, fun d hd hlonger => ?_⟩ <;>
    obtain ⟨ds, rfl⟩ := List.head?_eq_some_iff.mp hd <;> simp_all [Operator.longer]

theorem exists_lexeme_of_name (hc : isNameStart c) :
    ∃ l : Lexeme, c :: cs = l.chars ++ cs.dropWhile isNamePart ∧
      l.token = .name (String.ofList (c :: cs.takeWhile isNamePart)) ∧
        ∀ d ∈ (cs.dropWhile isNamePart).head?, l.Stops d := by
  refine ⟨.name ⟨c, cs.takeWhile isNamePart, hc, fun d hd => List.mem_takeWhile_imp hd⟩, ?_, rfl, ?_⟩
  · exact congrArg (c :: ·) List.takeWhile_append_dropWhile.symm
  · intro d hd
    have hstop := List.head?_dropWhile_not isNamePart cs
    rw [Option.mem_def.mp hd] at hstop
    exact hstop

theorem exists_lexeme (h : lexeme c cs = .ok (t, rest)) :
    (∃ l : Lexeme, c :: cs = l.chars ++ rest ∧ l.token = t ∧ ∀ d ∈ rest.head?, l.Stops d) ∨
      ((c.isDigit ∨ c = '.') ∧ (spanNumber (c :: cs)).2 = rest) := by
  unfold lexeme at h
  split at h
  · rename_i hc
    split at h
    · rename_i s ds hs
      cases h
      obtain ⟨rfl, hstop⟩ := eq_doubled_of_quoted? hs
      obtain ⟨quote, rfl⟩ : ∃ quote : Quote, quote.char = c := by
        rcases hc with rfl | rfl
        · exact ⟨.double, rfl⟩
        · exact ⟨.single, rfl⟩
      exact .inl ⟨.text quote (String.ofList s), by simp [Lexeme.chars], rfl, hstop⟩
    · cases h
  split at h
  · rename_i hc
    split at h
    · rename_i s ds hs
      split at h
      · cases h
      · rename_i hblank
        cases h
        obtain ⟨rfl, hclosed⟩ := eq_append_of_bracketed? hs
        rw [Bool.not_eq_true] at hblank
        exact .inl ⟨.column ⟨s, hblank, hclosed⟩, by simp [Lexeme.chars, hc], rfl, fun _ _ => trivial⟩
    · cases h
  split at h
  · rename_i hc
    cases h
    exact .inl ⟨.openParen, by simp [Lexeme.chars, hc], rfl, fun _ _ => trivial⟩
  split at h
  · rename_i hc
    cases h
    exact .inl ⟨.closeParen, by simp [Lexeme.chars, hc], rfl, fun _ _ => trivial⟩
  split at h
  · rename_i hc
    cases h
    exact .inl ⟨.comma, by simp [Lexeme.chars, hc], rfl, fun _ _ => trivial⟩
  split at h
  · cases h
  split at h
  · rename_i hop
    cases h
    obtain ⟨hall, hchars, hstop⟩ := eq_symbol_of_operator? hop
    exact .inl ⟨.operator _ hall, hchars, rfl, hstop⟩
  split at h
  · rename_i hc
    dsimp only at h
    split at h
    -- A numeral may end where its literal would go on, as at the second point of `1.5.3`.
    · cases h
      exact .inr ⟨hc, rfl⟩
    · cases h
  split at h
  · rename_i hc
    cases h
    exact .inl (exists_lexeme_of_name hc)
  · cases h

theorem lexeme_suffix (h : lexeme c cs = .ok (t, rest)) : rest <:+ cs := by
  rcases exists_lexeme h with ⟨l, hchars, -, hstop⟩ | ⟨hc, rfl⟩
  · obtain ⟨d, ds, hl, -⟩ := l.lexeme_chars hstop
    rw [hl] at hchars
    cases hchars
    exact List.suffix_append ds rest
  · rcases List.suffix_cons_iff.mp (isScan_spanNumber.suffix (c :: cs)) with hs | hs
    · have hlength := spanNumber_length hc cs
      rw [hs, List.length_cons] at hlength
      omega
    · exact hs

theorem lexeme_cut (h : lexeme c (cs ++ tail) = .ok (t, rest ++ tail)) :
    lexeme c cs = .ok (t, rest) := by
  rcases exists_lexeme h with ⟨l, hchars, rfl, hstop⟩ | ⟨hc, hspan⟩
  · have hcs : c :: cs = l.chars ++ rest := by
      rw [← List.cons_append, ← List.append_assoc] at hchars
      exact List.append_cancel_right hchars
    have hend : ∀ d ∈ rest.head?, l.Stops d := by
      intro d hd
      obtain ⟨es, rfl⟩ := List.head?_eq_some_iff.mp hd
      exact hstop d rfl
    obtain ⟨d, ds, hl, -, hread⟩ := l.lexeme_chars hend
    rw [hl] at hcs
    cases hcs
    exact hread
  · have hcut := @IsScan.cut _ isScan_spanNumber (c :: cs) rest tail hspan
    rw [List.cons_append] at hcut
    rw [lexeme_numeral hc] at h ⊢
    rw [hcut]
    split at h
    · rename_i x hx
      obtain ⟨rfl, -⟩ := Prod.mk.inj (Except.ok.inj h)
      rw [hx]
    · cases h

end

end Spreadsheet.Formula
