import Mathlib
import Spreadsheet.Formula.Substitution
import Spreadsheet.Proofs.Formula.Words

namespace Spreadsheet.Formula

open Spreadsheet.Text

/-- The characters of plain names. -/
def isPlain (c : Char) : Bool :=
  c.isAlphanum || c == '_'

/-- A nonempty name of ASCII letters, digits and underscores that does not begin with a digit. -/
def isPlainName (name : String) : Bool :=
  name.toList.head?.any (!·.isDigit) && name.toList.all isPlain

section Characters

variable {c : Char}

theorem lt_of_isPlain (h : isPlain c) : c.toNat < 0x80 := by
  simp only [isPlain, Char.isAlphanum, Char.isAlpha, Char.isUpper, Char.isLower, Char.isDigit,
    Bool.or_eq_true, Bool.and_eq_true, decide_eq_true_eq, beq_iff_eq, ge_iff_le,
    UInt32.le_iff_toNat_le] at h
  change c.val.toNat < 0x80
  rcases h with ((⟨-, h⟩ | ⟨-, h⟩) | ⟨-, h⟩) | rfl
  · exact h.trans_lt (by decide)
  · exact h.trans_lt (by decide)
  · exact h.trans_lt (by decide)
  · decide

theorem isWord_of_isPlain (h : isPlain c) : isWord c := by
  rw [isWord, if_pos (lt_of_isPlain h)]
  exact h

theorem isWordEdge_of_isPlain (h : isPlain c) : isWordEdge c :=
  ascii_of_lt (p := fun c => isPlain c → isWordEdge c) (by decide +kernel) (lt_of_isPlain h) h

theorem isWord_of_isBlank (h : isBlank c) : isWord c = false := by
  by_cases hc : c.toNat < 0x80
  · exact ascii_of_lt (p := fun c => isBlank c → isWord c = false) (by decide +kernel) hc h
  · rw [isWord, if_neg hc]
    exact not_inRanges_of_disjoint (by decide +kernel) h

theorem not_plain_of_not_word (h : isWord c = false) : isPlain c = false := by
  by_contra hp
  rw [Bool.not_eq_false] at hp
  rw [isWord_of_isPlain hp] at h
  cases h

theorem isPlain_of_isBlank (h : isBlank c) : isPlain c = false :=
  not_plain_of_not_word (isWord_of_isBlank h)

end Characters

theorem isPlain_of_mem {name : String} (h : isPlainName name) : ∀ c ∈ name.toList, isPlain c := by
  rw [isPlainName, Bool.and_eq_true] at h
  exact List.all_eq_true.mp h.2

theorem exists_first {name : String} (h : isPlainName name) :
    ∃ c cs, name.toList = c :: cs ∧ isPlain c ∧ c.isDigit = false := by
  have hplain := isPlain_of_mem h
  rw [isPlainName, Bool.and_eq_true] at h
  cases hname : name.toList with
  | nil => simp [hname] at h
  | cons c cs =>
    refine ⟨c, cs, rfl, hplain c (by simp [hname]), ?_⟩
    simpa [hname] using h.1

section Patterns

variable {name : String} {before : Option Char} {cs rest : List Char}

theorem boundedBefore_ofName (h : isPlainName name) :
    (NamePattern.ofName name).boundedBefore = true := by
  obtain ⟨c, cs, hname, hc, -⟩ := exists_first h
  simp [NamePattern.ofName, hname, isWordEdge_of_isPlain hc]

theorem exists_last (h : isPlainName name) : ∃ c, name.toList.getLast? = some c ∧ isPlain c := by
  obtain ⟨c, cs, hname, -, -⟩ := exists_first h
  have hlast : name.toList.getLast? = some ((c :: cs).getLast (by simp)) := by
    rw [hname, List.getLast?_eq_some_getLast]
  exact ⟨_, hlast, isPlain_of_mem h _ (List.mem_of_getLast? hlast)⟩

theorem boundedAfter_ofName (h : isPlainName name) :
    (NamePattern.ofName name).boundedAfter = true := by
  obtain ⟨c, hlast, hc⟩ := exists_last h
  simp [NamePattern.ofName, hlast, isWordEdge_of_isPlain hc]

theorem eq_of_append_eq_append {ds rest' : List Char} (hcs : ∀ c ∈ cs, isPlain c)
    (hds : ∀ c ∈ ds, isPlain c) (hr : ∀ c ∈ rest.head?, isPlain c = false)
    (hr' : ∀ c ∈ rest'.head?, isPlain c = false) (h : cs ++ rest = ds ++ rest') : cs = ds := by
  rw [← takeWhile_append_stop hcs hr, h, takeWhile_append_stop hds hr']

/-- Where a word begins, a plain name matches that word only. -/
theorem matchesAt_word (hname : isPlainName name) (hbefore : before.any isWord = false)
    (hcs : ∀ c ∈ cs, isPlain c) (hne : cs ≠ []) (hr : ∀ c ∈ rest.head?, isWord c = false) :
    (NamePattern.ofName name).matchesAt before (cs ++ rest) = true ↔ name.toList = cs := by
  have hhead : (cs ++ rest).head?.any isWord = true := by
    obtain ⟨c, ds, rfl⟩ := List.exists_cons_of_ne_nil hne
    exact isWord_of_isPlain (hcs c List.mem_cons_self)
  have hlast : (NamePattern.ofName name).name.getLast?.any isWord = true := by
    obtain ⟨c, hlast, hc⟩ := exists_last hname
    simpa [NamePattern.ofName, hlast] using isWord_of_isPlain hc
  have hplain : ∀ c ∈ rest.head?, isPlain c = false := fun c hc => not_plain_of_not_word (hr c hc)
  rw [NamePattern.matchesAt]
  split
  · rename_i rest' hbegin
    rw [isPrefixOf?_eq_some_iff] at hbegin
    rw [boundedBefore_ofName hname, boundedAfter_ofName hname, isBoundary, isBoundary, hbefore,
      hhead, hlast]
    simp only [Bool.not_true, Bool.false_or, Bool.false_bne, Bool.true_and, Bool.true_bne,
      Bool.not_eq_true']
    constructor
    · intro hafter
      refine (eq_of_append_eq_append hcs (isPlain_of_mem hname) hplain (fun c hc => ?_) hbegin).symm
      by_contra hc'
      rw [Bool.not_eq_false] at hc'
      rw [Option.mem_def.mp hc] at hafter
      simp [isWord_of_isPlain hc'] at hafter
    · intro heq
      obtain rfl : rest = rest' := List.append_cancel_left (hbegin.trans (by rw [← heq]; rfl))
      cases hrest : rest with
      | nil => rfl
      | cons c ds => simpa using hr c (by rw [hrest]; rfl)
  · rename_i hbegin
    rw [isPrefixOf?_eq_none_iff] at hbegin
    simp only [Bool.false_eq_true, false_iff]
    rintro rfl
    exact hbegin (List.prefix_append _ _)

theorem matchesAt_other {c : Char} (hname : isPlainName name)
    (hc : isPlain c = false ∨ c.isDigit) :
    (NamePattern.ofName name).matchesAt before (c :: cs) = false := by
  obtain ⟨d, ds, hfirst, hd, hdigit⟩ := exists_first hname
  have hbegin : (NamePattern.ofName name).name.isPrefixOf? (c :: cs) = none := by
    rw [isPrefixOf?_eq_none_iff, NamePattern.ofName, hfirst, List.cons_prefix_cons]
    rintro ⟨rfl, -⟩
    rcases hc with hc | hc
    · rw [hd] at hc
      cases hc
    · rw [hdigit] at hc
      cases hc
  rw [NamePattern.matchesAt, hbegin]

theorem matchesAt_inside {c : Char} (hname : isPlainName name) (hbefore : before.any isWord = true)
    (hc : isWord c) : (NamePattern.ofName name).matchesAt before (c :: cs) = false := by
  rw [NamePattern.matchesAt]
  split
  · rw [boundedBefore_ofName hname, isBoundary, hbefore]
    simp [hc]
  · rfl

end Patterns

section Replacement

variable {names : List String} {value : List Char → List Char} {before : Option Char}
  {cs rest : List Char}

theorem getLast?_cons_or (c : Char) (cs : List Char) (before : Option Char) :
    (c :: cs).getLast?.or before = cs.getLast?.or (some c) := by
  cases cs with
  | nil => rfl
  | cons d cs => simp [List.getLast?_eq_some_getLast]

theorem substituteFrom_skip (patterns : List NamePattern) :
    substituteFrom patterns value cs.length before (cs ++ rest) =
      substituteFrom patterns value 0 (cs.getLast?.or before) rest := by
  induction cs generalizing before with
  | nil => simp
  | cons c cs ih =>
    rw [List.length_cons, List.cons_append, substituteFrom, ih, getLast?_cons_or]

theorem exists_toList_eq_cons {name : String} (h : name ≠ "") : ∃ c cs, name.toList = c :: cs :=
  List.exists_cons_of_ne_nil (by simpa using h)

/-- The name that is found at a place is replaced as a whole. -/
theorem substituteFrom_found {patterns : List NamePattern} {name : String} (hne : name ≠ "")
    (hfind : patterns.find? (·.matchesAt before (name.toList ++ rest)) = some (.ofName name)) :
    substituteFrom patterns value 0 before (name.toList ++ rest) =
      value name.toList ++
        substituteFrom patterns value 0 (name.toList.getLast?.or before) rest := by
  obtain ⟨c, cs, hchars⟩ := exists_toList_eq_cons hne
  have hskip : substituteFrom patterns value cs.length (some c) (cs ++ rest) = _ :=
    substituteFrom_skip patterns
  have hpattern : (NamePattern.ofName name).name = c :: cs := hchars
  rw [hchars, List.cons_append] at hfind ⊢
  rw [substituteFrom, hfind]
  simp only [hpattern, List.length_cons, Nat.add_sub_cancel, hskip, getLast?_cons_or]

theorem substituteFrom_kept {c : Char}
    (h : ∀ name ∈ names, (NamePattern.ofName name).matchesAt before (c :: cs) = false) :
    substituteFrom (namePatterns names) value 0 before (c :: cs) =
      c :: substituteFrom (namePatterns names) value 0 (some c) cs := by
  have hfind : (namePatterns names).find? (·.matchesAt before (c :: cs)) = none := by
    rw [List.find?_eq_none, namePatterns]
    intro p hp
    obtain ⟨name, hname, rfl⟩ := List.mem_map.mp hp
    simp [h name hname]
  rw [substituteFrom, hfind]

theorem substituteFrom_other (h : ∀ name ∈ names, isPlainName name)
    (hcs : ∀ c ∈ cs, isPlain c = false ∨ c.isDigit) :
    substituteFrom (namePatterns names) value 0 before (cs ++ rest) =
      cs ++ substituteFrom (namePatterns names) value 0 (cs.getLast?.or before) rest := by
  induction cs generalizing before with
  | nil => simp
  | cons c cs ih =>
    rw [List.cons_append,
      substituteFrom_kept fun name hname => matchesAt_other (h name hname) (hcs c List.mem_cons_self),
      ih fun d hd => hcs d (List.mem_cons_of_mem c hd), getLast?_cons_or]
    rfl

theorem substituteFrom_inside (h : ∀ name ∈ names, isPlainName name) (hcs : ∀ c ∈ cs, isPlain c)
    (hbefore : before.any isWord = true) :
    substituteFrom (namePatterns names) value 0 before (cs ++ rest) =
      cs ++ substituteFrom (namePatterns names) value 0 (cs.getLast?.or before) rest := by
  induction cs generalizing before with
  | nil => simp
  | cons c cs ih =>
    have hc : isWord c := isWord_of_isPlain (hcs c List.mem_cons_self)
    rw [List.cons_append,
      substituteFrom_kept fun name hname => matchesAt_inside (h name hname) hbefore hc,
      ih (fun d hd => hcs d (List.mem_cons_of_mem c hd)) (by simpa using hc), getLast?_cons_or]
    rfl

theorem substituteFrom_unknown (h : ∀ name ∈ names, isPlainName name) (hcs : ∀ c ∈ cs, isPlain c)
    (hne : cs ≠ []) (hunknown : ∀ name ∈ names, name.toList ≠ cs)
    (hbefore : before.any isWord = false) (hr : ∀ c ∈ rest.head?, isWord c = false) :
    substituteFrom (namePatterns names) value 0 before (cs ++ rest) =
      cs ++ substituteFrom (namePatterns names) value 0 (cs.getLast?.or before) rest := by
  have hnot : ∀ name ∈ names,
      (NamePattern.ofName name).matchesAt before (cs ++ rest) = false := by
    intro name hname
    rw [← Bool.not_eq_true, matchesAt_word (h name hname) hbefore hcs hne hr]
    exact hunknown name hname
  obtain ⟨c, ds, rfl⟩ := List.exists_cons_of_ne_nil hne
  have hc : isWord c := isWord_of_isPlain (hcs c List.mem_cons_self)
  rw [List.cons_append] at hnot ⊢
  rw [substituteFrom_kept hnot,
    substituteFrom_inside h (fun d hd => hcs d (List.mem_cons_of_mem c hd)) (by simpa using hc),
    getLast?_cons_or]
  rfl

theorem substituteFrom_name {name : String} (h : ∀ name ∈ names, isPlainName name)
    (hname : name ∈ names) (hbefore : before.any isWord = false)
    (hr : ∀ c ∈ rest.head?, isWord c = false) :
    substituteFrom (namePatterns names) value 0 before (name.toList ++ rest) =
      value name.toList ++
        substituteFrom (namePatterns names) value 0 (name.toList.getLast?.or before) rest := by
  have hne : name.toList ≠ [] := by
    obtain ⟨c, cs, hchars, -, -⟩ := exists_first (h name hname)
    simp [hchars]
  have hmatches := fun other (hother : other ∈ names) =>
    matchesAt_word (h other hother) hbefore (isPlain_of_mem (h name hname)) hne hr
  have hfind : (namePatterns names).find? (·.matchesAt before (name.toList ++ rest)) =
      some (.ofName name) := by
    cases hp : (namePatterns names).find? (·.matchesAt before (name.toList ++ rest)) with
    | none =>
      rw [List.find?_eq_none] at hp
      exact absurd ((hmatches name hname).mpr rfl) (hp _ (List.mem_map_of_mem hname))
    | some p =>
      have hp' := List.find?_some hp
      obtain ⟨other, hother, rfl⟩ := List.mem_map.mp (List.mem_of_find?_eq_some hp)
      rw [String.toList_inj.mp ((hmatches other hother).mp hp')]
  exact substituteFrom_found (by simpa using hne) hfind

theorem head?_append_not_word {t : List Char} (ht : ∀ c ∈ t, isWord c = false)
    (hr : ∀ c ∈ rest.head?, isWord c = false) : ∀ c ∈ (t ++ rest).head?, isWord c = false := by
  cases t with
  | nil => exact hr
  | cons d t =>
    intro c hc
    obtain rfl : d = c := by simpa using hc
    exact ht d List.mem_cons_self

theorem getLast?_or_not_word {t : List Char} (ht : ∀ c ∈ t, isWord c = false)
    (hb : before.any isWord = false) :
    (t.getLast?.or before).any isWord = false := by
  cases hlast : t.getLast? with
  | none => rwa [Option.none_or]
  | some c => simpa using ht c (List.mem_of_getLast? hlast)

/-- Between characters that belong to no word, the first text is replaced by the second. -/
def Becomes (names : List String) (value : List Char → List Char) (cs cs' : List Char) : Prop :=
  ∀ before rest, before.any isWord = false → (∀ c ∈ rest.head?, isWord c = false) →
    substituteFrom (namePatterns names) value 0 before (cs ++ rest) =
      cs' ++ substituteFrom (namePatterns names) value 0 (cs.getLast?.or before) rest

namespace Becomes

variable {cs' ds ds' s t : List Char}

theorem enclose (h : ∀ name ∈ names, isPlainName name) (hs : ∀ c ∈ s, isWord c = false)
    (ht : ∀ c ∈ t, isWord c = false) (hcs : Becomes names value cs cs') :
    Becomes names value (s ++ (cs ++ t)) (s ++ (cs' ++ t)) := by
  intro before rest hb hr
  rw [List.append_assoc, List.append_assoc,
    substituteFrom_other h fun c hc => .inl (not_plain_of_not_word (hs c hc)),
    hcs _ _ (getLast?_or_not_word hs hb) (head?_append_not_word ht hr),
    substituteFrom_other h fun c hc => .inl (not_plain_of_not_word (ht c hc)),
    List.getLast?_append, List.getLast?_append, Option.or_assoc, Option.or_assoc]
  simp only [List.append_assoc]

theorem separate (h : ∀ name ∈ names, isPlainName name) (ht : ∀ c ∈ t, isWord c = false)
    (hne : t ≠ []) (hcs : Becomes names value cs cs') (hds : Becomes names value ds ds') :
    Becomes names value (cs ++ (t ++ ds)) (cs' ++ (t ++ ds')) := by
  intro before rest hb hr
  obtain ⟨c, hlast⟩ : ∃ c, t.getLast? = some c := ⟨_, List.getLast?_eq_some_getLast hne⟩
  have hc : isWord c = false := ht c (List.mem_of_getLast? hlast)
  have hhead : ∀ c ∈ (t ++ (ds ++ rest)).head?, isWord c = false := by
    rw [List.head?_append_of_ne_nil _ hne]
    exact fun c hc => ht c (List.mem_of_mem_head? hc)
  rw [List.append_assoc, List.append_assoc, hcs _ _ hb hhead,
    substituteFrom_other h fun c hc => .inl (not_plain_of_not_word (ht c hc)),
    hds _ _ (by simpa [hlast] using hc) hr, List.getLast?_append, List.getLast?_append, hlast]
  simp only [List.append_assoc, Option.some_or, Option.or_assoc]

end Becomes

/-- What the replacement makes of a word. -/
inductive Replaced (names : List String) (value : List Char → List Char) :
    List Char → List Char → Prop where
  | other {cs : List Char} (h : ∀ c ∈ cs, isPlain c = false ∨ c.isDigit) : Replaced names value cs cs
  | name {name : String} (h : name ∈ names) : Replaced names value name.toList (value name.toList)

theorem Replaced.becomes {cs' : List Char} (h : ∀ name ∈ names, isPlainName name)
    (hcs : Replaced names value cs cs') : Becomes names value cs cs' := by
  intro before rest hbefore hr
  cases hcs with
  | other hcs => exact substituteFrom_other h hcs
  | name hname => exact substituteFrom_name h hname hbefore hr

theorem Becomes.join {texts texts' : List (List Char)} (h : ∀ name ∈ names, isPlainName name)
    {gap : Blanks} (hgap : gap ≠ []) (htexts : List.Forall₂ (Replaced names value) texts texts') :
    Becomes names value (join gap.chars texts) (join gap.chars texts') := by
  have hblank : ∀ c ∈ gap.chars, isWord c = false :=
    fun c hc => isWord_of_isBlank (gap.isBlank_of_mem c hc)
  have hne : gap.chars ≠ [] := fun hnil => hgap (List.map_eq_nil_iff.mp hnil)
  rw [join_eq_intercalate, join_eq_intercalate]
  induction htexts with
  | nil => exact Replaced.becomes h (.other (by simp))
  | @cons cs cs' texts texts' hcs htexts ih =>
    cases htexts with
    | nil => simpa using hcs.becomes h
    | cons _ _ =>
      rw [List.intercalate_cons_cons, List.intercalate_cons_cons, List.append_assoc,
        List.append_assoc]
      exact (hcs.becomes h).separate h hblank hne ih

theorem Becomes.substitute_blanks {row : Row} {cs' : List Char}
    (h : ∀ name ∈ names, isPlainName name)
    (hcs : Becomes names (fun name => (insertedText (row.get (String.ofList name))).toList) cs cs')
    (b : Blanks) : substitute (namePatterns names) row (b.chars ++ cs) = b.chars ++ cs' := by
  have hblank : ∀ c ∈ b.chars, isWord c = false :=
    fun c hc => isWord_of_isBlank (b.isBlank_of_mem c hc)
  have h := hcs.enclose h hblank (t := []) (by simp) none [] rfl (by simp)
  simpa [substitute, substituteFrom] using h

end Replacement

end Spreadsheet.Formula
