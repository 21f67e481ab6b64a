import Mathlib
import Spreadsheet.Proofs.Formula.Parsing
import Spreadsheet.Proofs.Formula.Place

namespace Spreadsheet.Formula

/-- What a step of the parser does to the tokens: it takes some of them, each at its place, and stops
at a place with a property, or fails where the next ones have no place. -/
def Progress {α : Type} (p : Place) (ts : List Token) (stops : Place → List Token → Prop) :
    Parsed α → Prop
  | .ok (_, rest) => ∃ used p', ts = used ++ rest ∧ p.afterAll? used = some p' ∧ stops p' rest
  | .error stop => ∃ used rest p', ts = used ++ rest ∧ p.afterAll? used = some p' ∧
      stop.remaining = rest.length ∧ p'.Refuses rest

/-- A phrase of this kind has ended in front of the tokens. -/
structure Nonterminal.Stops (n : Nonterminal) (es : List Enclosure) (p : Place)
    (rest : List Token) : Prop where
  place : ∃ named, p = ⟨.continuation named, es⟩ ∧ (rest.head? = some .openParen → named = false)
  operator : ∀ op, rest.head? = some (.operator op) → ¬ n.takes op

section

variable {α : Type} {p p' : Place} {ts used rest : List Token} {es : List Enclosure}
  {stops : Place → List Token → Prop} {result : Parsed α}

theorem Progress.prepend (hp : p.afterAll? used = some p') (h : Progress p' ts stops result) :
    Progress p (used ++ ts) stops result := by
  match result, h with
  | .ok (_, rest), ⟨used', p'', hts, hp', hstops⟩ =>
    refine ⟨used ++ used', p'', by rw [hts, List.append_assoc], ?_, hstops⟩
    rw [Place.afterAll?_append_of hp, hp']
  | .error stop, ⟨used', rest, p'', hts, hp', hstop⟩ =>
    refine ⟨used ++ used', rest, p'', by rw [hts, List.append_assoc], ?_, hstop⟩
    rw [Place.afterAll?_append_of hp, hp']

theorem Progress.cons {t : Token} (hp : p.after? t = some p') (h : Progress p' ts stops result) :
    Progress p (t :: ts) stops result := by
  have ht : p.afterAll? [t] = some p' := by rw [Place.afterAll?_cons_of hp, Place.afterAll?_nil]
  exact h.prepend ht

end

theorem Progress.taken {α : Type} {a : α} {p p' : Place} {t : Token} {rest : List Token}
    {stops : Place → List Token → Prop} (hp : p.after? t = some p') (h : stops p' rest) :
    Progress p (t :: rest) stops (.ok (a, rest)) :=
  .cons hp ⟨[], p', rfl, rfl, h⟩

/-- A step that fails with the step before it, or goes on from the place to which that one leads. -/
theorem Progress.bind {α β : Type} {p : Place} {ts : List Token}
    {stops stops' : Place → List Token → Prop} {result : Parsed α} {result' : Parsed β}
    (h : Progress p ts stops result) (herror : ∀ stop, result = .error stop → result' = .error stop)
    (hok : ∀ a used rest p', result = .ok (a, rest) → ts = used ++ rest →
      p.afterAll? used = some p' → stops p' rest → Progress p' rest stops' result') :
    Progress p ts stops' result' := by
  match result, h with
  | .ok (a, rest), ⟨used, p', hts, hused, hstops⟩ =>
    rw [hts]
    exact (hok a used rest p' rfl hts hused hstops).prepend hused
  | .error stop, h =>
    rw [herror stop rfl]
    exact h

namespace Nonterminal.Stops

variable {n : Nonterminal} {l : Layer} {es : List Enclosure} {p : Place} {used ts rest : List Token}

theorem length_lt (h : n.Stops es p rest) (hused : Place.afterAll? ⟨.operand, es⟩ used = some p) :
    rest.length < (used ++ rest).length := by
  cases used with
  | nil =>
    cases hused
    obtain ⟨named, hp, -⟩ := h.place
    cases hp
  | cons t used => simp

theorem power (h : Nonterminal.unary.Stops es p rest)
    (hrest : ∀ ts, rest ≠ .operator .power :: ts) : Nonterminal.power.Stops es p rest where
  place := h.place
  operator := by
    rintro op hop rfl
    obtain ⟨ts, hts⟩ := List.head?_eq_some_iff.mp hop
    exact hrest ts hts

theorem layer (h : l.operand.Stops es p rest)
    (hrest : ∀ op ts, rest = .operator op :: ts → op.layer? ≠ some l) :
    (Nonterminal.layer l).Stops es p rest where
  place := h.place
  operator := by
    intro op hop
    obtain ⟨ts, hts⟩ := List.head?_eq_some_iff.mp hop
    rw [takes_layer_iff, not_or]
    exact ⟨hrest op ts hts, h.operator op hop⟩

theorem unnamed (es : List Enclosure) (rest : List Token) :
    Nonterminal.call.Stops es ⟨.continuation false, es⟩ rest where
  place := ⟨false, rfl, fun _ => rfl⟩
  operator _ _ := id

/-- Where a comparison ends, only a parenthesis that closes and a comma between arguments have a
place. -/
theorem refuses (h : (Nonterminal.layer .comparison).Stops es p rest)
    (hclose : ∀ ts, rest = .closeParen :: ts → es = [])
    (hcomma : ∀ ts, rest = .comma :: ts → es.head? ≠ some .call)
    (hend : rest = [] → es ≠ []) : p.Refuses rest := by
  obtain ⟨named, rfl, hnamed⟩ := h.place
  cases rest with
  | nil =>
    rintro ⟨named', hp⟩
    cases hp
    exact hend rfl rfl
  | cons t ts =>
    change Place.afterOperand? named es t = none
    cases t with
    | operator op =>
      have hop := h.operator op rfl
      cases op with
      | other => simp [Place.afterOperand?, Operator.all]
      | _ => simp [Nonterminal.takes, Operator.layer?] at hop
    | openParen => simp [Place.afterOperand?, hnamed rfl]
    | closeParen => simp [Place.afterOperand?, hclose ts rfl]
    | comma => simpa [Place.afterOperand?] using hcomma ts rfl
    | number | text | name | column => rfl

end Nonterminal.Stops

/-- An argument that is not missing is an operand like any other. -/
theorem Progress.argument {α : Type} {n : Nonterminal} {es : List Enclosure} {ts : List Token}
    {result : Parsed α} (h : Progress ⟨.operand, es⟩ ts (n.Stops es) result)
    (hclose : ∀ rest, ts ≠ .closeParen :: rest) : Progress ⟨.argument, es⟩ ts (n.Stops es) result := by
  match result, h with
  | .ok (a, rest), ⟨used, p, hts, hused, hstops⟩ =>
    refine ⟨used, p, hts, ?_, hstops⟩
    cases used with
    | nil =>
      cases hused
      obtain ⟨named, hp, -⟩ := hstops.place
      cases hp
    | cons t used =>
      rw [Place.afterAll?_argument, hused]
      rintro rfl
      exact hclose _ hts
  | .error stop, ⟨used, rest, p, hts, hused, hstop, hrefuses⟩ =>
    cases used with
    | nil =>
      cases hused
      refine ⟨[], rest, ⟨.argument, es⟩, hts, rfl, hstop, ?_⟩
      cases rest with
      | nil => exact Place.refuses_nil (by simp)
      | cons t rest =>
        have ht : t ≠ .closeParen := by
          rintro rfl
          exact hclose _ hts
        rw [Place.Refuses, Place.after?_argument ht]
        exact hrefuses
    | cons t used =>
      refine ⟨t :: used, rest, p, hts, ?_, hstop, hrefuses⟩
      rw [Place.afterAll?_argument, hused]
      rintro rfl
      exact hclose _ hts

structure Closes (es : List Enclosure) (p : Place) (rest : List Token) : Prop where
  after?_closeParen : p.after? .closeParen = some ⟨.continuation false, es⟩
  refuses : (∀ ts, rest ≠ .closeParen :: ts) → p.Refuses rest

theorem Nonterminal.Stops.closes {e : Enclosure} {es : List Enclosure} {p : Place}
    {rest : List Token} (h : (Nonterminal.layer .comparison).Stops (e :: es) p rest)
    (hcomma : ∀ ts, rest = .comma :: ts → e ≠ .call) : Closes es p rest where
  after?_closeParen := by
    obtain ⟨named, rfl, -⟩ := h.place
    exact Place.after?_closeParen
  refuses hclose := h.refuses (fun ts hts => absurd hts (hclose ts)) (by simpa using hcomma) (by simp)

/-- With enough fuel, each step of the parser keeps to the places. -/
structure Located (fuel : Nat) : Prop where
  layer : ∀ l es ts, 10 * ts.length + (Nonterminal.layer l).rank + 1 ≤ fuel →
    Progress ⟨.operand, es⟩ ts ((Nonterminal.layer l).Stops es) (parseLayer fuel l ts)
  chain : ∀ l es p left ts, 10 * ts.length + 1 ≤ fuel → l.operand.Stops es p ts →
    Progress p ts ((Nonterminal.layer l).Stops es) (parseChain fuel l left ts)
  operand : ∀ l es ts, 10 * ts.length + l.operand.rank + 2 ≤ fuel →
    Progress ⟨.operand, es⟩ ts (l.operand.Stops es) (parseOperand fuel l ts)
  power : ∀ es ts, 10 * ts.length + 3 ≤ fuel →
    Progress ⟨.operand, es⟩ ts (Nonterminal.power.Stops es) (parsePower fuel ts)
  signed : ∀ es ts, 10 * ts.length + 2 ≤ fuel →
    Progress ⟨.operand, es⟩ ts (Nonterminal.unary.Stops es) (parseSigned fuel ts)
  primary : ∀ es ts, 10 * ts.length + 1 ≤ fuel → (∀ op rest, ts ≠ .operator op :: rest) →
    Progress ⟨.operand, es⟩ ts (Nonterminal.call.Stops es) (parsePrimary fuel ts)
  arguments : ∀ es ts, 10 * ts.length + 10 ≤ fuel →
    Progress ⟨.argument, .call :: es⟩ ts (Closes es) (parseArguments fuel ts)
  moreArguments : ∀ es p arg ts, 10 * ts.length + 1 ≤ fuel →
    (Nonterminal.layer .comparison).Stops (.call :: es) p ts →
      Progress p ts (Closes es) (parseMoreArguments fuel arg ts)

namespace Located

variable {fuel : Nat} {l : Layer} {es : List Enclosure} {p : Place} {left : Expr} {ts : List Token}

theorem parseLayer_succ (h : Located fuel)
    (hf : 10 * ts.length + (Nonterminal.layer l).rank + 1 ≤ fuel + 1) :
    Progress ⟨.operand, es⟩ ts ((Nonterminal.layer l).Stops es) (parseLayer (fuel + 1) l ts) := by
  have hl := rank_operand l
  unfold parseLayer
  refine (h.operand l es ts (by omega)).bind (fun stop heq => by rw [heq]) ?_
  rintro left used rest p heq rfl hused hstops
  have hlt := hstops.length_lt hused
  rw [heq]
  exact h.chain l es p left rest (by omega) hstops

theorem parseChain_succ (h : Located fuel) (hf : 10 * ts.length + 1 ≤ fuel + 1)
    (hstops : l.operand.Stops es p ts) :
    Progress p ts ((Nonterminal.layer l).Stops es) (parseChain (fuel + 1) l left ts) := by
  have hl := rank_operand_le l
  unfold parseChain
  split
  · rename_i op rest
    rw [List.length_cons] at hf
    split
    · rename_i hop
      obtain ⟨named, rfl, -⟩ := hstops.place
      refine Progress.cons (Place.after?_operator (mem_all_of_layer? hop)) ?_
      refine (h.operand l es rest (by omega)).bind (fun stop heq => by rw [heq]) ?_
      rintro right used rest p heq rfl hused hright
      have hlt := hright.length_lt hused
      rw [heq]
      exact h.chain l es p _ rest (by omega) hright
    · rename_i hop
      refine ⟨[], p, rfl, rfl, hstops.layer ?_⟩
      rintro op' ts' heq
      cases heq
      exact hop
  · rename_i hts
    exact ⟨[], p, rfl, rfl, hstops.layer fun op ts heq => absurd heq (hts op ts)⟩

theorem parseOperand_succ (h : Located fuel)
    (hf : 10 * ts.length + l.operand.rank + 2 ≤ fuel + 1) :
    Progress ⟨.operand, es⟩ ts (l.operand.Stops es) (parseOperand (fuel + 1) l ts) := by
  cases l with
  | comparison => exact h.layer .sum es ts (by simpa [Layer.operand] using hf)
  | sum => exact h.layer .product es ts (by simpa [Layer.operand] using hf)
  | product => exact h.power es ts (by simpa [Layer.operand, Nonterminal.rank] using hf)

theorem parsePower_succ (h : Located fuel) (hf : 10 * ts.length + 3 ≤ fuel + 1) :
    Progress ⟨.operand, es⟩ ts (Nonterminal.power.Stops es) (parsePower (fuel + 1) ts) := by
  unfold parsePower
  refine (h.signed es ts (by omega)).bind (fun stop heq => by rw [heq]) ?_
  rintro base used rest p heq rfl hused hstops
  have hlt := hstops.length_lt hused
  rw [heq]
  split
  · rename_i base' rest' hpower
    cases hpower
    obtain ⟨named, rfl, -⟩ := hstops.place
    rw [List.length_cons] at hlt
    refine Progress.cons (Place.after?_operator (by simp [Operator.all])) ?_
    refine (h.power es rest' (by omega)).bind (fun stop heq => by rw [heq]) ?_
    rintro exponent used rest p heq rfl hused hexponent
    rw [heq]
    exact ⟨[], p, rfl, rfl, hexponent⟩
  · rename_i hpower
    refine ⟨[], p, rfl, rfl, hstops.power ?_⟩
    rintro ts rfl
    exact hpower base ts rfl

theorem parseSigned_succ (h : Located fuel) (hf : 10 * ts.length + 2 ≤ fuel + 1) :
    Progress ⟨.operand, es⟩ ts (Nonterminal.unary.Stops es) (parseSigned (fuel + 1) ts) := by
  unfold parseSigned
  split
  · rename_i op rest
    rw [List.length_cons] at hf
    split
    · rename_i sign hsign
      have hop : Place.after? ⟨.operand, es⟩ (.operator op) = some ⟨.operand, es⟩ := by
        obtain ⟨rfl | rfl, rfl⟩ := sign?_eq_some_iff.mp hsign <;> rfl
      refine Progress.cons hop ?_
      refine (h.signed es rest (by omega)).bind (fun stop heq => by rw [heq]) ?_
      rintro operand used rest p heq rfl hused hstops
      rw [heq]
      exact ⟨[], p, rfl, rfl, hstops⟩
    · rename_i hsign
      refine ⟨[], .operator op :: rest, _, rfl, rfl, rfl, ?_⟩
      have hop : ¬ (op = .plus ∨ op = .minus) := by
        rintro (rfl | rfl)
        · cases hsign
        · cases hsign
      simp [Place.Refuses, Place.after?, Place.afterOpening?, hop]
  · rename_i hop
    refine (h.primary es ts (by omega) hop).bind (fun stop heq => heq) ?_
    rintro operand used rest p heq rfl hused hstops
    rw [heq]
    exact ⟨[], p, rfl, rfl, hstops.place, fun _ _ => id⟩

theorem parsePrimary_succ (h : Located fuel) (hf : 10 * ts.length + 1 ≤ fuel + 1)
    (hop : ∀ op rest, ts ≠ .operator op :: rest) :
    Progress ⟨.operand, es⟩ ts (Nonterminal.call.Stops es) (parsePrimary (fuel + 1) ts) := by
  unfold parsePrimary
  split
  · rename_i s rest
    simp only [List.length_cons] at hf
    have hname : Place.after? ⟨.operand, es⟩ (.name s) = some ⟨.continuation true, es⟩ := rfl
    have hopen : Place.after? ⟨.continuation true, es⟩ .openParen =
        some ⟨.argument, .call :: es⟩ := rfl
    refine Progress.cons hname (Progress.cons hopen ?_)
    refine (h.arguments es rest (by omega)).bind (fun stop heq => by rw [heq]) ?_
    rintro args used rest p heq rfl hused hcloses
    rw [heq]
    split
    · rename_i heq
      cases heq
      exact .taken hcloses.after?_closeParen (.unnamed es _)
    · rename_i hopen heq
      cases heq
      refine ⟨[], rest, p, rfl, rfl, rfl, hcloses.refuses ?_⟩
      rintro ts rfl
      exact hopen ts rfl
    · rename_i heq
      cases heq
  · exact .taken rfl (.unnamed es _)
  · exact .taken rfl (.unnamed es _)
  · rename_i s rest hopen
    refine .taken rfl ⟨⟨true, rfl, fun hrest => ?_⟩, fun _ _ => id⟩
    obtain ⟨ts, rfl⟩ := List.head?_eq_some_iff.mp hrest
    exact absurd rfl (hopen ts)
  · exact .taken rfl (.unnamed es _)
  · rename_i rest
    rw [List.length_cons] at hf
    have hopen : Place.after? ⟨.operand, es⟩ .openParen = some ⟨.operand, .group :: es⟩ := rfl
    refine Progress.cons hopen ?_
    have hinner := h.layer .comparison (.group :: es) rest (by simp only [Nonterminal.rank]; omega)
    refine hinner.bind (fun stop heq => by rw [heq]) ?_
    rintro e used rest p heq rfl hused hstops
    rw [heq]
    have hcloses := hstops.closes (by simp)
    split
    · rename_i heq
      cases heq
      exact .taken hcloses.after?_closeParen (.unnamed es _)
    · rename_i hopen heq
      cases heq
      refine ⟨[], rest, p, rfl, rfl, rfl, hcloses.refuses ?_⟩
      rintro ts rfl
      exact hopen ts rfl
    · rename_i heq
      cases heq
  · rename_i t rest _ hnumber htext hname hcolumn hopen
    refine ⟨[], t :: rest, _, rfl, rfl, rfl, ?_⟩
    change Place.afterOpening? es t = none
    cases t with
    | number x => exact absurd rfl (hnumber x)
    | text s => exact absurd rfl (htext s)
    | name s => exact absurd rfl (hname s)
    | column s => exact absurd rfl (hcolumn s)
    | operator op => exact absurd rfl (hop op rest)
    | openParen => exact absurd rfl hopen
    | closeParen | comma => rfl
  · exact ⟨[], [], _, rfl, rfl, rfl, Place.refuses_nil (by simp)⟩

theorem parseArguments_succ (h : Located fuel) (hf : 10 * ts.length + 10 ≤ fuel + 1) :
    Progress ⟨.argument, .call :: es⟩ ts (Closes es) (parseArguments (fuel + 1) ts) := by
  unfold parseArguments
  split
  · rename_i rest
    refine ⟨[], _, rfl, rfl, rfl, fun hclose => ?_⟩
    exact absurd rfl (hclose rest)
  · rename_i hclose
    have hfirst := h.layer .comparison (.call :: es) ts (by simp only [Nonterminal.rank]; omega)
    refine (hfirst.argument hclose).bind (fun stop heq => by rw [heq]) ?_
    rintro arg used rest p heq rfl hused hstops
    rw [heq]
    refine h.moreArguments es p arg rest ?_ hstops
    simp only [List.length_append] at hf
    omega

theorem parseMoreArguments_succ {arg : Expr} (h : Located fuel)
    (hf : 10 * ts.length + 1 ≤ fuel + 1)
    (hstops : (Nonterminal.layer .comparison).Stops (.call :: es) p ts) :
    Progress p ts (Closes es) (parseMoreArguments (fuel + 1) arg ts) := by
  unfold parseMoreArguments
  split
  · rename_i rest
    rw [List.length_cons] at hf
    have hcomma : p.after? .comma = some ⟨.operand, .call :: es⟩ := by
      obtain ⟨named, rfl, -⟩ := hstops.place
      rfl
    refine Progress.cons hcomma ?_
    have hnext := h.layer .comparison (.call :: es) rest (by simp only [Nonterminal.rank]; omega)
    refine hnext.bind (fun stop heq => by rw [heq]) ?_
    rintro next used rest p heq rfl hused hnext
    have hlt := hnext.length_lt hused
    rw [heq]
    dsimp only
    refine (h.moreArguments es p next rest (by omega) hnext).bind (fun stop heq => by rw [heq]) ?_
    rintro args used rest p heq rfl hused hcloses
    rw [heq]
    exact ⟨[], p, rfl, rfl, hcloses⟩
  · rename_i hcomma
    exact ⟨[], p, rfl, rfl, hstops.closes fun ts hts => absurd hts (hcomma ts)⟩

end Located

theorem located (fuel : Nat) : Located fuel := by
  induction fuel with
  | zero =>
    constructor <;> intros <;> omega
  | succ fuel ih =>
    exact {
      layer := fun _ _ _ => ih.parseLayer_succ
      chain := fun _ _ _ _ _ => ih.parseChain_succ
      operand := fun _ _ _ => ih.parseOperand_succ
      power := fun _ _ => ih.parsePower_succ
      signed := fun _ _ => ih.parseSigned_succ
      primary := fun _ _ => ih.parsePrimary_succ
      arguments := fun _ _ => ih.parseArguments_succ
      moreArguments := fun _ _ _ _ => ih.parseMoreArguments_succ }

open Place

theorem exists_refuses_of_parse {ts : List Token} {e : ParseError} (h : parse ts = .error e) :
    ∃ used rest p, ts = used ++ rest ∧ used.length = e.position ∧
      start.afterAll? used = some p ∧ p.Refuses rest := by
  unfold parse at h
  split at h
  · rename_i hts
    cases h
    exact ⟨[], [], start, hts, rfl, rfl, refuses_nil (by simp [start])⟩
  · have hprogress := (located (parseFuel ts)).layer .comparison [] ts
      (by simp only [parseFuel, Nonterminal.rank]; omega)
    split at h
    · cases h
    · rename_i tree t rest heq
      cases h
      rw [heq] at hprogress
      obtain ⟨used, p, hts, hused, hstops⟩ := hprogress
      refine ⟨used, t :: rest, p, hts, by simp [hts], hused, ?_⟩
      exact hstops.refuses (by simp) (by simp) (by simp)
    · rename_i stop heq
      cases h
      rw [heq] at hprogress
      obtain ⟨used, rest, p, hts, hused, hstop, hrefuses⟩ := hprogress
      exact ⟨used, rest, p, hts, by simp [hts, hstop], hused, hrefuses⟩

theorem complete_of_parse {ts : List Token} {e : Expr} (h : parse ts = .ok e) :
    ∃ p, start.afterAll? ts = some p ∧ p.IsComplete := by
  obtain ⟨d, rfl, -⟩ := (parse_eq_ok_iff ts e).1.mp h
  obtain ⟨named, hd⟩ := d.afterAll?_tokens []
  exact ⟨_, hd, named, rfl⟩

theorem exists_parse_of_complete {ts : List Token} {p : Place} (h : start.afterAll? ts = some p)
    (hp : p.IsComplete) : ∃ e, parse ts = .ok e := by
  cases hparse : parse ts with
  | ok e => exact ⟨e, rfl⟩
  | error e =>
    obtain ⟨used, rest, p', rfl, -, hused, hrefuses⟩ := exists_refuses_of_parse hparse
    rw [afterAll?_append_of hused] at h
    cases rest with
    | nil =>
      cases h
      exact absurd hp hrefuses
    | cons t rest =>
      rw [afterAll?_cons, hrefuses] at h
      cases h

/-- The position at which parsing fails is the first one where the formula is beyond repair: the tokens
before it are the beginning of some formula, and those up to it are not. -/
theorem parse_error_position {ts : List Token} {e : ParseError} (h : parse ts = .error e) :
    e.position ≤ ts.length ∧
      (∃ more tree, parse (ts.take e.position ++ more) = .ok tree) ∧
      (e.position < ts.length → ∀ more tree, parse (ts.take (e.position + 1) ++ more) ≠ .ok tree) := by
  obtain ⟨used, rest, p, rfl, hposition, hused, hrefuses⟩ := exists_refuses_of_parse h
  rw [← hposition]
  refine ⟨by simp, ?_, ?_⟩
  · obtain ⟨more, p', hmore, hp'⟩ := p.exists_complete
    have hall : start.afterAll? (used ++ more) = some p' := by rw [afterAll?_append_of hused, hmore]
    rw [List.take_left]
    exact ⟨more, exists_parse_of_complete hall hp'⟩
  · intro hlt more tree hparse
    cases rest with
    | nil => simp at hlt
    | cons t rest =>
      have htake : (used ++ t :: rest).take (used.length + 1) = used ++ [t] := by
        rw [List.take_length_add_append]
        rfl
      obtain ⟨p', hp', -⟩ := complete_of_parse hparse
      rw [htake, List.append_assoc, afterAll?_append_of hused, List.singleton_append, afterAll?_cons,
        hrefuses] at hp'
      cases hp'

def dividedGroup : List Token :=
  [.name "IF", .openParen, .name "qty", .comma, .openParen, .number 2, .operator .times, .number 3,
    .comma, .number 4, .closeParen]

theorem dividedGroup_error_position :
    parse dividedGroup = .error ⟨.unclosedGroup, 8⟩ ∧ 8 < dividedGroup.length ∧
      (∃ more tree, parse (dividedGroup.take 8 ++ more) = .ok tree) ∧
      ∀ more tree, parse (dividedGroup.take 9 ++ more) ≠ .ok tree := by
  have herror : parse dividedGroup = .error ⟨.unclosedGroup, 8⟩ := rfl
  have hlt : 8 < dividedGroup.length := by decide
  obtain ⟨-, hviable, hdead⟩ := parse_error_position herror
  exact ⟨herror, hlt, hviable, hdead hlt⟩

end Spreadsheet.Formula
