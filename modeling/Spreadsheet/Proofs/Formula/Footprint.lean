import Mathlib
import Spreadsheet.Formula.Evaluator
import Spreadsheet.Proofs.Formula.Admitted
import Spreadsheet.Proofs.Formula.Excerpt
import Spreadsheet.Proofs.Formula.NameSearch

namespace Spreadsheet

def Row.AgreeOn (known : String → Prop) (r r' : Row) : Prop :=
  ∀ name, known name → r.get name = r'.get name

end Spreadsheet

namespace Spreadsheet.Formula

open Spreadsheet.Text

theorem Aggregate.apply_congr {column : String} {rows rows' : List Row}
    (h : List.Forall₂ (fun r r' : Row => r.get column = r'.get column) rows rows')
    (kind : Aggregate) : kind.apply column rows = kind.apply column rows' := by
  have hcells : rows.map (·.get column) = rows'.map (·.get column) := by
    rwa [← List.forall₂_eq_eq_eq, List.forall₂_map_left_iff, List.forall₂_map_right_iff]
  have hnumbers : numbers column rows = numbers column rows' := by
    have hmapped := congrArg (List.map Cell.numberOrZero) hcells
    rwa [List.map_map, List.map_map] at hmapped
  have hcount : rows.countP (fun row => !(row.get column).isEmpty) =
      rows'.countP (fun row => !(row.get column).isEmpty) := by
    have hcounted := congrArg (List.countP (!Cell.isEmpty ·)) hcells
    rwa [List.countP_map, List.countP_map] at hcounted
  have hlength := h.length_eq
  have hempty : rows.isEmpty = rows'.isEmpty := by
    rw [Bool.eq_iff_iff, List.isEmpty_iff_length_eq_zero, List.isEmpty_iff_length_eq_zero, hlength]
  cases kind <;> simp only [apply, hnumbers, hcount, hlength, hempty]

namespace Scope

/-- The scopes have the same columns, perhaps in another order, the same date, and the same cells under
the names that satisfy a condition. -/
structure AgreeOn (known : String → Prop) (s s' : Scope) : Prop where
  columns : ∀ name, name ∈ s.columns ↔ name ∈ s'.columns
  row : Row.AgreeOn known s.row s'.row
  rows : List.Forall₂ (Row.AgreeOn known) s.rows s'.rows
  today : s.today = s'.today

namespace AgreeOn

variable {known known' : String → Prop} {s s' : Scope}

theorem mono (h : s.AgreeOn known s') (hknown : ∀ name, known' name → known name) :
    s.AgreeOn known' s' where
  columns := h.columns
  row name hname := h.row name (hknown name hname)
  rows := h.rows.imp fun _ _ hrow name hname => hrow name (hknown name hname)
  today := h.today

theorem hasColumn (h : s.AgreeOn known s') (name : String) : s.hasColumn name = s'.hasColumn name := by
  rw [Bool.eq_iff_iff, Scope.hasColumn, Scope.hasColumn, List.contains_iff_mem, List.contains_iff_mem]
  exact h.columns name

theorem apply (h : s.AgreeOn known s') {name : String} (hname : known name) (kind : Aggregate) :
    kind.apply name s.rows = kind.apply name s'.rows :=
  Aggregate.apply_congr (h.rows.imp fun _ _ hrow => hrow name hname) kind

end AgreeOn

end Scope

/-- The name is a part of the text. -/
def OccursIn (cs : List Char) (name : String) : Prop :=
  name.toList <:+: cs

instance (cs : List Char) (name : String) : Decidable (OccursIn cs name) :=
  inferInstanceAs (Decidable (_ <:+: _))

namespace Scope.AgreeOn

variable {s s' : Scope} {cs ds : List Char}

theorem of_isInfix (h : s.AgreeOn (OccursIn cs) s') (hds : ds <:+: cs) : s.AgreeOn (OccursIn ds) s' :=
  h.mono fun _ hname => hname.trans hds

section Textual

variable (h : s.AgreeOn (OccursIn cs) s')

include h

theorem operandText : Formula.operandText s cs = Formula.operandText s' cs := by
  have hoccurs : OccursIn cs (String.ofList (stripBrackets cs)) := by
    rw [OccursIn, String.toList_ofList]
    exact stripBrackets_isInfix cs
  have hcell := h.row _ hoccurs
  simp only [Formula.operandText, h.hasColumn, hcell]

theorem operandText_isInfix (hds : ds <:+: cs) : Formula.operandText s ds = Formula.operandText s' ds :=
  (h.of_isInfix hds).operandText

theorem aggregateResult (name : String) (kind : Aggregate) :
    Formula.aggregateResult s name kind cs = Formula.aggregateResult s' name kind cs := by
  simp only [Formula.aggregateResult, bind, Except.bind]
  cases hargs : argumentsOf name cs with
  | error e => rfl
  | ok args =>
    have hoccurs : OccursIn cs (String.ofList (stripBrackets (stripQuotes args))) := by
      rw [OccursIn, String.toList_ofList]
      exact (stripBrackets_isInfix _).trans ((stripQuotes_isInfix args).trans (argumentsOf_isInfix hargs))
    simp only [h.hasColumn, h.apply hoccurs]

theorem conditionalResult : Formula.conditionalResult s cs = Formula.conditionalResult s' cs := by
  simp only [Formula.conditionalResult, bind, Except.bind]
  cases hargs : argumentsOf "IF" cs with
  | error e => rfl
  | ok args =>
    have hinfix := argumentsOf_isInfix hargs
    dsimp only
    split
    · rename_i condition yes no hsplit
      have hcondition : condition <:+: cs :=
        (splitArguments_isInfix (by simp [hsplit])).trans hinfix
      split
      · rename_i left comparison right hcut
        obtain ⟨hleft, hright⟩ := splitCondition_isInfix hcut
        have htrimmed : ∀ ds, ds <:+: condition →
            Formula.operandText s (trim ds) = Formula.operandText s' (trim ds) :=
          fun ds hds => h.operandText_isInfix ((trim_isInfix ds).trans (hds.trans hcondition))
        rw [htrimmed left hleft, htrimmed right hright]
      · rfl
    · rfl

theorem concatenationResult (name : String) :
    Formula.concatenationResult s name cs = Formula.concatenationResult s' name cs := by
  simp only [Formula.concatenationResult, bind, Except.bind]
  cases hargs : argumentsOf name cs with
  | error e => rfl
  | ok args =>
    have hoperands : (splitArguments args).map (Formula.operandText s) =
        (splitArguments args).map (Formula.operandText s') :=
      List.map_congr_left fun ds hds =>
        h.operandText_isInfix ((splitArguments_isInfix hds).trans (argumentsOf_isInfix hargs))
    simp only [hoperands]

theorem differenceResult : Formula.differenceResult s cs = Formula.differenceResult s' cs := by
  simp only [Formula.differenceResult, bind, Except.bind]
  cases hargs : argumentsOf "DATEDIFF" cs with
  | error e => rfl
  | ok args =>
    have hoperand : ∀ ds ∈ splitArguments args, Formula.operandText s ds = Formula.operandText s' ds :=
      fun ds hds => h.operandText_isInfix ((splitArguments_isInfix hds).trans (argumentsOf_isInfix hargs))
    dsimp only
    split
    · rename_i first second hsplit
      rw [hoperand first (by simp [hsplit]), hoperand second (by simp [hsplit])]
    · rfl

theorem substitute :
    Formula.substitute (namePatterns (orderedNames s.columns)) s.row cs =
      Formula.substitute (namePatterns (orderedNames s'.columns)) s'.row cs := by
  apply substituteFrom_congr (find?_namePatterns_congr h.columns)
  intro name hname
  have hoccurs : OccursIn cs (String.ofList name) := by
    rwa [OccursIn, String.toList_ofList]
  rw [h.row _ hoccurs]

theorem result (form : Form) :
    form.result s (namePatterns (orderedNames s.columns)) cs =
      form.result s' (namePatterns (orderedNames s'.columns)) cs := by
  cases form with
  | aggregate name kind => exact h.aggregateResult name kind
  | conditional => exact h.conditionalResult
  | concatenation name => exact h.concatenationResult name
  | difference => exact h.differenceResult
  | literal s => rfl
  | arithmetic => rw [Form.result, Form.result, h.substitute]

end Textual

theorem evaluateTextual {formula : String}
    (h : s.AgreeOn (OccursIn (textualBody s.today formula)) s') :
    Formula.evaluateTextual s formula = Formula.evaluateTextual s' formula := by
  rw [Formula.evaluateTextual, Formula.evaluateTextual, ← h.today, h.result]

end Scope.AgreeOn

def Token.word? : Token → Option String
  | .text s | .name s | .column s => some s
  | _ => none

def words (ts : List Token) : List String :=
  ts.filterMap Token.word?

theorem words_append (ts us : List Token) : words (ts ++ us) = words ts ++ words us :=
  List.filterMap_append

namespace Expr

mutual

/-- The words that a tree is made of. -/
def words : Expr → List String
  | number _ => []
  | text s => [s]
  | column name => [name]
  | call name args => name :: wordsEach args
  | binary _ left right => left.words ++ right.words
  | signed _ operand => operand.words

def wordsEach : List Expr → List String
  | [] => []
  | arg :: args => arg.words ++ wordsEach args

end

theorem aggregated_mem_words {scope : Scope} {e : Expr} {name : String}
    (h : e.aggregated scope = .ok name) : name ∈ e.words := by
  unfold aggregated at h
  split at h
  · split at h
    · cases h
      exact List.mem_singleton_self name
    · cases h
  · split at h
    · cases h
      exact List.mem_singleton_self name
    · cases h
  · cases h

end Expr

mutual

theorem Derivation.words_tree : {n : Nonterminal} → (d : Derivation n) → d.tree.words = words d.tokens
  | _, .layer first rest => by
    rw [Derivation.tree, Derivation.tokens, rest.words_extend, first.words_tree, words_append]
  | _, .power b x => by
    rw [Derivation.tree, Derivation.tokens, Expr.words, b.words_tree, x.words_tree, words_append]
    rfl
  | _, .base operand => operand.words_tree
  | _, .signed _ _ operand => operand.words_tree
  | _, .unsigned operand => operand.words_tree
  | _, .call name args => by
    rw [Derivation.tree, Expr.words, args.words_trees]
    simp [Derivation.tokens, words, List.filterMap_cons, Token.word?]
  | _, .plain operand => operand.words_tree
  | _, .number _ | _, .text _ | _, .name _ | _, .column _ => rfl
  | _, .group inner => by
    rw [Derivation.tree, inner.words_tree]
    simp [Derivation.tokens, words, List.filterMap_cons, Token.word?]

theorem Chain.words_extend : {l : Layer} → (c : Chain l) → (left : Expr) →
    (c.extend left).words = left.words ++ words c.tokens
  | _, .done, left => (List.append_nil left.words).symm
  | _, .more op _ operand rest, left => by
    rw [Chain.extend, rest.words_extend, Expr.words, operand.words_tree]
    simp [Chain.tokens, words, List.filterMap_cons, Token.word?]

theorem Arguments.words_trees : (a : Arguments) → Expr.wordsEach a.trees = words a.tokens
  | .none => rfl
  | .some first rest => by
    rw [Arguments.trees, Expr.wordsEach, first.words_tree, rest.words_trees]
    simp [Arguments.tokens, words]

theorem MoreArguments.words_trees : (m : MoreArguments) → Expr.wordsEach m.trees = words m.tokens
  | .done => rfl
  | .more next rest => by
    rw [MoreArguments.trees, Expr.wordsEach, next.words_tree, rest.words_trees]
    simp [MoreArguments.tokens, words, List.filterMap_cons, Token.word?]

end

def formulaWords (formula : String) : List String :=
  match lex formula with
  | .ok ts => words ts
  | .error _ => []

theorem words_of_parseFormula {formula : String} {e : Expr} (h : parseFormula formula = .ok e) :
    e.words = formulaWords formula := by
  obtain ⟨ts, hts, d, rfl, rfl⟩ := derives_of_parseFormula h
  rw [formulaWords, hts, d.words_tree]

namespace Scope.AgreeOn

variable {known : String → Prop} {s s' : Scope}

theorem aggregated (h : s.AgreeOn known s') (e : Expr) : e.aggregated s = e.aggregated s' := by
  cases e <;> simp only [Expr.aggregated, h.hasColumn]

theorem valueOf (h : s.AgreeOn known s') {name : String} (hname : known name) :
    s.valueOf name = s'.valueOf name := by
  rw [Scope.valueOf, Scope.valueOf, h.hasColumn, h.row name hname]

theorem applyFunction {args : List Expr} (h : s.AgreeOn (· ∈ Expr.wordsEach args) s') (name : String)
    (outcomes : List (Outcome Value)) :
    Formula.applyFunction s name args outcomes = Formula.applyFunction s' name args outcomes := by
  rw [applyFunction.eq_def, applyFunction.eq_def]
  -- Only aggregates and the date of today look at the scope; the other functions see the outcomes.
  cases Aggregate.ofName? name with
  | none => simp only [h.today]
  | some kind =>
    match args, h with
    | [arg], h =>
      simp only [← h.aggregated]
      cases haggregated : arg.aggregated s with
      | error e => rfl
      | ok column =>
        have hword : column ∈ Expr.wordsEach [arg] :=
          List.mem_append_left _ (Expr.aggregated_mem_words haggregated)
        simp only [bind, Except.bind, h.apply hword]
    | [], _ | _ :: _ :: _, _ => rfl

mutual

theorem evaluate : (e : Expr) → s.AgreeOn (· ∈ e.words) s' →
    Formula.evaluate s e = Formula.evaluate s' e
  | .number _, _ | .text _, _ => rfl
  | .column name, h => congrArg Except.ok (h.valueOf (List.mem_singleton_self name))
  | .call name args, h => by
    have hargs : s.AgreeOn (· ∈ Expr.wordsEach args) s' := h.mono fun _ => List.mem_cons_of_mem name
    rw [Formula.evaluate, Formula.evaluate, evaluateEach args hargs, hargs.applyFunction]
  | .binary op left right, h => by
    have hleft : s.AgreeOn (· ∈ left.words) s' := h.mono fun _ => List.mem_append_left _
    have hright : s.AgreeOn (· ∈ right.words) s' := h.mono fun _ => List.mem_append_right _
    rw [Formula.evaluate, Formula.evaluate, evaluate left hleft, evaluate right hright]
  | .signed _ operand, h => by
    rw [Formula.evaluate, Formula.evaluate, evaluate operand h]

theorem evaluateEach : (args : List Expr) → s.AgreeOn (· ∈ Expr.wordsEach args) s' →
    Formula.evaluateEach s args = Formula.evaluateEach s' args
  | [], _ => rfl
  | arg :: args, h => by
    have harg : s.AgreeOn (· ∈ arg.words) s' := h.mono fun _ => List.mem_append_left _
    have hargs : s.AgreeOn (· ∈ Expr.wordsEach args) s' := h.mono fun _ => List.mem_append_right _
    rw [Formula.evaluateEach, Formula.evaluateEach, evaluate arg harg, evaluateEach args hargs]

end

theorem evaluateStructured {formula : String} (h : s.AgreeOn (· ∈ formulaWords formula) s') :
    Formula.evaluateStructured s formula = Formula.evaluateStructured s' formula := by
  unfold Formula.evaluateStructured
  split
  · rfl
  · rename_i e he
    rw [← words_of_parseFormula he] at h
    rw [evaluate e h]

end Scope.AgreeOn

/-- The formula mentions the name: in its text, after the calls for the date are replaced, or as one of
the words of its tokens. -/
def Evaluator.Mentions (e : Evaluator) (formula name : String) : Prop :=
  match e.mode with
  | .compatibility => OccursIn (textualBody e.today formula) name
  | .structured => name ∈ formulaWords formula

/-- The result depends on the cells under the names that the formula mentions. -/
theorem Evaluator.evaluate_congr (e : Evaluator) {columns columns' : List String}
    (hcolumns : ∀ name, name ∈ columns ↔ name ∈ columns') {rows rows' : List Row} {row row' : Row}
    {formula : String} (hrows : List.Forall₂ (Row.AgreeOn (e.Mentions formula)) rows rows')
    (hrow : Row.AgreeOn (e.Mentions formula) row row') :
    e.evaluate columns rows row formula = e.evaluate columns' rows' row' formula := by
  obtain ⟨mode, marker, today⟩ := e
  let scope : Scope := ⟨columns, row, rows, today⟩
  let scope' : Scope := ⟨columns', row', rows', today⟩
  have h : scope.AgreeOn (Evaluator.Mentions ⟨mode, marker, today⟩ formula) scope' :=
    ⟨hcolumns, hrow, hrows, rfl⟩
  cases mode with
  | compatibility =>
    have htext : scope.AgreeOn (OccursIn (textualBody scope.today formula)) scope' := h
    have htextual := htext.evaluateTextual
    simp only [Evaluator.evaluate, scope, scope', htextual]
  | structured =>
    have hwords : scope.AgreeOn (· ∈ formulaWords formula) scope' := h
    have hstructured := hwords.evaluateStructured
    simp only [Evaluator.evaluate, scope, scope', hstructured]

end Spreadsheet.Formula
