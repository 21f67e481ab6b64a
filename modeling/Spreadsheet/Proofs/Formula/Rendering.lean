import Mathlib
import Spreadsheet.Proofs.Formula.Lexeme
import Spreadsheet.Proofs.Formula.Parsing

namespace Spreadsheet.Formula

open Spreadsheet.Text

namespace Nonterminal

def strength : Nonterminal → Nat
  | layer .comparison => 0
  | layer .sum => 1
  | layer .product => 2
  | power => 3
  | unary => 4
  | call => 5
  | primary => 6

def next : Nonterminal → Nonterminal
  | layer l => l.operand
  | power => unary
  | unary => call
  | call | primary => primary

theorem strength_injective : Function.Injective strength := by
  rintro ((_ | _ | _) | _) ((_ | _ | _) | _) h <;> first | rfl | cases h

theorem strength_le (n : Nonterminal) : n.strength ≤ 6 := by
  rcases n with (_ | _ | _) | _ <;> decide

theorem strength_next {n : Nonterminal} (h : n ≠ primary) : n.next.strength = n.strength + 1 := by
  rcases n with (_ | _ | _) | _ <;> first | rfl | exact absurd rfl h

end Nonterminal

def Chain.snoc {l : Layer} (op : Operator) (h : op ∈ l.operators) (last : Derivation l.operand) :
    Chain l → Chain l
  | .done => .more op h last .done
  | .more op' h' operand rest => .more op' h' operand (rest.snoc op h last)

theorem Chain.tokens_snoc {l : Layer} {op : Operator} (h : op ∈ l.operators)
    (last : Derivation l.operand) : (c : Chain l) →
      (c.snoc op h last).tokens = c.tokens ++ .operator op :: last.tokens
  | .done => by simp [snoc, tokens]
  | .more op' h' operand rest => by simp [snoc, tokens, rest.tokens_snoc h last]

theorem Chain.extend_snoc {l : Layer} {op : Operator} (h : op ∈ l.operators)
    (last : Derivation l.operand) : (c : Chain l) → (e : Expr) →
      (c.snoc op h last).extend e = .binary op (c.extend e) last.tree
  | .done, e => by simp [snoc, extend]
  | .more op' h' operand rest, e => by simp [snoc, extend, rest.extend_snoc h last]

def Operator.kind (op : Operator) : Nonterminal :=
  op.layer?.elim .power .layer

def Operator.left (op : Operator) : Nonterminal :=
  op.layer?.elim .unary .layer

def Operator.right (op : Operator) : Nonterminal :=
  op.layer?.elim .power Layer.operand

namespace Derives

variable {n k : Nonterminal} {ts ts' : List Token} {e e' : Expr}

theorem of_next (h : Derives n.next ts e) : Derives n ts e := by
  obtain ⟨d, rfl, rfl⟩ := h
  cases n with
  | layer l => exact ⟨.layer d .done, List.append_nil d.tokens, rfl⟩
  | power => exact ⟨.base d, rfl, rfl⟩
  | unary => exact ⟨.unsigned d, rfl, rfl⟩
  | call => exact ⟨.plain d, rfl, rfl⟩
  | primary => exact ⟨d, rfl, rfl⟩

/-- A phrase stands for itself wherever a weaker one is asked for. -/
theorem of_strength_le (hn : n.strength ≤ k.strength) (h : Derives k ts e) : Derives n ts e := by
  induction hm : k.strength - n.strength generalizing n with
  | zero =>
    obtain rfl := Nonterminal.strength_injective (show n.strength = k.strength by omega)
    exact h
  | succ m ih =>
    have hne : n ≠ .primary := by
      rintro rfl
      have hk : k.strength ≤ Nonterminal.primary.strength := k.strength_le
      omega
    have hnext := Nonterminal.strength_next hne
    exact of_next (ih (by omega) (by omega))

theorem comparison (h : Derives k ts e) : Derives (.layer .comparison) ts e :=
  h.of_strength_le (Nat.zero_le _)

theorem group (h : Derives k ts e) : Derives n (.openParen :: (ts ++ [.closeParen])) e := by
  obtain ⟨d, rfl, rfl⟩ := h.comparison
  have hgroup : Derives .primary (.openParen :: (d.tokens ++ [.closeParen])) d.tree :=
    ⟨.group d, rfl, rfl⟩
  exact of_strength_le (k := .primary) n.strength_le hgroup

theorem binary {op : Operator} (hop : op ∈ Operator.all) (h : Derives op.left ts e)
    (h' : Derives op.right ts' e') :
    Derives op.kind (ts ++ .operator op :: ts') (.binary op e e') := by
  unfold Operator.left Operator.right Operator.kind at *
  cases hl : op.layer? with
  | none =>
    obtain rfl : op = .power := by cases op <;> simp_all [Operator.layer?, Operator.all]
    obtain ⟨d, rfl, rfl⟩ := h
    obtain ⟨d', rfl, rfl⟩ := h'
    exact ⟨.power d d', rfl, rfl⟩
  | some l =>
    rw [hl] at h h'
    obtain ⟨d, rfl, rfl⟩ := h
    obtain ⟨last, rfl, rfl⟩ := h'
    have hmem := layer?_eq_some_iff.mp hl
    cases d with
    | layer first c =>
      refine ⟨.layer first (c.snoc op hmem last), ?_, ?_⟩
      · simp [Derivation.tokens, c.tokens_snoc hmem last]
      · simp [Derivation.tree, c.extend_snoc hmem last]

theorem signed {sign : Sign} (hs : sign = .plus ∨ sign = .minus) (h : Derives .unary ts e) :
    Derives .unary (.operator sign.operator :: ts) (.signed sign e) := by
  obtain ⟨d, rfl, rfl⟩ := h
  exact ⟨.signed sign hs d, rfl, rfl⟩

end Derives

structure ColumnName where
  name : String
  nonempty : name ≠ ""
  trimmed : trim name.toList = name.toList
  notClosed : ']' ∉ name.toList

namespace ColumnName

def bracketed (c : ColumnName) : Bracketed where
  chars := c.name.toList
  notBlank := by
    by_contra h
    have hblank : ∀ d ∈ c.name.toList, isBlank d := by simpa [allBlank] using h
    have htrim : trimStart c.name.toList = [] := List.dropWhile_eq_nil_iff.mpr hblank
    have hnil := c.trimmed
    rw [trim, htrim] at hnil
    exact c.nonempty (String.toList_eq_nil_iff.mp hnil.symm)
  notClosed := c.notClosed

end ColumnName

/-- A formula as it is written: an expression tree with the literals of its numbers. -/
inductive Phrase where
  | number (l : Literal)
  | text (s : String)
  | column (c : ColumnName)
  | call (i : Identifier) (args : List Phrase)
  | binary (op : Operator) (h : op ∈ Operator.all) (left right : Phrase)
  | signed (sign : Sign) (h : sign = .plus ∨ sign = .minus) (operand : Phrase)

mutual

def Phrase.tree : Phrase → Expr
  | .number l => .number l.value
  | .text s => .text s
  | .column c => .column c.name
  | .call i args => .call i.name (Phrase.trees args)
  | .binary op _ left right => .binary op left.tree right.tree
  | .signed sign _ operand => .signed sign operand.tree

def Phrase.trees : List Phrase → List Expr
  | [] => []
  | p :: ps => p.tree :: Phrase.trees ps

end

def Phrase.kind : Phrase → Nonterminal
  | .number _ | .text _ | .column _ => .primary
  | .call _ _ => .call
  | .binary op _ _ _ => op.kind
  | .signed _ _ _ => .unary

/-- The pieces of a phrase where one of the first kind is asked for: in parentheses if its own kind
is weaker. -/
def enclosed (n k : Nonterminal) (ps : List Piece) : List Piece :=
  if n.strength ≤ k.strength then ps
  else .lexeme .openParen :: (ps ++ [.lexeme .closeParen])

theorem Sign.operator_mem_all {sign : Sign} (h : sign = .plus ∨ sign = .minus) :
    sign.operator ∈ Operator.all := by
  rcases h with rfl | rfl <;> simp [Sign.operator, Operator.all]

mutual

def Phrase.pieces (gap : Nat) : Phrase → List Piece
  | .number l => [.lexeme (.number l)]
  | .text s => [.lexeme (.text .double s)]
  | .column c => [.lexeme (.column c.bracketed)]
  | .call i args =>
    .lexeme (.name i) :: .lexeme .openParen :: (Phrase.listPieces gap args ++ [.lexeme .closeParen])
  | .binary op h left right =>
    enclosed op.left left.kind (left.pieces gap) ++
      (.space :: .lexeme (.operator op h) :: .space ::
        enclosed op.right right.kind (right.pieces gap))
  | .signed _ h operand =>
    .lexeme (.operator _ (Sign.operator_mem_all h)) ::
      enclosed .unary operand.kind (operand.pieces gap)

def Phrase.listPieces (gap : Nat) : List Phrase → List Piece
  | [] => []
  | p :: ps => p.pieces gap ++ Phrase.morePieces gap ps

def Phrase.morePieces (gap : Nat) : List Phrase → List Piece
  | [] => []
  | p :: ps =>
    .lexeme .comma :: (List.replicate gap .space ++ (p.pieces gap ++ Phrase.morePieces gap ps))

end

def Phrase.render (gap : Nat) (p : Phrase) : String :=
  String.ofList (written (p.pieces gap))

theorem derives_enclosed (n : Nonterminal) {k : Nonterminal} {ps : List Piece} {e : Expr}
    (h : Derives k (lexed ps) e) : Derives n (lexed (enclosed n k ps)) e := by
  unfold enclosed
  split
  · rename_i hn
    exact h.of_strength_le hn
  · simpa [Lexeme.token] using h.group

mutual

theorem Phrase.derives (gap : Nat) : (p : Phrase) → Derives p.kind (lexed (p.pieces gap)) p.tree
  | .number l => ⟨.number l.value, rfl, rfl⟩
  | .text s => ⟨.text s, rfl, rfl⟩
  | .column c => by
    have hname : String.ofList (trim c.name.toList) = c.name := by
      rw [c.trimmed, String.ofList_toList]
    refine ⟨.column c.name, ?_, rfl⟩
    simp [Derivation.tokens, pieces, Lexeme.token, ColumnName.bracketed, hname]
  | .call i args => by
    obtain ⟨a, htokens, htrees⟩ := Phrase.exists_arguments gap args
    refine ⟨.call i.name a, ?_, ?_⟩
    · simp [Derivation.tokens, pieces, Lexeme.token, htokens]
    · simp [Derivation.tree, tree, htrees]
  | .binary op hop left right => by
    have h := derives_enclosed op.left (left.derives gap)
    have h' := derives_enclosed op.right (right.derives gap)
    simpa [pieces, tree, kind, Lexeme.token] using Derives.binary hop h h'
  | .signed sign hs operand => by
    have h := derives_enclosed .unary (operand.derives gap)
    simpa [pieces, tree, kind, Lexeme.token] using Derives.signed hs h

theorem Phrase.exists_arguments (gap : Nat) : (ps : List Phrase) →
    ∃ a : Arguments, a.tokens = lexed (Phrase.listPieces gap ps) ∧ a.trees = Phrase.trees ps
  | [] => ⟨.none, rfl, rfl⟩
  | p :: ps => by
    obtain ⟨d, hd, htree⟩ := (p.derives gap).comparison
    obtain ⟨m, hm, htrees⟩ := Phrase.exists_moreArguments gap ps
    refine ⟨.some d m, ?_, ?_⟩
    · simp [Arguments.tokens, listPieces, hd, hm]
    · simp [Arguments.trees, trees, htree, htrees]

theorem Phrase.exists_moreArguments (gap : Nat) : (ps : List Phrase) →
    ∃ m : MoreArguments, m.tokens = lexed (Phrase.morePieces gap ps) ∧ m.trees = Phrase.trees ps
  | [] => ⟨.done, rfl, rfl⟩
  | p :: ps => by
    obtain ⟨d, hd, htree⟩ := (p.derives gap).comparison
    obtain ⟨m, hm, htrees⟩ := Phrase.exists_moreArguments gap ps
    refine ⟨.more d m, ?_, ?_⟩
    · simp [MoreArguments.tokens, morePieces, Lexeme.token, hd, hm]
    · simp [MoreArguments.trees, trees, htree, htrees]

end

namespace Reads

variable {ps : List Piece} {rest : List Char}

theorem enclosed (n k : Nonterminal) (h : ∀ rest, (∀ c ∈ rest.head?, Delimits c) → Reads ps rest)
    (hr : ∀ c ∈ rest.head?, Delimits c) : Reads (enclosed n k ps) rest := by
  unfold Formula.enclosed
  split
  · exact h rest hr
  · have hclose : Reads [.lexeme .closeParen] rest := single fun _ _ => trivial
    have hinner := h (')' :: rest) (by simp [Delimits])
    exact (append hinner hclose).lexeme fun _ _ => trivial

/-- The name of a function ends at the parenthesis behind it. -/
theorem call (i : Identifier) (h : Reads ps (')' :: rest)) :
    Reads (.lexeme (.name i) :: .lexeme .openParen :: (ps ++ [.lexeme .closeParen])) rest := by
  have hclose : Reads [.lexeme .closeParen] rest := single fun _ _ => trivial
  have hopen := (append h hclose).lexeme (l := .openParen) fun _ _ => trivial
  refine hopen.lexeme fun c hc => ?_
  obtain rfl : '(' = c := by simpa [Lexeme.chars] using hc
  change isNamePart '(' = false
  decide

end Reads

theorem Phrase.delimits_morePieces (gap : Nat) (ps : List Phrase) (rest : List Char) :
    ∀ c ∈ (written (Phrase.morePieces gap ps) ++ ')' :: rest).head?, Delimits c := by
  cases ps <;> simp [morePieces, Lexeme.chars, Delimits]

mutual

theorem Phrase.reads (gap : Nat) : (p : Phrase) → ∀ rest, (∀ c ∈ rest.head?, Delimits c) →
    Reads (p.pieces gap) rest
  | .number l, rest, hr => .single fun c hc => (hr c hc).stops _
  | .text s, rest, hr => .single fun c hc => (hr c hc).stops _
  | .column c, rest, hr => .single fun c hc => (hr c hc).stops _
  | .call i args, rest, _ => .call i (Phrase.reads_listPieces gap args rest)
  | .binary op hop left right, rest, hr => by
    have hright := Reads.enclosed op.right right.kind (right.reads gap) hr
    have hop := hright.space.lexeme (l := .operator op hop) fun c hc => by
      obtain rfl : ' ' = c := by simpa using hc
      exact Delimits.stops (by decide) _
    refine Reads.append (Reads.enclosed op.left left.kind (left.reads gap) fun c hc => ?_) hop.space
    obtain rfl : ' ' = c := by simpa using hc
    decide
  | .signed sign hs operand, rest, hr => by
    refine (Reads.enclosed .unary operand.kind (operand.reads gap) hr).lexeme fun c _ => ?_
    rcases hs with rfl | rfl <;> simp [Lexeme.Stops, Sign.operator, Operator.longer]

theorem Phrase.reads_listPieces (gap : Nat) : (ps : List Phrase) → ∀ rest,
    Reads (Phrase.listPieces gap ps) (')' :: rest)
  | [], _ => .nil
  | p :: ps, rest => by
    have hp := p.reads gap _ (Phrase.delimits_morePieces gap ps rest)
    exact hp.append (Phrase.reads_morePieces gap ps rest)

theorem Phrase.reads_morePieces (gap : Nat) : (ps : List Phrase) → ∀ rest,
    Reads (Phrase.morePieces gap ps) (')' :: rest)
  | [], _ => .nil
  | p :: ps, rest => by
    have hp := p.reads gap _ (Phrase.delimits_morePieces gap ps rest)
    have hps := hp.append (Phrase.reads_morePieces gap ps rest)
    exact (hps.spaces gap).lexeme fun _ _ => trivial

end

theorem Phrase.parse_render (gap : Nat) (p : Phrase) :
    parseFormula ("=" ++ p.render gap) = .ok p.tree := by
  have hbody : body ("=" ++ p.render gap).toList = written (p.pieces gap) := by
    simp [body, render, trimStart, show isBlank '=' = false by decide]
  have hlex : lex ("=" ++ p.render gap) = .ok (lexed (p.pieces gap)) := by
    have h := p.reads gap [] (by simp) (written (p.pieces gap)).length
    rw [List.append_nil, lexFrom_nil] at h
    rw [lex, hbody, h]
    simp [Except.map]
  rw [parseFormula, hlex]
  exact parse_of_derives (p.derives gap).comparison

/-- The expression trees that a formula can be written for. -/
inductive Expr.Writable : Expr → Prop where
  | number (l : Literal) : Writable (.number l.value)
  | text (s : String) : Writable (.text s)
  | column (c : ColumnName) : Writable (.column c.name)
  | call (i : Identifier) {args : List Expr} (h : ∀ a ∈ args, Writable a) :
      Writable (.call i.name args)
  | binary {op : Operator} (h : op ∈ Operator.all) {left right : Expr} (hl : Writable left)
      (hr : Writable right) : Writable (.binary op left right)
  | signed {sign : Sign} (h : sign = .plus ∨ sign = .minus) {operand : Expr}
      (ho : Writable operand) : Writable (.signed sign operand)

theorem Phrase.exists_trees {es : List Expr} (h : ∀ e ∈ es, ∃ p : Phrase, p.tree = e) :
    ∃ ps : List Phrase, Phrase.trees ps = es := by
  induction es with
  | nil => exact ⟨[], rfl⟩
  | cons e es ih =>
    obtain ⟨p, rfl⟩ := h e List.mem_cons_self
    obtain ⟨ps, rfl⟩ := ih fun e he => h e (List.mem_cons_of_mem _ he)
    exact ⟨p :: ps, rfl⟩

theorem Expr.Writable.exists_phrase {e : Expr} (h : e.Writable) : ∃ p : Phrase, p.tree = e := by
  induction h with
  | number l => exact ⟨.number l, rfl⟩
  | text s => exact ⟨.text s, rfl⟩
  | column c => exact ⟨.column c, rfl⟩
  | call i _ ih =>
    obtain ⟨ps, rfl⟩ := Phrase.exists_trees ih
    exact ⟨.call i ps, rfl⟩
  | binary hop _ _ ihl ihr =>
    obtain ⟨left, rfl⟩ := ihl
    obtain ⟨right, rfl⟩ := ihr
    exact ⟨.binary _ hop left right, rfl⟩
  | signed hs _ ih =>
    obtain ⟨operand, rfl⟩ := ih
    exact ⟨.signed _ hs operand, rfl⟩

/-- A tree that can be written is read back from its text, however its numbers are written. -/
theorem Expr.Writable.parseFormula_render {e : Expr} (h : e.Writable) :
    (∃ p : Phrase, p.tree = e) ∧
      ∀ (p : Phrase) (gap : Nat), p.tree = e → parseFormula ("=" ++ p.render gap) = .ok e := by
  refine ⟨h.exists_phrase, ?_⟩
  rintro p gap rfl
  exact p.parse_render gap

def Phrase.sample : Phrase :=
  .binary .lessEqual (by simp [Operator.all])
    (.signed .minus (.inr rfl) (.column ⟨"Unit price", by decide, by decide, by decide⟩))
    (.call ⟨'S', ['U', 'M'], by decide, by simp [isNamePart, isAlphanumeric, isLetter]⟩
      [.number ⟨['1'], some ['5'], none, by simp, by simp, by simp⟩, .text "a \"b\""])

theorem Phrase.sample_read :
    Phrase.sample.tree.Writable ∧
      Phrase.sample.render 1 = "-[Unit price] <= SUM(1.5, \"a \"\"b\"\"\")" ∧
      parseFormula "=-[Unit price] <= SUM(1.5, \"a \"\"b\"\"\")" = .ok Phrase.sample.tree := by
  have hw : Phrase.sample.tree.Writable := by
    refine .binary (by simp [Operator.all]) (.signed (.inr rfl) (.column _)) (.call _ ?_)
    simp only [Phrase.trees, Phrase.tree, List.mem_cons, List.not_mem_nil, or_false]
    rintro a (rfl | rfl)
    · exact .number _
    · exact .text _
  have hr : Phrase.sample.render 1 = "-[Unit price] <= SUM(1.5, \"a \"\"b\"\"\")" := by rfl
  have h := hw.parseFormula_render.2 Phrase.sample 1 rfl
  rw [hr] at h
  exact ⟨hw, hr, h⟩

end Spreadsheet.Formula
