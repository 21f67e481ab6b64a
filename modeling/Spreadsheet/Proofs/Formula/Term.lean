import Mathlib
import Spreadsheet.Proofs.Formula.Operand
import Spreadsheet.Proofs.Formula.Substitution

namespace Spreadsheet.Formula

open Spreadsheet.Text

/-- A word that stands for an operand of the strongest operators. -/
structure Atom where
  word : Word
  tree : Expr
  separate : word.Separate
  derives : Derives .unary word.tokens tree

theorem isNameStart_of_isPlain {c : Char} (h : isPlain c) (hd : c.isDigit = false) :
    isNameStart c :=
  ascii_of_lt (p := fun c => isPlain c → c.isDigit = false → isNameStart c) (by decide +kernel)
    (lt_of_isPlain h) h hd

theorem isNamePart_of_isPlain {c : Char} (h : isPlain c) : isNamePart c :=
  ascii_of_lt (p := fun c => isPlain c → isNamePart c) (by decide +kernel) (lt_of_isPlain h) h

structure PlainName where
  first : Char
  rest : List Char
  plain : isPlainName (String.ofList (first :: rest))

namespace PlainName

variable (n : PlainName)

def name : String :=
  String.ofList (n.first :: n.rest)

theorem isPlain_of_mem : ∀ c ∈ n.first :: n.rest, isPlain c := by
  have h := Formula.isPlain_of_mem n.plain
  rwa [String.toList_ofList] at h

def identifier : Identifier where
  first := n.first
  rest := n.rest
  isStart := by
    obtain ⟨c, cs, hname, hc, hdigit⟩ := exists_first n.plain
    rw [String.toList_ofList, List.cons.injEq] at hname
    obtain ⟨rfl, -⟩ := hname
    exact isNameStart_of_isPlain hc hdigit
  isPart c hc := isNamePart_of_isPlain (n.isPlain_of_mem c (List.mem_cons_of_mem _ hc))

def atom : Atom where
  word := [.name n.identifier]
  tree := .column n.name
  separate := Word.separate_single _
  derives := Derives.of_strength_le (k := .primary) (by decide) ⟨.name n.name, rfl, rfl⟩

@[simp] theorem chars_atom : n.atom.word.chars = n.name.toList := by
  simp [atom, Word.chars, Lexeme.chars, identifier, name]

end PlainName

structure Numeral where
  negative : Bool
  literal : Literal
  positional : literal.exponent = none

namespace Numeral

variable (n : Numeral)

def word : Word :=
  if n.negative then [.operator .minus (by simp [Operator.all]), .number n.literal]
  else [.number n.literal]

def tree : Expr :=
  if n.negative then .signed .minus (.number n.literal.value) else .number n.literal.value

def atom : Atom where
  word := n.word
  tree := n.tree
  separate := by
    rw [word]
    split
    · intro rest h
      have hnumber := Word.separate_single (.number n.literal) rest h
      exact Reads.lexeme hnumber fun c _ => List.not_mem_nil
    · exact Word.separate_single _
  derives := by
    have hnumber : Derives .unary [.number n.literal.value] (.number n.literal.value) :=
      Derives.of_strength_le (k := .primary) (by decide) ⟨.number n.literal.value, rfl, rfl⟩
    rw [word, tree]
    split
    · exact Derives.signed (.inr rfl) hnumber
    · exact hnumber

end Numeral

def arithmetic : List Operator :=
  [.plus, .minus, .times, .divide]

theorem mem_all_of_mem_arithmetic {op : Operator} (h : op ∈ arithmetic) : op ∈ Operator.all := by
  revert op
  simp [arithmetic, Operator.all]

theorem Sign.operator_mem_arithmetic {sign : Sign} (h : sign = .plus ∨ sign = .minus) :
    sign.operator ∈ arithmetic := by
  rcases h with rfl | rfl <;> simp [Sign.operator, arithmetic]

inductive Term where
  | number (l : Literal) (h : l.exponent = none)
  | column (n : PlainName)
  | binary (op : Operator) (h : op ∈ arithmetic) (left right : Term)
  | signed (sign : Sign) (h : sign = .plus ∨ sign = .minus) (operand : Term)

/-- The words of a phrase where one of the first kind is asked for. -/
def enclosedWords (n k : Nonterminal) (ws : List Word) : List Word :=
  if n.strength ≤ k.strength then ws else [.openParen] :: (ws ++ [[.closeParen]])

namespace Term

def isColumn : Term → Bool
  | column _ => true
  | _ => false

def columns : Term → List PlainName
  | number _ _ => []
  | column n => [n]
  | binary _ _ left right => left.columns ++ right.columns
  | signed _ _ operand => operand.columns

def kind : Term → Nonterminal
  | binary op _ _ _ => op.kind
  | _ => .unary

/-- The words of a term, with an atom in the place of each column. -/
def words (atom : PlainName → Atom) : Term → List Word
  | number l _ => [[.number l]]
  | column n => [(atom n).word]
  | binary op h left right =>
    enclosedWords op.left left.kind (left.words atom) ++
      [.operator op (mem_all_of_mem_arithmetic h)] ::
        enclosedWords op.right right.kind (right.words atom)
  | signed _ h operand =>
    [.operator _ (Sign.operator_mem_all h)] :: enclosedWords .unary operand.kind (operand.words atom)

def tree (atom : PlainName → Atom) : Term → Expr
  | number l _ => .number l.value
  | column n => (atom n).tree
  | binary op _ left right => .binary op (left.tree atom) (right.tree atom)
  | signed sign _ operand => .signed sign (operand.tree atom)

def chars (gap : Blanks) (t : Term) : List Char :=
  join gap.chars ((t.words PlainName.atom).map Word.chars)

inductive IsFixed : Word → Prop where
  | number {l : Literal} (h : l.exponent = none) : IsFixed [.number l]
  | operator {op : Operator} (h : op ∈ Operator.all) (ha : op ∈ arithmetic) : IsFixed [.operator op h]
  | openParen : IsFixed [.openParen]
  | closeParen : IsFixed [.closeParen]

variable (atom atom' : PlainName → Atom)

/-- Two texts of a term correspond word for word. -/
theorem forall₂_words {r : Word → Word → Prop} (hfixed : ∀ w, IsFixed w → r w w) (t : Term)
    (hcolumns : ∀ n ∈ t.columns, r (atom n).word (atom' n).word) :
    List.Forall₂ r (t.words atom) (t.words atom') := by
  have henclosed : ∀ (n k : Nonterminal) {ws ws' : List Word}, List.Forall₂ r ws ws' →
      List.Forall₂ r (enclosedWords n k ws) (enclosedWords n k ws') := by
    intro n k ws ws' h
    rw [enclosedWords, enclosedWords]
    split
    · exact h
    · exact .cons (hfixed _ .openParen)
        (List.rel_append h (.cons (hfixed _ .closeParen) .nil))
  induction t with
  | number l h => exact .cons (hfixed _ (.number h)) .nil
  | column n => exact .cons (hcolumns n List.mem_cons_self) .nil
  | binary op h left right ihl ihr =>
    have hleft := ihl fun n hn => hcolumns n (List.mem_append_left _ hn)
    have hright := ihr fun n hn => hcolumns n (List.mem_append_right _ hn)
    exact List.rel_append (henclosed _ _ hleft)
      (.cons (hfixed _ (.operator _ h)) (henclosed _ _ hright))
  | signed sign h operand ih =>
    exact .cons (hfixed _ (.operator _ (Sign.operator_mem_arithmetic h)))
      (henclosed _ _ (ih hcolumns))

theorem forall_words {p : Word → Prop} (hfixed : ∀ w, IsFixed w → p w) (t : Term)
    (hcolumns : ∀ n ∈ t.columns, p (atom n).word) : ∀ w ∈ t.words atom, p w := by
  have h := forall₂_words atom atom (r := fun w _ => p w) hfixed t hcolumns
  exact (@List.forall₂_same Word (fun w _ => p w) _).mp h

theorem words_ne_nil (t : Term) : t.words atom ≠ [] := by
  cases t <;> simp [words]

theorem separate_words (t : Term) : ∀ w ∈ t.words atom, w.Separate := by
  refine forall_words atom (fun w hw => ?_) t fun n _ => (atom n).separate
  cases hw <;> exact Word.separate_single _

theorem derives_enclosedWords (n : Nonterminal) {k : Nonterminal} {ws : List Word} {e : Expr}
    (h : Derives k (Word.tokens ws.flatten) e) :
    Derives n (Word.tokens (enclosedWords n k ws).flatten) e := by
  rw [enclosedWords]
  split
  · rename_i hn
    exact h.of_strength_le hn
  · simpa [Word.tokens, Lexeme.token] using h.group

theorem derives (t : Term) :
    Derives t.kind (Word.tokens (t.words atom).flatten) (t.tree atom) := by
  induction t with
  | number l h =>
    exact Derives.of_strength_le (k := .primary) (Nonterminal.strength_le _) ⟨.number l.value, rfl, rfl⟩
  | column n => simpa [words, kind, tree] using (atom n).derives
  | binary op h left right ihl ihr =>
    have hleft := derives_enclosedWords op.left ihl
    have hright := derives_enclosedWords op.right ihr
    have hbinary := Derives.binary (mem_all_of_mem_arithmetic h) hleft hright
    simpa [words, kind, tree, Word.tokens, Lexeme.token] using hbinary
  | signed sign h operand ih =>
    have hoperand := derives_enclosedWords .unary ih
    simpa [words, kind, tree, Word.tokens, Lexeme.token] using Derives.signed h hoperand

theorem isWritten {gap : Blanks} (hgap : gap ≠ []) (t : Term) :
    Written (spread gap (t.words atom)) (t.tree atom) where
  reads _ h := reads_spread hgap (separate_words atom t) h
  derives := by
    rw [lexed_spread]
    exact (derives atom t).comparison

end Term

end Spreadsheet.Formula
