import Mathlib
import Spreadsheet.Proofs.Formula.ComparisonMark
import Spreadsheet.Proofs.Formula.Operand

namespace Spreadsheet.Formula

open Spreadsheet.Text

theorem exists_comparison {op : Operator} (h : op ∈ Layer.comparison.operators) :
    ∃ comparison, op.comparison? = some comparison ∧ op.symbol ∈ comparison.symbols := by
  have hall : Layer.comparison.operators.all fun op => op.comparison?.isSome := by decide
  obtain ⟨comparison, hcomparison⟩ := Option.isSome_iff_exists.mp (List.all_eq_true.mp hall op h)
  exact ⟨comparison, hcomparison, Comparison.ofSymbol?_eq_some_iff.mp hcomparison⟩

theorem symbol_of_comparison {op : Operator} (h : op ∈ Layer.comparison.operators) :
    op ∈ Operator.all ∧ op.symbol.toList.all isInert := by
  simp only [Layer.operators, List.mem_cons, List.not_mem_nil, or_false] at h
  rcases h with rfl | rfl | rfl | rfl | rfl | rfl | rfl | rfl <;>
    exact ⟨by simp [Operator.all], by decide⟩

structure Condition where
  left : Spaced Operand
  op : Operator
  isComparison : op ∈ Layer.comparison.operators
  right : Spaced Operand

namespace Condition

variable (c : Condition)

theorem op_mem_all : c.op ∈ Operator.all :=
  (symbol_of_comparison c.isComparison).1

def pieces : List Piece :=
  c.left.pieces ++ .lexeme (.operator c.op c.op_mem_all) :: c.right.pieces

def expr : Expr :=
  .binary c.op c.left.item.expr c.right.item.expr

def holds (shown : Cell → String) (scope : Scope) : Bool :=
  c.op.comparison?.any fun comparison =>
    compareLoose (c.left.item.textIn shown scope) comparison (c.right.item.textIn shown scope)

theorem written_pieces : written c.pieces =
    written c.left.pieces ++ (c.op.symbol.toList ++ written c.right.pieces) := by
  simp [pieces, Lexeme.chars]

/-- What stands behind the symbol does not make it longer. -/
theorem head_right (cs : List Char) :
    ∀ d ∈ (c.right.before.chars ++ (c.right.item.chars ++ cs)).head?, d ≠ '=' ∧ d ≠ '>' := by
  intro d hd
  cases hb : c.right.before with
  | nil =>
    obtain ⟨e, es, hchars, he⟩ := c.right.item.exists_head
    obtain rfl : e = d := by simpa [hb, hchars] using hd
    rcases he with he | rfl
    · have hpart := isNamePart_of_isNameStart he
      exact ⟨ne_of_isNamePart hpart (by decide), ne_of_isNamePart hpart (by decide)⟩
    · decide
  | cons b bs =>
    obtain rfl : b.1 = d := by simpa [hb] using hd
    have hscanned := c.right.before.not_mem_scanned b.1 (by simp [hb])
    simp only [scanned, List.mem_cons, not_or] at hscanned
    tauto

theorem isArgument : IsArgument (written c.pieces) := by
  have hinert := List.all_eq_true.mp (symbol_of_comparison c.isComparison).2
  have hsymbol := IsArgument.of_inert hinert
  rw [written_pieces]
  exact c.left.isArgument.append (hsymbol.append c.right.isArgument)

theorem isWritten : Written c.pieces c.expr where
  reads := by
    intro rest h
    have hright : Reads c.right.pieces rest := c.right.reads fun d hd => .inl (h d hd)
    have hop := hright.lexeme (l := .operator c.op c.op_mem_all) fun d hd hlonger => by
      rw [Spaced.written_pieces, List.append_assoc, List.append_assoc] at hd
      have hne := c.head_right _ d hd
      exact (c.op.eq_of_mem_longer hlonger).elim hne.1 hne.2
    obtain ⟨comparison, -, hcomparison⟩ := exists_comparison c.isComparison
    obtain ⟨d, ds, hmark, hsymbol⟩ := Comparison.exists_mark hcomparison
    refine Reads.append (c.left.reads ?_) hop
    simp [Lexeme.chars, hsymbol, hmark]
  derives := by
    have hleft : Derives c.op.left [c.left.item.lexeme.token] c.left.item.expr := by
      exact c.left.item.derives.of_strength_le (Nonterminal.strength_le _)
    have hright : Derives c.op.right [c.right.item.lexeme.token] c.right.item.expr := by
      exact c.right.item.derives.of_strength_le (Nonterminal.strength_le _)
    have htokens : lexed c.pieces =
        [c.left.item.lexeme.token] ++ .operator c.op :: [c.right.item.lexeme.token] := by
      simp [pieces, Spaced.lexed_pieces, Lexeme.token]
    rw [htokens]
    exact (Derives.binary c.op_mem_all hleft hright).comparison

theorem trim_pieces : trim (written c.pieces) = c.left.item.chars ++ c.left.after.chars ++
    (c.op.symbol.toList ++ (c.right.before.chars ++ c.right.item.chars)) := by
  have htrimmed : Trimmed (c.left.item.chars ++ (c.left.after.chars ++
      (c.op.symbol.toList ++ c.right.before.chars) ++ c.right.item.chars)) :=
    c.left.item.trimmed.append c.right.item.trimmed c.left.item.chars_ne_nil
      c.right.item.chars_ne_nil
  have htrim := htrimmed.trim_blanks c.left.before.isBlank_of_mem c.right.after.isBlank_of_mem
  simpa [written_pieces, Spaced.written_pieces] using htrim

theorem exists_split : ∃ comparison left right, c.op.comparison? = some comparison ∧
    splitCondition (trim (written c.pieces)) = some (left, comparison, right) ∧
      trim left = c.left.item.chars ∧ trim right = c.right.item.chars := by
  have hhead : ∀ d ∈ (c.right.before.chars ++ c.right.item.chars).head?, d ≠ '=' ∧ d ≠ '>' := by
    have := c.head_right []
    rwa [List.append_nil] at this
  have hmarks : Unmarked none (c.left.item.chars ++ c.left.after.chars) :=
    c.left.item.unmarked.append c.left.after.unmarked
  have hnil : ∀ d ∈ [], isBlank d := by simp
  have hleft := c.left.item.trimmed.trim_blanks hnil c.left.after.isBlank_of_mem
  have hright := c.right.item.trimmed.trim_blanks c.right.before.isBlank_of_mem hnil
  rw [List.append_nil] at hright
  obtain ⟨comparison, hcomparison, hsymbol⟩ := exists_comparison c.isComparison
  have hcut := splitCondition_symbol hmarks hsymbol (length_of_startsPair hsymbol hhead)
  refine ⟨comparison, _, _, hcomparison, ?_, hleft, hright⟩
  rw [c.trim_pieces, hcut]
  rfl

end Condition

end Spreadsheet.Formula
