import Mathlib
import Spreadsheet.Proofs.Formula.Call

namespace Spreadsheet.Formula

open Spreadsheet.Text

theorem segments_ne_nil (depth : Int) (quote : Option Char) (cs : List Char) :
    segments depth quote cs ≠ [] := by
  cases cs with
  | nil => exact List.cons_ne_nil _ _
  | cons c cs =>
    rw [segments]
    split
    · exact List.cons_ne_nil _ _
    · dsimp only
      split <;> exact List.cons_ne_nil _ _

theorem join_cons_of_ne_nil (separator piece : List Char) {pieces : List (List Char)}
    (h : pieces ≠ []) :
    join separator (piece :: pieces) = piece ++ (separator ++ join separator pieces) := by
  simp only [join_eq_intercalate]
  rw [List.intercalate_cons_of_ne_nil h, List.append_assoc]

theorem join_cons_cons (separator piece : List Char) (c : Char) (pieces : List (List Char)) :
    join separator ((c :: piece) :: pieces) = c :: join separator (piece :: pieces) := by
  cases pieces with
  | nil => rfl
  | cons next pieces => simp [join]

/-- Whatever is open where a text begins, its segments make up the text. -/
theorem join_segments (depth : Int) (quote : Option Char) (cs : List Char) :
    join [','] (segments depth quote cs) = cs := by
  induction cs generalizing depth quote with
  | nil => rfl
  | cons c cs ih =>
    rw [segments]
    split
    · rename_i hcut
      rw [join_cons_of_ne_nil [','] [] (segments_ne_nil depth none cs), ih, hcut.2.1]
      rfl
    · extract_lets change
      obtain ⟨piece, pieces, hpieces⟩ :=
        List.exists_cons_of_ne_nil (segments_ne_nil (depth + change) (nextQuote quote c) cs)
      have hrest := ih (depth + change) (nextQuote quote c)
      rw [hpieces] at hrest ⊢
      rw [join_cons_cons, hrest]

/-- A call gives back the arguments that it was made of, and the segments of any text whatsoever are
the text cut at commas. -/
theorem arguments_of_joined (name : String) (rest : List Char) :
    (∀ args, args ≠ [] → (∀ cs ∈ args, IsArgument cs) →
      argumentsOf name (name.toList ++ '(' :: (join [','] args ++ ')' :: rest)) =
          .ok (join [','] args) ∧
        splitArguments (join [','] args) = args.map trim) ∧
      ∀ cs, splitArguments cs = (segments 0 none cs).map trim ∧
        join [','] (segments 0 none cs) = cs := by
  refine ⟨fun args hne hargs => ⟨?_, splitArguments_join hne hargs⟩,
    fun cs => ⟨rfl, join_segments 0 none cs⟩⟩
  rw [argumentsOf, callArguments?_of_closed (afterAll?_join hargs)]

def nestedArguments : List (List Char) :=
  ["MAX(a, (b)) > 1".toList, " \"it's ), (\" ".toList, [], "'\"),'".toList]

theorem isArgument_nested : ∀ cs ∈ nestedArguments, IsArgument cs := by
  decide

theorem arguments_of_nested :
    nestedArguments ≠ [] ∧ (∀ cs ∈ nestedArguments, IsArgument cs) ∧
      argumentsOf "IF" "IF(MAX(a, (b)) > 1, \"it's ), (\" ,,'\"),'), 2) + IF(0)".toList =
        .ok "MAX(a, (b)) > 1, \"it's ), (\" ,,'\"),'".toList ∧
      splitArguments "MAX(a, (b)) > 1, \"it's ), (\" ,,'\"),'".toList =
        ["MAX(a, (b)) > 1".toList, "\"it's ), (\"".toList, [], "'\"),'".toList] := by
  have hne : nestedArguments ≠ [] := List.cons_ne_nil _ _
  obtain ⟨hcall, hsplit⟩ :=
    (arguments_of_joined "IF" ", 2) + IF(0)".toList).1 nestedArguments hne isArgument_nested
  exact ⟨hne, isArgument_nested, hcall, hsplit⟩

end Spreadsheet.Formula
