import Spreadsheet.Formula.PatternText
import Spreadsheet.Formula.Textual

namespace Spreadsheet.Formula

/-- What prepares patterns from their texts and replaces the names that a pattern finds. -/
structure Engine where
  Pattern : Type
  prepare? : String → Option Pattern
  replaceNames : Pattern → (List Char → List Char) → List Char → List Char

def nameEngine : Engine where
  Pattern := List NamePattern
  prepare? := readPatterns?
  replaceNames patterns value cs := substituteFrom patterns value 0 none cs

structure Memo (engine : Engine) where
  text : String
  pattern : engine.Pattern

section Evaluation

variable {engine : Engine}

/-- The pattern of a text, from the memo if it is kept there, and the memo after it. A text that the
engine refuses leaves the memo as it is. -/
def Memo.lookUp (memo : Option (Memo engine)) (text : String) :
    Option engine.Pattern × Option (Memo engine) :=
  match memo.filter (·.text == text) with
  | some m => (some m.pattern, memo)
  | none =>
    match engine.prepare? text with
    | some pattern => (some pattern, some ⟨text, pattern⟩)
    | none => (none, memo)

/-- The text of the pattern that a formula needs: arithmetic over a table with columns needs one. -/
def neededText? (scope : Scope) (cs : List Char) : Option String :=
  match formOf cs, orderedNames scope.columns with
  | .arithmetic, name :: names => some (searchText (name :: names))
  | _, _ => none

def insertedChars (row : Row) (name : List Char) : List Char :=
  (insertedText (row.get (String.ofList name))).toList

def arithmeticWith (row : Row) (text : String) (pattern? : Option engine.Pattern) (cs : List Char) :
    Textual Result :=
  match pattern? with
  | some pattern => arithmeticResult (engine.replaceNames pattern (insertedChars row) cs)
  | none => .error (.refusedPattern text)

def evaluateAfresh (engine : Engine) (scope : Scope) (formula : String) : Textual Result :=
  let cs := textualBody scope.today formula
  match neededText? scope cs with
  | some text => arithmeticWith scope.row text (engine.prepare? text) cs
  | none => (formOf cs).result scope [] cs

def evaluateMemoized (memo : Option (Memo engine)) (scope : Scope) (formula : String) :
    Textual Result × Option (Memo engine) :=
  let cs := textualBody scope.today formula
  match neededText? scope cs with
  | some text =>
    let found := Memo.lookUp memo text
    (arithmeticWith scope.row text found.1 cs, found.2)
  | none => ((formOf cs).result scope [] cs, memo)

def evaluateInTurn (memo : Option (Memo engine)) :
    List (Scope × String) → List (Textual Result × Option (Memo engine))
  | [] => []
  | call :: calls =>
    let step := evaluateMemoized memo call.1 call.2
    step :: evaluateInTurn step.2 calls

end Evaluation

end Spreadsheet.Formula
