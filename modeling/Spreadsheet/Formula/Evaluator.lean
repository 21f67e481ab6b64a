import Spreadsheet.Formula.Textual

namespace Spreadsheet.Formula

inductive Mode where
  | compatibility
  | structured
deriving DecidableEq, Repr, Inhabited

inductive StructuredError where
  | malformed (e : ParseError)
  | evaluation (e : EvalError)
deriving DecidableEq, Repr

def Value.result : Value → Result
  | number x => .number x
  | v => .text v.toText

def evaluateStructured (scope : Scope) (formula : String) : Except StructuredError Result :=
  match parseFormula formula with
  | .error e => .error (.malformed e)
  | .ok e =>
    match evaluate scope e with
    | .error e => .error (.evaluation e)
    | .ok v => .ok v.result

namespace Result

def settled (marker : String) : Result → Result
  | number x => if Decimal.isFinite x then number x else error marker
  | r => r

def toCell : Result → Cell
  | number x => .number x
  | text s => .text s
  | error marker => .text marker

def toText : Result → String
  | number x => Decimal.numberText x
  | text s => s
  | error marker => marker

end Result

structure Evaluator where
  mode : Mode
  marker : String
  today : String
deriving DecidableEq, Inhabited

/-- The result of a formula for a row of a table; what cannot be evaluated gives the marker. -/
def Evaluator.evaluate (evaluator : Evaluator) (columns : List String) (rows : List Row)
    (row : Row) (formula : String) : Result :=
  let scope : Scope := ⟨columns, row, rows, evaluator.today⟩
  let result? := match evaluator.mode with
    | .compatibility => (evaluateTextual scope formula).toOption
    | .structured => (evaluateStructured scope formula).toOption
  match result? with
  | some r => r.settled evaluator.marker
  | none => .error evaluator.marker

end Spreadsheet.Formula
