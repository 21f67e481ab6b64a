import Spreadsheet.Calendar.Reading
import Spreadsheet.Formula.Aggregate
import Spreadsheet.Formula.Comparison
import Spreadsheet.Formula.Expr
import Spreadsheet.Formula.Value

namespace Spreadsheet.Formula

inductive EvalError where
  | notANumber (text : String)
  | divisionByZero
  | notFinite
  | argumentCount (name : String) (expected got : Nat)
  | conditionArguments (got : Nat)
  | unknownColumn (name : String)
  | notAColumn
  | unknownFunction (name : String)
  | unknownOperator (symbol : String)
  | unknownSign (symbol : String)
  | comparison
  | notArithmetic
deriving DecidableEq, Repr

def EvalError.message : EvalError → String
  | notANumber text => "Eval error: '" ++ text ++ "' is not a number"
  | divisionByZero => "Eval error: Division by zero"
  | notFinite => "Eval error: Result is not a finite number"
  | argumentCount name expected got =>
    "Eval error: " ++ name ++ " expects " ++ toString expected ++ " argument(s), got " ++
      toString got
  | conditionArguments got => "Eval error: IF expects 2 or 3 arguments, got " ++ toString got
  | unknownColumn name => "Eval error: Unknown column: " ++ name
  | notAColumn => "Eval error: Aggregate argument must be a column"
  | unknownFunction name => "Eval error: Unknown function: " ++ name
  | unknownOperator symbol => "Eval error: Unknown operator: " ++ symbol
  | unknownSign symbol => "Eval error: Unknown unary operator: " ++ symbol
  | comparison => "Eval error: Comparison is not arithmetic"
  | notArithmetic => "Eval error: Only numbers and operators are allowed"

abbrev Outcome (α : Type) := Except EvalError α

def Value.toNumber (v : Value) : Outcome Float :=
  match v.number? with
  | some x => .ok x
  | none => .error (.notANumber v.toText)

def finite (x : Float) : Outcome Float :=
  if Decimal.isFinite x then .ok x else .error .notFinite

def compute (op : Operator) (x y : Float) : Outcome Float :=
  match op with
  | .plus => finite (x + y)
  | .minus => finite (x - y)
  | .times => finite (x * y)
  | .divide => if y == 0 then .error .divisionByZero else finite (x / y)
  | .power => finite (x.pow y)
  | .other symbol _ => .error (.unknownOperator symbol)
  | _ => .error .comparison

def applySign (sign : Sign) (x : Float) : Outcome Float :=
  match sign with
  | .plus => .ok x
  | .minus => .ok (-x)
  | .other op _ => .error (.unknownSign op.symbol)

def applyOperator (op : Operator) (left right : Value) : Outcome Value :=
  match op.comparison? with
  | some comparison => .ok (.flag (compareLoose left.toText comparison right.toText))
  | none => do
    let x ← left.toNumber
    let y ← right.toNumber
    return .number (← compute op x y)

def Expr.aggregated (scope : Scope) : Expr → Outcome String
  | .column name | .text name =>
    if scope.hasColumn name then .ok name else .error (.unknownColumn name)
  | _ => .error .notAColumn

def collect : List (Outcome Value) → Outcome (List Value)
  | [] => .ok []
  | v :: vs => do return (← v) :: (← collect vs)

/-- The result of a call, from the arguments as they are written and from their outcomes. An outcome
that is not needed decides nothing. -/
def applyFunction (scope : Scope) (name : String) (args : List Expr)
    (outcomes : List (Outcome Value)) : Outcome Value :=
  match Aggregate.ofName? name with
  | some aggregate =>
    match args with
    | [arg] => do return .number (aggregate.apply (← arg.aggregated scope) scope.rows)
    | _ => .error (.argumentCount name 1 args.length)
  | none =>
    match name with
    | "IF" =>
      match outcomes with
      | [condition, yes] => do
        if (← condition).isTrue then return (← yes).settle else return .flag false
      | [condition, yes, no] => do
        if (← condition).isTrue then return (← yes).settle else return (← no).settle
      | _ => .error (.conditionArguments args.length)
    | "CONCATENATE" | "CONCAT" => do
      return .text (String.join ((← collect outcomes).map Value.toText))
    | "DATEDIFF" =>
      match outcomes with
      | [first, second] => do
        let first ← first
        let second ← second
        let days := Calendar.daysBetween first.toText.toList second.toText.toList
        return .number (Float.ofNat days)
      | _ => .error (.argumentCount name 2 args.length)
    | "TODAY" =>
      match args with
      | [] => .ok (.text scope.today)
      | _ => .error (.argumentCount name 0 args.length)
    | _ => .error (.unknownFunction name)

mutual

def evaluate (scope : Scope) : Expr → Outcome Value
  | .number x => .ok (.number x)
  | .text s => .ok (.text s)
  | .column name => .ok (scope.valueOf name)
  | .call name args => applyFunction scope name args (evaluateEach scope args)
  | .binary op left right => do
    let left ← evaluate scope left
    let right ← evaluate scope right
    applyOperator op left right
  | .signed sign operand => do
    let x ← (← evaluate scope operand).toNumber
    return .number (← applySign sign x)

def evaluateEach (scope : Scope) : List Expr → List (Outcome Value)
  | [] => []
  | arg :: args => evaluate scope arg :: evaluateEach scope args

end

/-- The number of an expression without columns, texts, calls and comparisons. -/
def evaluateArithmetic : Expr → Outcome Float
  | .number x => .ok x
  | .signed sign operand => do
    let x ← evaluateArithmetic operand
    applySign sign x
  | .binary op left right => do
    let x ← evaluateArithmetic left
    let y ← evaluateArithmetic right
    compute op x y
  | _ => .error .notArithmetic

end Spreadsheet.Formula
