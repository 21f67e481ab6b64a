import Spreadsheet.Formula.Evaluation
import Spreadsheet.Formula.Parser
import Spreadsheet.Formula.Quotation
import Spreadsheet.Formula.Substitution

namespace Spreadsheet.Formula

open Spreadsheet.Text

inductive Result where
  | number (x : Float)
  | text (s : String)
  | error (marker : String)
deriving DecidableEq, Repr

inductive TextualError where
  | unclosedCall (name : String)
  | unknownColumn (name column : String)
  | argumentCount (name : String) (expected got : Nat)
  | noComparison (condition : String)
  | refusedPattern (text : String)
  | disallowed (text : String)
  | malformed (e : ParseError)
  | evaluation (e : EvalError)
deriving DecidableEq, Repr

inductive Form where
  | aggregate (name : String) (kind : Aggregate)
  | conditional
  | concatenation (name : String)
  | difference
  | literal (cs : List Char)
  | arithmetic
deriving DecidableEq, Repr

def openings : List (String × Form) :=
  [("SUM", .aggregate "SUM" .sum), ("AVERAGE", .aggregate "AVERAGE" .average),
    ("AVG", .aggregate "AVG" .average), ("COUNT", .aggregate "COUNT" .count),
    ("MAX", .aggregate "MAX" .max), ("MIN", .aggregate "MIN" .min), ("IF", .conditional),
    ("CONCATENATE", .concatenation "CONCATENATE"), ("CONCAT", .concatenation "CONCAT"),
    ("DATEDIFF", .difference)]

/-- The first function whose opening is found anywhere in the text decides what the formula is. -/
def formOf (cs : List Char) : Form :=
  match openings.find? fun opening => contains (opening.1.toList ++ ['(']) cs with
  | some opening => opening.2
  | none =>
    match literal? cs with
    | some s => .literal s
    | none => .arithmetic

abbrev Textual (α : Type) := Except TextualError α

def argumentsOf (name : String) (cs : List Char) : Textual (List Char) :=
  match callArguments? name.toList cs with
  | some args => .ok args
  | none => .error (.unclosedCall name)

/-- An operand is the name of a column, perhaps in brackets, or stands for itself. -/
def operandText (scope : Scope) (cs : List Char) : String :=
  let name := String.ofList (stripBrackets cs)
  if scope.hasColumn name then (scope.row.get name).toText else String.ofList (stripQuotes cs)

def branchResult (cs : List Char) : Result :=
  let s := String.ofList (stripQuotes cs)
  match Decimal.parse? s with
  | some x => .number x
  | none => .text s

def aggregateResult (scope : Scope) (name : String) (kind : Aggregate) (cs : List Char) :
    Textual Result := do
  let column := String.ofList (stripBrackets (stripQuotes (← argumentsOf name cs)))
  if scope.hasColumn column then return .number (kind.apply column scope.rows)
  else .error (.unknownColumn name column)

def conditionalResult (scope : Scope) (cs : List Char) : Textual Result := do
  match splitArguments (← argumentsOf "IF" cs) with
  | [condition, yes, no] =>
    match splitCondition condition with
    | some (left, comparison, right) =>
      let holds := compareLoose (operandText scope (trim left)) comparison
        (operandText scope (trim right))
      return branchResult (if holds then yes else no)
    | none => .error (.noComparison (String.ofList condition))
  | args => .error (.argumentCount "IF" 3 args.length)

def concatenationResult (scope : Scope) (name : String) (cs : List Char) : Textual Result := do
  return .text (String.join ((splitArguments (← argumentsOf name cs)).map (operandText scope)))

def differenceResult (scope : Scope) (cs : List Char) : Textual Result := do
  match splitArguments (← argumentsOf "DATEDIFF" cs) with
  | [first, second] =>
    let days := Calendar.daysBetween (operandText scope first).toList
      (operandText scope second).toList
    return .number (Float.ofNat days)
  | args => .error (.argumentCount "DATEDIFF" 2 args.length)

def isArithmetic (c : Char) : Bool :=
  c.isDigit || ['+', '-', '*', '/', '(', ')', '.'].contains c || isBlank c

def arithmeticResult (cs : List Char) : Textual Result :=
  if cs = [] ∨ ¬ cs.all isArithmetic then .error (.disallowed (String.ofList cs))
  else
    match parseFormula (String.ofList cs) with
    | .error e => .error (.malformed e)
    | .ok e =>
      match evaluateArithmetic e with
      | .error e => .error (.evaluation e)
      | .ok x => .ok (.number x)

def Form.result (scope : Scope) (patterns : List NamePattern) (cs : List Char) :
    Form → Textual Result
  | aggregate name kind => aggregateResult scope name kind cs
  | conditional => conditionalResult scope cs
  | concatenation name => concatenationResult scope name cs
  | difference => differenceResult scope cs
  | literal s => .ok (.text (String.ofList s))
  | arithmetic => arithmeticResult (substitute patterns scope.row cs)

/-- The text of a formula without the blanks around it and the equals sign, with each call for the
date of today replaced by that date. -/
def textualBody (today : String) (s : String) : List Char :=
  let cs := trim s.toList
  let cs := match cs with
    | '=' :: rest => rest
    | cs => cs
  replace "TODAY()".toList ('"' :: today.toList ++ ['"']) cs

def evaluateTextual (scope : Scope) (formula : String) : Textual Result :=
  let cs := textualBody scope.today formula
  (formOf cs).result scope (namePatterns (orderedNames scope.columns)) cs

end Spreadsheet.Formula
