import Spreadsheet.Decimal.Reading
import Spreadsheet.Formula.Quotation
import Spreadsheet.Formula.Token
import Spreadsheet.Text.Order

namespace Spreadsheet.Formula

inductive Comparison where
  | equal
  | unequal
  | less
  | greater
  | lessEqual
  | greaterEqual
deriving DecidableEq, Repr

namespace Comparison

def all : List Comparison :=
  [equal, unequal, less, greater, lessEqual, greaterEqual]

def symbols : Comparison → List String
  | equal => ["=", "=="]
  | unequal => ["!=", "<>"]
  | less => ["<"]
  | greater => [">"]
  | lessEqual => ["<="]
  | greaterEqual => [">="]

def ofSymbol? (s : String) : Option Comparison :=
  all.find? (·.symbols.contains s)

def holds (ordering : Ordering) : Comparison → Bool
  | equal => ordering == .eq
  | unequal => ordering != .eq
  | less => ordering == .lt
  | greater => ordering == .gt
  | lessEqual => ordering != .gt
  | greaterEqual => ordering != .lt

end Comparison

def Operator.comparison? (op : Operator) : Option Comparison :=
  Comparison.ofSymbol? op.symbol

def numberOrdering? (x y : Float) : Option Ordering :=
  if x < y then some .lt else if x == y then some .eq else if y < x then some .gt else none

def looseOrdering? (s t : String) : Option Ordering :=
  match Decimal.parse? s, Decimal.parse? t with
  | some x, some y => numberOrdering? x y
  | _, _ => some (Text.lexOrdering s.toList t.toList)

/-- A comparison of two texts; what has no order is unequal. -/
def compareLoose (s : String) (comparison : Comparison) (t : String) : Bool :=
  match looseOrdering? s t with
  | some ordering => comparison.holds ordering
  | none => comparison == .unequal

def isComparisonMark (c : Char) : Bool :=
  c == '>' || c == '<' || c == '=' || c == '!'

def spanComparison? (c : Char) (cs : List Char) : Option (Comparison × List Char) :=
  match cs with
  | d :: rest =>
    match Comparison.ofSymbol? (String.ofList [c, d]) with
    | some comparison => some (comparison, rest)
    | none => (Comparison.ofSymbol? c.toString).map fun comparison => (comparison, cs)
  | [] => (Comparison.ofSymbol? c.toString).map fun comparison => (comparison, [])

/-- The parts of a condition around its first comparison outside of quotes. A comparison mark that
writes no comparison makes the condition invalid. -/
def splitConditionFrom (quote : Option Char) :
    List Char → Option (List Char × Comparison × List Char)
  | [] => none
  | c :: cs =>
    if quote = none ∧ isComparisonMark c then
      (spanComparison? c cs).map fun p => ([], p.1, p.2)
    else
      (splitConditionFrom (nextQuote quote c) cs).map fun p => (c :: p.1, p.2.1, p.2.2)

def splitCondition (cs : List Char) : Option (List Char × Comparison × List Char) :=
  splitConditionFrom none cs

end Spreadsheet.Formula
