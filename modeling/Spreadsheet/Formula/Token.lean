import Spreadsheet.Decimal.Layout
import Spreadsheet.Text.Described

namespace Spreadsheet.Formula

def operatorSymbols : List String :=
  ["+", "-", "*", "/", "^", "=", "==", "!=", "<>", "<", ">", "<=", ">="]

inductive Operator where
  | plus
  | minus
  | times
  | divide
  | power
  | equal
  | doubleEqual
  | bangEqual
  | lessGreater
  | less
  | greater
  | lessEqual
  | greaterEqual
  /-- Any other symbol. The text of a formula gives none. -/
  | other (symbol : String) (unknown : symbol ∉ operatorSymbols)
deriving DecidableEq, Repr

namespace Operator

def symbol : Operator → String
  | plus => "+"
  | minus => "-"
  | times => "*"
  | divide => "/"
  | power => "^"
  | equal => "="
  | doubleEqual => "=="
  | bangEqual => "!="
  | lessGreater => "<>"
  | less => "<"
  | greater => ">"
  | lessEqual => "<="
  | greaterEqual => ">="
  | other symbol _ => symbol

def all : List Operator :=
  [plus, minus, times, divide, power, equal, doubleEqual, bangEqual, lessGreater, less, greater,
    lessEqual, greaterEqual]

end Operator

inductive Token where
  | number (x : Float)
  | text (s : String)
  | name (s : String)
  | column (s : String)
  | operator (op : Operator)
  | openParen
  | closeParen
  | comma
deriving DecidableEq, Repr

def Token.describe : Token → String
  | .number x => "Number(" ++ Decimal.taggedText x ++ ")"
  | .text s => "Text(" ++ String.ofList (Text.described s.toList) ++ ")"
  | .name s => "Identifier(" ++ String.ofList (Text.described s.toList) ++ ")"
  | .column s => "ColumnRef(" ++ String.ofList (Text.described s.toList) ++ ")"
  | .operator op => "Operator(" ++ String.ofList (Text.described op.symbol.toList) ++ ")"
  | .openParen => "OpenParen"
  | .closeParen => "CloseParen"
  | .comma => "Comma"

end Spreadsheet.Formula
