import Spreadsheet.Formula.Token

namespace Spreadsheet.Formula

inductive Sign where
  | plus
  | minus
  /-- Any other operator. The text of a formula gives none. -/
  | other (op : Operator) (unknown : op ≠ .plus ∧ op ≠ .minus)
deriving DecidableEq, Repr

def Sign.operator : Sign → Operator
  | plus => .plus
  | minus => .minus
  | other op _ => op

inductive Expr where
  | number (x : Float)
  | text (s : String)
  | column (name : String)
  | call (name : String) (args : List Expr)
  | binary (op : Operator) (left right : Expr)
  | signed (sign : Sign) (operand : Expr)
deriving Repr, Inhabited

end Spreadsheet.Formula
