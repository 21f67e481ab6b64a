import Spreadsheet.Row

namespace Spreadsheet.Formula

inductive Aggregate where
  | sum
  | average
  | count
  | max
  | min
deriving DecidableEq, Repr

namespace Aggregate

def ofName? : String → Option Aggregate
  | "SUM" => some sum
  | "AVERAGE" | "AVG" => some average
  | "COUNT" => some count
  | "MAX" => some max
  | "MIN" => some min
  | _ => none

def larger (x y : Float) : Float :=
  if x < y then y else x

def smaller (x y : Float) : Float :=
  if y < x then y else x

/-- Combine the numbers from the first to the last; zero if there is none. -/
def fold (f : Float → Float → Float) : List Float → Float
  | [] => 0
  | x :: xs => xs.foldl f x

def numbers (column : String) (rows : List Row) : List Float :=
  rows.map fun row => (row.get column).numberOrZero

def apply (column : String) (rows : List Row) : Aggregate → Float
  | sum => fold (· + ·) (numbers column rows)
  | average =>
    if rows.isEmpty then 0 else fold (· + ·) (numbers column rows) / Float.ofNat rows.length
  | count => Float.ofNat (rows.countP fun row => !(row.get column).isEmpty)
  | max => fold larger (numbers column rows)
  | min => fold smaller (numbers column rows)

end Aggregate

end Spreadsheet.Formula
