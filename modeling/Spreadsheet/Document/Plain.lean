import Spreadsheet.Decimal.Reading
import Spreadsheet.Document.Node
import Spreadsheet.Power
import Spreadsheet.Text.Search

namespace Spreadsheet.Document.Plain

open Spreadsheet.Text

def isNull (s : String) : Bool :=
  s == "" || s == "~" || s == "null" || s == "Null" || s == "NULL"

def flag? (s : String) : Option Bool :=
  if ["true", "True", "TRUE"].contains s then some true
  else if ["false", "False", "FALSE"].contains s then some false
  else none

def digits? (base : Nat) (cs : List Char) : Option Nat :=
  if cs = [] then none
  else cs.foldlM (fun n c => ((hexValue? c).filter (· < base)).map (base * n + ·)) 0

def hasNeedlessZero (cs : List Char) : Bool :=
  let digits := match cs with
    | '-' :: ds => ds
    | '+' :: ds => ds
    | ds => ds
  1 < digits.length && digits.head? == some '0' && digits.all Char.isDigit

def size? : List Char → Option Nat
  | '0' :: 'x' :: cs => digits? 16 cs
  | '0' :: 'o' :: cs => digits? 8 cs
  | '0' :: 'b' :: cs => digits? 2 cs
  | cs => digits? 10 cs

def natural? (cs : List Char) : Option Nat :=
  if hasNeedlessZero cs then none
  else
    match cs with
    | '+' :: ds => size? ds
    | ds => size? ds

def integer? (cs : List Char) : Option Int :=
  match cs with
  | '-' :: ds => if hasNeedlessZero cs then none else (size? ds).map fun n => -n
  | _ => (natural? cs).map Int.ofNat

/-- The words for what is not a finite number; only infinity may have a sign. -/
def special? (s : String) : Option Float :=
  if [".inf", ".Inf", ".INF", "+.inf", "+.Inf", "+.INF"].contains s then some (1 / 0)
  else if ["-.inf", "-.Inf", "-.INF"].contains s then some (-1 / 0)
  else if [".nan", ".NaN", ".NAN"].contains s then some (0 / 0)
  else none

def float? (s : String) : Option Float :=
  match special? s with
  | some x => some x
  | none =>
    match s.toList with
    | '+' :: c :: cs => if c = '+' ∨ c = '-' then none else (Decimal.float? (c :: cs)).bind Decimal.finite?
    | cs => (Decimal.float? cs).bind Decimal.finite?

/-- The node that a scalar stands for by itself. Integers of up to 128 bits stay integers. -/
def node (s : String) : Node :=
  if isNull s then .null
  else
    match flag? s with
    | some b => .flag b
    | none =>
      match (integer? s.toList).filter fun n => -(twoTo 127 : Int) ≤ n && n < twoTo 128 with
      | some n => .integer n
      | none =>
        if hasNeedlessZero s.toList then .text s
        else
          match float? s with
          | some x => .number x
          | none => .text s

end Spreadsheet.Document.Plain
