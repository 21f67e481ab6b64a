import Spreadsheet.Decimal.Layout
import Spreadsheet.Document.Node

namespace Spreadsheet.Document.Json

open Spreadsheet.Text

/-- Numbers with a fraction are positional from `0.00001` to below `10 ^ 16`. -/
def numberLayout : Decimal.Layout := ⟨true, some (-5, 15)⟩

def lowHexDigit (n : Nat) : Char :=
  if n < 10 then Char.ofNat (48 + n) else Char.ofNat (87 + n)

def escape (c : Char) : List Char :=
  match c with
  | '"' => ['\\', '"']
  | '\\' => ['\\', '\\']
  | '\n' => ['\\', 'n']
  | '\r' => ['\\', 'r']
  | '\t' => ['\\', 't']
  | c =>
    if c.toNat = 8 then ['\\', 'b']
    else if c.toNat = 12 then ['\\', 'f']
    else if c.toNat < 0x20 then
      ['\\', 'u', '0', '0', lowHexDigit (c.toNat / 16), lowHexDigit (c.toNat % 16)]
    else [c]

def quoted (s : String) : List Char :=
  '"' :: s.toList.flatMap escape ++ ['"']

def newLine (level : Nat) : List Char :=
  '\n' :: List.replicate (2 * level) ' '

def nameText : Node → List Char
  | .integer n => quoted (String.ofList (Text.integer n))
  | .text s | .plain s => quoted s
  | _ => quoted ""

mutual

/-- The text of a node whose lines are at the given level. What is not finite has no notation and
is written as null. -/
def pretty (level : Nat) : Node → List Char
  | .null => "null".toList
  | .flag b => if b then "true".toList else "false".toList
  | .integer n => Text.integer n
  | .number x => if Decimal.isFinite x then numberLayout.text x else "null".toList
  | .text s | .plain s => quoted s
  | .list [] => ['[', ']']
  | .list (n :: ns) =>
    '[' :: newLine (level + 1) ++ pretty (level + 1) n ++ prettyItems (level + 1) ns ++
      newLine level ++ [']']
  | .record [] => ['\x7b', '\x7d']
  | .record ((name, n) :: fields) =>
    '\x7b' :: newLine (level + 1) ++ nameText name ++ ':' :: ' ' :: pretty (level + 1) n ++
      prettyFields (level + 1) fields ++ newLine level ++ ['\x7d']

def prettyItems (level : Nat) : List Node → List Char
  | [] => []
  | n :: ns => ',' :: newLine level ++ pretty level n ++ prettyItems level ns

def prettyFields (level : Nat) : List (Node × Node) → List Char
  | [] => []
  | (name, n) :: fields =>
    ',' :: newLine level ++ nameText name ++ ':' :: ' ' :: pretty level n ++
      prettyFields level fields

end

end Spreadsheet.Document.Json
