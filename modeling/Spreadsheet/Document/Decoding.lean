import Spreadsheet.Document.Plain
import Spreadsheet.Power

namespace Spreadsheet.Document

open Spreadsheet.Text

namespace Node

def isNull : Node → Bool
  | null => true
  | plain s => Plain.isNull s
  | _ => false

def string? : Node → Option String
  | text s => some s
  | plain s => some s
  | _ => none

def flag? : Node → Option Bool
  | flag b => some b
  | plain s => Plain.flag? s
  | _ => none

def natural? : Node → Option Nat
  | integer n => if 0 ≤ n ∧ n < twoTo 64 then some n.toNat else none
  | plain s => (Plain.natural? s.toList).filter (· < twoTo 64)
  | _ => none

def integer? : Node → Option Int
  | integer n => if -(twoTo 63 : Int) ≤ n ∧ n < twoTo 63 then some n else none
  | plain s => (Plain.integer? s.toList).filter fun n => -(twoTo 63 : Int) ≤ n ∧ n < twoTo 63
  | _ => none

def float? : Node → Option Float
  | number x => some x
  | integer n => if -(twoTo 63 : Int) ≤ n ∧ n < twoTo 64 then some (Float.ofInt n) else none
  | plain s => Plain.float? s
  | _ => none

def optional? {α : Type} (read : Node → Option α) (n : Node) : Option (Option α) :=
  if n.isNull then some none else (read n).map some

/-- The items of a list. An empty plain scalar is an empty list. -/
def items? : Node → Option (List Node)
  | list items => some items
  | plain s => if s = "" then some [] else none
  | _ => none

def list? {α : Type} (read : Node → Option α) (n : Node) : Option (List α) :=
  n.items?.bind fun items => items.mapM read

def entries? : Node → Option (List (Node × Node))
  | record entries => some entries
  | plain s => if s = "" then some [] else none
  | _ => none

def map? {κ α : Type} (key? : Node → Option κ) (read : Node → Option α) (n : Node) :
    Option (List (κ × α)) :=
  n.entries?.bind fun entries => entries.mapM fun e => do return (← key? e.1, ← read e.2)

mutual

/-- Every plain scalar becomes the node that it stands for by itself. -/
def settle : Node → Node
  | plain s => Plain.node s
  | list items => list (settleItems items)
  | record fields => record (settleFields fields)
  | n => n

def settleItems : List Node → List Node
  | [] => []
  | n :: ns => n.settle :: settleItems ns

def settleFields : List (Node × Node) → List (Node × Node)
  | [] => []
  | (name, n) :: fields => (name.settle, n.settle) :: settleFields fields

end

end Node

abbrev Fields := List (String × Node)

/-- The fields with the given names, none of them twice. A record may have other fields; a list
gives the fields in their order. -/
def Node.fields? (names : List String) (n : Node) : Option Fields :=
  match n with
  | .list items => if items.length ≤ names.length then some (names.zip items) else none
  | n =>
    n.entries?.bind fun entries =>
      let fields := entries.filterMap fun e => e.1.string?.map fun name => (name, e.2)
      if names.all fun name => fields.countP (·.1 == name) ≤ 1 then
        some (fields.filter fun f => names.contains f.1)
      else none

namespace Fields

variable {α : Type}

def getD (fields : Fields) (name : String) (read : Node → Option α) (default : α) : Option α :=
  match fields.lookup name with
  | some n => read n
  | none => some default

def get? (fields : Fields) (name : String) (read : Node → Option α) : Option α :=
  (fields.lookup name).bind read

def optional? (fields : Fields) (name : String) (read : Node → Option α) : Option (Option α) :=
  fields.getD name (Node.optional? read) none

end Fields

end Spreadsheet.Document
