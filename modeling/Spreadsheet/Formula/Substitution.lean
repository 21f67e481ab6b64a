import Spreadsheet.Formula.Value
import Spreadsheet.Text.Numeric
import Spreadsheet.Text.Word

namespace Spreadsheet.Formula

open Spreadsheet.Text

structure NamePattern where
  name : List Char
  boundedBefore : Bool
  boundedAfter : Bool
deriving DecidableEq, Repr

/-- The character must stand at a boundary of a word when it is the end of a name. -/
def isWordEdge (c : Char) : Bool :=
  isAlphanumeric c || c == '_'

namespace NamePattern

def ofName (name : String) : NamePattern :=
  { name := name.toList
    boundedBefore := name.toList.head?.any isWordEdge
    boundedAfter := name.toList.getLast?.any isWordEdge }

def matchesAt (p : NamePattern) (before : Option Char) (cs : List Char) : Bool :=
  match p.name.isPrefixOf? cs with
  | some rest =>
    (!p.boundedBefore || isBoundary before cs.head?) &&
      (!p.boundedAfter || isBoundary p.name.getLast? rest.head?)
  | none => false

end NamePattern

def orderedNames (columns : List String) : List String :=
  (columns.filter (· != "")).mergeSort fun a b => b.length ≤ a.length

def namePatterns (names : List String) : List NamePattern :=
  names.map NamePattern.ofName

/-- Replace the names in the text that follows the character `before`, after the next `skip`
characters, which belong to a name already replaced. -/
def substituteFrom (patterns : List NamePattern) (value : List Char → List Char) :
    Nat → Option Char → List Char → List Char
  | _, _, [] => []
  | skip + 1, _, c :: cs => substituteFrom patterns value skip (some c) cs
  | 0, before, c :: cs =>
    match patterns.find? (·.matchesAt before (c :: cs)) with
    | some p => value p.name ++ substituteFrom patterns value (p.name.length - 1) (some c) cs
    | none => c :: substituteFrom patterns value 0 (some c) cs

/-- What a cell becomes inside of a formula: its number, its text, or zero if it is empty. -/
def insertedText (v : Cell) : String :=
  if v.isEmpty then "0"
  else
    match v.number? with
    | some x => Decimal.numberText x
    | none => v.toText

def substitute (patterns : List NamePattern) (row : Row) (cs : List Char) : List Char :=
  substituteFrom patterns (fun name => (insertedText (row.get (String.ofList name))).toList) 0 none cs

end Spreadsheet.Formula
