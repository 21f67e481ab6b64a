import Spreadsheet.Formula.Substitution
import Spreadsheet.Text.Search

namespace Spreadsheet.Formula

open Spreadsheet.Text

def isSpecial (c : Char) : Bool :=
  ['\\', '.', '+', '*', '?', '(', ')', '|', '[', ']', '{', '}', '^', '$', '#', '&', '-', '~'].contains c

def escaped (c : Char) : List Char :=
  if isSpecial c then ['\\', c] else [c]

def boundaryText (required : Bool) : List Char :=
  if required then ['\\', 'b'] else []

def NamePattern.text (p : NamePattern) : List Char :=
  boundaryText p.boundedBefore ++ (p.name.flatMap escaped ++ boundaryText p.boundedAfter)

/-- The text of the pattern that finds any of the names. -/
def searchText (names : List String) : String :=
  String.ofList (join ['|'] ((namePatterns names).map NamePattern.text))

inductive PatternItem where
  | boundary
  | bar
  | char (c : Char)
deriving DecidableEq, Repr

/-- The items of a text; a special character must be escaped, and only such a character may be. -/
def patternItems? : List Char → Option (List PatternItem)
  | [] => some []
  | ['\\'] => none
  | '\\' :: c :: cs =>
    if c = 'b' then (patternItems? cs).map (.boundary :: ·)
    else if isSpecial c then (patternItems? cs).map (.char c :: ·)
    else none
  | c :: cs =>
    if c = '|' then (patternItems? cs).map (.bar :: ·)
    else if isSpecial c then none
    else (patternItems? cs).map (.char c :: ·)

def alternatives : List PatternItem → List (List PatternItem)
  | [] => [[]]
  | .bar :: items => [] :: alternatives items
  | item :: items =>
    match alternatives items with
    | piece :: pieces => (item :: piece) :: pieces
    | [] => [[item]]

def readName? : List PatternItem → Option (List Char × Bool)
  | [] => some ([], false)
  | [.boundary] => some ([], true)
  | .char c :: items => (readName? items).map fun p => (c :: p.1, p.2)
  | _ => none

def NamePattern.ofItems? (items : List PatternItem) : Option NamePattern :=
  match items with
  | .boundary :: items => (readName? items).map fun p => ⟨p.1, true, p.2⟩
  | items => (readName? items).map fun p => ⟨p.1, false, p.2⟩

def readPatterns? (text : String) : Option (List NamePattern) :=
  (patternItems? text.toList).bind fun items => (alternatives items).mapM NamePattern.ofItems?

end Spreadsheet.Formula
