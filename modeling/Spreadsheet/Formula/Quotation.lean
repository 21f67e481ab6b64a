import Spreadsheet.Text.Blank
import Spreadsheet.Text.Search

namespace Spreadsheet.Formula

open Spreadsheet.Text

def isQuote (c : Char) : Bool :=
  c == '"' || c == '\x27'

def nextQuote (quote : Option Char) (c : Char) : Option Char :=
  match quote with
  | some q => if c = q then none else some q
  | none => if isQuote c then some c else none

def closed? (depth : Nat) (quote : Option Char) : List Char → Option (List Char)
  | [] => none
  | c :: cs =>
    let next := nextQuote quote c
    if quote = none ∧ c = '(' then (closed? (depth + 1) next cs).map (c :: ·)
    else if quote = none ∧ c = ')' then
      match depth with
      | 0 => some []
      | depth + 1 => (closed? depth next cs).map (c :: ·)
    else (closed? depth next cs).map (c :: ·)

/-- The text between the first occurrence of a name with its opening parenthesis and the parenthesis
that closes it. -/
def callArguments? (name : List Char) (cs : List Char) : Option (List Char) :=
  (splitOnce (name ++ ['(']) cs).bind fun parts => closed? 0 none parts.2

def segments (depth : Int) (quote : Option Char) : List Char → List (List Char)
  | [] => [[]]
  | c :: cs =>
    if quote = none ∧ c = ',' ∧ depth = 0 then [] :: segments depth none cs
    else
      let change : Int := if quote = none ∧ c = '(' then 1 else if quote = none ∧ c = ')' then -1 else 0
      match segments (depth + change) (nextQuote quote c) cs with
      | [] => [[c]]
      | piece :: pieces => (c :: piece) :: pieces

def splitArguments (cs : List Char) : List (List Char) :=
  (segments 0 none cs).map trim

def between? (q : Char) : List Char → Option (List Char)
  | c :: d :: cs =>
    if c = q ∧ (d :: cs).getLast? = some q then some ((d :: cs).dropLast) else none
  | _ => none

def stripQuotes (cs : List Char) : List Char :=
  let cs := trim cs
  ((between? '"' cs).orElse fun _ => between? '\x27' cs).getD cs

def stripBrackets (cs : List Char) : List Char :=
  let cs := trim cs
  match cs with
  | '[' :: rest => if rest.getLast? = some ']' then trim rest.dropLast else cs
  | _ => cs

/-- The text between quotes, if the whole of `cs` is one quoted text without quotes inside. -/
def literal? (cs : List Char) : Option (List Char) :=
  let cs := trim cs
  ((between? '"' cs).orElse fun _ => between? '\x27' cs).filter fun s => !s.any isQuote

end Spreadsheet.Formula
