import Spreadsheet.Cell
import Spreadsheet.Column.Basic
import Spreadsheet.Power
import Spreadsheet.Text.Case

namespace Spreadsheet

open Spreadsheet.Text

def groupThousands : List Char → List Char
  | [] => []
  | c :: cs =>
    if cs ≠ [] ∧ cs.length % 3 = 0 then c :: ',' :: groupThousands cs else c :: groupThousands cs

def amountText (negative : Bool) (hundredths : Nat) : List Char :=
  (if negative then ['-'] else []) ++ groupThousands (natural (hundredths / 100)) ++
    '.' :: padLeft 2 '0' (natural (hundredths % 100))

/-- A number as an amount, rounded to hundredths and held below the bound of 64-bit words. An amount
that rounds to zero has no sign. -/
def currencyText (x : Float) : String :=
  let hundredths := (Decimal.roundWithin 0 (twoTo 64 - 1) (x.abs * 100)).toNat
  String.ofList (amountText (x < 0 && 0 < hundredths) hundredths)

/-- The text outside of the tags between angle brackets; `inside` says where the text begins. -/
def withoutTags (inside : Bool) : List Char → List Char
  | [] => []
  | c :: cs =>
    if c = '<' then withoutTags true cs
    else if inside then withoutTags (c != '>') cs
    else c :: withoutTags false cs

def stripMarkup (s : String) : String :=
  String.ofList (withoutTags false s.toList)

def Cell.isChecked : Cell → Bool
  | flag b => b
  | number x => x != 0
  | text s => ["true", "1", "yes"].contains (String.ofList (lower s.toList))
  | blank | list _ => false

namespace ColumnKind

def render (kind : ColumnKind) (v : Cell) : String :=
  match kind with
  | checkbox => if v.isChecked then "✓" else ""
  | currency =>
    match v.number? with
    | some x => currencyText x
    | none => v.toText
  | multiSelect | file =>
    match v with
    | .list items => joinItems ", " items
    | _ => v.toText
  | richText => stripMarkup v.toText
  | text | number | date | time | datetime | select | url | email | phone | formula => v.toText

def sortKey (kind : ColumnKind) (v : Cell) : String :=
  match kind with
  | richText => stripMarkup v.toText
  | _ => v.toText

end ColumnKind

end Spreadsheet
