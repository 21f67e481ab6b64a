import Spreadsheet.Text.Blank
import Spreadsheet.Text.Digits
import Spreadsheet.Text.Search
import Spreadsheet.Workbook.Word

namespace Spreadsheet.Workbook

open Spreadsheet.Text

/-- The letters of the column with a number counted from one, in front of the letters read so far.
Letters are the digits from 1 to 26. -/
def lettersOf (n : Nat) (done : List Char) : List Char :=
  if n = 0 then done
  else lettersOf ((n - 1) / 26) (Char.ofNat (65 + (n - 1) % 26) :: done)
termination_by n
decreasing_by omega

def columnLetters (index : Nat) : String :=
  String.ofList (lettersOf (index + 1) [])

def Checked.lettersOf (n : Nat) (done : List Char) : Checked (List Char) :=
  if n = 0 then return done
  else
    match h : sub n 1 with
    | .error fault => .error fault
    | .ok place => lettersOf (place / 26) (Char.ofNat (65 + place % 26) :: done)
termination_by n
decreasing_by
  have := eq_of_sub_eq_ok h
  omega

def Checked.columnLetters (index : Nat) : Checked String := do
  return String.ofList (← lettersOf (← add index 1) [])

def letterValue? (c : Char) : Option Nat :=
  if c.isUpper then some (c.toNat - 64) else if c.isLower then some (c.toNat - 96) else none

def columnNumber? (n : Nat) : List Char → Option Nat
  | [] => some n
  | c :: cs =>
    (letterValue? c).bind fun d =>
      if 26 * n + d < wordSize then columnNumber? (26 * n + d) cs else none

def columnIndex? (letters : List Char) : Option Nat :=
  if letters = [] then none else (columnNumber? 0 letters).map (· - 1)

abbrev Position := Nat × Nat

/-- The place that an address names. Dollar signs and blanks around it are ignored. -/
def readAddress? (cs : List Char) : Option Position :=
  let cs := (trim cs).filter (· != '$')
  let letters := cs.takeWhile fun c => !c.isDigit
  match cs.dropWhile fun c => !c.isDigit with
  | [] => none
  | digits => do
    let column ← columnIndex? letters
    let row ← word? digits
    if row = 0 then none else some (row - 1, column)

def addressText (position : Position) : String :=
  columnLetters position.2 ++ String.ofList (natural (position.1 + 1))

end Spreadsheet.Workbook
