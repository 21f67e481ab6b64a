import Spreadsheet.Text.Blank
import Spreadsheet.Text.Numeric
import Spreadsheet.Text.Word

namespace Spreadsheet

open Spreadsheet.Text

inductive CharSet where
  | range (low high : Char)
  | digit
  | blank
  | word
  | without (s : CharSet)
  | either (s t : CharSet)
  | both (s t : CharSet)
deriving DecidableEq, Repr

def CharSet.contains (c : Char) : CharSet → Bool
  | range low high => low ≤ c && c ≤ high
  | digit => isDecimalDigit c
  | blank => isBlank c
  | word => isWord c
  | without s => !s.contains c
  | either s t => s.contains c || t.contains c
  | both s t => s.contains c && t.contains c

inductive Assertion where
  | textStart
  | textEnd
  | boundary
  | noBoundary
deriving DecidableEq, Repr

def Assertion.holds (before after : Option Char) : Assertion → Bool
  | textStart => before.isNone
  | textEnd => after.isNone
  | boundary => isBoundary before after
  | noBoundary => !isBoundary before after

inductive Regex where
  | empty
  | one (s : CharSet)
  | assert (a : Assertion)
  | sequence (p q : Regex)
  | either (p q : Regex)
  | many (p : Regex)
deriving DecidableEq, Repr

namespace Regex

def follow (p q : Regex) : Regex :=
  if p = empty then q else sequence p q

def atMost (p : Regex) : Nat → Regex
  | 0 => empty
  | n + 1 => either empty (follow p (atMost p n))

def times (p : Regex) (q : Regex) : Nat → Regex
  | 0 => q
  | n + 1 => follow p (times p q n)

end Regex

end Spreadsheet
