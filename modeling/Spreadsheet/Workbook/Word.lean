import Spreadsheet.Power

namespace Spreadsheet.Workbook

def wordSize : Nat := twoTo 64

inductive Fault where
  | overflow
  | underflow
deriving DecidableEq, Repr

def Fault.message : Fault → String
  | overflow => "attempt to add with overflow"
  | underflow => "attempt to subtract with overflow"

/-- Arithmetic of words, which stops where a result is none of them. -/
abbrev Checked := Except Fault

namespace Checked

def add (a b : Nat) : Checked Nat :=
  if a + b < wordSize then .ok (a + b) else .error .overflow

def sub (a b : Nat) : Checked Nat :=
  if b ≤ a then .ok (a - b) else .error .underflow

theorem eq_of_sub_eq_ok {a b c : Nat} (h : sub a b = .ok c) : c = a - b := by
  unfold sub at h
  split at h
  · exact (Except.ok.inj h).symm
  · cases h

end Checked

end Spreadsheet.Workbook
