import Spreadsheet.Regex.Basic

namespace Spreadsheet.Regex

def nullable (before after : Option Char) : Regex → Bool
  | empty => true
  | one _ => false
  | assert a => a.holds before after
  | sequence p q => p.nullable before after && q.nullable before after
  | either p q => p.nullable before after || q.nullable before after
  | many _ => true

/-- What remains to be matched after the character `c`, which stands after `before`. -/
def derivatives (before : Option Char) (c : Char) : Regex → List Regex
  | empty => []
  | one s => if s.contains c then [empty] else []
  | assert _ => []
  | sequence p q =>
    (p.derivatives before c).map (follow · q) ++
      if p.nullable before (some c) then q.derivatives before c else []
  | either p q => p.derivatives before c ++ q.derivatives before c
  | many p => (p.derivatives before c).map (follow · (many p))

/-- One of the expressions that remain, or the whole expression `p` begun here, matches a part of
the text that follows. -/
def search (p : Regex) (before : Option Char) (remaining : List Regex) : List Char → Bool
  | [] => (p :: remaining).any (nullable before none)
  | c :: cs =>
    (p :: remaining).any (nullable before (some c)) ||
      search p (some c) ((p :: remaining).flatMap (derivatives before c)).eraseDups cs

def occursIn (p : Regex) (cs : List Char) : Bool :=
  p.search none [] cs

end Spreadsheet.Regex
