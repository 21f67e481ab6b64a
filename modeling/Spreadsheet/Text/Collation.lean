import Spreadsheet.Text.Case
import Spreadsheet.Text.Order

namespace Spreadsheet.Text

def caseOrdering (isLower : Char → Bool) (c d : Char) : Ordering :=
  match isLower c, isLower d with
  | true, false => .lt
  | false, true => .gt
  | _, _ => if c.toNat < d.toNat then .lt else .gt

def tieOrdering (isLower : Char → Bool) : List Char → List Char → Ordering
  | [], [] => .eq
  | [], _ :: _ => .lt
  | _ :: _, [] => .gt
  | c :: cs, d :: ds => if c = d then tieOrdering isLower cs ds else caseOrdering isLower c d

/-- The order by the folded characters, of which each character may give several, then by case. -/
def collateWith (fold : Char → List Char) (isLower : Char → Bool) (cs ds : List Char) : Ordering :=
  (lexOrdering (cs.flatMap fold) (ds.flatMap fold)).then (tieOrdering isLower cs ds)

def collate (s t : String) : Ordering :=
  collateWith lowerChar isLowercase s.toList t.toList

end Spreadsheet.Text
