import Spreadsheet.Cell
import Spreadsheet.Dictionary

namespace Spreadsheet

structure Row where
  id : String
  cells : Dictionary String Cell
deriving DecidableEq, Inhabited

namespace Row

def fresh (id : String) : Row := ⟨id, .empty⟩

def get (row : Row) (name : String) : Cell :=
  (row.cells.get? name).getD .blank

def set (row : Row) (name : String) (v : Cell) : Row :=
  { row with cells := row.cells.insert name v }

def erase (row : Row) (name : String) : Row :=
  { row with cells := row.cells.erase name }

def rename (row : Row) (old new : String) : Row :=
  { row with cells := row.cells.rename old new }

end Row

end Spreadsheet
