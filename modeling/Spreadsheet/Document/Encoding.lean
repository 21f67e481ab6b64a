import Spreadsheet.Document.Node

namespace Spreadsheet.Document.Node

def ofFields (fields : List (String × Node)) : Node :=
  record (fields.map fun f => (text f.1, f.2))

def ofNat (n : Nat) : Node :=
  integer n

def ofOption {α : Type} (write : α → Node) : Option α → Node
  | some a => write a
  | none => null

def ofList {α : Type} (write : α → Node) (as : List α) : Node :=
  list (as.map write)

end Spreadsheet.Document.Node

namespace Spreadsheet.Document

def presentField {α : Type} (name : String) (write : α → Node) (a : Option α) :
    List (String × Node) :=
  match a with
  | some a => [(name, write a)]
  | none => []

end Spreadsheet.Document
