import Spreadsheet.Text.Digits

namespace Spreadsheet.Document

/-- In a notation without quotes a scalar may be plain: what it means then depends on what is
wanted. Names of fields are nodes as well, so that they can serve as numbers. -/
inductive Node where
  | null
  | flag (b : Bool)
  | integer (n : Int)
  | number (x : Float)
  | text (s : String)
  | plain (source : String)
  | list (items : List Node)
  | record (fields : List (Node × Node))
deriving Repr, Inhabited

end Spreadsheet.Document
