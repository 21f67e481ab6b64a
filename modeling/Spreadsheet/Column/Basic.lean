namespace Spreadsheet

inductive ColumnKind where
  | text
  | number
  | date
  | time
  | datetime
  | select
  | multiSelect
  | checkbox
  | url
  | email
  | phone
  | file
  | formula
  | richText
  | currency
deriving DecidableEq, Repr, Inhabited

namespace ColumnKind

def name : ColumnKind → String
  | text => "text"
  | number => "number"
  | date => "date"
  | time => "time"
  | datetime => "datetime"
  | select => "select"
  | multiSelect => "multi_select"
  | checkbox => "checkbox"
  | url => "url"
  | email => "email"
  | phone => "phone"
  | file => "file"
  | formula => "formula"
  | richText => "rich_text"
  | currency => "currency"

def all : List ColumnKind :=
  [text, number, date, time, datetime, select, multiSelect, checkbox, url, email, phone, file,
    formula, richText, currency]

def ofName? (s : String) : Option ColumnKind :=
  all.find? (·.name == s)

def isNumeric (kind : ColumnKind) : Bool :=
  kind == number || kind == currency

end ColumnKind

/-- What the values of a column must satisfy; a pattern is a regular expression. -/
structure Rules where
  required : Bool
  min : Option Float
  max : Option Float
  pattern : Option String
deriving DecidableEq, Inhabited

def Rules.free : Rules := ⟨false, none, none, none⟩

structure ColumnStyle where
  backgroundColor : Option String
  textColor : Option String
  textAlign : Option String
  fontWeight : Option String
  fontStyle : Option String
  textDecoration : Option String
deriving DecidableEq, Inhabited

def ColumnStyle.none : ColumnStyle := ⟨.none, .none, .none, .none, .none, .none⟩

structure Column where
  name : String
  kind : ColumnKind
  options : List String
  formula : Option String
  width : Option Float
  rules : Rules
  style : ColumnStyle
deriving DecidableEq, Inhabited

inductive ColumnProblem where
  | missingFormula (name : String)
  | needlessFormula (name : String) (kind : ColumnKind)
deriving DecidableEq, Repr

def ColumnProblem.message : ColumnProblem → String
  | missingFormula name => "Column '" ++ name ++ "' is a formula column without a formula"
  | needlessFormula name kind =>
    "Column '" ++ name ++ "' has a formula but type '" ++ kind.name ++ "'"

namespace Column

def ofKind (name : String) (kind : ColumnKind) : Column where
  name := name
  kind := kind
  options := []
  formula := if kind = .formula then some "" else none
  width := none
  rules := .free
  style := .none

def ofFormula (name formula : String) : Column :=
  { ofKind name .formula with formula := some formula }

def isFormula (c : Column) : Bool :=
  c.kind == .formula

def problem? (c : Column) : Option ColumnProblem :=
  match c.isFormula, c.formula with
  | true, none => some (.missingFormula c.name)
  | false, some _ => some (.needlessFormula c.name c.kind)
  | true, some _ | false, none => none

end Column

end Spreadsheet
