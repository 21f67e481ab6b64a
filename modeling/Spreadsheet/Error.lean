namespace Spreadsheet

inductive Failure where
  | io (detail : String)
  | yaml (detail : String)
  | json (detail : String)
  | parse (detail : String)
  | importing (detail : String)
  | validation (detail : String)
  | config (detail : String)
deriving DecidableEq, Repr

def Failure.message : Failure → String
  | io detail => "IO error: " ++ detail
  | yaml detail => "YAML parsing error: " ++ detail
  | json detail => "JSON error: " ++ detail
  | parse detail => "Parse error: " ++ detail
  | importing detail => "Import error: " ++ detail
  | validation detail => "Validation error: " ++ detail
  | config detail => "Configuration error: " ++ detail

end Spreadsheet
