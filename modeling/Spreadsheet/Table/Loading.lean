import Spreadsheet.Document.Yaml
import Spreadsheet.Error
import Spreadsheet.Table.Basic
import Spreadsheet.Table.Decoding

namespace Spreadsheet

open Spreadsheet.Document

def Config.read (text : String) : Except Failure Config :=
  match (Yaml.read? text).bind Config.ofNode? with
  | none => .error (.yaml "malformed settings")
  | some config =>
    match config.problem? with
    | some problem => .error (.config problem.message)
    | none => .ok config

def TableDocument.ofNode? (n : Node) : Option TableDocument := do
  let fields ← n.fields? ["columns", "rows"]
  return {
    columns := ← fields.getD "columns" (Node.list? Column.ofNode?) []
    rows := ← fields.getD "rows" (Node.list? (Row.ofNode? Cell.ofNode?)) [] }

def TableDocument.toTable (config : Config) (today : String) (d : TableDocument) :
    Except Failure Table :=
  match Table.load config today d with
  | .ok t => .ok t
  | .error e => .error (.validation e.message)

def Table.read (config : Config) (today text : String) : Except Failure Table :=
  match (Yaml.read? text).bind TableDocument.ofNode? with
  | none => .error (.yaml "malformed table")
  | some d => d.toTable config today

end Spreadsheet
