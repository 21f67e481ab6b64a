import Spreadsheet.Document.Decoding
import Spreadsheet.Document.Yaml
import Spreadsheet.Formula.Evaluator

namespace Spreadsheet

open Spreadsheet.Document

structure FormulaConfig where
  mode : Formula.Mode
  marker : String
deriving DecidableEq, Inhabited

structure DecodeConfig where
  maxRows : Nat
  maxColumns : Nat
  defaultRows : Nat
  defaultColumns : Nat
  defaultColumnWidth : Float
  defaultRowHeight : Float
  dateFormat : String
  gridlineColor : String
deriving DecidableEq, Inhabited

structure Config where
  formula : FormulaConfig
  columnWidth : Float
  decode : DecodeConfig
deriving DecidableEq, Inhabited

namespace Config

def defaultFormula : FormulaConfig := ⟨.compatibility, "#ERROR"⟩

def defaultColumnWidth : Float := 150

def defaultDecode : DecodeConfig where
  maxRows := 500
  maxColumns := 50
  defaultRows := 100
  defaultColumns := 26
  defaultColumnWidth := 64
  defaultRowHeight := 20
  dateFormat := "%Y/%m/%d"
  gridlineColor := "#D4D4D4"

def default : Config := ⟨defaultFormula, defaultColumnWidth, defaultDecode⟩

def readMode? (n : Node) : Option Formula.Mode :=
  match n.string? with
  | some "compatibility" => some .compatibility
  | some "structured" => some .structured
  | _ => none

def readFormula? (n : Node) : Option FormulaConfig := do
  let fields ← n.fields? ["mode", "error_marker"]
  return {
    mode := ← fields.getD "mode" readMode? defaultFormula.mode
    marker := ← fields.getD "error_marker" Node.string? defaultFormula.marker }

def readColumnWidth? (n : Node) : Option Float := do
  let fields ← n.fields? ["default_column_width"]
  fields.getD "default_column_width" Node.float? defaultColumnWidth

def readDecode? (n : Node) : Option DecodeConfig := do
  let fields ← n.fields? ["max_rows", "max_cols", "default_rows", "default_cols",
    "default_column_width", "default_row_height", "date_format", "gridline_color"]
  let base := defaultDecode
  return {
    maxRows := ← fields.getD "max_rows" Node.natural? base.maxRows
    maxColumns := ← fields.getD "max_cols" Node.natural? base.maxColumns
    defaultRows := ← fields.getD "default_rows" Node.natural? base.defaultRows
    defaultColumns := ← fields.getD "default_cols" Node.natural? base.defaultColumns
    defaultColumnWidth := ← fields.getD "default_column_width" Node.float? base.defaultColumnWidth
    defaultRowHeight := ← fields.getD "default_row_height" Node.float? base.defaultRowHeight
    dateFormat := ← fields.getD "date_format" Node.string? base.dateFormat
    gridlineColor := ← fields.getD "gridline_color" Node.string? base.gridlineColor }

def ofNode? (n : Node) : Option Config := do
  let fields ← n.fields? ["formula", "table", "decode"]
  return {
    formula := ← fields.getD "formula" readFormula? defaultFormula
    columnWidth := ← fields.getD "table" readColumnWidth? defaultColumnWidth
    decode := ← fields.getD "decode" readDecode? defaultDecode }

inductive Problem where
  | noRowsOrColumns
  | noDefaultRowsOrColumns
  | emptyMarker
deriving DecidableEq, Repr

def Problem.message : Problem → String
  | noRowsOrColumns => "decode.max_rows and decode.max_cols must be at least 1"
  | noDefaultRowsOrColumns => "decode.default_rows and decode.default_cols must be at least 1"
  | emptyMarker => "formula.error_marker must not be empty"

def problem? (c : Config) : Option Problem :=
  if c.decode.maxRows = 0 ∨ c.decode.maxColumns = 0 then some .noRowsOrColumns
  else if c.decode.defaultRows = 0 ∨ c.decode.defaultColumns = 0 then some .noDefaultRowsOrColumns
  else if c.formula.marker = "" then some .emptyMarker
  else none

end Config

end Spreadsheet
