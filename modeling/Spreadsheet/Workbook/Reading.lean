import Spreadsheet.Calendar.Reading
import Spreadsheet.Document.Decoding
import Spreadsheet.Document.Json
import Spreadsheet.Document.Yaml
import Spreadsheet.Error
import Spreadsheet.Workbook.Source

namespace Spreadsheet.Workbook

open Spreadsheet.Document

def Scalar.ofTagged? : String → Option Node → Option Scalar
  | "empty", none => some .empty
  | "empty", some n => if n.isNull then some .empty else none
  | "number", some n => n.float?.map .number
  | "text", some n => n.string?.map .text
  | "bool", some n => n.flag?.map .flag
  | "date", some n => n.float?.map .date
  | "date_time", some n => (n.string?.bind fun s => Calendar.readInstant? s.toList).map .instant
  | "error", some n => n.string?.map .error
  | _, _ => none

/-- A scalar is a record of type and value, or a list of both. -/
def Scalar.ofNode? : Node → Option Scalar
  | .list [tag, value] => tag.string?.bind fun name => ofTagged? name (some value)
  | .list _ => none
  | n => do
    let fields ← n.fields? ["type", "value"]
    ofTagged? (← fields.get? "type" Node.string?) (fields.lookup "value")

def ColorSpec.ofNode? (n : Node) : Option ColorSpec := do
  let fields ← n.fields? ["argb", "rgb", "theme", "tint"]
  return {
    argb := ← fields.optional? "argb" Node.string?
    rgb := ← fields.optional? "rgb" Node.string?
    theme := ← fields.optional? "theme" Node.integer?
    tint := ← fields.optional? "tint" Node.float? }

def SourceFont.ofNode? (n : Node) : Option SourceFont := do
  let fields ← n.fields? ["name", "size", "bold", "italic", "underline", "strike", "color"]
  return {
    name := ← fields.optional? "name" Node.string?
    size := ← fields.optional? "size" Node.float?
    bold := ← fields.optional? "bold" Node.flag?
    italic := ← fields.optional? "italic" Node.flag?
    underline := ← fields.optional? "underline" Node.flag?
    strike := ← fields.optional? "strike" Node.flag?
    color := ← fields.optional? "color" ColorSpec.ofNode? }

def SourceFill.ofNode? (n : Node) : Option SourceFill := do
  let fields ← n.fields? ["pattern", "fgColor", "bgColor"]
  return {
    pattern := ← fields.optional? "pattern" Node.string?
    foreground := ← fields.optional? "fgColor" ColorSpec.ofNode?
    background := ← fields.optional? "bgColor" ColorSpec.ofNode? }

def SourceSide.ofNode? (n : Node) : Option SourceSide := do
  let fields ← n.fields? ["style", "color"]
  return {
    style := ← fields.optional? "style" Node.string?
    color := ← fields.optional? "color" ColorSpec.ofNode? }

def SourceBorder.ofNode? (n : Node) : Option SourceBorder := do
  let fields ← n.fields? ["top", "right", "bottom", "left"]
  return {
    top := ← fields.optional? "top" SourceSide.ofNode?
    right := ← fields.optional? "right" SourceSide.ofNode?
    bottom := ← fields.optional? "bottom" SourceSide.ofNode?
    left := ← fields.optional? "left" SourceSide.ofNode? }

def SourceAlignment.ofNode? (n : Node) : Option SourceAlignment := do
  let fields ← n.fields? ["horizontal", "vertical", "wrapText", "indent"]
  return {
    horizontal := ← fields.optional? "horizontal" Node.string?
    vertical := ← fields.optional? "vertical" Node.string?
    wrap := ← fields.optional? "wrapText" Node.flag?
    indent := ← fields.optional? "indent" Node.float? }

def SourceStyle.ofNode? (n : Node) : Option SourceStyle := do
  let fields ← n.fields? ["font", "fill", "border", "alignment"]
  return {
    font := ← fields.optional? "font" SourceFont.ofNode?
    fill := ← fields.optional? "fill" SourceFill.ofNode?
    border := ← fields.optional? "border" SourceBorder.ofNode?
    alignment := ← fields.optional? "alignment" SourceAlignment.ofNode? }

def SourceCell.ofNode? (n : Node) : Option SourceCell := do
  let fields ← n.fields? ["value", "formula", "result", "rich_text", "number_format", "text",
    "style"]
  return {
    value := ← fields.getD "value" Scalar.ofNode? .empty
    formula := ← fields.optional? "formula" Node.string?
    result := ← fields.optional? "result" Scalar.ofNode?
    richText := ← fields.optional? "rich_text" (Node.list? Node.string?)
    numberFormat := ← fields.optional? "number_format" Node.string?
    text := ← fields.optional? "text" Node.string?
    style := ← fields.optional? "style" SourceStyle.ofNode? }

/-- A cell beside its place in one record. Only the numbers of the place are read as what is wanted;
all else must be of its type by itself. -/
def PlacedCell.ofNode? (n : Node) : Option PlacedCell := do
  let entries ← n.entries?
  let place ← n.fields? ["row", "col"]
  return {
    position := (← place.get? "row" Node.natural?, ← place.get? "col" Node.natural?)
    cell := ← SourceCell.ofNode? (Node.record entries).settle }

def Dimensions.ofNode? (n : Node) : Option Dimensions := do
  let fields ← n.fields? ["actual_row_count", "actual_column_count", "row_count", "column_count",
    "last_used_row", "last_used_col"]
  return {
    actualRows := ← fields.optional? "actual_row_count" Node.natural?
    actualColumns := ← fields.optional? "actual_column_count" Node.natural?
    rows := ← fields.optional? "row_count" Node.natural?
    columns := ← fields.optional? "column_count" Node.natural?
    lastUsedRow := ← fields.optional? "last_used_row" Node.natural?
    lastUsedColumn := ← fields.optional? "last_used_col" Node.natural? }

def SheetDocument.ofNode? (n : Node) : Option SheetDocument := do
  let fields ← n.fields? ["name", "cells", "dimensions", "merge_ranges", "column_widths",
    "row_heights"]
  let sizes := Node.map? Node.natural? Node.float?
  return {
    name := ← fields.getD "name" Node.string? ""
    cells := ← fields.getD "cells" (Node.list? PlacedCell.ofNode?) []
    dimensions := ← fields.getD "dimensions" Dimensions.ofNode? .unknown
    merges := ← fields.getD "merge_ranges" (Node.list? Node.string?) []
    columnWidths := .ofList (← fields.getD "column_widths" sizes [])
    rowHeights := .ofList (← fields.getD "row_heights" sizes []) }

namespace SourceWorkbook

def ofNode? (n : Node) : Option SourceWorkbook := do
  let fields ← n.fields? ["sheets"]
  fields.getD "sheets" (Node.list? fun n => (SheetDocument.ofNode? n).map (·.toSheet)) []

def readJson (text : String) : Except Failure SourceWorkbook :=
  match (Json.read? text).bind ofNode? with
  | some workbook => .ok workbook
  | none => .error (.json "malformed workbook")

def readYaml (text : String) : Except Failure SourceWorkbook :=
  match (Yaml.read? text).bind ofNode? with
  | some workbook => .ok workbook
  | none => .error (.yaml "malformed workbook")

end SourceWorkbook

end Spreadsheet.Workbook
