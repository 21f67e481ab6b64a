import Spreadsheet.Column.Basic
import Spreadsheet.Document.Decoding
import Spreadsheet.Row

namespace Spreadsheet

open Spreadsheet.Document

def Cell.ofSettled? : Node → Option Cell
  | .null => some .blank
  | .flag b => some (.flag b)
  | .text s => some (.text s)
  | .list items => (items.mapM Node.string?).map .list
  | n => n.float?.map .number

def Cell.ofNode? (n : Node) : Option Cell :=
  Cell.ofSettled? n.settle

def ColumnKind.ofNode? (n : Node) : Option ColumnKind :=
  n.string?.bind ColumnKind.ofName?

def Rules.ofNode? (n : Node) : Option Rules := do
  let fields ← n.fields? ["required", "min", "max", "pattern"]
  return {
    required := ← fields.getD "required" Node.flag? false
    min := ← fields.optional? "min" Node.float?
    max := ← fields.optional? "max" Node.float?
    pattern := ← fields.optional? "pattern" Node.string? }

def ColumnStyle.ofNode? (n : Node) : Option ColumnStyle := do
  let fields ← n.fields? ["backgroundColor", "textColor", "textAlign", "fontWeight", "fontStyle",
    "textDecoration"]
  return {
    backgroundColor := ← fields.optional? "backgroundColor" Node.string?
    textColor := ← fields.optional? "textColor" Node.string?
    textAlign := ← fields.optional? "textAlign" Node.string?
    fontWeight := ← fields.optional? "fontWeight" Node.string?
    fontStyle := ← fields.optional? "fontStyle" Node.string?
    textDecoration := ← fields.optional? "textDecoration" Node.string? }

def Column.ofNode? (n : Node) : Option Column := do
  let fields ← n.fields? ["name", "type", "options", "formula", "width", "validation", "style"]
  return {
    name := ← fields.get? "name" Node.string?
    kind := ← fields.getD "type" ColumnKind.ofNode? .text
    options := ← fields.getD "options" (Node.list? Node.string?) []
    formula := ← fields.optional? "formula" Node.string?
    width := ← fields.optional? "width" Node.float?
    rules := ← fields.getD "validation" Rules.ofNode? .free
    style := ← fields.getD "style" ColumnStyle.ofNode? .none }

/-- A row whose cells are read by `cell?`; of two cells under one name the later one counts. -/
def Row.ofNode? (cell? : Node → Option Cell) (n : Node) : Option Row := do
  let fields ← n.fields? ["id", "data"]
  return {
    id := ← fields.get? "id" Node.string?
    cells := .ofList (← fields.getD "data" (Node.map? Node.string? cell?) []) }

end Spreadsheet
