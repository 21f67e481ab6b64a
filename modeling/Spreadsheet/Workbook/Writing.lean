import Spreadsheet.Document.Encoding
import Spreadsheet.Workbook.Worksheet

namespace Spreadsheet

open Spreadsheet.Document

def Cell.toNode : Cell → Node
  | blank => .null
  | flag b => .flag b
  | number x => .number x
  | text s => .text s
  | list items => .ofList .text items

namespace Workbook

def Scalar.toNode : Scalar → Node
  | empty => .ofFields [("type", .text "empty")]
  | number x => .ofFields [("type", .text "number"), ("value", .number x)]
  | text s => .ofFields [("type", .text "text"), ("value", .text s)]
  | flag b => .ofFields [("type", .text "bool"), ("value", .flag b)]
  | date serial => .ofFields [("type", .text "date"), ("value", .number serial)]
  | instant t =>
    .ofFields [("type", .text "date_time"), ("value", .text (String.ofList (t.standardText "Z")))]
  | error code => .ofFields [("type", .text "error"), ("value", .text code)]

def ColorSpec.toNode (c : ColorSpec) : Node :=
  .ofFields [("argb", .ofOption .text c.argb), ("rgb", .ofOption .text c.rgb),
    ("theme", .ofOption .integer c.theme), ("tint", .ofOption .number c.tint)]

def SourceFont.toNode (f : SourceFont) : Node :=
  .ofFields [("name", .ofOption .text f.name), ("size", .ofOption .number f.size),
    ("bold", .ofOption .flag f.bold), ("italic", .ofOption .flag f.italic),
    ("underline", .ofOption .flag f.underline), ("strike", .ofOption .flag f.strike),
    ("color", .ofOption ColorSpec.toNode f.color)]

def SourceFill.toNode (f : SourceFill) : Node :=
  .ofFields [("pattern", .ofOption .text f.pattern),
    ("fgColor", .ofOption ColorSpec.toNode f.foreground),
    ("bgColor", .ofOption ColorSpec.toNode f.background)]

def SourceSide.toNode (s : SourceSide) : Node :=
  .ofFields [("style", .ofOption .text s.style), ("color", .ofOption ColorSpec.toNode s.color)]

def SourceBorder.toNode (b : SourceBorder) : Node :=
  .ofFields [("top", .ofOption SourceSide.toNode b.top),
    ("right", .ofOption SourceSide.toNode b.right),
    ("bottom", .ofOption SourceSide.toNode b.bottom),
    ("left", .ofOption SourceSide.toNode b.left)]

def SourceAlignment.toNode (a : SourceAlignment) : Node :=
  .ofFields [("horizontal", .ofOption .text a.horizontal),
    ("vertical", .ofOption .text a.vertical), ("wrapText", .ofOption .flag a.wrap),
    ("indent", .ofOption .number a.indent)]

def SourceStyle.toNode (s : SourceStyle) : Node :=
  .ofFields [("font", .ofOption SourceFont.toNode s.font),
    ("fill", .ofOption SourceFill.toNode s.fill),
    ("border", .ofOption SourceBorder.toNode s.border),
    ("alignment", .ofOption SourceAlignment.toNode s.alignment)]

def PlacedCell.toNode (c : PlacedCell) : Node :=
  .ofFields [("row", .ofNat c.position.1), ("col", .ofNat c.position.2),
    ("value", c.cell.value.toNode), ("formula", .ofOption .text c.cell.formula),
    ("result", .ofOption Scalar.toNode c.cell.result),
    ("rich_text", .ofOption (.ofList .text) c.cell.richText),
    ("number_format", .ofOption .text c.cell.numberFormat), ("text", .ofOption .text c.cell.text),
    ("style", .ofOption SourceStyle.toNode c.cell.style)]

def Dimensions.toNode (d : Dimensions) : Node :=
  .ofFields [("actual_row_count", .ofOption .ofNat d.actualRows),
    ("actual_column_count", .ofOption .ofNat d.actualColumns),
    ("row_count", .ofOption .ofNat d.rows), ("column_count", .ofOption .ofNat d.columns),
    ("last_used_row", .ofOption .ofNat d.lastUsedRow),
    ("last_used_col", .ofOption .ofNat d.lastUsedColumn)]

def sizesNode (sizes : Dictionary Nat Float) : Node :=
  .record (sizes.entries.map fun e => (.ofNat e.1, .number e.2))

def SheetDocument.toNode (d : SheetDocument) : Node :=
  .ofFields [("name", .text d.name), ("cells", .ofList PlacedCell.toNode d.cells),
    ("dimensions", d.dimensions.toNode), ("merge_ranges", .ofList .text d.merges),
    ("column_widths", sizesNode d.columnWidths), ("row_heights", sizesNode d.rowHeights)]

def FontStyle.toNode (f : FontStyle) : Node :=
  .ofFields [("family", .ofOption .text f.family), ("size_pt", .ofOption .number f.size),
    ("bold", .flag f.bold), ("italic", .flag f.italic), ("underline", .flag f.underline),
    ("strikethrough", .flag f.strikethrough), ("color", .text f.color)]

def BorderEdge.toNode (e : BorderEdge) : Node :=
  .ofFields [("width_px", .number e.width), ("dash", .text e.dash.name), ("color", .text e.color),
    ("source", .text e.source.name)]

def CellBorder.toNode (b : CellBorder) : Node :=
  .ofFields [("top", b.top.toNode), ("right", b.right.toNode), ("bottom", b.bottom.toNode),
    ("left", b.left.toNode)]

def Alignment.toNode (a : Alignment) : Node :=
  .ofFields [("horizontal", .ofOption (fun h => .text h.name) a.horizontal),
    ("vertical", .ofOption (fun v => .text v.name) a.vertical), ("wrap", .flag a.wrap),
    ("indent", .ofOption .number a.indent)]

def CellStyle.toNode (s : CellStyle) : Node :=
  .ofFields (presentField "font" FontStyle.toNode s.font ++ presentField "fill" .text s.fill ++
    presentField "border" CellBorder.toNode s.border ++
    presentField "alignment" Alignment.toNode s.alignment ++
    presentField "number_format" .text s.numberFormat)

def DecodedCell.fields (c : DecodedCell) : List (String × Node) :=
  [("value", c.value.toNode), ("display_text", .text c.displayText)] ++
    presentField "formula" .text c.formula ++ [("type", .text c.type.name)] ++
    (if c.style.isPlain then [] else [("style", c.style.toNode)]) ++
    [("hidden", .flag c.hidden), ("row_span", .ofNat c.rowSpan), ("col_span", .ofNat c.columnSpan)]

def MergeRange.toNode (m : MergeRange) : Node :=
  .ofFields [("start_row", .ofNat m.firstRow), ("end_row", .ofNat m.lastRow),
    ("start_col", .ofNat m.firstColumn), ("end_col", .ofNat m.lastColumn),
    ("range_label", .text m.label)]

def Worksheet.toNode (w : Worksheet) : Node :=
  .ofFields [("name", .text w.name),
    ("cells", .ofList (.ofList fun c => .ofFields c.fields) w.cells),
    ("column_widths", .ofList .number w.columnWidths),
    ("row_heights", .ofList .number w.rowHeights),
    ("merged_cells", .ofList MergeRange.toNode w.merges),
    ("actual_rows", .ofNat w.rows), ("actual_cols", .ofNat w.columns)]

end Workbook

end Spreadsheet
