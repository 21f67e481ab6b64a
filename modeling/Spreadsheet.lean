import Spreadsheet.Calendar.Date
import Spreadsheet.Calendar.Instant
import Spreadsheet.Calendar.Pattern
import Spreadsheet.Calendar.Reading
import Spreadsheet.Cell
import Spreadsheet.Column.Basic
import Spreadsheet.Column.Display
import Spreadsheet.Column.Validation
import Spreadsheet.Command
import Spreadsheet.Command.Arguments
import Spreadsheet.Config
import Spreadsheet.Decimal.Binary
import Spreadsheet.Decimal.Layout
import Spreadsheet.Decimal.Reading
import Spreadsheet.Decimal.Shortest
import Spreadsheet.Dictionary
import Spreadsheet.Document.Decoding
import Spreadsheet.Document.Encoding
import Spreadsheet.Document.Json
import Spreadsheet.Document.Json.Pretty
import Spreadsheet.Document.Node
import Spreadsheet.Document.Plain
import Spreadsheet.Document.Yaml
import Spreadsheet.Error
import Spreadsheet.Formula.Aggregate
import Spreadsheet.Formula.Comparison
import Spreadsheet.Formula.Evaluation
import Spreadsheet.Formula.Evaluator
import Spreadsheet.Formula.Expr
import Spreadsheet.Formula.Lexer
import Spreadsheet.Formula.Memo
import Spreadsheet.Formula.Parser
import Spreadsheet.Formula.PatternText
import Spreadsheet.Formula.Quotation
import Spreadsheet.Formula.Substitution
import Spreadsheet.Formula.Textual
import Spreadsheet.Formula.Token
import Spreadsheet.Formula.Value
import Spreadsheet.Main
import Spreadsheet.Power
import Spreadsheet.Proofs.Calendar.Date
import Spreadsheet.Proofs.Calendar.DateText
import Spreadsheet.Proofs.Calendar.Succession
import Spreadsheet.Proofs.Calendar.WrittenDate
import Spreadsheet.Proofs.Column.Amount
import Spreadsheet.Proofs.Column.Clock
import Spreadsheet.Proofs.Decimal.Bits
import Spreadsheet.Proofs.Decimal.Nearest
import Spreadsheet.Proofs.Decimal.NearestInteger
import Spreadsheet.Proofs.Decimal.Order
import Spreadsheet.Proofs.Decimal.Rounding
import Spreadsheet.Proofs.Decimal.Shortest
import Spreadsheet.Proofs.Decimal.SignedZero
import Spreadsheet.Proofs.Decimal.Whole
import Spreadsheet.Proofs.Dictionary
import Spreadsheet.Proofs.Formula.Admitted
import Spreadsheet.Proofs.Formula.Aggregation
import Spreadsheet.Proofs.Formula.Agreement
import Spreadsheet.Proofs.Formula.Arguments
import Spreadsheet.Proofs.Formula.Arithmetic
import Spreadsheet.Proofs.Formula.Calculation
import Spreadsheet.Proofs.Formula.Call
import Spreadsheet.Proofs.Formula.ColumnOrder
import Spreadsheet.Proofs.Formula.ComparisonMark
import Spreadsheet.Proofs.Formula.Computation
import Spreadsheet.Proofs.Formula.Condition
import Spreadsheet.Proofs.Formula.Conditional
import Spreadsheet.Proofs.Formula.Excerpt
import Spreadsheet.Proofs.Formula.Footprint
import Spreadsheet.Proofs.Formula.Grammar
import Spreadsheet.Proofs.Formula.Layout
import Spreadsheet.Proofs.Formula.LexPosition
import Spreadsheet.Proofs.Formula.Lexeme
import Spreadsheet.Proofs.Formula.Literal
import Spreadsheet.Proofs.Formula.LooseOrder
import Spreadsheet.Proofs.Formula.Memo
import Spreadsheet.Proofs.Formula.Numeral
import Spreadsheet.Proofs.Formula.Operand
import Spreadsheet.Proofs.Formula.Opposite
import Spreadsheet.Proofs.Formula.Parsing
import Spreadsheet.Proofs.Formula.PatternText
import Spreadsheet.Proofs.Formula.Place
import Spreadsheet.Proofs.Formula.Quotation
import Spreadsheet.Proofs.Formula.Rendering
import Spreadsheet.Proofs.Formula.Scanning
import Spreadsheet.Proofs.Formula.SingleName
import Spreadsheet.Proofs.Formula.Spacing
import Spreadsheet.Proofs.Formula.Substitution
import Spreadsheet.Proofs.Formula.Term
import Spreadsheet.Proofs.Formula.TermText
import Spreadsheet.Proofs.Formula.ViablePrefix
import Spreadsheet.Proofs.Formula.Words
import Spreadsheet.Proofs.Sorting
import Spreadsheet.Proofs.Table.BlankName
import Spreadsheet.Proofs.Table.Consistency
import Spreadsheet.Proofs.Table.Containment
import Spreadsheet.Proofs.Table.Duplicate
import Spreadsheet.Proofs.Table.Edit
import Spreadsheet.Proofs.Table.Filter
import Spreadsheet.Proofs.Table.FreeName
import Spreadsheet.Proofs.Table.Independence
import Spreadsheet.Proofs.Table.Mention
import Spreadsheet.Proofs.Table.Rename
import Spreadsheet.Proofs.Table.RenameBack
import Spreadsheet.Proofs.Table.Session
import Spreadsheet.Proofs.Table.Update
import Spreadsheet.Proofs.Table.View
import Spreadsheet.Proofs.Text.Blank
import Spreadsheet.Proofs.Text.Classes
import Spreadsheet.Proofs.Text.Collation
import Spreadsheet.Proofs.Text.Lowering
import Spreadsheet.Proofs.Text.Search
import Spreadsheet.Proofs.Workbook.Address
import Spreadsheet.Proofs.Workbook.Border
import Spreadsheet.Proofs.Workbook.Checked
import Spreadsheet.Proofs.Workbook.Extent
import Spreadsheet.Proofs.Workbook.FormulaText
import Spreadsheet.Proofs.Workbook.Label
import Spreadsheet.Proofs.Workbook.Locality
import Spreadsheet.Proofs.Workbook.Merge
import Spreadsheet.Proofs.Workbook.Selection
import Spreadsheet.Proofs.Workbook.Serial
import Spreadsheet.Proofs.Workbook.SerialKind
import Spreadsheet.Proofs.Workbook.SheetDocument
import Spreadsheet.Proofs.Workbook.Tiling
import Spreadsheet.Proofs.Workbook.Tint
import Spreadsheet.Regex.Basic
import Spreadsheet.Regex.Matching
import Spreadsheet.Regex.Reading
import Spreadsheet.Report
import Spreadsheet.Row
import Spreadsheet.Table.Basic
import Spreadsheet.Table.Decoding
import Spreadsheet.Table.Edit
import Spreadsheet.Table.Loading
import Spreadsheet.Table.Request
import Spreadsheet.Table.View
import Spreadsheet.Text.Blank
import Spreadsheet.Text.Case
import Spreadsheet.Text.Collation
import Spreadsheet.Text.Described
import Spreadsheet.Text.Digits
import Spreadsheet.Text.Letter
import Spreadsheet.Text.Numeric
import Spreadsheet.Text.Order
import Spreadsheet.Text.Ranges
import Spreadsheet.Text.Search
import Spreadsheet.Text.Word
import Spreadsheet.Workbook.Address
import Spreadsheet.Workbook.Border
import Spreadsheet.Workbook.Clock
import Spreadsheet.Workbook.Color
import Spreadsheet.Workbook.Loading
import Spreadsheet.Workbook.Merge
import Spreadsheet.Workbook.Package
import Spreadsheet.Workbook.Reading
import Spreadsheet.Workbook.Source
import Spreadsheet.Workbook.Style
import Spreadsheet.Workbook.Word
import Spreadsheet.Workbook.Worksheet
import Spreadsheet.Workbook.Writing
