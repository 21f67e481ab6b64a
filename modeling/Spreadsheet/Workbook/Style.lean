import Spreadsheet.Workbook.Border

namespace Spreadsheet.Workbook

structure FontStyle where
  family : Option String
  size : Option Float
  bold : Bool
  italic : Bool
  underline : Bool
  strikethrough : Bool
  color : String
deriving DecidableEq

inductive HorizontalAlign where
  | left
  | center
  | right
  | justify
deriving DecidableEq, Repr

def HorizontalAlign.name : HorizontalAlign → String
  | left => "left"
  | center => "center"
  | right => "right"
  | justify => "justify"

def HorizontalAlign.ofKeyword? : String → Option HorizontalAlign
  | "left" => some left
  | "center" | "centerContinuous" => some center
  | "right" => some right
  | "justify" | "distributed" | "fill" => some justify
  | _ => none

inductive VerticalAlign where
  | top
  | middle
  | bottom
deriving DecidableEq, Repr

def VerticalAlign.name : VerticalAlign → String
  | top => "top"
  | middle => "middle"
  | bottom => "bottom"

def VerticalAlign.ofKeyword? : String → Option VerticalAlign
  | "top" => some top
  | "middle" | "center" | "justify" | "distributed" => some middle
  | "bottom" => some bottom
  | _ => none

structure Alignment where
  horizontal : Option HorizontalAlign
  vertical : Option VerticalAlign
  wrap : Bool
  indent : Option Float
deriving DecidableEq

def Alignment.general : Alignment := ⟨none, none, false, none⟩

structure CellStyle where
  font : Option FontStyle
  fill : Option String
  border : Option CellBorder
  alignment : Option Alignment
  numberFormat : Option String
deriving DecidableEq

namespace CellStyle

def plain : CellStyle := ⟨none, none, none, none, none⟩

def isPlain (s : CellStyle) : Bool :=
  s.font.isNone && s.fill.isNone && s.border.isNone && s.alignment.isNone && s.numberFormat.isNone

end CellStyle

def positive? (size : Option Float) : Option Float :=
  size.filter fun x => Decimal.isFinite x && 0 < x

def roleColor (spec : Option ColorSpec) (role : ColorRole) : String :=
  match spec with
  | some spec => spec.resolve role
  | none => role.default

def SourceFont.decode (f : SourceFont) : FontStyle where
  family := f.name.filter fun name => !Text.allBlank name.toList
  size := positive? f.size
  bold := f.bold.getD false
  italic := f.italic.getD false
  underline := f.underline.getD false
  strikethrough := f.strike.getD false
  color := roleColor f.color .font

def SourceFill.decode? (f : SourceFill) : Option String :=
  if f.pattern.any fun p => Text.eqIgnoringCase p.toList "none".toList then none
  else (f.foreground.orElse fun _ => f.background).map fun spec => spec.resolve .fill

def SourceAlignment.decode? (a : SourceAlignment) : Option Alignment :=
  let alignment : Alignment := {
    horizontal := a.horizontal.bind HorizontalAlign.ofKeyword?
    vertical := a.vertical.bind VerticalAlign.ofKeyword?
    wrap := a.wrap.getD false
    indent := positive? a.indent }
  if alignment = .general then none else some alignment

/-- The style of a cell alone. Its border depends on the neighbours and is left out. -/
def SourceStyle.decode (s : SourceStyle) : CellStyle where
  font := s.font.map (·.decode)
  fill := s.fill.bind (·.decode?)
  border := none
  alignment := s.alignment.bind (·.decode?)
  numberFormat := none

end Spreadsheet.Workbook
