import Spreadsheet.Decimal.Layout
import Spreadsheet.Workbook.Source

namespace Spreadsheet.Workbook

inductive Dash where
  | solid
  | dotted
  | dashed
  | double
deriving DecidableEq, Repr

def Dash.name : Dash → String
  | solid => "solid"
  | dotted => "dotted"
  | dashed => "dashed"
  | double => "double"

inductive EdgeSource where
  | declared
  | neighbor
  | gridline
deriving DecidableEq, Repr

def EdgeSource.name : EdgeSource → String
  | declared => "declared"
  | neighbor => "neighbor"
  | gridline => "gridline"

structure BorderEdge where
  width : Float
  dash : Dash
  color : String
  source : EdgeSource
deriving DecidableEq

def BorderEdge.css (e : BorderEdge) : String :=
  Decimal.numberText e.width ++ "px " ++ e.dash.name ++ " " ++ e.color

structure CellBorder where
  top : BorderEdge
  right : BorderEdge
  bottom : BorderEdge
  left : BorderEdge
deriving DecidableEq

inductive Edge where
  | top
  | right
  | bottom
  | left
deriving DecidableEq, Repr

namespace Edge

def all : List Edge :=
  [top, right, bottom, left]

def opposite : Edge → Edge
  | top => bottom
  | right => left
  | bottom => top
  | left => right

def neighbor? (p : Position) : Edge → Option Position
  | top => if p.1 = 0 then none else some (p.1 - 1, p.2)
  | right => some (p.1, p.2 + 1)
  | bottom => some (p.1 + 1, p.2)
  | left => if p.2 = 0 then none else some (p.1, p.2 - 1)

end Edge

def SourceSide.isDeclared (side : SourceSide) : Bool :=
  side.style.any fun s =>
    !Text.allBlank s.toList && !Text.eqIgnoringCase s.toList "none".toList

def SourceBorder.declared? (b : SourceBorder) (edge : Edge) : Option SourceSide :=
  let side := match edge with
    | .top => b.top
    | .right => b.right
    | .bottom => b.bottom
    | .left => b.left
  side.filter (·.isDeclared)

def styleMetrics : String → Float × Dash
  | "thick" => (2, .solid)
  | "medium" => (1.5, .solid)
  | "dotted" => (1, .dotted)
  | "dashed" | "dashDot" | "dashDotDot" | "mediumDashed" | "mediumDashDot" | "mediumDashDotDot"
  | "slantDashDot" => (1, .dashed)
  | "double" => (3, .double)
  | _ => (1, .solid)

def gridline (color : String) : BorderEdge :=
  ⟨1, .solid, color, .gridline⟩

def SourceSide.edge (side : SourceSide) (source : EdgeSource) : BorderEdge :=
  let metrics := styleMetrics (side.style.getD "")
  let color := match side.color with
    | some spec => spec.resolve .border
    | none => ColorRole.border.default
  ⟨metrics.1, metrics.2, color, source⟩

/-- A shared edge is often declared on one side only, so a cell without a border on it takes that of
its neighbour. -/
def drawnEdge? (borderAt : Position → Option SourceBorder) (p : Position) (edge : Edge) :
    Option BorderEdge :=
  match (borderAt p).bind (·.declared? edge) with
  | some side => some (side.edge .declared)
  | none =>
    (((edge.neighbor? p).bind borderAt).bind (·.declared? edge.opposite)).map (·.edge .neighbor)

def cellBorder? (gridlineColor : String) (borderAt : Position → Option SourceBorder)
    (p : Position) : Option CellBorder :=
  let drawn := drawnEdge? borderAt p
  if Edge.all.all fun edge => (drawn edge).isNone then none
  else
    let edge := fun e => (drawn e).getD (gridline gridlineColor)
    some ⟨edge .top, edge .right, edge .bottom, edge .left⟩

end Spreadsheet.Workbook
