import Spreadsheet.Decimal.Binary
import Spreadsheet.Text.Blank
import Spreadsheet.Text.Digits

namespace Spreadsheet.Workbook

open Spreadsheet.Text

structure ColorSpec where
  argb : Option String
  rgb : Option String
  theme : Option Int
  tint : Option Float
deriving DecidableEq, Inhabited

inductive ColorRole where
  | font
  | fill
  | border
deriving DecidableEq, Repr

def ColorRole.default : ColorRole → String
  | font | border => "#000000"
  | fill => "#FFFFFF"

structure Rgb where
  red : Nat
  green : Nat
  blue : Nat
deriving DecidableEq, Repr

def hexDigit (n : Nat) : Char :=
  if n < 10 then Char.ofNat (48 + n) else Char.ofNat (55 + n)

def hexPair (n : Nat) : List Char :=
  [hexDigit (n / 16), hexDigit (n % 16)]

def Rgb.text (c : Rgb) : String :=
  String.ofList ('#' :: hexPair c.red ++ hexPair c.green ++ hexPair c.blue)

/-- A color of six hexadecimal digits, or of eight with the first two for opacity, after any number
of hash marks. -/
def Rgb.read? (s : String) : Option Rgb :=
  match ((trim s.toList).dropWhile (· == '#')).mapM hexValue? with
  | some [a, b, c, d, e, f] => some ⟨16 * a + b, 16 * c + d, 16 * e + f⟩
  | some [_, _, a, b, c, d, e, f] => some ⟨16 * a + b, 16 * c + d, 16 * e + f⟩
  | _ => none

/-- A channel moved towards zero by a negative tint, and towards its greatest value `full` by a
positive one. The arithmetic is that of the numbers `K`. -/
def blend {K : Type} [OfNat K 0] [OfNat K 1] [Add K] [Sub K] [Mul K] [LT K]
    [DecidableRel (α := K) (· < ·)] (full c tint : K) : K :=
  if tint < 0 then c * (1 + tint) else if 0 < tint then c + (full - c) * tint else c

def tintChannel (c : Nat) (tint : Float) : Nat :=
  (Decimal.roundWithin 0 255 (blend 255 (Float.ofNat c) tint)).toNat

def Rgb.tinted (c : Rgb) (tint : Float) : Rgb :=
  ⟨tintChannel c.red tint, tintChannel c.green tint, tintChannel c.blue tint⟩

def palette : List Rgb :=
  [⟨0xFF, 0xFF, 0xFF⟩, ⟨0x00, 0x00, 0x00⟩, ⟨0xE7, 0xE6, 0xE6⟩, ⟨0x44, 0x54, 0x6A⟩,
    ⟨0x44, 0x72, 0xC4⟩, ⟨0xED, 0x7D, 0x31⟩, ⟨0xA5, 0xA5, 0xA5⟩, ⟨0xFF, 0xC0, 0x00⟩,
    ⟨0x5B, 0x9B, 0xD5⟩, ⟨0x70, 0xAD, 0x47⟩, ⟨0x05, 0x63, 0xC1⟩, ⟨0x95, 0x4F, 0x72⟩]

def themeColor? (index : Int) (tint : Float) : Option Rgb :=
  if index < 0 ∨ ¬ Decimal.isFinite tint then none
  else palette[index.toNat]?.map (·.tinted tint)

namespace ColorSpec

/-- The color, if it is well declared. The first of its declarations decides. -/
def resolve? (spec : ColorSpec) : Option String :=
  match spec.argb, spec.rgb, spec.theme with
  | some argb, _, _ => (Rgb.read? argb).map Rgb.text
  | none, some rgb, _ => (Rgb.read? rgb).map Rgb.text
  | none, none, some index => (themeColor? index (spec.tint.getD 0)).map Rgb.text
  | none, none, none => none

def resolve (spec : ColorSpec) (role : ColorRole) : String :=
  spec.resolve?.getD role.default

end ColorSpec

end Spreadsheet.Workbook
