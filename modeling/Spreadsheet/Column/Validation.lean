import Spreadsheet.Calendar.Reading
import Spreadsheet.Cell
import Spreadsheet.Column.Basic
import Spreadsheet.Regex.Matching
import Spreadsheet.Regex.Reading

namespace Spreadsheet

open Spreadsheet.Text

inductive Issue where
  | required
  | notANumber (text : String)
  | belowMin (min actual : Float)
  | aboveMax (max actual : Float)
  | patternMismatch (pattern value : String)
  | invalidPattern (pattern : String)
  | unknownOption (text : String)
  | invalidEmail (text : String)
  | invalidUrl (text : String)
  | invalidPhone (text : String)
  | invalidDate (text : String)
  | invalidTime (text : String)
deriving DecidableEq, Repr

def Issue.message : Issue → String
  | required => "value is required"
  | notANumber text => "'" ++ text ++ "' is not a number"
  | belowMin min actual =>
    Decimal.signedText actual ++ " is below the minimum " ++ Decimal.signedText min
  | aboveMax max actual =>
    Decimal.signedText actual ++ " is above the maximum " ++ Decimal.signedText max
  | patternMismatch pattern value => "'" ++ value ++ "' does not match pattern '" ++ pattern ++ "'"
  | invalidPattern pattern => "invalid pattern '" ++ pattern ++ "'"
  | unknownOption text => "'" ++ text ++ "' is not one of the column options"
  | invalidEmail text => "'" ++ text ++ "' is not a valid email address"
  | invalidUrl text => "'" ++ text ++ "' is not a valid URL"
  | invalidPhone text => "'" ++ text ++ "' is not a valid phone number"
  | invalidDate text => "'" ++ text ++ "' is not a valid date"
  | invalidTime text => "'" ++ text ++ "' is not a valid time"

def isEmail (cs : List Char) : Bool :=
  match splitOnce ['@'] cs with
  | some (name, domain) =>
    name != [] && !domain.contains '@' && domain.contains '.' && domain.head? != some '.' &&
      domain.getLast? != some '.' && !cs.any isBlank
  | none => false

def urlSchemes : List String :=
  ["http://", "https://", "ftp://"]

def isUrl (cs : List Char) : Bool :=
  match urlSchemes.findSome? (·.toList.isPrefixOf? cs) with
  | some rest => rest != [] && !rest.any isBlank
  | none => false

def isPhone (cs : List Char) : Bool :=
  3 ≤ cs.countP Char.isDigit &&
    cs.all fun c => c.isDigit || ['+', '-', ' ', '(', ')', '.'].contains c

/-- One or two bytes that write a number up to `most`; a plus sign may stand before a digit. -/
def isClockField (most : Nat) (cs : List Char) : Bool :=
  let digits := match cs with
    | '+' :: ds => ds
    | ds => ds
  cs != [] && byteLength cs ≤ 2 && (numeral? digits).any (· ≤ most)

def isClock (cs : List Char) : Bool :=
  match splitOn ':' cs with
  | [h, m] => isClockField 23 h && byteLength m == 2 && isClockField 59 m
  | [h, m, s] =>
    isClockField 23 h && byteLength m == 2 && isClockField 59 m && byteLength s == 2 &&
      isClockField 59 s
  | _ => false

/-- The items chosen by a value: those of a list, or the pieces of a text between commas. -/
def Cell.selected : Cell → List String
  | list items => items
  | v => (splitOn ',' v.toText.toList).map fun piece => String.ofList (trim piece)

namespace Column

def kindIssues (c : Column) (v : Cell) : List Issue :=
  let text := v.toText
  let check := fun (ok : Bool) (issue : Issue) => if ok then [] else [issue]
  match c.kind with
  | .number | .currency => check v.number?.isSome (.notANumber text)
  | .select => check (c.options.isEmpty || c.options.contains text) (.unknownOption text)
  | .multiSelect =>
    if c.options.isEmpty then []
    else (v.selected.filter fun item => !c.options.contains item).map .unknownOption
  | .email => check (isEmail text.toList) (.invalidEmail text)
  | .url => check (isUrl text.toList) (.invalidUrl text)
  | .phone => check (isPhone text.toList) (.invalidPhone text)
  | .date | .datetime => check (Calendar.readDate? text.toList).isSome (.invalidDate text)
  | .time => check (isClock text.toList) (.invalidTime text)
  | .text | .checkbox | .file | .formula | .richText => []

def boundIssues (c : Column) (v : Cell) : List Issue :=
  match c.kind.isNumeric, v.number? with
  | true, some x =>
    (match c.rules.min with
      | some min => if x < min then [.belowMin min x] else []
      | none => []) ++
    match c.rules.max with
      | some max => if max < x then [.aboveMax max x] else []
      | none => []
  | _, _ => []

def patternIssues (c : Column) (v : Cell) : List Issue :=
  match c.rules.pattern with
  | none => []
  | some pattern =>
    match Regex.read? pattern.toList with
    | none => [.invalidPattern pattern]
    | some p => if p.occursIn v.toText.toList then [] else [.patternMismatch pattern v.toText]

def validate (c : Column) (v : Cell) : List Issue :=
  if v.isEmpty then if c.rules.required then [.required] else []
  else c.kindIssues v ++ c.boundIssues v ++ c.patternIssues v

end Column

end Spreadsheet
