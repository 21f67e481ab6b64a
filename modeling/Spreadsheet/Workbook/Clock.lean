import Spreadsheet.Calendar.Pattern
import Spreadsheet.Decimal.Binary
import Spreadsheet.Power
import Spreadsheet.Text.Blank
import Spreadsheet.Text.Numeric

namespace Spreadsheet.Workbook

open Spreadsheet.Text

/-- The serial of the beginning of 1970. Serials count days, and their fraction is the time of day.
-/
def epochSerial : Float := 25569

def minutesText (minutes : Int) : String :=
  let rest := minutes.tmod 60
  let restText := if rest < 0 then integer rest else padLeft 2 '0' (natural rest.natAbs)
  String.ofList (integer (minutes.tdiv 60) ++ ':' :: restText)

def clockText (fraction : Float) : String :=
  minutesText (Decimal.roundWithin (-twoTo 63) (twoTo 63 - 1) (fraction * 1440))

def timeOfDay (serial : Float) : Float :=
  let whole := if serial < 0 then serial.ceil else serial.floor
  let part := serial - whole
  if part < 0 then part + 1 else part

def serialInstant? (serial : Float) : Option Calendar.Instant :=
  (Decimal.dyadic? ((serial - epochSerial) * 86400000)).bind fun d =>
    if d.round.natAbs < twoTo 63 then Calendar.Instant.ofMilliseconds? d.round else none

def usualDateFormat : String := "%Y/%m/%d"

/-- The text shown for an instant: hours and minutes in the year of times, else the text in the
given pattern. -/
def instantText (dateFormat : String) (t : Calendar.Instant) : String :=
  if t.date.year = 1899 then
    String.ofList (natural t.hour ++ ':' :: padLeft 2 '0' (natural t.minute))
  else (t.format? dateFormat).getD ((t.format? usualDateFormat).getD "")

def isTimeField (least most : Nat) (cs : List Char) : Bool :=
  least ≤ cs.length && cs.length ≤ most && cs.all isDecimalDigit

/-- A text of hours, minutes and seconds loses its seconds and the blanks around it; any other text
stays as it is. -/
def shortenClock (s : String) : String :=
  match splitOn ':' (trim s.toList) with
  | [h, m, sec] =>
    if isTimeField 1 2 h ∧ isTimeField 2 2 m ∧ isTimeField 2 2 sec then
      String.ofList (h ++ ':' :: m)
    else s
  | _ => s

end Spreadsheet.Workbook
