import Spreadsheet.Calendar.Instant
import Spreadsheet.Command.Arguments
import Std.Time

namespace Spreadsheet

def readContent (path : String) : IO (Option FileContent) :=
  try
    return some (.text (← IO.FS.readFile path))
  catch _ =>
    return none

def filesOf (c : Command) : IO Files := do
  let paths := c.file :: c.config.toList
  let contents ← paths.mapM fun path => return (path, ← readContent path)
  return fun path => (contents.lookup path).join

def todayText : IO String := do
  let today ← Std.Time.PlainDate.now
  return String.ofList (Calendar.Date.text ⟨today.year, today.month.val.toNat, today.day.val.toNat⟩)

def usage : String :=
  "Usage: gridforge inspect FILE [--config FILE] [--json]\n" ++
    "       gridforge eval FILE [--config FILE] [--formula TEXT] [--sort COLUMN:DIRECTION]\n" ++
    "                           [--filter COLUMN=TEXT]... [--structured]"

end Spreadsheet

open Spreadsheet in
def main (args : List String) : IO UInt32 := do
  match Command.ofArguments? args with
  | none =>
    IO.eprintln usage
    return 2
  | some command =>
    match command.run (← filesOf command) (← todayText) with
    | .ok (.ok text) =>
      IO.print text
      return 0
    | .ok (.error e) =>
      IO.eprintln (command.failureText e)
      return 1
    | .error fault =>
      IO.eprintln fault.message
      return 101
