import Spreadsheet.Command

namespace Spreadsheet

inductive Command where
  | inspect (c : Command.Inspect)
  | evaluate (c : Command.Evaluate)
deriving DecidableEq, Repr

namespace Command

structure Arguments where
  files : List String
  config : Option String
  formula : Option String
  sort : Option String
  filters : List String
  flags : List String
deriving DecidableEq, Repr

def Arguments.read (a : Arguments) : List String → Arguments
  | "--config" :: v :: args => { a with config := some v }.read args
  | "--formula" :: v :: args | "-f" :: v :: args => { a with formula := some v }.read args
  | "--sort" :: v :: args | "-s" :: v :: args => { a with sort := some v }.read args
  | "--filter" :: v :: args => { a with filters := a.filters ++ [v] }.read args
  | arg :: args =>
    if "-".toList.isPrefixOf arg.toList then { a with flags := a.flags ++ [arg] }.read args
    else { a with files := a.files ++ [arg] }.read args
  | [] => a

def ofArguments? (args : List String) : Option Command :=
  let a := Arguments.read ⟨[], none, none, none, [], []⟩ args
  match a.files with
  | ["inspect", file] =>
    if a.flags.all (· == "--json") then
      some (.inspect ⟨file, a.config, a.flags.contains "--json"⟩)
    else none
  | ["eval", file] =>
    if a.flags.all (· == "--structured") then
      some (.evaluate {
        file := file
        config := a.config
        formula := a.formula
        sort := a.sort
        filters := a.filters
        structured := a.flags.contains "--structured" })
    else none
  | _ => none

def file : Command → String
  | inspect c => c.file
  | evaluate c => c.file

def config : Command → Option String
  | inspect c => c.config
  | evaluate c => c.config

def run (files : Files) (today : String) : Command → Workbook.Checked (Except Failure String)
  | inspect c => c.run files
  | evaluate c => return c.run files today

def failureText (c : Command) (f : Failure) : String :=
  let activity := match c with
    | inspect _ => "inspect "
    | evaluate _ => "evaluate "
  "Error: Failed to " ++ activity ++ c.file ++ "\n\nCaused by:\n    " ++ f.message

end Command

end Spreadsheet
