/-
Module: Backoffice.CommandLine.Help
Purpose: The help text of a command.
Main exports: CommandSpec.helpText
-/
import Backoffice.CommandLine.Arguments
import Backoffice.Text.ControlSequence

namespace Backoffice.CommandLine

/-!
A help text has what the command is about, its usage, and up to three sections whose
entries are aligned within the section, in each line of what they say. Lines are never
broken. A help text has no control sequences, whatever the environment holds.
-/

/-- An entry of a section: how it is written, and what it does. -/
abbrev HelpEntry := String × String

/-- So many spaces. -/
private def spaces (count : Nat) : String := String.ofList (List.replicate count ' ')

/-- A section with its heading; nothing without entries. -/
def helpSection (heading : String) (entries : List HelpEntry) : List String :=
  let width := (entries.map fun entry => entry.1.length).foldl max 0
  match entries with
  | [] => []
  | _ =>
      ["", heading ++ ":"] ++ entries.map fun entry =>
        let lines := Text.split '\n' entry.2
        "  " ++ entry.1 ++ spaces (width - entry.1.length + 2) ++
          ("\n" ++ spaces (width + 4)).intercalate lines

/-- An option with its value. -/
def OptionSpec.written (option : OptionSpec) : String :=
  "--" ++ option.name ++ " <" ++ option.valueName ++ ">"

/-- A positional argument, in brackets when it can be left out. -/
def ArgumentSpec.written (argument : ArgumentSpec) : String :=
  match argument.form with
  | .single => "<" ++ argument.name ++ ">"
  | .many | .pairs => "[" ++ argument.name ++ "]..."

/-- What an option does, with its variable and its default. -/
def OptionSpec.describe (environment : Environment) (option : OptionSpec) : String :=
  let env :=
    match option.env with
    | some name => [" [env: " ++ name ++ "=" ++ (environment.find? name).getD "" ++ "]"]
    | none => []
  let default :=
    match option.default with
    | some value => [" [default: " ++ value ++ "]"]
    | none => []
  option.help ++ String.join (env ++ default)

/-- The entries of a command's options, those that every command has included. -/
def CommandSpec.optionEntries (spec : CommandSpec) (environment : Environment) :
    List HelpEntry :=
  (spec.options.map fun option =>
      ("    " ++ option.written, option.describe environment)) ++
    (if spec.hasHelp then [("-h, --help", "Print help")] else []) ++
    (if spec.hasVersion then [("-V, --version", "Print version")] else [])

/-- What has to follow a command's name, and what may. -/
def CommandSpec.usageTail (spec : CommandSpec) : List String :=
  (if spec.options.any fun option => !option.required then ["[OPTIONS]"] else []) ++
    (spec.options.filter fun option => option.required).map OptionSpec.written ++
    spec.arguments.map ArgumentSpec.written

/-- The help text of a command; `path` is what stands before its own part of the usage,
and `commands` are the commands inside it with what they do. -/
def CommandSpec.helpText (spec : CommandSpec) (environment : Environment)
    (path : List String) (commands : List HelpEntry) : String :=
  let usage := path ++ [spec.name] ++ spec.usageTail ++
    if commands.isEmpty then [] else ["<COMMAND>"]
  let lines :=
    [spec.about, "", "Usage: " ++ " ".intercalate usage] ++
      helpSection "Commands" commands ++
      helpSection "Arguments"
        (spec.arguments.map fun argument => (argument.written, argument.help)) ++
      helpSection "Options" (spec.optionEntries environment)
  Text.withoutControls (String.join (lines.map fun line => line ++ "\n"))

end Backoffice.CommandLine
