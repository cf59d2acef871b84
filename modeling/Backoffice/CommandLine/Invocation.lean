/-
Module: Backoffice.CommandLine.Invocation
Purpose: The commands of the program, and how they are invoked.
Main exports: Command, Invocation, Invocation.read, Invocation.paths, Outcome
-/
import Backoffice.CommandLine.Help

namespace Backoffice.CommandLine

/-- How a run ends. -/
inductive Outcome where
  | success (output : String)
  /-- The arguments cannot be read. -/
  | mistake
  /-- A failure with its causes, outermost first. -/
  | failure (message : String) (causes : List String)
deriving DecidableEq, Repr, Inhabited

/-- A grid request on the command line: where the rows are, and what is shown. -/
structure GridCommand where
  model : String
  parameters : List (String × String)
  rows : String
  format : String
  actions : Option String
  denied : List String
deriving Inhabited

/-- What the program is asked to do. -/
inductive Command where
  | models
  | grid (request : GridCommand)
  | sql (model : String) (parameters : List (String × String)) (table : Option String)
  | form (model : String)
  | filters (model : String)
deriving Inhabited

/-- A command with the path of the catalog it works on. -/
structure Invocation where
  catalog : String
  command : Command
deriving Inhabited

/-! ## The commands -/

private def modelArgument : ArgumentSpec := { name := "MODEL" }

private def parameterArguments (help : String) : ArgumentSpec :=
  { name := "PARAMS", help := help, form := .pairs }

private def catalogOption : OptionSpec :=
  { name := "catalog", valueName := "PATH", help := "Schema catalog: a JSON array of model schemas"
    env := some "SCAFFOLD_CATALOG", required := true, isPath := true }

private def rowsOption : OptionSpec :=
  { name := "rows", valueName := "PATH", help := "Row dataset: a JSON array of objects"
    env := some "SCAFFOLD_ROWS", required := true, isPath := true }

private def formatOption : OptionSpec :=
  { name := "format", valueName := "FORMAT"
    help := "Response encoding, by extension (json or xml)", default := some "json" }

private def actionsOption : OptionSpec :=
  { name := "actions", valueName := "URL"
    help := "Base URL of the row action links; no actions cell without it" }

private def denyOption : OptionSpec :=
  { name := "deny", valueName := "DENY"
    help := "Actions to withhold from the links (view, edit, delete)", repeats := true }

private def tableOption : OptionSpec :=
  { name := "table", valueName := "TABLE"
    help := "Base table (default: the model identifier)" }

private def modelsSpec : CommandSpec :=
  { name := "models", about := "List registered models" }

private def gridSpec : CommandSpec :=
  { name := "grid", about := "Answer one grid request"
    options := [rowsOption, formatOption, actionsOption, denyOption]
    arguments := [modelArgument,
      parameterArguments
        "Grid widget parameters, e.g. \x60sSearch=foo iDisplayLength=25\x60"] }

private def sqlSpec : CommandSpec :=
  { name := "sql", about := "Print the SQL a grid request compiles to"
    options := [tableOption], arguments := [modelArgument, parameterArguments ""] }

private def formSpec : CommandSpec :=
  { name := "form", about := "Print the compiled form of a model", arguments := [modelArgument] }

private def filtersSpec : CommandSpec :=
  { name := "filters", about := "Print the list filter widgets of a model"
    arguments := [modelArgument] }

private def helpSpec : CommandSpec :=
  { name := "help", about := "Print this message or the help of the given subcommand(s)"
    arguments :=
      [{ name := "COMMAND", help := "Print help for the subcommand(s)", form := .many }]
    hasHelp := false }

private def commandSpecs : List CommandSpec :=
  [modelsSpec, gridSpec, sqlSpec, formSpec, filtersSpec]

private def programSpec : CommandSpec :=
  { name := "scaffold", about := "Admin grid and form scaffolding over a schema catalog"
    options := [catalogOption], hasVersion := true
    commands := commandSpecs.map (·.name) ++ [helpSpec.name] }

/-- The version that the program tells. -/
def versionText : String := "scaffold 0.1.0\n"

/-- The help text of the whole program. -/
def programHelp (environment : Environment) : String :=
  programSpec.helpText environment []
    ((commandSpecs ++ [helpSpec]).map fun spec => (spec.name, spec.about))

/-- The help text of a command. -/
def commandHelp (environment : Environment) (spec : CommandSpec) : String :=
  spec.helpText environment [programSpec.name, catalogOption.written] []

/-! ## Reading an invocation -/

/-- The value of an option that is given at most once. -/
private def single? (given : Given) (name : String) : Option String :=
  Assoc.find? name given.options

private def all (given : Given) (name : String) : List String :=
  given.options.filterMap fun option => if option.1 = name then some option.2 else none

/-- Arguments of the form `name=value`, cut at the first equals sign. -/
private def pairs (arguments : List String) : List (String × String) :=
  arguments.filterMap (Text.splitFirst? '=')

/-- The command that completed arguments ask for. -/
def Command.ofGiven? (name : String) (given : Given) : Option Command :=
  match name, given.arguments with
  | "models", [] => some .models
  | "grid", model :: parameters => do
      some (.grid
        { model := model
          parameters := pairs parameters
          rows := ← single? given "rows"
          format := ← single? given "format"
          actions := single? given "actions"
          denied := all given "deny" })
  | "sql", model :: parameters =>
      some (.sql model (pairs parameters) (single? given "table"))
  | "form", [model] => some (.form model)
  | "filters", [model] => some (.filters model)
  | _, _ => none

/-- Answer a request for help on commands. -/
private def readHelp (environment : Environment) (names : List String) : Outcome :=
  match names with
  | [] => .success (programHelp environment)
  | [name] =>
      match (commandSpecs ++ [helpSpec]).find? fun spec => spec.name == name with
      | some spec => .success (commandHelp environment spec)
      | none => .mistake
  | _ => .mistake

/-- Read the arguments of a command and complete them. -/
private def readCommand (environment : Environment) (spec : CommandSpec)
    (arguments : List String) : Except Outcome Command :=
  match spec.read arguments with
  | .help => .error (.success (commandHelp environment spec))
  | .version => .error (.success versionText)
  | .mistake => .error .mistake
  | .given given _ =>
      match (spec.complete? environment given).bind (Command.ofGiven? spec.name) with
      | some command => .ok command
      | none => .error .mistake

/-- Read the arguments of the program: what to do, or the outcome when nothing is to be
done. -/
def Invocation.read (environment : Environment) (arguments : List String) :
    Except Outcome Invocation :=
  match programSpec.read arguments with
  | .help => .error (.success (programHelp environment))
  | .version => .error (.success versionText)
  | .mistake => .error .mistake
  | .given _ none => .error .mistake
  | .given given (some (name, rest)) =>
      if name = helpSpec.name then .error (readHelp environment rest)
      else
        match commandSpecs.find? fun spec => spec.name == name with
        | none => .error .mistake
        | some spec =>
            match readCommand environment spec rest with
            | .error outcome => .error outcome
            | .ok command =>
                match (programSpec.complete? environment given).bind fun completed =>
                    single? completed "catalog" with
                | some catalog => .ok ⟨catalog, command⟩
                | none => .error .mistake

/-- The files that an invocation reads, in order. -/
def Invocation.paths (invocation : Invocation) : List String :=
  invocation.catalog ::
    match invocation.command with
    | .grid request => [request.rows]
    | _ => []

end Backoffice.CommandLine
