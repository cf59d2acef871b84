/-
Module: Backoffice.CommandLine.Arguments
Purpose: Reading the arguments of a command.
Main exports: OptionSpec, ArgumentForm, ArgumentSpec, CommandSpec, Given, Reading,
  CommandSpec.read, CommandSpec.complete?
-/
import Backoffice.CommandLine.Environment

namespace Backoffice.CommandLine

/-!
An option is written `--name value` or `--name=value`; its value is the next argument,
whatever it is, unless that starts with a dash and has more to it. Behind `--` there
are no options. Asking for help or for the version answers at once, and so does the
first mistake.

A value that is an argument of its own is looked at late: when the next option or the
next position starts, or when all arguments have been read. A command inside this one
is read before that, so its help is given even where the value turns out to be wrong.
-/

/-- An option of a command. -/
structure OptionSpec where
  name : String
  valueName : String
  help : String
  /-- The environment variable that stands in for the option. -/
  env : Option String := none
  /-- The value without an option and a variable. -/
  default : Option String := none
  /-- Whether the option has to be given. -/
  required : Bool := false
  /-- Whether the value is a path, and so cannot be empty. -/
  isPath : Bool := false
  /-- Whether the option can be given again; its values are separated by commas. -/
  repeats : Bool := false
deriving Inhabited

/-- How many arguments can be given at one position, and what they look like. -/
inductive ArgumentForm where
  /-- Exactly one argument. -/
  | single
  /-- Any number of arguments; nothing can follow them. -/
  | many
  /-- Any number of arguments, each of them with an equals sign. -/
  | pairs
deriving DecidableEq, Repr, Inhabited

/-- A positional argument of a command. -/
structure ArgumentSpec where
  name : String
  help : String := ""
  form : ArgumentForm := .single
deriving Inhabited

/-- A command. -/
structure CommandSpec where
  name : String
  about : String
  options : List OptionSpec := []
  arguments : List ArgumentSpec := []
  /-- The names of the commands inside this one. -/
  commands : List String := []
  /-- Whether the command can be asked for help by an option. -/
  hasHelp : Bool := true
  /-- Whether the command tells its version. -/
  hasVersion : Bool := false
deriving Inhabited

/-- What has been read and not been looked at yet. -/
inductive Pending where
  | nothing
  /-- An option, with its value as soon as that has been read. -/
  | option (option : OptionSpec) (value : Option String)
  /-- The arguments at one position. -/
  | arguments (argument : ArgumentSpec) (values : List String)
deriving Inhabited

/-- What has been given: options with their values, and positional arguments. -/
structure Given where
  options : List (String × String) := []
  arguments : List String := []
  pending : Pending := .nothing
deriving Inhabited

/-- What reading arguments comes to. -/
inductive Reading where
  /-- The arguments, and a command inside this one with what follows its name. -/
  | given (given : Given) (command : Option (String × List String))
  | help
  | version
  | mistake
deriving Inhabited

/-- The option with a name. -/
def CommandSpec.option? (spec : CommandSpec) (name : String) : Option OptionSpec :=
  spec.options.find? fun option => option.name == name

/-- Note an option; one that cannot be repeated is given at most once. -/
def Given.note? (given : Given) (option : OptionSpec) (value : String) : Option Given :=
  if option.isPath && value == "" then none
  else if !option.repeats && (Assoc.keys given.options).contains option.name then none
  else
    let values := if option.repeats then Text.split ',' value else [value]
    some { given with
      options := given.options ++ values.map fun part => (option.name, part) }

/-- Look at what is pending; none when there is something wrong with it. -/
def Given.settle? (given : Given) : Option Given :=
  let settled := { given with pending := .nothing }
  match given.pending with
  | .nothing => some settled
  | .option _ none => none
  | .option option (some value) => settled.note? option value
  | .arguments argument values =>
      if argument.form = .pairs ∧ ¬ values.all (·.toList.contains '=') then none
      else some { settled with arguments := given.arguments ++ values }

/-- Whether the value of an option is due. -/
def Given.awaitsValue (given : Given) : Bool :=
  match given.pending with
  | .option _ none => true
  | _ => false

/-- The number of positional arguments read. -/
def Given.position (given : Given) : Nat :=
  given.arguments.length +
    match given.pending with
    | .arguments _ values => values.length
    | _ => 0

/-- What is given at a position. -/
def CommandSpec.argumentAt? (spec : CommandSpec) (position : Nat) : Option ArgumentSpec :=
  match spec.arguments[position]? with
  | some argument => some argument
  | none => spec.arguments.getLast?.filter fun last => last.form != .single

/-- The values that are pending at a position with room for more. -/
def Pending.values? (pending : Pending) (argument : ArgumentSpec) : Option (List String) :=
  match pending with
  | .arguments waiting values =>
      if waiting.name = argument.name ∧ argument.form ≠ .single then some values else none
  | _ => none

/-- Read a positional argument; none when there is no room for it. Those that belong
to one position are looked at together. -/
def Given.argument? (spec : CommandSpec) (given : Given) (value : String) : Option Given := do
  let argument ← spec.argumentAt? given.position
  match given.pending.values? argument with
  | some values => some { given with pending := .arguments argument (values ++ [value]) }
  | none => some { ← given.settle? with pending := .arguments argument [value] }

/-- What starts with one dash, less that dash. -/
def shortFlags? (argument : String) : Option (List Char) :=
  match argument.toList with
  | '-' :: c :: rest => if c = '-' then none else some (c :: rest)
  | _ => none

/-- What starts with two dashes, less those: the name, and a value behind an equals
sign. -/
def longOption? (argument : String) : Option (String × Option String) :=
  match argument.toList with
  | '-' :: '-' :: rest =>
      match Text.splitFirstChars? '=' rest with
      | some (name, value) => some (String.ofList name, some (String.ofList value))
      | none => some (String.ofList rest, none)
  | _ => none

/-- Read what follows `--`. -/
def CommandSpec.readPlain (spec : CommandSpec) (given : Given) : List String → Reading
  | [] => .given given none
  | argument :: rest =>
      match given.argument? spec argument with
      | some next => spec.readPlain next rest
      | none => .mistake

/-- Answer at once, unless there is something wrong with what is pending. -/
def Given.answer (given : Given) (answer : Reading) : Reading :=
  if given.settle?.isSome then answer else .mistake

/-- Read an option with its value, if that is behind an equals sign; such a value is
looked at here. -/
def CommandSpec.readOption? (spec : CommandSpec) (given : Given) (name : String)
    (value : Option String) : Option Given := do
  let option ← spec.option? name
  let settled ← given.settle?
  match value with
  | some value => settled.note? option value
  | none => some { settled with pending := .option option none }

/-- Read arguments. -/
def CommandSpec.readFrom (spec : CommandSpec) (given : Given) : List String → Reading
  | [] => .given given none
  | argument :: rest =>
      if ¬ given.awaitsValue ∧ argument ∈ spec.commands then .given given (some (argument, rest))
      else if argument = "--" then spec.readPlain given rest
      else
        match longOption? argument, shortFlags? argument, given.pending with
        | some (name, value), _, _ =>
            if name = "help" ∧ value = none ∧ spec.hasHelp then given.answer .help
            else if name = "version" ∧ value = none ∧ spec.hasVersion then given.answer .version
            else
              match spec.readOption? given name value with
              | some next => spec.readFrom next rest
              | none => .mistake
        | none, some flags, _ =>
            if flags.head? = some 'h' ∧ spec.hasHelp then given.answer .help
            else if flags.head? = some 'V' ∧ spec.hasVersion then given.answer .version
            else .mistake
        | none, none, .option option none =>
            spec.readFrom { given with pending := .option option (some argument) } rest
        | none, none, _ =>
            match given.argument? spec argument with
            | some next => spec.readFrom next rest
            | none => .mistake

/-- Read the arguments of a command. -/
def CommandSpec.read (spec : CommandSpec) (arguments : List String) : Reading :=
  spec.readFrom {} arguments

/-- Look at what is pending, and complete the options from the environment and from
defaults; none when a required option or argument is missing, or a path is empty. -/
def CommandSpec.complete? (spec : CommandSpec) (environment : Environment) (given : Given) :
    Option Given :=
  let options := spec.options.foldl (fun (known : Option Given) option =>
    known.bind fun known =>
      if (Assoc.keys known.options).contains option.name then some known
      else
        match (option.env.bind environment.find?).or option.default with
        | some value => known.note? option value
        | none => if option.required then none else some known) given.settle?
  options.filter fun completed =>
    (spec.arguments.filter fun argument => argument.form == .single).length ≤
      completed.arguments.length

end Backoffice.CommandLine
