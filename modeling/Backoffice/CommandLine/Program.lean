/-
Module: Backoffice.CommandLine.Program
Purpose: What the program does for an invocation.
Main exports: Invocation.execute, run
-/
import Backoffice.CommandLine.Invocation
import Backoffice.Form.Layout
import Backoffice.Grid.Parameters
import Backoffice.Grid.Service
import Backoffice.Sql.Statement
import Backoffice.Storage.Memory

namespace Backoffice.CommandLine

/-- Finds the text of a file by its path. -/
abbrev Files := String → Option String

/-- A failure without further causes. -/
private def failure (message : String) : Outcome := .failure message []

/-- The catalog in a file. -/
def loadCatalog (files : Files) (path : String) : Except Outcome Catalog :=
  match files path with
  | none => .error (failure ("read schema catalog: " ++ path))
  | some text =>
      match Catalog.ofText? text with
      | some catalog => .ok catalog
      | none => .error (failure ("parse schema catalog: " ++ path))

/-- The rows in a file. -/
def loadRows (files : Files) (model path : String) : Except Outcome MemoryStore :=
  match files path with
  | none => .error (failure ("read rows: " ++ path))
  | some text =>
      match Json.parse? text with
      | some source => .ok (.ofJson model source)
      | none => .error (failure ("parse rows: " ++ path))

/-- The request that arguments write; of a repeated name the last one counts. -/
def requestOf (parameters : List (String × String)) : GridRequest :=
  .ofParameters (.ofPairs parameters)

/-- Answer a grid request. -/
def runGrid (catalog : Catalog) (store : MemoryStore) (command : GridCommand) : Outcome :=
  let actions := command.actions.map fun base : String =>
    { resource := command.model
      allows := fun _ action => !command.denied.contains action.name
      build := LinkBuilder.underUrl base : ActionLinks }
  let (answer, _) := catalog.serve Storage.memory command.model store.query
    (requestOf command.parameters) actions
  match answer with
  | .ok response => .success (response.encode (.ofExtension command.format) ++ "\n")
  | .error (.catalog problem) =>
      .failure ("grid request for " ++ command.model) [problem.message]

/-- A statement with its values in a comment. -/
def printedStatement (statement : Sql.Statement) : String :=
  statement.sql ++ ";\n-- params: " ++ (Json.array statement.parameters).render ++ "\n\n"

/-- The statements that a request means. -/
def runSql (catalog : Catalog) (model : String) (parameters : List (String × String))
    (table : Option String) : Outcome :=
  match (catalog.properties model .list).1 with
  | .error problem => failure problem.message
  | .ok properties =>
      let plan := QueryPlan.compile properties (requestOf parameters)
      let base := table.getD model
      .success (String.join
        ([Sql.countAll base, Sql.countFiltered plan base, Sql.select plan base].map
          printedStatement))

/-- Carry out a command on a catalog. -/
def runCommand (files : Files) (catalog : Catalog) : Command → Outcome
  | .models => .success (String.join (catalog.models.map (· ++ "\n")))
  | .grid command =>
      match loadRows files command.model command.rows with
      | .error outcome => outcome
      | .ok store => runGrid catalog store command
  | .sql model parameters table => runSql catalog model parameters table
  | .form model =>
      match (catalog.form model).1 with
      | .error problem => failure problem.message
      | .ok form => .success (form.toJson.renderIndented ++ "\n")
  | .filters model =>
      match (catalog.filters model).1 with
      | .error problem => failure problem.message
      | .ok widgets =>
          .success ((Json.array (widgets.map Widget.toJson)).renderIndented ++ "\n")

/-- Carry out an invocation. -/
def Invocation.execute (files : Files) (invocation : Invocation) : Outcome :=
  match loadCatalog files invocation.catalog with
  | .error outcome => outcome
  | .ok catalog => runCommand files catalog invocation.command

/-- The environment of a run: the variables that are set, and those of the environment
file, if there is one. -/
def startEnvironment (environment : Environment) (environmentFile : Option String) :
    Environment :=
  match environmentFile with
  | some text => environment.load text
  | none => environment

/-- Run the program. -/
def run (files : Files) (environment : Environment) (arguments : List String) : Outcome :=
  match Invocation.read (startEnvironment environment (files ".env")) arguments with
  | .error outcome => outcome
  | .ok invocation => invocation.execute files

end Backoffice.CommandLine
