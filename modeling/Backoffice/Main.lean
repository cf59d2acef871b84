/-
Module: Backoffice.Main
Purpose: The command line.
Main exports: main
-/
import Backoffice.CommandLine.Program

open Backoffice
open Backoffice.CommandLine

/-- The text of a file; none when it cannot be read. -/
def readText (path : String) : IO (Option String) := do
  try
    return some (← IO.FS.readFile path)
  catch _ =>
    return none

/-- Read environment variables; those that are not set are left out. -/
def readVariables (names : List String) : IO Environment := do
  let mut environment : Environment := .empty
  for name in names do
    if let some value ← IO.getEnv name then
      environment := environment.insert name value
  return environment

/-- Print an outcome, and give the exit code. -/
def report (outcome : Outcome) : IO UInt32 := do
  match outcome with
  | .success output =>
      IO.print output
      return 0
  | .mistake =>
      IO.eprintln "error: the arguments cannot be read; see --help"
      return 2
  | .failure message causes =>
      IO.eprintln ("Error: " ++ message)
      for cause in causes do
        IO.eprintln ("Caused by: " ++ cause)
      return 1

/-- Run the program on its arguments. -/
def main (arguments : List String) : IO UInt32 := do
  let environmentFile ← readText ".env"
  let known ← readVariables
    (["SCAFFOLD_CATALOG", "SCAFFOLD_ROWS"] ++ Environment.mentioned (environmentFile.getD ""))
  let environment := startEnvironment known environmentFile
  match Invocation.read environment arguments with
  | .error outcome => report outcome
  | .ok invocation =>
      let contents ← invocation.paths.mapM fun path => return (path, ← readText path)
      let files : Files := fun path => (Assoc.find? path contents).join
      report (invocation.execute files)
