/-
Module: Backoffice.Problem
Purpose: Why an operation of the library refuses.
Main exports: Problem, Problem.message, Problem.isConfiguration
-/
import Backoffice.Access.Action

namespace Backoffice

/-- The causes of a refusal. -/
inductive Problem where
  /-- Two fields or fieldsets share a name. -/
  | duplicateIdentifier (name : String)
  /-- No model of this name is registered. -/
  | unknownModel (name : String)
  /-- A model has no record with this identifier. -/
  | notFound (model id : String)
  /-- The user may not perform an action. -/
  | denied (resource : String) (action : Action)
deriving DecidableEq, Repr, Inhabited

namespace Problem

/-- The message of a problem. -/
def message : Problem → String
  | .duplicateIdentifier name =>
      "another field or fieldset already exists with identifier '" ++ name ++ "'"
  | .unknownModel name => "model '" ++ name ++ "' is not registered"
  | .notFound model id => model ++ " with id " ++ id ++ " not found"
  | .denied resource action => "not authorized to " ++ action.name ++ " " ++ resource

/-- Whether the declarations are at fault, not the request. -/
def isConfiguration : Problem → Bool
  | .duplicateIdentifier _ => true
  | .unknownModel _ => true
  | .notFound _ _ => false
  | .denied _ _ => false

end Problem

end Backoffice
