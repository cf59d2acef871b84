/-
Module: Backoffice.Access.Action
Purpose: The actions on a record.
Main exports: Action, Action.all, Action.name, Action.icon
-/

namespace Backoffice

/-- What a user can do with a record. -/
inductive Action where
  | view
  | edit
  | delete
deriving DecidableEq, Repr, Inhabited

namespace Action

/-- All actions in the order in which they are offered. -/
def all : List Action := [.view, .edit, .delete]

/-- The name of an action in links and messages. -/
def name : Action → String
  | .view => "view"
  | .edit => "edit"
  | .delete => "delete"

/-- The icon classes of an action's link. -/
def icon : Action → String
  | .view => "glyphicon glyphicon-eye-open"
  | .edit => "glyphicon glyphicon-edit"
  | .delete => "glyphicon glyphicon-remove text-danger"

/-- The action with this name. -/
def ofName? (name : String) : Option Action :=
  all.find? fun action => action.name = name

end Action

end Backoffice
