/-
Module: Backoffice.Access.Link
Purpose: The links that offer actions on a record.
Main exports: ActionLink, ActionLinks, ActionLinks.links, LinkBuilder.underUrl
-/
import Backoffice.Access.Capability
import Backoffice.Json.Basic

namespace Backoffice

/-- A link that performs an action on a record. -/
structure ActionLink where
  action : Action
  url : String
  icon : String
deriving DecidableEq, Repr, Inhabited

/-- The link as JSON. -/
def ActionLink.toJson (link : ActionLink) : Json :=
  .object [("action", .text link.action.name), ("url", .text link.url),
    ("icon", .text link.icon)]

/-- Makes the link of an action on the record with an identifier. -/
abbrev LinkBuilder := Action → String → ActionLink

/-- A URL without the slashes at its end. -/
def trimSlashes (url : String) : String :=
  String.ofList (url.toList.reverse.dropWhile (· == '/')).reverse

/-- Links of the form `base/action/id`. -/
def LinkBuilder.underUrl (base : String) : LinkBuilder := fun action id =>
  { action := action
    url := trimSlashes base ++ "/" ++ action.name ++ "/" ++ id
    icon := action.icon }

/-- What the actions cell of a row needs. -/
structure ActionLinks where
  resource : String
  allows : Capability
  build : LinkBuilder

/-- The links of all allowed actions, in the order of `Action.all`. -/
def ActionLinks.links (actions : ActionLinks) (id : String) : List ActionLink :=
  (Action.all.filter (actions.allows actions.resource)).map fun action => actions.build action id

end Backoffice
