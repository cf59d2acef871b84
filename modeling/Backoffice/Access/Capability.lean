/-
Module: Backoffice.Access.Capability
Purpose: What the current user may do.
Main exports: Capability, Capability.require
-/
import Backoffice.Problem

namespace Backoffice

/-- Tells for a resource and an action whether the current user may perform it. -/
abbrev Capability := String → Action → Bool

/-- Refuse an action that is not allowed. -/
def Capability.require (allows : Capability) (resource : String) (action : Action) :
    Except Problem Unit :=
  if allows resource action then .ok () else .error (.denied resource action)

end Backoffice
