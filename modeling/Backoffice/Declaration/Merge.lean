/-
Module: Backoffice.Declaration.Merge
Purpose: Laying one declaration over another.
Main exports: Declaration.merge
-/
import Backoffice.Declaration.Basic

namespace Backoffice

/-!
The upper declaration wins. Where both have an object under a key the two objects
are merged in the same way, everything else is replaced. Keys of the lower
declaration keep their places, new keys follow in the order of the upper one.
-/

mutual

/-- What stands under a key when `incoming` is laid over `existing`. -/
def Json.mergeOver (existing : Option Json) : Json → Json
  | .object members =>
      match existing with
      | some (.object base) => .object (Json.mergeMembers base members)
      | _ => .object members
  | .null => .null
  | .bool value => .bool value
  | .number value => .number value
  | .text value => .text value
  | .array items => .array items

/-- Lay members over a base, from left to right. -/
def Json.mergeMembers (base : Json.Members) : List (String × Json) → Json.Members
  | [] => base
  | (key, value) :: rest =>
      Json.mergeMembers
        (Assoc.insert key (Json.mergeOver (Assoc.find? key base) value) base) rest

end

theorem Json.mergeOver_none (incoming : Json) : Json.mergeOver none incoming = incoming := by
  cases incoming <;> rfl

/-- The declaration `base` with `overrides` laid over it. -/
def Declaration.merge (base overrides : Declaration) : Declaration :=
  Json.mergeMembers base overrides

end Backoffice
