/-
Module: Backoffice.Form.Rule
Purpose: Rules for the submitted value of a field.
Main exports: Rule, Rule.ofRaw?, Rule.check, Rule.ofDeclaration, Violation, Violation.message
-/
import Backoffice.Declaration.Basic
import Backoffice.Form.Choice
import Backoffice.Text.Quoted

namespace Backoffice

/-!
A rule is declared by its name, or by an object whose single key is the name and whose
value is the rule's argument. Unknown rules, and length rules without a length, declare
nothing. Only the rule `required` looks at a missing or empty value.
-/

/-- A condition on a submitted value. -/
inductive Rule where
  | required
  | numeric
  | minLength (least : Nat)
  | maxLength (greatest : Nat)
  | inOptions (allowed : List String)
deriving DecidableEq, Repr, Inhabited

/-- How a value breaks a rule. -/
inductive Violation where
  | required
  | notNumeric
  | tooShort (least : Nat)
  | tooLong (greatest : Nat)
  | notAnOption
deriving DecidableEq, Repr, Inhabited

/-- The message of a violation by the value of a field. -/
def Violation.message (field : String) : Violation → String
  | .required => "field '" ++ field ++ "' is required"
  | .notNumeric => "field '" ++ field ++ "' must be numeric"
  | .tooShort least =>
      "field '" ++ field ++ "' must be at least " ++ toString least ++ " characters"
  | .tooLong greatest =>
      "field '" ++ field ++ "' must be at most " ++ toString greatest ++ " characters"
  | .notAnOption => "field '" ++ field ++ "' must be one of its declared options"

namespace Rule

/-- The name and the argument of a raw rule. -/
def nameAndArgument? : Json → Option (String × Option Json)
  | .text name => some (name, none)
  | .object [(name, argument)] => some (name, some argument)
  | _ => none

/-- A length given as an argument. -/
def length? : Option Json → Option Nat
  | some (.number (.integer value)) => if 0 ≤ value then some value.toNat else none
  | _ => none

/-- The rule of a raw rule in a declaration. -/
def ofRaw? (declaration : Declaration) (raw : Json) : Option Rule := do
  let (name, argument) ← nameAndArgument? raw
  if name = "required" then some .required
  else if name = "numeric" then some .numeric
  else if name = "min_length" then (length? argument).map .minLength
  else if name = "max_length" then (length? argument).map .maxLength
  else if name = "in_options" then
    (declaration.get? "options").map fun options => .inOptions (Choice.allowedValues options)
  else none

/-- The rules of a declaration: one, or an array of them. -/
def ofDeclaration (declaration : Declaration) : List Rule :=
  match declaration.get? "validation" with
  | some (.array raw) => raw.filterMap (ofRaw? declaration)
  | some single => (ofRaw? declaration single).toList
  | none => []

/-- The violation of a rule by a text that is not empty. -/
def checkText (text : String) : Rule → Option Violation
  | .required => none
  | .numeric => if (Numeric.ofText? text).isSome then none else some .notNumeric
  | .minLength least => if text.length < least then some (.tooShort least) else none
  | .maxLength greatest => if greatest < text.length then some (.tooLong greatest) else none
  | .inOptions allowed => if text ∈ allowed then none else some .notAnOption

/-- The violation of a rule by a submitted value. -/
def check (rule : Rule) (value : Option Json) : Option Violation :=
  let text := (value.map Json.display).getD ""
  if text = "" then
    match rule with
    | .required => some .required
    | _ => none
  else rule.checkText text

/-- A rule in one line, for diagnostics. -/
def describe : Rule → String
  | .required => "Required"
  | .numeric => "Numeric"
  | .minLength least => "MinLength(" ++ toString least ++ ")"
  | .maxLength greatest => "MaxLength(" ++ toString greatest ++ ")"
  | .inOptions allowed => "InOptions([" ++ ", ".intercalate (allowed.map Text.quoted) ++ "])"

end Rule

end Backoffice
