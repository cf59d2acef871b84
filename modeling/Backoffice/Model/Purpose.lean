/-
Module: Backoffice.Model.Purpose
Purpose: What a selection of fields is declared for.
Main exports: Purpose, Purpose.name, Purpose.decoder
-/
import Backoffice.Json.Decode

namespace Backoffice

/-- The uses of a model's fields. -/
inductive Purpose where
  | list
  | form
  | view
deriving DecidableEq, Repr, Inhabited

namespace Purpose

/-- All purposes. -/
def all : List Purpose := [.list, .form, .view]

/-- The name of a purpose. -/
def name : Purpose → String
  | .list => "list"
  | .form => "form"
  | .view => "view"

/-- The purpose with this name. -/
def ofName? (name : String) : Option Purpose :=
  all.find? fun purpose => purpose.name = name

/-- Reads a purpose by its name. -/
def decoder : Json.Decoder Purpose := Json.Decoder.word? ofName?

end Purpose

end Backoffice
