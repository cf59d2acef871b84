import Backoffice.Access.Action
import Backoffice.Access.Capability
import Backoffice.Access.Link
import Backoffice.Collection.Assoc
import Backoffice.Collection.Cuts
import Backoffice.Collection.NumberMap
import Backoffice.Collection.OrderedMap
import Backoffice.Collection.OrderedSet
import Backoffice.CommandLine.Arguments
import Backoffice.CommandLine.Environment
import Backoffice.CommandLine.Help
import Backoffice.CommandLine.Invocation
import Backoffice.CommandLine.Program
import Backoffice.Declaration.Basic
import Backoffice.Declaration.Merge
import Backoffice.Form.Choice
import Backoffice.Form.Layout
import Backoffice.Form.Rule
import Backoffice.Form.Validation
import Backoffice.Form.Widget
import Backoffice.Grid.Parameters
import Backoffice.Grid.Plan
import Backoffice.Grid.Predicate
import Backoffice.Grid.Relation
import Backoffice.Grid.Request
import Backoffice.Grid.Response
import Backoffice.Grid.Service
import Backoffice.Json.Basic
import Backoffice.Json.Decode
import Backoffice.Json.Document
import Backoffice.Json.Number
import Backoffice.Json.Printer
import Backoffice.Json.Token
import Backoffice.Main
import Backoffice.Model.Catalog
import Backoffice.Model.Fieldset
import Backoffice.Model.Properties
import Backoffice.Model.PropertyList
import Backoffice.Model.Purpose
import Backoffice.Model.Repeat
import Backoffice.Model.Schema
import Backoffice.Number.Double
import Backoffice.Number.Numeral
import Backoffice.Number.Shortest
import Backoffice.Problem
import Backoffice.Row.Basic
import Backoffice.Row.Cells
import Backoffice.Sql.Condition
import Backoffice.Sql.Expression
import Backoffice.Sql.Reader
import Backoffice.Sql.Script
import Backoffice.Sql.Statement
import Backoffice.Sql.Token
import Backoffice.Sql.TypeName
import Backoffice.Storage.Comparison
import Backoffice.Storage.Journal
import Backoffice.Storage.Memory
import Backoffice.Storage.Pattern
import Backoffice.Storage.Query
import Backoffice.Text.Blank
import Backoffice.Text.CaseTable
import Backoffice.Text.Lowercase
import Backoffice.Text.PrintTable
import Backoffice.Text.Quoted
import Backoffice.Text.Ranges
import Backoffice.Text.Segments
import Backoffice.Xml.Element
import Backoffice.Xml.Text
import Backoffice.Proofs.Model.CatalogHistory
import Backoffice.Proofs.Row.Parts
import Backoffice.Proofs.Row.Reading
import Backoffice.Proofs.Row.SpreadOut
import Backoffice.Proofs.Grid.PlanColumns
import Backoffice.Proofs.Grid.ReferencePage
import Backoffice.Proofs.Declaration.MergedText
import Backoffice.Proofs.Declaration.KeyPaths
import Backoffice.Proofs.Grid.PlanRelations
import Backoffice.Proofs.Grid.Paging
import Backoffice.Proofs.Grid.ColumnNumbers
import Backoffice.Proofs.Sql.Outline
import Backoffice.Proofs.Sql.SameForm
import Backoffice.Proofs.Sql.Scope
import Backoffice.Proofs.Sql.Lexeme
import Backoffice.Proofs.Sql.Formula
import Backoffice.Proofs.Sql.WhereReading
import Backoffice.Proofs.Sql.Placeholders
import Backoffice.Proofs.Form.Placement
import Backoffice.Proofs.Form.Inputs
import Backoffice.Proofs.Storage.CallSequence
import Backoffice.Proofs.Grid.Disclosure
import Backoffice.Proofs.Model.Repetition
import Backoffice.Proofs.Model.Resolution
import Backoffice.Proofs.Form.Options
import Backoffice.Proofs.Form.CheckedForm
import Backoffice.Proofs.Number.Digits
import Backoffice.Proofs.Grid.RequestReadBack
import Backoffice.Proofs.Number.Rounding
import Backoffice.Proofs.Number.Shortest
import Backoffice.Proofs.Number.ReadBack
import Backoffice.Proofs.Number.Grammar
import Backoffice.Proofs.Form.NumericRule
import Backoffice.Proofs.Number.Integer
import Backoffice.Proofs.Storage.Identifiers
import Backoffice.Proofs.Storage.IntegerMatches
import Backoffice.Proofs.Storage.QueryHistory
import Backoffice.Proofs.Xml.ResponseTree
import Backoffice.Proofs.Number.Stepwise
import Backoffice.Proofs.Json.WrittenNumbers
import Backoffice.Proofs.Json.WrittenTokens
import Backoffice.Proofs.Json.WrittenDocument
import Backoffice.Proofs.Json.Escapes
import Backoffice.Proofs.Model.ListSpelling
import Backoffice.Proofs.Model.SavedSchema
import Backoffice.Proofs.Text.FinalSigma
import Backoffice.Proofs.Storage.PatternMatching
import Backoffice.Proofs.Storage.TextSearch
import Backoffice.Proofs.Grid.AskedColumns
import Backoffice.Proofs.Grid.ParameterColumns
import Backoffice.Proofs.Grid.ParameterReading
import Backoffice.Proofs.Grid.ColumnDefaults
