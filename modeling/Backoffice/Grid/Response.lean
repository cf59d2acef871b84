/-
Module: Backoffice.Grid.Response
Purpose: The answer to a grid request, and its encodings.
Main exports: GridResponse, GridResponse.toJson, OutputFormat, GridResponse.encode
-/
import Backoffice.Text.Blank
import Backoffice.Xml.Element

namespace Backoffice

/-- The cells of a page with the counts that the grid shows. -/
structure GridResponse where
  echo : Option String
  total : Nat
  filtered : Nat
  rows : List (List Json)
deriving Inhabited

/-- How an answer is written. -/
inductive OutputFormat where
  | json
  | xml
deriving DecidableEq, Repr, Inhabited

namespace OutputFormat

/-- The format of a file extension, with or without points before it and in any case of
letters; anything that is not supported is JSON. -/
def ofExtension (extension : String) : OutputFormat :=
  let name := String.ofList (extension.toList.dropWhile (· == '.'))
  if Text.lowerAscii name = "xml" then .xml else .json

/-- The media type of a format. -/
def contentType : OutputFormat → String
  | .json => "application/json"
  | .xml => "application/xml"

end OutputFormat

namespace GridResponse

/-- The answer under the names that the grid widget expects. -/
def toJson (response : GridResponse) : Json :=
  .object
    [("sEcho", .ofOption Json.text response.echo),
      ("iTotalRecords", .ofNat response.total),
      ("iTotalDisplayRecords", .ofNat response.filtered),
      ("aaData", .array (response.rows.map Json.array))]

/-- The text of an answer in a format. -/
def encode (response : GridResponse) : OutputFormat → String
  | .json => response.toJson.render
  | .xml => Xml.document response.toJson

end GridResponse

end Backoffice
