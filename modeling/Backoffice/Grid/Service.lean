/-
Module: Backoffice.Grid.Service
Purpose: Answering grid requests.
Main exports: ServiceProblem, Catalog.serve
-/
import Backoffice.Grid.Response
import Backoffice.Model.Catalog
import Backoffice.Row.Cells
import Backoffice.Storage.Query

namespace Backoffice

/-- Why a grid request has no answer. -/
inductive ServiceProblem (ε : Type) where
  | catalog (problem : Problem)
  | storage (failure : ε)
deriving Inhabited

/-- The message of a problem, given that of a storage failure. -/
def ServiceProblem.message {ε : Type} (describe : ε → String) : ServiceProblem ε → String
  | .catalog problem => problem.message
  | .storage failure => "grid query failed: " ++ describe failure

/-- The answer that a page of rows gives to a request. -/
def GridRequest.respond (request : GridRequest) (properties : Properties)
    (actions : Option ActionLinks) (page : Page Row) : GridResponse where
  echo := request.echo
  total := page.total
  filtered := page.filtered
  rows := page.rows.map (Row.cells properties actions)

/-- Answer a request for a model from a storage: compile the model's list against the
request, run the plan and shape every row. A model without a valid list is refused
before the storage is asked anything. -/
def Catalog.serve {σ ε : Type} (catalog : Catalog) (storage : Storage σ Row ε)
    (model : String) (query : σ) (request : GridRequest) (actions : Option ActionLinks) :
    Except (ServiceProblem ε) GridResponse × Catalog × σ :=
  match catalog.properties model .list with
  | (.error problem, catalog) => (.error (.catalog problem), catalog, query)
  | (.ok properties, catalog) =>
      match storage.run (.compile properties request) query with
      | (.error failure, query) => (.error (.storage failure), catalog, query)
      | (.ok page, query) => (.ok (request.respond properties actions page), catalog, query)

end Backoffice
