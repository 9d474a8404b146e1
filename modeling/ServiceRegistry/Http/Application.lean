import ServiceRegistry.Form.Submission
import ServiceRegistry.Http.Address
import ServiceRegistry.Http.Route
import ServiceRegistry.Registry.Management

/-!
# The application

Each route reads what is submitted, asks the administration, commits, and answers with a page or a
document.

Results:

* `Reply`: a response, with what happened to the session.
* `Application.dispatch`: the reply to a request.
-/

namespace ServiceRegistry.Http

/-- What a reply did with the session. -/
inductive SessionUse
  | untouched
  | cleared
  deriving Repr, DecidableEq

/-- A response, with what happened to the session. -/
structure Reply where
  response : Response
  session : SessionUse
  deriving Repr

namespace Application

variable {σ : Type}

/-- A reply that leaves the session alone. -/
def plain (response : Response) : Reply := ⟨response, .untouched⟩

/-- Removes the entry of the submitted id. -/
def delete (platform : Form.Platform) (management : Management σ) (request : Request) :
    Run σ Response := do
  let id ← Run.lift (Form.fieldsOf platform request >>= Form.submittedId platform)
  let name ← management.delete id
  management.registry.commit
  return .json 200 (removedJson name)

/-- Gives the entries of the submitted ids their positions. -/
def reorder (platform : Form.Platform) (management : Management σ) (request : Request) :
    Run σ Response := do
  let ids ← Run.lift (Form.fieldsOf platform request >>= Form.submittedIds platform)
  management.reorder ids
  management.registry.commit
  return .blank 200

/-- Shows the table of services. -/
def manage (management : Management σ) : Run σ Response := do
  let view ← management.manageView
  management.registry.commit
  Run.lift view.render

/-- Lists the entries. -/
def listing (management : Management σ) : Run σ Response := do
  let projections ← management.list
  management.registry.commit
  return .json 200 (listingJson projections)

/-- Ends the session. -/
def logout : Run σ Reply := do
  let view ← Management.logoutView
  return ⟨← Run.lift view.render, .cleared⟩

/-- The reply of a route. The pages about the interface itself are left out: their bodies are
empty here. -/
def serve (platform : Form.Platform) (management : Management σ) (request : Request) :
    Route → Run σ Reply
  | .health => return plain (.json 200 (.object [("status", .text "ok")]))
  | .authorizationFailure => return plain (← Run.lift View.authorizationFailure.render)
  | .logout => logout
  | .delete => return plain (← delete platform management request)
  | .manage => return plain (← manage management)
  | .listing => return plain (← listing management)
  | .reorder => return plain (← reorder platform management request)
  | .documentation => return plain (.content 200 "text/html; charset=utf-8" "")

/-- The reply to a request: that of the route of its path, or a hint at the path with or without
slashes at its end. -/
def dispatch (platform : Form.Platform) (management : Management σ) (request : Request) :
    Run σ Reply :=
  match Route.ofPath? request.path with
  | some route =>
    if route.methods.contains request.method then serve platform management request route
    else throw (.refused 405 "Method Not Allowed")
  | none =>
    match slashTwin? request.path with
    | some twin => do
      let location ← Run.lift (request.location twin)
      let blank := Response.blank 307
      return plain { blank with headers := blank.headers ++ [("location", location)] }
    | none => throw (.refused 404 "Not Found")

end Application

end ServiceRegistry.Http
