import ServiceRegistry.Audit.Capture
import ServiceRegistry.Http.Cors
import ServiceRegistry.Http.ErrorPage
import ServiceRegistry.Settings

/-!
# The server

The application inside its layers. From the outside in: the answer to faults of all kinds, the
rules for other origins, the capture, the session, the answer to refusals, the routes.

Results:

* `Server.handle`: the response to a request, if there is one, with the fault behind it.
* `Server.serve`: the same in a session of its own.
-/

namespace ServiceRegistry.Http

/-- A server: what it reads forms with, the administration that it serves, where events go, and the
origins that it allows. -/
structure Server (σ : Type) where
  platform : Form.Platform
  management : Management σ
  recorder : Option Audit.Recorder
  origins : List String

namespace Server

variable {σ : Type}

/-- The application inside all layers but the outermost. -/
def layered (server : Server σ) : Request → Run σ Response :=
  Cors.around server.origins
    (Audit.capture server.recorder
      (withSession (answerRefusals (Application.dispatch server.platform server.management))))

/-- The response to a request, if there is one, with the fault that no other layer answered. -/
def handle (server : Server σ) (request : Request) : Run σ (Option Response × Option Fault) :=
  guard server.layered request

/-- The outcome of a request, which may be left without a response. -/
structure Outcome where
  response : Option Response
  raised : Option Fault
  log : List LogRecord
  events : List (String × Json)
  deriving Repr

/-- The status of the response. -/
def Outcome.status? (outcome : Outcome) : Option Nat :=
  outcome.response.map Response.status

/-- The body of the response. -/
def Outcome.body? (outcome : Outcome) : Option (List UInt8) :=
  outcome.response.map Response.body

/-- The outcome of a request in a session of its own, and the store after it. What the session did
not commit is dropped. -/
def serve (server : Server σ) (store : σ) (request : Request) : Outcome × σ :=
  let (result, world) := Run.on ⟨store, [], []⟩ (server.handle request)
  let store := server.management.registry.settle world.store
  match result with
  | .ok (response, raised) => (⟨response, raised, world.log, world.events⟩, store)
  | .error fault => (⟨none, some fault, world.log, world.events⟩, store)

/-- The outcomes of requests one after the other, with the store after each. -/
def run (server : Server σ) : σ → List Request → List (Outcome × σ)
  | _, [] => []
  | store, request :: rest =>
    let result := server.serve store request
    result :: server.run result.2 rest

end Server

end ServiceRegistry.Http
