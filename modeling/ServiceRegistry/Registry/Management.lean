import ServiceRegistry.Page
import ServiceRegistry.Registry.Basic

/-!
# Management of the registry

The administration lists, removes and reorders entries, and keeps its own address registered, so
that nobody can be locked out of it.

Results:

* `Management.ensureDefault`: registers the address of the administration if no entry admits it.
* `Management.list`, `Management.delete`, `Management.reorder`: the operations of the pages.
* `Management.perform`: one operation by its name.
-/

namespace ServiceRegistry

/-- The administration of a registry, with its own address. -/
structure Management (σ : Type) where
  registry : Registry σ
  defaultUrl : String

namespace Management

variable {σ : Type}

/-- The name of the entry that the administration registers for itself. -/
def defaultName : String := "Services Management Web Application"

/-- The name of the logger of the administration. -/
def loggerName : String := "app.services.services_management_service"

/-- Adds a record to the log of the administration. -/
def note (level : LogLevel) (message : String) : Run σ Unit :=
  Run.log ⟨level, loggerName, message, none⟩

/-- Refuses an id that no entry has. -/
def noSuchId (id : Int) : Fault :=
  .notFound ("Service id " ++ String.ofList (Number.intText id) ++ " cannot be found.")

/-- Registers the address of the administration, unless an entry admits it. -/
def ensureDefault (management : Management σ) : Run σ Unit := do
  match ← management.registry.listing with
  | none => throw (.configuration "Services cannot be empty")
  | some _ =>
    if !(← management.registry.admits management.defaultUrl) then
      note .info ("Registering default service " ++ management.defaultUrl)
      management.registry.register management.defaultUrl defaultName

/-- The view after a session was ended. -/
def logoutView : Run σ View := do
  note .debug "Invalidating application session..."
  return .logout

/-- The name of an entry that was removed. -/
def removedName (entry : Entry) : Except Fault String :=
  match entry.name with
  | some name => .ok name
  | none =>
    .error (.invalidRecord "DeleteServiceResponse" [⟨.textKind, [.key "service_name"], .null⟩])

/-- Removes the entry of an id and gives its name. -/
def delete (management : Management σ) (id : Int) : Run σ String := do
  match ← management.registry.remove id with
  | none => throw (noSuchId id)
  | some entry =>
    management.ensureDefault
    Run.lift (removedName entry)

/-- The projections of all entries in listing order. -/
def list (management : Management σ) : Run σ (List Projection) := do
  management.ensureDefault
  let entries ← management.registry.listing
  Run.lift ((entries.getD []).mapM Entry.project)

/-- The view of the table of services. -/
def manageView (management : Management σ) : Run σ View := do
  management.ensureDefault
  return .manage management.defaultUrl

/-- Gives the entries of some ids the positions from a first one on, one after the other. -/
def placeFrom (management : Management σ) : Nat → List Int → Run σ Unit
  | _, [] => pure ()
  | position, id :: rest => do
    match ← management.registry.find id with
    | none => throw (noSuchId id)
    | some entry =>
      management.registry.place entry position
      management.placeFrom (position + 1) rest

/-- Gives the entries of some ids the positions that the ids have among them. -/
def reorder (management : Management σ) : Option (List Int) → Run σ Unit
  | none => throw (.invalidRequest "No service id was received. Re-examine the request")
  | some [] => throw (.invalidRequest "No service id was received. Re-examine the request")
  | some ids => management.placeFrom 0 ids

/-! ## Operations by name -/

/-- The operations of the administration. -/
inductive Operation
  | ensure
  | list
  | manage
  | authorizationFailure
  | logout
  | delete (id : Int)
  | reorder (ids : Option (List Int))
  deriving Repr, DecidableEq

/-- What an operation gives. -/
inductive Answer
  | nothing
  | listing (projections : List Projection)
  | view (view : View)
  | removed (name : String)
  deriving Repr

/-- Performs an operation. -/
def perform (management : Management σ) : Operation → Run σ Answer
  | .ensure => do
    management.ensureDefault
    return .nothing
  | .list => return .listing (← management.list)
  | .manage => return .view (← management.manageView)
  | .authorizationFailure => return .view .authorizationFailure
  | .logout => return .view (← logoutView)
  | .delete id => return .removed (← management.delete id)
  | .reorder ids => do
    management.reorder ids
    return .nothing

end Management

end ServiceRegistry
