import ServiceRegistry.Registry.Database
import ServiceRegistry.Registry.Management

/-!
# Sessions of the database

The steps of one session: those of the administration, and those on single rows. A step that stops
with anything but one of the three refusals of the administration drops all changes since the last
commit.

Results:

* `Session.Step`: the steps.
* `Session.refuseTimes`, `Session.refuseNullTimes`: the times of a row are not given.
* `Session.perform`: a step, which leaves partial changes when it stops.
* `Session.step`: a step with its result as a value, followed by a rollback where it stopped.
* `Session.run`: steps one after the other.
-/

namespace ServiceRegistry.Session

/-- The steps of a session. -/
inductive Step
  | manage (url : String) (operation : Management.Operation)
  | add (fields : List (String × Json))
  | update (id : Int) (fields : List (String × Json))
  | find (id : Int)
  | delete (id : Int)
  | admits (url : String)
  | ids
  | listing
  | commit
  | rollback
  deriving Repr

/-- What a step gives. -/
inductive Answer
  | managed (answer : Management.Answer)
  | row (entry : Option Entry)
  | admitted (result : Bool)
  | ids (ids : List Int)
  | nothing
  deriving Repr

/-- The names of the times at which a row was made and changed. The database sets them. -/
def timeNames : List String := ["created_at", "updated_at"]

/-- Refuses given times for a row: no value that can be given is a time. Null has no effect. -/
def refuseTimes (fields : List (String × Json)) : Except Fault Unit :=
  if fields.any fun (name, value) => timeNames.contains name && !value.isNull then
    .error (.storage .statement)
  else .ok ()

/-- Refuses to clear the times of a row. -/
def refuseNullTimes (fields : List (String × Json)) : Except Fault Unit :=
  if fields.any fun (name, value) => timeNames.contains name && value.isNull then
    .error (.storage .integrity)
  else .ok ()

/-- Performs a step. -/
def perform : Step → Run Database Answer
  | .manage url operation =>
    return .managed (← (⟨Database.registry, url⟩ : Management Database).perform operation)
  | .add fields => do
    let draft ← Run.lift (Draft.ofNamed fields)
    Run.lift (refuseTimes fields)
    let (rows, row) ← Run.lift (Database.insert (← Database.rows) draft)
    Database.setRows rows
    return .row (some row)
  | .update id fields => do
    match ← Database.findRow id with
    | none => return .row none
    | some old =>
      Run.lift (refuseTimes fields)
      let (rows, row) ← Run.lift (Database.update (← Database.rows) old (Draft.known fields))
      Run.lift (refuseNullTimes fields)
      Database.setRows rows
      return .row (some row)
  | .find id => return .row (← Database.findRow id)
  | .delete id => return .row (← Database.registry.remove id)
  | .admits url => return .admitted (← Database.registry.admits url)
  | .ids => return .ids ((← Database.rows).map (·.id)).mergeSort
  | .listing => return .ids ((inListingOrder (← Database.rows)).map (·.id))
  | .commit => do
    Database.registry.commit
    return .nothing
  | .rollback => do
    Run.setStore (← Run.store).rollback
    return .nothing

/-- Whether a fault is one of the refusals of the administration. -/
def isRefusal : Fault → Bool
  | .notFound _ => true
  | .invalidRequest _ => true
  | .configuration _ => true
  | _ => false

/-- A step with its result as a value. -/
def step (step : Step) : Run Database (Except Fault Answer) := do
  match ← Run.attempt (perform step) with
  | .ok answer => return .ok answer
  | .error fault =>
    if !isRefusal fault then Run.setStore (← Run.store).rollback
    return .error fault

/-- The results of steps one after the other, with the database after each. -/
def run : Database → List Step → List (Except Fault Answer × Database)
  | _, [] => []
  | database, first :: rest =>
    let (result, world) := Run.on ⟨database, [], []⟩ (step first)
    (result.bind id, world.store) :: run world.store rest

end ServiceRegistry.Session
