import ServiceRegistry.Registry.Basic

/-!
# A registry in memory

It keeps its entries in the order in which they were added, never gives an id twice, and counts
what it saves and is asked to delete. It can be told to fail: to give no listing, and to refuse to
save the entry of one id.

Results:

* `Memory`: what the registry keeps.
* `Memory.registry`: the requests to it.
-/

namespace ServiceRegistry

/-- The entries with the id that comes next, the ids that were saved and asked to be deleted, and
the two faults. -/
structure Memory where
  entries : List Entry
  nextId : Int
  saves : List Int
  deletes : List Int
  returnsNone : Bool
  failsOn : Option Int
  deriving Repr, DecidableEq

namespace Memory

/-- A registry of some entries, without faults. -/
def ofEntries (entries : List Entry) : Memory :=
  ⟨entries, idAfter entries, [], [], false, none⟩

/-- The registry with other faults. -/
def withFaults (memory : Memory) (returnsNone : Bool) (failsOn : Option Int) : Memory :=
  { memory with returnsNone, failsOn }

/-- Changes the first entry of an id. -/
def changeFirst (id : Int) (change : Entry → Entry) : List Entry → List Entry
  | [] => []
  | entry :: rest =>
    if entry.id = id then change entry :: rest else entry :: changeFirst id change rest

/-- Drops the first entry of an id. -/
def dropFirst (id : Int) : List Entry → List Entry
  | [] => []
  | entry :: rest => if entry.id = id then rest else entry :: dropFirst id rest

/-- The entries in listing order, unless the registry gives no listing. -/
def listing (memory : Memory) : Option (List Entry) :=
  if memory.returnsNone then none else some (inListingOrder memory.entries)

/-- The first entry of an id. -/
def find (memory : Memory) (id : Int) : Option Entry :=
  memory.entries.find? (·.id = id)

/-- Adds an entry under the next id and counts it as saved. -/
def register (memory : Memory) (pattern name : String) : Memory :=
  { memory with
    entries := memory.entries ++ [newEntry memory.nextId pattern name]
    nextId := memory.nextId + 1
    saves := memory.saves ++ [memory.nextId] }

/-- Gives the first entry of an id a position. -/
def assign (memory : Memory) (id position : Int) : Memory :=
  { memory with
    entries := changeFirst id (fun entry => { entry with evaluationOrder := position })
      memory.entries }

/-- Counts an entry as saved. -/
def countSave (memory : Memory) (id : Int) : Memory :=
  { memory with saves := memory.saves ++ [id] }

/-- Drops the first entry of an id and counts the request. -/
def remove (memory : Memory) (id : Int) : Memory :=
  { memory with entries := dropFirst id memory.entries, deletes := memory.deletes ++ [id] }

/-- The requests to a registry in memory. A position is assigned before the save that may be
refused. -/
def registry : Registry Memory where
  listing := do return (← Run.store).listing
  find id := do return (← Run.store).find id
  register pattern name := do Run.setStore ((← Run.store).register pattern name)
  place entry position := do
    let memory := (← Run.store).assign entry.id position
    Run.setStore memory
    if memory.failsOn = some entry.id then throw .registryUnavailable
    Run.setStore (memory.countSave entry.id)
  remove id := do
    let memory ← Run.store
    Run.setStore (memory.remove id)
    return memory.find id
  admits url := do Run.lift (anyAdmits url (← Run.store).entries)
  commit := pure ()
  settle := id

end Memory

end ServiceRegistry
