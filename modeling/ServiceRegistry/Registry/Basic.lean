import ServiceRegistry.Logging
import ServiceRegistry.Projection

/-!
# Registries

What the administration asks of a registry, whatever keeps its entries. An operation works on a
world, which holds what the registry keeps beside the log and the events that were recorded. An
operation that stops with a fault leaves the changes made before it in the world.

Results:

* `Run`: operations.
* `Registry`: the requests to a registry.
-/

namespace ServiceRegistry

/-- What a registry keeps, with the log records and the recorded events in their order. -/
structure World (σ : Type) where
  store : σ
  log : List LogRecord
  events : List (String × Json)

/-- An operation on a world, which may stop with a fault. -/
abbrev Run (σ α : Type) := ExceptT Fault (StateM (World σ)) α

namespace Run

variable {σ α : Type}

/-- The result of an operation in a world, and the world after it. -/
def on (world : World σ) (operation : Run σ α) : Except Fault α × World σ :=
  operation.run.run world

/-- Goes on with a result that needs no world. -/
def lift (result : Except Fault α) : Run σ α :=
  match result with
  | .ok a => pure a
  | .error fault => throw fault

/-- What the registry keeps. -/
def store : Run σ σ := do
  return (← getThe (World σ)).store

/-- Replaces what the registry keeps. -/
def setStore (store : σ) : Run σ Unit :=
  modifyThe (World σ) fun world => { world with store }

/-- Adds a log record. -/
def log (record : LogRecord) : Run σ Unit :=
  modifyThe (World σ) fun world => { world with log := world.log ++ [record] }

/-- Records an event in a data set. -/
def record (dataset : String) (event : Json) : Run σ Unit :=
  modifyThe (World σ) fun world => { world with events := world.events ++ [(dataset, event)] }

/-- The result of an operation as a value: it does not stop. -/
def attempt (operation : Run σ α) : Run σ (Except Fault α) :=
  tryCatch (Except.ok <$> operation) fun fault => pure (.error fault)

end Run

/-- The requests to a registry. `listing` gives the entries in listing order, or nothing when the
registry fails to. `register` adds an entry with a pattern and a name, `place` gives an entry that
was found a position, `commit` makes changes lasting, and `settle` is what is kept of a store when
its session ends. -/
structure Registry (σ : Type) where
  listing : Run σ (Option (List Entry))
  find : Int → Run σ (Option Entry)
  register : String → String → Run σ Unit
  place : Entry → Int → Run σ Unit
  remove : Int → Run σ (Option Entry)
  admits : String → Run σ Bool
  commit : Run σ Unit
  settle : σ → σ

/-- A new entry with a pattern and a name, and the defaults in all other fields. -/
def newEntry (id : Int) (pattern name : String) : Entry :=
  ⟨id, some pattern, some name, none, none, 0, true, true, false, false⟩

/-- The greatest id of some entries. -/
def greatestId? : List Entry → Option Int
  | [] => none
  | entry :: rest =>
    match greatestId? rest with
    | some id => some (max entry.id id)
    | none => some entry.id

/-- One more than the greatest id, or one when there are no entries. -/
def idAfter (entries : List Entry) : Int :=
  match greatestId? entries with
  | some id => id + 1
  | none => 1

end ServiceRegistry
