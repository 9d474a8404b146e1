import ServiceRegistry.Registry.Database
import ServiceRegistry.Registry.Management

/-!
# Seeding

A seed creates the table of the registry if it does not exist, and then registers the address of the
administration in a session of its own. Between the seeds other rows may be committed.

Results:

* `seed`: registers the address of the administration in a database and makes it lasting.
* `Seeding.run`: a seed with its session.
* `Seeding.perform`, `Seeding.after`: one step, and steps one after the other.
-/

namespace ServiceRegistry

/-- Registers an address, if no entry admits it, and commits. -/
def seed (url : String) : Run Database Unit := do
  (⟨Database.registry, url⟩ : Management Database).ensureDefault
  Database.registry.commit
  Run.log ⟨.info, "app.seed", "Seed complete. Default service: " ++ url, none⟩

namespace Seeding

/-- The committed rows of the table, if it exists. -/
abbrev Table := Option (List Entry)

/-- The rows of the table; there are none before it exists. -/
def Table.rows (table : Table) : List Entry := table.getD []

/-- Creates the table, unless it exists. -/
def Table.create : Table → Table
  | none => some []
  | some rows => some rows

/-- A seed of an address. What its session did not commit is dropped when it ends. -/
def run (table : Table) (url : String) : Except Fault Unit × World Database :=
  let (result, world) := Run.on ⟨Database.ofRows table.create.rows, [], []⟩ (seed url)
  (result, { world with store := world.store.rollback })

/-- The steps: a seed of an address, and a commit of rows made from drafts. -/
inductive Step
  | seed (url : String)
  | insert (drafts : List Draft)

/-- The result of a step, and the table after it. Drafts are inserted together or not at all. -/
def perform (table : Table) : Step → Except Fault Unit × Table
  | .seed url =>
    let (result, world) := run table url
    (result, some world.store.saved)
  | .insert drafts =>
    match table with
    | none => (.error (.storage .operational), none)
    | some rows =>
      match Database.insertAll rows drafts with
      | .ok rows => (.ok (), some rows)
      | .error fault => (.error fault, some rows)

/-- The table after steps one after the other. -/
def after (table : Table) (steps : List Step) : Table :=
  steps.foldl (fun table step => (perform table step).2) table

end Seeding

end ServiceRegistry
