import Mathlib.Tactic.SplitIfs
import ServiceRegistry.Proofs.Registry.Admission
import ServiceRegistry.Proofs.Run
import ServiceRegistry.Registry.Management
import ServiceRegistry.Registry.Memory

/-!
# The administration of a registry in memory

What each operation of the administration does over a registry in memory, with any faults: its
result and the world after it, for every world before it.

Results:

* `Memory.on_ensureDefault`, `on_manageView`, `on_list`, `on_delete`: the operations that keep the
  default address registered.
* `Memory.on_placeFrom_cons`: one step of giving ids their positions.
-/

namespace ServiceRegistry.Memory

open Run (on)

/-- The administration of a registry in memory. -/
abbrev management (url : String) : Management Memory := ⟨registry, url⟩

/-- The world with another registry. -/
def withMemory (world : World Memory) (memory : Memory) : World Memory :=
  { world with store := memory }

@[simp] theorem store_withMemory (world : World Memory) (memory : Memory) :
    (withMemory world memory).store = memory := rfl

/-- The world after the default address was registered, with a record of it. -/
def defaultRegistered (url : String) (world : World Memory) : World Memory :=
  { withMemory world (world.store.register url Management.defaultName) with
    log := world.log ++ [⟨.info, Management.loggerName, "Registering default service " ++ url,
      none⟩] }

@[simp] theorem store_defaultRegistered (url : String) (world : World Memory) :
    (defaultRegistered url world).store = world.store.register url Management.defaultName := rfl

@[simp] theorem entries_defaultRegistered (url : String) (world : World Memory) :
    (defaultRegistered url world).store.entries =
      world.store.entries ++ [newEntry world.store.nextId url Management.defaultName] := rfl

/-- The world after the default address was ensured. -/
def defaultEnsured (url : String) (world : World Memory) : World Memory :=
  if Admitted url world.store.entries then world else defaultRegistered url world

theorem defaultEnsured_of_admitted {url : String} {world : World Memory}
    (admitted : Admitted url world.store.entries) : defaultEnsured url world = world :=
  if_pos admitted

theorem defaultEnsured_of_free {url : String} {world : World Memory}
    (free : ¬ Admitted url world.store.entries) :
    defaultEnsured url world = defaultRegistered url world :=
  if_neg free

theorem admitted_defaultRegistered {url : String} (nonempty : url ≠ "") (world : World Memory) :
    Admitted url (defaultRegistered url world).store.entries :=
  ⟨newEntry world.store.nextId url Management.defaultName,
    List.mem_append_right _ (List.mem_singleton_self _), admits_newEntry nonempty _ _⟩

theorem admitted_defaultEnsured {url : String} (nonempty : url ≠ "") (world : World Memory) :
    Admitted url (defaultEnsured url world).store.entries := by
  by_cases admitted : Admitted url world.store.entries
  · rwa [defaultEnsured_of_admitted admitted]
  · rw [defaultEnsured_of_free admitted]
    exact admitted_defaultRegistered nonempty world

/-! ## Operations that keep the default address registered -/

theorem on_ensureDefault (world : World Memory) (url : String) :
    on world (management url).ensureDefault =
      if world.store.returnsNone then (.error (.configuration "Services cannot be empty"), world)
      else match anyAdmits url world.store.entries with
        | .error fault => (.error fault, world)
        | .ok true => (.ok (), world)
        | .ok false => (.ok (), defaultRegistered url world) := by
  simp only [Management.ensureDefault, registry, Run.on_bind, Run.on_store, Run.on_pure, listing]
  by_cases none : world.store.returnsNone
  · simp [none]
  · cases search : anyAdmits url world.store.entries with
    | error fault => simp [none, search]
    | ok admits =>
      cases admits with
      | true => simp [none, search]
      | false => simp [none, search, defaultRegistered, withMemory, Management.note]

/-- Without a fault, if the search does not stop, ensuring the default address succeeds. -/
theorem on_ensureDefault_of_lists {world : World Memory} (url : String)
    (lists : world.store.returnsNone = false) {admits : Bool}
    (search : anyAdmits url world.store.entries = .ok admits) :
    on world (management url).ensureDefault = (.ok (), defaultEnsured url world) := by
  have means := anyAdmits_eq_ok search
  rw [on_ensureDefault, lists, search, defaultEnsured]
  cases admits with
  | true => rw [if_pos (of_decide_eq_true means.symm)]; rfl
  | false => rw [if_neg (of_decide_eq_false means.symm)]; rfl

theorem on_manageView (world : World Memory) (url : String) :
    on world (management url).manageView =
      match on world (management url).ensureDefault with
      | (.error fault, after) => (.error fault, after)
      | (.ok _, after) => (.ok (.manage url), after) := by
  unfold Management.manageView
  rw [Run.on_bind]
  rcases on world (management url).ensureDefault with ⟨_ | _, after⟩ <;> rfl

theorem on_list (world : World Memory) (url : String) :
    on world (management url).list =
      match on world (management url).ensureDefault with
      | (.error fault, after) => (.error fault, after)
      | (.ok _, after) => ((after.store.listing.getD []).mapM Entry.project, after) := by
  unfold Management.list
  rw [Run.on_bind]
  rcases on world (management url).ensureDefault with ⟨_ | _, after⟩
  · rfl
  · simp [registry]

/-- A removal counts as asked for, whether there is an entry of the id or not. -/
theorem on_delete (world : World Memory) (url : String) (id : Int) :
    on world ((management url).delete id) =
      match world.store.find id with
      | none => (.error (Management.noSuchId id), withMemory world (world.store.remove id))
      | some entry =>
        match on (withMemory world (world.store.remove id)) (management url).ensureDefault with
        | (.error fault, after) => (.error fault, after)
        | (.ok _, after) => (Management.removedName entry, after) := by
  simp only [Management.delete, registry, Run.on_bind, Run.on_store, Run.on_setStore, Run.on_pure]
  cases world.store.find id with
  | none => rfl
  | some entry =>
    simp only [Run.on_bind, withMemory]
    rcases on ⟨world.store.remove id, world.log, world.events⟩
      (management url).ensureDefault with ⟨_ | _, after⟩
    · rfl
    · exact Run.on_lift after _

/-! ## Giving ids their positions -/

/-- A position is assigned before the save that may be refused. -/
theorem on_placeFrom_cons (world : World Memory) (url : String) (position : Nat) (id : Int)
    (rest : List Int) :
    on world ((management url).placeFrom position (id :: rest)) =
      match world.store.find id with
      | none => (.error (Management.noSuchId id), world)
      | some _ =>
        if world.store.failsOn = some id then
          (.error .registryUnavailable, withMemory world (world.store.assign id position))
        else
          on (withMemory world ((world.store.assign id position).countSave id))
            ((management url).placeFrom (position + 1) rest) := by
  simp only [Management.placeFrom, registry, Run.on_bind, Run.on_store, Run.on_pure]
  cases search : world.store.find id with
  | none => rfl
  | some entry =>
    have same : entry.id = id := by simpa using List.find?_some search
    subst same
    simp only [Run.on_bind, Run.on_store, Run.on_setStore]
    by_cases refused : world.store.failsOn = some entry.id
    · simp [assign, refused, withMemory]
    · simp [assign, refused, withMemory]

end ServiceRegistry.Memory
