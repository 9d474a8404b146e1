import ServiceRegistry.Proofs.Trial.StandIn

/-!
# Removals from a registry in memory

A removal drops the entry first and looks for the default address afterwards, in what remains. So a
registry that gives no listing has lost the entry when the removal stops, and the address is
registered anew exactly if no other entry admits it, whether the entry that was removed did or not.

The id of the new entry is unused as the registry is sound. So is every registry that was made of
entries with distinct ids (`Memory.sound_ofEntries`), and each step keeps it so
(`Trial.Changes.sound`).

Results:

* `Memory.without`, `Memory.removed`: the registry, and the world, without the entry of an id.
* `Memory.on_delete_unknown`, `Memory.on_delete_none`, `Memory.on_delete_known`: the three ways in
  which a removal ends.
* `Memory.delete_outcome`: what any removal gives, and what it leaves.
-/

namespace ServiceRegistry.Memory

open Database (DistinctIds Plain)
open Run (on)

/-! ## The registry without an entry -/

/-- The registry without the entry of an id, with one more request to delete it. -/
def without (memory : Memory) (id : Int) : Memory :=
  { memory with
    entries := Database.delete memory.entries id
    deletes := memory.deletes ++ [id] }

theorem remove_eq_without {memory : Memory} (distinct : DistinctIds memory.entries) (id : Int) :
    memory.remove id = memory.without id := by
  rw [remove, dropFirst_eq_delete distinct]
  rfl

/-- Where no entry has the id, only the request is left. -/
theorem without_of_unknown {memory : Memory} {id : Int}
    (unknown : id ∉ memory.entries.map Entry.id) :
    memory.without id = { memory with deletes := memory.deletes ++ [id] } := by
  rw [without, Database.delete_of_find_eq_none (Database.find_eq_none unknown)]

theorem Sound.without {memory : Memory} (sound : memory.Sound) (id : Int) :
    (memory.without id).Sound :=
  remove_eq_without sound.distinct id ▸ sound.remove id

/-- The world after the entry of an id was removed. -/
def removed (world : World Memory) (id : Int) : World Memory :=
  withMemory world (world.store.without id)

@[simp] theorem store_removed (world : World Memory) (id : Int) :
    (removed world id).store = world.store.without id := rfl

/-! ## How a removal ends -/

section Ends

variable {url : String} {world : World Memory}

theorem on_delete_unknown (distinct : DistinctIds world.store.entries) (url : String) {id : Int}
    (unknown : id ∉ world.store.entries.map Entry.id) :
    on world ((management url).delete id) =
      (.error (Management.noSuchId id), removed world id) := by
  have search : world.store.find id = none := Database.find_eq_none unknown
  rw [on_delete, search, remove_eq_without distinct]
  rfl

/-- A registry that gives no listing stops the removal after the entry was dropped. -/
theorem on_delete_none (distinct : DistinctIds world.store.entries) (url : String)
    (none : world.store.returnsNone = true) {entry : Entry} (mem : entry ∈ world.store.entries) :
    on world ((management url).delete entry.id) =
      (.error (.configuration "Services cannot be empty"), removed world entry.id) := by
  have search : world.store.find entry.id = some entry := distinct.find_eq mem
  have stops : on (removed world entry.id) (management url).ensureDefault =
      (.error (.configuration "Services cannot be empty"), removed world entry.id) := by
    rw [on_ensureDefault]
    exact if_pos none
  rw [removed] at stops ⊢
  rw [on_delete, search, remove_eq_without distinct]
  simp only [stops]

theorem on_delete_known (plain : Plain url world.store.entries)
    (lists : world.store.returnsNone = false) {entry : Entry} (mem : entry ∈ world.store.entries) :
    ∃ name, entry.name = some name ∧
      on world ((management url).delete entry.id) =
        (.ok name, defaultEnsured url (removed world entry.id)) := by
  have search : world.store.find entry.id = some entry := plain.distinct.find_eq mem
  obtain ⟨name, named⟩ := Option.isSome_iff_exists.mp (plain.complete entry mem).2
  have ensures : on (removed world entry.id) (management url).ensureDefault =
      (.ok (), defaultEnsured url (removed world entry.id)) :=
    on_ensureDefault_of_lists url lists (plain.delete entry.id).search
  refine ⟨name, named, ?_⟩
  rw [removed] at ensures ⊢
  rw [on_delete, search, remove_eq_without plain.distinct]
  simp only [ensures, Management.removedName, named]

end Ends

/-! ## The whole removal -/

/-- If all patterns can be read, the registry admits the address after it was ensured. -/
theorem on_admits_defaultEnsured {url : String} (nonempty : url ≠ "") {world : World Memory}
    (sound : world.store.Sound) (plain : Plain url world.store.entries) :
    on (defaultEnsured url world) (registry.admits url) =
      (.ok true, defaultEnsured url world) := by
  have admitted := admitted_defaultEnsured nonempty world
  have plain : Plain url (defaultEnsured url world).store.entries := by
    by_cases already : Admitted url world.store.entries
    · rwa [defaultEnsured_of_admitted already]
    · rw [defaultEnsured_of_free already]
      exact plain.append sound.nextId_notMem
  simp only [registry, Run.on_bind, Run.on_store, Run.on_lift, plain.search]
  rw [decide_eq_true admitted]

/-- A removal from a registry of well-typed entries, whose patterns can be read, under any faults.
If no entry has the id, this is reported, and only the request to delete it is left. Otherwise the
entry is dropped. If the registry gives no listing, the removal stops with this and nothing is
saved. If it does, the removal gives the name of the entry. When one of the other entries admits the
default address, nothing else changes; when none does, an entry for the address is appended under an
id that none had, and saved, with a record in the log. Unless the address is empty, the registry
admits it then. -/
theorem delete_outcome (world : World Memory) (url : String) (sound : world.store.Sound)
    (plain : Plain url world.store.entries) (id : Int) :
    let memory := world.store
    let result := on world ((management url).delete id)
    let rest := memory.without id
    (id ∉ memory.entries.map Entry.id →
      result = (.error (Management.noSuchId id),
        withMemory world { memory with deletes := memory.deletes ++ [id] })) ∧
      ∀ entry ∈ memory.entries, entry.id = id →
        (memory.returnsNone = true →
          result = (.error (.configuration "Services cannot be empty"), withMemory world rest)) ∧
        (memory.returnsNone = false →
          ∃ name, entry.name = some name ∧ result.1 = .ok name ∧
            (Admitted url rest.entries → result.2 = withMemory world rest) ∧
            (¬ Admitted url rest.entries →
              result.2 = defaultRegistered url (withMemory world rest) ∧
              result.2.store.entries =
                rest.entries ++ [newEntry memory.nextId url Management.defaultName] ∧
              memory.nextId ∉ memory.entries.map Entry.id ∧
              result.2.store.saves = memory.saves ++ [memory.nextId]) ∧
            (url ≠ "" → on result.2 (registry.admits url) = (.ok true, result.2))) := by
  intro memory result rest
  refine ⟨fun unknown => ?_, ?_⟩
  · rw [← without_of_unknown unknown]
    exact on_delete_unknown sound.distinct url unknown
  rintro entry mem rfl
  refine ⟨fun none => on_delete_none sound.distinct url none mem, fun lists => ?_⟩
  obtain ⟨name, named, ends⟩ := on_delete_known plain lists mem
  have after : result.2 = defaultEnsured url (removed world entry.id) := congrArg Prod.snd ends
  refine ⟨name, named, congrArg Prod.fst ends, fun admitted => ?_, fun free => ?_,
    fun nonempty => ?_⟩
  · rw [after, defaultEnsured_of_admitted admitted]
    rfl
  · rw [after, defaultEnsured_of_free free]
    exact ⟨rfl, rfl, sound.nextId_notMem, rfl⟩
  · rw [after]
    exact on_admits_defaultEnsured nonempty (sound.without entry.id) (plain.delete entry.id)

/-- Where the entry that is removed was the only one to admit the default address, another one comes
under the next id, also if saves of known entries are refused. -/
theorem delete_outcome_default :
    let memory := (Memory.ofEntries [newEntry 1 "u" "n", newEntry 4 "a" "m"]).withFaults false
      (some 4)
    let result := on ⟨memory, [], []⟩ ((management "u").delete 1)
    memory.Sound ∧ Plain "u" memory.entries ∧ 1 ∈ memory.entries.map Entry.id ∧
      memory.returnsNone = false ∧ result.1.toOption = some "n" ∧
      result.2.store.entries = [newEntry 4 "a" "m", newEntry 5 "u" Management.defaultName] ∧
      result.2.store.saves = [5] ∧
      on result.2 (registry.admits "u") = (.ok true, result.2) := by
  intro memory result
  have distinct : DistinctIds memory.entries := by decide +kernel
  have sound : memory.Sound := sound_ofEntries distinct false (some 4)
  have plain : Plain "u" memory.entries := by
    refine ⟨distinct, by decide +kernel, ?_⟩
    simp only [memory, withFaults, ofEntries, List.forall_mem_cons]
    exact ⟨⟨true, by rfl⟩, ⟨false, by rfl⟩, by simp⟩
  have free : ¬ Admitted "u" (memory.without 1).entries := by decide +kernel
  obtain ⟨name, named, answer, -, registered, admitted⟩ :=
    ((delete_outcome ⟨memory, [], []⟩ "u" sound plain 1).2 (newEntry 1 "u" "n")
      List.mem_cons_self rfl).2 rfl
  obtain rfl : "n" = name := Option.some.inj named
  obtain ⟨-, entries, -, saves⟩ := registered free
  exact ⟨sound, plain, by decide, rfl, congrArg Except.toOption answer, entries, saves,
    admitted (by decide)⟩

end ServiceRegistry.Memory
