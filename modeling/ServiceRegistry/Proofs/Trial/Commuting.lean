import ServiceRegistry.Proofs.Trial.Removal
import ServiceRegistry.Proofs.Trial.Reordering

/-!
# Operations in either order

Two removals, or a removal and a reordering by other ids, can be exchanged. The default address may
be registered after the first operation in one order and after the second in the other. This makes
no difference: while the address is not admitted it is registered under the same id at either time,
and an entry that was registered in between is neither removed nor moved by what follows.

Results:

* `Memory.Healthy`: a registry in which operations on known ids come to their end.
* `Memory.Matching`: worlds whose registries have the same entries.
* `Memory.defaultEnsured_removed`, `Memory.matching_reordered`: the address may as well be ensured
  after a removal or a reordering.
* `Memory.Interchangeable`: two operations that give and leave the same in either order.
* `Memory.operations_interchangeable`: the operations on different ids.
-/

namespace ServiceRegistry.Memory

open Database (DistinctIds Plain)
open Run (on)

/-! ## Registries without faults -/

/-- A registry without faults of well-typed entries, none of whose patterns stops the search for the
default address. -/
structure Healthy (url : String) (memory : Memory) : Prop where
  sound : memory.Sound
  plain : Plain url memory.entries
  lists : memory.returnsNone = false
  accepts : memory.failsOn = none

namespace Healthy

variable {url : String} {memory : Memory}

theorem without (healthy : Healthy url memory) (id : Int) : Healthy url (memory.without id) :=
  ⟨healthy.sound.without id, healthy.plain.delete id, healthy.lists, healthy.accepts⟩

theorem register (healthy : Healthy url memory) :
    Healthy url (memory.register url Management.defaultName) :=
  ⟨healthy.sound.register _ _, healthy.plain.append healthy.sound.nextId_notMem, healthy.lists,
    healthy.accepts⟩

theorem defaultEnsured {world : World Memory} (healthy : Healthy url world.store) :
    Healthy url (defaultEnsured url world).store := by
  by_cases admitted : Admitted url world.store.entries
  · rwa [defaultEnsured_of_admitted admitted]
  · rw [defaultEnsured_of_free admitted]
    exact healthy.register

theorem reordered (healthy : Healthy url memory) (ids : List Int) :
    Healthy url (memory.reordered ids) := by
  have moved : Reorders ids memory.entries (memory.reordered ids).entries :=
    reorders_reordered memory ids
  exact ⟨healthy.sound.reorders moved rfl, healthy.plain.reorders moved, healthy.lists,
    healthy.accepts⟩

end Healthy

/-! ## Worlds that match -/

/-- Two worlds whose registries have the same entries and give the same id next, with the same log.
They may have saved and been asked to delete in another order. -/
structure Matching (a b : World Memory) : Prop where
  entries : a.store.entries = b.store.entries
  nextId : a.store.nextId = b.store.nextId
  log : a.log = b.log

namespace Matching

variable {a b c : World Memory}

theorem trans (first : Matching a b) (second : Matching b c) : Matching a c :=
  ⟨first.entries.trans second.entries, first.nextId.trans second.nextId,
    first.log.trans second.log⟩

theorem defaultEnsured (same : Matching a b) (url : String) :
    Matching (defaultEnsured url a) (defaultEnsured url b) := by
  by_cases admitted : Admitted url a.store.entries
  · rw [defaultEnsured_of_admitted admitted, defaultEnsured_of_admitted (same.entries ▸ admitted)]
    exact same
  · rw [defaultEnsured_of_free admitted, defaultEnsured_of_free (same.entries ▸ admitted)]
    constructor
    · rw [entries_defaultRegistered, entries_defaultRegistered, same.entries, same.nextId]
    · exact congrArg (· + 1) same.nextId
    · exact congrArg (· ++ _) same.log

end Matching

/-! ## The default address in between -/

section Between

variable {url : String} {world : World Memory}

/-- An entry that is registered meanwhile is not the one that is removed. -/
theorem removed_defaultRegistered {id : Int} (other : id ≠ world.store.nextId) (url : String) :
    removed (defaultRegistered url world) id = defaultRegistered url (removed world id) := by
  have kept : Database.delete [newEntry world.store.nextId url Management.defaultName] id =
      [newEntry world.store.nextId url Management.defaultName] := by
    refine List.filter_eq_self.mpr fun entry mem => decide_eq_true ?_
    rw [List.mem_singleton.mp mem]
    exact other.symm
  have entries : Database.delete (world.store.entries ++
      [newEntry world.store.nextId url Management.defaultName]) id =
        Database.delete world.store.entries id ++
          [newEntry world.store.nextId url Management.defaultName] := by
    rw [Database.delete, List.filter_append]
    exact congrArg _ kept
  simp only [removed, defaultRegistered, withMemory, without, register, entries]

/-- Before a removal, the default address need not be ensured. -/
theorem defaultEnsured_removed (nonempty : url ≠ "") {id : Int}
    (other : id ≠ world.store.nextId) :
    defaultEnsured url (removed (defaultEnsured url world) id) =
      defaultEnsured url (removed world id) := by
  by_cases admitted : Admitted url world.store.entries
  · rw [defaultEnsured_of_admitted admitted]
  · have still : ¬ Admitted url (removed world id).store.entries := by
      rintro ⟨entry, mem, admits⟩
      exact admitted ⟨entry, (List.mem_filter.mp mem).1, admits⟩
    rw [defaultEnsured_of_free admitted, removed_defaultRegistered other,
      defaultEnsured_of_admitted (admitted_defaultRegistered nonempty _),
      defaultEnsured_of_free still]

/-- It does not matter whether the default address is ensured before a reordering or after it. -/
theorem matching_reordered {ids : List Int} (other : world.store.nextId ∉ ids) (url : String) :
    Matching
      (withMemory (defaultEnsured url world) ((defaultEnsured url world).store.reordered ids))
      (defaultEnsured url (withMemory world (world.store.reordered ids))) := by
  have moved := (reorders_reordered world.store ids).admitted_iff url
  by_cases admitted : Admitted url world.store.entries
  · rw [defaultEnsured_of_admitted admitted, defaultEnsured_of_admitted (moved.mpr admitted)]
    exact ⟨rfl, rfl, rfl⟩
  · have still : ¬ Admitted url (withMemory world (world.store.reordered ids)).store.entries :=
      fun again => admitted (moved.mp again)
    rw [defaultEnsured_of_free admitted, defaultEnsured_of_free still]
    refine ⟨?_, rfl, rfl⟩
    have stays : (newEntry world.store.nextId url Management.defaultName).positioned 0 ids =
        newEntry world.store.nextId url Management.defaultName :=
      Entry.positioned_of_notMem other
    rw [store_withMemory, entries_reordered, entries_defaultRegistered, List.map_append,
      entries_defaultRegistered, store_withMemory, entries_reordered, List.map_singleton, stays]
    rfl

theorem matching_removed_removed (world : World Memory) (i j : Int) :
    Matching (removed (removed world i) j) (removed (removed world j) i) :=
  ⟨List.filter_comm _ _ _, rfl, rfl⟩

theorem matching_removed_reordered (world : World Memory) (id : Int) (ids : List Int) :
    Matching (withMemory (removed world id) ((removed world id).store.reordered ids))
      (removed (withMemory world (world.store.reordered ids)) id) := by
  refine ⟨?_, rfl, rfl⟩
  show ((world.store.without id).reordered ids).entries =
    Database.delete (world.store.reordered ids).entries id
  rw [entries_reordered, entries_reordered, Database.delete, List.filter_map]
  simp only [Function.comp_def, Entry.id_positioned]
  rfl

end Between

/-! ## Two operations -/

/-- Two operations succeed with the same results in either order, and leave matching worlds. -/
def Interchangeable {α β : Type} (first : Run Memory α) (second : Run Memory β)
    (world : World Memory) : Prop :=
  ∃ a b after after',
    on world (do let a ← first; let b ← second; return (a, b)) = (.ok (a, b), after) ∧
    on world (do let b ← second; let a ← first; return (a, b)) = (.ok (a, b), after') ∧
    Matching after after'

theorem on_both {α β γ : Type} {first : Run Memory α} {second : Run Memory β}
    {world middle after : World Memory} {a : α} {b : β} (one : on world first = (.ok a, middle))
    (two : on middle second = (.ok b, after)) (f : α → β → γ) :
    on world (do let a ← first; let b ← second; return f a b) = (.ok (f a b), after) := by
  simp only [Run.on_bind, one, two, Run.on_pure]

theorem mem_defaultEnsured {world : World Memory} {entry : Entry}
    (mem : entry ∈ world.store.entries) (url : String) :
    entry ∈ (defaultEnsured url world).store.entries := by
  by_cases admitted : Admitted url world.store.entries
  · rwa [defaultEnsured_of_admitted admitted]
  · rw [defaultEnsured_of_free admitted]
    exact List.mem_append_left _ mem

section Operations

variable {url : String} {world : World Memory}

/-- Two removals, one after the other, ensure the default address once at the end. -/
theorem on_delete_delete (healthy : Healthy url world.store) (nonempty : url ≠ "")
    {first second : Entry} (known : first ∈ world.store.entries)
    (known' : second ∈ world.store.entries) (other : first.id ≠ second.id) {γ : Type}
    (f : String → String → γ) :
    ∃ name name', first.name = some name ∧ second.name = some name' ∧
      on world (do
        let a ← (management url).delete first.id
        let b ← (management url).delete second.id
        return f a b) =
      (.ok (f name name'), defaultEnsured url (removed (removed world first.id) second.id)) := by
  obtain ⟨name, named, one⟩ := on_delete_known healthy.plain healthy.lists known
  have rest : second ∈ (removed world first.id).store.entries :=
    List.mem_filter.mpr ⟨known', decide_eq_true other.symm⟩
  have healthy' : Healthy url (defaultEnsured url (removed world first.id)).store :=
    Healthy.defaultEnsured (healthy.without first.id)
  obtain ⟨name', named', two⟩ :=
    on_delete_known healthy'.plain healthy'.lists (mem_defaultEnsured rest url)
  have old : second.id ≠ (removed world first.id).store.nextId :=
    Int.ne_of_lt (healthy.sound.below second known')
  rw [defaultEnsured_removed nonempty old] at two
  exact ⟨name, name', named, named', on_both one two f⟩

theorem on_delete_reorder (healthy : Healthy url world.store) {entry : Entry}
    (mem : entry ∈ world.store.entries) {ids : List Int} (filled : ids ≠ [])
    (known : ∀ id ∈ ids, id ∈ world.store.entries.map Entry.id ∧ id ≠ entry.id) :
    let middle := defaultEnsured url (removed world entry.id)
    ∃ name, entry.name = some name ∧
      on world (do
        let a ← (management url).delete entry.id
        let b ← (management url).reorder ids
        return (a, b)) =
      (.ok (name, ()), withMemory middle (middle.store.reordered ids)) := by
  intro middle
  obtain ⟨name, named, removes⟩ := on_delete_known healthy.plain healthy.lists mem
  have healthy' : Healthy url middle.store := Healthy.defaultEnsured (healthy.without entry.id)
  have known' : ∀ id ∈ ids, id ∈ middle.store.entries.map Entry.id := by
    intro id given
    obtain ⟨present, other⟩ := known id given
    obtain ⟨row, found, rfl⟩ := List.mem_map.mp present
    have kept : row ∈ (removed world entry.id).store.entries :=
      List.mem_filter.mpr ⟨found, decide_eq_true other⟩
    exact List.mem_map_of_mem (mem_defaultEnsured kept url)
  have moves := on_reorder_known middle healthy'.sound.distinct healthy'.accepts url filled known'
  exact ⟨name, named, on_both removes moves fun a b => (a, b)⟩

theorem on_reorder_delete (healthy : Healthy url world.store) {entry : Entry}
    (mem : entry ∈ world.store.entries) {ids : List Int} (filled : ids ≠ [])
    (known : ∀ id ∈ ids, id ∈ world.store.entries.map Entry.id ∧ id ≠ entry.id) :
    let middle := withMemory world (world.store.reordered ids)
    ∃ name, entry.name = some name ∧
      on world (do
        let b ← (management url).reorder ids
        let a ← (management url).delete entry.id
        return (a, b)) =
      (.ok (name, ()), defaultEnsured url (removed middle entry.id)) := by
  intro middle
  have moves := on_reorder_known world healthy.sound.distinct healthy.accepts url filled
    fun id given => (known id given).1
  have healthy' : Healthy url middle.store := healthy.reordered ids
  have stays : entry.positioned 0 ids = entry :=
    Entry.positioned_of_notMem fun given => (known entry.id given).2 rfl
  have mem' : entry ∈ middle.store.entries := by
    rw [store_withMemory, entries_reordered]
    exact List.mem_map.mpr ⟨entry, mem, stays⟩
  obtain ⟨name, named, removes⟩ := on_delete_known healthy'.plain healthy'.lists mem'
  exact ⟨name, named, on_both moves removes fun b a => (a, b)⟩

/-- In a healthy registry any two entries can be removed in either order, and an entry can be
removed before or after a reordering by other ids: all operations succeed and give the same, and the
same entries are left in the same order, with the same entry for the default address where one was
registered. -/
theorem operations_interchangeable (healthy : Healthy url world.store) (nonempty : url ≠ "") :
    (∀ i ∈ world.store.entries.map Entry.id, ∀ j ∈ world.store.entries.map Entry.id, i ≠ j →
      Interchangeable ((management url).delete i) ((management url).delete j) world) ∧
    (∀ i ∈ world.store.entries.map Entry.id, ∀ ids : List Int, ids ≠ [] →
      (∀ id ∈ ids, id ∈ world.store.entries.map Entry.id ∧ id ≠ i) →
      Interchangeable ((management url).delete i) ((management url).reorder (some ids)) world) := by
  constructor
  · intro i hi j hj other
    obtain ⟨first, known, rfl⟩ := List.mem_map.mp hi
    obtain ⟨second, known', rfl⟩ := List.mem_map.mp hj
    obtain ⟨a, b, named, named', forth⟩ :=
      on_delete_delete healthy nonempty known known' other fun a b => (a, b)
    obtain ⟨b', a', again', again, back⟩ :=
      on_delete_delete healthy nonempty known' known other.symm fun b a => (a, b)
    obtain rfl : a = a' := Option.some.inj (named.symm.trans again)
    obtain rfl : b = b' := Option.some.inj (named'.symm.trans again')
    exact ⟨a, b, _, _, forth, back, (matching_removed_removed world _ _).defaultEnsured url⟩
  · intro i hi ids filled known
    obtain ⟨entry, mem, rfl⟩ := List.mem_map.mp hi
    obtain ⟨name, named, forth⟩ := on_delete_reorder healthy mem filled known
    obtain ⟨name', named', back⟩ := on_reorder_delete healthy mem filled known
    obtain rfl : name = name' := Option.some.inj (named.symm.trans named')
    have other : (removed world entry.id).store.nextId ∉ ids := by
      intro given
      exact healthy.sound.nextId_notMem (known _ given).1
    have same := (matching_reordered other url).trans
      ((matching_removed_reordered world entry.id ids).defaultEnsured url)
    exact ⟨name, (), _, _, forth, back, same⟩

/-- Two entries admit the default address: after the first of them was removed the other one still
does, and after both were removed a new one comes under the same id in either order. -/
theorem operations_interchangeable_default :
    let memory := Memory.ofEntries [newEntry 1 "u" "n", newEntry 4 "u" "m", newEntry 7 "a" "o"]
    let world : World Memory := ⟨memory, [], []⟩
    Healthy "u" memory ∧ "u" ≠ "" ∧
      Interchangeable ((management "u").delete 1) ((management "u").delete 4) world ∧
      Interchangeable ((management "u").delete 1) ((management "u").reorder (some [7, 4]))
        world := by
  intro memory world
  have distinct : DistinctIds memory.entries := by decide +kernel
  have plain : Plain "u" memory.entries := by
    refine ⟨distinct, by decide +kernel, ?_⟩
    simp only [memory, ofEntries, List.forall_mem_cons]
    exact ⟨⟨true, by rfl⟩, ⟨true, by rfl⟩, ⟨false, by rfl⟩, by simp⟩
  have healthy : Healthy "u" world.store := ⟨sound_ofEntries distinct false none, plain, rfl, rfl⟩
  have nonempty : "u" ≠ "" := by decide
  obtain ⟨removals, reorderings⟩ := operations_interchangeable healthy nonempty
  refine ⟨healthy, nonempty, ?_, ?_⟩
  · exact removals 1 (by decide) 4 (by decide) (by decide)
  · exact reorderings 1 (by decide) [7, 4] (by decide) (by decide)

end Operations

end ServiceRegistry.Memory
