import ServiceRegistry.Proofs.Registry.Administration
import ServiceRegistry.Proofs.Registry.Listing
import ServiceRegistry.Proofs.Registry.Memory
import ServiceRegistry.Proofs.Trial.Changes

/-!
# Reordering a registry in memory

A reordering that meets no unknown id and no refused save comes to its end. What it leaves is said
at once and not step by step: each entry of the ids is at the last place of its id, and nothing else
has changed but that the ids were saved.

Results:

* `Memory.placed`, `Memory.reordered`: the registry afterwards, step by step and at once.
* `Memory.on_placeFrom_append`: ids at which giving the positions does not stop come to their
  places.
* `Memory.reorder_known`: what a reordering gives, how its entries are listed, and what the same
  reordering gives again.
-/

namespace ServiceRegistry.Memory

open Database (DistinctIds)
open Run (on)

/-- The registry after ids were placed and saved, from a first position on. -/
def placed (memory : Memory) (position : Nat) (ids : List Int) : Memory :=
  { memory with
    entries := Database.placed memory.entries position ids
    saves := memory.saves ++ ids }

/-- The registry with each entry of some ids at the index of the last occurrence of its id, and the
ids saved. -/
def reordered (memory : Memory) (ids : List Int) : Memory :=
  { memory with
    entries := memory.entries.map fun entry =>
      match lastIndex? entry.id ids with
      | some index => { entry with evaluationOrder := index }
      | none => entry
    saves := memory.saves ++ ids }

theorem entries_reordered (memory : Memory) (ids : List Int) :
    (memory.reordered ids).entries = memory.entries.map (Entry.positioned 0 ids) := by
  refine List.map_congr_left fun entry _ => ?_
  rw [Entry.positioned]
  cases lastIndex? entry.id ids with
  | none => rfl
  | some index => simp only [Nat.zero_add]

theorem placed_zero (memory : Memory) (ids : List Int) :
    memory.placed 0 ids = memory.reordered ids := by
  rw [placed, Database.placed_eq_positioned, ← entries_reordered]
  rfl

/-- The first id is placed and saved before the others. -/
theorem placed_cons {memory : Memory} (distinct : DistinctIds memory.entries) (position : Nat)
    (id : Int) (rest : List Int) :
    memory.placed position (id :: rest) =
      ((memory.assign id position).countSave id).placed (position + 1) rest := by
  have entries := entries_assign distinct id position
  simp [placed, countSave, Database.placed, ← entries, assign]

/-! ## Ids that are passed -/

/-- A reordering stops at an id that no entry has, and at the id whose save is refused. -/
def stopsAt (memory : Memory) (id : Int) : Bool :=
  (memory.find id).isNone || memory.failsOn = some id

theorem stopsAt_eq_false_iff {memory : Memory} {id : Int} :
    memory.stopsAt id = false ↔
      id ∈ memory.entries.map Entry.id ∧ memory.failsOn ≠ some id := by
  have known : (memory.find id).isNone = false ↔ id ∈ memory.entries.map Entry.id := by
    rw [← Database.find_isSome_iff, ← Option.not_isSome, Bool.not_eq_false']
    rfl
  rw [stopsAt, Bool.or_eq_false_iff, decide_eq_false_iff_not, known]

/-- Ids at which giving the positions does not stop come to their places, and the others follow. -/
theorem on_placeFrom_append {world : World Memory} (distinct : DistinctIds world.store.entries)
    (url : String) (position : Nat) {ids : List Int}
    (passed : ∀ id ∈ ids, world.store.stopsAt id = false) (rest : List Int) :
    on world ((management url).placeFrom position (ids ++ rest)) =
      on (withMemory world (world.store.placed position ids))
        ((management url).placeFrom (position + ids.length) rest) := by
  induction ids generalizing world position with
  | nil => simp [placed, Database.placed, withMemory]
  | cons id others ih =>
    obtain ⟨first, passed⟩ := List.forall_mem_cons.mp passed
    obtain ⟨present, accepts⟩ := stopsAt_eq_false_iff.mp first
    obtain ⟨entry, search⟩ : ∃ entry, world.store.find id = some entry :=
      Option.isSome_iff_exists.mp (Database.find_isSome_iff.mpr present)
    let next := withMemory world ((world.store.assign id position).countSave id)
    have entries : next.store.entries = Database.place world.store.entries id position :=
      entries_assign distinct id position
    have distinct' : DistinctIds next.store.entries :=
      entries ▸ Database.distinctIds_place distinct id position
    -- Neither the ids nor the fault have changed, so the same ids are passed.
    have passed' : ∀ id ∈ others, next.store.stopsAt id = false := by
      intro other mem
      rw [stopsAt_eq_false_iff, entries, Database.map_id_place]
      exact stopsAt_eq_false_iff.mp (passed other mem)
    have length : position + (id :: others).length = position + 1 + others.length := by
      rw [List.length_cons]
      omega
    rw [List.cons_append, on_placeFrom_cons, search, if_neg accepts, length, placed_cons distinct]
    exact ih distinct' (position + 1) passed'

/-! ## The whole reordering -/

theorem reorders_reordered (memory : Memory) (ids : List Int) :
    Reorders ids memory.entries (memory.reordered ids).entries := by
  rw [entries_reordered]
  refine ⟨_, rfl, fun entry => ⟨?_, Entry.positioned_of_notMem⟩⟩
  unfold Entry.positioned
  split <;> rfl

theorem map_id_reordered (memory : Memory) (ids : List Int) :
    (memory.reordered ids).entries.map Entry.id = memory.entries.map Entry.id :=
  (reorders_reordered memory ids).map_id_eq

/-- The same ids again come to the places that they have. -/
theorem reordered_reordered (memory : Memory) (ids : List Int) :
    (memory.reordered ids).reordered ids =
      { memory.reordered ids with saves := memory.saves ++ ids ++ ids } := by
  have entries :
      ((memory.reordered ids).reordered ids).entries = (memory.reordered ids).entries := by
    simp [entries_reordered, Function.comp_def, Entry.positioned_positioned]
  show ({ memory.reordered ids with
    entries := ((memory.reordered ids).reordered ids).entries
    saves := memory.saves ++ ids ++ ids } : Memory) = _
  rw [entries]

theorem reordered_nil (memory : Memory) : memory.reordered [] = memory := by
  simp [reordered, lastIndex?]

/-- Ids at which a reordering does not stop are placed and saved. -/
theorem on_reorder_passed (world : World Memory) (distinct : DistinctIds world.store.entries)
    (url : String) {ids : List Int} (nonempty : ids ≠ [])
    (passed : ∀ id ∈ ids, world.store.stopsAt id = false) :
    on world ((management url).reorder (some ids)) =
      (.ok (), withMemory world (world.store.reordered ids)) := by
  have all := on_placeFrom_append distinct url 0 passed []
  rw [List.append_nil, placed_zero] at all
  rw [Database.reorder_of_ne_nil _ nonempty, all]
  rfl

theorem on_reorder_known (world : World Memory) (distinct : DistinctIds world.store.entries)
    (accepts : world.store.failsOn = none) (url : String) {ids : List Int} (nonempty : ids ≠ [])
    (known : ∀ id ∈ ids, id ∈ world.store.entries.map Entry.id) :
    on world ((management url).reorder (some ids)) =
      (.ok (), withMemory world (world.store.reordered ids)) := by
  refine on_reorder_passed world distinct url nonempty fun id mem => ?_
  rw [stopsAt_eq_false_iff, accepts]
  exact ⟨known id mem, (Option.some_ne_none id).symm⟩

/-- A reordering of a registry without faults by some ids, all of which are known, comes to its end.
Each entry whose id is among them gets the index of its last occurrence as its position, the ids are
saved in their order, and nothing else changes. The listing afterwards has the entries of the ids in
the order of the last occurrences, which are those that `List.dedup` keeps, with any other entries
between them. The same reordering again changes no entry. -/
theorem reorder_known (world : World Memory) (distinct : DistinctIds world.store.entries)
    (lists : world.store.returnsNone = false) (accepts : world.store.failsOn = none) (url : String)
    {ids : List Int} (nonempty : ids ≠ [])
    (known : ∀ id ∈ ids, id ∈ world.store.entries.map Entry.id) :
    let after := world.store.reordered ids
    on world ((management url).reorder (some ids)) = (.ok (), withMemory world after) ∧
      (∃ listed, on (withMemory world after) registry.listing =
          (.ok (some listed), withMemory world after) ∧
        (listed.filter (·.id ∈ ids)).map Entry.id = ids.dedup) ∧
      on (withMemory world after) ((management url).reorder (some ids)) =
        (.ok (), withMemory world { after with saves := after.saves ++ ids }) := by
  intro after
  have sameIds : after.entries.map Entry.id = world.store.entries.map Entry.id :=
    map_id_reordered world.store ids
  have listing : after.listing = some (inListingOrder after.entries) := by
    rw [Memory.listing, if_neg]
    exact ne_of_eq_of_ne lists Bool.false_ne_true
  have again : on (withMemory world after) ((management url).reorder (some ids)) =
      (.ok (), withMemory world (after.reordered ids)) :=
    on_reorder_known (withMemory world after) (by rwa [DistinctIds, store_withMemory, sameIds])
      accepts url nonempty (by rwa [store_withMemory, sameIds])
  refine ⟨on_reorder_known world distinct accepts url nonempty known,
    ⟨inListingOrder after.entries, ?_, ?_⟩, ?_⟩
  · simp [registry, listing]
  · rw [entries_reordered]
    exact Database.listed_positioned distinct 0 known
  · rw [again, reordered_reordered]
    rfl

/-- An id that is given twice counts where it stands last, and an entry that is not named keeps a
position that another one gets. -/
theorem reorder_known_repeated :
    let memory := Memory.ofEntries [newEntry 1 "a" "n", newEntry 2 "b" "m", newEntry 3 "c" "o"]
    let ids := [2, 1, 1]
    DistinctIds memory.entries ∧ memory.returnsNone = false ∧ memory.failsOn = none ∧ ids ≠ [] ∧
      (∀ id ∈ ids, id ∈ memory.entries.map Entry.id) ∧
      on ⟨memory, [], []⟩ ((management "u").reorder (some ids)) =
        (.ok (), ⟨memory.reordered ids, [], []⟩) ∧
      (memory.reordered ids).entries.map (fun entry => (entry.id, entry.evaluationOrder)) =
        [(1, 2), (2, 0), (3, 0)] := by
  intro memory ids
  have distinct : DistinctIds memory.entries := by decide
  have nonempty : ids ≠ [] := List.cons_ne_nil _ _
  have known : ∀ id ∈ ids, id ∈ memory.entries.map Entry.id := by decide
  obtain ⟨result, -, -⟩ := reorder_known ⟨memory, [], []⟩ distinct rfl rfl "u" nonempty known
  exact ⟨distinct, rfl, rfl, nonempty, known, result, by decide⟩

end ServiceRegistry.Memory
