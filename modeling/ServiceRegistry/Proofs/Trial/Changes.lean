import ServiceRegistry.Proofs.Registry.Memory
import ServiceRegistry.Proofs.Registry.Rows
import ServiceRegistry.Registry.Trial

/-!
# What a step of a trial may change

A step may stop at any point and leave what it has done so far. All that it can leave is said here
once: it registers the default address under the next id or it does not, it drops the entry of the
id that is to be removed, and it moves entries whose ids were given.

Results:

* `SameButOrder`, `Reorders`: entries that differ in their positions at most, and lists of entries
  some of which were moved.
* `Memory.Sound`: a registry whose ids are distinct and below the next one.
* `Trial.Changes`, `Trial.take_changes`: what each step may make of a registry.
* `Trial.Changes.sound`: no step makes a registry unsound.
-/

namespace ServiceRegistry

open Database (DistinctIds)
open Run (on)

/-! ## Entries that were moved -/

/-- The second entry is the first one, possibly at another position. -/
def SameButOrder (old new : Entry) : Prop :=
  new = { old with evaluationOrder := new.evaluationOrder }

theorem SameButOrder.refl (entry : Entry) : SameButOrder entry entry := rfl

theorem SameButOrder.trans {a b c : Entry} (first : SameButOrder a b) (second : SameButOrder b c) :
    SameButOrder a c := by
  unfold SameButOrder at *
  rw [second, first]

theorem SameButOrder.id {old new : Entry} (same : SameButOrder old new) : new.id = old.id := by
  rw [same]

theorem SameButOrder.serviceId {old new : Entry} (same : SameButOrder old new) :
    new.serviceId = old.serviceId := by
  rw [same]

/-- The second list has the entries of the first, of which those of some ids were moved. -/
def Reorders (ids : List Int) (before after : List Entry) : Prop :=
  ∃ move : Entry → Entry, after = before.map move ∧
    ∀ entry, SameButOrder entry (move entry) ∧ (entry.id ∉ ids → move entry = entry)

namespace Reorders

variable {ids more : List Int} {before middle after : List Entry}

theorem refl (ids : List Int) (entries : List Entry) : Reorders ids entries entries :=
  ⟨fun entry => entry, (List.map_id entries).symm, fun entry => ⟨.refl entry, fun _ => rfl⟩⟩

theorem trans (first : Reorders ids before middle) (second : Reorders ids middle after) :
    Reorders ids before after := by
  obtain ⟨move, rfl, moves⟩ := first
  obtain ⟨move', rfl, moves'⟩ := second
  refine ⟨move' ∘ move, List.map_map, fun entry => ⟨?_, fun other => ?_⟩⟩
  · exact (moves entry).1.trans (moves' (move entry)).1
  · have stays := (moves entry).2 other
    rw [Function.comp_apply, stays]
    exact (moves' entry).2 other

theorem mono (subset : ids ⊆ more) (reorders : Reorders ids before after) :
    Reorders more before after := by
  obtain ⟨move, same, moves⟩ := reorders
  exact ⟨move, same, fun entry =>
    ⟨(moves entry).1, fun other => (moves entry).2 fun mem => other (subset mem)⟩⟩

theorem of_place (entries : List Entry) (id position : Int) :
    Reorders [id] entries (Database.place entries id position) := by
  refine ⟨_, rfl, fun entry => ⟨?_, fun other => if_neg (by simpa using other)⟩⟩
  split_ifs <;> rfl

theorem map_id_eq (reorders : Reorders ids before after) :
    after.map Entry.id = before.map Entry.id := by
  obtain ⟨move, rfl, moves⟩ := reorders
  rw [List.map_map]
  exact List.map_congr_left fun entry _ => (moves entry).1.id

theorem exists_old (reorders : Reorders ids before after) {entry : Entry} (mem : entry ∈ after) :
    ∃ old ∈ before, SameButOrder old entry := by
  obtain ⟨move, rfl, moves⟩ := reorders
  obtain ⟨old, found, rfl⟩ := List.mem_map.mp mem
  exact ⟨old, found, (moves old).1⟩

theorem map_serviceId_eq (reorders : Reorders ids before after) :
    after.map Entry.serviceId = before.map Entry.serviceId := by
  obtain ⟨move, rfl, moves⟩ := reorders
  rw [List.map_map]
  exact List.map_congr_left fun entry _ => (moves entry).1.serviceId

theorem admitted_iff (reorders : Reorders ids before after) (address : String) :
    Admitted address after ↔ Admitted address before :=
  admitted_congr reorders.map_serviceId_eq

end Reorders

/-! ## Registries with distinct ids -/

namespace Memory

/-- The ids are distinct, and none of them will be given again. -/
structure Sound (memory : Memory) : Prop where
  distinct : DistinctIds memory.entries
  below : ∀ entry ∈ memory.entries, entry.id < memory.nextId

/-- With distinct ids, the first entry of an id is the only one. -/
theorem changeFirst_eq_map {entries : List Entry} (distinct : DistinctIds entries) (id : Int)
    (change : Entry → Entry) :
    changeFirst id change entries =
      entries.map fun entry => if entry.id = id then change entry else entry := by
  induction entries with
  | nil => rfl
  | cons entry rest ih =>
    obtain ⟨only, distinct⟩ := List.nodup_cons.mp distinct
    rw [changeFirst, List.map_cons]
    split_ifs with same
    · have others : ∀ other ∈ rest, (if other.id = id then change other else other) = other := by
        intro other mem
        refine if_neg fun again => only ?_
        rw [same, ← again]
        exact List.mem_map_of_mem mem
      rw [List.map_congr_left others, List.map_id']
    · rw [ih distinct]

theorem dropFirst_eq_delete {entries : List Entry} (distinct : DistinctIds entries) (id : Int) :
    dropFirst id entries = Database.delete entries id := by
  induction entries with
  | nil => rfl
  | cons entry rest ih =>
    obtain ⟨only, distinct⟩ := List.nodup_cons.mp distinct
    rw [dropFirst, Database.delete, List.filter_cons]
    by_cases same : entry.id = id
    · have others : rest.filter (fun other => other.id ≠ id) = rest := by
        refine List.filter_eq_self.mpr fun other mem => decide_eq_true fun again => only ?_
        rw [same, ← again]
        exact List.mem_map_of_mem mem
      simp only [same, if_true, ne_eq, not_true_eq_false, decide_false, Bool.false_eq_true,
        if_false]
      exact others.symm
    · simp only [same, if_false, ne_eq, not_false_eq_true, decide_true, if_true, ih distinct]
      rfl

theorem entries_assign {memory : Memory} (distinct : DistinctIds memory.entries)
    (id position : Int) :
    (memory.assign id position).entries = Database.place memory.entries id position :=
  changeFirst_eq_map distinct id _

theorem entries_remove {memory : Memory} (distinct : DistinctIds memory.entries) (id : Int) :
    (memory.remove id).entries = Database.delete memory.entries id :=
  dropFirst_eq_delete distinct id

variable {memory : Memory}

theorem sound_ofEntries {entries : List Entry} (distinct : DistinctIds entries)
    (returnsNone : Bool) (failsOn : Option Int) :
    ((ofEntries entries).withFaults returnsNone failsOn).Sound := by
  refine ⟨distinct, fun entry (mem : entry ∈ entries) => ?_⟩
  obtain ⟨id, greatest, le⟩ := Database.le_greatestId mem
  show entry.id < idAfter entries
  rw [idAfter, greatest]
  exact Int.lt_add_one_of_le le

theorem Sound.nextId_notMem (sound : memory.Sound) :
    memory.nextId ∉ memory.entries.map Entry.id := by
  intro mem
  obtain ⟨entry, found, same⟩ := List.mem_map.mp mem
  have := sound.below entry found
  omega

theorem Sound.register (sound : memory.Sound) (pattern name : String) :
    (memory.register pattern name).Sound := by
  refine ⟨sound.distinct.append sound.nextId_notMem, fun entry mem => ?_⟩
  show entry.id < memory.nextId + 1
  rcases List.mem_append.mp mem with mem | mem
  · have := sound.below entry mem
    omega
  · obtain rfl := List.mem_singleton.mp mem
    exact Int.lt_succ _

theorem Sound.remove (sound : memory.Sound) (id : Int) : (memory.remove id).Sound := by
  have entries := entries_remove sound.distinct id
  constructor
  · rw [entries]
    exact Database.distinctIds_delete sound.distinct id
  · rw [entries]
    exact fun entry mem => sound.below entry (List.mem_filter.mp mem).1

theorem Sound.reorders {after : Memory} {ids : List Int} (sound : memory.Sound)
    (reorders : Reorders ids memory.entries after.entries) (nextId : after.nextId = memory.nextId) :
    after.Sound := by
  constructor
  · rw [DistinctIds, reorders.map_id_eq]
    exact sound.distinct
  · intro entry mem
    obtain ⟨old, found, same⟩ := reorders.exists_old mem
    rw [same.id, nextId]
    exact sound.below old found

end Memory

/-! ## Steps -/

namespace Trial

open Memory (management withMemory)

/-- Ensuring the default address registers it under the next id, which it does only if no entry
admits it, or leaves the registry as it is. -/
def Ensures (url : String) (before after : Memory) : Prop :=
  after = before ∨
    anyAdmits url before.entries = .ok false ∧ after = before.register url Management.defaultName

/-- What a step may make of a registry, whether it comes to its end or stops. -/
inductive Changes (url : String) (before : Memory) : Step → Memory → Prop
  | ensured {operation : Management.Operation} {after : Memory} :
      operation ∈ [.ensure, .list, .manage] → Ensures url before after →
      Changes url before (.perform operation) after
  | removed (id : Int) {after : Memory} : Ensures url (before.remove id) after →
      Changes url before (.perform (.delete id)) after
  | moved (ids : Option (List Int)) {after : Memory} :
      Reorders (ids.getD []) before.entries after.entries → after.nextId = before.nextId →
      Changes url before (.perform (.reorder ids)) after
  | kept {operation : Management.Operation} :
      operation ∈ [.authorizationFailure, .logout] → Changes url before (.perform operation) before
  | faultsSet (returnsNone : Bool) (failsOn : Option Int) :
      Changes url before (.setFaults returnsNone failsOn) (before.withFaults returnsNone failsOn)

theorem ensureDefault_ensures (world : World Memory) (url : String) :
    Ensures url world.store (on world (management url).ensureDefault).2.store := by
  rw [Memory.on_ensureDefault]
  split_ifs
  · exact .inl rfl
  · split
    next => exact .inl rfl
    next => exact .inl rfl
    next free => exact .inr ⟨free, rfl⟩

theorem manageView_ensures (world : World Memory) (url : String) :
    Ensures url world.store (on world (management url).manageView).2.store := by
  have ensures := ensureDefault_ensures world url
  rw [Memory.on_manageView]
  generalize on world (management url).ensureDefault = result at ensures ⊢
  rcases result with ⟨_ | _, after⟩ <;> exact ensures

theorem list_ensures (world : World Memory) (url : String) :
    Ensures url world.store (on world (management url).list).2.store := by
  have ensures := ensureDefault_ensures world url
  rw [Memory.on_list]
  generalize on world (management url).ensureDefault = result at ensures ⊢
  rcases result with ⟨_ | _, after⟩ <;> exact ensures

theorem delete_ensures (world : World Memory) (url : String) (id : Int) :
    Ensures url (world.store.remove id) (on world ((management url).delete id)).2.store := by
  have ensures := ensureDefault_ensures (withMemory world (world.store.remove id)) url
  rw [Memory.on_delete]
  cases world.store.find id with
  | none => exact .inl rfl
  | some entry =>
    generalize on (withMemory world (world.store.remove id)) (management url).ensureDefault =
      result at ensures ⊢
    rcases result with ⟨_ | _, after⟩ <;> exact ensures

/-- Wherever giving the positions stops, only entries of the ids were moved. -/
theorem placeFrom_reorders (world : World Memory) (distinct : DistinctIds world.store.entries)
    (url : String) (position : Nat) (ids : List Int) :
    let after := (on world ((management url).placeFrom position ids)).2.store
    Reorders ids world.store.entries after.entries ∧ after.nextId = world.store.nextId := by
  induction ids generalizing world position with
  | nil => exact ⟨.refl _ _, rfl⟩
  | cons id rest ih =>
    have placed := Memory.entries_assign distinct id position
    have first : Reorders (id :: rest) world.store.entries
        (world.store.assign id position).entries := by
      rw [placed]
      exact (Reorders.of_place _ id position).mono (by simp)
    rw [Memory.on_placeFrom_cons]
    cases world.store.find id with
    | none => exact ⟨.refl _ _, rfl⟩
    | some entry =>
      simp only
      split_ifs
      · exact ⟨first, rfl⟩
      · have still : DistinctIds (world.store.assign id position).entries := by
          rw [placed]
          exact Database.distinctIds_place distinct id position
        obtain ⟨others, nextId⟩ :=
          ih (withMemory world ((world.store.assign id position).countSave id)) still (position + 1)
        exact ⟨first.trans (others.mono (List.subset_cons_self _ _)), nextId⟩

theorem reorder_reorders (world : World Memory) (distinct : DistinctIds world.store.entries)
    (url : String) (ids : Option (List Int)) :
    let after := (on world ((management url).reorder ids)).2.store
    Reorders (ids.getD []) world.store.entries after.entries ∧
      after.nextId = world.store.nextId := by
  match ids with
  | none => exact ⟨.refl _ _, rfl⟩
  | some [] => exact ⟨.refl _ _, rfl⟩
  | some (first :: rest) => exact placeFrom_reorders world distinct url 0 (first :: rest)

theorem store_answer {α : Type} (world : World Memory) (operation : Run Memory α)
    (answer : α → Management.Answer) :
    (on world (do return answer (← operation))).2.store = (on world operation).2.store := by
  rw [Run.on_bind]
  rcases on world operation with ⟨_ | _, after⟩ <;> rfl

theorem take_before (url : String) (memory : Memory) (step : Step) :
    (take url memory step).before = memory := by
  cases step <;> rfl

theorem take_step (url : String) (memory : Memory) (step : Step) :
    (take url memory step).step = step := by
  cases step <;> rfl

/-- Each step makes of a sound registry what it may make of it. -/
theorem take_changes (url : String) {memory : Memory} (sound : memory.Sound) (step : Step) :
    Changes url memory step (take url memory step).after := by
  cases step with
  | setFaults returnsNone failsOn => exact .faultsSet returnsNone failsOn
  | perform operation =>
    let world : World Memory := ⟨memory, [], []⟩
    show Changes url memory _ (on world ((management url).perform operation)).2.store
    cases operation with
    | ensure =>
      refine .ensured (by simp) ?_
      rw [Management.perform, store_answer world _ fun _ => .nothing]
      exact ensureDefault_ensures world url
    | list =>
      refine .ensured (by simp) ?_
      rw [Management.perform, store_answer]
      exact list_ensures world url
    | manage =>
      refine .ensured (by simp) ?_
      rw [Management.perform, store_answer]
      exact manageView_ensures world url
    | authorizationFailure => exact .kept (by simp)
    | logout => exact .kept (by simp)
    | delete id =>
      refine .removed id ?_
      rw [Management.perform, store_answer]
      exact delete_ensures world url id
    | reorder ids =>
      rw [Management.perform, store_answer world _ fun _ => .nothing]
      obtain ⟨reorders, nextId⟩ := reorder_reorders world sound.distinct url ids
      exact .moved ids reorders nextId

theorem Ensures.sound {url : String} {before after : Memory} (ensures : Ensures url before after)
    (sound : before.Sound) : after.Sound := by
  rcases ensures with rfl | ⟨-, rfl⟩
  · exact sound
  · exact sound.register _ _

/-- No step makes a registry unsound. -/
theorem Changes.sound {url : String} {before after : Memory} {step : Step}
    (changes : Changes url before step after) (sound : before.Sound) : after.Sound := by
  cases changes with
  | ensured _ ensures => exact ensures.sound sound
  | removed id ensures => exact ensures.sound (sound.remove id)
  | moved ids reorders nextId => exact sound.reorders reorders nextId
  | kept => exact sound
  | faultsSet => exact ⟨sound.distinct, sound.below⟩

end Trial

end ServiceRegistry
