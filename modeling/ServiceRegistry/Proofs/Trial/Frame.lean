import ServiceRegistry.Proofs.Trial.Changes

/-!
# What a trial leaves alone

The entries after a step descend from those before it: each one was there with the same id, and
differs in its position at most, or it has an id that was not given before. This relation is a
preorder, so it holds along a run, and it says that ids do not come back.

Results:

* `Memory.Descends`: the relation between an earlier and a later registry.
* `Trial.run_steps`, `Trial.run_descends`: it holds between any two points of a run.
* `Trial.Framed`: what each step may change in the list of entries.
* `Trial.run_framed`: every step of a run is framed, entries keep all but their positions, ids stay
  distinct, and an id that was removed does not occur again.
-/

namespace ServiceRegistry

open Database (DistinctIds)

namespace Memory

/-! ## Earlier and later registries -/

/-- An entry of the later registry was in the earlier one, possibly at another position, or its id
had not been given then. -/
structure Descends (before after : Memory) : Prop where
  nextId : before.nextId ≤ after.nextId
  entries : ∀ entry ∈ after.entries,
    (∃ old ∈ before.entries, SameButOrder old entry) ∨ before.nextId ≤ entry.id

namespace Descends

variable {a b c before after : Memory}

theorem refl (memory : Memory) : Descends memory memory :=
  ⟨Int.le_refl _, fun entry mem => .inl ⟨entry, mem, .refl entry⟩⟩

theorem trans (first : Descends a b) (second : Descends b c) : Descends a c := by
  refine ⟨Int.le_trans first.nextId second.nextId, fun entry mem => ?_⟩
  rcases second.entries entry mem with ⟨middle, mem, same⟩ | new
  · rcases first.entries middle mem with ⟨old, mem, same'⟩ | new
    · exact .inl ⟨old, mem, same'.trans same⟩
    · exact .inr (same.id ▸ new)
  · exact .inr (Int.le_trans first.nextId new)

theorem register (memory : Memory) (pattern name : String) :
    Descends memory (memory.register pattern name) := by
  refine ⟨Int.le_add_one (Int.le_refl _), fun entry mem => ?_⟩
  rcases List.mem_append.mp mem with mem | mem
  · exact .inl ⟨entry, mem, .refl entry⟩
  · obtain rfl := List.mem_singleton.mp mem
    exact .inr (Int.le_refl _)

theorem remove {memory : Memory} (distinct : DistinctIds memory.entries) (id : Int) :
    Descends memory (memory.remove id) := by
  refine ⟨Int.le_refl _, fun entry mem => .inl ⟨entry, ?_, .refl entry⟩⟩
  rw [entries_remove distinct] at mem
  exact (List.mem_filter.mp mem).1

/-- An entry that is in both registries is the same, but for its position. -/
theorem sameButOrder (descends : Descends before after) (sound : before.Sound) {old new : Entry}
    (mem : old ∈ before.entries) (mem' : new ∈ after.entries) (id : new.id = old.id) :
    SameButOrder old new := by
  rcases descends.entries new mem' with ⟨other, found, same⟩ | new
  · have only : other = old :=
      List.inj_on_of_nodup_map sound.distinct found mem (same.id.symm.trans id)
    rwa [← only]
  · have := sound.below old mem
    omega

/-- An id that was given and is not there does not come back. -/
theorem id_notMem (descends : Descends before after) {id : Int} (given : id < before.nextId)
    (absent : id ∉ before.entries.map Entry.id) : id ∉ after.entries.map Entry.id := by
  intro mem
  obtain ⟨entry, found, rfl⟩ := List.mem_map.mp mem
  rcases descends.entries entry found with ⟨old, found, same⟩ | new
  · exact absent (same.id ▸ List.mem_map_of_mem found)
  · omega

end Descends

end Memory

namespace Trial

open Memory (Descends)

variable {url : String} {memory before after : Memory}

/-! ## Steps and runs -/

theorem Ensures.descends (ensures : Ensures url before after) : Descends before after := by
  rcases ensures with rfl | ⟨-, rfl⟩
  · exact .refl _
  · exact .register _ _ _

theorem Changes.descends {step : Step} (changes : Changes url before step after)
    (sound : before.Sound) : Descends before after := by
  cases changes with
  | ensured _ ensures => exact ensures.descends
  | removed id ensures => exact (Descends.remove sound.distinct id).trans ensures.descends
  | moved ids reorders nextId =>
    exact ⟨Int.le_of_eq nextId.symm, fun entry mem => .inl (reorders.exists_old mem)⟩
  | kept => exact .refl _
  | faultsSet => exact ⟨Int.le_refl _, fun entry mem => .inl ⟨entry, mem, .refl entry⟩⟩

/-- Along a run every step is taken in a sound registry that descends from the first one. -/
theorem run_steps (url : String) (sound : memory.Sound) (steps : List Step) :
    ∀ t ∈ run url memory steps,
      t.before.Sound ∧ Descends memory t.before ∧ Changes url t.before t.step t.after := by
  induction steps generalizing memory with
  | nil =>
    intro t mem
    cases mem
  | cons step rest ih =>
    have changes := take_changes url sound step
    intro t mem
    rcases List.mem_cons.mp mem with rfl | mem
    · rw [take_before, take_step]
      exact ⟨sound, .refl memory, changes⟩
    · obtain ⟨still, descends, next⟩ := ih (changes.sound sound) t mem
      exact ⟨still, (changes.descends sound).trans descends, next⟩

/-- Each registry of a run descends from all that were there before. -/
theorem run_descends (url : String) (sound : memory.Sound) (steps : List Step) :
    (run url memory steps).Pairwise fun earlier later =>
      Descends earlier.after later.before := by
  induction steps generalizing memory with
  | nil => exact .nil
  | cons step rest ih =>
    have sound := (take_changes url sound step).sound sound
    exact .cons (fun t mem => (run_steps url sound rest t mem).2.1) (ih sound)

/-! ## The frame of each step -/

/-- The entries are left as they are, or the default address is appended under an unused id. -/
def Grows (url : String) (used : List Int) (before after : List Entry) : Prop :=
  after = before ∨
    ∃ id, id ∉ used ∧ after = before ++ [newEntry id url Management.defaultName]

/-- What a step may change in the list of entries. -/
def Framed (url : String) (used : List Int) (before after : List Entry) : Step → Prop
  | .perform .ensure | .perform .list | .perform .manage => Grows url used before after
  | .perform (.delete id) => Grows url used (Database.delete before id) after
  | .perform (.reorder ids) => Reorders (ids.getD []) before after
  | .perform .authorizationFailure | .perform .logout | .setFaults _ _ => after = before

theorem Ensures.grows (ensures : Ensures url before after) {used : List Int}
    (unused : before.nextId ∉ used) : Grows url used before.entries after.entries := by
  rcases ensures with rfl | ⟨-, rfl⟩
  · exact .inl rfl
  · exact .inr ⟨before.nextId, unused, rfl⟩

theorem Changes.framed {step : Step} {used : List Int} (changes : Changes url before step after)
    (sound : before.Sound) (unused : before.nextId ∉ used) :
    Framed url used before.entries after.entries step := by
  cases changes with
  | ensured one ensures =>
    simp only [List.mem_cons, List.not_mem_nil, or_false] at one
    rcases one with rfl | rfl | rfl <;> exact ensures.grows unused
  | removed id ensures =>
    have grows : Grows url used (before.remove id).entries after.entries := ensures.grows unused
    rwa [Memory.entries_remove sound.distinct] at grows
  | moved ids reorders nextId => exact reorders
  | kept one =>
    simp only [List.mem_cons, List.not_mem_nil, or_false] at one
    rcases one with rfl | rfl <;> rfl
  | faultsSet => rfl

/-- In a run over entries of distinct ids, under any faults, every step changes no more than its
frame allows, and the default address gets an id that no entry has had. The ids stay distinct, an
entry that is still there later is the same but for its position, and the id of one that was
removed does not occur again. -/
theorem run_framed (url : String) (entries : List Entry) (distinct : DistinctIds entries)
    (returnsNone : Bool) (failsOn : Option Int) (steps : List Step) (past : List Transition)
    (t : Transition) (future : List Transition)
    (split : run url ((Memory.ofEntries entries).withFaults returnsNone failsOn) steps =
      past ++ t :: future) :
    Framed url (entries.map Entry.id ++ past.flatMap fun t => t.after.entries.map Entry.id)
        t.before.entries t.after.entries t.step ∧
      DistinctIds t.after.entries ∧
      ∀ later ∈ t :: future,
        (∀ old ∈ t.before.entries, ∀ new ∈ later.after.entries,
          new.id = old.id → SameButOrder old new) ∧
        (∀ id ∈ t.before.entries.map Entry.id, id ∉ t.after.entries.map Entry.id →
          id ∉ later.after.entries.map Entry.id) := by
  set start := (Memory.ofEntries entries).withFaults returnsNone failsOn with start_eq
  have sound : start.Sound := Memory.sound_ofEntries distinct returnsNone failsOn
  have all := run_steps url sound steps
  have ordered := run_descends url sound steps
  rw [split] at all ordered
  obtain ⟨-, ordered, across⟩ := List.pairwise_append.mp ordered
  obtain ⟨onward, -⟩ := List.pairwise_cons.mp ordered
  obtain ⟨sound_t, descends, changes⟩ := all t (by simp)
  have step := changes.descends sound_t
  have unused : t.before.nextId ∉
      entries.map Entry.id ++ past.flatMap fun t => t.after.entries.map Entry.id := by
    intro mem
    rcases List.mem_append.mp mem with mem | mem
    · obtain ⟨entry, found, same⟩ := List.mem_map.mp mem
      have below : entry.id < start.nextId := sound.below entry found
      have := descends.nextId
      omega
    · obtain ⟨earlier, found, mem⟩ := List.mem_flatMap.mp mem
      obtain ⟨entry, present, same⟩ := List.mem_map.mp mem
      obtain ⟨sound_e, -, changes_e⟩ := all earlier (List.mem_append_left _ found)
      have below := (changes_e.sound sound_e).below entry present
      have := (across earlier found t (by simp)).nextId
      omega
  refine ⟨changes.framed sound_t unused, (changes.sound sound_t).distinct, fun later mem => ?_⟩
  have since : Descends t.after later.after := by
    rcases List.mem_cons.mp mem with rfl | mem
    · exact .refl _
    · obtain ⟨sound_l, -, changes_l⟩ := all later (by simp [mem])
      exact (onward later mem).trans (changes_l.descends sound_l)
  constructor
  · intro old found new found' same
    exact (step.trans since).sameButOrder sound_t found found' same
  · intro id mem gone
    obtain ⟨entry, found, same⟩ := List.mem_map.mp mem
    have below := sound_t.below entry found
    have := step.nextId
    exact since.id_notMem (by omega) gone

/-- Where the greatest id is removed, the default address gets the next one, also if a save fails
in between. -/
theorem run_framed_removal :
    let rows := [newEntry 1 "a" "n", newEntry 2 "b" "m"]
    let start := (Memory.ofEntries rows).withFaults false (some 1)
    let failed := take "u" start (.perform (.reorder (some [2, 1])))
    let removed := take "u" failed.after (.perform (.delete 2))
    let ensured := take "u" removed.after (.perform .ensure)
    run "u" start [.perform (.reorder (some [2, 1])), .perform (.delete 2), .perform .ensure] =
        [failed, removed, ensured] ∧
      DistinctIds rows ∧
      Grows "u" [1, 2, 1, 2] (Database.delete failed.after.entries 2) removed.after.entries ∧
      2 ∉ ensured.after.entries.map Entry.id ∧
      ensured.after.entries.map Entry.id = [1, 3] := by
  intro rows start failed removed ensured
  have distinct : DistinctIds rows := by decide +kernel
  obtain ⟨framed, -, later⟩ := run_framed "u" rows distinct false (some 1)
    [.perform (.reorder (some [2, 1])), .perform (.delete 2), .perform .ensure]
    [failed] removed [ensured] rfl
  have used : rows.map Entry.id ++ [failed].flatMap (fun t => t.after.entries.map Entry.id) =
      [1, 2, 1, 2] := by
    decide +kernel
  have gone := (later ensured (by simp)).2 2 (by decide +kernel) (by decide +kernel)
  rw [used] at framed
  exact ⟨rfl, distinct, framed, gone, by decide +kernel⟩

end Trial

end ServiceRegistry
