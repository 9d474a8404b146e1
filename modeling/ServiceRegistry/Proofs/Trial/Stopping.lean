import ServiceRegistry.Proofs.Trial.Reordering

/-!
# Reorderings that stop

A reordering stops at the first id that no entry has or whose save is refused. The ids before it
were placed and saved, and stay so: nothing is undone. Where the save is refused, the entry has its
new position already, and only the save is missing.

Results:

* `Memory.exists_of_findIdx?`: the ids taken apart at the first one of some kind.
* `Memory.on_placeFrom_unknown`, `Memory.on_placeFrom_refused`: the two ways to stop.
* `Memory.on_reorder_stops`: a reordering up to the id at which it stops.
* `Memory.reorder_outcome`: what any reordering gives, and what it leaves.
-/

namespace ServiceRegistry.Memory

open Database (DistinctIds)
open Run (on)

/-! ## The first id at which a reordering stops -/

/-- The first id of some kind divides the ids into those before it, which are not of this kind, and
those after it. -/
theorem exists_of_findIdx? {stops : Int → Bool} {ids : List Int} {k : Nat}
    (first : ids.findIdx? stops = some k) :
    ∃ id rest, ids = ids.take k ++ id :: rest ∧ (ids.take k).length = k ∧ ids[k]? = some id ∧
      stops id = true ∧ ∀ earlier ∈ ids.take k, stops earlier = false := by
  obtain ⟨lt, here, before⟩ := List.findIdx?_eq_some_iff_getElem.mp first
  refine ⟨ids[k], ids.drop (k + 1), ?_, ?_, List.getElem?_eq_getElem lt, here, ?_⟩
  · rw [← List.drop_eq_getElem_cons lt, List.take_append_drop]
  · rw [List.length_take]
    omega
  · intro earlier mem
    obtain ⟨j, bound, rfl⟩ := List.mem_take_iff_getElem.mp mem
    have earlier : j < k := by omega
    simpa using before j earlier

/-- Giving the positions stops at an id that no entry has and leaves the registry as it is. -/
theorem on_placeFrom_unknown {world : World Memory} {id : Int}
    (unknown : id ∉ world.store.entries.map Entry.id) (url : String) (position : Nat)
    (rest : List Int) :
    on world ((management url).placeFrom position (id :: rest)) =
      (.error (Management.noSuchId id), world) := by
  have search : world.store.find id = none := Database.find_eq_none unknown
  rw [on_placeFrom_cons, search]

/-- Giving the positions stops at an entry whose save is refused, after it got its position. -/
theorem on_placeFrom_refused {world : World Memory} {id : Int}
    (known : id ∈ world.store.entries.map Entry.id) (refuses : world.store.failsOn = some id)
    (url : String) (position : Nat) (rest : List Int) :
    on world ((management url).placeFrom position (id :: rest)) =
      (.error .registryUnavailable, withMemory world (world.store.assign id position)) := by
  obtain ⟨entry, search⟩ : ∃ entry, world.store.find id = some entry :=
    Option.isSome_iff_exists.mp (Database.find_isSome_iff.mpr known)
  rw [on_placeFrom_cons, search]
  exact if_pos refuses

/-- Once there are ids, a request is not refused for its ids being missing. -/
theorem placeFrom_ne_invalid (world : World Memory) (url : String) (position : Nat)
    (ids : List Int) (detail : String) :
    (on world ((management url).placeFrom position ids)).1 ≠ .error (.invalidRequest detail) := by
  induction ids generalizing world position with
  | nil =>
    intro h
    cases h
  | cons id rest ih =>
    rw [on_placeFrom_cons]
    cases world.store.find id with
    | none =>
      intro h
      cases h
    | some entry =>
      dsimp only
      split_ifs
      · intro h
        cases h
      · exact ih _ (position + 1)

/-! ## The whole reordering -/

/-- Up to the first id at which it stops, a reordering places and saves the ids. -/
theorem on_reorder_stops (world : World Memory) (distinct : DistinctIds world.store.entries)
    (url : String) {before : List Int}
    (passed : ∀ id ∈ before, world.store.stopsAt id = false) (id : Int) (rest : List Int) :
    on world ((management url).reorder (some (before ++ id :: rest))) =
      on (withMemory world (world.store.reordered before))
        ((management url).placeFrom before.length (id :: rest)) := by
  have nonempty : before ++ id :: rest ≠ [] := List.append_ne_nil_of_right_ne_nil _ (by simp)
  rw [Database.reorder_of_ne_nil _ nonempty, on_placeFrom_append distinct url 0 passed,
    placed_zero, Nat.zero_add]

/-- Without ids a reordering is refused, and the registry is not asked for anything. -/
theorem on_reorder_missing (world : World Memory) (url : String) {ids : Option (List Int)}
    (missing : ids = none ∨ ids = some []) :
    on world ((management url).reorder ids) =
      (.error (.invalidRequest "No service id was received. Re-examine the request"), world) := by
  rcases missing with rfl | rfl <;> rfl

theorem reorder_invalid_iff (world : World Memory) (url : String) (ids : Option (List Int)) :
    (∃ detail, (on world ((management url).reorder ids)).1 = .error (.invalidRequest detail)) ↔
      ids = none ∨ ids = some [] := by
  constructor
  · rintro ⟨detail, invalid⟩
    match ids with
    | none => exact .inl rfl
    | some [] => exact .inr rfl
    | some (first :: rest) =>
      exact absurd invalid (placeFrom_ne_invalid world url 0 (first :: rest) detail)
  · intro missing
    rw [on_reorder_missing world url missing]
    exact ⟨_, rfl⟩

/-- A reordering of a registry with distinct ids, under any faults, is refused and changes nothing
exactly if it is given no ids. Otherwise it ends with success, whether the registry gives a listing
or not, if all ids are known and no save of them is refused. Else let the first id for which this
is not so stand at an index. The ids before it are placed and saved, as a reordering by them alone
would do. If the id is unknown, the reordering stops with this and nothing else is changed. If its
save is refused, the reordering stops as the registry is not available, and the entry of the id has
the index as its position but was not saved. -/
theorem reorder_outcome (world : World Memory) (distinct : DistinctIds world.store.entries)
    (url : String) (ids : Option (List Int)) :
    let memory := world.store
    let result := on world ((management url).reorder ids)
    ((∃ detail, result.1 = .error (.invalidRequest detail)) ↔ ids = none ∨ ids = some []) ∧
      (ids = none ∨ ids = some [] →
        result = (.error (.invalidRequest "No service id was received. Re-examine the request"),
          world)) ∧
      ∀ given, ids = some given → given ≠ [] →
        (given.findIdx? memory.stopsAt = none →
          result = (.ok (), withMemory world (memory.reordered given))) ∧
        ∀ k, given.findIdx? memory.stopsAt = some k →
          ∃ id, given[k]? = some id ∧
            let before := given.take k
            let done := memory.reordered before
            (k = 0 → done = memory) ∧
            (0 < k →
              on world ((management url).reorder (some before)) = (.ok (), withMemory world done)) ∧
            (id ∉ memory.entries.map Entry.id →
              result = (.error (Management.noSuchId id), withMemory world done)) ∧
            (id ∈ memory.entries.map Entry.id →
              memory.failsOn = some id ∧
              result = (.error .registryUnavailable, withMemory world (done.assign id k))) := by
  intro memory result
  refine ⟨reorder_invalid_iff world url ids, on_reorder_missing world url, ?_⟩
  rintro given rfl nonempty
  refine ⟨fun never => ?_, fun k first => ?_⟩
  · have passed : ∀ id ∈ given, memory.stopsAt id = false := List.findIdx?_eq_none_iff.mp never
    exact on_reorder_passed world distinct url nonempty passed
  obtain ⟨id, rest, split, length, here, stops, passed⟩ := exists_of_findIdx? first
  let done := withMemory world (memory.reordered (given.take k))
  have reached : result = on done ((management url).placeFrom k (id :: rest)) := by
    have stopped := on_reorder_stops world distinct url passed id rest
    rwa [← split, length] at stopped
  have sameIds : done.store.entries.map Entry.id = memory.entries.map Entry.id :=
    map_id_reordered memory (given.take k)
  refine ⟨id, here, ?_, fun positive => ?_, fun unknown => ?_, fun known => ?_⟩
  · rintro rfl
    rw [List.take_zero, reordered_nil]
  · have filled : given.take k ≠ [] := List.ne_nil_of_length_pos (by omega)
    exact on_reorder_passed world distinct url filled passed
  · rw [reached, on_placeFrom_unknown (by rwa [sameIds])]
  · have refuses : memory.failsOn = some id := by
      by_contra accepts
      rw [stopsAt_eq_false_iff.mpr ⟨known, accepts⟩] at stops
      cases stops
    have known : id ∈ done.store.entries.map Entry.id := sameIds ▸ known
    rw [reached, on_placeFrom_refused known refuses]
    exact ⟨refuses, rfl⟩

/-- A refused save after an id that is given twice: the entry has its position and is not saved, and
the ids after it are not looked at. -/
theorem reorder_outcome_refused :
    let memory := (Memory.ofEntries
      [newEntry 1 "a" "n", newEntry 2 "b" "m", newEntry 3 "c" "o"]).withFaults true (some 3)
    let ids := [2, 2, 3, 9]
    let after := (memory.reordered [2, 2]).assign 3 2
    DistinctIds memory.entries ∧ ids.findIdx? memory.stopsAt = some 2 ∧
      3 ∈ memory.entries.map Entry.id ∧
      on ⟨memory, [], []⟩ ((management "u").reorder (some ids)) =
        (.error .registryUnavailable, ⟨after, [], []⟩) ∧
      after.entries.map (fun entry => (entry.id, entry.evaluationOrder)) =
        [(1, 0), (2, 1), (3, 2)] ∧
      after.saves = [2, 2] := by
  intro memory ids after
  have distinct : DistinctIds memory.entries := by decide
  have nonempty : ids ≠ [] := List.cons_ne_nil _ _
  have stops : ids.findIdx? memory.stopsAt = some 2 := by decide
  have known : 3 ∈ memory.entries.map Entry.id := by decide
  obtain ⟨-, -, given⟩ := reorder_outcome ⟨memory, [], []⟩ distinct "u" (some ids)
  obtain ⟨id, here, -, -, -, refused⟩ := (given ids rfl nonempty).2 2 stops
  obtain rfl : 3 = id := Option.some.inj here
  exact ⟨distinct, stops, known, (refused known).2, by decide, rfl⟩

end ServiceRegistry.Memory
