import ServiceRegistry.Proofs.Registry.Administration
import ServiceRegistry.Proofs.Trial.Changes

/-!
# Ensuring the default address

Whatever keeps the entries, ensuring the default address ends in one of three ways. A pattern stops
the search, and nothing is written. An entry admits the address, and nothing is written. Or every
entry was looked at and refuses the address, and an entry for it is appended. So after a call that
came to its end no pattern can stop the next one: either the same entry is found again, or no entry
of the old ones stops the search and the new one admits the address, wherever it is listed.

Results:

* `Ensured`: the three ways in which a call ends.
* `Keeper`, `Memory.keeper`, `Database.keeper`: the registries of which this is true.
* `Management.ensureTimes`: calls in a row.
* `Keeper.again`, `Keeper.grows`: calls for an address, and calls for the empty one.
* `ensureDefault_once`: what calls do in both registries.
-/

namespace ServiceRegistry

open Run (on)

variable {σ : Type}

/-! ## One call -/

/-- How ensuring the default address ends: with a result and a world after it. -/
inductive Ensured (url : String) (entries : σ → List Entry) (world : World σ) :
    Except Fault Unit × World σ → Prop
  | stopped {entry : Entry} {fault : Fault} : entry ∈ entries world.store →
      entry.admits url = .error fault → Ensured url entries world (.error fault, world)
  | kept : Admitted url (entries world.store) → Ensured url entries world (.ok (), world)
  | added {id : Int} {after : World σ} :
      (∀ entry ∈ entries world.store, entry.admits url = .ok false) →
      id ∉ (entries world.store).map Entry.id →
      entries after.store = entries world.store ++ [newEntry id url Management.defaultName] →
      Ensured url entries world (.ok (), after)

/-- In a valid world ensuring the default address ends in one of the three ways, and the world stays
valid. -/
structure Keeper (management : Management σ) (entries : σ → List Entry) (valid : σ → Prop) :
    Prop where
  ends : ∀ world, valid world.store →
    Ensured management.defaultUrl entries world (on world management.ensureDefault)
  stays : ∀ world, valid world.store → valid (on world management.ensureDefault).2.store

theorem Memory.keeper (url : String) :
    Keeper (Memory.management url) Memory.entries
      fun memory => memory.Sound ∧ memory.returnsNone = false := by
  have call (world : World Memory) (sound : world.store.Sound)
      (lists : world.store.returnsNone = false) :
      Ensured url Memory.entries world (on world (Memory.management url).ensureDefault) ∧
        (on world (Memory.management url).ensureDefault).2.store.Sound ∧
        (on world (Memory.management url).ensureDefault).2.store.returnsNone = false := by
    rw [Memory.on_ensureDefault, lists, if_neg Bool.false_ne_true]
    obtain ⟨fault, entry, mem, stops, search⟩ | ⟨admitted, search⟩ | ⟨refuses, search⟩ :=
      anyAdmits_cases url world.store.entries
    · rw [search]
      exact ⟨.stopped mem stops, sound, lists⟩
    · rw [search]
      exact ⟨.kept admitted, sound, lists⟩
    · rw [search]
      exact ⟨.added refuses sound.nextId_notMem rfl, sound.register _ _, lists⟩
  exact ⟨fun world ok => (call world ok.1 ok.2).1, fun world ok => (call world ok.1 ok.2).2⟩

theorem Database.keeper (url : String) :
    Keeper (Database.management url) Database.working fun _ => True := by
  refine ⟨fun world _ => ?_, fun world _ => trivial⟩
  rw [Database.on_ensureDefault]
  obtain ⟨fault, entry, mem, stops, search⟩ | ⟨admitted, search⟩ | ⟨refuses, search⟩ :=
    anyAdmits_cases url (inListingOrder world.store.working)
  · rw [search]
    exact .stopped (mem_inListingOrder.mp mem) stops
  · have admitted : Admitted url world.store.working := admitted_inListingOrder.mp admitted
    rw [search, Database.defaultEnsured, if_pos admitted]
    exact .kept admitted
  · have refuses : ∀ entry ∈ world.store.working, entry.admits url = .ok false :=
      fun entry mem => refuses entry (mem_inListingOrder.mpr mem)
    rw [search]
    refine .added refuses (Database.nextId_not_mem world.store.working) ?_
    rw [Database.store_defaultEnsured, Database.ensured, if_neg (not_admitted_of_refuses refuses)]
    rfl

/-! ## Calls in a row -/

/-- Ensures the default address some times, one after the other. -/
def Management.ensureTimes (management : Management σ) : Nat → Run σ Unit
  | 0 => pure ()
  | n + 1 => do
    management.ensureDefault
    management.ensureTimes n

/-- A call that changes nothing can be repeated. -/
theorem on_ensureTimes_of_fixed {management : Management σ} {world : World σ}
    (fixed : on world management.ensureDefault = (.ok (), world)) (n : Nat) :
    on world (management.ensureTimes n) = (.ok (), world) := by
  induction n with
  | zero => rfl
  | succ n ih =>
    rw [Management.ensureTimes, Run.on_bind, fixed]
    exact ih

namespace Keeper

variable {management : Management σ} {entries : σ → List Entry} {valid : σ → Prop}
  {world after : World σ}

theorem kept (keeper : Keeper management entries valid) (ok : valid world.store)
    (ends : on world management.ensureDefault = (.ok (), after))
    (admitted : Admitted management.defaultUrl (entries world.store)) : after = world := by
  have call := keeper.ends world ok
  rw [ends] at call
  cases call with
  | kept => rfl
  | added refuses => exact absurd admitted (not_admitted_of_refuses refuses)

theorem added (keeper : Keeper management entries valid) (ok : valid world.store)
    (ends : on world management.ensureDefault = (.ok (), after))
    (free : ¬ Admitted management.defaultUrl (entries world.store)) :
    ∃ id, id ∉ (entries world.store).map Entry.id ∧
      entries after.store =
        entries world.store ++ [newEntry id management.defaultUrl Management.defaultName] := by
  have call := keeper.ends world ok
  rw [ends] at call
  cases call with
  | kept admitted => exact absurd admitted free
  | added _ unused appended => exact ⟨_, unused, appended⟩

/-- After a call that came to its end, another one writes nothing. -/
theorem again (keeper : Keeper management entries valid) (ok : valid world.store)
    (nonempty : management.defaultUrl ≠ "")
    (ends : on world management.ensureDefault = (.ok (), after)) :
    on after management.ensureDefault = (.ok (), after) := by
  have ok' : valid after.store := by
    have stays := keeper.stays world ok
    rwa [ends] at stays
  have call := keeper.ends world ok
  rw [ends] at call
  cases call with
  | kept => exact ends
  | @added id _ refuses _ appended =>
    let new := newEntry id management.defaultUrl Management.defaultName
    have admits : new.admits management.defaultUrl = .ok true := admits_newEntry nonempty _ _
    have mem : new ∈ entries after.store :=
      appended ▸ List.mem_append_right _ (List.mem_singleton_self new)
    have next := keeper.ends after ok'
    generalize on after management.ensureDefault = outcome at next
    cases next with
    | kept => rfl
    | @stopped entry fault found stops =>
      -- The old entries did not stop the first call, and the new one admits the address.
      rw [appended] at found
      rcases List.mem_append.mp found with found | found
      · rw [refuses entry found] at stops
        cases stops
      · rw [List.mem_singleton.mp found] at stops
        cases admits.symm.trans stops
    | added refuses' =>
      cases admits.symm.trans (refuses' new mem)

/-- Each call for the empty address adds an entry. -/
theorem grows (keeper : Keeper management entries valid) (empty : management.defaultUrl = "")
    (ok : valid world.store) (n : Nat) :
    ∃ (after : World σ) (ids : List Int),
      on world (management.ensureTimes n) = (.ok (), after) ∧ ids.length = n ∧
      (∀ id ∈ ids, id ∉ (entries world.store).map Entry.id) ∧ ids.Nodup ∧
      entries after.store =
        entries world.store ++ ids.map fun id => newEntry id "" Management.defaultName := by
  induction n generalizing world with
  | zero => exact ⟨world, [], rfl, rfl, by simp, List.nodup_nil, by simp⟩
  | succ n ih =>
    have call := keeper.ends world ok
    have ok' := keeper.stays world ok
    rw [empty] at call
    rw [Management.ensureTimes, Run.on_bind]
    generalize on world management.ensureDefault = outcome at call ok'
    cases call with
    | @stopped entry fault _ stops =>
      rw [admits_empty] at stops
      cases stops
    | kept admitted =>
      exact absurd admitted (not_admitted_of_refuses fun entry _ => admits_empty entry)
    | @added id middle _ unused appended =>
      obtain ⟨after, ids, ends, length, fresh, distinct, rows⟩ := ih ok'
      have fresh' : ∀ other ∈ ids,
          other ∉ (entries world.store).map Entry.id ∧ other ≠ id := by
        intro other mem
        have new := fresh other mem
        rw [appended, List.map_append, List.mem_append, not_or] at new
        exact ⟨new.1, fun same => new.2 (List.mem_singleton.mpr same)⟩
      refine ⟨after, id :: ids, ends, congrArg (· + 1) length, ?_, ?_, ?_⟩
      · exact List.forall_mem_cons.mpr ⟨unused, fun other mem => (fresh' other mem).1⟩
      · exact List.nodup_cons.mpr ⟨fun mem => (fresh' id mem).2 rfl, distinct⟩
      · rw [rows, appended, List.append_assoc]
        rfl

end Keeper

/-! ## Both registries -/

/-- What calls from a world on do. A call that comes to its end changes nothing if an entry admits
the default address, and otherwise appends one entry for it under an unused id. After it, unless the
address is empty, every further call comes to its end and changes nothing. For the empty address
every call comes to its end and appends an entry. -/
structure EnsuresOnce (management : Management σ) (entries : σ → List Entry) (world : World σ) :
    Prop where
  kept : ∀ after, on world management.ensureDefault = (.ok (), after) →
    Admitted management.defaultUrl (entries world.store) → after = world
  added : ∀ after, on world management.ensureDefault = (.ok (), after) →
    ¬ Admitted management.defaultUrl (entries world.store) →
    ∃ id, id ∉ (entries world.store).map Entry.id ∧
      entries after.store =
        entries world.store ++ [newEntry id management.defaultUrl Management.defaultName]
  again : management.defaultUrl ≠ "" →
    ∀ after, on world management.ensureDefault = (.ok (), after) →
    ∀ n, on after (management.ensureTimes n) = (.ok (), after)
  grows : management.defaultUrl = "" → ∀ n, ∃ (after : World σ) (ids : List Int),
    on world (management.ensureTimes n) = (.ok (), after) ∧ ids.length = n ∧
      (∀ id ∈ ids, id ∉ (entries world.store).map Entry.id) ∧ ids.Nodup ∧
      entries after.store =
        entries world.store ++ ids.map fun id => newEntry id "" Management.defaultName

theorem Keeper.ensuresOnce {management : Management σ} {entries : σ → List Entry}
    {valid : σ → Prop} (keeper : Keeper management entries valid) {world : World σ}
    (ok : valid world.store) : EnsuresOnce management entries world where
  kept _ ends admitted := keeper.kept ok ends admitted
  added _ ends free := keeper.added ok ends free
  again nonempty _ ends n := on_ensureTimes_of_fixed (keeper.again ok nonempty ends) n
  grows empty n := keeper.grows empty ok n

/-- Ensuring the default address is minimal in a registry in memory that gives its listing and in a
session of a database, whatever the patterns of the entries are, and it is idempotent unless the
address is empty. No entry admits the empty address. -/
theorem ensureDefault_once (url : String) :
    (∀ world : World Memory, world.store.Sound → world.store.returnsNone = false →
      EnsuresOnce (Memory.management url) Memory.entries world) ∧
    (∀ world : World Database, EnsuresOnce (Database.management url) Database.working world) ∧
    (url = "" → ∀ entry : Entry, entry.admits url = .ok false) := by
  refine ⟨fun world sound lists => ?_, fun world => ?_, ?_⟩
  · exact (Memory.keeper url).ensuresOnce ⟨sound, lists⟩
  · exact (Database.keeper url).ensuresOnce trivial
  · rintro rfl
    exact admits_empty

/-- The address is added once, after an entry that refuses it; the empty address is added by every
call. -/
theorem ensureDefault_once_added :
    let memory := Memory.ofEntries [newEntry 3 "a" "n"]
    let world : World Memory := ⟨memory, [], []⟩
    let after := (on world (Memory.management "u").ensureDefault).2
    let grown := (on world ((Memory.management "").ensureTimes 2)).2
    memory.Sound ∧ memory.returnsNone = false ∧ ¬ Admitted "u" memory.entries ∧
      after.store.entries = [newEntry 3 "a" "n", newEntry 4 "u" Management.defaultName] ∧
      on after ((Memory.management "u").ensureTimes 5) = (.ok (), after) ∧
      grown.store.entries.length = 3 := by
  intro memory world after grown
  have sound : memory.Sound := Memory.sound_ofEntries (by decide +kernel) false none
  have once : EnsuresOnce (Memory.management "u") Memory.entries world :=
    (ensureDefault_once "u").1 world sound rfl
  have ends : on world (Memory.management "u").ensureDefault = (.ok (), after) := by rfl
  have free : ¬ Admitted "u" memory.entries := by decide +kernel
  have stays : on after ((Memory.management "u").ensureTimes 5) = (.ok (), after) :=
    once.again (by decide) after ends 5
  obtain ⟨last, ids, calls, length, -, -, entries⟩ :=
    ((ensureDefault_once "").1 world sound rfl).grows rfl 2
  obtain rfl : grown = last := congrArg Prod.snd calls
  refine ⟨sound, rfl, free, by rfl, stays, ?_⟩
  rw [entries, List.length_append, List.length_map, length]
  rfl

end ServiceRegistry
