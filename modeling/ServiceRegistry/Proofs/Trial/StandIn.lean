import ServiceRegistry.Proofs.Registry.Administration
import ServiceRegistry.Proofs.Registry.Listing
import ServiceRegistry.Proofs.Trial.Changes
import ServiceRegistry.Registry.Session

/-!
# The registry in memory stands in for the database

The administration is performed over a registry in memory without faults, and in a session of a
database. As long as both have the same entries and give the same next id, an operation gives the
same result and leaves the same entries in both. They part in three ways: the database gives the id
of a removed last row again, it takes numbers of 64 bits alone, and it undoes a step that stops
with anything but a refusal.

Results:

* `Database.Plain`: rows of which no operation stops but by a refusal.
* `Trial.StandsIn`: the relation between the two registries.
* `Trial.Alike`: what is related after an operation; each operation of the administration keeps it.
* `Trial.run_stands_in`: a run gives the same results and listings in both.
-/

namespace ServiceRegistry

open Run (on)

/-! ## Plain rows -/

namespace Database

/-- Rows with distinct ids that can be shown, and whose patterns can be read. -/
structure Plain (url : String) (rows : List Entry) : Prop where
  distinct : DistinctIds rows
  complete : ∀ row ∈ rows, row.Complete
  readable : ∀ row ∈ rows, ∃ admits, row.admits url = .ok admits

namespace Plain

variable {url : String} {rows : List Entry}

theorem search (plain : Plain url rows) :
    anyAdmits url rows = .ok (decide (Admitted url rows)) :=
  anyAdmits_of_readable plain.readable

theorem search_inListingOrder (plain : Plain url rows) :
    anyAdmits url (inListingOrder rows) = .ok (decide (Admitted url rows)) := by
  have readable : ∀ row ∈ inListingOrder rows, ∃ admits, row.admits url = .ok admits :=
    fun row mem => plain.readable row (mem_inListingOrder.mp mem)
  rw [anyAdmits_of_readable readable, decide_eq_decide.mpr admitted_inListingOrder]

/-- An entry that is made for the default address can be shown, and its pattern can be read. -/
theorem append (plain : Plain url rows) {id : Int} (unused : id ∉ rows.map Entry.id) :
    Plain url (rows ++ [newEntry id url Management.defaultName]) := by
  have readable : ∃ admits,
      (newEntry id url Management.defaultName).admits url = .ok admits := by
    rcases eq_or_ne url "" with rfl | nonempty
    · exact ⟨false, admits_empty _⟩
    · exact ⟨true, admits_newEntry nonempty _ _⟩
  refine ⟨plain.distinct.append unused, ?_, ?_⟩
  · intro row mem
    rcases List.mem_append.mp mem with mem | mem
    · exact plain.complete row mem
    · rw [List.mem_singleton.mp mem]
      exact ⟨rfl, rfl⟩
  · intro row mem
    rcases List.mem_append.mp mem with mem | mem
    · exact plain.readable row mem
    · rwa [List.mem_singleton.mp mem]

theorem ensured (plain : Plain url rows) : Plain url (ensured url rows) := by
  unfold Database.ensured withDefault
  split_ifs
  · exact plain
  · exact plain.append (nextId_not_mem rows)

theorem delete (plain : Plain url rows) (id : Int) : Plain url (delete rows id) :=
  ⟨distinctIds_delete plain.distinct id,
    fun row mem => plain.complete row (List.mem_filter.mp mem).1,
    fun row mem => plain.readable row (List.mem_filter.mp mem).1⟩

/-- Positions have no part in whether an entry can be shown or its pattern can be read. -/
theorem reorders (plain : Plain url rows) {ids : List Int} {after : List Entry}
    (reorders : Reorders ids rows after) : Plain url after := by
  constructor
  · rw [DistinctIds, reorders.map_id_eq]
    exact plain.distinct
  · intro row mem
    obtain ⟨old, found, same⟩ := reorders.exists_old mem
    rw [same]
    exact plain.complete old found
  · intro row mem
    obtain ⟨old, found, same⟩ := reorders.exists_old mem
    rw [Entry.admits_congr same.serviceId]
    exact plain.readable old found

end Plain

end Database

/-! ## Two registries that agree -/

namespace Trial

open Database (Plain find delete ensured defaultEnsured withRows isStorable)
open Memory (withMemory)

/-- A registry in memory without faults that has the entries a session sees and gives the next id
after the greatest of them. -/
structure StandsIn (url : String) (memory : Memory) (database : Database) : Prop where
  entries : memory.entries = database.working
  nextId : memory.nextId = idAfter database.working
  lists : memory.returnsNone = false
  saves : memory.failsOn = none
  plain : Plain url database.working

/-- All ids have 64 bits. -/
def Fits (entries : List Entry) : Prop :=
  ∀ entry ∈ entries, isStorable entry.id = true

instance (entries : List Entry) : Decidable (Fits entries) :=
  inferInstanceAs (Decidable (∀ entry ∈ entries, _))

/-- An operation had the same result in both registries, which it did not undo, and they still
agree. -/
structure Alike {α : Type} (url : String) (memory : Except Fault α × World Memory)
    (database : Except Fault α × World Database) : Prop where
  result : memory.1 = database.1
  refusal : ∀ fault, database.1 = .error fault → Session.isRefusal fault = true
  stands : StandsIn url memory.2.store database.2.store

namespace StandsIn

variable {url : String} {memory : Memory} {database : Database}

theorem remove (stands : StandsIn url memory database) {id : Int}
    (keeps : greatestId? memory.entries ≠ some id) :
    StandsIn url (memory.remove id) ⟨database.saved, delete database.working id⟩ := by
  have distinct : Database.DistinctIds memory.entries := stands.entries ▸ stands.plain.distinct
  refine ⟨?_, ?_, stands.lists, stands.saves, stands.plain.delete id⟩
  · rw [Memory.entries_remove distinct, stands.entries]
  · rw [stands.entries] at keeps
    exact stands.nextId.trans (Database.idAfter_delete keeps).symm

theorem assign (stands : StandsIn url memory database) (id position : Int) :
    StandsIn url ((memory.assign id position).countSave id)
      ⟨database.saved, Database.place database.working id position⟩ := by
  have distinct : Database.DistinctIds memory.entries := stands.entries ▸ stands.plain.distinct
  refine ⟨?_, ?_, stands.lists, stands.saves, stands.plain.reorders (.of_place _ id position)⟩
  · show (memory.assign id position).entries = _
    rw [Memory.entries_assign distinct, stands.entries]
  · exact stands.nextId.trans
      (Database.idAfter_congr (Database.map_id_place database.working id position).symm)

/-- The default address gets the same id in both, if that has 64 bits. -/
theorem register (stands : StandsIn url memory database) (free : ¬ Admitted url database.working)
    (fits : isStorable memory.nextId = true) :
    StandsIn url (memory.register url Management.defaultName)
      ⟨database.saved, ensured url database.working⟩ := by
  have same : ensured url database.working =
      database.working ++ [newEntry memory.nextId url Management.defaultName] := by
    rw [stands.nextId] at fits
    rw [ensured, if_neg free, Database.withDefault, Database.nextId, if_pos fits, stands.nextId]
  refine ⟨?_, ?_, stands.lists, stands.saves, stands.plain.ensured⟩
  · rw [same, ← stands.entries]
    rfl
  · show memory.nextId + 1 = idAfter (ensured url database.working)
    rw [same, stands.nextId, Database.idAfter_append]

theorem ensured {trial : World Memory} {session : World Database}
    (stands : StandsIn url trial.store session.store)
    (fits : Fits (Memory.defaultEnsured url trial).store.entries) :
    StandsIn url (Memory.defaultEnsured url trial).store (defaultEnsured url session).store := by
  rw [Database.store_defaultEnsured]
  unfold Memory.defaultEnsured at fits ⊢
  by_cases admitted : Admitted url session.store.working
  · rw [stands.entries, if_pos admitted, Database.ensured, if_pos admitted]
    exact stands
  · rw [stands.entries, if_neg admitted] at fits ⊢
    refine stands.register admitted
      (fits (newEntry trial.store.nextId url Management.defaultName) ?_)
    exact List.mem_append_right _ (List.mem_singleton_self _)

end StandsIn

/-! ## Operations -/

section Operations

variable {url : String} {trial : World Memory} {session : World Database}

theorem StandsIn.on_ensureDefault (stands : StandsIn url trial.store session.store) :
    on trial (Memory.management url).ensureDefault = (.ok (), Memory.defaultEnsured url trial) := by
  have search := stands.plain.search
  rw [← stands.entries] at search
  exact Memory.on_ensureDefault_of_lists url stands.lists search

theorem Alike.answer {α β : Type} {operation : Run Memory α} {operation' : Run Database α}
    (alike : Alike url (on trial operation) (on session operation')) (answer : α → β) :
    Alike url (on trial (do return answer (← operation)))
      (on session (do return answer (← operation'))) := by
  obtain ⟨result, refusal, stands⟩ := alike
  rw [Run.on_bind, Run.on_bind]
  generalize on trial operation = first at result stands ⊢
  generalize on session operation' = second at result refusal stands ⊢
  rcases first with ⟨_ | _, _⟩ <;> rcases second with ⟨_ | _, _⟩ <;> cases result
  · exact ⟨rfl, by simpa using refusal, stands⟩
  · exact ⟨rfl, fun fault h => (by cases h), stands⟩

theorem ensureDefault_alike (stands : StandsIn url trial.store session.store)
    (fits : Fits (on trial (Memory.management url).ensureDefault).2.store.entries) :
    Alike url (on trial (Memory.management url).ensureDefault)
      (on session (Database.management url).ensureDefault) := by
  rw [stands.on_ensureDefault] at fits ⊢
  rw [Database.on_ensureDefault, stands.plain.search_inListingOrder]
  exact ⟨rfl, fun fault h => (by cases h), stands.ensured fits⟩

theorem manageView_alike (stands : StandsIn url trial.store session.store)
    (fits : Fits (on trial (Memory.management url).manageView).2.store.entries) :
    Alike url (on trial (Memory.management url).manageView)
      (on session (Database.management url).manageView) := by
  rw [Memory.on_manageView, stands.on_ensureDefault] at fits ⊢
  rw [Database.on_manageView, stands.plain.search_inListingOrder]
  exact ⟨rfl, fun fault h => (by cases h), stands.ensured fits⟩

theorem list_alike (stands : StandsIn url trial.store session.store)
    (fits : Fits (on trial (Memory.management url).list).2.store.entries) :
    Alike url (on trial (Memory.management url).list)
      (on session (Database.management url).list) := by
  rw [Memory.on_list, stands.on_ensureDefault] at fits ⊢
  rw [Database.on_list, stands.plain.search_inListingOrder]
  have after := stands.ensured fits
  rw [Database.store_defaultEnsured] at after
  have listed : (Memory.defaultEnsured url trial).store.listing.getD [] =
      inListingOrder (Database.ensured url session.store.working) := by
    rw [Memory.listing, after.lists, after.entries]
    rfl
  refine ⟨congrArg (List.mapM Entry.project) listed, fun fault stops => ?_, stands.ensured fits⟩
  obtain ⟨_, shown⟩ := mapM_project_of_complete fun row mem =>
    after.plain.complete row (mem_inListingOrder.mp mem)
  exact absurd (shown.symm.trans stops) (by simp)

theorem delete_alike (stands : StandsIn url trial.store session.store) {id : Int}
    (known : isStorable id = true) (keeps : greatestId? trial.store.entries ≠ some id)
    (fits : Fits (on trial ((Memory.management url).delete id)).2.store.entries) :
    Alike url (on trial ((Memory.management url).delete id))
      (on session ((Database.management url).delete id)) := by
  have removed := stands.remove keeps
  have same : trial.store.find id = find session.store.working id := by
    rw [Memory.find, stands.entries, find]
  rw [Memory.on_delete, same] at fits ⊢
  rw [Database.on_delete, if_pos known]
  cases search : find session.store.working id with
  | none =>
    rw [Database.delete_of_find_eq_none search] at removed
    exact ⟨rfl, fun fault h => (by cases h; rfl), removed⟩
  | some row =>
    have without : StandsIn url (withMemory trial (trial.store.remove id)).store
        (withRows session (delete session.store.working id)).store := removed
    rw [search] at fits
    simp only [without.on_ensureDefault, removed.plain.search_inListingOrder] at fits ⊢
    refine ⟨rfl, fun fault stops => ?_, without.ensured fits⟩
    obtain ⟨found, -⟩ := Database.mem_of_find search
    obtain ⟨name, named⟩ := Option.isSome_iff_exists.mp (stands.plain.complete row found).2
    rw [Management.removedName, named] at stops
    cases stops

/-- Wherever giving the positions stops, as many were given in both. -/
theorem placeFrom_alike (stands : StandsIn url trial.store session.store) {position : Nat}
    {ids : List Int} (known : ∀ id ∈ ids, isStorable id = true)
    (room : position + ids.length ≤ 2 ^ 63) :
    Alike url (on trial ((Memory.management url).placeFrom position ids))
      (on session ((Database.management url).placeFrom position ids)) := by
  induction ids generalizing trial session position with
  | nil => exact ⟨rfl, fun fault h => (by cases h), stands⟩
  | cons id rest ih =>
    rw [List.length_cons] at room
    have same : trial.store.find id = find session.store.working id := by
      rw [Memory.find, stands.entries, find]
    have storable : isStorable position = true := Database.isStorable_natCast (by omega)
    rw [Memory.on_placeFrom_cons, Database.on_placeFrom_cons stands.plain.distinct, same,
      if_pos (known id List.mem_cons_self), stands.saves]
    cases find session.store.working id with
    | none => exact ⟨rfl, fun fault h => (by cases h; rfl), stands⟩
    | some row =>
      simp only [reduceCtorEq, if_false, storable, if_true]
      exact ih (stands.assign id position)
        (fun other mem => known other (List.mem_cons_of_mem id mem)) (by omega)

/-- An operation whose numbers the database can take. -/
def Storable : Management.Operation → Prop
  | .delete id => isStorable id = true
  | .reorder (some ids) => (∀ id ∈ ids, isStorable id = true) ∧ ids.length ≤ 2 ^ 63
  | _ => True

instance : DecidablePred Storable
  | .delete id => inferInstanceAs (Decidable (isStorable id = true))
  | .reorder (some ids) =>
    inferInstanceAs (Decidable ((∀ id ∈ ids, isStorable id = true) ∧ ids.length ≤ 2 ^ 63))
  | .reorder none | .ensure | .list | .manage | .authorizationFailure | .logout => .isTrue trivial

/-- A step that does not remove the entry of the greatest id. -/
def KeepsLast (entries : List Entry) : Step → Prop
  | .perform (.delete id) => greatestId? entries ≠ some id
  | _ => True

instance (entries : List Entry) : DecidablePred (KeepsLast entries)
  | .perform (.delete id) => inferInstanceAs (Decidable (greatestId? entries ≠ some id))
  | .perform .ensure | .perform .list | .perform .manage | .perform .authorizationFailure
  | .perform .logout | .perform (.reorder _) | .setFaults _ _ => .isTrue trivial

theorem perform_alike (stands : StandsIn url trial.store session.store)
    (operation : Management.Operation) (known : Storable operation)
    (keeps : KeepsLast trial.store.entries (.perform operation))
    (fits : Fits (on trial ((Memory.management url).perform operation)).2.store.entries) :
    Alike url (on trial ((Memory.management url).perform operation))
      (on session ((Database.management url).perform operation)) := by
  cases operation with
  | ensure =>
    rw [Management.perform, store_answer trial _ fun _ => Management.Answer.nothing] at fits
    exact (ensureDefault_alike stands fits).answer fun _ => Management.Answer.nothing
  | list =>
    rw [Management.perform, store_answer] at fits
    exact (list_alike stands fits).answer _
  | manage =>
    rw [Management.perform, store_answer] at fits
    exact (manageView_alike stands fits).answer _
  | authorizationFailure => exact ⟨rfl, fun fault h => (by cases h), stands⟩
  | logout => exact ⟨rfl, fun fault h => (by cases h), stands⟩
  | delete id =>
    rw [Management.perform, store_answer] at fits
    exact (delete_alike stands known keeps fits).answer _
  | reorder ids =>
    refine Alike.answer ?_ fun _ => Management.Answer.nothing
    rcases ids with _ | _ | ⟨first, rest⟩
    · exact ⟨rfl, fun fault h => (by cases h; rfl), stands⟩
    · exact ⟨rfl, fun fault h => (by cases h; rfl), stands⟩
    · obtain ⟨known, short⟩ := known
      exact placeFrom_alike stands known (by omega)

end Operations

/-! ## Runs -/

/-- A step that stops with a refusal is not undone. -/
theorem on_step {world after : World Database} {step : Session.Step}
    {result : Except Fault Session.Answer}
    (h : on world (Session.perform step) = (result, after))
    (refusal : ∀ fault, result = .error fault → Session.isRefusal fault = true) :
    on world (Session.step step) = (.ok result, after) := by
  rw [Session.step, Run.on_bind, Run.on_attempt, h]
  cases result with
  | ok answer => rfl
  | error fault => simp [refusal fault rfl]

theorem on_perform_manage (world : World Database) (url : String)
    (operation : Management.Operation) :
    on world (Session.perform (.manage url operation)) =
      ((on world ((Database.management url).perform operation)).1.map .managed,
        (on world ((Database.management url).perform operation)).2) := by
  rw [Session.perform, Run.on_bind]
  rcases on world ((Database.management url).perform operation) with ⟨_ | _, _⟩ <;> rfl

/-- A step of a session does what the same step does to a registry that stands in for it. -/
theorem session_run_cons {url : String} {memory : Memory} {database : Database}
    (stands : StandsIn url memory database) {operation : Management.Operation}
    (known : Storable operation) (keeps : KeepsLast memory.entries (.perform operation))
    (fits : Fits (take url memory (.perform operation)).after.entries)
    (rest : List Session.Step) :
    ∃ next, StandsIn url (take url memory (.perform operation)).after next ∧
      Session.run database (.manage url operation :: rest) =
        ((take url memory (.perform operation)).result.map .managed, next) ::
          Session.run next rest := by
  let trial : World Memory := ⟨memory, [], []⟩
  let session : World Database := ⟨database, [], []⟩
  have alike : Alike url (on trial ((Memory.management url).perform operation))
      (on session ((Database.management url).perform operation)) :=
    perform_alike stands operation known keeps fits
  have refusal : ∀ fault, ((on session ((Database.management url).perform operation)).1.map
      Session.Answer.managed) = .error fault → Session.isRefusal fault = true :=
    fun fault stops => alike.refusal fault (map_eq_error.mp stops)
  have stepped := on_step (on_perform_manage session url operation) refusal
  refine ⟨_, alike.stands, ?_⟩
  rw [Session.run, stepped, ← alike.result]
  rfl

/-- The administration of rows with distinct ids, patterns and names, none of whose patterns stops
the search for the default address, has the same results over a registry in memory and in a session
of the database, and leaves the same entries, listed in the same order. This holds as long as no
step removes the entry of the greatest id, and the registry in memory gives no id that has more
than 64 bits. -/
theorem run_stands_in (url : String) (rows : List Entry) (distinct : Database.DistinctIds rows)
    (complete : ∀ row ∈ rows, row.Complete)
    (readable : ∀ row ∈ rows, ∃ admits, row.admits url = .ok admits)
    (operations : List Management.Operation) (known : ∀ one ∈ operations, Storable one)
    (keeps : ∀ t ∈ run url (.ofEntries rows) (operations.map .perform),
      KeepsLast t.before.entries t.step)
    (fits : ∀ t ∈ run url (.ofEntries rows) (operations.map .perform), Fits t.after.entries) :
    (Session.run (.ofRows rows) (operations.map (.manage url))).map
        (fun step => (step.1, inListingOrder step.2.working)) =
      (run url (.ofEntries rows) (operations.map .perform)).map
        fun t => (t.result.map .managed, inListingOrder t.after.entries) := by
  have start : StandsIn url (.ofEntries rows) (.ofRows rows) :=
    ⟨rfl, rfl, rfl, rfl, distinct, complete, readable⟩
  clear distinct complete readable
  generalize Memory.ofEntries rows = memory at start keeps fits ⊢
  generalize Database.ofRows rows = database at start ⊢
  induction operations generalizing memory database with
  | nil => rfl
  | cons operation rest ih =>
    obtain ⟨first, known⟩ := List.forall_mem_cons.mp known
    obtain ⟨keeps_first, keeps⟩ := List.forall_mem_cons.mp keeps
    obtain ⟨fits_first, fits⟩ := List.forall_mem_cons.mp fits
    rw [take_before, take_step] at keeps_first
    obtain ⟨next, stands, same⟩ := session_run_cons start first keeps_first fits_first
      (rest.map (.manage url))
    rw [List.map_cons, same, List.map_cons, ih known _ keeps fits next stands, ← stands.entries]
    rfl

/-- A reordering that stops at an unknown id keeps the position it has given in both. -/
theorem run_stands_in_failing :
    let rows := [newEntry 1 "a" "n", newEntry 2 "b" "m"]
    let operations := [.ensure, .reorder (some [2, 9]), .delete 1]
    Database.DistinctIds rows ∧ (∀ row ∈ rows, row.Complete) ∧
      (∀ row ∈ rows, ∃ admits, row.admits "u" = .ok admits) ∧
      (∀ one ∈ operations, Storable one) ∧
      (∀ t ∈ run "u" (.ofEntries rows) (operations.map .perform),
        KeepsLast t.before.entries t.step) ∧
      (∀ t ∈ run "u" (.ofEntries rows) (operations.map .perform), Fits t.after.entries) ∧
      (Session.run (.ofRows rows) (operations.map (.manage "u"))).map
          (fun step => (step.1, inListingOrder step.2.working)) =
        (run "u" (.ofEntries rows) (operations.map .perform)).map
          fun t => (t.result.map .managed, inListingOrder t.after.entries) := by
  intro rows operations
  have distinct : Database.DistinctIds rows := by decide +kernel
  have complete : ∀ row ∈ rows, row.Complete := by decide +kernel
  have readable : ∀ row ∈ rows, ∃ admits, row.admits "u" = .ok admits := by
    simp only [rows, List.forall_mem_cons]
    exact ⟨⟨false, by rfl⟩, ⟨false, by rfl⟩, by simp⟩
  have known : ∀ one ∈ operations, Storable one := by decide +kernel
  have keeps : ∀ t ∈ run "u" (.ofEntries rows) (operations.map .perform),
      KeepsLast t.before.entries t.step := by decide +kernel
  have fits : ∀ t ∈ run "u" (.ofEntries rows) (operations.map .perform),
      Fits t.after.entries := by decide +kernel
  exact ⟨distinct, complete, readable, known, keeps, fits,
    run_stands_in "u" rows distinct complete readable operations known keeps fits⟩

/-- After the greatest number of 64 bits the registry in memory goes on counting, and the database
gives an id that is free. -/
theorem last_id_differs :
    let rows := [newEntry 9223372036854775807 "a" "n"]
    Database.DistinctIds rows ∧ Fits rows ∧ (∀ row ∈ rows, row.Complete) ∧
      (∀ row ∈ rows, ∃ admits, row.admits "u" = .ok admits) ∧
      (∀ t ∈ run "u" (.ofEntries rows) [.perform .ensure], KeepsLast t.before.entries t.step) ∧
      (Session.run (.ofRows rows) [.manage "u" .ensure]).map
          (fun step => (step.1, inListingOrder step.2.working)) ≠
        (run "u" (.ofEntries rows) [.perform .ensure]).map
          fun t => (t.result.map .managed, inListingOrder t.after.entries) := by
  intro rows
  refine ⟨by decide +kernel, by decide +kernel, by decide +kernel, ?_, by decide +kernel, ?_⟩
  · simp only [rows, List.forall_mem_cons]
    exact ⟨⟨false, by rfl⟩, by simp⟩
  · intro same
    let session := (Session.run (.ofRows rows) [.manage "u" .ensure]).map (·.2.working)
    let trial := (run "u" (.ofEntries rows) [.perform .ensure]).map (·.after.entries)
    have listed : session.map inListingOrder = trial.map inListingOrder := by
      have second := congrArg (List.map Prod.snd) same
      rwa [List.map_map, List.map_map] at second
    have given : ∀ entries ∈ trial, ∃ entry ∈ entries, entry.id = 9223372036854775808 := by
      decide +kernel
    have fits : ∀ entries ∈ session, Fits entries := by decide +kernel
    obtain ⟨entries, mem⟩ : ∃ entries, entries ∈ trial := ⟨_, List.mem_cons_self⟩
    obtain ⟨entry, found, id⟩ := given entries mem
    have there : inListingOrder entries ∈ session.map inListingOrder :=
      listed ▸ List.mem_map_of_mem mem
    obtain ⟨stored, mem, order⟩ := List.mem_map.mp there
    have found : entry ∈ stored := by
      rwa [← mem_inListingOrder, order, mem_inListingOrder]
    have storable := fits stored mem entry found
    rw [id] at storable
    exact absurd storable (by decide)

end Trial

end ServiceRegistry
