import Mathlib
import ServiceRegistry.Proofs.Registry.Administration
import ServiceRegistry.Proofs.Session.Values

/-!
# Sessions follow the two maps

The steps of a session on a database are the steps of its ledger. A table is kept a table by every
step: ids stay distinct and rows stay complete, whatever was given.

Results:

* `find_append`, `find_delete`, `find_replace`: changes of rows as changes of a map.
* `nextId_spec`, `full_of_nextId`: the next id in terms of the map.
* `Performs`, `perform_performs`: what one step does, by its kind.
* `step_takes`, `run_follows`: one step with the rollback after it, and all steps of a session.
* `run_leaves_maps`: ids that the database cannot take.
-/

namespace ServiceRegistry

open Database (find delete replace nextId isStorable IsTable DistinctIds ofRows)

/-! ## Tables as maps -/

namespace Database

variable {rows : List Entry} {row : Entry} {id : Int}

theorem mem_ids_ledger {database : Database} :
    id ∈ database.ledger.ids ↔ id ∈ database.working.map Entry.id :=
  find_isSome_iff

theorem find_eq_some_iff (distinct : DistinctIds rows) :
    find rows id = some row ↔ row ∈ rows ∧ row.id = id := by
  refine ⟨mem_of_find, fun ⟨mem, same⟩ => ?_⟩
  obtain ⟨found, known⟩ := Option.isSome_iff_exists.mp
    (find_isSome_iff.mpr (List.mem_map.mpr ⟨row, mem, same⟩))
  rw [known, distinct.eq_of_find known mem same]

theorem find_append (free : row.id ∉ rows.map Entry.id) :
    find (rows ++ [row]) = Function.update (find rows) row.id (some row) := by
  funext id
  unfold find
  rw [List.find?_append]
  by_cases same : id = row.id
  · subst same
    rw [Function.update_self, ← find, find_eq_none free]
    simp
  · rw [Function.update_of_ne same]
    have other : ¬ row.id = id := fun equal => same equal.symm
    simp [other]

theorem find_delete (rows : List Entry) (id : Int) :
    find (delete rows id) = Function.update (find rows) id none := by
  funext other
  by_cases same : other = id
  · subst same
    rw [Function.update_self]
    refine find_eq_none fun mem => ?_
    obtain ⟨row, mem, same⟩ := List.mem_map.mp mem
    simp [delete, same] at mem
  · rw [Function.update_of_ne same]
    unfold find delete
    rw [List.find?_filter]
    congr 1
    funext row
    by_cases is : row.id = other <;> simp [is, same]

theorem find_replace (same : row.id = id) (known : id ∈ rows.map Entry.id) :
    find (replace rows id row) = Function.update (find rows) id (some row) := by
  funext other
  have ids : (fun old : Entry => decide (old.id = other)) ∘
      (fun old => if old.id = id then row else old) = fun old => decide (old.id = other) := by
    funext old
    by_cases is : old.id = id <;> simp [is, same]
  have mapped : find (replace rows id row) other =
      (find rows other).map fun old => if old.id = id then row else old := by
    unfold find replace
    rw [List.find?_map, ids]
  rw [mapped]
  by_cases is : other = id
  · subst is
    obtain ⟨old, found⟩ := Option.isSome_iff_exists.mp (find_isSome_iff.mpr known)
    rw [Function.update_self, found, Option.map_some, if_pos (mem_of_find found).2]
  · rw [Function.update_of_ne is]
    cases found : find rows other with
    | none => rfl
    | some old =>
      have other : ¬ old.id = id := fun same => is ((mem_of_find found).2.symm.trans same)
      rw [Option.map_some, if_neg other]

theorem IsTable.append (table : IsTable rows) (stored : row.Stored)
    (free : row.id ∉ rows.map Entry.id) : IsTable (rows ++ [row]) where
  distinct := table.distinct.append free
  stored := by
    intro other mem
    rcases List.mem_append.mp mem with mem | mem
    · exact table.stored other mem
    · exact List.mem_singleton.mp mem ▸ stored

theorem IsTable.delete (table : IsTable rows) (id : Int) : IsTable (delete rows id) where
  distinct := distinctIds_delete table.distinct id
  stored row mem := table.stored row (List.mem_filter.mp mem).1

theorem IsTable.replace (table : IsTable rows) (stored : row.Stored) (same : row.id = id) :
    IsTable (replace rows id row) where
  distinct := by
    have ids : (Database.replace rows id row).map Entry.id = rows.map Entry.id := by
      unfold Database.replace
      rw [List.map_map]
      refine List.map_congr_left fun old _ => ?_
      by_cases is : old.id = id <;> simp [is, same]
    rw [DistinctIds, ids]
    exact table.distinct
  stored := by
    intro other mem
    obtain ⟨old, known, rfl⟩ := List.mem_map.mp mem
    split_ifs
    · exact stored
    · exact table.stored old known

/-- The listing of a table has all rows of its map. -/
theorem IsTable.lists {database : Database} (table : IsTable database.working) :
    database.ledger.Lists (inListingOrder database.working) where
  sorted := inListingOrder_precedes table.distinct
  complete row := by
    rw [mem_inListingOrder]
    exact ((find_eq_some_iff table.distinct).trans (and_iff_left rfl)).symm

/-- The ids of a table in ascending order. -/
theorem IsTable.sortedIds (table : IsTable rows) :
    ((rows.map Entry.id).mergeSort).Pairwise (· < ·) := by
  have perm := List.mergeSort_perm (rows.map Entry.id) fun a b => decide (a ≤ b)
  have sorted : ((rows.map Entry.id).mergeSort).Pairwise (· ≤ ·) := by
    refine (List.pairwise_mergeSort ?_ ?_ (rows.map Entry.id)).imp of_decide_eq_true
    · intro a b c
      simp only [decide_eq_true_eq]
      exact Int.le_trans
    · intro a b
      simp only [Bool.or_eq_true, decide_eq_true_eq]
      exact Int.le_total a b
  exact (sorted.and (perm.nodup_iff.mpr table.distinct)).imp fun both =>
    Int.lt_iff_le_and_ne.mpr both

/-! ## The next id -/

theorem greatest_ids {database : Database} {greatest : Int}
    (h : greatestId? database.working = some greatest) :
    IsGreatest database.ledger.ids greatest := by
  obtain ⟨mem, above⟩ := greatestId_eq_some_iff.mp h
  refine ⟨mem_ids_ledger.mpr mem, fun id known => ?_⟩
  obtain ⟨row, mem, rfl⟩ := List.mem_map.mp (mem_ids_ledger.mp known)
  exact above row mem

theorem nextId_spec {database : Database}
    (fits : isStorable (nextId database.working) = true) :
    Session.NextId database.ledger (nextId database.working) := by
  cases greatest : greatestId? database.working with
  | none =>
    have empty : database.working = [] := List.eq_nil_iff_forall_not_mem.mpr fun row mem => by
      obtain ⟨last, known, -⟩ := le_greatestId mem
      rw [greatest] at known
      cases known
    rw [empty]
    refine .first (Set.eq_empty_iff_forall_notMem.mpr fun id mem => ?_)
    rw [mem_ids_ledger, empty] at mem
    cases mem
  | some last =>
    have most := greatest_ids greatest
    have after : idAfter database.working = last + 1 := by rw [idAfter, greatest]
    cases room : isStorable (last + 1) with
    | true =>
      have next : nextId database.working = last + 1 := by
        rw [nextId, after]
        exact if_pos room
      rw [next]
      exact .after most room
    | false => exact .any most room fits

/-- When the next id does not have 64 bits, all positive ids that do are taken. -/
theorem full_of_nextId (large : isStorable (nextId rows) = false) {id : Int} (positive : 0 < id)
    (fits : isStorable id = true) : id ∈ rows.map Entry.id := by
  have full : isStorable (idAfter rows) = false := by
    by_contra room
    have next : nextId rows = idAfter rows := if_pos (by simpa using room)
    exact room (next ▸ large)
  obtain ⟨after, least⟩ := nextId_of_full full
  by_contra free
  have := least id positive free
  have := isStorable_iff.mp fits
  have small : isStorable (nextId rows) = true := isStorable_iff.mpr (by omega)
  rw [small] at large
  cases large

end Database

/-- Databases whose saved and working rows are tables. -/
structure Database.Sound (database : Database) : Prop where
  saved : IsTable database.saved
  working : IsTable database.working

namespace Session

open Run (on)

/-! ## Single steps -/

/-- No step on a single row stops with a refusal of the administration. -/
theorem Stops.isRefusal {ledger : Ledger} {step : Step} {fault : Fault}
    (stops : Stops ledger step fault) : isRefusal fault = false := by
  have refused {value : Field → Json} (refuses : Refuses value fault) :
      Session.isRefusal fault = false := by cases refuses <;> rfl
  have refusedTime {fields : List (String × Json)} (refuses : RefusesTime fields fault) :
      Session.isRefusal fault = false := by cases refuses <;> rfl
  cases stops with
  | add refuses | update _ refuses => exact refused refuses
  | addTime refuses | updateTime _ refuses => exact refusedTime refuses
  | pattern _ stops =>
    obtain ⟨cause, rfl⟩ := anyAdmits_stops stops
    rfl
  | taken | full | updateLarge | findLarge | deleteLarge => rfl

/-- What a step does before any rollback: it takes a step of the ledger to a sound database, or it
stops with the saved rows untouched. -/
def Performs (database : Database) (step : Step) : Except Fault Answer × World Database → Prop
  | (.ok answer, after) =>
    after.store.Sound ∧ Takes database.ledger step (.ok answer) after.store.ledger
  | (.error fault, after) =>
    after.store.saved = database.saved ∧ Stops database.ledger step fault

section Steps

variable {world : World Database} {step : Step}

/-- A result that needs no world is passed on, or the step stops there. -/
theorem Performs.lift {α : Type} {good : α → Prop} {result : Except Fault α}
    {next : α → Run Database Answer}
    (gives : Gives good (Stops world.store.ledger step) result)
    (more : ∀ a, good a → Performs world.store step (on world (next a))) :
    Performs world.store step (on world (Run.lift result >>= next)) := by
  rw [Run.on_bind, Run.on_lift]
  cases result with
  | ok a => exact more a gives
  | error fault => exact ⟨rfl, gives⟩

variable {fields : List (String × Json)} {fault : Fault}

/-- A refused new row is refused for one of its given values, or because no id is left for it. -/
theorem stops_of_refuses {database : Database} (may : ∀ field ∈ fields, MayAdd field)
    (refuses : Refuses (valueNew database.working fields) fault) :
    Stops database.ledger (.add fields) fault := by
  cases refuses with
  | @flag field n flag value =>
    have other : field ≠ .id := by
      rintro rfl
      cases flag
    exact .add (.flag flag ((valueNew_of_ne other).symm.trans value))
  | @large field n value large =>
    by_cases is : field = .id
    · subst is
      obtain ⟨id, known, given⟩ := valueNew_id may database.working
      obtain rfl : id = n := Json.int.inj (known.symm.trans value)
      rcases given with given | ⟨none, rfl⟩
      · have own : valueFor fields .id = .int id := by
          unfold valueFor
          rw [given]
          rfl
        exact .add (.large own large)
      · exact .full none fun id positive fits =>
          Database.mem_ids_ledger.mpr (Database.full_of_nextId large positive fits)
    · exact .add (.large ((valueNew_of_ne is).symm.trans value) large)
  | null needed other value =>
    exact .add (.null needed other ((valueNew_of_ne other).symm.trans value))

/-- A new row whose id is taken was given this id. -/
theorem stops_of_taken {database : Database} (may : ∀ field ∈ fields, MayAdd field) {id : Int}
    (known : id ∈ database.working.map Entry.id)
    (value : valueNew database.working fields .id = .int id) :
    Stops database.ledger (.add fields) (.storage .integrity) := by
  obtain ⟨own, is, given⟩ := valueNew_id may database.working
  obtain rfl : own = id := Json.int.inj (is.symm.trans value)
  rcases given with given | ⟨-, rfl⟩
  · exact .taken given (Database.mem_ids_ledger.mpr known)
  · exact absurd known (Database.nextId_not_mem database.working)

theorem perform_add (sound : world.store.Sound) (may : ∀ field ∈ fields, MayAdd field) :
    Performs world.store (.add fields) (on world (perform (.add fields))) := by
  rw [perform, ofNamed_eq may, Run.on_bind, Run.on_lift]
  refine .lift ((refuseTimes_gives fields).mono (fun _ times => times) fun _ => .addTime)
    fun _ times => ?_
  rw [Run.on_bind, Database.on_rows]
  refine .lift ((insert_gives may world.store.working).mono (fun _ row => row) ?_) ?_
  · rintro fault (refuses | ⟨rfl, id, known, value⟩)
    · exact stops_of_refuses may refuses
    · exact stops_of_taken may known value
  · rintro ⟨rows, row⟩ ⟨rfl, stored, values, value, free⟩
    have idOf : IdOf world.store.ledger fields row.id := by
      obtain ⟨id, known, given⟩ := valueNew_id may world.store.working
      obtain rfl : id = row.id := Json.int.inj (known.symm.trans value)
      unfold IdOf
      rcases given with given | ⟨none, next⟩
      · rw [given]
      · rw [none]
        have fits : isStorable row.id = true := stored.1
        rw [next] at fits ⊢
        exact Database.nextId_spec fits
    have unseen : row.id ∉ world.store.ledger.ids :=
      fun known => free (Database.mem_ids_ledger.mp known)
    have taken := Takes.add stored values idOf unseen
      (not_refusesTime times fun _ time => null_notMem_of_mayAdd may time)
    refine ⟨⟨sound.saved, sound.working.append stored free⟩, ?_⟩
    convert taken using 1
    exact congrArg (Ledger.mk _) (Database.find_append free)

theorem perform_update {id : Int} (sound : world.store.Sound)
    (may : ∀ field ∈ fields, MayUpdate field) :
    Performs world.store (.update id fields) (on world (perform (.update id fields))) := by
  rw [perform, Run.on_bind, Database.on_findRow]
  split_ifs with fits
  swap
  · exact ⟨rfl, .updateLarge (Bool.eq_false_of_not_eq_true fits)⟩
  cases found : find world.store.working id with
  | none => exact ⟨sound, .updateNone found⟩
  | some old =>
    obtain ⟨mem, rfl⟩ := Database.mem_of_find found
    have known : old.id ∈ world.store.working.map Entry.id := List.mem_map_of_mem mem
    have seen := Database.mem_ids_ledger.mpr known
    refine .lift ((refuseTimes_gives fields).mono (fun _ times => times) fun _ => .updateTime seen)
      fun _ times => ?_
    rw [Run.on_bind, Database.on_rows]
    refine .lift ((update_gives may world.store.working old).mono (fun _ row => row)
      fun _ => .update found) ?_
    rintro ⟨rows, row⟩ ⟨rfl, stored, same, values⟩
    refine .lift ((refuseNullTimes_gives fields).mono (fun _ nulls => nulls)
      fun _ => .updateTime seen) fun _ nulls => ?_
    have taken : Takes world.store.ledger (.update old.id fields) (.ok (.row (some row)))
        (world.store.ledger.put row) :=
      .update found stored same values (not_refusesTime times nulls)
    refine ⟨⟨sound.saved, sound.working.replace stored same⟩, ?_⟩
    convert taken using 1
    rw [Ledger.put, same]
    exact congrArg (Ledger.mk _) (Database.find_replace same known)

theorem perform_find {id : Int} (sound : world.store.Sound) :
    Performs world.store (.find id) (on world (perform (.find id))) := by
  rw [perform, Run.on_bind, Database.on_findRow]
  split_ifs with fits
  · exact ⟨sound, .find id⟩
  · exact ⟨rfl, .findLarge (Bool.eq_false_of_not_eq_true fits)⟩

theorem perform_delete {id : Int} (sound : world.store.Sound) :
    Performs world.store (.delete id) (on world (perform (.delete id))) := by
  simp only [perform, Database.registry, Run.on_bind, Database.on_findRow]
  split_ifs with fits
  swap
  · exact ⟨rfl, .deleteLarge (Bool.eq_false_of_not_eq_true fits)⟩
  refine ⟨⟨sound.saved, sound.working.delete id⟩, ?_⟩
  cases found : find world.store.working id with
  | none =>
    have same := Database.delete_of_find_eq_none found
    have taken : Takes world.store.ledger (.delete id) (.ok (.row none)) world.store.ledger :=
      .deleteNone found
    convert taken using 1
    exact congrArg (fun rows => Ledger.mk _ (find rows)) same
  | some row =>
    have taken : Takes world.store.ledger (.delete id) (.ok (.row (some row)))
        (world.store.ledger.without id) := .delete found
    convert taken using 1
    exact congrArg (Ledger.mk _) (Database.find_delete world.store.working id)

theorem perform_admits {url : String} (sound : world.store.Sound) :
    Performs world.store (.admits url) (on world (perform (.admits url))) := by
  simp only [perform, Database.registry, Run.on_bind, Database.on_rows, Run.on_lift]
  have lists := sound.working.lists
  cases search : anyAdmits url (inListingOrder world.store.working) with
  | error fault => exact ⟨rfl, .pattern lists search⟩
  | ok result => exact ⟨sound, .admits lists search⟩

theorem perform_ids (sound : world.store.Sound) :
    Performs world.store .ids (on world (perform .ids)) :=
  ⟨sound, .ids sound.working.sortedIds fun _ =>
    List.mem_mergeSort.trans Database.mem_ids_ledger.symm⟩

/-- Every step on single rows does what its kind says. -/
theorem perform_performs (sound : world.store.Sound) (admissible : step.Admissible) :
    Performs world.store step (on world (perform step)) := by
  cases step with
  | manage => exact absurd admissible id
  | add => exact perform_add sound admissible
  | update => exact perform_update sound admissible
  | find => exact perform_find sound
  | delete => exact perform_delete sound
  | admits => exact perform_admits sound
  | ids => exact perform_ids sound
  | listing => exact ⟨sound, .listing sound.working.lists⟩
  | commit => exact ⟨⟨sound.working, sound.working⟩, .commit⟩
  | rollback => exact ⟨⟨sound.saved, sound.saved⟩, .rollback⟩

/-! ## Sessions -/

/-- A step that stops with anything but a refusal is followed by a rollback. -/
theorem on_step_of_stops {after : World Database}
    (stops : on world (perform step) = (.error fault, after)) (other : isRefusal fault = false) :
    on world (Session.step step) =
      (.ok (.error fault), { after with store := after.store.rollback }) := by
  rw [Session.step, Run.on_bind, Run.on_attempt, stops]
  simp [other]

/-- One step of a session is one step of its ledger. -/
theorem step_takes (sound : world.store.Sound) (admissible : step.Admissible) :
    ∃ result after, on world (Session.step step) = (.ok result, after) ∧ after.store.Sound ∧
      Takes world.store.ledger step result after.store.ledger := by
  have performs := perform_performs sound admissible
  rcases performed : on world (perform step) with ⟨fault | answer, after⟩
  all_goals rw [performed] at performs
  · obtain ⟨saved, stops⟩ := performs
    refine ⟨_, _, on_step_of_stops performed stops.isRefusal, ?_, ?_⟩
    · rw [Database.rollback, saved]
      exact ⟨sound.saved, sound.saved⟩
    · rw [Database.rollback, saved]
      exact .stops stops
  · obtain ⟨sound, taken⟩ := performs
    refine ⟨_, after, ?_, sound, taken⟩
    rw [Session.step, Run.on_bind, Run.on_attempt, performed]
    rfl

end Steps

theorem run_follows_sound {database : Database} (sound : database.Sound) {steps : List Step}
    (admissible : ∀ step ∈ steps, step.Admissible) :
    Follows database.ledger steps
        ((run database steps).map fun one => (one.1, one.2.ledger)) ∧
      ∀ one ∈ run database steps, one.2.Sound := by
  induction steps generalizing database with
  | nil => exact ⟨.nil _, List.forall_mem_nil _⟩
  | cons first rest ih =>
    obtain ⟨this, others⟩ := List.forall_mem_cons.mp admissible
    let world : World Database := ⟨database, [], []⟩
    have start : world.store.Sound := sound
    obtain ⟨result, after, stepped, sound, taken⟩ := step_takes start this
    obtain ⟨follows, kept⟩ := ih sound others
    have runs : run database (first :: rest) = (result, after.store) :: run after.store rest := by
      rw [run, stepped]
      rfl
    rw [runs, List.map_cons]
    exact ⟨.cons taken follows, List.forall_mem_cons.mpr ⟨sound, kept⟩⟩

/-- A session on a table follows its two maps: from the committed rows every step on single rows
with admissible values gives what the maps give, changes what they change, and goes back to the
saved map where it stops. The rows stay a table. -/
theorem run_follows {rows : List Entry} (table : IsTable rows) {steps : List Step}
    (admissible : ∀ step ∈ steps, step.Admissible) :
    Follows (ofRows rows).ledger steps
        ((run (ofRows rows) steps).map fun one => (one.1, one.2.ledger)) ∧
      ∀ one ∈ run (ofRows rows) steps, IsTable one.2.saved ∧ IsTable one.2.working := by
  have sound : (ofRows rows).Sound := ⟨table, table⟩
  obtain ⟨follows, kept⟩ := run_follows_sound sound admissible
  exact ⟨follows, fun one mem => ⟨(kept one mem).saved, (kept one mem).working⟩⟩

/-- An id is given again after its row was removed, and a step that stops brings both changes
back. -/
theorem run_follows_again :
    let rows := [newEntry 5 "a" "n"]
    let again := Step.add [("id", .int 5), ("service_id", .text "b"), ("name", .text "m")]
    let steps := [.delete 5, again, .commit, .delete 5, .add [("service_id", .text "c")]]
    IsTable rows ∧ (∀ step ∈ steps, step.Admissible) ∧
      (run (ofRows rows) steps).map (fun one => one.2.working.map Entry.name) =
        [[], [some "m"], [some "m"], [], [some "m"]] ∧
      Follows (ofRows rows).ledger steps
        ((run (ofRows rows) steps).map fun one => (one.1, one.2.ledger)) ∧
      ∀ one ∈ run (ofRows rows) steps, IsTable one.2.saved ∧ IsTable one.2.working := by
  intro rows again steps
  have table : IsTable rows := ⟨by decide, by decide⟩
  have pattern (s : String) : MayAdd ("service_id", .text s) := @MayAdd.fits .serviceId _ (.text s)
  have name (s : String) : MayAdd ("name", .text s) := @MayAdd.fits .name _ (.text s)
  have id (n : Int) : MayAdd ("id", .int n) := @MayAdd.fits .id _ (.number n)
  have admissible : ∀ step ∈ steps, step.Admissible := by
    simp only [steps, again, List.forall_mem_cons, Step.Admissible, pattern, name, id,
      List.not_mem_nil, false_implies, implies_true, and_self]
  have names : (run (ofRows rows) steps).map (fun one => one.2.working.map Entry.name) =
      [[], [some "m"], [some "m"], [], [some "m"]] := by cbv
  exact ⟨table, admissible, names, run_follows table admissible⟩

/-- A removal for an id that no row has may stop, and then it drops unsaved changes. After the
greatest number of 64 bits there is none left, and a new row gets another id. -/
theorem run_leaves_maps :
    let fields := [("service_id", Json.text "a"), ("name", .text "n")]
    let row := newEntry 1 "a" "n"
    let last := newEntry 9223372036854775807 "b" "m"
    run (ofRows []) [.add fields, .delete 9223372036854775808] =
        [(.ok (.row (some row)), ⟨[], [row]⟩), (.error .integerTooLarge, ⟨[], []⟩)] ∧
      ∃ row after, run (ofRows [last]) [.add fields] = [(.ok (.row (some row)), after)] ∧
        row.id ≠ last.id + 1 := by
  intro fields row last
  exact ⟨by cbv, row, ⟨[last], [last, row]⟩, by cbv, by decide⟩

end Session

end ServiceRegistry
