import Mathlib.Algebra.Group.Nat.Defs
import ServiceRegistry.Proofs.Registry.Rows
import ServiceRegistry.Proofs.Run

/-!
# The administration of a table

What each operation of the administration does in a session of the database: its result and the
world after it, for every world before it. The committed rows are never touched before the commit.

Results:

* `Database.on_ensureDefault`, `on_manageView`, `on_list`, `on_delete`: the operations that keep
  the default address registered.
* `Database.on_placeFrom_cons`: one step of giving ids their positions.
* `Database.on_placeFrom_append`: ids of the table come to their positions.
* `Database.placeFrom_ok`, `Database.placeFrom_saved`: a whole run of it.
-/

namespace ServiceRegistry.Database

open Run (on)

/-- The administration of a database. -/
abbrev management (url : String) : Management Database := ⟨registry, url⟩

/-- The world in which the session sees other rows. -/
def withRows (world : World Database) (rows : List Entry) : World Database :=
  { world with store := { world.store with working := rows } }

@[simp] theorem store_withRows (world : World Database) (rows : List Entry) :
    (withRows world rows).store = ⟨world.store.saved, rows⟩ := rfl

/-- The world after the default address was ensured: if no row admits it, there is one more row and
a record of it. -/
def defaultEnsured (url : String) (world : World Database) : World Database :=
  if Admitted url world.store.working then world
  else
    { withRows world (withDefault url world.store.working) with
      log := world.log ++ [⟨.info, Management.loggerName, "Registering default service " ++ url,
        none⟩] }

@[simp] theorem store_defaultEnsured (url : String) (world : World Database) :
    (defaultEnsured url world).store = ⟨world.store.saved, ensured url world.store.working⟩ := by
  unfold defaultEnsured ensured
  split_ifs <;> rfl

/-! ## Requests to the registry -/

@[simp] theorem on_rows (world : World Database) :
    on world rows = (.ok world.store.working, world) := rfl

@[simp] theorem on_setRows (world : World Database) (rows : List Entry) :
    on world (setRows rows) = (.ok (), withRows world rows) := rfl

@[simp] theorem on_findRow (world : World Database) (id : Int) :
    on world (findRow id) =
      if isStorable id then (.ok (find world.store.working id), world)
      else (.error .integerTooLarge, world) := by
  unfold findRow storable
  split_ifs <;> simp [Except.map]

/-- The world after the session committed. -/
def committed (world : World Database) : World Database :=
  { world with store := world.store.commit }

@[simp] theorem store_committed (world : World Database) :
    (committed world).store = ⟨world.store.working, world.store.working⟩ := rfl

@[simp] theorem on_commit (world : World Database) :
    on world registry.commit = (.ok (), committed world) := rfl

theorem delete_of_find_eq_none {rows : List Entry} {id : Int} (h : find rows id = none) :
    delete rows id = rows := by
  rw [find, List.find?_eq_none] at h
  exact List.filter_eq_self.mpr fun row mem => by simpa using h row mem

/-! ## Operations that keep the default address registered -/

theorem on_ensureDefault (world : World Database) (url : String) :
    on world (management url).ensureDefault =
      match anyAdmits url (inListingOrder world.store.working) with
      | .ok _ => (.ok (), defaultEnsured url world)
      | .error fault => (.error fault, world) := by
  simp only [Management.ensureDefault, registry, Run.on_bind, on_rows, Run.on_pure, Run.on_lift]
  cases search : anyAdmits url (inListingOrder world.store.working) with
  | error fault => rfl
  | ok result =>
    have means := anyAdmits_inListingOrder search
    cases result with
    | true =>
      have admitted : Admitted url world.store.working := of_decide_eq_true means.symm
      simp [defaultEnsured, admitted]
    | false =>
      have free : ¬ Admitted url world.store.working := of_decide_eq_false means.symm
      simp [defaultEnsured, free, Management.note, withRows, withDefault]

theorem on_manageView (world : World Database) (url : String) :
    on world (management url).manageView =
      match anyAdmits url (inListingOrder world.store.working) with
      | .ok _ => (.ok (.manage url), defaultEnsured url world)
      | .error fault => (.error fault, world) := by
  unfold Management.manageView
  rw [Run.on_bind, on_ensureDefault]
  cases anyAdmits url (inListingOrder world.store.working) <;> rfl

theorem on_list (world : World Database) (url : String) :
    on world (management url).list =
      match anyAdmits url (inListingOrder world.store.working) with
      | .ok _ => ((inListingOrder (ensured url world.store.working)).mapM Entry.project,
          defaultEnsured url world)
      | .error fault => (.error fault, world) := by
  unfold Management.list
  rw [Run.on_bind, on_ensureDefault]
  cases anyAdmits url (inListingOrder world.store.working) with
  | error fault => rfl
  | ok result => simp [registry]

theorem on_delete (world : World Database) (url : String) (id : Int) :
    on world ((management url).delete id) =
      if isStorable id then
        match find world.store.working id with
        | none => (.error (Management.noSuchId id), world)
        | some row =>
          match anyAdmits url (inListingOrder (delete world.store.working id)) with
          | .ok _ => (Management.removedName row,
              defaultEnsured url (withRows world (delete world.store.working id)))
          | .error fault => (.error fault, withRows world (delete world.store.working id))
      else (.error .integerTooLarge, world) := by
  simp only [Management.delete, registry, Run.on_bind, on_findRow]
  split_ifs with fits
  · simp only [on_rows, on_setRows, Run.on_pure]
    cases search : find world.store.working id with
    | none => simp [delete_of_find_eq_none search, withRows]
    | some row =>
      rw [Run.on_bind, on_ensureDefault, store_withRows]
      cases anyAdmits url (inListingOrder (delete world.store.working id)) with
      | error fault => rfl
      | ok result => simp only [Run.on_lift]
  · rfl

/-! ## Giving ids their positions -/

theorem on_placeFrom_cons {world : World Database} (distinct : DistinctIds world.store.working)
    (url : String) (position : Nat) (id : Int) (rest : List Int) :
    on world ((management url).placeFrom position (id :: rest)) =
      if isStorable id then
        match find world.store.working id with
        | none => (.error (Management.noSuchId id), world)
        | some _ =>
          if isStorable position then
            on (withRows world (place world.store.working id position))
              ((management url).placeFrom (position + 1) rest)
          else (.error .integerTooLarge, world)
      else (.error .integerTooLarge, world) := by
  simp only [Management.placeFrom, registry, Run.on_bind, on_findRow]
  by_cases fits : isStorable id
  · rw [if_pos fits, if_pos fits]
    cases search : find world.store.working id with
    | none => rfl
    | some row =>
      simp only [Run.on_bind, Run.on_lift, storable]
      split_ifs
      · simp [Except.map, replace_eq_place distinct search]
      · rfl
  · rw [if_neg fits, if_neg fits]

theorem reorder_of_ne_nil {σ : Type} (management : Management σ) {ids : List Int}
    (nonempty : ids ≠ []) : management.reorder (some ids) = management.placeFrom 0 ids := by
  cases ids with
  | nil => exact absurd rfl nonempty
  | cons first rest => rfl

theorem isStorable_natCast {n : Nat} (h : n < 2 ^ 63) : isStorable n = true := by
  have low : leastInt64 ≤ n := Int.le_trans (by decide) (Int.natCast_nonneg n)
  have high : (n : Int) ≤ greatestInt64 := Int.lt_add_one_iff.mp (Int.ofNat_lt.mpr h)
  rw [isStorable, decide_eq_true low, decide_eq_true high]
  rfl

/-- Ids of the table come to their positions, if these are numbers of 64 bits. -/
theorem on_placeFrom_append {world : World Database} (distinct : DistinctIds world.store.working)
    (url : String) (position : Nat) {ids : List Int}
    (known : ∀ id ∈ ids, id ∈ world.store.working.map Entry.id ∧ isStorable id = true)
    (room : position + ids.length ≤ 2 ^ 63) (rest : List Int) :
    on world ((management url).placeFrom position (ids ++ rest)) =
      on (withRows world (placed world.store.working position ids))
        ((management url).placeFrom (position + ids.length) rest) := by
  induction ids generalizing world position with
  | nil => rfl
  | cons id others ih =>
    obtain ⟨⟨present, fits⟩, known⟩ := List.forall_mem_cons.mp known
    rw [List.length_cons] at room
    have storable : isStorable position = true := isStorable_natCast (by omega)
    obtain ⟨row, search⟩ := Option.isSome_iff_exists.mp (find_isSome_iff.mpr present)
    rw [List.cons_append, on_placeFrom_cons distinct, if_pos fits, search]
    simp only [storable, if_true]
    rw [ih (distinctIds_place distinct id position) (position + 1) (by simpa using known)
      (by omega), List.length_cons, Nat.add_assoc, Nat.add_comm 1]
    rfl

/-- Ids that all get their positions leave the rows that `placed` says. -/
theorem placeFrom_ok {world after : World Database} (distinct : DistinctIds world.store.working)
    {url : String} {position : Nat} {ids : List Int}
    (h : on world ((management url).placeFrom position ids) = (.ok (), after)) :
    after = withRows world (placed world.store.working position ids) := by
  induction ids generalizing world position with
  | nil =>
    obtain ⟨-, rfl⟩ := Prod.mk.inj h
    rfl
  | cons id rest ih =>
    rw [on_placeFrom_cons distinct] at h
    split at h
    next =>
      split at h
      next => cases h
      next =>
        split at h
        next => exact ih (distinctIds_place distinct id position) h
        next => cases h
    next => cases h

/-- Until the commit, positions are given in the session alone. -/
theorem placeFrom_saved {world : World Database} (distinct : DistinctIds world.store.working)
    (url : String) (position : Nat) (ids : List Int) :
    (on world ((management url).placeFrom position ids)).2.store.saved = world.store.saved := by
  induction ids generalizing world position with
  | nil => rfl
  | cons id rest ih =>
    rw [on_placeFrom_cons distinct]
    split
    next =>
      split
      next => rfl
      next =>
        split
        next => exact ih (distinctIds_place distinct id position) (position + 1)
        next => rfl
    next => rfl

end ServiceRegistry.Database
