import Mathlib.Data.List.Basic
import Mathlib.Data.List.Nodup
import Mathlib.Data.List.Perm.Subperm
import ServiceRegistry.Proofs.Registry.Admission
import ServiceRegistry.Registry.Database
import ServiceRegistry.Registry.Management

/-!
# Rows of a table

A table is a list of rows with distinct ids. What the administration makes of one is said here
without sessions and faults.

Results:

* `Database.nextId_not_mem`: the id of the next row is free in every table.
* `Database.ensured`, `Database.placed`, `Database.delete`: the rows after the default address was
  registered, after ids got their positions, and without the row of an id.
* `Database.distinctIds_ensured` and its siblings: ids stay distinct.
* `Database.admitted_ensured`, `Database.admitted_placed`: what is admitted afterwards.
-/

namespace ServiceRegistry.Database

/-- No two rows have one id. -/
def DistinctIds (rows : List Entry) : Prop :=
  (rows.map Entry.id).Nodup

instance (rows : List Entry) : Decidable (DistinctIds rows) :=
  inferInstanceAs (Decidable (rows.map Entry.id).Nodup)

/-! ## Finding rows -/

theorem find_isSome_iff {rows : List Entry} {id : Int} :
    (find rows id).isSome ↔ id ∈ rows.map Entry.id := by
  simp [find, List.find?_isSome]

theorem find_isNone_iff {rows : List Entry} {id : Int} :
    (find rows id).isNone ↔ id ∉ rows.map Entry.id := by
  rw [← find_isSome_iff, Option.isNone_iff_eq_none, Option.isSome_iff_ne_none, not_not]

theorem find_eq_none {rows : List Entry} {id : Int} (h : id ∉ rows.map Entry.id) :
    find rows id = none :=
  Option.isNone_iff_eq_none.mp (find_isNone_iff.mpr h)

theorem mem_of_find {rows : List Entry} {id : Int} {row : Entry} (h : find rows id = some row) :
    row ∈ rows ∧ row.id = id :=
  ⟨List.mem_of_find?_eq_some h, by simpa using List.find?_some h⟩

/-- A row is the only one of its id. -/
theorem DistinctIds.eq_of_find {rows : List Entry} (distinct : DistinctIds rows) {id : Int}
    {row other : Entry} (h : find rows id = some row) (mem : other ∈ rows) (same : other.id = id) :
    other = row := by
  obtain ⟨found, rfl⟩ := mem_of_find h
  exact List.inj_on_of_nodup_map distinct mem found same

/-- A row under an unused id can be added. -/
theorem DistinctIds.append {rows : List Entry} (distinct : DistinctIds rows) {row : Entry}
    (unused : row.id ∉ rows.map Entry.id) : DistinctIds (rows ++ [row]) := by
  unfold DistinctIds
  rw [List.map_append]
  refine List.nodup_append.mpr ⟨distinct, List.nodup_singleton _, ?_⟩
  rintro id mem _ new rfl
  rw [List.mem_singleton.mp new] at mem
  exact unused mem

theorem DistinctIds.find_eq {rows : List Entry} (distinct : DistinctIds rows) {row : Entry}
    (mem : row ∈ rows) : find rows row.id = some row := by
  obtain ⟨found, search⟩ := Option.isSome_iff_exists.mp
    (find_isSome_iff.mpr (List.mem_map_of_mem mem))
  rw [search, distinct.eq_of_find search mem rfl]

/-! ## The id of the next row -/

theorem le_greatestId {rows : List Entry} {row : Entry} (mem : row ∈ rows) :
    ∃ id, greatestId? rows = some id ∧ row.id ≤ id := by
  induction rows with
  | nil => cases mem
  | cons first rest ih =>
    rw [greatestId?]
    rcases List.mem_cons.mp mem with rfl | mem
    · cases greatestId? rest with
      | none => exact ⟨row.id, rfl, Int.le_refl _⟩
      | some id => exact ⟨max row.id id, rfl, Int.le_max_left _ _⟩
    · obtain ⟨id, greatest, le⟩ := ih mem
      rw [greatest]
      exact ⟨max first.id id, rfl, Int.le_trans le (Int.le_max_right _ _)⟩

theorem greatestId_congr {rows others : List Entry}
    (same : rows.map Entry.id = others.map Entry.id) : greatestId? rows = greatestId? others := by
  induction rows generalizing others with
  | nil =>
    rw [List.map_eq_nil_iff.mp same.symm]
  | cons row rest ih =>
    cases others with
    | nil => cases same
    | cons other others =>
      obtain ⟨first, same⟩ := List.cons.inj same
      rw [greatestId?, greatestId?, ih same, first]

theorem mem_of_greatestId {rows : List Entry} {id : Int} (h : greatestId? rows = some id) :
    id ∈ rows.map Entry.id := by
  induction rows generalizing id with
  | nil => cases h
  | cons row rest ih =>
    rw [greatestId?] at h
    rw [List.map_cons]
    cases greatest : greatestId? rest with
    | none =>
      rw [greatest] at h
      rw [Option.some.inj h]
      exact List.mem_cons_self
    | some other =>
      rw [greatest] at h
      obtain rfl := Option.some.inj h
      rcases Int.le_total row.id other with le | le
      · rw [Int.max_eq_right le]
        exact List.mem_cons_of_mem _ (ih greatest)
      · rw [Int.max_eq_left le]
        exact List.mem_cons_self

/-- The greatest id is the one that is in the table and that no other exceeds. -/
theorem greatestId_eq_some_iff {rows : List Entry} {id : Int} :
    greatestId? rows = some id ↔ id ∈ rows.map Entry.id ∧ ∀ row ∈ rows, row.id ≤ id := by
  have above {id : Int} (h : greatestId? rows = some id) : ∀ row ∈ rows, row.id ≤ id := by
    intro row mem
    obtain ⟨greatest, eq, le⟩ := le_greatestId mem
    exact Option.some.inj (h.symm.trans eq) ▸ le
  refine ⟨fun h => ⟨mem_of_greatestId h, above h⟩, fun ⟨mem, most⟩ => ?_⟩
  obtain ⟨row, found, rfl⟩ := List.mem_map.mp mem
  obtain ⟨greatest, eq, le⟩ := le_greatestId found
  obtain ⟨other, found', rfl⟩ := List.mem_map.mp (mem_of_greatestId eq)
  rw [eq, Int.le_antisymm (most other found') le]

theorem idAfter_congr {rows others : List Entry}
    (same : rows.map Entry.id = others.map Entry.id) : idAfter rows = idAfter others := by
  rw [idAfter, idAfter, greatestId_congr same]

/-- Without a row, the next id is the same, unless it was the row of the greatest id. -/
theorem idAfter_delete {rows : List Entry} {id : Int} (h : greatestId? rows ≠ some id) :
    idAfter (delete rows id) = idAfter rows := by
  cases greatest : greatestId? rows with
  | none =>
    cases rows with
    | nil => rfl
    | cons row rest =>
      obtain ⟨_, eq, -⟩ := le_greatestId (List.mem_cons_self (a := row) (l := rest))
      rw [greatest] at eq
      cases eq
  | some most =>
    obtain ⟨mem, above⟩ := greatestId_eq_some_iff.mp greatest
    have other : most ≠ id := fun same => h (same ▸ greatest)
    have still : greatestId? (delete rows id) = some most := by
      obtain ⟨row, found, rfl⟩ := List.mem_map.mp mem
      refine greatestId_eq_some_iff.mpr ⟨List.mem_map_of_mem ?_, fun row mem => ?_⟩
      · exact List.mem_filter.mpr ⟨found, by simpa using other⟩
      · exact above row (List.mem_filter.mp mem).1
    rw [idAfter, idAfter, still, greatest]

theorem idAfter_append (rows : List Entry) (pattern name : String) :
    idAfter (rows ++ [newEntry (idAfter rows) pattern name]) = idAfter rows + 1 := by
  have greatest : greatestId? (rows ++ [newEntry (idAfter rows) pattern name]) =
      some (idAfter rows) := by
    refine greatestId_eq_some_iff.mpr ⟨by simp [newEntry], fun row mem => ?_⟩
    rcases List.mem_append.mp mem with mem | mem
    · obtain ⟨id, eq, le⟩ := le_greatestId mem
      rw [idAfter, eq]
      exact Int.le_add_one le
    · rw [List.mem_singleton.mp mem]
      exact Int.le_refl _
  rw [idAfter, greatest]

theorem idAfter_not_mem (rows : List Entry) : idAfter rows ∉ rows.map Entry.id := by
  intro mem
  obtain ⟨row, mem, same⟩ := List.mem_map.mp mem
  obtain ⟨id, greatest, le⟩ := le_greatestId mem
  rw [idAfter, greatest] at same
  simp only at same
  omega

/-- One of the first numbers, one more than there are rows, is free. -/
theorem exists_free_id (rows : List Entry) :
    ∃ id ∈ (List.range (rows.length + 1)).map fun (n : Nat) => (n : Int) + 1,
      (find rows id).isNone := by
  by_contra taken
  push Not at taken
  have subset : (List.range (rows.length + 1)).map (fun (n : Nat) => (n : Int) + 1) ⊆
      rows.map Entry.id := by
    intro id mem
    by_contra free
    exact taken id mem (find_isNone_iff.mpr free)
  have nodup : ((List.range (rows.length + 1)).map fun (n : Nat) => (n : Int) + 1).Nodup :=
    List.nodup_range.map fun a b (same : (a : Int) + 1 = (b : Int) + 1) => by omega
  have := (nodup.subperm subset).length_le
  simp only [List.length_map, List.length_range] at this
  omega

/-- The id of the next row is free, also when the greatest id is the last number of 64 bits. -/
theorem nextId_not_mem (rows : List Entry) : nextId rows ∉ rows.map Entry.id := by
  simp only [nextId]
  split_ifs with fits
  · exact idAfter_not_mem rows
  · obtain ⟨id, mem, free⟩ := exists_free_id rows
    have exists_free := List.find?_isSome (p := fun id => (find rows id).isNone) |>.mpr
      ⟨id, mem, free⟩
    obtain ⟨found, eq⟩ := Option.isSome_iff_exists.mp exists_free
    rw [eq]
    exact find_isNone_iff.mp (List.find?_some (p := fun id => (find rows id).isNone) eq)

/-! ## Registering the default address -/

/-- The rows with an entry for an address at the end. -/
def withDefault (url : String) (rows : List Entry) : List Entry :=
  rows ++ [newEntry (nextId rows) url Management.defaultName]

/-- The rows, with an entry for an address if none of them admits it. -/
def ensured (url : String) (rows : List Entry) : List Entry :=
  if Admitted url rows then rows else withDefault url rows

theorem admitted_ensured {url : String} (h : url ≠ "") (rows : List Entry) :
    Admitted url (ensured url rows) := by
  unfold ensured
  split_ifs with admitted
  · exact admitted
  · exact ⟨_, List.mem_append_right _ (List.mem_singleton_self _), admits_newEntry h _ _⟩

theorem distinctIds_withDefault {rows : List Entry} (distinct : DistinctIds rows) (url : String) :
    DistinctIds (withDefault url rows) :=
  distinct.append (nextId_not_mem rows)

theorem distinctIds_ensured {rows : List Entry} (distinct : DistinctIds rows) (url : String) :
    DistinctIds (ensured url rows) := by
  unfold ensured
  split_ifs
  · exact distinct
  · exact distinctIds_withDefault distinct url

/-! ## Removing a row -/

theorem distinctIds_delete {rows : List Entry} (distinct : DistinctIds rows) (id : Int) :
    DistinctIds (delete rows id) :=
  distinct.sublist (List.filter_sublist.map _)

/-! ## Placing rows -/

/-- The rows with a position given to that of an id. -/
def place (rows : List Entry) (id position : Int) : List Entry :=
  rows.map fun row => if row.id = id then { row with evaluationOrder := position } else row

/-- The rows after ids got the positions from a first one on, from left to right. -/
def placed (rows : List Entry) (position : Nat) : List Int → List Entry
  | [] => rows
  | id :: rest => placed (place rows id position) (position + 1) rest

theorem replace_eq_place {rows : List Entry} (distinct : DistinctIds rows) {id : Int}
    {row : Entry} (h : find rows id = some row) (position : Int) :
    replace rows row.id { row with evaluationOrder := position } = place rows id position := by
  obtain ⟨-, rfl⟩ := mem_of_find h
  refine List.map_congr_left fun other mem => ?_
  split_ifs with is
  · rw [distinct.eq_of_find h mem is]
  · rfl

@[simp] theorem map_id_place (rows : List Entry) (id position : Int) :
    (place rows id position).map Entry.id = rows.map Entry.id := by
  unfold place
  rw [List.map_map]
  refine List.map_congr_left fun row _ => ?_
  simp only [Function.comp_apply]
  split_ifs <;> rfl

theorem distinctIds_place {rows : List Entry} (distinct : DistinctIds rows) (id position : Int) :
    DistinctIds (place rows id position) := by
  rwa [DistinctIds, map_id_place]

@[simp] theorem map_id_placed (rows : List Entry) (position : Nat) (ids : List Int) :
    (placed rows position ids).map Entry.id = rows.map Entry.id := by
  induction ids generalizing rows position with
  | nil => rfl
  | cons id rest ih => rw [placed, ih, map_id_place]

theorem distinctIds_placed {rows : List Entry} (distinct : DistinctIds rows) (position : Nat)
    (ids : List Int) : DistinctIds (placed rows position ids) := by
  rwa [DistinctIds, map_id_placed]

/-- Positions have no part in admission. -/
theorem admitted_place {address : String} {rows : List Entry} (id position : Int)
    (h : Admitted address rows) : Admitted address (place rows id position) := by
  obtain ⟨row, mem, admits⟩ := h
  refine ⟨_, List.mem_map_of_mem mem, ?_⟩
  split_ifs
  · exact (Entry.admits_congr rfl address).trans admits
  · exact admits

theorem admitted_placed {address : String} {rows : List Entry} (position : Nat) (ids : List Int)
    (h : Admitted address rows) : Admitted address (placed rows position ids) := by
  induction ids generalizing rows position with
  | nil => exact h
  | cons id rest ih => exact ih (position + 1) (admitted_place id position h)

end ServiceRegistry.Database
