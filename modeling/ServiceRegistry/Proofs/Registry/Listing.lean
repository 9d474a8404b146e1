import Mathlib.Data.List.Basic
import Mathlib.Data.List.Nodup
import Mathlib.Data.List.Sort
import ServiceRegistry.Proofs.Registry.Positions
import ServiceRegistry.Proofs.Run

/-!
# Rows in listing order

Rows are listed by their positions, and those of one position by their ids. When ids are placed
from zero on, each row of them gets the index of its id, so they are listed as they were given.

Results:

* `inListingOrder_pairwise`, `inListingOrder_perm`: a listing is sorted and has all rows.
* `Database.placed_eq_map`: what each row becomes when distinct ids are placed.
* `Database.listed_placed`: after all ids of a table were placed, the listing has them in the order
  in which they were given.
* `Projection.entry`, `mapM_project_eq_ok_iff`: a projection shows an entry with the same ten
  fields.
* `Entry.Complete`, `mapM_project_of_complete`: the entries that have a projection.
-/

namespace ServiceRegistry

/-! ## The order of a listing -/

theorem Entry.listedBefore_iff {a b : Entry} : a.listedBefore b = true ↔
    a.evaluationOrder < b.evaluationOrder ∨
      a.evaluationOrder = b.evaluationOrder ∧ a.id ≤ b.id := by
  simp [listedBefore]

theorem inListingOrder_perm (entries : List Entry) : (inListingOrder entries).Perm entries :=
  List.mergeSort_perm entries Entry.listedBefore

theorem inListingOrder_pairwise (entries : List Entry) :
    (inListingOrder entries).Pairwise fun a b => a.listedBefore b = true := by
  refine List.pairwise_mergeSort ?_ ?_ entries
  · intro a b c first second
    rw [Entry.listedBefore_iff] at *
    omega
  · intro a b
    rw [Bool.or_eq_true, Entry.listedBefore_iff, Entry.listedBefore_iff]
    omega

namespace Database

/-! ## Placing ids -/

variable {rows : List Entry} {ids : List Int}

/-- Among the rows of some ids, a listing has the ids in the order of their last places. -/
theorem pairwise_listed_positioned (rows : List Entry) (position : Nat) (ids : List Int) :
    (((inListingOrder (rows.map (Entry.positioned position ids))).filter (·.id ∈ ids)).map
      Entry.id).Pairwise (LastBefore ids) := by
  have order {row : Entry} (mem : row ∈ inListingOrder (rows.map (Entry.positioned position ids)))
      {index : Nat} (last : lastIndex? row.id ids = some index) :
      row.evaluationOrder = (position + index : Nat) := by
    obtain ⟨old, -, rfl⟩ := List.mem_map.mp ((inListingOrder_perm _).mem_iff.mp mem)
    rw [Entry.id_positioned] at last
    exact Entry.evaluationOrder_positioned last
  rw [List.pairwise_map]
  refine ((inListingOrder_pairwise _).filter _).imp_of_mem fun {a b} ha hb before i j hi hj => ?_
  have first := order (List.mem_filter.mp ha).1 hi
  have second := order (List.mem_filter.mp hb).1 hj
  have := Entry.listedBefore_iff.mp before
  omega

/-- After ids of a table were placed, their rows are listed in the order of the last places,
whatever rows are listed between them. -/
theorem listed_positioned (distinct : DistinctIds rows) (position : Nat)
    (known : ∀ id ∈ ids, id ∈ rows.map Entry.id) :
    ((inListingOrder (rows.map (Entry.positioned position ids))).filter (·.id ∈ ids)).map Entry.id =
      ids.dedup := by
  let listed := inListingOrder (rows.map (Entry.positioned position ids))
  have shown : (listed.map Entry.id).Perm (rows.map Entry.id) :=
    map_id_positioned rows position ids ▸ (inListingOrder_perm _).map Entry.id
  have once : ((listed.filter (·.id ∈ ids)).map Entry.id).Nodup :=
    (shown.nodup_iff.mpr distinct).sublist (List.filter_sublist.map _)
  -- Both lists have the ids once each and are sorted by the last places.
  have perm : ((listed.filter (·.id ∈ ids)).map Entry.id).Perm ids.dedup := by
    refine (List.perm_ext_iff_of_nodup once ids.nodup_dedup).mpr fun id => ?_
    rw [List.mem_dedup]
    constructor
    · intro mem
      obtain ⟨row, found, rfl⟩ := List.mem_map.mp mem
      exact of_decide_eq_true (List.mem_filter.mp found).2
    · intro mem
      obtain ⟨row, found, rfl⟩ := List.mem_map.mp (shown.mem_iff.mpr (known id mem))
      exact List.mem_map_of_mem (List.mem_filter.mpr ⟨found, decide_eq_true mem⟩)
  refine List.Perm.eq_of_pairwise (fun a b ha hb => ?_)
    (pairwise_listed_positioned rows position ids) (pairwise_dedup ids) perm
  exact LastBefore.antisymm (List.mem_dedup.mp (perm.mem_iff.mp ha)) (List.mem_dedup.mp hb)

/-! ## Placing distinct ids -/

/-- Each row of the ids gets the first position and the index of its id; the others stay. -/
theorem placed_eq_map (distinct : ids.Nodup) (rows : List Entry) (position : Nat) :
    placed rows position ids = rows.map fun row =>
      if row.id ∈ ids then { row with evaluationOrder := (position + ids.idxOf row.id : Nat) }
      else row := by
  rw [placed_eq_positioned]
  refine List.map_congr_left fun row _ => ?_
  split_ifs with mem
  · rw [Entry.positioned, lastIndex?_eq_idxOf distinct mem]
  · exact Entry.positioned_of_notMem mem

/-- After all ids of a table were placed, the row of each has its index and is as before
otherwise. -/
theorem exists_of_mem_placed (order : ids.Perm (rows.map Entry.id)) (distinct : ids.Nodup)
    {row : Entry} (mem : row ∈ placed rows 0 ids) :
    ∃ old ∈ rows, row = { old with evaluationOrder := ids.idxOf row.id } := by
  rw [placed_eq_map distinct] at mem
  obtain ⟨old, found, rfl⟩ := List.mem_map.mp mem
  have known : old.id ∈ ids := order.mem_iff.mpr (List.mem_map_of_mem found)
  rw [if_pos known, Nat.zero_add]
  exact ⟨old, found, rfl⟩

/-- After all ids of a table were placed, they are listed in the order in which they were given. -/
theorem listed_placed (order : ids.Perm (rows.map Entry.id)) (distinct : ids.Nodup) :
    (inListingOrder (placed rows 0 ids)).map Entry.id = ids := by
  have given := listed_positioned (order.nodup_iff.mp distinct) 0 fun id mem => order.mem_iff.mp mem
  rw [← placed_eq_positioned, distinct.dedup, List.filter_eq_self.mpr] at given
  · exact given
  · intro row mem
    have same := ((inListingOrder_perm (placed rows 0 ids)).map Entry.id).trans
      (by rw [map_id_placed])
    exact decide_eq_true (order.mem_iff.mpr (same.mem_iff.mp (List.mem_map_of_mem mem)))

/-- After all ids of a table were placed, the listing has at each index the row of the id that was
given there, with this index as its position and all else as it was. -/
theorem getElem?_listed_placed (order : ids.Perm (rows.map Entry.id)) (distinct : ids.Nodup)
    {index : Nat} {row : Entry} (h : (inListingOrder (placed rows 0 ids))[index]? = some row) :
    ∃ old ∈ rows, row = { old with evaluationOrder := index } := by
  have mem := (inListingOrder_perm _).mem_iff.mp (List.mem_of_getElem? h)
  obtain ⟨old, found, same⟩ := exists_of_mem_placed order distinct mem
  have listed : ids[index]? = some row.id := by
    rw [← listed_placed order distinct, List.getElem?_map, h]
    rfl
  obtain ⟨lt, at_index⟩ := List.getElem?_eq_some_iff.mp listed
  rw [← at_index, distinct.idxOf_getElem] at same
  exact ⟨old, found, same⟩

end Database

/-! ## Projections -/

/-- The entry that a projection shows. -/
def Projection.entry (projection : Projection) : Entry :=
  ⟨projection.id, some projection.serviceId, some projection.name, projection.description,
    projection.theme, projection.evaluationOrder, projection.enabled, projection.ssoEnabled,
    projection.allowedToProxy, projection.anonymousAccess⟩

theorem project_entry (projection : Projection) : projection.entry.project = .ok projection := by
  obtain ⟨_, _, _, description, theme, _, _, _, _, _⟩ := projection
  cases description <;> cases theme <;> rfl

/-- A projection has all fields of its entry. -/
theorem project_eq_ok_iff {entry : Entry} {projection : Projection} :
    entry.project = .ok projection ↔ projection.entry = entry := by
  constructor
  · intro h
    obtain ⟨id, pattern, name, description, theme, order, enabled, sso, proxy, anonymous⟩ := entry
    cases pattern with
    | none => cases name <;> cases description <;> cases theme <;> cases h
    | some pattern =>
      cases name with
      | none => cases description <;> cases theme <;> cases h
      | some name =>
        rw [← Except.ok.inj ((project_entry ⟨id, pattern, name, description, theme, order, enabled,
          sso, proxy, anonymous⟩).symm.trans h)]
        rfl
  · rintro rfl
    exact project_entry projection

/-- The projections of some entries have all their fields, in their order. -/
theorem mapM_project_eq_ok_iff {entries : List Entry} {projections : List Projection} :
    entries.mapM Entry.project = .ok projections ↔
      projections.map Projection.entry = entries := by
  induction entries generalizing projections with
  | nil =>
    rw [List.map_eq_nil_iff]
    exact ⟨fun h => (Except.ok.inj h).symm, fun h => by rw [h]; rfl⟩
  | cons entry rest ih =>
    rw [List.mapM_cons, bind_eq_ok]
    constructor
    · rintro ⟨projection, first, h⟩
      obtain ⟨others, shown, done⟩ := bind_eq_ok.mp h
      obtain rfl := Except.ok.inj done
      rw [List.map_cons, project_eq_ok_iff.mp first, ih.mp shown]
    · intro h
      cases projections with
      | nil => cases h
      | cons projection others =>
        obtain ⟨first, shown⟩ := List.cons.inj h
        exact ⟨projection, project_eq_ok_iff.mpr first,
          bind_eq_ok.mpr ⟨others, ih.mpr shown, rfl⟩⟩

/-! ## Rows that can be shown -/

/-- An entry with a pattern and a name, as every row of a table has. -/
def Entry.Complete (entry : Entry) : Prop :=
  entry.serviceId.isSome ∧ entry.name.isSome

instance (entry : Entry) : Decidable entry.Complete :=
  inferInstanceAs (Decidable (_ ∧ _))

theorem Entry.project_of_complete {entry : Entry} (h : entry.Complete) :
    ∃ projection, entry.project = .ok projection := by
  obtain ⟨pattern, name⟩ := h
  obtain ⟨pattern, hpattern⟩ := Option.isSome_iff_exists.mp pattern
  obtain ⟨name, hname⟩ := Option.isSome_iff_exists.mp name
  obtain ⟨id, _, _, description, theme, order, enabled, sso, proxy, anonymous⟩ := entry
  cases hpattern
  cases hname
  cases description <;> cases theme <;> exact ⟨_, rfl⟩

theorem mapM_project_of_complete {entries : List Entry} (h : ∀ entry ∈ entries, entry.Complete) :
    ∃ projections, entries.mapM Entry.project = .ok projections := by
  induction entries with
  | nil => exact ⟨[], rfl⟩
  | cons entry rest ih =>
    obtain ⟨projection, first⟩ := Entry.project_of_complete (h entry List.mem_cons_self)
    obtain ⟨projections, others⟩ := ih fun other mem => h other (List.mem_cons_of_mem entry mem)
    refine ⟨projection :: projections, ?_⟩
    rw [List.mapM_cons, first]
    show rest.mapM Entry.project >>= _ = _
    rw [others]
    rfl

theorem complete_ensured {entries : List Entry} (h : ∀ entry ∈ entries, entry.Complete)
    (address : String) : ∀ entry ∈ Database.ensured address entries, entry.Complete := by
  unfold Database.ensured Database.withDefault
  split_ifs
  · exact h
  · intro entry mem
    rcases List.mem_append.mp mem with mem | mem
    · exact h entry mem
    · obtain rfl := List.mem_singleton.mp mem
      exact ⟨rfl, rfl⟩

end ServiceRegistry
