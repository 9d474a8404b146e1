import Mathlib.Algebra.Group.Int.Defs
import ServiceRegistry.Proofs.Registry.Listing

/-!
# Rows as a table keeps them

A table has rows with distinct ids, numbers of 64 bits, patterns and names. Its listing is strictly
sorted, so it has each row once and at a place of its own.

Results:

* `Entry.Stored`, `Database.IsTable`: such rows and tables.
* `Database.nextId_of_full`, `Database.nextId_mem_Icc`: the id of the next row when there is no room
  after the greatest one, and how far it may lie outside.
* `inListingOrder_precedes`: a listing is strictly sorted.
* `Entry.document`, `listingJson_eq`: the document of a listing has all fields of the rows.
-/

namespace ServiceRegistry

open Database (isStorable nextId DistinctIds)

/-! ## Tables -/

/-- An entry whose numbers have 64 bits, with a pattern and a name. -/
def Entry.Stored (entry : Entry) : Prop :=
  isStorable entry.id = true ∧ isStorable entry.evaluationOrder = true ∧ entry.Complete

instance (entry : Entry) : Decidable entry.Stored :=
  inferInstanceAs (Decidable (_ ∧ _ ∧ _))

/-- Rows that a table can have. -/
structure Database.IsTable (rows : List Entry) : Prop where
  distinct : DistinctIds rows
  stored : ∀ row ∈ rows, row.Stored

namespace Database

theorem isStorable_iff {n : Int} : isStorable n = true ↔ -2 ^ 63 ≤ n ∧ n < 2 ^ 63 := by
  have least : leastInt64 = -2 ^ 63 := by decide
  have greatest : greatestInt64 + 1 = 2 ^ 63 := by decide
  simp only [isStorable, Bool.and_eq_true, decide_eq_true_eq]
  omega

/-- The first of some numbers in ascending order is at most any other with the same property. -/
theorem le_of_find? {holds : Int → Bool} {ids : List Int} (sorted : ids.Pairwise (· ≤ ·))
    {id first : Int} (mem : id ∈ ids) (h : holds id = true) (found : ids.find? holds = some first) :
    first ≤ id := by
  induction sorted with
  | nil => cases mem
  | @cons least rest below _ ih =>
    rw [List.find?_cons] at found
    split at found
    next =>
      obtain rfl := Option.some.inj found
      rcases List.mem_cons.mp mem with rfl | mem
      · exact Int.le_refl _
      · exact below id mem
    next refuses =>
      rcases List.mem_cons.mp mem with rfl | mem
      · rw [h] at refuses
        cases refuses
      · exact ih mem found

/-- When there is no room after the greatest id, the id of the next row is the first positive one
that is free. -/
theorem nextId_of_full {rows : List Entry} (full : isStorable (idAfter rows) = false) :
    0 < nextId rows ∧ ∀ id, 0 < id → id ∉ rows.map Entry.id → nextId rows ≤ id := by
  obtain ⟨free, mem, unused⟩ := exists_free_id rows
  have sorted : ((List.range (rows.length + 1)).map fun (n : Nat) => (n : Int) + 1).Pairwise
      (· ≤ ·) := by
    rw [List.pairwise_map]
    exact List.pairwise_lt_range.imp fun {a b} lt => by omega
  obtain ⟨first, found⟩ := Option.isSome_iff_exists.mp
    (List.find?_isSome (p := fun id => (find rows id).isNone) |>.mpr ⟨free, mem, unused⟩)
  have next : nextId rows = first := by
    simp only [nextId, full, Bool.false_eq_true, if_false, found, Option.getD_some]
  obtain ⟨n, lt, rfl⟩ := List.mem_map.mp (List.mem_of_find?_eq_some found)
  rw [List.mem_range] at lt
  rw [next]
  refine ⟨by omega, fun id positive free => ?_⟩
  by_cases near : id ≤ rows.length + 1
  · have candidate : id ∈ (List.range (rows.length + 1)).map fun (n : Nat) => (n : Int) + 1 :=
      List.mem_map.mpr ⟨(id - 1).toNat, List.mem_range.mpr (by omega), by omega⟩
    exact le_of_find? sorted candidate (find_isNone_iff.mpr free) found
  · omega

/-- The id of the next row of a table has 64 bits, or it is the number after them, which is only
given when no positive one is free. -/
theorem nextId_mem_Icc {rows : List Entry} (stored : ∀ row ∈ rows, isStorable row.id = true) :
    -2 ^ 63 ≤ nextId rows ∧ nextId rows ≤ 2 ^ 63 := by
  cases fits : isStorable (idAfter rows) with
  | true =>
    have next : nextId rows = idAfter rows := if_pos fits
    have := isStorable_iff.mp fits
    omega
  | false =>
    obtain ⟨positive, least⟩ := nextId_of_full fits
    have unused : (2 ^ 63 : Int) ∉ rows.map Entry.id := by
      intro used
      obtain ⟨row, known, same⟩ := List.mem_map.mp used
      have := isStorable_iff.mp (stored row known)
      omega
    have := least (2 ^ 63) (by decide) unused
    omega

end Database

/-! ## The order of a listing -/

/-- An entry comes before another if its position is less, or if the positions are equal and its id
is less. -/
def Entry.Precedes (a b : Entry) : Prop :=
  a.evaluationOrder < b.evaluationOrder ∨ a.evaluationOrder = b.evaluationOrder ∧ a.id < b.id

theorem inListingOrder_precedes {entries : List Entry} (distinct : DistinctIds entries) :
    (inListingOrder entries).Pairwise Entry.Precedes := by
  have ids : ((inListingOrder entries).map Entry.id).Nodup :=
    ((inListingOrder_perm entries).map Entry.id).nodup_iff.mpr distinct
  have apart := List.pairwise_map.mp ids
  refine (apart.and (inListingOrder_pairwise entries)).imp fun {a b} both => ?_
  obtain ⟨other, before⟩ := both
  have := Entry.listedBefore_iff.mp before
  unfold Entry.Precedes
  omega

/-! ## Documents -/

/-- The document of an entry: its ten fields under their names in documents. -/
def Entry.document (entry : Entry) : Json :=
  .object (Field.all.map fun field => (field.key, entry.value field))

/-- The document of the projections of some entries. -/
theorem listingJson_eq {projections : List Projection} {entries : List Entry}
    (shown : projections.map Projection.entry = entries) :
    listingJson projections = .object [("services", .list (entries.map Entry.document))] := by
  rw [← shown, List.map_map]
  rfl

end ServiceRegistry
