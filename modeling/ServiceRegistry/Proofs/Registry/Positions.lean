import Mathlib.Data.List.Dedup
import ServiceRegistry.Proofs.Registry.Rows

/-!
# Positions by ids

Ids are placed one after the other, and an id that comes again is placed again. So each row ends at
the last place of its id, whatever was placed before.

Results:

* `lastIndex?`, `lastIndex?_eq_some_iff`: the last place of an id.
* `pairwise_dedup`: without repetitions, ids stand in the order of their last places.
* `Database.placed_eq_positioned`: what each row becomes when ids are placed.
* `Entry.positioned_positioned`: placing the same ids again changes nothing.
-/

namespace ServiceRegistry

/-! ## Last places -/

/-- The index of the last occurrence of an id. -/
def lastIndex? (id : Int) : List Int → Option Nat
  | [] => none
  | first :: rest =>
    match lastIndex? id rest with
    | some index => some (index + 1)
    | none => if first = id then some 0 else none

theorem lastIndex?_eq_none_iff {id : Int} {ids : List Int} :
    lastIndex? id ids = none ↔ id ∉ ids := by
  induction ids with
  | nil => simp [lastIndex?]
  | cons first rest ih =>
    rw [lastIndex?, List.mem_cons, not_or, ← ih]
    cases lastIndex? id rest with
    | some index => simp
    | none => simp [eq_comm]

theorem exists_lastIndex {id : Int} {ids : List Int} (mem : id ∈ ids) :
    ∃ index, lastIndex? id ids = some index :=
  Option.ne_none_iff_exists'.mp fun none => lastIndex?_eq_none_iff.mp none mem

theorem lastIndex?_cons_of_mem {first id : Int} {rest : List Int} (mem : id ∈ rest) :
    lastIndex? id (first :: rest) = (lastIndex? id rest).map (· + 1) := by
  obtain ⟨index, later⟩ := exists_lastIndex mem
  rw [lastIndex?, later, Option.map_some]

theorem lastIndex?_cons_of_notMem {first id : Int} {rest : List Int} (notMem : id ∉ rest) :
    lastIndex? id (first :: rest) = if first = id then some 0 else none := by
  rw [lastIndex?, lastIndex?_eq_none_iff.mpr notMem]

/-- The last place of an id has it, and no later place does. -/
theorem lastIndex?_eq_some_iff {id : Int} {ids : List Int} {index : Nat} :
    lastIndex? id ids = some index ↔ ids[index]? = some id ∧ id ∉ ids.drop (index + 1) := by
  induction ids generalizing index with
  | nil => simp [lastIndex?]
  | cons first rest ih =>
    rw [List.drop_succ_cons]
    by_cases later : id ∈ rest
    · rw [lastIndex?_cons_of_mem later]
      cases index with
      | zero => simp [later]
      | succ index => simpa using ih
    · rw [lastIndex?_cons_of_notMem later]
      cases index with
      | zero => simp [later]
      | succ index =>
        have nowhere : rest[index]? ≠ some id := fun here => later (List.mem_of_getElem? here)
        simp [nowhere]

theorem lastIndex?_eq_idxOf {id : Int} {ids : List Int} (distinct : ids.Nodup) (mem : id ∈ ids) :
    lastIndex? id ids = some (ids.idxOf id) := by
  obtain ⟨index, last⟩ := exists_lastIndex mem
  obtain ⟨lt, rfl⟩ := List.getElem?_eq_some_iff.mp (lastIndex?_eq_some_iff.mp last).1
  rw [last, distinct.idxOf_getElem]

/-- The last place of the first id is not after that of the second. -/
def LastBefore (ids : List Int) (a b : Int) : Prop :=
  ∀ i j, lastIndex? a ids = some i → lastIndex? b ids = some j → i ≤ j

theorem LastBefore.cons {ids : List Int} {a b : Int} (ha : a ∈ ids) (hb : b ∈ ids) (first : Int)
    (before : LastBefore ids a b) : LastBefore (first :: ids) a b := by
  intro i j hi hj
  rw [lastIndex?_cons_of_mem ha] at hi
  rw [lastIndex?_cons_of_mem hb] at hj
  obtain ⟨i, lastA, rfl⟩ := Option.map_eq_some_iff.mp hi
  obtain ⟨j, lastB, rfl⟩ := Option.map_eq_some_iff.mp hj
  exact Nat.succ_le_succ (before i j lastA lastB)

/-- No two ids have their last place in common. -/
theorem LastBefore.antisymm {ids : List Int} {a b : Int} (ha : a ∈ ids) (hb : b ∈ ids)
    (le : LastBefore ids a b) (ge : LastBefore ids b a) : a = b := by
  obtain ⟨i, hi⟩ := exists_lastIndex ha
  obtain ⟨j, hj⟩ := exists_lastIndex hb
  obtain rfl := Nat.le_antisymm (le i j hi hj) (ge j i hj hi)
  have first := (lastIndex?_eq_some_iff.mp hi).1
  exact Option.some.inj (first.symm.trans (lastIndex?_eq_some_iff.mp hj).1)

/-- Without repetitions, ids stand in the order of their last places. -/
theorem pairwise_dedup (ids : List Int) : ids.dedup.Pairwise (LastBefore ids) := by
  induction ids with
  | nil => exact .nil
  | cons first rest ih =>
    have later : rest.dedup.Pairwise (LastBefore (first :: rest)) :=
      ih.imp_of_mem fun ha hb before =>
        before.cons (List.mem_dedup.mp ha) (List.mem_dedup.mp hb) first
    by_cases again : first ∈ rest
    · rwa [List.dedup_cons_of_mem again]
    · rw [List.dedup_cons_of_notMem again, List.pairwise_cons]
      refine ⟨fun id _ i j hi _ => ?_, later⟩
      rw [lastIndex?_cons_of_notMem again, if_pos rfl] at hi
      obtain rfl := Option.some.inj hi
      exact Nat.zero_le j

/-! ## Rows at the last places of their ids -/

/-- An entry at the last place of its id, counted from a first position on. An entry whose id does
not occur stays. -/
def Entry.positioned (position : Nat) (ids : List Int) (entry : Entry) : Entry :=
  match lastIndex? entry.id ids with
  | some index => { entry with evaluationOrder := (position + index : Nat) }
  | none => entry

@[simp] theorem Entry.id_positioned (position : Nat) (ids : List Int) (entry : Entry) :
    (entry.positioned position ids).id = entry.id := by
  unfold Entry.positioned
  split <;> rfl

theorem Entry.evaluationOrder_positioned {position index : Nat} {ids : List Int} {entry : Entry}
    (last : lastIndex? entry.id ids = some index) :
    (entry.positioned position ids).evaluationOrder = (position + index : Nat) := by
  rw [Entry.positioned, last]

theorem Entry.positioned_of_notMem {position : Nat} {ids : List Int} {entry : Entry}
    (other : entry.id ∉ ids) : entry.positioned position ids = entry := by
  rw [Entry.positioned, lastIndex?_eq_none_iff.mpr other]

/-- The place of the first id stands only if the id does not come again. -/
theorem Entry.positioned_cons (position : Nat) (id : Int) (rest : List Int) (entry : Entry) :
    (if entry.id = id then { entry with evaluationOrder := position } else entry).positioned
      (position + 1) rest = entry.positioned position (id :: rest) := by
  by_cases later : entry.id ∈ rest
  · obtain ⟨index, last⟩ := exists_lastIndex later
    have shift : position + 1 + index = position + (index + 1) := by omega
    split_ifs <;> simp [Entry.positioned, lastIndex?_cons_of_mem later, last, shift]
  · have last : lastIndex? entry.id (id :: rest) = if id = entry.id then some 0 else none :=
      lastIndex?_cons_of_notMem later
    split_ifs with same
    · have stays : ({ entry with evaluationOrder := position } : Entry).positioned (position + 1)
          rest = { entry with evaluationOrder := position } := Entry.positioned_of_notMem later
      rw [stays, Entry.positioned, last, if_pos same.symm]
      rfl
    · rw [Entry.positioned_of_notMem later, Entry.positioned, last, if_neg (Ne.symm same)]

/-- Placing the same ids again changes nothing. -/
theorem Entry.positioned_positioned (position : Nat) (ids : List Int) (entry : Entry) :
    (entry.positioned position ids).positioned position ids = entry.positioned position ids := by
  by_cases mem : entry.id ∈ ids
  · obtain ⟨index, last⟩ := exists_lastIndex mem
    simp [Entry.positioned, last]
  · rw [Entry.positioned_of_notMem mem, Entry.positioned_of_notMem mem]

namespace Database

@[simp] theorem map_id_positioned (rows : List Entry) (position : Nat) (ids : List Int) :
    (rows.map (Entry.positioned position ids)).map Entry.id = rows.map Entry.id := by
  rw [List.map_map]
  exact List.map_congr_left fun row _ => Entry.id_positioned position ids row

/-- Each row comes to the last place of its id, and the others stay. -/
theorem placed_eq_positioned (rows : List Entry) (position : Nat) (ids : List Int) :
    placed rows position ids = rows.map (Entry.positioned position ids) := by
  induction ids generalizing rows position with
  | nil => exact (List.map_id rows).symm
  | cons id rest ih =>
    rw [placed, ih, place, List.map_map]
    exact List.map_congr_left fun row _ => Entry.positioned_cons position id rest row

end Database

end ServiceRegistry
