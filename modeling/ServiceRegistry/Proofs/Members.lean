import Mathlib.Data.List.Flatten
import Mathlib.Data.List.Induction
import ServiceRegistry.Json.Value

/-!
# Values under their names

Lists of pairs of a name and a value: the first value of a name, the names without repetitions, and
what is left when the pairs are put together by their names.

Results:

* `eraseDups_of_nodup`, `eraseDups_concat`: names without repetitions.
* `lookup_cons_ite`, `lookup_map_value`: the first value of a name.
* `lookup_of_mem`, `eq_map_of_lookup`: pairs with different names.
* `perm_flatMap_filter`: pairs that are sorted by their names.
* `names_foldl`: names that are added one after the other, in the order in which they came first.
* `membersOf_eq`: the members of pairs, in which the last value of a name counts.
-/

namespace ServiceRegistry

/-! ## Names without repetitions -/

theorem eraseDups_of_nodup {α : Type} [BEq α] [LawfulBEq α] {names : List α}
    (distinct : names.Nodup) : names.eraseDups = names := by
  induction distinct with
  | nil => rfl
  | @cons name rest other _ ih =>
    have kept : rest.filter (fun other => !other == name) = rest :=
      List.filter_eq_self.mpr fun other' mem => by simpa using (other other' mem).symm
    rw [List.eraseDups_cons, kept, ih]

/-- A further name is kept if it is new. -/
theorem eraseDups_concat {α : Type} [DecidableEq α] (names : List α) (name : α) :
    (names ++ [name]).eraseDups =
      if name ∈ names then names.eraseDups else names.eraseDups ++ [name] := by
  rw [List.eraseDups_append]
  split_ifs with known <;> simp [List.removeAll, known, List.eraseDups_cons]

/-! ## Pairs with different names -/

section Pairs

variable {α : Type} {members : List (String × α)}

theorem lookup_cons_ite (name key : String) (value : α) (rest : List (String × α)) :
    ((key, value) :: rest).lookup name = if name = key then some value else rest.lookup name := by
  rw [List.lookup_cons]
  by_cases same : name = key
  · simp [same]
  · simp [same, beq_eq_false_iff_ne.mpr same]

theorem lookup_map_value {β : Type} (f : α → β) (name : String) (members : List (String × α)) :
    (members.map fun member => (member.1, f member.2)).lookup name =
      (members.lookup name).map f := by
  induction members with
  | nil => rfl
  | cons member rest ih =>
    obtain ⟨key, value⟩ := member
    rw [List.map_cons, lookup_cons_ite, lookup_cons_ite, ih]
    split_ifs <;> rfl

theorem lookup_of_mem (distinct : (members.map Prod.fst).Nodup) {member : String × α}
    (mem : member ∈ members) : members.lookup member.1 = some member.2 := by
  obtain ⟨before, after, rfl⟩ := List.append_of_mem mem
  refine List.lookup_eq_some_iff.mpr ⟨before, after, rfl, fun earlier known => ?_⟩
  rw [List.map_append, List.nodup_append] at distinct
  exact bne_iff_ne.mpr fun same => distinct.2.2 earlier.1 (List.mem_map_of_mem known) member.1
    (List.mem_cons_self ..) same.symm

theorem exists_lookup_of_mem {name : String} (known : name ∈ members.map Prod.fst) :
    ∃ value, members.lookup name = some value := by
  obtain ⟨member, mem, rfl⟩ := List.mem_map.mp known
  cases found : members.lookup member.1 with
  | some value => exact ⟨value, rfl⟩
  | none => simpa using List.lookup_eq_none_iff.mp found member mem

/-- Members with different names are known from their names and from what is found under them. -/
theorem eq_map_of_lookup (distinct : (members.map Prod.fst).Nodup) {value : String → α}
    (found : ∀ name ∈ members.map Prod.fst, members.lookup name = some (value name)) :
    members = (members.map Prod.fst).map fun name => (name, value name) := by
  rw [List.map_map]
  refine (List.map_id members).symm.trans (List.map_congr_left fun member mem => ?_)
  have own := found member.1 (List.mem_map_of_mem mem)
  rw [lookup_of_mem distinct mem, Option.some_inj] at own
  exact Prod.ext rfl own

/-- The pairs of the names in a list, name by name, are the pairs whose name is in the list. -/
theorem perm_flatMap_filter {names : List String} (distinct : names.Nodup)
    (pairs : List (String × α)) :
    (names.flatMap fun name => pairs.filter (·.1 == name)).Perm (pairs.filter (·.1 ∈ names)) := by
  induction distinct with
  | nil => simp
  | @cons name rest other _ ih =>
    rw [List.flatMap_cons]
    refine (ih.append_left _).trans ?_
    -- a pair of this name has none of the other names
    have own : pairs.filter (·.1 == name) =
        (pairs.filter (·.1 ∈ name :: rest)).filter (·.1 == name) := by
      rw [List.filter_filter]
      refine List.filter_congr fun pair _ => ?_
      by_cases same : pair.1 = name <;> simp [same]
    have others : pairs.filter (·.1 ∈ rest) =
        (pairs.filter (·.1 ∈ name :: rest)).filter fun pair => !pair.1 == name := by
      rw [List.filter_filter]
      refine List.filter_congr fun pair _ => ?_
      by_cases same : pair.1 = name
      · have absent : name ∉ rest := fun mem => other name mem rfl
        simp [same, absent]
      · simp [same]
    rw [own, others]
    exact List.filter_append_perm _ _

end Pairs

/-! ## Pairs that are put together -/

/-- If each pair adds its name where it is new, the names are there in the order in which they came
first. -/
theorem names_foldl {α β : Type} {add : List (String × β) → String × α → List (String × β)}
    (step : ∀ members pair, (add members pair).map Prod.fst =
      if pair.1 ∈ members.map Prod.fst then members.map Prod.fst
      else members.map Prod.fst ++ [pair.1])
    (pairs : List (String × α)) :
    (pairs.foldl add []).map Prod.fst = (pairs.map Prod.fst).eraseDups := by
  induction pairs using List.reverseRecOn with
  | nil => rfl
  | append_singleton pairs pair ih =>
    rw [List.foldl_append, List.foldl_cons, List.foldl_nil, step, ih, List.map_append,
      List.map_singleton, eraseDups_concat]
    simp only [List.mem_eraseDups]

section Members

variable {α : Type}

theorem names_insertMember (key : String) (value : α) (members : List (String × α)) :
    (insertMember key value members).map Prod.fst =
      if key ∈ members.map Prod.fst then members.map Prod.fst
      else members.map Prod.fst ++ [key] := by
  induction members with
  | nil => rfl
  | cons member rest ih =>
    rw [insertMember]
    by_cases same : member.1 = key
    · simp [same]
    · simp only [beq_iff_eq, same, if_false, List.map_cons, ih, List.mem_cons, Ne.symm same,
        false_or]
      split_ifs <;> rfl

theorem lookup_insertMember (name key : String) (value : α) (members : List (String × α)) :
    (insertMember key value members).lookup name =
      if name = key then some value else members.lookup name := by
  induction members with
  | nil => exact lookup_cons_ite name key value []
  | cons member rest ih =>
    obtain ⟨first, old⟩ := member
    by_cases found : first = key
    · subst found
      rw [insertMember, if_pos (beq_self_eq_true _)]
      simp only [lookup_cons_ite]
      split_ifs <;> rfl
    · rw [insertMember, if_neg (by simpa using found)]
      simp only [lookup_cons_ite, ih]
      by_cases same : name = first
      · simp [same, found]
      · simp [same]

theorem names_membersOf (pairs : List (String × α)) :
    (membersOf pairs).map Prod.fst = (pairs.map Prod.fst).eraseDups :=
  names_foldl (fun members pair => names_insertMember pair.1 pair.2 members) pairs

/-- The value of a name is that of its last pair. -/
theorem lookup_membersOf (name : String) (pairs : List (String × α)) :
    (membersOf pairs).lookup name = ((pairs.filter (·.1 == name)).map Prod.snd).getLast? := by
  induction pairs using List.reverseRecOn with
  | nil => rfl
  | append_singleton pairs pair ih =>
    have step : membersOf (pairs ++ [pair]) = insertMember pair.1 pair.2 (membersOf pairs) := by
      simp [membersOf]
    rw [step, lookup_insertMember, ih]
    by_cases same : name = pair.1
    · simp [same]
    · simp [same, Ne.symm same]

/-- Each name is there once, at the place where it came first, with its last value. -/
theorem membersOf_eq (pairs : List (String × α)) (default : α) :
    membersOf pairs = (pairs.map Prod.fst).eraseDups.map fun name =>
      (name, ((pairs.filter (·.1 == name)).map Prod.snd).getLastD default) := by
  have names := names_membersOf pairs
  rw [← names]
  refine eq_map_of_lookup (names ▸ nodup_eraseDups _) fun name known => ?_
  obtain ⟨value, found⟩ := exists_lookup_of_mem known
  have last := lookup_membersOf name pairs
  rw [found] at last
  rw [found, List.getLastD_eq_getLast?, ← last]
  rfl

end Members

end ServiceRegistry
