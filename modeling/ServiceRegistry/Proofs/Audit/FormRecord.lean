import ServiceRegistry.Proofs.Audit.Record
import ServiceRegistry.Proofs.Form.UrlEncoded
import ServiceRegistry.Proofs.Members

/-!
# The record of an encoded form

A form that was written in the encoding of addresses is recorded as an object of its names. The
pairs with a blank value are left out; all others are in the object, in the member of their name.

Results:

* `Form.groupPairs_eq`: the names in the order in which they came first, each with its values.
* `recordOf`, `formRecord_eq`: the object that pairs are recorded as.
* `recordedPairs`, `recordedPairs_recordOf`: the record of some pairs stands for these pairs.
* `recordBody_formText`: the record of the encoding of any pairs.
-/

namespace ServiceRegistry

namespace Form

/-! ## Groups -/

/-- The names of some pairs, each once, in the order in which they came first. -/
def namesOf (pairs : List (String × String)) : List String :=
  (pairs.map Prod.fst).eraseDups

/-- The pairs whose value is not blank. -/
def filled (pairs : List (String × String)) : List (String × String) :=
  pairs.filter (·.2 != "")

theorem nodup_namesOf (pairs : List (String × String)) : (namesOf pairs).Nodup :=
  nodup_eraseDups _

theorem mem_namesOf {name : String} {pairs : List (String × String)} :
    name ∈ namesOf pairs ↔ name ∈ pairs.map Prod.fst :=
  List.mem_eraseDups

theorem names_addValue (name value : String) (groups : List (String × List String)) :
    (addValue name value groups).map Prod.fst =
      if name ∈ groups.map Prod.fst then groups.map Prod.fst
      else groups.map Prod.fst ++ [name] := by
  induction groups with
  | nil => rfl
  | cons group rest ih =>
    rw [addValue]
    by_cases same : group.1 = name
    · simp [same]
    · simp only [beq_iff_eq, same, if_false, List.map_cons, ih, List.mem_cons, Ne.symm same,
        false_or]
      split_ifs <;> rfl

theorem names_groupPairs (pairs : List (String × String)) :
    (groupPairs pairs).map Prod.fst = namesOf pairs :=
  names_foldl (fun groups pair => names_addValue pair.1 pair.2 groups) pairs

theorem valuesOf_ne_nil {name : String} {pairs : List (String × String)}
    (known : name ∈ pairs.map Prod.fst) : valuesOf name pairs ≠ [] := by
  obtain ⟨pair, mem, rfl⟩ := List.mem_map.mp known
  exact List.ne_nil_of_mem
    (List.mem_map_of_mem (List.mem_filter.mpr ⟨mem, beq_self_eq_true pair.1⟩))

/-- Each name is there once, at the place where it came first, with all its values. -/
theorem groupPairs_eq (pairs : List (String × String)) :
    groupPairs pairs = (namesOf pairs).map fun name => (name, valuesOf name pairs) := by
  have names := names_groupPairs pairs
  rw [← names]
  refine eq_map_of_lookup (names ▸ nodup_namesOf pairs) fun name known => ?_
  rw [names, mem_namesOf] at known
  rw [lookup_groupPairs, if_neg (valuesOf_ne_nil known)]

theorem map_valuesOf (name : String) (pairs : List (String × String)) :
    (valuesOf name pairs).map (name, ·) = pairs.filter (·.1 == name) := by
  rw [valuesOf, List.map_map]
  refine (List.map_congr_left fun pair mem => ?_).trans (List.map_id _)
  rw [← beq_iff_eq.mp (List.mem_filter.mp mem).2]
  rfl

end Form

namespace Audit

/-! ## Pairs of a record -/

/-- The text of a value that is one. -/
def textOf? : Json → Option String
  | .text s => some s
  | _ => none

/-- The texts that a recorded value stands for: those of a list, or a text alone. -/
def recordedTexts : Json → List String
  | .list items => items.filterMap textOf?
  | value => (textOf? value).toList

/-- The pairs that a record stands for: each name with each of its values. -/
def recordedPairs : Json → List (String × String)
  | .object members => members.flatMap fun member => (recordedTexts member.2).map (member.1, ·)
  | _ => []

theorem recordedTexts_valuesRecord (values : List String) :
    recordedTexts (valuesRecord values) = values := by
  unfold valuesRecord
  split
  next => rfl
  next =>
    rw [recordedTexts, List.filterMap_map]
    exact List.filterMap_some

/-- The object of the names of some pairs, each with its value or with the list of its values. -/
def recordOf (pairs : List (String × String)) : Json :=
  .object ((Form.namesOf pairs).map fun name => (name, valuesRecord (Form.valuesOf name pairs)))

theorem formRecord_eq (pairs : List (String × String)) : formRecord pairs = recordOf pairs := by
  rw [formRecord, Form.groupPairs_eq, List.map_map]
  rfl

/-- No pair is lost, recorded twice or recorded under another name. -/
theorem recordedPairs_recordOf (pairs : List (String × String)) :
    (recordedPairs (recordOf pairs)).Perm pairs := by
  have sorted : recordedPairs (recordOf pairs) =
      (Form.namesOf pairs).flatMap fun name => pairs.filter (·.1 == name) := by
    rw [recordOf, recordedPairs, List.flatMap_map]
    simp only [recordedTexts_valuesRecord, Form.map_valuesOf]
  have all : pairs.filter (·.1 ∈ Form.namesOf pairs) = pairs :=
    List.filter_eq_self.mpr fun pair mem =>
      decide_eq_true (Form.mem_namesOf.mpr (List.mem_map_of_mem mem))
  rw [sorted]
  exact (perm_flatMap_filter (Form.nodup_namesOf pairs) pairs).trans (.of_eq all)

/-! ## Bytes of a form -/

/-- The encoding of any pairs is recorded as the object of the names that have a value, in the order
in which they first have one, each with its value or with the list of its values. The pairs of the
record are those with a value. -/
theorem recordBody_formText (pairs : List (String × String)) :
    recordBody urlEncodedType (Text.utf8Encode (Form.formText pairs)) =
        .ok (recordOf (Form.filled pairs)) ∧
      (Form.namesOf (Form.filled pairs)).Nodup ∧
      (recordedPairs (recordOf (Form.filled pairs))).Perm (Form.filled pairs) := by
  refine ⟨?_, Form.nodup_namesOf _, recordedPairs_recordOf _⟩
  have form : startsWith urlEncodedType urlEncodedType = true := by decide
  have read : Form.formPairs false (Form.formText pairs) = Form.filled pairs :=
    Form.formPairs_formText_eq_filter false pairs
  rw [recordBody, if_pos form, Text.utf8Decode_encode]
  simp only [read, formRecord_eq]

end Audit

end ServiceRegistry
