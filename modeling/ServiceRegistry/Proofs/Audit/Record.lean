import Mathlib.Data.List.Induction
import ServiceRegistry.Audit.Capture
import ServiceRegistry.Proofs.Members

/-!
# What an event keeps of a form

A form is recorded as an object with one member for each name. Unless a name is sensitive, all its
values are in its member, up to the number of items that are recorded.

Results:

* `Form.lookup_groupPairs`: the values of a name are grouped under it.
* `Audit.lookup_maskMembers`: masking keeps the names of members.
* `Audit.find?_mask_formRecord`: the member of a name that is not sensitive.
* `Audit.formOf`: what is recorded of the bytes of a form.
* `Audit.find?_eventOf_body`: the body of a request in its event.
-/

namespace ServiceRegistry

namespace Form

/-! ## Values by their names -/

theorem lookup_addValue (name other value : String) (groups : List (String × List String)) :
    (addValue other value groups).lookup name =
      if name = other then some ((groups.lookup name).getD [] ++ [value])
      else groups.lookup name := by
  induction groups with
  | nil => exact lookup_cons_ite name other [value] []
  | cons group rest ih =>
    obtain ⟨key, values⟩ := group
    by_cases found : key = other
    · subst found
      rw [addValue, if_pos (beq_self_eq_true _)]
      by_cases same : name = key <;> simp [lookup_cons_ite, same]
    · rw [addValue, if_neg (by simpa using found)]
      by_cases same : name = key
      · simp [same, found]
      · simp [lookup_cons_ite, ih, same]

/-- The values of a name are grouped under it, in their order; a name without values has no
group. -/
theorem lookup_groupPairs (name : String) (pairs : List (String × String)) :
    (groupPairs pairs).lookup name =
      if valuesOf name pairs = [] then none else some (valuesOf name pairs) := by
  induction pairs using List.reverseRecOn with
  | nil => rfl
  | append_singleton pairs pair ih =>
    have step : groupPairs (pairs ++ [pair]) = addValue pair.1 pair.2 (groupPairs pairs) := by
      simp [groupPairs]
    have more : valuesOf name (pairs ++ [pair]) =
        valuesOf name pairs ++ if pair.1 = name then [pair.2] else [] := by
      by_cases same : pair.1 = name <;> simp [valuesOf, same]
    rw [step, lookup_addValue, ih, more]
    by_cases same : name = pair.1
    · rw [if_pos same, if_pos same.symm]
      by_cases none : valuesOf name pairs = [] <;> simp [none]
    · rw [if_neg same, if_neg (Ne.symm same), List.append_nil]

end Form

namespace Audit

/-! ## Masked members -/

theorem lookup_maskMembers (depth : Int) (key : String) (members : List (String × Json)) :
    (maskMembers depth members).lookup key =
      (members.lookup key).map fun value =>
        if isSensitive key then hidden else maskAt depth value := by
  induction members with
  | nil => rfl
  | cons member rest ih =>
    obtain ⟨name, value⟩ := member
    rw [maskMembers, List.lookup_cons, List.lookup_cons, ih]
    cases same : key == name with
    | true => rw [beq_iff_eq.mp same]; rfl
    | false => rfl

theorem maskItems_texts {depth : Int} (shallow : depth ≤ depthLimit) {count : Nat}
    {values : List String} (few : values.length ≤ count) :
    maskItems depth count (values.map Json.text) = values.map Json.text := by
  induction values generalizing count with
  | nil => cases count <;> rfl
  | cons value rest ih =>
    cases count with
    | zero => cases few
    | succ count =>
      rw [List.map_cons, maskItems, ih (Nat.le_of_succ_le_succ few), maskAt,
        if_neg (Int.not_lt.mpr shallow)]
      all_goals simp

/-- A few values are recorded as they are. -/
theorem maskAt_valuesRecord {values : List String} (few : values.length ≤ itemLimit) :
    maskAt 1 (valuesRecord values) = valuesRecord values := by
  unfold valuesRecord
  split
  next => rfl
  next =>
    rw [maskAt, if_neg (by decide), maskItems_texts (by decide) few]

/-- A name that is not sensitive has its values in the record of a form, if they are few. -/
theorem find?_mask_formRecord {name : String} (plain : isSensitive name = false)
    {pairs : List (String × String)} (some : Form.valuesOf name pairs ≠ [])
    (few : (Form.valuesOf name pairs).length ≤ itemLimit) :
    (mask (formRecord pairs)).find? name = .some (valuesRecord (Form.valuesOf name pairs)) := by
  have grouped := Form.lookup_groupPairs name pairs
  rw [if_neg some] at grouped
  rw [mask, formRecord, maskAt, if_neg (by decide), Json.find?, lookup_maskMembers,
    lookup_map_value, grouped, Option.map_some, Option.map_some, plain]
  exact congrArg Option.some (maskAt_valuesRecord few)

/-! ## Events -/

/-- What is recorded of the bytes of a form: its fields, or a note that they are not UTF-8. -/
def formOf (bytes : List UInt8) : Json :=
  match Text.utf8Decode bytes with
  | .ok text => mask (formRecord (Form.formPairs false text))
  | .error _ => unreadable

/-- What is recorded of a form is not left out of an event. -/
theorem bodyMember_formOf (bytes : List UInt8) :
    bodyMember (some (formOf bytes)) = some (formOf bytes) := by
  unfold formOf
  cases Text.utf8Decode bytes with
  | ok text =>
    simp only [mask, formRecord, maskAt, Int.not_lt.mpr (show 0 ≤ depthLimit by decide), if_false]
    rfl
  | error fault => rfl

/-- The recorded body of a request is in its event. -/
theorem find?_eventOf_body (request : Http.Request) (body : Option Json) (status : Nat)
    (reason : Option String) :
    (eventOf request body status reason).find? "request_body" = bodyMember body := by
  unfold eventOf
  cases requestQuery request <;> cases bodyMember body <;> cases reasonMember reason <;> rfl

end Audit

end ServiceRegistry
