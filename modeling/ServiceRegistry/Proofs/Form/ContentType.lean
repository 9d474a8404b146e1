import ServiceRegistry.Audit.Body
import ServiceRegistry.Proofs.Form.Submission

/-!
# Content types of forms

Results:

* `HeaderValue.kind_read`: the kind of a value begins as the value does.
* `Form.fieldsOf_of_startsWith`: the fields of a request with a form in the encoding of addresses.
-/

namespace ServiceRegistry.Form

open Http (header?)

namespace HeaderValue

theorem trim_cons {c : Char} (black : Text.isBlank c = false) (rest : List Char) :
    ∃ more, trim (c :: rest) = c :: more := by
  have last : [c].dropWhile Text.isBlank = [c] := List.dropWhile_cons_of_neg (by simp [black])
  unfold trim
  rw [List.dropWhile_cons_of_neg (by simp [black]), List.reverse_cons, List.dropWhile_append, last]
  split_ifs
  · exact ⟨[], rfl⟩
  · exact ⟨_, List.reverse_append ..⟩

theorem lower_a : Char.ofNat (Text.lower 'a'.toNat) = 'a' := by decide

theorem splitParameter_cons (rest : List Char) :
    ∃ more, (splitParameter ('a' :: rest)).1 = 'a' :: more := by
  have black : Text.isBlank 'a' = false := by decide
  unfold splitParameter
  simp only
  split
  next => exact trim_cons black rest
  next =>
    obtain ⟨more, trimmed⟩ := trim_cons black (rest.takeWhile (· != '='))
    rw [List.takeWhile_cons_of_pos (by decide), trimmed, List.map_cons, lower_a]
    exact ⟨_, rfl⟩

theorem parts_cons (rest : List Char) :
    ∃ more others, parts false false ('a' :: rest) = ('a' :: more) :: others := by
  rw [parts, if_neg (by decide)]
  simp only
  split
  next => exact ⟨_, _, rfl⟩
  next => exact ⟨_, _, rfl⟩

/-- The kind of a value begins as the value does. -/
theorem kind_read {value : String} {rest : List Char} (h : value.toList = 'a' :: rest) :
    ∃ more, (read value).kind = 'a' :: more := by
  unfold read
  simp only [h]
  split_ifs
  · rw [List.map_cons, lower_a]
    exact trim_cons (by decide) _
  · obtain ⟨more, others, split⟩ := parts_cons rest
    rw [split]
    exact splitParameter_cons more

end HeaderValue

/-- A request that submits ids, and whose type begins with that of forms in the encoding of
addresses, is read as such a form. -/
theorem fieldsOf_of_startsWith {platform : Platform} {request : Http.Request}
    (type : Audit.startsWith ((header? "content-type" request.headers).getD "")
      Audit.urlEncodedType = true) {fields : List Field} {ids : List Int}
    (read : fieldsOf platform request = .ok fields)
    (submitted : submittedIds platform fields = .ok (some ids)) :
    fields = (formPairs true (Text.latin1Decode request.body)).map Field.ofPair := by
  obtain ⟨rest, same⟩ := List.isPrefixOf_iff_prefix.mp type
  obtain ⟨more, kind⟩ := HeaderValue.kind_read same.symm
  unfold fieldsOf at read
  simp only [kind] at read
  have single : ('a' :: more == "multipart/form-data".toList) = false := rfl
  rw [single] at read
  simp only [Bool.false_eq_true, if_false] at read
  split_ifs at read
  · exact (Except.ok.inj read).symm
  · obtain rfl := Except.ok.inj read
    cases submitted

end ServiceRegistry.Form
