import ServiceRegistry.Audit.Body
import ServiceRegistry.Form.Submission
import ServiceRegistry.Proofs.Form.Submission
import ServiceRegistry.Proofs.Form.UrlEncoded
import ServiceRegistry.Proofs.Number.Decimal

/-!
# Ids that are submitted as a form

Results:

* `Form.fieldsOf_formText`: a request whose body is the text of some pairs submits them.
* `Form.idsText`: a form of decimal ids.
* `Form.submittedId_idsText`, `Form.submittedIds_idsText`: a request with such a form submits its
  one id, or the ids in their order.
-/

namespace ServiceRegistry.Form

open Http (header?)

variable {platform : Platform}

/-! ## Requests with a form -/

theorem kind_urlEncoded :
    (HeaderValue.read Audit.urlEncodedType).kind = Audit.urlEncodedType.toList := by
  decide +kernel

theorem fieldsOf_urlEncoded {request : Http.Request}
    (type : header? "content-type" request.headers = some Audit.urlEncodedType) :
    fieldsOf platform request =
      .ok ((formPairs true (Text.latin1Decode request.body)).map Field.ofPair) := by
  unfold fieldsOf
  simp only [type, Option.getD_some, kind_urlEncoded]
  rfl

/-- A body that is the text of some pairs submits them. -/
theorem fieldsOf_formText {request : Http.Request} {pairs : List (String × String)}
    (type : header? "content-type" request.headers = some Audit.urlEncodedType)
    (body : request.body = Text.utf8Encode (formText pairs)) :
    fieldsOf platform request = .ok (pairs.map Field.ofPair) := by
  rw [fieldsOf_urlEncoded type, body, Text.latin1Decode_encode (isAscii_formText pairs),
    formPairs_formText (.inl rfl)]

/-! ## Forms of ids -/

/-- The text of a form with some ids, such as `id=7&id=9`. -/
def idsText (ids : List Int) : List Char :=
  List.intercalate ['&'] (ids.map fun id => "id=".toList ++ Number.intText id)

/-- The fields of a form with some ids. -/
def idFields (ids : List Int) : List (String × String) :=
  ids.map fun id => (idField, String.ofList (Number.intText id))

theorem formByte_of_kept : ∀ n < 128, Number.IsKept (Char.ofNat n) →
    Text.formByte (UInt8.ofNat n) = [Char.ofNat n] := by
  decide +kernel

theorem formEncode_intText (id : Int) :
    Text.formEncode (Number.intText id) = Number.intText id := by
  have plain (cs : List Char) (kept : ∀ c ∈ cs, Number.IsKept c) : Text.formEncode cs = cs := by
    induction cs with
    | nil => rfl
    | cons c rest ih =>
      obtain ⟨first, others⟩ := List.forall_mem_cons.mp kept
      have small : c.toNat < 128 := Nat.lt_of_le_of_lt first.toNat.2 (by decide)
      have byte := formByte_of_kept c.toNat small (by rwa [Char.ofNat_toNat])
      rw [Text.formEncode_eq, Text.utf8Encode, List.flatMap_cons, List.flatMap_append,
        Text.encode_ascii small, List.flatMap_singleton, byte, Char.ofNat_toNat]
      exact congrArg (c :: ·) (ih others)
  exact plain _ fun _ => Number.isKept_of_mem_intText

theorem idsText_eq (ids : List Int) : idsText ids = formText (idFields ids) := by
  rw [idsText, formText_eq, idFields, List.map_map]
  refine congrArg _ (List.map_congr_left fun id _ => ?_)
  simp only [Function.comp_apply, pairText, String.toList_ofList, formEncode_intText]
  rfl

theorem valuesOf_idFields (ids : List Int) :
    valuesOf idField (idFields ids) = ids.map fun id => String.ofList (Number.intText id) := by
  unfold valuesOf idFields
  rw [List.filter_eq_self.mpr, List.map_map]
  · rfl
  · intro field mem
    obtain ⟨id, -, rfl⟩ := List.mem_map.mp mem
    exact beq_self_eq_true _

/-- The value that a form gives for an id. -/
def idValue (id : Int) : Value :=
  .text (.whole (String.ofList (Number.intText id)))

theorem fieldValues_idFields (ids : List Int) :
    fieldValues idField ((idFields ids).map Field.ofPair) = ids.map idValue := by
  rw [fieldValues_ofPair, valuesOf_idFields, List.map_map]
  rfl

theorem validId_idValue {id : Int} (small : id.natAbs < 10 ^ Number.digitLimit) :
    validId (idValue id) = .ok id := by
  rw [idValue, validId, validInteger, String.toList_ofList, Number.readInteger_intText small]

theorem each_map_eq_ok {ι α : Type} {valid : ι → Except IssueKind α} {given : α → ι}
    {results : List α} (h : ∀ result ∈ results, valid (given result) = .ok result)
    (place : List Step) (position : Nat) :
    Checked.each valid place position (results.map given) = .ok results := by
  rw [Checked.each_eq_ok_iff, List.forall₂_map_left_iff, List.forall₂_same]
  exact h

theorem submittedIds_idFields {ids : List Int} (nonempty : ids ≠ [])
    (small : ∀ id ∈ ids, id.natAbs < 10 ^ Number.digitLimit) :
    submittedIds platform ((idFields ids).map Field.ofPair) = .ok (some ids) := by
  have each := each_map_eq_ok (fun id mem => validId_idValue (small id mem)) idPlace 0
  have values := fieldValues_idFields ids
  unfold submittedIds
  split
  next none =>
    rw [none] at values
    exact absurd (List.map_eq_nil_iff.mp values.symm) nonempty
  next =>
    rw [values, each]
    rfl

/-- A form of ids submits them in their order. -/
theorem submittedIds_idsText {request : Http.Request} {ids : List Int}
    (type : header? "content-type" request.headers = some Audit.urlEncodedType)
    (body : request.body = Text.utf8Encode (idsText ids)) (nonempty : ids ≠ [])
    (small : ∀ id ∈ ids, id.natAbs < 10 ^ Number.digitLimit) :
    fieldsOf platform request >>= submittedIds platform = .ok (some ids) := by
  rw [idsText_eq] at body
  rw [fieldsOf_formText type body]
  exact submittedIds_idFields nonempty small

theorem submittedId_idFields {id : Int} (small : id.natAbs < 10 ^ Number.digitLimit) :
    submittedId platform ((idFields [id]).map Field.ofPair) = .ok id := by
  have read := validId_idValue small
  have full : idValue id ≠ .text (.whole "") := by
    intro empty
    rw [empty] at read
    cases read
  unfold submittedId
  rw [fieldValues_idFields, List.map_singleton, List.getLast?_singleton]
  split
  next none => cases none
  next blank => exact absurd (Option.some.inj blank) full
  next value _ same =>
    rw [← Option.some.inj same, Checked.located, read]
    rfl

/-- A form of one id submits it. -/
theorem submittedId_idsText {request : Http.Request} {id : Int}
    (type : header? "content-type" request.headers = some Audit.urlEncodedType)
    (body : request.body = Text.utf8Encode (idsText [id]))
    (small : id.natAbs < 10 ^ Number.digitLimit) :
    fieldsOf platform request >>= submittedId platform = .ok id := by
  rw [idsText_eq] at body
  rw [fieldsOf_formText type body]
  exact submittedId_idFields small

end ServiceRegistry.Form
