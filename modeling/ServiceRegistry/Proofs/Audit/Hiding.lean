import Mathlib
import ServiceRegistry.Proofs.Form.UrlEncoded
import ServiceRegistry.Proofs.Run
import ServiceRegistry.Audit.Capture

/-!
# What is stored under sensitive keys is not recorded

Two requests that differ only in values under sensitive keys are alike. Every part of an event is
the same for both: masking puts the same text in the place of such values, and what is done before
it (grouping the values of a form, keeping the last value of a query) takes alike pairs to alike
pairs, since it looks at nothing but names.

Results:

* `Alike`: values that are the same but for what is under sensitive keys, at any depth.
* `PairsAlike`: the same for the pairs of a form or a query.
* `QueriesAlike`: the same for query strings, as far as they can be read.
* `maskAt_of_alike`: alike values are masked to the same value.
* `PairsAlike.groupPairs`, `PairsAlike.membersOf`: alike pairs are put together alike.
* `IsFormOf`, `isFormOf_formText`: the bytes of a form.
* `capture_of_alike`: the capture of alike requests does the same.
-/

namespace ServiceRegistry.Audit

/-! ## Alike values -/

mutual

/-- Values that are the same but for what is stored under sensitive keys. -/
inductive Alike : Json → Json → Prop
  | same (value : Json) : Alike value value
  | list {items items' : List Json} : ItemsAlike items items' → Alike (.list items) (.list items')
  | object {members members' : List (String × Json)} : MembersAlike members members' →
      Alike (.object members) (.object members')

/-- Lists of alike values. -/
inductive ItemsAlike : List Json → List Json → Prop
  | nil : ItemsAlike [] []
  | cons {item item' : Json} {rest rest' : List Json} : Alike item item' → ItemsAlike rest rest' →
      ItemsAlike (item :: rest) (item' :: rest')

/-- Members with the same keys, of which those with plain keys have alike values. -/
inductive MembersAlike : List (String × Json) → List (String × Json) → Prop
  | nil : MembersAlike [] []
  | sensitive {key : String} {value value' : Json} {rest rest' : List (String × Json)} :
      isSensitive key = true → MembersAlike rest rest' →
      MembersAlike ((key, value) :: rest) ((key, value') :: rest')
  | plain {key : String} {value value' : Json} {rest rest' : List (String × Json)} :
      Alike value value' → MembersAlike rest rest' →
      MembersAlike ((key, value) :: rest) ((key, value') :: rest')

end

mutual

/-- Alike values are masked to the same value. -/
theorem maskAt_of_alike (depth : Int) {value value' : Json} (alike : Alike value value') :
    maskAt depth value = maskAt depth value' := by
  match alike with
  | .same _ => rfl
  | .list items => simp only [maskAt, maskItems_of_alike (depth + 1) itemLimit items]
  | .object members => simp only [maskAt, maskMembers_of_alike (depth + 1) members]

theorem maskItems_of_alike (depth : Int) (count : Nat) {items items' : List Json}
    (alike : ItemsAlike items items') :
    maskItems depth count items = maskItems depth count items' := by
  match alike, count with
  | .nil, _ => rfl
  | .cons _ _, 0 => rfl
  | .cons item rest, count + 1 =>
    simp only [maskItems, maskAt_of_alike depth item, maskItems_of_alike depth count rest]

theorem maskMembers_of_alike (depth : Int) {members members' : List (String × Json)}
    (alike : MembersAlike members members') :
    maskMembers depth members = maskMembers depth members' := by
  match alike with
  | .nil => rfl
  | .sensitive key rest => simp only [maskMembers, key, if_true, maskMembers_of_alike depth rest]
  | .plain value rest =>
    simp only [maskMembers, maskAt_of_alike depth value, maskMembers_of_alike depth rest]

end

theorem mask_of_alike {value value' : Json} (alike : Alike value value') :
    mask value = mask value' :=
  maskAt_of_alike 0 alike

/-! ## Alike pairs -/

section Pairs

variable {α β : Type}

/-- Pairs of one name, with one value unless the name is sensitive. -/
def PairAlike (pair pair' : String × α) : Prop :=
  pair.1 = pair'.1 ∧ (isSensitive pair.1 = true ∨ pair.2 = pair'.2)

/-- Lists of pairs with the same names in the same order, and with the same values under names that
are not sensitive. -/
abbrev PairsAlike : List (String × α) → List (String × α) → Prop :=
  List.Forall₂ PairAlike

variable {pairs pairs' : List (String × α)}

theorem PairsAlike.map (f : α → β) (alike : PairsAlike pairs pairs') :
    PairsAlike (pairs.map fun pair => (pair.1, f pair.2))
      (pairs'.map fun pair => (pair.1, f pair.2)) := by
  rw [PairsAlike, List.forall₂_map_left_iff, List.forall₂_map_right_iff]
  exact alike.imp fun pair pair' both => ⟨both.1, both.2.imp_right (congrArg f)⟩

theorem PairsAlike.membersAlike {members members' : List (String × Json)}
    (alike : PairsAlike members members') : MembersAlike members members' := by
  induction alike with
  | nil => exact .nil
  | @cons member member' _ _ first _ ih =>
    obtain ⟨key, value⟩ := member
    obtain ⟨key', value'⟩ := member'
    obtain ⟨rfl, sensitive | rfl⟩ := first
    · exact .sensitive sensitive ih
    · exact .plain (.same value) ih

/-- A new value for a name changes alike members alike. -/
theorem PairsAlike.insertMember (alike : PairsAlike pairs pairs') {pair pair' : String × α}
    (new : PairAlike pair pair') :
    PairsAlike (insertMember pair.1 pair.2 pairs) (insertMember pair'.1 pair'.2 pairs') := by
  obtain ⟨name, value⟩ := pair
  obtain ⟨name', value'⟩ := pair'
  obtain ⟨rfl, values⟩ := new
  induction alike with
  | nil => exact .cons ⟨rfl, values⟩ .nil
  | @cons member member' rest rest' first others ih =>
    simp only [ServiceRegistry.insertMember, ← first.1]
    split_ifs
    · exact .cons ⟨rfl, values⟩ others
    · exact .cons first ih

/-- The last values of alike pairs are alike. -/
theorem PairsAlike.membersOf (alike : PairsAlike pairs pairs') :
    PairsAlike (membersOf pairs) (membersOf pairs') :=
  List.rel_foldl (fun _ _ members _ _ new => members.insertMember new) .nil alike

end Pairs

theorem PairsAlike.addValue {groups groups' : List (String × List String)}
    (alike : PairsAlike groups groups') {pair pair' : String × String}
    (new : PairAlike pair pair') :
    PairsAlike (Form.addValue pair.1 pair.2 groups) (Form.addValue pair'.1 pair'.2 groups') := by
  obtain ⟨name, value⟩ := pair
  obtain ⟨name', value'⟩ := pair'
  obtain ⟨rfl, values⟩ := new
  induction alike with
  | nil => exact .cons ⟨rfl, values.imp_right fun same => by rw [same]⟩ .nil
  | @cons group group' rest rest' first others ih =>
    simp only [Form.addValue, ← first.1]
    split_ifs with found
    · obtain rfl : group.1 = name := beq_iff_eq.mp found
      refine .cons ⟨rfl, ?_⟩ others
      rcases values with sensitive | rfl
      · exact .inl sensitive
      · exact first.2.imp_right fun same => by rw [same]
    · exact .cons first ih

/-- The values of alike pairs are grouped alike. -/
theorem PairsAlike.groupPairs {pairs pairs' : List (String × String)}
    (alike : PairsAlike pairs pairs') :
    PairsAlike (Form.groupPairs pairs) (Form.groupPairs pairs') :=
  List.rel_foldl (fun _ _ groups _ _ new => groups.addValue new) .nil alike

/-- Alike forms are recorded as one value. -/
theorem mask_formRecord_of_alike {pairs pairs' : List (String × String)}
    (alike : PairsAlike pairs pairs') : mask (formRecord pairs) = mask (formRecord pairs') :=
  mask_of_alike (.object (alike.groupPairs.map valuesRecord).membersAlike)

/-! ## The bytes of a form -/

/-- Bytes that some pairs are written as: their text has these pairs, and nothing is written where
there is none. -/
structure IsFormOf (pairs : List (String × String)) (bytes : List UInt8) : Prop where
  reads : ∃ text, Text.utf8Decode bytes = .ok text ∧ Form.formPairs true text = pairs
  blank : pairs = [] → bytes = []

theorem isFormOf_formText (pairs : List (String × String)) :
    IsFormOf pairs (Text.utf8Encode (Form.formText pairs)) where
  reads := ⟨Form.formText pairs, Text.utf8Decode_encode _, Form.formPairs_formText (.inl rfl)⟩
  blank := by
    rintro rfl
    rfl

theorem IsFormOf.eq_nil_iff {pairs : List (String × String)} {bytes : List UInt8}
    (form : IsFormOf pairs bytes) : bytes = [] ↔ pairs = [] := by
  refine ⟨?_, form.blank⟩
  rintro rfl
  obtain ⟨text, decoded, rfl⟩ := form.reads
  obtain rfl : [] = text := Except.ok.inj ((Text.utf8Decode_encode []).symm.trans decoded)
  rfl

/-- Where no value is blank, it makes no difference whether blank values are kept. -/
theorem formPairs_of_filled {text : List Char}
    (filled : ∀ pair ∈ Form.formPairs true text, pair.2 ≠ "") :
    Form.formPairs false text = Form.formPairs true text := by
  refine List.filterMap_congr fun part mem => ?_
  cases empty : part.isEmpty with
  | true => simp
  | false =>
    have kept : (String.ofList (Text.formDecode (Form.splitPair part).1),
        String.ofList (Text.formDecode (Form.splitPair part).2)) ∈ Form.formPairs true text :=
      List.mem_filterMap.mpr ⟨part, mem, by simp [empty]⟩
    have value : (Form.splitPair part).2 ≠ [] := by
      intro none
      refine filled _ kept ?_
      rw [none]
      simp [Text.formDecode, Text.plusToSpace, Text.percentDecode]
    simp [value]

/-- A form without blank values is recorded as its pairs. -/
theorem recordBody_form {contentType : String}
    (urlEncoded : startsWith contentType urlEncodedType = true) {pairs : List (String × String)}
    {bytes : List UInt8} (form : IsFormOf pairs bytes) (filled : ∀ pair ∈ pairs, pair.2 ≠ "") :
    recordBody contentType bytes = .ok (formRecord pairs) := by
  obtain ⟨text, decoded, rfl⟩ := form.reads
  rw [recordBody, if_pos urlEncoded, decoded, ← formPairs_of_filled filled]

/-! ## Alike requests -/

/-- Bodies with one content type that are recorded alike: documents with alike values, forms with
alike pairs of which no value is blank, or the same bytes. -/
inductive BodiesAlike (contentType : String) : List UInt8 → List UInt8 → Prop
  | same (bytes : List UInt8) : BodiesAlike contentType bytes bytes
  | documents {bytes bytes' : List UInt8} {value value' : Json} :
      startsWith contentType urlEncodedType = false →
      startsWith contentType multipartType = false →
      Json.readDocument bytes = .ok value → Json.readDocument bytes' = .ok value' →
      Alike value value' → BodiesAlike contentType bytes bytes'
  | forms {bytes bytes' : List UInt8} {pairs pairs' : List (String × String)} :
      startsWith contentType urlEncodedType = true →
      IsFormOf pairs bytes → IsFormOf pairs' bytes' →
      (∀ pair ∈ pairs, pair.2 ≠ "") → (∀ pair ∈ pairs', pair.2 ≠ "") →
      PairsAlike pairs pairs' → BodiesAlike contentType bytes bytes'

/-- Queries that are recorded alike: alike pairs in UTF-8, or the same bytes. -/
inductive QueriesAlike : List UInt8 → List UInt8 → Prop
  | same (bytes : List UInt8) : QueriesAlike bytes bytes
  | pairs {bytes bytes' : List UInt8} {text text' : List Char} :
      Text.utf8Decode bytes = .ok text → Text.utf8Decode bytes' = .ok text' →
      PairsAlike (Form.formPairs true (Text.latin1Decode bytes))
        (Form.formPairs true (Text.latin1Decode bytes')) → QueriesAlike bytes bytes'

/-- Requests that are the same but for values under sensitive keys in their queries and bodies. -/
structure RequestsAlike (request request' : Http.Request) : Prop where
  method : request'.method = request.method
  path : request'.path = request.path
  headers : request'.headers = request.headers
  query : QueriesAlike request.query request'.query
  body : BodiesAlike ((Http.header? "content-type" request.headers).getD "") request.body
    request'.body

/-- Alike bodies are recorded as values that are masked to the same. -/
theorem BodiesAlike.recorded {contentType : String} {bytes bytes' : List UInt8}
    (alike : BodiesAlike contentType bytes bytes') :
    (bytes = [] ↔ bytes' = []) ∧
      (recordBody contentType bytes).map mask = (recordBody contentType bytes').map mask := by
  cases alike with
  | same => exact ⟨Iff.rfl, rfl⟩
  | @documents _ value value' url parts reads reads' alike =>
    have full {bytes : List UInt8} {value : Json} (reads : Json.readDocument bytes = .ok value) :
        bytes ≠ [] := by
      rintro rfl
      rw [Json.readDocument_nil] at reads
      cases reads
    refine ⟨iff_of_false (full reads) (full reads'), ?_⟩
    simp only [recordBody, url, parts, reads, reads', Bool.false_eq_true, if_false]
    exact congrArg Except.ok (mask_of_alike alike)
  | forms urlEncoded form form' filled filled' alike =>
    refine ⟨?_, ?_⟩
    · rw [form.eq_nil_iff, form'.eq_nil_iff, ← List.length_eq_zero_iff, alike.length_eq,
        List.length_eq_zero_iff]
    · rw [recordBody_form urlEncoded form filled, recordBody_form urlEncoded form' filled']
      exact congrArg Except.ok (mask_formRecord_of_alike alike)

namespace RequestsAlike

variable {request request' : Http.Request}

theorem requestBody_eq (alike : RequestsAlike request request') :
    requestBody request = requestBody request' := by
  obtain ⟨empty, recorded⟩ := alike.body.recorded
  have empty : request.body.isEmpty = request'.body.isEmpty := by
    rw [Bool.eq_iff_iff, List.isEmpty_iff, List.isEmpty_iff, empty]
  simp only [requestBody, alike.method, alike.headers, empty]
  generalize (Http.header? "content-type" request.headers).getD "" = contentType at recorded ⊢
  generalize recordBody contentType request.body = result at recorded ⊢
  generalize recordBody contentType request'.body = result' at recorded ⊢
  rcases result with fault | value <;> rcases result' with fault' | value' <;>
    simp only [Except.map, reduceCtorEq, Except.error.injEq, Except.ok.injEq] at recorded ⊢
  · rw [recorded]
  · rw [recorded]

theorem requestQuery_eq (alike : RequestsAlike request request') :
    requestQuery request = requestQuery request' := by
  have query := alike.query
  unfold requestQuery Http.Request.queryText
  generalize request.query = bytes at query ⊢
  generalize request'.query = bytes' at query ⊢
  cases query with
  | same => rfl
  | pairs _ _ query =>
    generalize Form.formPairs true (Text.latin1Decode bytes) = pairs at query ⊢
    generalize Form.formPairs true (Text.latin1Decode bytes') = pairs' at query ⊢
    have members := mask_of_alike (.object (query.membersOf.map Json.text).membersAlike)
    cases query with
    | nil => rfl
    | cons first rest => exact congrArg some members

theorem urlPath_eq (alike : RequestsAlike request request') :
    request.urlPath = request'.urlPath := by
  unfold Http.Request.urlPath Http.Request.host
  rw [alike.headers, alike.path]

/-- The addresses of alike requests can both be read, or neither can for one reason. -/
theorem address_eq (alike : RequestsAlike request request') :
    request.address = request'.address := by
  have query := alike.query
  have urlPath := alike.urlPath_eq
  unfold Http.Request.address
  rw [urlPath, show request'.host = request.host by rw [Http.Request.host, alike.headers]; rfl,
    alike.path]
  generalize request.query = bytes at query ⊢
  generalize request'.query = bytes' at query ⊢
  cases query with
  | same => rfl
  | pairs decoded decoded' => rw [decoded, decoded']

/-- Alike requests have the same event. -/
theorem eventOf_eq (alike : RequestsAlike request request') :
    eventOf request = eventOf request' := by
  have script : request.isFromScript = request'.isFromScript := by
    unfold Http.Request.isFromScript
    rw [alike.headers]
  funext body status reason
  unfold eventOf
  rw [alike.requestQuery_eq, alike.method, alike.urlPath_eq, script]

end RequestsAlike

section Capture

open Run (on)

variable {σ : Type} {request request' : Http.Request}

/-- What does the same for both of two alike requests is captured alike: not only the events are the
same, but also the log, the store and the response. -/
theorem capture_of_alike (alike : RequestsAlike request request') (recorder : Option Recorder)
    (outcome : Run σ Http.Response) (world : World σ) :
    on world (capture recorder (fun _ => outcome) request) =
      on world (capture recorder (fun _ => outcome) request') := by
  unfold capture observe
  rw [alike.address_eq, alike.requestBody_eq, alike.eventOf_eq]

/-- Documents that differ under a key in capitals of an object in a list, one with a number there
and the other with an object, and queries that differ under a name. -/
theorem capture_of_alike_nested :
    let post (query body : String) : Http.Request :=
      ⟨"POST", "/manage", Text.utf8Encode query.toList, [("content-type", "application/json")],
        Text.utf8Encode body.toList, none⟩
    let request := post "id=3&apiKey=a" "\x7b\"u\":[\x7b\"TOKEN\":1\x7d]\x7d"
    let request' := post "id=3&apiKey=b" "\x7b\"u\":[\x7b\"TOKEN\":\x7b\x7d\x7d]\x7d"
    let outcome : Run Unit Http.Response := throw .registryUnavailable
    request.query ≠ request'.query ∧ request.body ≠ request'.body ∧
      RequestsAlike request request' ∧
      on ⟨(), [], []⟩ (capture (some ⟨"ds", false⟩) (fun _ => outcome) request) =
        on ⟨(), [], []⟩ (capture (some ⟨"ds", false⟩) (fun _ => outcome) request') := by
  intro post request request' outcome
  have token : isSensitive "TOKEN" = true := by decide +kernel
  have apiKey : isSensitive "apiKey" = true := by decide +kernel
  have reads : Json.readDocument request.body =
      .ok (.object [("u", .list [.object [("TOKEN", .int 1)]])]) := by cbv
  have reads' : Json.readDocument request'.body =
      .ok (.object [("u", .list [.object [("TOKEN", .object [])]])]) := by cbv
  have pairs : Form.formPairs true request.queryText = [("id", "3"), ("apiKey", "a")] := by cbv
  have pairs' : Form.formPairs true request'.queryText = [("id", "3"), ("apiKey", "b")] := by cbv
  have alike : RequestsAlike request request' := by
    refine ⟨rfl, rfl, rfl, .pairs (Text.utf8Decode_encode _) (Text.utf8Decode_encode _) ?_,
      .documents (by decide) (by decide) reads reads' ?_⟩
    · show PairsAlike (Form.formPairs true request.queryText)
        (Form.formPairs true request'.queryText)
      rw [pairs, pairs']
      exact .cons ⟨rfl, .inr rfl⟩ (.cons ⟨rfl, .inl apiKey⟩ .nil)
    · exact .object (.plain (.list (.cons (.object (.sensitive token .nil)) .nil)) .nil)
  exact ⟨by decide, by decide, alike, capture_of_alike alike _ outcome _⟩

end Capture

end ServiceRegistry.Audit
