import ServiceRegistry.Proofs.Audit.Record
import ServiceRegistry.Proofs.Form.ContentType
import ServiceRegistry.Proofs.Form.Spelling
import ServiceRegistry.Proofs.Http.Recording

/-!
# Reorderings, read back from their events

The application and the capture read a form with two readers of their own: one takes each byte for a
character and keeps blank values, the other takes the bytes for UTF-8 and drops blank values. If the
first gives ids, the second gives the same values, so the event of a reordering says which ids got
their positions.

Results:

* `Request.NamesHost`, `Request.captured_of_asks`: a request to reorder whose host is one is
  captured.
* `requestBody_of_form`: what is recorded of a form.
* `Server.serve_success`: the event of a request that succeeded.
* `recordedIds`: the ids that the recorded values of a field give.
* `Server.reorder_replayed`: the event of a reordering gives the ids that were placed.
-/

namespace ServiceRegistry.Http

open Database (ofRows placed DistinctIds)
open Run (on)

variable {σ : Type} {request : Request}

/-! ## The path of a reordering -/

/-- A request whose host has no character that ends one in an address. -/
def Request.NamesHost (request : Request) : Prop :=
  (request.host.toList.all fun c => c != '/' && c != '?' && c != '#') = true

instance (request : Request) : Decidable request.NamesHost :=
  inferInstanceAs (Decidable (_ = true))

theorem filter_dropLineFeed (path : String) :
    (Route.dropLineFeed path).toList.filter (!isAddressBreak ·) =
      path.toList.filter (!isAddressBreak ·) := by
  unfold Route.dropLineFeed
  split
  next rest reversed =>
    have whole : path.toList = rest.reverse ++ ['\n'] := by
      rw [← List.reverse_reverse path.toList, reversed, List.reverse_cons]
    rw [whole, List.filter_append, String.toList_ofList]
    exact (List.append_nil _).symm
  next => rfl

/-- A request to reorder is captured. -/
theorem Request.captured_of_asks (host : request.NamesHost)
    (asks : request.Asks "POST" .reorder) (recorder : Audit.Recorder) :
    isCaptured (some recorder) request = true := by
  obtain ⟨before, after, table, -⟩ := List.lookup_eq_some_iff.mp asks.2
  have all : ∀ page ∈ Route.table, page.2 = .reorder →
      let shown := page.1.toList.filter (!isAddressBreak ·)
      shown.head? = some '/' ∧ (shown.tail.all fun c => c != '?' && c != '#') = true ∧
        String.ofList shown ∉ Audit.skippedPaths := by
    decide +kernel
  obtain ⟨slash, plain, other⟩ :=
    all (Route.dropLineFeed request.path, .reorder) (table ▸ by simp) rfl
  simp only [filter_dropLineFeed] at slash plain other
  obtain ⟨rest, shown⟩ := List.head?_eq_some_iff.mp slash
  rw [shown] at plain other
  rw [Server.isCaptured_iff, Request.urlPath, shownPath_eq host shown plain]
  exact other

/-! ## What is recorded of a form -/

/-- What is recorded of a posted form. -/
theorem requestBody_of_form (posted : request.method = "POST") (full : request.body ≠ [])
    (type : Audit.startsWith ((header? "content-type" request.headers).getD "")
      Audit.urlEncodedType = true) :
    Audit.requestBody request = .ok (some (Audit.formOf request.body)) := by
  have captured : ¬ (request.method != "POST" || request.body.isEmpty) = true := by
    simp [posted, full]
  unfold Audit.requestBody
  rw [if_neg captured]
  simp only [Audit.recordBody, type, if_true, Audit.formOf]
  cases Text.utf8Decode request.body <;> rfl

/-! ## The event of a success -/

/-- A captured request that succeeds leaves one event with its body. -/
theorem Server.serve_success (server : Server σ) {recorder : Audit.Recorder}
    (recording : server.recorder = some recorder) (works : recorder.fails = false)
    (quiet : server.management.registry.Quiet)
    (question : Cors.preflight? server.origins request = none)
    (captured : isCaptured (some recorder) request = true) {body : Option Json}
    (read : Audit.requestBody request = .ok body) {store : σ} {status : Nat}
    (answered : (server.serve store request).1.status? = some status) (success : status < 400) :
    (server.serve store request).1.events =
      [(recorder.dataset, Audit.eventOf request body status none)] := by
  have readable := server.readable_of_status? question answered
  have settled := answer_settled server readable quiet ⟨store, [], []⟩
  have layered := server.on_layered question ⟨store, [], []⟩
  rw [recording, capture_of_captured readable captured, on_observe, read] at layered
  -- A fault, whoever stopped with it, is answered 500 or not at all.
  have stops {fault : Fault} {after : World σ}
      (h : on ⟨store, [], []⟩ (server.layered request) = (.error fault, after)) : False := by
    rcases (serve_of_fault h).1 with unanswered | failed
    · cases unanswered.symm.trans answered
    · obtain rfl := Option.some.inj (failed.symm.trans answered)
      omega
  generalize on ⟨store, [], []⟩ (server.answer request) = result at settled layered
  rcases result with ⟨fault | response, after⟩
  · exact (stops layered).elim
  · have empty : after.events = [] := settled.events
    by_cases passed : response.status < 400
    · simp only [passed, if_true] at layered
      rw [serve_of_ok layered] at answered ⊢
      obtain rfl : response.status = status := Option.some.inj answered
      simp [ingested, works, empty]
    · simp only [passed, if_false] at layered
      cases reason : Audit.errorOf response.body with
      | ok reason' =>
        simp only [reason] at layered
        rw [serve_of_ok layered] at answered
        obtain rfl : response.status = status := Option.some.inj answered
        exact absurd success passed
      | error fault =>
        simp only [reason] at layered
        exact (stops layered).elim

/-! ## The ids of an event -/

/-- The ids that the recorded values of a field give, read as the ids of a submitted form. -/
def recordedIds : Json → Checked (List Int)
  | .list values => Checked.each validInteger Form.idPlace 0 values
  | value => Checked.each validInteger Form.idPlace 0 [value]

theorem recordedIds_valuesRecord (values : List String) :
    recordedIds (Audit.valuesRecord values) =
      Checked.each validInteger Form.idPlace 0 (values.map Json.text) := by
  unfold Audit.valuesRecord
  split <;> rfl

/-- A whole text is read as an id in the same way, whether it was submitted or recorded. -/
theorem each_validId_whole (values : List String) (ids : List Int) :
    Checked.each Form.validId Form.idPlace 0 (values.map fun s => .text (.whole s)) = .ok ids ↔
      Checked.each validInteger Form.idPlace 0 (values.map Json.text) = .ok ids := by
  rw [Checked.each_eq_ok_iff, Checked.each_eq_ok_iff, List.forall₂_map_left_iff,
    List.forall₂_map_left_iff]
  rfl

theorem isNumber_of_valid {value : String} {id : Int}
    (valid : validInteger (.text value) = .ok id) : Form.IsNumber value := by
  rw [validInteger] at valid
  split at valid
  next n read => exact ⟨n, read⟩
  next => cases valid
  next => cases valid

theorem isNumber_of_each {values : List String} {ids : List Int}
    (read : Checked.each validInteger Form.idPlace 0 (values.map Json.text) = .ok ids) :
    ids.length = values.length ∧ ∀ value ∈ values, Form.IsNumber value := by
  have all := List.forall₂_map_left_iff.mp (Checked.each_eq_ok_iff.mp read)
  clear read
  refine ⟨all.length_eq.symm, ?_⟩
  induction all with
  | nil => exact fun value mem => (List.not_mem_nil mem).elim
  | cons valid _ ih => exact List.forall_mem_cons.mpr ⟨isNumber_of_valid valid, ih⟩

/-- A request that submits ids has a body. -/
theorem body_ne_nil (type : Audit.startsWith ((header? "content-type" request.headers).getD "")
      Audit.urlEncodedType = true)
    {platform : Form.Platform} {ids : List Int}
    (submitted : request.submittedIds platform = .ok (some ids)) : request.body ≠ [] := by
  intro empty
  obtain ⟨fields, read, given⟩ := bind_eq_ok.mp submitted
  obtain rfl := Form.fieldsOf_of_startsWith type read given
  have none : Form.formPairs true (Text.latin1Decode request.body) = [] := by
    rw [empty]
    rfl
  obtain ⟨some, -⟩ := Form.submittedIds_eq_some given
  rw [none] at some
  exact some rfl

/-- The record of a form that submits ids gives them, if the form is UTF-8 and they are few. -/
theorem recordedIds_of_submitted
    (type : Audit.startsWith ((header? "content-type" request.headers).getD "")
      Audit.urlEncodedType = true)
    {platform : Form.Platform} {ids : List Int}
    (submitted : request.submittedIds platform = .ok (some ids)) {text : List Char}
    (decoded : Text.utf8Decode request.body = .ok text) (few : ids.length ≤ Audit.itemLimit) :
    ∃ values, (Audit.formOf request.body).find? "id" = some (Audit.valuesRecord values) ∧
      recordedIds (Audit.valuesRecord values) = .ok ids := by
  obtain ⟨fields, read, submitted⟩ := bind_eq_ok.mp submitted
  obtain rfl := Form.fieldsOf_of_startsWith type read submitted
  rw [Audit.formOf, decoded]
  obtain ⟨some, valid⟩ := Form.submittedIds_eq_some submitted
  rw [Form.fieldValues_ofPair] at some valid
  have some : Form.valuesOf Form.idField
      (Form.formPairs true (Text.latin1Decode request.body)) ≠ [] :=
    fun none => some (by rw [none]; rfl)
  have valid := (each_validId_whole _ ids).mp valid
  obtain ⟨length, numbers⟩ := isNumber_of_each valid
  have ascii : ∀ c ∈ Form.idField.toList, Text.isAscii c = true :=
    List.all_eq_true.mp (by decide +kernel)
  have same := (Form.spelt_of_utf8Decode decoded).valuesOf_eq ascii numbers
  refine ⟨Form.valuesOf Form.idField (Form.formPairs false text), ?_, ?_⟩
  · have plain : Audit.isSensitive Form.idField = false := by decide +kernel
    exact Audit.find?_mask_formRecord plain (by rwa [same]) (by rwa [same, ← length])
  · rw [recordedIds_valuesRecord, same, valid]

theorem placed_of_effect {platform : Form.Platform} {url : String} {rows saved : List Entry}
    (effect : Effect platform url request rows saved) (asks : request.Asks "POST" .reorder) :
    ∃ ids, request.submittedIds platform = .ok (some ids) ∧ saved = placed rows 0 ids := by
  cases effect with
  | listed other => cases asks.unique other
  | managed other => cases asks.unique other
  | removed id other => cases asks.unique other
  | reordered ids _ submitted => exact ⟨ids, submitted, rfl⟩
  | untouched _ _ _ none => exact absurd asks none

/-- A reordering that is answered 200 leaves one event. If its body is UTF-8 and at most as many ids
were submitted as a list keeps items, the event has the values of their field, and the table is that
before with the positions given to the ids that these values give. If the body is not UTF-8, the
event says so and has none of its fields. The form must be declared by the name of its type in small
letters, and the request must be for a host. -/
theorem Server.reorder_replayed (platform : Form.Platform) (url : String)
    {recorder : Audit.Recorder} (works : recorder.fails = false) (origins : List String) {rows : List Entry}
    (distinct : DistinctIds rows) (asks : request.Asks "POST" .reorder) (host : request.NamesHost)
    (type : Audit.startsWith ((header? "content-type" request.headers).getD "")
      Audit.urlEncodedType = true) :
    let server := Server.ofDatabase platform url (some recorder) origins
    let served := server.serve (ofRows rows) request
    served.1.status? = some 200 →
      ∃ ids event record, request.submittedIds platform = .ok (some ids) ∧
        served.2 = ofRows (placed rows 0 ids) ∧
        served.1.events = [(recorder.dataset, event)] ∧
        event.find? "request_body" = some record ∧
        ((∃ text, Text.utf8Decode request.body = .ok text) → ids.length ≤ Audit.itemLimit →
          ∃ values, record.find? "id" = some (Audit.valuesRecord values) ∧
            recordedIds (Audit.valuesRecord values) = .ok ids) ∧
        ((∃ fault, Text.utf8Decode request.body = .error fault) → record = Audit.unreadable) := by
  intro server served success
  have ends := Server.serve_ends distinct platform url request (some recorder) origins
  have kept : served.2 = ofRows served.2.saved :=
    Server.serve_ofRows platform url request (some recorder) origins (ofRows rows)
  obtain ⟨ids, submitted, saved⟩ : ∃ ids, request.submittedIds platform = .ok (some ids) ∧
      served.2.saved = placed rows 0 ids := by
    rcases ends with ⟨-, effect⟩ | ⟨failed, -⟩
    · exact placed_of_effect effect asks
    · exact absurd success failed
  rw [saved] at kept
  have question := Server.preflight?_of_asks asks (by decide) origins
  have read := requestBody_of_form asks.1 (body_ne_nil type submitted) type
  have captured := Request.captured_of_asks host asks recorder
  have event := Server.serve_success server rfl works Database.registry_quiet question captured read
    success (by decide)
  refine ⟨ids, _, Audit.formOf request.body, submitted, kept, event, ?_, ?_, ?_⟩
  · rw [Audit.find?_eventOf_body, Audit.bodyMember_formOf]
  · rintro ⟨text, decoded⟩ few
    exact recordedIds_of_submitted type submitted decoded few
  · rintro ⟨fault, undecoded⟩
    rw [Audit.formOf, undecoded]

/-- The path to which a new order is posted. -/
def reorderPath : String := "/updateRegisteredServiceEvaluationOrder"

theorem Server.reorder_replayed_pair :
    let recorder : Audit.Recorder := ⟨"events", false⟩
    let rows := [newEntry 7 "u" "a", newEntry 9 "v" "b"]
    let request := Request.formPost reorderPath "id=9&x=%FF&id=+7"
    let served := (Server.ofDatabase .standard "u" (some recorder) []).serve (ofRows rows) request
    recorder.fails = false ∧ DistinctIds rows ∧ request.Asks "POST" .reorder ∧
      request.NamesHost ∧
      Audit.startsWith ((header? "content-type" request.headers).getD "")
        Audit.urlEncodedType = true ∧
      served.1.status? = some 200 ∧
      (served.2.saved.map fun row => (row.id, row.evaluationOrder)) = [(7, 1), (9, 0)] ∧
      ∃ ids event record, request.submittedIds .standard = .ok (some ids) ∧
        served.2 = ofRows (placed rows 0 ids) ∧ served.1.events = [(recorder.dataset, event)] ∧
        event.find? "request_body" = some record ∧
        ((∃ text, Text.utf8Decode request.body = .ok text) → ids.length ≤ Audit.itemLimit →
          ∃ values, record.find? "id" = some (Audit.valuesRecord values) ∧
            recordedIds (Audit.valuesRecord values) = .ok ids) ∧
        ((∃ fault, Text.utf8Decode request.body = .error fault) →
          record = Audit.unreadable) := by
  intro recorder rows request served
  have distinct : DistinctIds rows := by decide +kernel
  have asks : request.Asks "POST" .reorder := ⟨rfl, by decide +kernel⟩
  have host : request.NamesHost := by decide +kernel
  have type : Audit.startsWith ((header? "content-type" request.headers).getD "")
      Audit.urlEncodedType = true := by decide +kernel
  obtain ⟨success, positions⟩ : served.1.status? = some 200 ∧
      (served.2.saved.map fun row => (row.id, row.evaluationOrder)) = [(7, 1), (9, 0)] := by
    decide +kernel
  have works : recorder.fails = false := rfl
  -- Without their values, no step of the unifier can run the server on them.
  clear_value recorder rows request
  exact ⟨works, distinct, asks, host, type, success, positions,
    reorder_replayed .standard "u" works [] distinct asks host type success⟩

/-- A reordering of one id is answered 200 and leaves no event with the id, where the body is not
UTF-8, where the type of the form is written in capitals, and where a host is named that moves the
path of the address to one that is skipped. -/
theorem Server.reorder_unrecorded :
    let plain := Request.formPost reorderPath "id=7"
    let requests :=
      [{ plain with body := Text.utf8Encode "id=7&x=".toList ++ [0xFF] },
       { plain with headers := [("content-type", "APPLICATION/X-WWW-FORM-URLENCODED")] },
       { plain with headers := plain.headers ++ [("host", "test/health?")] }]
    let server := Server.ofDatabase .standard "u" (some ⟨"events", false⟩) []
    ∀ request ∈ requests, request.Asks "POST" .reorder ∧
      (request.submittedIds .standard).toOption = some (some [7]) ∧
      let served := server.serve (ofRows [newEntry 7 "u" "a"]) request
      served.1.status? = some 200 ∧
        (served.1.events.all fun event =>
          ((event.2.find? "request_body").bind (Json.find? "id")).isNone) = true := by
  decide +kernel

end ServiceRegistry.Http
