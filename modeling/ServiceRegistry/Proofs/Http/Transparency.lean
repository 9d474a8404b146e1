import ServiceRegistry.Proofs.Http.Answer
import ServiceRegistry.Proofs.Http.Commit

/-!
# What the capture changes

The capture is meant to be seen by nobody. It is not where the body of a request cannot be
recorded.

Results:

* `Unrecordable`, `requestBody_stops_iff`: the requests that the capture stops.
* `Server.recorder_transparent_iff`: a server with a recorder and one without agree on a request
  unless it is captured and cannot be recorded.
-/

namespace ServiceRegistry.Http

open Database (management ofRows DistinctIds)
open Run (on)

variable {σ : Type} {request : Request}

/-! ## Bodies that cannot be recorded -/

/-- A posted body that is not declared as a form, and in which the reading of a document stops at a
whole number with too many digits or at a container that lies too deep. -/
def Unrecordable (request : Request) : Prop :=
  let contentType := (header? "content-type" request.headers).getD ""
  request.method = "POST" ∧ request.body ≠ [] ∧
    ¬ Audit.startsWith contentType Audit.urlEncodedType ∧
    ¬ Audit.startsWith contentType Audit.multipartType ∧
    ∃ cs stop, Json.readDocument request.body = .error (.unreadable cs stop) ∧
      ∀ complaint left, stop ≠ .malformed complaint left

theorem isDecodeFault_document {fault : Json.DocumentFault} :
    Audit.isDecodeFault (.document fault) = false ↔
      ∃ cs stop, fault = .unreadable cs stop ∧
        ∀ complaint left, stop ≠ .malformed complaint left := by
  rcases fault with fault | ⟨cs, complaint | digits | container⟩ <;> simp [Audit.isDecodeFault]

theorem recordBody_of_form {contentType : String} {bytes : List UInt8}
    (form : Audit.startsWith contentType Audit.urlEncodedType ∨
      Audit.startsWith contentType Audit.multipartType) {fault : Fault}
    (h : Audit.recordBody contentType bytes = .error fault) : Audit.isDecodeFault fault = true := by
  unfold Audit.recordBody at h
  split_ifs at h with urlEncoded multipart
  · split at h
    next => cases h
    next =>
      obtain rfl := Except.error.inj h
      rfl
  · rcases form with form | form
    · exact absurd form urlEncoded
    · exact absurd form multipart

theorem recordBody_of_document {contentType : String}
    (urlEncoded : ¬ Audit.startsWith contentType Audit.urlEncodedType)
    (multipart : ¬ Audit.startsWith contentType Audit.multipartType) (bytes : List UInt8) :
    Audit.recordBody contentType bytes =
      match Json.readDocument bytes with
      | .ok value => .ok value
      | .error fault => .error (.document fault) := by
  unfold Audit.recordBody
  rewrite [if_neg urlEncoded, if_neg multipart]
  rfl

theorem requestBody_of_unrecordable (h : Unrecordable request) :
    ∃ cause, Audit.requestBody request = .error (.document cause) := by
  obtain ⟨method, full, urlEncoded, multipart, cs, stop, read, grave⟩ := h
  refine ⟨.unreadable cs stop, ?_⟩
  have posted : ¬ (request.method != "POST" || request.body.isEmpty) = true := by
    simp [method, full]
  have decode := isDecodeFault_document.mpr ⟨cs, stop, rfl, grave⟩
  unfold Audit.requestBody
  rw [if_neg posted]
  simp only [recordBody_of_document urlEncoded multipart, read, decode]
  rfl

theorem unrecordable_of_requestBody {fault : Fault} (h : Audit.requestBody request = .error fault) :
    Unrecordable request := by
  unfold Audit.requestBody at h
  unfold Unrecordable
  generalize (header? "content-type" request.headers).getD "" = contentType at h ⊢
  split at h
  next => cases h
  next posted =>
    simp only [Bool.or_eq_true, bne_iff_ne, List.isEmpty_iff, not_or, ne_eq, not_not] at posted
    simp only at h
    split at h
    next => cases h
    next fault' recorded =>
      split_ifs at h with decode
      have urlEncoded : ¬ Audit.startsWith contentType Audit.urlEncodedType :=
        fun form => decode (recordBody_of_form (.inl form) recorded)
      have multipart : ¬ Audit.startsWith contentType Audit.multipartType :=
        fun form => decode (recordBody_of_form (.inr form) recorded)
      rw [recordBody_of_document urlEncoded multipart] at recorded
      split at recorded
      next => cases recorded
      next fault'' read =>
        obtain rfl := Except.error.inj recorded
        obtain ⟨cs, stop, rfl, grave⟩ := isDecodeFault_document.mp (Bool.eq_false_iff.mpr decode)
        exact ⟨posted.1, posted.2, urlEncoded, multipart, cs, stop, read, grave⟩

/-- The requests that the capture stops. -/
theorem requestBody_stops_iff :
    (∃ fault, Audit.requestBody request = .error fault) ↔ Unrecordable request := by
  constructor
  · rintro ⟨fault, stops⟩
    exact unrecordable_of_requestBody stops
  · intro h
    obtain ⟨cause, stops⟩ := requestBody_of_unrecordable h
    exact ⟨_, stops⟩

/-- A document that is posted to a path. -/
def Request.documentPost (path : String) (cs : List Char) : Request :=
  ⟨"POST", path, [], [("content-type", "application/json")], Text.utf8Encode cs, none⟩

/-- A posted whole number with too many digits cannot be recorded. -/
theorem unrecordable_digits {c : Char} {rest : List Char}
    (digits : ∀ d ∈ c :: rest, d.isDigit = true) (nonzero : c ≠ '0')
    (many : Number.digitLimit < (c :: rest).length) (path : String) :
    Unrecordable (Request.documentPost path (c :: rest)) := by
  have read := Json.readDocument_digits digits nonzero many
  have full : Text.utf8Encode (c :: rest) ≠ [] := by
    simp [Text.utf8Encode]
  refine ⟨rfl, full, ?_, ?_, _, _, read, by simp⟩
  · show ¬ Audit.startsWith "application/json" Audit.urlEncodedType
    decide +kernel
  · show ¬ Audit.startsWith "application/json" Audit.multipartType
    decide +kernel

/-! ## Servers with and without a recorder -/

namespace Server

variable {url : String} {rows : List Entry}

/-- The requests that a recorder stops: those that are captured and cannot be recorded. -/
def Stopped (origins : List String) (request : Request) : Prop :=
  Cors.preflight? origins request = none ∧ request.Readable ∧
    request.urlPath ∉ Audit.skippedPaths ∧ Unrecordable request

theorem isCaptured_iff {recorder : Audit.Recorder} :
    isCaptured (some recorder) request = true ↔ request.urlPath ∉ Audit.skippedPaths := by
  simp [isCaptured]

/-- The application ends with nothing that the capture does not let pass. -/
theorem answer_passes (platform : Form.Platform) (url : String) (readable : request.Readable)
    (short : request.body.length < 10 ^ Number.digitLimit) (recorder : Option Audit.Recorder)
    (origins : List String) (rows : List Entry) :
    Passes (on ⟨ofRows rows, [], []⟩
      ((ofDatabase platform url recorder origins).answer request)).1 :=
  (answer_settled _ readable Database.registry_quiet _).passes (positionLimit_lt short)

theorem layered_agrees (platform : Form.Platform)
    (short : request.body.length < 10 ^ Number.digitLimit) (recorder : Audit.Recorder)
    {origins : List String} (passed : ¬ Stopped origins request) :
    Agree
      (on ⟨ofRows rows, [], []⟩ ((ofDatabase platform url (some recorder) origins).layered request))
      (on ⟨ofRows rows, [], []⟩ ((ofDatabase platform url none origins).layered request)) := by
  rw [layered_eq, layered_eq]
  by_cases question : Cors.preflight? origins request = none
  · refine around_agrees (capture_agrees (fun readable captured => ?_) fun readable =>
      answer_passes platform url readable short none origins rows)
    cases recorded : Audit.requestBody request with
    | ok body => exact ⟨body, rfl⟩
    | error fault =>
      have unrecordable := requestBody_stops_iff.mp ⟨fault, recorded⟩
      exact absurd ⟨question, readable, isCaptured_iff.mp captured, unrecordable⟩ passed
  · obtain ⟨response, answer⟩ := Option.ne_none_iff_exists'.mp question
    rw [on_around, on_around, answer]
    exact .refl _

/-- Without a recorder no request ends with the fault of a document. -/
theorem raised_ne_document (platform : Form.Platform) (url : String) (rows : List Entry)
    (readable : request.Readable) (short : request.body.length < 10 ^ Number.digitLimit)
    {origins : List String} (question : Cors.preflight? origins request = none)
    (cause : Json.DocumentFault) :
    ((ofDatabase platform url none origins).serve (ofRows rows) request).1.raised ≠
      some (.document cause) := by
  have passes := answer_passes platform url readable short none origins rows
  rcases answered : on ⟨ofRows rows, [], []⟩
    ((ofDatabase platform url none origins).answer request) with ⟨result, after⟩
  rw [answered] at passes
  have delivers := serve_delivers (ofDatabase platform url none origins) question readable
    nofun answered passes
  rw [delivers.raised]
  cases result with
  | ok response => exact nofun
  | error fault => exact fun same => passes.2 cause (Option.some.inj same)

/-- A request that a recorder stops is answered 500 before the application sees it. -/
theorem serve_of_stopped (platform : Form.Platform) (url : String) (rows : List Entry)
    {origins : List String} (question : Cors.preflight? origins request = none)
    (readable : request.Readable) (path : request.urlPath ∉ Audit.skippedPaths)
    {cause : Json.DocumentFault} (stops : Audit.requestBody request = .error (.document cause))
    (recorder : Audit.Recorder) :
    let seen := (ofDatabase platform url (some recorder) origins).serve (ofRows rows) request
    seen.1.response = some (faultResponse request (.document cause) 500) ∧
      seen.1.raised = some (.document cause) ∧ seen.2 = ofRows rows := by
  intro seen
  have same : seen = _ := serve_unrecordable (ofDatabase platform url (some recorder) origins)
    question readable (ofRows rows) (isCaptured_iff.mpr path) stops
  rw [same]
  exact ⟨rfl, rfl, rfl⟩

/-- A server with a recorder, whether it works or fails, and a server without one give the same
response and fault and leave the same table, unless the request is captured and its body cannot be
recorded. Then the recorder keeps the request from the application: it is answered 500 with the
fault of the document, and the table stays as it is. A request whose address cannot be read is left
without a response by both. -/
theorem recorder_transparent_iff (platform : Form.Platform) (rows : List Entry)
    (short : request.body.length < 10 ^ Number.digitLimit) (recorder : Audit.Recorder)
    (origins : List String) :
    let seen := (ofDatabase platform url (some recorder) origins).serve (ofRows rows) request
    let bare := (ofDatabase platform url none origins).serve (ofRows rows) request
    ((seen.1.response = bare.1.response ∧ seen.1.raised = bare.1.raised ∧ seen.2 = bare.2) ↔
        ¬ Stopped origins request) ∧
      (Stopped origins request → ∃ cause, seen.1.raised = some (.document cause) ∧
        seen.1.response = some (faultResponse request (.document cause) 500) ∧
        seen.2 = ofRows rows) := by
  intro seen bare
  have stopped (h : Stopped origins request) : ∃ cause, seen.1.raised = some (.document cause) ∧
      seen.1.response = some (faultResponse request (.document cause) 500) ∧
      seen.2 = ofRows rows := by
    obtain ⟨question, readable, path, unrecordable⟩ := h
    obtain ⟨cause, stops⟩ := requestBody_of_unrecordable unrecordable
    obtain ⟨response, raised, same⟩ :=
      serve_of_stopped platform url rows question readable path stops recorder
    exact ⟨cause, raised, response, same⟩
  refine ⟨⟨fun agree h => ?_, fun passed => ?_⟩, stopped⟩
  · obtain ⟨cause, raised, -⟩ := stopped h
    exact raised_ne_document platform url rows h.2.1 short h.1 cause (agree.2.1.symm.trans raised)
  · exact serve_of_agree rfl (layered_agrees platform short recorder passed)

/-- A removal by a form is the same with a recorder that fails. -/
theorem recorder_transparent_iff_form :
    let rows := [newEntry 7 "u" "a"]
    let request := Request.formPost "/deleteRegisteredService" "id=7"
    request.body.length < 10 ^ Number.digitLimit ∧
      let seen := (ofDatabase .standard "u" (some ⟨"events", true⟩) []).serve (ofRows rows) request
      let bare := (ofDatabase .standard "u" none []).serve (ofRows rows) request
      seen.1.response = bare.1.response ∧ seen.1.raised = bare.1.raised ∧ seen.2 = bare.2 := by
  intro rows request
  have short : request.body.length < 10 ^ Number.digitLimit :=
    lt_ten_pow (by decide +kernel) (by decide)
  have passed : ¬ Stopped [] request := by
    rintro ⟨-, -, -, -, -, document, -⟩
    exact document (by decide +kernel)
  exact ⟨short,
    (recorder_transparent_iff .standard rows short ⟨"events", true⟩ []).1.mpr passed⟩

/-- A recorder answers 500 to a posted whole number with too many digits. -/
theorem serve_digits {c : Char} {rest : List Char} (digits : ∀ d ∈ c :: rest, d.isDigit = true)
    (nonzero : c ≠ '0') (many : Number.digitLimit < (c :: rest).length) {path : String}
    (readable : (Request.documentPost path (c :: rest)).Readable)
    (captured : (Request.documentPost path (c :: rest)).urlPath ∉ Audit.skippedPaths)
    (recorder : Audit.Recorder) (origins : List String) :
    let seen := (ofDatabase .standard url (some recorder) origins).serve (ofRows rows)
      (Request.documentPost path (c :: rest))
    seen.1.status? = some 500 ∧ seen.1.raised.isSome := by
  obtain ⟨cause, stops⟩ :=
    requestBody_of_unrecordable (unrecordable_digits digits nonzero many path)
  obtain ⟨response, raised, -⟩ := serve_of_stopped .standard url rows
    (preflight?_eq_none (show "POST" ≠ "OPTIONS" by decide) origins) readable captured stops
    recorder
  simp only [Outcome.status?, response, raised, Option.map_some, status_faultResponse,
    Option.isSome_some, and_self]

/-- The application refuses such a number with 405. -/
theorem recorder_stops_number :
    let request := Request.documentPost "/manage" ('1' :: List.replicate 4300 '1')
    let seen := (ofDatabase .standard "u" (some ⟨"events", false⟩) []).serve (ofRows []) request
    let bare := (ofDatabase .standard "u" none []).serve (ofRows []) request
    (seen.1.status? = some 500 ∧ seen.1.raised.isSome) ∧
      bare.1.status? = some 405 ∧ bare.1.raised.isNone := by
  have digits : ∀ d ∈ '1' :: List.replicate 4300 '1', d.isDigit = true := by
    intro d mem
    rcases List.mem_cons.mp mem with rfl | mem
    · rfl
    · rw [List.eq_of_mem_replicate mem]
      rfl
  have many : Number.digitLimit < ('1' :: List.replicate 4300 '1').length := by
    rw [List.length_cons, List.length_replicate]
    decide
  have readable : (Request.documentPost "/manage" ('1' :: List.replicate 4300 '1')).Readable := by
    decide +kernel
  exact ⟨serve_digits digits (by decide) many readable (by decide +kernel) _ _, by decide +kernel,
    by decide +kernel⟩

end Server

end ServiceRegistry.Http
