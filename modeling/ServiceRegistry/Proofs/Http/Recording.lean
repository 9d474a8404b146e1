import ServiceRegistry.Proofs.Http.Reporting

/-!
# Which requests are recorded

The capture stands inside the rules for other origins, so a question about another origin is
answered before it. It reads the address and then the body of a request before the application does,
and what it cannot read it does not record. All other requests leave one event, with the status that
the client gets, unless their path is one of the few that are skipped.

Results:

* `Server.Recorded`: the requests that leave an event.
* `Server.serve_records`: a request leaves one event with its status, or none.
* `Server.run_records_iff`: the same for the requests of a run.
-/

namespace ServiceRegistry.Http

open Database (ofRows)
open Run (on)

variable {σ : Type} {request : Request}

/-! ## Requests -/

namespace Server

/-- The requests that a recorder which works gets an event of: those that are no question about
other origins, whose address can be read, whose path is not skipped and whose body can be
recorded. -/
def Recorded (origins : List String) (request : Request) : Prop :=
  Cors.preflight? origins request = none ∧ request.Readable ∧
    request.urlPath ∉ Audit.skippedPaths ∧ ¬ Unrecordable request

/-- One event with the status of the response. -/
def LeavesEvent (dataset : String) (outcome : Outcome) : Prop :=
  ∃ (event : Json) (response : Response), outcome.events = [(dataset, event)] ∧
    outcome.response = some response ∧
    event.find? "status_code" = some (.int response.status)

theorem status_eventOf (request : Request) (body : Option Json) (status : Nat)
    (reason : Option String) :
    (Audit.eventOf request body status reason).find? "status_code" = some (.int status) := rfl

theorem status_delivered (origins : List String) (request : Request)
    (result : Except Fault Response) :
    (delivered origins request result).1.status = statusOf result := by
  cases result with
  | ok response => rfl
  | error fault => exact status_faultResponse request fault 500

theorem serve_question (server : Server σ) {response : Response}
    (question : Cors.preflight? server.origins request = some response) (store : σ) :
    server.serve store request =
      (⟨some response, none, [], []⟩, server.management.registry.settle store) := by
  rw [serve_eq, layered_eq, on_around, question]

theorem Delivers.leavesEvent {server : Server σ} {recorder : Audit.Recorder} {store : σ}
    {after : World σ} {result : Except Fault Response} {served : Outcome × σ}
    (delivers : server.Delivers request result after served)
    (settled : Settled server.platform request ⟨store, [], []⟩ result after)
    (recording : server.recorder = some recorder) (works : recorder.fails = false)
    (captured : isCaptured (some recorder) request = true) :
    LeavesEvent recorder.dataset served.1 := by
  obtain ⟨body, reason, events⟩ := delivers.events
  rw [settled.events, recording] at events
  refine ⟨Audit.eventOf request body (statusOf result) reason, _, ?_, delivers.response, ?_⟩
  · simpa [notes, captured, works] using events
  · rw [status_eventOf, status_delivered]

/-- With a recorder that works, a request leaves one event with the status of its response, or
none. -/
theorem serve_records (server : Server σ) {recorder : Audit.Recorder}
    (quiet : server.management.registry.Quiet)
    (recording : server.recorder = some recorder) (works : recorder.fails = false)
    (short : request.body.length < 10 ^ Number.digitLimit) (store : σ) :
    (Recorded server.origins request →
        LeavesEvent recorder.dataset (server.serve store request).1) ∧
      (¬ Recorded server.origins request → (server.serve store request).1.events = []) := by
  cases question : Cors.preflight? server.origins request with
  | some response =>
    rw [serve_question server question]
    refine ⟨fun recorded => ?_, fun _ => rfl⟩
    cases question.symm.trans recorded.1
  | none =>
    rcases request.readable_or with readable | ⟨fault, unread⟩
    · have settled := answer_settled server readable quiet ⟨store, [], []⟩
      rcases answered : on ⟨store, [], []⟩ (server.answer request) with ⟨result, after⟩
      rw [answered] at settled
      have passes := settled.passes (positionLimit_lt short)
      cases captured : isCaptured (some recorder) request with
      | false =>
        have skipped : request.urlPath ∈ Audit.skippedPaths := by
          by_contra path
          rw [isCaptured_iff.mpr path] at captured
          cases captured
        have uncaptured : isCaptured server.recorder request = true →
            ∃ body, Audit.requestBody request = .ok body := by
          rw [recording, captured]
          rintro ⟨⟩
        obtain ⟨body, reason, events⟩ :=
          (serve_delivers server question readable uncaptured answered passes).events
        rw [settled.events, recording, notes_of_skipped captured] at events
        exact ⟨fun recorded => absurd skipped recorded.2.2.1, fun _ => events⟩
      | true =>
        have path : request.urlPath ∉ Audit.skippedPaths := isCaptured_iff.mp captured
        by_cases unrecordable : Unrecordable request
        · obtain ⟨cause, stops⟩ := requestBody_of_unrecordable unrecordable
          rw [serve_unrecordable server question readable store (recording ▸ captured) stops]
          exact ⟨fun recorded => absurd unrecordable recorded.2.2.2, fun _ => rfl⟩
        · have delivers := serve_delivers server question readable
            (exists_requestBody fun _ => unrecordable) answered passes
          exact ⟨fun _ => delivers.leavesEvent settled recording works captured,
            fun unrecorded => absurd ⟨question, readable, path, unrecordable⟩ unrecorded⟩
    · rw [serve_unread server store question unread]
      exact ⟨fun recorded => absurd recorded.2.1 (Request.not_readable unread), fun _ => rfl⟩

/-- In a run over either registry with a recorder that works, each request leaves one event with the
status that the client gets, exactly unless it is a question about other origins, its address cannot
be read, its path is one of the four that are skipped, or the capture cannot read its body; then it
leaves none. The path is that of the address, which is the path of the request where that has no end
of a path in it. Such an address can be read exactly if the query can. -/
theorem run_records_iff (platform : Form.Platform) (backend : Backend) (url : String)
    {recorder : Audit.Recorder} (works : recorder.fails = false) (origins : List String)
    (store : backend.Store) {requests : List Request}
    (short : ∀ request ∈ requests, request.body.length < 10 ^ Number.digitLimit) :
    let steps := (ofBackend platform backend url (some recorder) origins).run store requests
    steps.length = requests.length ∧ ∀ step ∈ requests.zip steps,
      (Recorded origins step.1 → LeavesEvent recorder.dataset step.2.1) ∧
        (¬ Recorded origins step.1 → step.2.1.events = []) ∧
        (step.1.HasPlainPath → step.1.urlPath = step.1.path ∧
          (step.1.Readable ↔ ∃ query, Text.utf8Decode step.1.query = .ok query)) := by
  let server := ofBackend platform backend url (some recorder) origins
  intro steps
  have each : ∀ request ∈ requests, ∀ store,
      (Recorded origins request →
          LeavesEvent recorder.dataset (server.serve store request).1) ∧
        (¬ Recorded origins request → (server.serve store request).1.events = []) ∧
        (request.HasPlainPath → request.urlPath = request.path ∧
          (request.Readable ↔ ∃ query, Text.utf8Decode request.query = .ok query)) := by
    intro request mem store
    obtain ⟨records, none⟩ :=
      server.serve_records backend.quiet rfl works (short request mem) store
    exact ⟨records, none, fun plain =>
      ⟨Request.urlPath_of_plain plain, Request.readable_iff_of_plain plain⟩⟩
  exact ⟨server.length_run store requests, server.run_forall (fun request served =>
    (Recorded origins request → LeavesEvent recorder.dataset served.1) ∧
      (¬ Recorded origins request → served.1.events = []) ∧
      (request.HasPlainPath → request.urlPath = request.path ∧
        (request.Readable ↔ ∃ query, Text.utf8Decode request.query = .ok query))) each store⟩

/-- The table of services, the removal of a service that does not exist, and a path that is
skipped. -/
theorem run_records_iff_health :
    let recorder : Audit.Recorder := ⟨"events", false⟩
    let requests := [Request.get "/manage", Request.formPost "/deleteRegisteredService" "id=7",
      Request.get "/health"]
    let steps := (ofBackend .standard .database "u" (some recorder) []).run (ofRows []) requests
    recorder.fails = false ∧
      (∀ request ∈ requests, request.body.length < 10 ^ Number.digitLimit) ∧
      (steps.map fun step => (step.1.status?, step.1.events.length)) =
        [(some 200, 1), (some 404, 1), (some 200, 0)] ∧
      steps.length = requests.length ∧ ∀ step ∈ requests.zip steps,
        (Recorded [] step.1 → LeavesEvent "events" step.2.1) ∧
          (¬ Recorded [] step.1 → step.2.1.events = []) ∧
          (step.1.HasPlainPath → step.1.urlPath = step.1.path ∧
            (step.1.Readable ↔ ∃ query, Text.utf8Decode step.1.query = .ok query)) := by
  intro recorder requests steps
  have few : ∀ request ∈ requests, request.body.length < 10000 := by decide +kernel
  have short : ∀ request ∈ requests, request.body.length < 10 ^ Number.digitLimit :=
    fun request mem => lt_ten_pow (few request mem) (by decide)
  have works : recorder.fails = false := rfl
  exact ⟨works, short, by decide +kernel,
    run_records_iff .standard .database "u" works [] _ short⟩

/-- A question about another origin is answered 200 and leaves no event, though its path is not
skipped. -/
theorem question_unrecorded :
    let origin := "http://localhost:3000"
    let request := { Request.get "/manage" with
      method := "OPTIONS"
      headers := [("origin", origin), ("access-control-request-method", "GET")] }
    let server := ofBackend .standard .database "u" (some ⟨"events", false⟩) [origin]
    let outcome := (server.serve (ofRows []) request).1
    request.HasPlainPath ∧ request.path ∉ Audit.skippedPaths ∧
      outcome.status? = some 200 ∧ outcome.events = [] := by
  decide +kernel

end Server

end ServiceRegistry.Http
