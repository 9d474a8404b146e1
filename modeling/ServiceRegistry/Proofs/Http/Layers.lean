import Mathlib.Tactic.SplitIfs
import ServiceRegistry.Http.Server
import ServiceRegistry.Proofs.Http.Address
import ServiceRegistry.Proofs.Http.Submission
import ServiceRegistry.Proofs.Json.Shown

/-!
# The layers of the server, evaluated

Each layer runs what it is put around and then changes the result, the log or the events, but never
the store.

Results:

* `documentResponse_of_plain`, `documentResponse_of_garbled`: which documents can be written.
* `on_answerFault`, `on_answerRefusals`: faults as responses.
* `on_withSession`, `on_around`: the session cookie and the rules for other origins.
* `on_observe`: the capture. It stops before the application if the body of the request cannot be
  recorded, and after it if the body of the response cannot.
* `on_capture`, `on_capture_unread`: what the capture lets pass is what the application gives, and
  a request whose address cannot be read comes no further.
* `Server.serve_eq`: a request in a session of its own.
* `Server.serve_delivers`, `Server.serve_unrecordable`, `Server.serve_unread`: the answer, the
  errors and the events of a request, by what the application makes of it.
-/

namespace ServiceRegistry.Http

open Run (on)

variable {σ : Type}

/-! ## Documents -/

theorem documentResponse_of_plain {document : Shown} {value : Json}
    (plain : document.plain? = some value) (status : Nat) :
    documentResponse status document = .ok (.json status value) := by
  unfold documentResponse
  rw [document.print_of_plain plain, Text.encodeCodes_codesOf]
  simp only [Response.json, Response.content, Json.print, String.toList_ofList]

theorem documentResponse_of_garbled {document : Shown} (garbled : document.plain? = none)
    (status : Nat) : ∃ cause, documentResponse status document = .error (.unencodable cause) := by
  obtain ⟨cause, stops⟩ := Text.encodeCodes_of_surrogate (document.surrogate_of_garbled garbled)
  unfold documentResponse
  rw [stops]
  exact ⟨cause, rfl⟩

/-- The wording of a fault as a value, null if a text in it has a surrogate. -/
def faultWording (fault : Fault) : Json :=
  (faultMessageShown fault).plain?.getD .null

/-- The document of a fault with a wording. -/
def errorDocument (fault : Fault) (wording : Json) (status : Nat) : Json :=
  .object [("error", .object
    [("type", .text fault.label), ("message", wording), ("status", .int status)])]

theorem plain?_issueShown (issue : IssueWith Shown) :
    (issueShown issue).plain? = issue.input.plain?.map fun input => .object
      [("type", .text issue.kind.code), ("loc", .list (issue.place.map Step.toJson)),
       ("msg", .text issue.message), ("input", input)] := by
  cases given : issue.input.plain? <;> simp [issueShown, Shown.plain?, Shown.plainMembers?, given]

theorem plain?_faultMessageShown {fault : Fault} (writable : fault.Writable) :
    (faultMessageShown fault).plain? = some (faultWording fault) := by
  suffices ∃ wording, (faultMessageShown fault).plain? = some wording by
    obtain ⟨wording, plain⟩ := this
    rw [faultWording, plain]
    rfl
  cases fault with
  | invalidForm issues =>
    obtain ⟨values, given⟩ : ∃ values, Shown.plainItems? (issues.map issueShown) = some values := by
      refine Shown.plainItems?_isSome fun item mem => ?_
      obtain ⟨issue, found, rfl⟩ := List.mem_map.mp mem
      obtain ⟨input, given⟩ := Option.ne_none_iff_exists'.mp (writable issues rfl issue found)
      rw [plain?_issueShown, given]
      exact ⟨_, rfl⟩
    exact ⟨.list values, by simp [faultMessageShown, Shown.plain?, given]⟩
  | _ => exact ⟨_, rfl⟩

theorem plain?_faultDocument (fault : Fault) (status : Nat) :
    (faultDocument fault status).plain? =
      (faultMessageShown fault).plain?.map (errorDocument fault · status) := by
  cases wording : (faultMessageShown fault).plain? <;>
    simp [faultDocument, errorDocument, Shown.plain?, Shown.plainMembers?, wording]

/-! ## Faults as responses -/

/-- The response to a fault whose document can be written. -/
def faultResponse (request : Request) (fault : Fault) (status : Nat) : Response :=
  if request.isFromScript then .json status (errorDocument fault (faultWording fault) status)
  else .blank status

@[simp] theorem status_faultResponse (request : Request) (fault : Fault) (status : Nat) :
    (faultResponse request fault status).status = status := by
  unfold faultResponse
  split_ifs <;> rfl

/-- The response to a fault, or the fault that its document cannot be written. -/
def faultAnswer (request : Request) (fault : Fault) (status : Nat) : Except Fault Response :=
  if request.isFromScript then documentResponse status (faultDocument fault status)
  else .ok (.blank status)

theorem faultAnswer_of_writable {request : Request} {fault : Fault}
    (writable : request.isFromScript = true → fault.Writable) (status : Nat) :
    faultAnswer request fault status = .ok (faultResponse request fault status) := by
  unfold faultAnswer faultResponse
  split_ifs with script
  · refine documentResponse_of_plain ?_ status
    rw [plain?_faultDocument, plain?_faultMessageShown (writable script)]
    rfl
  · rfl

/-- The document of a garbled form cannot be written. -/
theorem faultAnswer_of_garbled {request : Request} (script : request.isFromScript = true)
    {issues : List (IssueWith Shown)} (garbled : ∃ issue ∈ issues, issue.input.plain? = none)
    (status : Nat) :
    ∃ cause, faultAnswer request (.invalidForm issues) status = .error (.unencodable cause) := by
  obtain ⟨issue, mem, none⟩ := garbled
  have unwritten : Shown.plainItems? (issues.map issueShown) = .none := by
    refine Shown.plainItems?_eq_none (List.mem_map_of_mem mem) ?_
    rw [plain?_issueShown, none]
    rfl
  unfold faultAnswer
  rw [if_pos script]
  refine documentResponse_of_garbled ?_ status
  rw [plain?_faultDocument]
  simp [faultMessageShown, Shown.plain?, unwritten]

theorem status_of_faultAnswer {request : Request} {fault : Fault} {status : Nat}
    {response : Response} (h : faultAnswer request fault status = .ok response) :
    response.status = status := by
  unfold faultAnswer documentResponse at h
  split_ifs at h
  · split at h
    next =>
      obtain rfl := Except.ok.inj h
      rfl
    next => cases h
  · obtain rfl := Except.ok.inj h
    rfl

/-- The record by which a fault is reported. -/
def report (request : Request) (fault : Fault) : LogRecord :=
  ⟨.error, errorLogger, request.method ++ " " ++ request.urlPath ++ " failed: " ++ fault.message,
    some fault.label⟩

/-- The records of a fault that is answered. -/
def faultRecords (request : Request) (fault : Fault) : List LogRecord :=
  [report request fault,
    ⟨.debug, errorLogger,
      if request.isFromScript then
        "Handling exception " ++ fault.label ++ " for ajax request indicated by header " ++
          scriptHeader
      else
        "Unable to resolve exception " ++ fault.label ++ " for request. Ajax request header " ++
          scriptHeader ++ " not found.",
      none⟩]

@[simp] theorem errors_faultRecords (request : Request) (fault : Fault) :
    errors (faultRecords request fault) = [report request fault] := rfl

/-- The world with the records of a fault that is answered. -/
def faultLogged (request : Request) (fault : Fault) (world : World σ) : World σ :=
  { world with log := world.log ++ faultRecords request fault }

@[simp] theorem store_faultLogged (request : Request) (fault : Fault) (world : World σ) :
    (faultLogged request fault world).store = world.store := rfl

section Answers

variable {request : Request}

/-- A fault is logged before its document is written. -/
theorem on_answerFault (readable : request.Readable) (world : World σ) (fault : Fault)
    (status : Nat) :
    on world (answerFault request fault status) =
      (faultAnswer request fault status, faultLogged request fault world) := by
  unfold answerFault faultAnswer faultLogged faultRecords report
  by_cases script : request.isFromScript <;> simp [script, readable.address]

theorem on_answerFault_unread {cause : Fault} (unread : request.address = .error cause)
    (world : World σ) (fault : Fault) (status : Nat) :
    on world (answerFault request fault status) = (.error cause, world) := by
  unfold answerFault
  rw [unread]
  rfl

theorem on_answerRefusals (readable : request.Readable) (world : World σ)
    (application : Request → Run σ Reply) :
    on world (answerRefusals application request) =
      match on world (application request) with
      | (.ok reply, after) => (.ok reply, after)
      | (.error fault, after) =>
        match fault.status? with
        | some status =>
          ((faultAnswer request fault status).map Application.plain,
            faultLogged request fault after)
        | none => (.error fault, after) := by
  unfold answerRefusals
  rw [Run.on_bind, Run.on_attempt]
  rcases on world (application request) with ⟨fault | reply, after⟩
  · cases own : fault.status? with
    | none => simp only [own, Run.on_throw]
    | some status =>
      simp only [own, Run.on_bind, on_answerFault readable]
      cases faultAnswer request fault status <;> rfl
  · rfl

end Answers

/-! ## The session cookie and other origins -/

/-- The response of a reply to a request. -/
def sessionResponse (request : Request) (reply : Reply) : Response :=
  match reply.session with
  | .untouched => reply.response
  | .cleared =>
    { reply.response with
      headers :=
        if request.session.isSome then
          addVary "Cookie" reply.response.headers ++ [forgetLine]
        else addVary "Cookie" reply.response.headers }

@[simp] theorem status_sessionResponse (request : Request) (reply : Reply) :
    (sessionResponse request reply).status = reply.response.status := by
  unfold sessionResponse
  cases reply.session <;> rfl

theorem on_withSession (world : World σ) (application : Request → Run σ Reply)
    (request : Request) :
    on world (withSession application request) =
      match on world (application request) with
      | (.ok reply, after) => (.ok (sessionResponse request reply), after)
      | (.error fault, after) => (.error fault, after) := by
  unfold withSession sessionResponse
  rw [Run.on_bind]
  rcases on world (application request) with ⟨_ | ⟨response, _ | _⟩, after⟩ <;> rfl

theorem on_around (world : World σ) (origins : List String)
    (application : Request → Run σ Response) (request : Request) :
    on world (Cors.around origins application request) =
      match Cors.preflight? origins request with
      | some response => (.ok response, world)
      | none =>
        match on world (application request) with
        | (.ok response, after) => (.ok (Cors.withOrigin origins request response), after)
        | (.error fault, after) => (.error fault, after) := by
  unfold Cors.around
  cases Cors.preflight? origins request with
  | some response => rfl
  | none =>
    simp only [Run.on_bind, Run.on_pure]
    rcases on world (application request) with ⟨_ | _, after⟩ <;> rfl

/-! ## The capture -/

/-- The world after an event went to a recorder. -/
def ingested (recorder : Audit.Recorder) (event : Json) (world : World σ) : World σ :=
  if recorder.fails then
    { world with
      log := world.log ++
        [⟨.warning, Audit.loggerName, "Axiom ingest failed: ingest refused", none⟩] }
  else { world with events := world.events ++ [(recorder.dataset, event)] }

@[simp] theorem store_ingested (recorder : Audit.Recorder) (event : Json) (world : World σ) :
    (ingested recorder event world).store = world.store := by
  unfold ingested
  split_ifs <;> rfl

theorem on_ingest (world : World σ) (recorder : Audit.Recorder) (event : Json) :
    on world (Audit.ingest recorder event) = (.ok (), ingested recorder event world) := by
  unfold Audit.ingest ingested
  split_ifs <;> rfl

theorem on_observe (world : World σ) (recorder : Audit.Recorder)
    (application : Request → Run σ Response) (request : Request) :
    on world (Audit.observe recorder application request) =
      match Audit.requestBody request with
      | .error fault => (.error fault, world)
      | .ok body =>
        match on world (application request) with
        | (.error fault, after) =>
          (.error fault, ingested recorder
            (Audit.eventOf request body 500 (some (Audit.faultReason fault))) after)
        | (.ok response, after) =>
          if response.status < 400 then
            (.ok response,
              ingested recorder (Audit.eventOf request body response.status none) after)
          else
            match Audit.errorOf response.body with
            | .ok reason =>
              (.ok (Audit.rebuild response), ingested recorder
                (Audit.eventOf request body response.status (some reason)) after)
            | .error fault =>
              (.error fault, ingested recorder
                (Audit.eventOf request body response.status (some (Audit.faultReason fault)))
                after) := by
  unfold Audit.observe
  rw [Run.on_bind, Run.on_lift]
  cases Audit.requestBody request with
  | error fault => rfl
  | ok body =>
    simp only [Run.on_bind, Run.on_attempt]
    rcases on world (application request) with ⟨fault | response, after⟩
    · simp only [Run.on_bind, on_ingest, Run.on_throw]
    · simp only
      split_ifs
      · simp only [Run.on_bind, on_ingest, Run.on_pure]
      · cases Audit.errorOf response.body <;>
          simp only [Run.on_bind, on_ingest, Run.on_pure, Run.on_throw]

/-- Whether the requests to a path go to a recorder. -/
def isCaptured (recorder : Option Audit.Recorder) (request : Request) : Bool :=
  recorder.isSome && !Audit.skippedPaths.contains request.urlPath

section Capture

variable {request : Request} {recorder : Option Audit.Recorder}

/-- A request whose address cannot be read comes no further. -/
theorem on_capture_unread {fault : Fault} (unread : request.address = .error fault)
    (world : World σ) (recorder : Option Audit.Recorder)
    (application : Request → Run σ Response) :
    on world (Audit.capture recorder application request) = (.error fault, world) := by
  unfold Audit.capture
  rw [unread]
  rfl

theorem capture_eq (readable : request.Readable) (recorder : Option Audit.Recorder)
    (application : Request → Run σ Response) :
    Audit.capture recorder application request =
      match recorder with
      | none => application request
      | some recorder =>
        if Audit.skippedPaths.contains request.urlPath then application request
        else Audit.observe recorder application request := by
  unfold Audit.capture
  rw [readable.address]
  rfl

theorem capture_of_skipped (readable : request.Readable) (h : isCaptured recorder request = false)
    (application : Request → Run σ Response) :
    Audit.capture recorder application request = application request := by
  rw [capture_eq readable]
  cases recorder with
  | none => rfl
  | some recorder =>
    have skipped : Audit.skippedPaths.contains request.urlPath = true := by
      simpa [isCaptured] using h
    exact if_pos skipped

theorem capture_of_captured {recorder : Audit.Recorder} (readable : request.Readable)
    (h : isCaptured (some recorder) request = true) (application : Request → Run σ Response) :
    Audit.capture (some recorder) application request =
      Audit.observe recorder application request := by
  have captured : ¬ Audit.skippedPaths.contains request.urlPath = true := by
    simpa [isCaptured] using h
  rw [capture_eq readable]
  exact if_neg captured

end Capture

/-- The events that a recorder gets of a request. -/
def notes (recorder : Option Audit.Recorder) (request : Request) (event : Json) :
    List (String × Json) :=
  match recorder with
  | some recorder =>
    if isCaptured (some recorder) request && !recorder.fails then [(recorder.dataset, event)]
    else []
  | none => []

theorem notes_of_skipped {recorder : Option Audit.Recorder} {request : Request}
    (h : isCaptured recorder request = false) (event : Json) :
    notes recorder request event = [] := by
  cases recorder with
  | none => rfl
  | some recorder => simp [notes, h]

/-- A recorder that fails leaves a warning, which is no error. -/
theorem ingested_eq {recorder : Audit.Recorder} {request : Request}
    (captured : isCaptured (some recorder) request = true) (event : Json) (world : World σ) :
    ∃ log, errors log = errors world.log ∧ ingested recorder event world =
      { world with log, events := world.events ++ notes (some recorder) request event } := by
  unfold ingested notes
  simp only [captured, Bool.true_and]
  cases recorder.fails with
  | true =>
    refine ⟨world.log ++ [⟨.warning, Audit.loggerName, "Axiom ingest failed: ingest refused",
      none⟩], ?_, ?_⟩
    · rw [errors_append]
      exact List.append_nil _
    · simp
  | false => exact ⟨world.log, rfl, by simp⟩

/-- The status of the answer to a result. -/
def statusOf : Except Fault Response → Nat
  | .ok response => response.status
  | .error _ => 500

/-- A result that the capture lets pass: it finds a reason in each error response and sends it on
as it is. No fault is one of a document, and none has a status of its own. -/
def Passes : Except Fault Response → Prop
  | .ok response => 400 ≤ response.status →
    Audit.rebuild response = response ∧ ∃ reason, Audit.errorOf response.body = .ok reason
  | .error fault => fault.status? = none ∧ ∀ cause, fault ≠ .document cause

section Capture

variable {world after : World σ} {request : Request} {application : Request → Run σ Response}
  {result : Except Fault Response}

theorem on_observe_passes (recorder : Audit.Recorder) {body : Option Json}
    (recorded : Audit.requestBody request = .ok body)
    (answered : on world (application request) = (result, after)) (passes : Passes result) :
    ∃ reason, on world (Audit.observe recorder application request) =
      (result, ingested recorder (Audit.eventOf request body (statusOf result) reason) after) := by
  rw [on_observe, recorded, answered]
  cases result with
  | error fault => exact ⟨_, rfl⟩
  | ok response =>
    by_cases success : response.status < 400
    · exact ⟨none, if_pos success⟩
    · obtain ⟨same, reason, found⟩ := passes (Nat.le_of_not_lt success)
      refine ⟨some reason, ?_⟩
      simp only [if_neg success, found, same]
      rfl

/-- The capture gives what the application gives and leaves an event with its status, unless it
reads a body that cannot be recorded. -/
theorem on_capture {recorder : Option Audit.Recorder} (readable : request.Readable)
    (recordable : isCaptured recorder request = true →
      ∃ body, Audit.requestBody request = .ok body)
    (answered : on world (application request) = (result, after)) (passes : Passes result) :
    ∃ body reason log, errors log = errors after.log ∧
      on world (Audit.capture recorder application request) =
        (result, { after with
          log
          events := after.events ++
            notes recorder request (Audit.eventOf request body (statusOf result) reason) }) := by
  cases captured : isCaptured recorder request with
  | false =>
    refine ⟨none, none, after.log, rfl, ?_⟩
    rw [capture_of_skipped readable captured, answered, notes_of_skipped captured,
      List.append_nil]
  | true =>
    obtain ⟨body, recorded⟩ := recordable captured
    cases recorder with
    | none => cases captured
    | some recorder =>
      obtain ⟨reason, observed⟩ := on_observe_passes recorder recorded answered passes
      obtain ⟨log, same, noted⟩ := ingested_eq captured
        (Audit.eventOf request body (statusOf result) reason) after
      refine ⟨body, reason, log, same, ?_⟩
      rw [capture_of_captured readable captured, observed, noted]

end Capture

/-! ## Outcomes that agree -/

/-- Two outcomes that only differ in what was logged and recorded. -/
def Agree {α : Type} (a b : Except Fault α × World σ) : Prop :=
  a.1 = b.1 ∧ a.2.store = b.2.store

theorem Agree.refl {α : Type} (a : Except Fault α × World σ) : Agree a a :=
  ⟨rfl, rfl⟩

section Agree

variable {world : World σ} {request : Request} {application : Request → Run σ Response}

/-- What the capture lets pass it does not change: it does the same with a recorder and without
one. -/
theorem capture_agrees {recorder : Option Audit.Recorder}
    (recordable : request.Readable → isCaptured recorder request = true →
      ∃ body, Audit.requestBody request = .ok body)
    (passes : request.Readable → Passes (on world (application request)).1) :
    Agree (on world (Audit.capture recorder application request))
      (on world (Audit.capture none application request)) := by
  rcases request.readable_or with readable | ⟨fault, unread⟩
  · rcases answered : on world (application request) with ⟨result, after⟩
    have passed := passes readable
    rw [answered] at passed
    obtain ⟨_, _, _, -, captured⟩ := on_capture readable (recordable readable) answered passed
    rw [captured, capture_eq readable none, answered]
    exact ⟨rfl, rfl⟩
  · rw [on_capture_unread unread, on_capture_unread unread]
    exact .refl _

theorem around_agrees {origins : List String} {other : Request → Run σ Response}
    (agree : Agree (on world (application request)) (on world (other request))) :
    Agree (on world (Cors.around origins application request))
      (on world (Cors.around origins other request)) := by
  rw [on_around, on_around]
  cases Cors.preflight? origins request with
  | some response => exact .refl _
  | none =>
    generalize on world (application request) = first at agree ⊢
    generalize on world (other request) = second at agree ⊢
    rcases first with ⟨fault | response, after⟩ <;>
      rcases second with ⟨fault' | response', after'⟩ <;> obtain ⟨⟨⟩, same⟩ := agree
    · exact ⟨rfl, same⟩
    · exact ⟨rfl, same⟩

end Agree

/-! ## A request in a session of its own -/

namespace Server

/-- The application inside the session cookie, which is all that the capture looks at. -/
def answer (server : Server σ) : Request → Run σ Response :=
  withSession (answerRefusals (Application.dispatch server.platform server.management))

theorem on_answer (server : Server σ) {request : Request} (readable : request.Readable)
    (world : World σ) :
    on world (server.answer request) =
      match on world (Application.dispatch server.platform server.management request) with
      | (.ok reply, after) => (.ok (sessionResponse request reply), after)
      | (.error fault, after) =>
        match fault.status? with
        | some status => (faultAnswer request fault status, faultLogged request fault after)
        | none => (.error fault, after) := by
  unfold answer
  rw [on_withSession, on_answerRefusals readable]
  rcases on world (Application.dispatch server.platform server.management request) with
    ⟨fault | reply, after⟩
  · cases own : fault.status? with
    | none => simp only [own]
    | some status =>
      simp only [own]
      cases faultAnswer request fault status <;> rfl
  · rfl

theorem layered_eq (server : Server σ) :
    server.layered =
      Cors.around server.origins (Audit.capture server.recorder server.answer) := rfl

theorem on_layered (server : Server σ) {request : Request}
    (question : Cors.preflight? server.origins request = none) (world : World σ) :
    on world (server.layered request) =
      match on world (Audit.capture server.recorder server.answer request) with
      | (.ok response, after) => (.ok (Cors.withOrigin server.origins request response), after)
      | (.error fault, after) => (.error fault, after) := by
  rw [layered_eq, on_around, question]

section Serve

variable {server : Server σ} {store : σ} {request : Request} {after : World σ}

theorem serve_eq (server : Server σ) (store : σ) (request : Request) :
    server.serve store request =
      match on ⟨store, [], []⟩ (server.layered request) with
      | (.ok response, after) =>
        (⟨some response, none, after.log, after.events⟩,
          server.management.registry.settle after.store)
      | (.error fault, after) =>
        match on after (answerFault request fault 500) with
        | (.ok response, last) =>
          (⟨some response, some fault, last.log, last.events⟩,
            server.management.registry.settle last.store)
        | (.error cause, last) =>
          (⟨none, some cause, last.log, last.events⟩,
            server.management.registry.settle last.store) := by
  unfold serve handle guard
  rw [Run.on_bind, Run.on_attempt]
  rcases on ⟨store, [], []⟩ (server.layered request) with ⟨fault | response, after⟩
  · simp only [Run.on_bind, Run.on_attempt]
    rcases on after (answerFault request fault 500) with ⟨cause | response, last⟩ <;> rfl
  · rfl

theorem serve_of_ok {response : Response}
    (h : on ⟨store, [], []⟩ (server.layered request) = (.ok response, after)) :
    server.serve store request =
      (⟨some response, none, after.log, after.events⟩,
        server.management.registry.settle after.store) := by
  rw [serve_eq, h]

/-- A fault that no layer answered is answered 500. -/
theorem serve_of_error (readable : request.Readable) {fault : Fault}
    (unanswered : fault.status? = none)
    (h : on ⟨store, [], []⟩ (server.layered request) = (.error fault, after)) :
    server.serve store request =
      (⟨some (faultResponse request fault 500), some fault, after.log ++ faultRecords request fault,
        after.events⟩, server.management.registry.settle after.store) := by
  rw [serve_eq, h]
  simp only [on_answerFault readable,
    faultAnswer_of_writable (fun _ => Fault.writable_of_status? unanswered)]
  rfl

/-- A request at which some layer stopped is answered 500 or not at all, and the store is that of
the fault. -/
theorem serve_of_fault {fault : Fault}
    (h : on ⟨store, [], []⟩ (server.layered request) = (.error fault, after)) :
    ((server.serve store request).1.status? = none ∨
        (server.serve store request).1.status? = some 500) ∧
      (server.serve store request).2 = server.management.registry.settle after.store := by
  rw [serve_eq, h]
  simp only
  rcases request.readable_or with readable | ⟨cause, unread⟩
  · rw [on_answerFault readable]
    cases written : faultAnswer request fault 500 with
    | ok response => exact ⟨.inr (congrArg some (status_of_faultAnswer written)), rfl⟩
    | error cause => exact ⟨.inl rfl, rfl⟩
  · rw [on_answerFault_unread unread]
    exact ⟨.inl rfl, rfl⟩

/-- A request whose address cannot be read is left without a response. -/
theorem serve_unread (server : Server σ) (store : σ) {fault : Fault}
    (question : Cors.preflight? server.origins request = none)
    (unread : request.address = .error fault) :
    server.serve store request =
      (⟨none, some fault, [], []⟩, server.management.registry.settle store) := by
  rw [serve_eq, on_layered server question, on_capture_unread unread]
  simp only [on_answerFault_unread unread]

/-- The address of a request that is answered was read. -/
theorem readable_of_status? (server : Server σ)
    (question : Cors.preflight? server.origins request = none) {status : Nat}
    (answered : (server.serve store request).1.status? = some status) :
    request.Readable := by
  rcases request.readable_or with readable | ⟨fault, unread⟩
  · exact readable
  · rw [serve_unread server store question unread] at answered
    cases answered

end Serve

theorem preflight?_eq_none {request : Request} (h : request.method ≠ "OPTIONS")
    (origins : List String) : Cors.preflight? origins request = none := by
  unfold Cors.preflight?
  cases header? "origin" request.headers with
  | none => rfl
  | some origin =>
    cases header? "access-control-request-method" request.headers with
    | none => rfl
    | some method => exact if_neg (by simpa using h)

/-- Only what is posted is read for the record. -/
theorem requestBody_eq_none {request : Request} (h : request.method ≠ "POST") :
    Audit.requestBody request = .ok none :=
  if_pos (by simp [h])

theorem preflight?_of_asks {request : Request} {method : String} {route : Route}
    (asks : request.Asks method route) (other : method ≠ "OPTIONS") (origins : List String) :
    Cors.preflight? origins request = none :=
  preflight?_eq_none (asks.1 ▸ other) origins

theorem requestBody_of_asks {request : Request} {method : String} {route : Route}
    (asks : request.Asks method route) (other : method ≠ "POST") :
    Audit.requestBody request = .ok none :=
  requestBody_eq_none (asks.1 ▸ other)

/-- What becomes of a fault that no layer answered depends on the request alone. -/
theorem answerFault_agrees {world world' : World σ} (same : world.store = world'.store)
    (request : Request) (fault : Fault) (status : Nat) :
    Agree (on world (answerFault request fault status))
      (on world' (answerFault request fault status)) := by
  rcases request.readable_or with readable | ⟨cause, unread⟩
  · rw [on_answerFault readable, on_answerFault readable]
    exact ⟨rfl, same⟩
  · rw [on_answerFault_unread unread, on_answerFault_unread unread]
    exact ⟨rfl, same⟩

/-- Two layered applications that agree make servers that agree. -/
theorem serve_of_agree {a b : Server σ} {store : σ} {request : Request}
    (settle : a.management.registry.settle = b.management.registry.settle)
    (agree : Agree (on ⟨store, [], []⟩ (a.layered request))
      (on ⟨store, [], []⟩ (b.layered request))) :
    (a.serve store request).1.response = (b.serve store request).1.response ∧
      (a.serve store request).1.raised = (b.serve store request).1.raised ∧
      (a.serve store request).2 = (b.serve store request).2 := by
  rw [serve_eq, serve_eq, settle]
  generalize on ⟨store, [], []⟩ (a.layered request) = first at agree ⊢
  generalize on ⟨store, [], []⟩ (b.layered request) = second at agree ⊢
  rcases first with ⟨fault | response, after⟩ <;>
    rcases second with ⟨fault' | response', after'⟩ <;> obtain ⟨⟨⟩, same⟩ := agree
  · have agree := answerFault_agrees same request fault 500
    simp only
    generalize on after (answerFault request fault 500) = first at agree ⊢
    generalize on after' (answerFault request fault 500) = second at agree ⊢
    rcases first with ⟨cause | response, last⟩ <;>
      rcases second with ⟨cause' | response', last'⟩ <;> obtain ⟨⟨⟩, same⟩ := agree <;>
      exact ⟨rfl, rfl, congrArg b.management.registry.settle same⟩
  · exact ⟨rfl, rfl, congrArg b.management.registry.settle same⟩

/-- The answer to a result of the application, and the fault behind it: a response with the lines
about origins, or the response to the fault. -/
def delivered (origins : List String) (request : Request) :
    Except Fault Response → Response × Option Fault
  | .ok response => (Cors.withOrigin origins request response, none)
  | .error fault => (faultResponse request fault 500, some fault)

/-- The faults that are reported when a result is answered. -/
def reports (request : Request) : Except Fault Response → List LogRecord
  | .ok _ => []
  | .error fault => [report request fault]

/-- A request whose result reaches the client, with the world after the application. -/
structure Delivers (server : Server σ) (request : Request) (result : Except Fault Response)
    (after : World σ) (served : Outcome × σ) : Prop where
  response : served.1.response = some (delivered server.origins request result).1
  raised : served.1.raised = (delivered server.origins request result).2
  store : served.2 = server.management.registry.settle after.store
  errors : errors served.1.log = errors after.log ++ reports request result
  events : ∃ body reason, served.1.events = after.events ++
    notes server.recorder request (Audit.eventOf request body (statusOf result) reason)

section Delivers

variable (server : Server σ) {store : σ} {request : Request}
  (question : Cors.preflight? server.origins request = none) (readable : request.Readable)
include question readable

/-- What the capture lets pass reaches the client, and its event tells the status. -/
theorem serve_delivers {result : Except Fault Response} {after : World σ}
    (recordable : isCaptured server.recorder request = true →
      ∃ body, Audit.requestBody request = .ok body)
    (answered : on ⟨store, [], []⟩ (server.answer request) = (result, after))
    (passes : Passes result) :
    server.Delivers request result after (server.serve store request) := by
  obtain ⟨body, reason, log, same, captured⟩ := on_capture readable recordable answered passes
  have layered := server.on_layered question ⟨store, [], []⟩
  rw [captured] at layered
  cases result with
  | error fault =>
    rw [serve_of_error readable passes.1 layered]
    refine ⟨rfl, rfl, rfl, ?_, body, reason, rfl⟩
    simp [same, reports]
  | ok response =>
    rw [serve_of_ok layered]
    refine ⟨rfl, rfl, rfl, ?_, body, reason, rfl⟩
    simp [same, reports]

/-- A captured request whose body cannot be recorded is kept from the application. -/
theorem serve_unrecordable (store : σ) {cause : Json.DocumentFault}
    (captured : isCaptured server.recorder request = true)
    (stops : Audit.requestBody request = .error (.document cause)) :
    server.serve store request =
      (⟨some (faultResponse request (.document cause) 500), some (.document cause),
        faultRecords request (.document cause), []⟩,
        server.management.registry.settle store) := by
  have layered := server.on_layered question ⟨store, [], []⟩
  cases recorder : server.recorder with
  | none =>
    rw [recorder] at captured
    cases captured
  | some recorder =>
    rw [recorder] at captured layered
    rw [capture_of_captured readable captured, on_observe, stops] at layered
    exact serve_of_error readable rfl layered

/-- What the capture lets pass reaches the client as it is, but for the lines about origins. A
fault is answered 500. -/
theorem serve_of_answer {body : Option Json} {result : Except Fault Response} {after : World σ}
    (recorded : Audit.requestBody request = .ok body)
    (answered : on ⟨store, [], []⟩ (server.answer request) = (result, after))
    (passes : Passes result) :
    (match result with
      | .ok response =>
        (server.serve store request).1.response =
            some (Cors.withOrigin server.origins request response) ∧
          (server.serve store request).1.raised = none
      | .error fault =>
        (server.serve store request).1.response = some (faultResponse request fault 500) ∧
          (server.serve store request).1.raised = some fault) ∧
      (server.serve store request).2 = server.management.registry.settle after.store := by
  have delivers :=
    server.serve_delivers question readable (fun _ => ⟨body, recorded⟩) answered passes
  refine ⟨?_, delivers.store⟩
  cases result with
  | error fault => exact ⟨delivers.response, delivers.raised⟩
  | ok response => exact ⟨delivers.response, delivers.raised⟩

end Delivers

end Server

end ServiceRegistry.Http
