import ServiceRegistry.Proofs.Http.Answer
import ServiceRegistry.Proofs.Http.Lockout
import ServiceRegistry.Proofs.Http.Transparency

/-!
# Errors are answered in one form and reported once

An error may come from a route, a form, the administration, its registry or the capture. In every
case a script gets a document with the status, all other clients get no body, and the log gets one
report. A question about other origins is answered before all that. There are two exceptions. If the
address of a request cannot be read, nothing is answered and nothing is reported. If a script
submits an id that has a surrogate, the document that refuses it cannot be written, and the failure
to write it is answered and reported as well.

Results:

* `ErrorForm`: the answer to an error, by its type.
* `Translated`: an outcome with that answer and one report, or without errors.
* `Garbling`, `ReportedTwice`: the requests that garble their form, and their outcome for a script.
* `Server.serve_translates`, `Server.serve_garbled`: the outcome of a request that is no question
  and whose address can be read.
* `Server.run_translates`: the same for the requests of a run.
-/

namespace ServiceRegistry.Http

open Database (ofRows)
open Run (on)

variable {σ : Type} {request : Request}

/-! ## Headers -/

theorem header?_addVary {name : String} (other : name ≠ "vary") (added : String)
    (headers : Headers) : header? name (addVary added headers) = header? name headers := by
  unfold header?
  induction headers with
  | nil => simp [addVary, other]
  | cons line rest ih =>
    obtain ⟨key, value⟩ := line
    rw [addVary]
    split_ifs with vary
    · obtain rfl : key = "vary" := beq_iff_eq.mp vary
      have no : (name == "vary") = false := beq_false_of_ne other
      rw [List.lookup_cons, List.lookup_cons, no]
    · rw [List.lookup_cons, List.lookup_cons, ih]

/-- The lines about origins come last and replace no other line. -/
theorem header?_withOrigin {name value : String} (other : name ≠ "vary") {response : Response}
    (h : header? name response.headers = some value) (origins : List String) (request : Request) :
    header? name (Cors.withOrigin origins request response).headers = some value := by
  have kept := (header?_addVary other "Origin" response.headers).trans h
  unfold header? at kept ⊢
  simp only [Cors.withOrigin, List.lookup_append, kept, Option.some_or]

/-! ## The form of an error -/

/-- The answer to an error of a type: for a script a document with the type and the status, and
otherwise no body. -/
def ErrorForm (request : Request) (response : Response) (type : String) : Prop :=
  if request.isFromScript then
    header? "content-type" response.headers = some "application/json" ∧
      ∃ message, Json.readDocument response.body =
        .ok (.object [("error", .object
          [("type", .text type), ("message", message), ("status", .int response.status)])])
  else response.body = []

theorem errorForm_faultResponse {limit : Nat} {fault : Fault} (printable : fault.Printable limit)
    (within : limit < 10 ^ Number.digitLimit) {status : Nat} (small : status < 10000)
    (request : Request) :
    ErrorForm request (faultResponse request fault status) fault.label := by
  unfold ErrorForm faultResponse
  split_ifs with script
  · refine ⟨rfl, faultWording fault, ?_⟩
    rw [body_json, readDocument_errorDocument printable within small]
    rfl
  · rfl

theorem ErrorForm.withOrigin {response : Response} {type : String}
    (h : ErrorForm request response type) (origins : List String) :
    ErrorForm request (Cors.withOrigin origins request response) type := by
  unfold ErrorForm at h ⊢
  split_ifs at h ⊢ with script
  · exact ⟨header?_withOrigin (by decide) h.1 origins request, h.2⟩
  · exact h

/-! ## Outcomes -/

/-- An outcome in which an error has its form and one report, and a success has none. -/
structure Translated (request : Request) (outcome : Server.Outcome) : Prop where
  answered : outcome.response.isSome = true
  failed : ∀ response, outcome.response = some response → 400 ≤ response.status →
    ∃ type text, errors outcome.log = [⟨.error, errorLogger, text, some type⟩] ∧
      ErrorForm request response type
  succeeded : ∀ response, outcome.response = some response → response.status < 400 →
    errors outcome.log = []

/-- The response to a fault and one report of it. -/
theorem Translated.of_fault {outcome : Server.Outcome} {fault : Fault} {response : Response}
    (answered : outcome.response = some response) (error : 400 ≤ response.status)
    (reported : errors outcome.log = [report request fault])
    (form : ErrorForm request response fault.label) : Translated request outcome where
  answered := by rw [answered]; rfl
  failed response' same _ := by
    obtain rfl := Option.some.inj (answered.symm.trans same)
    exact ⟨_, _, reported, form⟩
  succeeded response' same success := by
    obtain rfl := Option.some.inj (answered.symm.trans same)
    exact absurd success (Nat.not_lt.mpr error)

/-- A request that garbles its form and comes to the application with it: its address can be read,
and the capture does not stop it. -/
structure Garbling (platform : Form.Platform) (recorder : Option Audit.Recorder)
    (request : Request) : Prop where
  garbles : request.Garbles platform
  readable : request.Readable
  recordable : isCaptured recorder request = true → ¬ Unrecordable request

/-- An outcome in which the refusal of a form was reported, and then that it cannot be written. -/
structure ReportedTwice (request : Request) (outcome : Server.Outcome) : Prop where
  answered : ∃ response, outcome.response = some response ∧ response.status = 500 ∧
    ErrorForm request response "UnicodeEncodeError"
  raised : ∃ cause, outcome.raised = some (.unencodable cause)
  reported : ∃ text text', errors outcome.log =
    [⟨.error, errorLogger, text, some "RequestValidationError"⟩,
      ⟨.error, errorLogger, text', some "UnicodeEncodeError"⟩]

theorem Request.Garbles.question {platform : Form.Platform} (garbles : request.Garbles platform)
    (origins : List String) : Cors.preflight? origins request = none := by
  obtain ⟨-, -, ⟨asks, -⟩ | ⟨asks, -⟩⟩ := garbles <;>
    exact Server.preflight?_of_asks asks (by decide) origins

theorem exists_requestBody {recorder : Option Audit.Recorder}
    (h : isCaptured recorder request = true → ¬ Unrecordable request) :
    isCaptured recorder request = true → ∃ body, Audit.requestBody request = .ok body := by
  intro captured
  cases recorded : Audit.requestBody request with
  | ok body => exact ⟨body, rfl⟩
  | error fault => exact absurd (requestBody_stops_iff.mp ⟨fault, recorded⟩) (h captured)

/-- A form in one part that is posted to a path, with the encoding of its texts. -/
def Request.partPost (path charset name value : String) : Request :=
  ⟨"POST", path, [],
    [("content-type", "multipart/form-data; boundary=b; charset=" ++ charset)],
    Text.utf8Encode ("--b\r\nContent-Disposition: form-data; name=\"" ++ name ++ "\"\r\n\r\n" ++
      value ++ "\r\n--b--\r\n").toList, none⟩

namespace Server

theorem Delivers.translated {server : Server σ} {store : σ} {after : World σ}
    {result : Except Fault Response} {served : Outcome × σ}
    (delivers : server.Delivers request result after served)
    (settled : Settled server.platform request ⟨store, [], []⟩ result after)
    (whole : request.isFromScript = true → ¬ request.Garbles server.platform)
    (within : Form.positionLimit request < 10 ^ Number.digitLimit) :
    Translated request served.1 := by
  have answer := delivers.response
  have reported := delivers.errors
  cases settled with
  | @passed response _ success unnoticed =>
    rw [unnoticed.errors] at reported
    refine ⟨by rw [answer]; rfl, fun response' same error => ?_, fun _ _ _ => reported⟩
    obtain rfl := Option.some.inj (answer.symm.trans same)
    exact absurd success (Nat.not_lt.mpr error)
  | @answered fault status _ foreseen _ own noticed =>
    have fails := foreseen.expected.fails
    rw [own] at fails
    rw [noticed] at reported
    have small : status < 10000 := Nat.lt_of_le_of_lt fails.2 (by decide)
    have form := errorForm_faultResponse foreseen.expected.printable within small request
    refine .of_fault answer ?_ reported (form.withOrigin server.origins)
    simpa [delivered, Cors.withOrigin] using fails.1
  | @stopped fault _ foreseen _ unnoticed =>
    rw [unnoticed.errors] at reported
    refine .of_fault answer ?_ reported ?_
    · simp [delivered]
    · exact errorForm_faultResponse foreseen.expected.printable within (by decide) request
  | garbled script garbles => exact absurd garbles (whole script)

/-- A garbled form from a script is reported twice and answered 500. -/
theorem serve_garbled (server : Server σ) (script : request.isFromScript = true)
    (garbling : Garbling server.platform server.recorder request) (store : σ) :
    ReportedTwice request (server.serve store request).1 ∧
      (server.serve store request).2 = server.management.registry.settle store := by
  obtain ⟨issues, cause, answered⟩ :=
    answer_garbled server garbling.readable script garbling.garbles ⟨store, [], []⟩
  have passes : Passes (.error (.unencodable cause)) := ⟨rfl, nofun⟩
  have delivers := serve_delivers server (garbling.garbles.question server.origins)
    garbling.readable (exists_requestBody garbling.recordable) answered passes
  have form : ErrorForm request (faultResponse request (.unencodable cause) 500)
      "UnicodeEncodeError" :=
    errorForm_faultResponse (Fault.printable_of_status? rfl 0) (Nat.pow_pos (by decide))
      (by decide) request
  have reported : errors (server.serve store request).1.log =
      [report request (.invalidForm issues), report request (.unencodable cause)] := by
    rw [delivers.errors, faultLogged, errors_append, errors_faultRecords]
    rfl
  exact ⟨⟨⟨_, delivers.response, status_faultResponse request _ 500, form⟩,
    ⟨cause, delivers.raised⟩, _, _, reported⟩, delivers.store⟩

/-- Every request but a question about other origins has an outcome in which an error has its form
and one report, if its address can be read and it is no script that garbles a form. -/
theorem serve_translates (server : Server σ) (quiet : server.management.registry.Quiet)
    (question : Cors.preflight? server.origins request = none) (readable : request.Readable)
    (whole : ¬ (request.isFromScript = true ∧ Garbling server.platform server.recorder request))
    (short : request.body.length < 10 ^ Number.digitLimit) (store : σ) :
    Translated request (server.serve store request).1 := by
  have within := positionLimit_lt short
  by_cases recordable : isCaptured server.recorder request = true → ¬ Unrecordable request
  · have settled := answer_settled server readable quiet ⟨store, [], []⟩
    rcases answered : on ⟨store, [], []⟩ (server.answer request) with ⟨result, after⟩
    rw [answered] at settled
    have delivers := serve_delivers server question readable (exists_requestBody recordable)
      answered (settled.passes within)
    exact delivers.translated settled
      (fun script garbles => whole ⟨script, garbles, readable, recordable⟩) within
  · obtain ⟨captured, unrecordable⟩ := Classical.not_imp.mp recordable
    obtain ⟨cause, stops⟩ := requestBody_of_unrecordable (not_not.mp unrecordable)
    rw [serve_unrecordable server question readable store captured stops]
    refine .of_fault rfl ?_ (errors_faultRecords request _) ?_
    · simp
    · exact errorForm_faultResponse (Fault.printable_of_status? rfl _) within (by decide) request

/-- In a run over either registry, with any faults of the one in memory, take a request that is no
question about other origins. If its address cannot be read, it is left without a response, and
nothing is reported. If a script garbles a form, the refusal is reported, and then that its document
cannot be written, which is answered 500. Every other request that is answered with a status of at
least 400 is answered in the form of an error: a script gets a document with the type of the error
and the status, all others get no body. The log has one error, by the logger of errors, and it names
the type. Where the status is below 400 the log has no error. The bodies of the requests are shorter
than the numbers that can be read are long. -/
theorem run_translates (platform : Form.Platform) (backend : Backend) (url : String)
    (recorder : Option Audit.Recorder) (origins : List String) (store : backend.Store)
    {requests : List Request}
    (short : ∀ request ∈ requests, request.body.length < 10 ^ Number.digitLimit) :
    let steps := (ofBackend platform backend url recorder origins).run store requests
    steps.length = requests.length ∧ ∀ step ∈ requests.zip steps,
      Cors.preflight? origins step.1 = none →
        (∀ fault, step.1.address = .error fault → step.2.1 = ⟨none, some fault, [], []⟩) ∧
        (step.1.isFromScript = true → Garbling platform recorder step.1 →
          ReportedTwice step.1 step.2.1) ∧
        (step.1.Readable →
          ¬ (step.1.isFromScript = true ∧ Garbling platform recorder step.1) →
          Translated step.1 step.2.1) := by
  let server := ofBackend platform backend url recorder origins
  intro steps
  have each : ∀ request ∈ requests, ∀ store, Cors.preflight? origins request = none →
      (∀ fault, request.address = .error fault →
        (server.serve store request).1 = ⟨none, some fault, [], []⟩) ∧
      (request.isFromScript = true → Garbling platform recorder request →
        ReportedTwice request (server.serve store request).1) ∧
      (request.Readable →
        ¬ (request.isFromScript = true ∧ Garbling platform recorder request) →
        Translated request (server.serve store request).1) := by
    intro request mem store question
    refine ⟨fun fault unread => ?_, fun script garbling => ?_, fun readable whole => ?_⟩
    · rw [serve_unread server store question unread]
    · exact (serve_garbled server script garbling store).1
    · exact serve_translates server backend.quiet question readable whole (short request mem) store
  exact ⟨server.length_run store requests, server.run_forall (fun request served =>
    Cors.preflight? origins request = none →
      (∀ fault, request.address = .error fault → served.1 = ⟨none, some fault, [], []⟩) ∧
      (request.isFromScript = true → Garbling platform recorder request →
        ReportedTwice request served.1) ∧
      (request.Readable →
        ¬ (request.isFromScript = true ∧ Garbling platform recorder request) →
        Translated request served.1)) each store⟩

/-- A script that reorders entries of which one cannot be saved, the listing, and a path that leads
nowhere. -/
theorem run_translates_unavailable :
    let memory := (Memory.ofEntries [newEntry 7 "u" "a"]).withFaults false (some 7)
    let form := Request.formPost "/updateRegisteredServiceEvaluationOrder" "id=7"
    let requests := [{ form with headers := (scriptHeader, scriptValue) :: form.headers },
      Request.get "/getServices", Request.get "/nowhere"]
    let steps := (ofBackend .standard .memory "u" none []).run memory requests
    (∀ request ∈ requests, request.body.length < 10 ^ Number.digitLimit) ∧
      (steps.map fun step => step.1.status?) = [some 500, some 200, some 404] ∧
      steps.length = requests.length ∧ ∀ step ∈ requests.zip steps,
        Cors.preflight? [] step.1 = none →
          (∀ fault, step.1.address = .error fault → step.2.1 = ⟨none, some fault, [], []⟩) ∧
          (step.1.isFromScript = true → Garbling .standard none step.1 →
            ReportedTwice step.1 step.2.1) ∧
          (step.1.Readable →
            ¬ (step.1.isFromScript = true ∧ Garbling .standard none step.1) →
            Translated step.1 step.2.1) := by
  intro memory form requests steps
  have few : ∀ request ∈ requests, request.body.length < 10000 := by decide +kernel
  have short : ∀ request ∈ requests, request.body.length < 10 ^ Number.digitLimit :=
    fun request mem => lt_ten_pow (few request mem) (by decide)
  exact ⟨short, by decide +kernel, run_translates .standard .memory "u" none [] memory short⟩

/-- An id that is a surrogate is reported twice, if a script submits it. -/
theorem garbled_reported_twice :
    let form := Request.partPost "/deleteRegisteredService" "unicode_escape" "id" "\\ud800"
    let request := { form with headers := (scriptHeader, scriptValue) :: form.headers }
    let outcome := ((ofBackend .standard .database "u" none []).serve (ofRows []) request).1
    Cors.preflight? [] request = none ∧ outcome.status? = some 500 ∧
      (errors outcome.log).map LogRecord.fault =
        [some "RequestValidationError", some "UnicodeEncodeError"] := by
  decide +kernel

end Server

end ServiceRegistry.Http
