import ServiceRegistry.Proofs.Http.ErrorPage
import ServiceRegistry.Proofs.Http.Quiet

/-!
# Answers to requests

What reaches the client of a request is either a response of the application that is no error, or
the response to a fault that is reported once. The document of a garbled form cannot be written, so
a script gets the response to that fault instead. This holds for every registry whose requests are
quiet.

Results:

* `Settled`: the ways in which the application ends: a success, a fault that is answered by its own
  status, a fault that is left to the outermost layer, and a garbled form.
* `answer_settled`: the application of a quiet registry ends in one of them.
* `answer_garbled`: a garbled form from a script ends in the last one.
* `Settled.passes`: the capture lets all of them pass.
* `Server.serve_replies`, `Server.serve_stops`: what the client gets of a success and of a fault.
* `Server.run_forall`, `Server.run_forall₂`: what holds of each request holds along a run, and what
  holds of two requests along two runs.
-/

namespace ServiceRegistry.Http

open Run (on)

variable {σ : Type} {request : Request}

/-! ## What the capture lets pass -/

/-- A fault that is answered has a document that can be read back: its positions have no more digits
than the limit. -/
theorem passes_faultResponse {fault : Fault} {limit status : Nat} (expected : fault.Expected limit)
    (within : limit < 10 ^ Number.digitLimit) (own : fault.status? = some status) :
    Passes (.ok (faultResponse request fault status)) := by
  have fails := expected.fails.2
  rw [own] at fails
  have small : status < 10000 := Nat.lt_of_le_of_lt fails (by decide)
  exact fun _ => ⟨rebuild_faultResponse request fault status,
    errorOf_faultResponse expected within small request⟩

theorem passes_error {fault : Fault} {limit : Nat} (expected : fault.Expected limit)
    (unanswered : fault.status? = none) : Passes (.error fault) := by
  refine ⟨unanswered, ?_⟩
  rintro cause rfl
  exact expected

/-! ## The application -/

/-- The ways in which the application ends, by the world before it. -/
inductive Settled (platform : Form.Platform) (request : Request) (before : World σ) :
    Except Fault Response → World σ → Prop
  | passed {response : Response} {after : World σ} : response.status < 400 →
      Unnoticed before after → Settled platform request before (.ok response) after
  | answered {fault : Fault} {status : Nat} {after : World σ} :
      Foreseen platform request fault →
      (request.isFromScript = true → ¬ request.Garbles platform) →
      fault.status? = some status →
      errors after.log = errors before.log ++ [report request fault] →
      after.events = before.events →
      Settled platform request before (.ok (faultResponse request fault status)) after
  | stopped {fault : Fault} {after : World σ} : Foreseen platform request fault →
      fault.status? = none → Unnoticed before after →
      Settled platform request before (.error fault) after
  | garbled {issues : List (IssueWith Shown)} {cause : Text.EncodeFault} {after : World σ} :
      request.isFromScript = true → request.Garbles platform →
      errors after.log = errors before.log ++ [report request (.invalidForm issues)] →
      after.events = before.events →
      Settled platform request before (.error (.unencodable cause)) after

/-- A garbled form is refused before anything is done. -/
theorem dispatch_garbled {platform : Form.Platform} (garbles : request.Garbles platform)
    (management : Management σ) :
    ∃ issues, (∃ issue ∈ issues, issue.input.plain? = none) ∧ ∀ world : World σ,
      on world (Application.dispatch platform management request) =
        (.error (.invalidForm issues), world) := by
  obtain ⟨issues, shows, ⟨⟨method, path⟩, refused⟩ | ⟨⟨method, path⟩, refused⟩⟩ :=
    Request.refused_of_garbles garbles
  · have allowed : Route.delete.methods.contains request.method = true := by rw [method]; rfl
    refine ⟨issues, shows, fun world => ?_⟩
    unfold Request.submittedId at refused
    unfold Application.dispatch
    simp only [path, allowed, if_true, Application.serve, Application.delete, refused, Run.on_bind,
      Run.on_lift]
  · have allowed : Route.reorder.methods.contains request.method = true := by rw [method]; rfl
    refine ⟨issues, shows, fun world => ?_⟩
    unfold Request.submittedIds at refused
    unfold Application.dispatch
    simp only [path, allowed, if_true, Application.serve, Application.reorder, refused, Run.on_bind,
      Run.on_lift]

/-- The document of a garbled form cannot be written for a script. -/
theorem answer_garbled (server : Server σ) (readable : request.Readable)
    (script : request.isFromScript = true) (garbles : request.Garbles server.platform)
    (world : World σ) :
    ∃ issues cause, on world (server.answer request) =
      (.error (.unencodable cause), faultLogged request (.invalidForm issues) world) := by
  obtain ⟨issues, shows, refused⟩ := dispatch_garbled garbles server.management
  obtain ⟨cause, unwritten⟩ := faultAnswer_of_garbled script shows 422
  refine ⟨issues, cause, ?_⟩
  rw [server.on_answer readable, refused world]
  simp only [Fault.status?, unwritten]

/-- The application of a quiet registry succeeds or stops with a foreseen fault, which it answers
and reports if the fault has a status of its own. -/
theorem answer_settled (server : Server σ) (readable : request.Readable)
    (quiet : server.management.registry.Quiet) (world : World σ) :
    Settled server.platform request world
      (on world (server.answer request)).1 (on world (server.answer request)).2 := by
  by_cases garbled : request.isFromScript = true ∧ request.Garbles server.platform
  · obtain ⟨script, garbles⟩ := garbled
    obtain ⟨issues, cause, answered⟩ := answer_garbled server readable script garbles world
    have reported : errors (faultLogged request (.invalidForm issues) world).log =
        errors world.log ++ [report request (.invalidForm issues)] := by
      rw [faultLogged, errors_append, errors_faultRecords]
    rw [answered]
    exact .garbled script garbles reported rfl
  rw [Server.on_answer server readable]
  have ends := Application.dispatch_quiet quiet server.platform request world
  generalize on world (Application.dispatch server.platform server.management request) = result
    at ends
  obtain ⟨unnoticed, ends⟩ := ends
  rcases result with ⟨fault | reply, after⟩
  · have foreseen : Foreseen server.platform request fault := ends
    cases answered : fault.status? with
    | none =>
      simp only [answered]
      exact .stopped foreseen answered unnoticed
    | some status =>
      have whole := not_and.mp garbled
      simp only [answered, faultAnswer_of_writable fun script => foreseen.writable (whole script)]
      refine .answered foreseen whole answered ?_ unnoticed.events
      rw [faultLogged, errors_append, errors_faultRecords, unnoticed.errors]
  · refine .passed ?_ unnoticed
    rw [status_sessionResponse]
    exact ends

section Settled

variable {platform : Form.Platform} {before after : World σ} {result : Except Fault Response}

/-- The capture lets pass what the application ends with. -/
theorem Settled.passes (settled : Settled platform request before result after)
    (within : Form.positionLimit request < 10 ^ Number.digitLimit) : Passes result := by
  cases settled with
  | passed success => exact fun error => absurd success (Nat.not_lt.mpr error)
  | answered foreseen _ own => exact passes_faultResponse foreseen.expected within own
  | stopped foreseen unanswered => exact passes_error foreseen.expected unanswered
  | garbled => exact ⟨rfl, fun _ same => by cases same⟩

/-- The application records nothing. -/
theorem Settled.events (settled : Settled platform request before result after) :
    after.events = before.events := by
  cases settled with
  | passed _ unnoticed => exact unnoticed.events
  | answered _ _ _ _ events => exact events
  | stopped _ _ unnoticed => exact unnoticed.events
  | garbled _ _ _ events => exact events

end Settled

/-- A body that can be sent has positions that can be read back. -/
theorem positionLimit_lt (short : request.body.length < 10 ^ Number.digitLimit) :
    Form.positionLimit request < 10 ^ Number.digitLimit :=
  Nat.max_lt.mpr ⟨short, lt_ten_pow (by decide) (by decide)⟩

namespace Server

/-! ## Requests -/

section Requests

variable (server : Server σ) {store : σ} {after : World σ}

/-- A success of the application reaches the client. -/
theorem serve_replies {reply : Reply} (question : Cors.preflight? server.origins request = none)
    (readable : request.Readable)
    (recordable : isCaptured server.recorder request = true →
      ∃ body, Audit.requestBody request = .ok body)
    (dispatched : on ⟨store, [], []⟩
      (Application.dispatch server.platform server.management request) = (.ok reply, after))
    (success : reply.response.status < 400) :
    let served := server.serve store request
    served.1.response =
        some (Cors.withOrigin server.origins request (sessionResponse request reply)) ∧
      served.2 = server.management.registry.settle after.store := by
  have answered : on ⟨store, [], []⟩ (server.answer request) =
      (.ok (sessionResponse request reply), after) := by
    rw [on_answer server readable, dispatched]
  have passes : Passes (.ok (sessionResponse request reply)) := by
    intro error
    rw [status_sessionResponse] at error
    omega
  have delivers := server.serve_delivers question readable recordable answered passes
  exact ⟨delivers.response, delivers.store⟩

/-- A fault of the application is answered with its own status or, if it has none, with 500, and it
is reported once. -/
theorem serve_stops {fault : Fault} {limit : Nat}
    (question : Cors.preflight? server.origins request = none) (readable : request.Readable)
    (recordable : isCaptured server.recorder request = true →
      ∃ body, Audit.requestBody request = .ok body)
    (dispatched : on ⟨store, [], []⟩
      (Application.dispatch server.platform server.management request) = (.error fault, after))
    (expected : fault.Expected limit) (writable : fault.Writable)
    (within : limit < 10 ^ Number.digitLimit) :
    let served := server.serve store request
    (match fault.status? with
      | some status =>
        served.1.response =
            some (Cors.withOrigin server.origins request (faultResponse request fault status)) ∧
          served.1.raised = none
      | none =>
        served.1.response = some (faultResponse request fault 500) ∧
          served.1.raised = some fault) ∧
      errors served.1.log = errors after.log ++ [report request fault] ∧
      served.2 = server.management.registry.settle after.store := by
  have answered := server.on_answer readable ⟨store, [], []⟩
  rw [dispatched] at answered
  cases own : fault.status? with
  | none =>
    simp only [own] at answered
    have delivers := server.serve_delivers question readable recordable answered
      (passes_error expected own)
    exact ⟨⟨delivers.response, delivers.raised⟩, delivers.errors, delivers.store⟩
  | some status =>
    simp only [own, faultAnswer_of_writable fun _ => writable] at answered
    have delivers := server.serve_delivers question readable recordable answered
      (passes_faultResponse expected within own)
    refine ⟨⟨delivers.response, delivers.raised⟩, ?_, delivers.store⟩
    rw [delivers.errors, faultLogged, errors_append, errors_faultRecords]
    exact List.append_nil _

end Requests

/-! ## Runs -/

/-- A server of one of the two registries. -/
abbrev ofBackend (platform : Form.Platform) (backend : Backend) (url : String)
    (recorder : Option Audit.Recorder) (origins : List String) : Server backend.Store :=
  ⟨platform, ⟨backend.registry, url⟩, recorder, origins⟩

theorem length_run (server : Server σ) (store : σ) (requests : List Request) :
    (server.run store requests).length = requests.length := by
  induction requests generalizing store with
  | nil => rfl
  | cons request rest ih =>
    rw [run, List.length_cons, List.length_cons, ih]

/-- What a server makes of each request, whatever is kept before it, holds along a run. -/
theorem run_forall (server : Server σ) (holds : Request → Outcome × σ → Prop)
    {requests : List Request}
    (each : ∀ request ∈ requests, ∀ store, holds request (server.serve store request))
    (store : σ) : ∀ step ∈ requests.zip (server.run store requests), holds step.1 step.2 := by
  induction requests generalizing store with
  | nil =>
    intro step mem
    cases mem
  | cons request rest ih =>
    rw [run]
    intro step mem
    rcases List.mem_cons.mp mem with rfl | mem
    · exact each request List.mem_cons_self store
    · exact ih (fun other mem => each other (List.mem_cons_of_mem request mem)) _ step mem

/-- What a server makes of any two requests that are related holds of the steps of two runs, as long
as each pair of steps leaves one store. -/
theorem run_forall₂ (server : Server σ) {related : Request → Request → Prop}
    {alike : Request → Request → Outcome × σ → Outcome × σ → Prop}
    (each : ∀ a b, related a b → ∀ store, alike a b (server.serve store a) (server.serve store b))
    (stores : ∀ {a b x y}, alike a b x y → x.2 = y.2) {requests others : List Request}
    (pairs : List.Forall₂ related requests others) (store : σ) :
    List.Forall₂ (fun x y => alike x.1 y.1 x.2 y.2) (requests.zip (server.run store requests))
      (others.zip (server.run store others)) := by
  induction pairs generalizing store with
  | nil => exact .nil
  | cons first _ ih =>
    have now := each _ _ first store
    rw [run, run, List.zip_cons_cons, List.zip_cons_cons, ← stores now]
    exact .cons now (ih _)

end Server

end ServiceRegistry.Http
