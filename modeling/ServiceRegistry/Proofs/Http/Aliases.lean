import Mathlib.Data.List.Forall2
import ServiceRegistry.Proofs.Http.Commit
import ServiceRegistry.Proofs.Http.Recording

/-!
# The two paths of a page

Each page has a plain path and one that ends in `.html`. A request for the one path and the same
request for the other do the same and are answered alike; the log and the events only tell by which
path the page was asked for.

Results:

* `shownPath_cases`, `urlPath_html`: how an address shows the two paths of a page.
* `Renamed`: two results of an operation that differ in the paths that were logged and recorded.
* `unread_html`: an address of the one path can be read if that of the other can.
* `answer_renamed`, `observe_renamed`, `capture_renamed`, `around_renamed`, `answerFault_renamed`:
  each layer keeps to it.
* `SameButPath`: two outcomes that differ in these paths only.
* `Server.run_sameButPath`: the outcomes of two runs.
-/

namespace ServiceRegistry.Http

open Run (on)

variable {σ α : Type}

/-! ## Paths in addresses -/

/-- An address ends before each path, or it shows each plain path after what stands in the host from
the first slash on. -/
theorem shownPath_cases (host : String) :
    (∃ shown, ∀ path, IsPlain path → shownPath (host ++ path) = shown) ∨
      ∃ before, ∀ path, IsPlain path → shownPath (host ++ path) = before ++ path := by
  by_cases goesOn : ((hostTail host).takeWhile fun c => c != '?' && c != '#').length =
      (hostTail host).length
  · refine .inr ⟨String.ofList (hostTail host), fun path plain => ?_⟩
    obtain ⟨rest, slash, shown, ends⟩ := plain.exists_rest
    rw [shownPath_append host shown, List.takeWhile_append, if_pos goesOn,
      List.takeWhile_cons_of_pos (by decide),
      List.takeWhile_eq_self_iff.mpr (List.all_eq_true.mp ends), ← slash, String.ofList_append,
      String.ofList_toList]
  · refine .inl ⟨String.ofList ((hostTail host).takeWhile fun c => c != '?' && c != '#'),
      fun path plain => ?_⟩
    obtain ⟨rest, -, shown, -⟩ := plain.exists_rest
    rw [shownPath_append host shown, List.takeWhile_append, if_neg goesOn]

/-! ## The two paths of a page -/

/-- The request with `.html` after its path. -/
def Request.html (request : Request) : Request :=
  { request with path := request.path ++ ".html" }

/-- A request for the plain path of a page. -/
def Request.IsPlainPage (request : Request) : Prop :=
  request.path ∈ Route.pages.map Prod.fst

theorem isPlain_pages : ∀ path ∈ Route.pages.map Prod.fst,
    IsPlain path ∧ IsPlain (path ++ ".html") := by
  decide +kernel

/-- No path that the capture skips ends in a path of a page. -/
theorem skippedPaths_pages : ∀ path ∈ Route.pages.map Prod.fst, ∀ skipped ∈ Audit.skippedPaths,
    ¬ path.toList <:+ skipped.toList ∧ ¬ (path ++ ".html").toList <:+ skipped.toList := by
  decide +kernel

section Page

variable {request : Request} (page : request.IsPlainPage)
include page

/-- An address shows both paths of a page alike, or it shows the second one with the ending. -/
theorem urlPath_html : request.html.urlPath = request.urlPath ∨
    request.html.urlPath = request.urlPath ++ ".html" ∧
      request.urlPath ∉ Audit.skippedPaths ∧ request.html.urlPath ∉ Audit.skippedPaths := by
  obtain ⟨plain, plain'⟩ := isPlain_pages request.path page
  have host : request.html.host = request.host := rfl
  have path : request.html.path = request.path ++ ".html" := rfl
  rw [Request.urlPath, Request.urlPath, host, path]
  rcases shownPath_cases request.host with ⟨shown, always⟩ | ⟨before, follows⟩
  · exact .inl ((always _ plain').trans (always _ plain).symm)
  · -- Here the address ends in the path, as no skipped path does.
    rw [follows _ plain, follows _ plain']
    refine .inr ⟨String.append_assoc.symm, fun skipped => ?_, fun skipped => ?_⟩
    · refine (skippedPaths_pages request.path page _ skipped).1 ?_
      rw [String.toList_append]
      exact List.suffix_append _ _
    · refine (skippedPaths_pages request.path page _ skipped).2 ?_
      rw [show (before ++ (request.path ++ ".html")).toList = _ from String.toList_append]
      exact List.suffix_append _ _

theorem isCaptured_html (recorder : Option Audit.Recorder) :
    isCaptured recorder request.html = isCaptured recorder request := by
  unfold isCaptured
  rcases urlPath_html page with same | ⟨-, passed, passed'⟩
  · rw [same]
  · simp [passed, passed']

/-- The authority of an address ends before both paths of a page, so neither path or both can be
asked for. -/
theorem unread_html {fault : Fault} :
    request.html.address = .error fault ↔ request.address = .error fault := by
  obtain ⟨plain, plain'⟩ := isPlain_pages request.path page
  obtain ⟨_, -, shown, -⟩ := plain.exists_rest
  obtain ⟨_, -, shown', -⟩ := plain'.exists_rest
  have authority : authorityOf (request.html.host ++ request.html.path) =
      authorityOf (request.host ++ request.path) :=
    (authorityOf_append request.host shown').trans (authorityOf_append request.host shown).symm
  unfold Request.address
  rw [authority, show request.html.query = request.query from rfl]
  cases Text.utf8Decode request.query with
  | error cause => rfl
  | ok query => cases Text.authorityFault? (authorityOf (request.host ++ request.path)) <;> simp

theorem readable_html (readable : request.Readable) : request.html.Readable := by
  rcases request.html.readable_or with readable | ⟨fault, unread⟩
  · exact readable
  · exact absurd readable (Request.not_readable ((unread_html page).mp unread))

theorem dispatch_html (platform : Form.Platform) (management : Management σ) :
    Application.dispatch platform management request.html =
      Application.dispatch platform management request := by
  obtain ⟨⟨path, route⟩, mem, rfl : path = request.path⟩ := List.mem_map.mp page
  obtain ⟨plain, html⟩ := ofPath?_pages _ mem
  unfold Application.dispatch
  rw [plain, show Route.ofPath? request.html.path = some route from html]
  cases route <;> rfl

end Page

/-! ## Results that differ in paths -/

/-- The second record is the first one, possibly with one path in the place of the other. -/
def RenamedRecord (path path' : String) (a b : LogRecord) : Prop :=
  b = a ∨ ∃ before after, a.message = before ++ path ++ after ∧
    b = { a with message := before ++ path' ++ after }

/-- The second event is the first one, possibly with one path in the place of the other. -/
def RenamedEvent (path path' : String) (a b : String × Json) : Prop :=
  b = a ∨ ∃ members, a.2 = .object members ∧ members.lookup "path" = some (.text path) ∧
    b = (a.1, .object (insertMember "path" (.text path') members))

/-- Two worlds that differ in the paths that were logged and recorded at most. -/
structure RenamedWorld (path path' : String) (a b : World σ) : Prop where
  store : a.store = b.store
  log : List.Forall₂ (RenamedRecord path path') a.log b.log
  events : List.Forall₂ (RenamedEvent path path') a.events b.events

/-- One result, with two worlds after it that differ in paths at most. -/
def Renamed (path path' : String) (x y : Except Fault α × World σ) : Prop :=
  x.1 = y.1 ∧ RenamedWorld path path' x.2 y.2

namespace RenamedWorld

variable {path path' : String} {a b : World σ}

theorem refl (world : World σ) : RenamedWorld path path' world world :=
  ⟨rfl, List.forall₂_same.mpr fun _ _ => .inl rfl, List.forall₂_same.mpr fun _ _ => .inl rfl⟩

theorem ingested (alike : RenamedWorld path path' a b) (recorder : Audit.Recorder)
    {event event' : Json}
    (events : RenamedEvent path path' (recorder.dataset, event) (recorder.dataset, event')) :
    RenamedWorld path path' (ingested recorder event a) (ingested recorder event' b) := by
  unfold Http.ingested
  split_ifs
  · exact ⟨alike.store, List.rel_append alike.log (.cons (.inl rfl) .nil), alike.events⟩
  · exact ⟨alike.store, alike.log, List.rel_append alike.events (.cons events .nil)⟩

end RenamedWorld

theorem Renamed.refl {path path' : String} (x : Except Fault α × World σ) :
    Renamed path path' x x :=
  ⟨rfl, .refl x.2⟩

/-! ## The layers of the server -/

section Layers

variable {request : Request} {world a b : World σ}

theorem report_renamed (request : Request) (fault : Fault) :
    RenamedRecord request.urlPath request.html.urlPath
      (report request fault) (report request.html fault) := by
  refine .inr ⟨request.method ++ " ", " failed: " ++ fault.message, ?_, ?_⟩
  · rw [report, String.append_assoc]
  · rw [report, report, String.append_assoc]
    rfl

/-- Only the report of a fault names the path. -/
theorem faultLogged_renamed
    (alike : RenamedWorld request.urlPath request.html.urlPath a b) (fault : Fault) :
    RenamedWorld request.urlPath request.html.urlPath
      (faultLogged request fault a) (faultLogged request.html fault b) :=
  ⟨alike.store, List.rel_append alike.log (.cons (report_renamed request fault)
    (.cons (.inl rfl) .nil)), alike.events⟩

theorem eventOf_renamed (request : Request) (dataset : String) (body : Option Json) (status : Nat)
    (reason : Option String) :
    RenamedEvent request.urlPath request.html.urlPath
      (dataset, Audit.eventOf request body status reason)
      (dataset, Audit.eventOf request.html body status reason) :=
  .inr ⟨_, rfl, rfl, rfl⟩

/-- The answer to a fault is the same by both paths. -/
theorem answerFault_renamed (page : request.IsPlainPage)
    (alike : RenamedWorld request.urlPath request.html.urlPath a b) (fault : Fault) (status : Nat) :
    Renamed request.urlPath request.html.urlPath (on a (answerFault request fault status))
      (on b (answerFault request.html fault status)) := by
  rcases request.readable_or with readable | ⟨cause, unread⟩
  · rw [on_answerFault readable, on_answerFault (readable_html page readable)]
    exact ⟨rfl, faultLogged_renamed alike fault⟩
  · rw [on_answerFault_unread unread, on_answerFault_unread ((unread_html page).mpr unread)]
    exact ⟨rfl, alike⟩

theorem answer_renamed (server : Server σ) (page : request.IsPlainPage)
    (readable : request.Readable) (world : World σ) :
    Renamed request.urlPath request.html.urlPath (on world (server.answer request))
      (on world (server.answer request.html)) := by
  rw [Server.on_answer server readable, Server.on_answer server (readable_html page readable),
    dispatch_html page]
  rcases on world (Application.dispatch server.platform server.management request) with
    ⟨fault | reply, after⟩
  · cases own : fault.status? with
    | none =>
      simp only [own]
      exact .refl _
    | some status =>
      simp only [own]
      exact ⟨rfl, faultLogged_renamed (.refl after) fault⟩
  · exact .refl _

variable {application : Request → Run σ Response}

/-- The capture reads the same of both requests and leaves one event for each. -/
theorem observe_renamed (recorder : Audit.Recorder)
    (alike : Renamed request.urlPath request.html.urlPath (on world (application request))
      (on world (application request.html))) :
    Renamed request.urlPath request.html.urlPath
      (on world (Audit.observe recorder application request))
      (on world (Audit.observe recorder application request.html)) := by
  rw [on_observe, on_observe,
    show Audit.requestBody request.html = Audit.requestBody request from rfl]
  cases Audit.requestBody request with
  | error fault => exact .refl _
  | ok body =>
    have noted (status : Nat) (reason : Option String) :=
      alike.2.ingested recorder (eventOf_renamed request recorder.dataset body status reason)
    generalize on world (application request) = first at alike noted ⊢
    generalize on world (application request.html) = second at alike noted ⊢
    obtain ⟨result, after⟩ := first
    obtain ⟨result', after'⟩ := second
    obtain rfl : result = result' := alike.1
    cases result with
    | error fault => exact ⟨rfl, noted 500 _⟩
    | ok response =>
      simp only
      split_ifs
      · exact ⟨rfl, noted _ _⟩
      · cases Audit.errorOf response.body with
        | ok reason => exact ⟨rfl, noted _ _⟩
        | error fault => exact ⟨rfl, noted _ _⟩

theorem capture_renamed (recorder : Option Audit.Recorder) (page : request.IsPlainPage)
    (alike : request.Readable →
      Renamed request.urlPath request.html.urlPath (on world (application request))
        (on world (application request.html))) :
    Renamed request.urlPath request.html.urlPath
      (on world (Audit.capture recorder application request))
      (on world (Audit.capture recorder application request.html)) := by
  rcases request.readable_or with readable | ⟨fault, unread⟩
  · have readable' := readable_html page readable
    have same := isCaptured_html page recorder
    cases captured : isCaptured recorder request with
    | false =>
      rw [capture_of_skipped readable captured, capture_of_skipped readable' (same.trans captured)]
      exact alike readable
    | true =>
      cases recorder with
      | none => cases captured
      | some recorder =>
        rw [capture_of_captured readable captured,
          capture_of_captured readable' (same.trans captured)]
        exact observe_renamed recorder (alike readable)
  · rw [on_capture_unread unread, on_capture_unread ((unread_html page).mpr unread)]
    exact .refl _

theorem around_renamed (origins : List String)
    (alike : Renamed request.urlPath request.html.urlPath (on world (application request))
      (on world (application request.html))) :
    Renamed request.urlPath request.html.urlPath
      (on world (Cors.around origins application request))
      (on world (Cors.around origins application request.html)) := by
  rw [on_around, on_around,
    show Cors.preflight? origins request.html = Cors.preflight? origins request from rfl]
  cases Cors.preflight? origins request with
  | some response => exact .refl _
  | none =>
    generalize on world (application request) = first at alike ⊢
    generalize on world (application request.html) = second at alike ⊢
    obtain ⟨result, after⟩ := first
    obtain ⟨result', after'⟩ := second
    obtain rfl : result = result' := alike.1
    cases result with
    | error fault => exact alike
    | ok response => exact ⟨rfl, alike.2⟩

end Layers

/-! ## Outcomes -/

/-- Two requests of which the second is the first, or asks for the second path of the page for whose
plain path the first asks. -/
inductive Aliases : Request → Request → Prop
  | same (request : Request) : Aliases request request
  | html {request : Request} : request.IsPlainPage → Aliases request request.html

/-- The outcomes of two requests with the stores after them: one answer and one store, with records
and events that differ at most in the path that the address of each request shows. -/
structure SameButPath (a b : Request) (x y : Server.Outcome × σ) : Prop where
  path : b.urlPath = a.urlPath ∨ b.urlPath = a.urlPath ++ ".html"
  response : x.1.response = y.1.response
  raised : x.1.raised = y.1.raised
  store : x.2 = y.2
  log : List.Forall₂ (RenamedRecord a.urlPath b.urlPath) x.1.log y.1.log
  events : List.Forall₂ (RenamedEvent a.urlPath b.urlPath) x.1.events y.1.events

namespace Server

theorem serve_html (server : Server σ) {request : Request} (page : request.IsPlainPage)
    (store : σ) :
    SameButPath request request.html (server.serve store request)
      (server.serve store request.html) := by
  have path := (urlPath_html page).imp id And.left
  have alike : Renamed request.urlPath request.html.urlPath
      (on ⟨store, [], []⟩ (server.layered request))
      (on ⟨store, [], []⟩ (server.layered request.html)) :=
    around_renamed server.origins (capture_renamed server.recorder page fun readable =>
      answer_renamed server page readable _)
  rw [serve_eq, serve_eq]
  generalize on ⟨store, [], []⟩ (server.layered request) = first at alike ⊢
  generalize on ⟨store, [], []⟩ (server.layered request.html) = second at alike ⊢
  obtain ⟨result, after⟩ := first
  obtain ⟨result', after'⟩ := second
  obtain ⟨rfl : result = result', alike⟩ := alike
  cases result with
  | ok response =>
    exact ⟨path, rfl, rfl, congrArg server.management.registry.settle alike.store, alike.log,
      alike.events⟩
  | error fault =>
    have answered := answerFault_renamed page alike fault 500
    simp only
    generalize on after (answerFault request fault 500) = first at answered ⊢
    generalize on after' (answerFault request.html fault 500) = second at answered ⊢
    obtain ⟨result, last⟩ := first
    obtain ⟨result', last'⟩ := second
    obtain ⟨rfl : result = result', alike⟩ := answered
    cases result <;>
      exact ⟨path, rfl, rfl, congrArg server.management.registry.settle alike.store, alike.log,
        alike.events⟩

theorem serve_aliases (server : Server σ) {a b : Request} (aliases : Aliases a b) (store : σ) :
    SameButPath a b (server.serve store a) (server.serve store b) := by
  cases aliases with
  | same =>
    exact ⟨.inl rfl, rfl, rfl, rfl, List.forall₂_same.mpr fun _ _ => .inl rfl,
      List.forall₂_same.mpr fun _ _ => .inl rfl⟩
  | html page => exact server.serve_html page store

/-- The two paths of a page are equivalent. Take two runs of a server from one store, with the same
requests but that some of the second run ask for the second path of a page and not for the plain
one. Each two requests are answered with the same response, let the same fault through and leave the
same store. The records and the events differ at most in the path that they name. -/
theorem run_sameButPath (server : Server σ) (store : σ) {requests others : List Request}
    (aliases : List.Forall₂ Aliases requests others) :
    List.Forall₂ (fun x y => SameButPath x.1 y.1 x.2 y.2)
      (requests.zip (server.run store requests)) (others.zip (server.run store others)) :=
  run_forall₂ server (fun _ _ aliases => server.serve_aliases aliases) SameButPath.store aliases
    store

/-- A reordering that cannot be saved and the end of a session, both by the second path, and then
the listing. -/
theorem run_sameButPath_unavailable :
    let memory := (Memory.ofEntries [newEntry 7 "u" "a"]).withFaults false (some 7)
    let form := Request.formPost "/updateRegisteredServiceEvaluationOrder" "id=7"
    let requests := [form, Request.get "/logout", Request.get "/getServices"]
    let others := [form.html, (Request.get "/logout").html, Request.get "/getServices"]
    let server := ofBackend .standard .memory "u" (some ⟨"ds", false⟩) []
    List.Forall₂ Aliases requests others ∧
      (requests.map Request.urlPath, others.map Request.urlPath) =
        (["/updateRegisteredServiceEvaluationOrder", "/logout", "/getServices"],
          ["/updateRegisteredServiceEvaluationOrder.html", "/logout.html", "/getServices"]) ∧
      ((server.run memory requests).map fun step => step.1.status?) =
        [some 500, some 200, some 200] ∧
      List.Forall₂ (fun x y => SameButPath x.1 y.1 x.2 y.2)
        (requests.zip (server.run memory requests)) (others.zip (server.run memory others)) := by
  intro memory form requests others server
  have aliases : List.Forall₂ Aliases requests others :=
    .cons (.html (show _ ∈ _ by decide)) (.cons (.html (show _ ∈ _ by decide))
      (.cons (.same _) .nil))
  exact ⟨aliases, by decide +kernel, by decide +kernel,
    run_sameButPath server memory aliases⟩

end Server

end ServiceRegistry.Http
