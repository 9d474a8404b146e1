import ServiceRegistry.Proofs.Http.Layers
import ServiceRegistry.Proofs.Http.Submission

/-!
# What a request commits

A request on a database either succeeds with the status 200 and commits what its route says, or it
leaves the committed rows as they were.

Results:

* `Effect`: the rows that a request leaves when it succeeds.
* `on_manage`, `on_listing`, `on_delete`, `on_reorder`: the four pages, evaluated.
* `dispatch_ends`: every route commits its effect or nothing.
* `Server.serve_ends`: the same through all layers of the server.
* `Server.committed_by_status`: what each request leaves, by its method, its path and its status.
-/

namespace ServiceRegistry.Http

open Database (management ofRows ensured placed DistinctIds)
open Run (on)

/-- A server of a database. -/
abbrev Server.ofDatabase (platform : Form.Platform) (url : String)
    (recorder : Option Audit.Recorder) (origins : List String) : Server Database :=
  ⟨platform, Database.management url, recorder, origins⟩

/-! ## Effects -/

/-- The committed rows after a request that succeeded, by the rows before it. -/
inductive Effect (platform : Form.Platform) (url : String) (request : Request) (rows : List Entry) :
    List Entry → Prop
  | listed : request.Asks "GET" .listing → Effect platform url request rows (ensured url rows)
  | managed : request.Asks "GET" .manage → Effect platform url request rows (ensured url rows)
  | removed (id : Int) : request.Asks "POST" .delete → request.submittedId platform = .ok id →
      Effect platform url request rows (ensured url (Database.delete rows id))
  | reordered (ids : List Int) : request.Asks "POST" .reorder →
      request.submittedIds platform = .ok (some ids) →
      Effect platform url request rows (placed rows 0 ids)
  | untouched : ¬ request.Asks "GET" .listing → ¬ request.Asks "GET" .manage →
      ¬ request.Asks "POST" .delete → ¬ request.Asks "POST" .reorder →
      Effect platform url request rows rows

/-- A form that is posted to a path. -/
def Request.formPost (path body : String) : Request :=
  ⟨"POST", path, [], [("content-type", Audit.urlEncodedType)], Text.utf8Encode body.toList, none⟩

/-- Every page has two paths. -/
theorem ofPath?_pages : ∀ page ∈ Route.pages,
    Route.ofPath? page.1 = some page.2 ∧ Route.ofPath? (page.1 ++ ".html") = some page.2 := by
  decide +kernel

/-! ## Routes -/

/-- An operation that succeeds with certain committed rows, or fails and commits nothing. -/
def Commits (request : Request) (rows : List Entry) (committed : List Entry → Prop) :
    Except Fault Response × World Database → Prop
  | (.ok response, after) => response.status = 200 ∧ committed after.store.saved
  | (.error fault, after) =>
    fault.Expected (Form.positionLimit request) ∧ after.store.saved = rows

variable {platform : Form.Platform} {url : String} {request : Request} {rows : List Entry}
  {log : List LogRecord}
  {events : List (String × Json)}

theorem render_manage (url : String) : ∃ text,
    (View.manage url).render = .ok (.content 200 "text/html; charset=utf-8" text) :=
  ⟨_, rfl⟩

/-- The table of services ensures the default address and commits before it is shown. -/
theorem on_manage (world : World Database) (url : String) :
    on world (Application.manage (management url)) =
      match anyAdmits url (inListingOrder world.store.working) with
      | .error fault => (.error fault, world)
      | .ok _ => ((View.manage url).render,
          Database.committed (Database.defaultEnsured url world)) := by
  unfold Application.manage
  rw [Run.on_bind, Database.on_manageView]
  cases anyAdmits url (inListingOrder world.store.working) with
  | error fault => rfl
  | ok result => simp only [Run.on_bind, Database.on_commit, Run.on_lift]

theorem manage_commits :
    Commits request rows (· = ensured url rows)
      (on ⟨ofRows rows, log, events⟩ (Application.manage (management url))) := by
  rw [on_manage]
  cases search : anyAdmits url (inListingOrder (ofRows rows).working) with
  | error fault =>
    obtain ⟨cause, rfl⟩ := anyAdmits_stops search
    exact ⟨trivial, rfl⟩
  | ok result =>
    obtain ⟨text, shown⟩ := render_manage url
    simp only [shown]
    exact ⟨rfl, by simp [ofRows]⟩

/-- The listing ensures the default address, shows all rows and commits. -/
theorem on_listing (world : World Database) (url : String) :
    on world (Application.listing (management url)) =
      match anyAdmits url (inListingOrder world.store.working) with
      | .error fault => (.error fault, world)
      | .ok _ =>
        match (inListingOrder (ensured url world.store.working)).mapM Entry.project with
        | .error fault => (.error fault, Database.defaultEnsured url world)
        | .ok projections => (.ok (.json 200 (listingJson projections)),
            Database.committed (Database.defaultEnsured url world)) := by
  unfold Application.listing
  rw [Run.on_bind, Database.on_list]
  cases anyAdmits url (inListingOrder world.store.working) with
  | error fault => rfl
  | ok result =>
    cases (inListingOrder (ensured url world.store.working)).mapM Entry.project with
    | error fault => rfl
    | ok projections => simp only [Run.on_bind, Database.on_commit, Run.on_pure]

theorem listing_commits :
    Commits request rows (· = ensured url rows)
      (on ⟨ofRows rows, log, events⟩ (Application.listing (management url))) := by
  rw [on_listing]
  cases search : anyAdmits url (inListingOrder (ofRows rows).working) with
  | error fault =>
    obtain ⟨cause, rfl⟩ := anyAdmits_stops search
    exact ⟨trivial, rfl⟩
  | ok result =>
    simp only
    cases shown : (inListingOrder (ensured url (ofRows rows).working)).mapM Entry.project with
    | error fault =>
      obtain ⟨model, issues, rfl⟩ := mapM_project_stops shown
      exact ⟨trivial, by simp [ofRows]⟩
    | ok projections => exact ⟨rfl, by simp [ofRows]⟩

/-- A removal commits once the administration has removed the row. -/
theorem on_delete (platform : Form.Platform) (world : World Database) (url : String)
    (request : Request) :
    on world (Application.delete platform (management url) request) =
      match request.submittedId platform with
      | .error fault => (.error fault, world)
      | .ok id =>
        match on world ((management url).delete id) with
        | (.error fault, after) => (.error fault, after)
        | (.ok name, after) => (.ok (.json 200 (removedJson name)), Database.committed after) := by
  unfold Application.delete Request.submittedId
  rw [Run.on_bind, Run.on_lift]
  cases Form.fieldsOf platform request >>= Form.submittedId platform with
  | error fault => rfl
  | ok id =>
    simp only [Run.on_bind]
    rcases on world ((management url).delete id) with ⟨fault | name, after⟩ <;> rfl

/-- A reordering commits once the administration has given all positions. -/
theorem on_reorder (platform : Form.Platform) (world : World Database) (url : String)
    (request : Request) :
    on world (Application.reorder platform (management url) request) =
      match request.submittedIds platform with
      | .error fault => (.error fault, world)
      | .ok ids =>
        match on world ((management url).reorder ids) with
        | (.error fault, after) => (.error fault, after)
        | (.ok _, after) => (.ok (.blank 200), Database.committed after) := by
  unfold Application.reorder Request.submittedIds
  rw [Run.on_bind, Run.on_lift]
  cases Form.fieldsOf platform request >>= Form.submittedIds platform with
  | error fault => rfl
  | ok ids =>
    simp only [Run.on_bind]
    rcases on world ((management url).reorder ids) with ⟨fault | _, after⟩ <;> rfl

theorem delete_commits :
    Commits request rows (fun saved => ∃ id, request.submittedId platform = .ok id ∧
        saved = ensured url (Database.delete rows id))
      (on ⟨ofRows rows, log, events⟩ (Application.delete platform (management url) request)) := by
  rw [on_delete]
  cases submitted : request.submittedId platform with
  | error fault =>
    exact ⟨Request.submittedId_expected submitted, rfl⟩
  | ok id =>
    simp only [Database.on_delete]
    split_ifs with fits
    · cases found : Database.find (ofRows rows).working id with
      | none => exact ⟨trivial, rfl⟩
      | some row =>
        simp only
        cases search :
          anyAdmits url (inListingOrder (Database.delete (ofRows rows).working id)) with
        | error fault =>
          obtain ⟨cause, rfl⟩ := anyAdmits_stops search
          exact ⟨trivial, rfl⟩
        | ok result =>
          cases named : Management.removedName row with
          | error fault =>
            obtain ⟨model, issues, rfl⟩ := removedName_stops named
            exact ⟨trivial, by simp [ofRows]⟩
          | ok name => exact ⟨rfl, id, rfl, by simp [ofRows]⟩
    · exact ⟨trivial, rfl⟩

theorem reorder_commits (distinct : DistinctIds rows) :
    Commits request rows (fun saved => ∃ ids, request.submittedIds platform = .ok (some ids) ∧
        saved = placed rows 0 ids)
      (on ⟨ofRows rows, log, events⟩ (Application.reorder platform (management url) request)) := by
  rw [on_reorder]
  cases submitted : request.submittedIds platform with
  | error fault =>
    exact ⟨Request.submittedIds_expected submitted, rfl⟩
  | ok ids =>
    match ids with
    | none => exact ⟨trivial, rfl⟩
    | some [] => exact ⟨trivial, rfl⟩
    | some (first :: rest) =>
      have saved : (on ⟨ofRows rows, log, events⟩
          ((management url).placeFrom 0 (first :: rest))).2.store.saved = rows :=
        Database.placeFrom_saved distinct url 0 (first :: rest)
      simp only [Management.reorder]
      rcases moved : on ⟨ofRows rows, log, events⟩
        ((management url).placeFrom 0 (first :: rest)) with ⟨fault | _, after⟩
      · rw [moved] at saved
        rcases Database.placeFrom_stops distinct moved with rfl | ⟨id, -, rfl⟩ <;>
          exact ⟨trivial, saved⟩
      · obtain rfl := Database.placeFrom_ok distinct moved
        exact ⟨rfl, first :: rest, rfl, rfl⟩

/-! ## Requests -/

/-- How a request may end: it succeeds with its effect, or it does not and commits nothing. It may
be left without a status. -/
def Ends (platform : Form.Platform) (url : String) (request : Request) (rows : List Entry)
    (status : Option Nat) (saved : List Entry) : Prop :=
  (status = some 200 ∧ Effect platform url request rows saved) ∨
    (status ≠ some 200 ∧ saved = rows)

theorem Ends.of_error {status : Nat} (le : 400 ≤ status) :
    Ends platform url request rows (some status) rows :=
  .inr ⟨fun success => by cases success; omega, rfl⟩

/-- A request for a route that has no part in the registry has no effect. -/
theorem Effect.of_route {route : Route} (h : Route.ofPath? request.path = some route)
    (other : route ≠ .listing ∧ route ≠ .manage ∧ route ≠ .delete ∧ route ≠ .reorder) :
    Effect platform url request rows rows := by
  obtain ⟨listing, manage, delete, reorder⟩ := other
  refine .untouched ?_ ?_ ?_ ?_ <;> rintro ⟨-, path⟩ <;> rw [h] at path <;>
    obtain rfl := Option.some.inj path <;> contradiction

/-- How a reply or a fault of the application ends. -/
def ReplyEnds (platform : Form.Platform) (url : String) (request : Request) (rows : List Entry) :
    Except Fault Reply × World Database → Prop
  | (.ok reply, after) =>
    reply.response.status < 400 ∧
      Ends platform url request rows (some reply.response.status) after.store.saved
  | (.error fault, after) =>
    fault.Expected (Form.positionLimit request) ∧ after.store.saved = rows

theorem Commits.replyEnds {committed : List Entry → Prop} {operation : Run Database Response}
    {world : World Database} (h : Commits request rows committed (on world operation))
    (effect : ∀ saved, committed saved → Effect platform url request rows saved) :
    ReplyEnds platform url request rows (on world do return Application.plain (← operation)) := by
  rw [Run.on_bind]
  generalize on world operation = result at h
  rcases result with ⟨fault | response, after⟩
  · exact h
  · have success : (Application.plain response).response.status = 200 := h.1
    refine ⟨?_, .inl ⟨congrArg some success, effect _ h.2⟩⟩
    rw [success]
    decide

theorem serve_ends (distinct : DistinctIds rows) {route : Route}
    (path : Route.ofPath? request.path = some route) (method : request.method ∈ route.methods) :
    ReplyEnds platform url request rows (on ⟨ofRows rows, log, events⟩
      (Application.serve platform (management url) request route)) := by
  cases route with
  | health => exact ⟨show 200 < 400 by decide, .inl ⟨rfl, .of_route path (by simp)⟩⟩
  | authorizationFailure =>
    exact ⟨show 200 < 400 by decide, .inl ⟨rfl, .of_route path (by simp)⟩⟩
  | logout => exact ⟨show 200 < 400 by decide, .inl ⟨rfl, .of_route path (by simp)⟩⟩
  | documentation => exact ⟨show 200 < 400 by decide, .inl ⟨rfl, .of_route path (by simp)⟩⟩
  | delete =>
    have asks : request.Asks "POST" .delete := ⟨List.mem_singleton.mp method, path⟩
    refine delete_commits.replyEnds ?_
    rintro _ ⟨id, submitted, rfl⟩
    exact .removed id asks submitted
  | manage =>
    have asks : request.Asks "GET" .manage := ⟨List.mem_singleton.mp method, path⟩
    refine manage_commits.replyEnds ?_
    rintro _ rfl
    exact .managed asks
  | listing =>
    have asks : request.Asks "GET" .listing := ⟨List.mem_singleton.mp method, path⟩
    refine listing_commits.replyEnds ?_
    rintro _ rfl
    exact .listed asks
  | reorder =>
    have asks : request.Asks "POST" .reorder := ⟨List.mem_singleton.mp method, path⟩
    refine (reorder_commits distinct).replyEnds ?_
    rintro _ ⟨ids, submitted, rfl⟩
    exact .reordered ids asks submitted

theorem dispatch_ends (distinct : DistinctIds rows) (platform : Form.Platform) (url : String)
    (request : Request) (log : List LogRecord) (events : List (String × Json)) :
    ReplyEnds platform url request rows
      (on ⟨ofRows rows, log, events⟩ (Application.dispatch platform (management url) request)) := by
  unfold Application.dispatch
  cases path : Route.ofPath? request.path with
  | some route =>
    simp only
    split_ifs with method
    · exact serve_ends distinct path (List.contains_iff_mem.mp method)
    · exact ⟨⟨by decide, by decide⟩, rfl⟩
  | none =>
    simp only
    cases slashTwin? request.path with
    | some twin =>
      rw [Run.on_bind, Run.on_lift]
      cases located : request.location twin with
      | error fault =>
        obtain ⟨cause, rfl⟩ := Request.location_stops located
        exact ⟨trivial, rfl⟩
      | ok location =>
        exact ⟨show 307 < 400 by decide, .inr ⟨show some 307 ≠ some 200 by decide, rfl⟩⟩
    | none => exact ⟨⟨by decide, by decide⟩, rfl⟩

/-! ## Layers -/

/-- How a response ends, or a fault that no layer answered so far. -/
def ResponseEnds (platform : Form.Platform) (url : String) (request : Request)
    (rows : List Entry) : Except Fault Response × World Database → Prop
  | (.ok response, after) =>
    Ends platform url request rows (some response.status) after.store.saved
  | (.error _, after) => after.store.saved = rows

theorem answer_ends (distinct : DistinctIds rows) (readable : request.Readable)
    (platform : Form.Platform) (url : String) (log : List LogRecord)
    (events : List (String × Json)) (recorder : Option Audit.Recorder) (origins : List String) :
    ResponseEnds platform url request rows (on ⟨ofRows rows, log, events⟩
      ((Server.ofDatabase platform url recorder origins).answer request)) := by
  rw [Server.on_answer _ readable]
  have ends := dispatch_ends distinct platform url request log events
  generalize on ⟨ofRows rows, log, events⟩
    (Application.dispatch platform (management url) request) = result at ends ⊢
  rcases result with ⟨fault | reply, after⟩
  · obtain ⟨expected, rfl⟩ := ends
    have fails := expected.fails.1
    cases answered : fault.status? with
    | none =>
      simp only [answered]
      rfl
    | some status =>
      rw [answered] at fails
      simp only [answered]
      cases document : faultAnswer request fault status with
      | error cause => rfl
      | ok response =>
        rw [← status_of_faultAnswer document] at fails
        exact Ends.of_error fails
  · simpa [ResponseEnds] using ends.2

/-- A question whether a request will be allowed has no effect. -/
theorem Effect.of_preflight {origins : List String} {response : Response}
    (h : Cors.preflight? origins request = some response) :
    Effect platform url request rows rows := by
  have method : request.method = "OPTIONS" := by
    simp only [Cors.preflight?, Option.bind_eq_bind, Option.bind_eq_some_iff] at h
    obtain ⟨_, -, _, -, h⟩ := h
    split_ifs at h with method
    exact beq_iff_eq.mp method
  refine .untouched ?_ ?_ ?_ ?_ <;> rintro ⟨other, -⟩ <;> rw [method] at other <;>
    exact absurd other (by decide)

theorem observe_ends {application : Request → Run Database Response} {recorder : Audit.Recorder}
    (h : ResponseEnds platform url request rows
      (on ⟨ofRows rows, log, events⟩ (application request))) :
    ResponseEnds platform url request rows
      (on ⟨ofRows rows, log, events⟩ (Audit.observe recorder application request)) := by
  rw [on_observe]
  cases Audit.requestBody request with
  | error fault => rfl
  | ok body =>
    generalize on ⟨ofRows rows, log, events⟩ (application request) = result at h
    rcases result with ⟨fault | response, after⟩
    · simpa [ResponseEnds] using h
    · simp only
      split_ifs with success
      · simpa [ResponseEnds] using h
      · cases Audit.errorOf response.body with
        | ok reason => simpa [ResponseEnds, Audit.rebuild] using h
        | error fault =>
          rcases h with ⟨ok, -⟩ | ⟨-, saved⟩
          · exact absurd (Option.some.inj ok) (by omega)
          · simpa [ResponseEnds] using saved

theorem capture_ends {application : Request → Run Database Response}
    (h : request.Readable → ResponseEnds platform url request rows
      (on ⟨ofRows rows, log, events⟩ (application request)))
    (recorder : Option Audit.Recorder) :
    ResponseEnds platform url request rows
      (on ⟨ofRows rows, log, events⟩ (Audit.capture recorder application request)) := by
  rcases request.readable_or with readable | ⟨fault, unread⟩
  · rw [capture_eq readable]
    cases recorder with
    | none => exact h readable
    | some recorder =>
      simp only
      split_ifs
      · exact h readable
      · exact observe_ends (h readable)
  · rw [on_capture_unread unread]
    rfl

theorem layered_ends (distinct : DistinctIds rows) (platform : Form.Platform) (url : String)
    (request : Request) (log : List LogRecord) (events : List (String × Json))
    (recorder : Option Audit.Recorder) (origins : List String) :
    ResponseEnds platform url request rows (on ⟨ofRows rows, log, events⟩
      ((Server.ofDatabase platform url recorder origins).layered request)) := by
  rw [Server.layered_eq, on_around]
  cases question : Cors.preflight? origins request with
  | some response =>
    by_cases success : response.status = 200
    · exact .inl ⟨congrArg some success, .of_preflight question⟩
    · exact .inr ⟨fun same => success (Option.some.inj same), rfl⟩
  | none =>
    have inner := capture_ends
      (fun readable : request.Readable =>
        answer_ends distinct readable platform url log events recorder origins)
      recorder
    generalize on ⟨ofRows rows, log, events⟩ (Audit.capture recorder _ request) = result
      at inner ⊢
    rcases result with ⟨fault | response, after⟩
    · exact inner
    · exact inner

/-- A request on a table ends with its effect and the status 200, or with another status or none and
the table as it was. -/
theorem Server.serve_ends (distinct : DistinctIds rows) (platform : Form.Platform) (url : String)
    (request : Request) (recorder : Option Audit.Recorder) (origins : List String) :
    let served := (Server.ofDatabase platform url recorder origins).serve (ofRows rows) request
    Ends platform url request rows served.1.status? served.2.saved := by
  intro served
  have ends := layered_ends distinct platform url request [] [] recorder origins
  rcases layered : on ⟨ofRows rows, [], []⟩
    ((Server.ofDatabase platform url recorder origins).layered request) with
    ⟨fault | response, after⟩
  · rw [layered] at ends
    obtain ⟨status, kept⟩ :
        (served.1.status? = none ∨ served.1.status? = some 500) ∧ served.2 = after.store.rollback :=
      Server.serve_of_fault layered
    have saved : served.2.saved = rows := (congrArg Database.saved kept).trans ends
    rcases status with unanswered | failed
    · rw [unanswered, saved]
      exact .inr ⟨nofun, rfl⟩
    · rw [failed, saved]
      exact Ends.of_error (by decide)
  · rw [layered] at ends
    rw [show served = _ from Server.serve_of_ok layered]
    exact ends

/-- A session that ends keeps what was committed and nothing else. -/
theorem Server.serve_ofRows (platform : Form.Platform) (url : String) (request : Request)
    (recorder : Option Audit.Recorder) (origins : List String) (database : Database) :
    let served := (Server.ofDatabase platform url recorder origins).serve database request
    served.2 = ofRows served.2.saved := by
  intro served
  rw [show served = _ from serve_eq ..]
  generalize on ⟨database, [], []⟩
    ((Server.ofDatabase platform url recorder origins).layered request) = result
  rcases result with ⟨fault | response, after⟩
  · simp only
    rcases on after (answerFault request fault 500) with ⟨cause | response, last⟩ <;> rfl
  · rfl

/-- A request is all or nothing. If it is not answered 200, or not at all, the table stays as it
was. If it is answered 200, the listing and the table of services leave the default address
registered, a removal leaves it registered in the table without the row of the submitted id, the
submitted ids get their positions from left to right, and every other request leaves the table as it
was. -/
theorem Server.committed_by_status (platform : Form.Platform) (distinct : DistinctIds rows)
    (recorder : Option Audit.Recorder) (origins : List String) :
    let result := (Server.ofDatabase platform url recorder origins).serve (ofRows rows) request
    result.2 = ofRows result.2.saved ∧
    (result.1.status? ≠ some 200 → result.2.saved = rows) ∧
    (result.1.status? = some 200 →
      (request.Asks "GET" .listing ∨ request.Asks "GET" .manage →
        result.2.saved = ensured url rows) ∧
      (request.Asks "POST" .delete → ∃ id, request.submittedId platform = .ok id ∧
        result.2.saved = ensured url (Database.delete rows id)) ∧
      (request.Asks "POST" .reorder → ∃ ids, request.submittedIds platform = .ok (some ids) ∧
        result.2.saved = placed rows 0 ids) ∧
      (¬ request.Asks "GET" .listing → ¬ request.Asks "GET" .manage →
        ¬ request.Asks "POST" .delete → ¬ request.Asks "POST" .reorder →
        result.2.saved = rows)) := by
  have closed := serve_ofRows platform url request recorder origins (ofRows rows)
  have ends := serve_ends distinct platform url request recorder origins
  generalize (ofDatabase platform url recorder origins).serve (ofRows rows) request = result
    at closed ends ⊢
  refine ⟨closed, ?_⟩
  rcases ends with ⟨success, effect⟩ | ⟨failure, same⟩
  · refine ⟨fun failure => absurd success failure, fun _ => ?_⟩
    generalize result.2.saved = saved at effect ⊢
    cases effect with
    | listed asks =>
      refine ⟨fun _ => rfl, fun other => ?_, fun other => ?_, fun none => absurd asks none⟩ <;>
        cases asks.unique other
    | managed asks =>
      refine ⟨fun _ => rfl, fun other => ?_, fun other => ?_, fun _ none => absurd asks none⟩ <;>
        cases asks.unique other
    | removed id asks submitted =>
      refine ⟨?_, fun _ => ⟨id, submitted, rfl⟩, fun other => ?_, fun _ _ none => absurd asks none⟩
      · rintro (other | other) <;> cases asks.unique other
      · cases asks.unique other
    | reordered ids asks submitted =>
      refine ⟨?_, fun other => ?_, fun _ => ⟨ids, submitted, rfl⟩,
        fun _ _ _ none => absurd asks none⟩
      · rintro (other | other) <;> cases asks.unique other
      · cases asks.unique other
    | untouched listing manage delete reorder =>
      refine ⟨?_, fun asks => absurd asks delete, fun asks => absurd asks reorder,
        fun _ _ _ _ => rfl⟩
      rintro (asks | asks)
      · exact absurd asks listing
      · exact absurd asks manage
  · exact ⟨fun _ => same, fun success => absurd success failure⟩

/-- The last row that admits the default address is removed, and the address gets a row of its
own. -/
theorem Server.committed_by_status_removal :
    let rows := [newEntry 7 "u" "a", newEntry 9 "v" "b"]
    let request := Request.formPost "/deleteRegisteredService" "id=7"
    let result := (Server.ofDatabase .standard "u" none []).serve (ofRows rows) request
    DistinctIds rows ∧ result.1.status? = some 200 ∧
      (∃ id, request.submittedId .standard = .ok id ∧
        result.2.saved = ensured "u" (Database.delete rows id)) ∧
      result.2.saved = [newEntry 9 "v" "b", newEntry 10 "u" Management.defaultName] := by
  intro rows request result
  have distinct : DistinctIds rows := by decide
  have success : result.1.status? = some 200 := by decide +kernel
  have asks : request.Asks "POST" .delete := ⟨rfl, by decide +kernel⟩
  exact ⟨distinct, success,
    ((committed_by_status .standard distinct none []).2.2 success).2.1 asks, by decide +kernel⟩

end ServiceRegistry.Http
