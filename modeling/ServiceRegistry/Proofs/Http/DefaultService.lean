import ServiceRegistry.Proofs.Http.Commit

/-!
# The default address stays registered

The administration is reached through the default address, so some row must admit it. No request
takes that away, and each listing, table of services and removal brings it about.

Results:

* `Effect.admitted`: no effect of a request takes the admission of the default address away.
* `Server.run_keeps_admitted`: the same for every request of a run, with what the requests for
  three of the routes bring about.
-/

namespace ServiceRegistry.Http

open Database (ofRows ensured DistinctIds)

variable {platform : Form.Platform} {url : String} {request : Request} {rows after : List Entry}

/-- The requests after which the default address is registered, whatever was before. -/
def Request.Restores (request : Request) : Prop :=
  request.Asks "GET" .listing ∨ request.Asks "GET" .manage ∨ request.Asks "POST" .delete

/-! ## Effects -/

theorem Effect.distinctIds (effect : Effect platform url request rows after)
    (distinct : DistinctIds rows) : DistinctIds after := by
  cases effect with
  | listed | managed => exact Database.distinctIds_ensured distinct url
  | removed id => exact Database.distinctIds_ensured (Database.distinctIds_delete distinct id) url
  | reordered ids => exact Database.distinctIds_placed distinct 0 ids
  | untouched => exact distinct

/-- A removal may take the last row that admits the default address, which then gets a row of its
own; positions have no part in admission. -/
theorem Effect.admitted (nonempty : url ≠ "") (effect : Effect platform url request rows after)
    (h : Admitted url rows) : Admitted url after := by
  cases effect with
  | listed | managed => exact Database.admitted_ensured nonempty rows
  | removed id => exact Database.admitted_ensured nonempty (Database.delete rows id)
  | reordered ids => exact Database.admitted_placed 0 ids h
  | untouched => exact h

theorem Effect.restores (nonempty : url ≠ "") (effect : Effect platform url request rows after)
    (h : request.Restores) : Admitted url after := by
  cases effect with
  | listed | managed => exact Database.admitted_ensured nonempty rows
  | removed id => exact Database.admitted_ensured nonempty (Database.delete rows id)
  | reordered ids asks =>
    rcases h with other | other | other <;> cases asks.unique other
  | untouched listing manage delete =>
    rcases h with asks | asks | asks
    · exact absurd asks listing
    · exact absurd asks manage
    · exact absurd asks delete

/-! ## Runs -/

namespace Server

/-- One request keeps ids distinct and the default address admitted. -/
theorem serve_keeps (platform : Form.Platform) (nonempty : url ≠ "") (distinct : DistinctIds rows)
    (recorder : Option Audit.Recorder) (origins : List String) (request : Request) :
    let result := (ofDatabase platform url recorder origins).serve (ofRows rows) request
    DistinctIds result.2.saved ∧
      (Admitted url rows → Admitted url result.2.saved) ∧
      (result.1.status? = some 200 → request.Restores → Admitted url result.2.saved) := by
  intro result
  rcases serve_ends distinct platform url request recorder origins with
    ⟨-, effect⟩ | ⟨failure, same⟩
  · exact ⟨effect.distinctIds distinct, effect.admitted nonempty,
      fun _ restores => effect.restores nonempty restores⟩
  · have same : result.2.saved = rows := same
    rw [same]
    exact ⟨distinct, id, fun success => absurd success failure⟩

/-- In a run of requests, a table in which some row admits the default address is never followed by
one in which none does, whatever the request was and however it ended. After every listing, table
of services and removal that is answered 200 some row admits the default address, even if none did
before. -/
theorem run_keeps_admitted (platform : Form.Platform) (nonempty : url ≠ "")
    (distinct : DistinctIds rows) (recorder : Option Audit.Recorder) (origins : List String)
    (requests : List Request) :
    let steps := (ofDatabase platform url recorder origins).run (ofRows rows) requests
    (rows :: steps.map fun step => step.2.saved).IsChain
        (fun before after => Admitted url before → Admitted url after) ∧
      ∀ step ∈ requests.zip steps, step.2.1.status? = some 200 → step.1.Restores →
        Admitted url step.2.2.saved := by
  -- The invariant of the induction is that ids are distinct and the session is closed.
  induction requests generalizing rows with
  | nil => exact ⟨.singleton rows, fun _ mem => by cases mem⟩
  | cons request rest ih =>
    obtain ⟨distinct', keeps, restores⟩ :=
      serve_keeps platform nonempty distinct recorder origins request
    have closed := serve_ofRows platform url request recorder origins (ofRows rows)
    rw [run]
    generalize (ofDatabase platform url recorder origins).serve (ofRows rows) request = result
      at distinct' keeps restores closed ⊢
    obtain ⟨chain, answers⟩ := ih distinct'
    rw [← closed] at chain answers
    refine ⟨.cons_cons keeps chain, fun step mem => ?_⟩
    rcases List.mem_cons.mp mem with rfl | mem
    · exact restores
    · exact answers step mem

/-- A run in which the last row that admits the address is removed, the rest is reordered and a
removal fails. -/
theorem run_keeps_admitted_removal :
    let rows := [newEntry 7 "u" "a", newEntry 9 "v" "b"]
    let requests := [Request.formPost "/deleteRegisteredService" "id=7",
      Request.formPost "/updateRegisteredServiceEvaluationOrder" "id=10&id=9",
      Request.formPost "/deleteRegisteredService.html" "id=8"]
    let steps := (ofDatabase .standard "u" none []).run (ofRows rows) requests
    "u" ≠ "" ∧ DistinctIds rows ∧
      (rows :: steps.map fun step => step.2.saved).IsChain
        (fun before after => Admitted "u" before → Admitted "u" after) ∧
      ∀ step ∈ requests.zip steps, step.2.1.status? = some 200 → step.1.Restores →
        Admitted "u" step.2.2.saved :=
  ⟨by decide, by decide, run_keeps_admitted .standard (by decide) (by decide) none [] _⟩

end Server

end ServiceRegistry.Http
