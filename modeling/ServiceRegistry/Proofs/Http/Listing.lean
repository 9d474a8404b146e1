import ServiceRegistry.Proofs.Http.Answer
import ServiceRegistry.Proofs.Http.Lockout
import ServiceRegistry.Proofs.Registry.Listing

/-!
# The listing, read back

Results:

* `natAbs_lt_of_storable`: a number of 64 bits can be printed and read back.
* `readDocument_listing_of_lt`, `readDocument_listing`: the document of a listing is read back.
* `Server.serve_listing`: the listing of a table whose search for the default address does not
  stop.
-/

namespace ServiceRegistry.Http

open Database (management ofRows ensured isStorable)
open Json (Fits)
open Run (on)

/-! ## Documents -/

theorem natAbs_lt_of_storable {n : Int} (fits : isStorable n = true) :
    n.natAbs < 10 ^ Number.digitLimit := by
  obtain ⟨low, high⟩ := Bool.and_eq_true_iff.mp fits
  have low : -0x8000000000000000 ≤ n := of_decide_eq_true low
  have high : n ≤ 0x7FFFFFFFFFFFFFFF := of_decide_eq_true high
  have small : n.natAbs < 10 ^ 19 := by omega
  exact Nat.lt_of_lt_of_le small (Nat.pow_le_pow_right (n := 10) (by decide) (by decide))

variable {digits depth : Nat}

theorem fits_ofText? (text : Option String) : Fits digits depth (.ofText? text) := by
  cases text with
  | none => exact .null
  | some text => exact .text text

theorem fits_projection {projection : Projection} (id : projection.id.natAbs < 10 ^ digits)
    (order : projection.evaluationOrder.natAbs < 10 ^ digits) :
    Fits digits (depth + 1) projection.toJson := by
  refine .object ?_ ?_
  · show (Field.all.map Field.key).Nodup
    decide
  · simp only [List.forall_mem_cons, List.not_mem_nil, false_implies, implies_true, and_true]
    exact ⟨.of_lt id, .text _, .text _, fits_ofText? _, fits_ofText? _, .of_lt order, .bool _,
      .bool _, .bool _, .bool _⟩

/-- The document of a listing, whose whole numbers are not too long, is read back. -/
theorem readDocument_listing_of_lt {listed : List Projection}
    (short : ∀ projection ∈ listed, projection.id.natAbs < 10 ^ Number.digitLimit ∧
      projection.evaluationOrder.natAbs < 10 ^ Number.digitLimit) :
    Json.readDocument (Text.utf8Encode (listingJson listed).printValue) =
      .ok (listingJson listed) := by
  have services : Fits Number.digitLimit (988 + 1) (.list (listed.map Projection.toJson)) := by
    refine .list fun item mem => ?_
    obtain ⟨projection, found, rfl⟩ := List.mem_map.mp mem
    obtain ⟨id, order⟩ := short projection found
    exact fits_projection id order
  have fits : Fits Number.digitLimit (988 + 1 + 1) (listingJson listed) :=
    .object (List.nodup_singleton _) (by simpa using services)
  exact Json.readDocument_print fits

/-- The document of a listing, whose whole numbers have 64 bits, is read back. -/
theorem readDocument_listing {listed : List Projection}
    (storable : ∀ projection ∈ listed, isStorable projection.id = true ∧
      isStorable projection.evaluationOrder = true) :
    Json.readDocument (Text.utf8Encode (listingJson listed).printValue) =
      .ok (listingJson listed) :=
  readDocument_listing_of_lt fun projection mem =>
    ⟨natAbs_lt_of_storable (storable projection mem).1,
      natAbs_lt_of_storable (storable projection mem).2⟩

/-! ## Requests -/

variable {url : String} {rows : List Entry} {request : Request}

theorem on_listing_of_projections {admits : Bool} {listed : List Projection}
    (search : anyAdmits url (inListingOrder rows) = .ok admits)
    (shown : listed.map Projection.entry = inListingOrder (ensured url rows))
    (log : List LogRecord) (events : List (String × Json)) :
    on ⟨ofRows rows, log, events⟩ (Application.listing (management url)) =
      (.ok (.json 200 (listingJson listed)),
        Database.committed (Database.defaultEnsured url ⟨ofRows rows, log, events⟩)) := by
  have search : anyAdmits url (inListingOrder (ofRows rows).working) = .ok admits := search
  have shown : (inListingOrder (ensured url (ofRows rows).working)).mapM Entry.project =
      .ok listed := mapM_project_eq_ok_iff.mpr shown
  rw [on_listing]
  simp only [search, shown]

/-- Where the search for the default address does not stop, the listing is answered 200 with the
projections of all rows, among which there is one for the default address. -/
theorem Server.serve_listing {admits : Bool} {listed : List Projection}
    (search : anyAdmits url (inListingOrder rows) = .ok admits)
    (shown : listed.map Projection.entry = inListingOrder (ensured url rows))
    (asks : request.Asks "GET" .listing) (readable : request.Readable)
    (platform : Form.Platform) (recorder : Option Audit.Recorder) (origins : List String) :
    let served := (ofDatabase platform url recorder origins).serve (ofRows rows) request
    served.1.status? = some 200 ∧
      served.1.body? = some (Text.utf8Encode (listingJson listed).printValue) ∧
      served.2 = ofRows (ensured url rows) := by
  intro served
  have question := preflight?_of_asks asks (by decide) origins
  have recorded := requestBody_of_asks asks (by decide)
  have dispatched : on ⟨ofRows rows, [], []⟩
      (Application.dispatch platform (Database.management url) request) =
      (.ok (Application.plain (.json 200 (listingJson listed))),
        Database.committed (Database.defaultEnsured url ⟨ofRows rows, [], []⟩)) := by
    rw [dispatch_of_asks asks (by decide), Application.serve, Run.on_bind,
      on_listing_of_projections search shown]
    rfl
  obtain ⟨response, stored⟩ := serve_replies (ofDatabase platform url recorder origins)
    question readable (fun _ => ⟨none, recorded⟩) dispatched (show 200 < 400 by decide)
  refine ⟨?_, ?_, ?_⟩
  · rw [Outcome.status?, response]
    rfl
  · rw [Outcome.body?, response]
    exact congrArg some (body_json 200 (listingJson listed))
  · rw [stored]
    simp [ofRows, Database.registry, Database.rollback]

end ServiceRegistry.Http
