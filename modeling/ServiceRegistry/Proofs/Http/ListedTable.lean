import ServiceRegistry.Proofs.Http.Listing
import ServiceRegistry.Proofs.Registry.Stored

/-!
# The listing is the committed table

A listing may register the default address before it shows the rows. What it shows is the table that
it commits: every row once, with all its fields, at its place in the strict order of a listing. The
next listing finds the address registered, so it shows the same.

Results:

* `exists_search_ensured`: a search that did not stop does not stop after the address was
  registered.
* `readDocument_listed`: the document of the rows of a table with the default address is read back.
* `Server.search_of_success`: no pattern stopped the search for a page that is answered 200.
* `Server.listing_shows_table`: the document of a listing has the rows that are committed after it,
  and a second listing has the same bytes.
-/

namespace ServiceRegistry.Http

open Database (ofRows ensured isStorable IsTable)
open Run (on)

variable {url : String} {rows : List Entry}

/-! ## The table with the default address -/

theorem ensured_ensured (nonempty : url ≠ "") (rows : List Entry) :
    ensured url (ensured url rows) = ensured url rows :=
  if_pos (Database.admitted_ensured nonempty rows)

/-- A search that did not stop does not stop after the address was registered: either nothing has
changed, or no row admitted the address, and so none stopped the search. -/
theorem exists_search_ensured (nonempty : url ≠ "") {admits : Bool}
    (search : anyAdmits url (inListingOrder rows) = .ok admits) :
    ∃ admits, anyAdmits url (inListingOrder (ensured url rows)) = .ok admits := by
  have means := anyAdmits_inListingOrder search
  by_cases admitted : Admitted url rows
  · rw [ensured, if_pos admitted]
    exact ⟨admits, search⟩
  · rw [decide_eq_false admitted] at means
    rw [means] at search
    have refuses := anyAdmits_eq_false_iff.mp search
    refine ⟨_, anyAdmits_of_readable fun row mem => ?_⟩
    rw [mem_inListingOrder, ensured, if_neg admitted, Database.withDefault] at mem
    rcases List.mem_append.mp mem with mem | mem
    · exact ⟨false, refuses row (mem_inListingOrder.mpr mem)⟩
    · obtain rfl := List.mem_singleton.mp mem
      exact ⟨true, admits_newEntry nonempty _ _⟩

/-- The numbers of a table with the default address are not too long to be read back. -/
theorem natAbs_lt_of_mem_ensured (stored : ∀ row ∈ rows, row.Stored) {row : Entry}
    (mem : row ∈ ensured url rows) :
    row.id.natAbs < 10 ^ Number.digitLimit ∧
      row.evaluationOrder.natAbs < 10 ^ Number.digitLimit := by
  have old {row : Entry} (mem : row ∈ rows) : row.id.natAbs < 10 ^ Number.digitLimit ∧
      row.evaluationOrder.natAbs < 10 ^ Number.digitLimit := by
    obtain ⟨id, order, -⟩ := stored row mem
    exact ⟨natAbs_lt_of_storable id, natAbs_lt_of_storable order⟩
  unfold ensured Database.withDefault at mem
  split_ifs at mem
  · exact old mem
  · rcases List.mem_append.mp mem with mem | mem
    · exact old mem
    · obtain rfl := List.mem_singleton.mp mem
      obtain ⟨low, high⟩ := Database.nextId_mem_Icc fun row mem => (stored row mem).1
      have short : (Database.nextId rows).natAbs < 10 ^ 19 := by omega
      exact ⟨Nat.lt_of_lt_of_le short (Nat.pow_le_pow_right (n := 10) (by decide) (by decide)),
        Nat.pow_pos (by decide)⟩

/-- The document of the rows of a table with the default address is read back. -/
theorem readDocument_listed (stored : ∀ row ∈ rows, row.Stored) {listed : List Projection}
    (shown : listed.map Projection.entry = inListingOrder (ensured url rows)) :
    Json.readDocument (Text.utf8Encode (listingJson listed).printValue) =
      .ok (.object [("services",
        .list ((inListingOrder (ensured url rows)).map Entry.document))]) := by
  rw [← listingJson_eq shown]
  refine readDocument_listing_of_lt fun projection mem => ?_
  have found : projection.entry ∈ ensured url rows := by
    rw [← mem_inListingOrder, ← shown]
    exact List.mem_map_of_mem mem
  exact natAbs_lt_of_mem_ensured stored found

/-! ## Two listings -/

/-- A page that is answered 200 was not stopped by a pattern. -/
theorem Server.search_of_success (nonempty : url ≠ "") (complete : ∀ row ∈ rows, row.Complete)
    {request : Request} (page : request.AsksPage) (readable : request.Readable)
    {platform : Form.Platform} {recorder : Option Audit.Recorder} {origins : List String}
    (success : ((ofDatabase platform url recorder origins).serve (ofRows rows) request).1.status? =
      some 200) :
    ∃ admits, anyAdmits url (inListingOrder rows) = .ok admits := by
  obtain ⟨route, asks⟩ := page.exists_route
  have question := preflight?_of_asks asks (by decide) origins
  have recorded := requestBody_of_asks asks (by decide)
  have shows := page_shows platform nonempty complete page readable [] [] recorder origins
  rcases answered : on ⟨ofRows rows, [], []⟩
    ((ofDatabase platform url recorder origins).answer request) with ⟨fault | response, after⟩
  · rw [answered] at shows
    obtain ⟨cause, -, rfl⟩ := anyAdmits_eq_error nonempty shows.1
    obtain ⟨⟨respond, -⟩, -⟩ := serve_of_answer (ofDatabase platform url recorder origins)
      question readable recorded answered ⟨rfl, nofun⟩
    rw [Outcome.status?, respond, Option.map_some, status_faultResponse] at success
    cases success
  · rw [answered] at shows
    exact shows.1

/-- A listing of a table that is answered 200 has the document of the rows that are committed after
it, in strict order and each once. A second listing leaves the table as it is, and it is answered
with the same bytes if its address can be read. -/
theorem Server.listing_shows_table (platform : Form.Platform) (nonempty : url ≠ "")
    (table : IsTable rows) {first second : Request} (asks : first.Asks "GET" .listing)
    (asksAgain : second.Asks "GET" .listing) (recorder : Option Audit.Recorder)
    (origins : List String) :
    let server := ofDatabase platform url recorder origins
    let served := server.serve (ofRows rows) first
    let repeated := server.serve served.2 second
    served.1.status? = some 200 →
      (∃ (body : List UInt8) (listed : List Entry), served.1.body? = some body ∧
        listed.Perm served.2.saved ∧ listed.Pairwise Entry.Precedes ∧
        Json.readDocument body =
          .ok (.object [("services", .list (listed.map Entry.document))])) ∧
      (second.Readable →
        repeated.1.status? = some 200 ∧ repeated.1.body? = served.1.body?) ∧
      repeated.2 = served.2 := by
  intro server served repeated success
  have complete : ∀ row ∈ rows, row.Complete := fun row mem => (table.stored row mem).2.2
  have question := preflight?_of_asks asks (by decide) origins
  have questionAgain := preflight?_of_asks asksAgain (by decide) origins
  have readable : first.Readable := server.readable_of_status? question success
  obtain ⟨admits, search⟩ := search_of_success nonempty complete (.inr asks) readable success
  obtain ⟨listed, projected⟩ := mapM_project_of_complete fun row mem =>
    complete_ensured complete url row (mem_inListingOrder.mp mem)
  have shown := mapM_project_eq_ok_iff.mp projected
  obtain ⟨body, kept⟩ : served.1.body? = some (Text.utf8Encode (listingJson listed).printValue) ∧
      served.2 = ofRows (ensured url rows) :=
    (serve_listing search shown asks readable platform recorder origins).2
  have again : repeated = server.serve (ofRows (ensured url rows)) second := by
    rw [← kept]
  refine ⟨⟨_, inListingOrder (ensured url rows), body, ?_, ?_, ?_⟩, ?_⟩
  · rw [kept]
    exact inListingOrder_perm _
  · exact inListingOrder_precedes (Database.distinctIds_ensured table.distinct url)
  · exact readDocument_listed table.stored shown
  rw [again, kept]
  rcases second.readable_or with readableAgain | ⟨fault, unread⟩
  · obtain ⟨admitsAgain, searchAgain⟩ := exists_search_ensured nonempty search
    obtain ⟨successAgain, bodyAgain, keptAgain⟩ := serve_listing searchAgain
      ((ensured_ensured nonempty rows).symm ▸ shown) asksAgain readableAgain platform recorder
      origins
    exact ⟨fun _ => ⟨successAgain, bodyAgain.trans body.symm⟩,
      keptAgain.trans (congrArg ofRows (ensured_ensured nonempty rows))⟩
  · refine ⟨fun readableAgain => absurd readableAgain (Request.not_readable unread), ?_⟩
    rw [serve_unread server (ofRows (ensured url rows)) questionAgain unread]
    rfl

/-- The two rows have one position, so they are shown by their ids, and the address is registered
before them. -/
theorem Server.listing_shows_table_ties :
    let rows : List Entry := [⟨5, some "a", some "n", none, none, 1, true, true, false, false⟩,
      ⟨3, some "b", some "m", some "\"", none, 1, true, false, true, false⟩]
    let request := Request.get "/getServices"
    let server := ofDatabase .standard "u" none []
    let served := server.serve (ofRows rows) request
    "u" ≠ "" ∧ IsTable rows ∧ request.Asks "GET" .listing ∧ served.1.status? = some 200 ∧
      (∃ (body : List UInt8) (listed : List Entry), served.1.body? = some body ∧
        listed.Perm served.2.saved ∧ listed.Pairwise Entry.Precedes ∧
        Json.readDocument body =
          .ok (.object [("services", .list (listed.map Entry.document))])) ∧
      (server.serve served.2 request).1.body? = served.1.body? ∧
      (server.serve served.2 request).2 = served.2 := by
  intro rows request
  have nonempty : "u" ≠ "" := by decide
  have table : IsTable rows := ⟨by decide, by decide⟩
  have asks : request.Asks "GET" .listing := ⟨rfl, by decide +kernel⟩
  have readable : request.Readable := by decide +kernel
  have answers : ∀ row ∈ inListingOrder rows, ∃ admits, row.admits "u" = .ok admits := by
    intro row mem
    rcases List.mem_pair.mp (mem_inListingOrder.mp mem) with rfl | rfl <;> exact ⟨false, rfl⟩
  obtain ⟨listed, projected⟩ := mapM_project_of_complete fun row mem =>
    complete_ensured (fun row mem => (table.stored row mem).2.2) "u" row
      (mem_inListingOrder.mp mem)
  have success := (Server.serve_listing (anyAdmits_of_readable answers)
    (mapM_project_eq_ok_iff.mp projected) asks readable .standard none []).1
  have shows := Server.listing_shows_table .standard nonempty table asks asks none [] success
  exact ⟨nonempty, table, asks, success, shows.1, (shows.2.1 readable).2, shows.2.2⟩

end ServiceRegistry.Http
