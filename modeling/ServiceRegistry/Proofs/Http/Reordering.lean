import ServiceRegistry.Proofs.Form.Ids
import ServiceRegistry.Proofs.Http.Listing
import ServiceRegistry.Proofs.Http.Transparency

/-!
# Reordering a table, from the form to the listing

Results:

* `exists_requestBody_of_urlEncoded`: a form in the encoding of addresses can be recorded.
* `Server.serve_reorder`: submitted ids of the table come to their positions.
* `Server.listing_of_reordered`: after all ids of a table were submitted in some order, the listing
  has the rows in this order.
-/

namespace ServiceRegistry.Http

open Database (management ofRows ensured placed isStorable DistinctIds)
open Run (on)

variable {platform : Form.Platform} {url : String} {rows : List Entry} {request : Request}

/-- A form in the encoding of addresses can be recorded, whatever its body is. -/
theorem exists_requestBody_of_urlEncoded
    (type : header? "content-type" request.headers = some Audit.urlEncodedType) :
    ∃ body, Audit.requestBody request = .ok body := by
  cases recorded : Audit.requestBody request with
  | ok body => exact ⟨body, rfl⟩
  | error fault =>
    obtain ⟨-, -, other, -⟩ := unrecordable_of_requestBody recorded
    rw [type] at other
    exact absurd (show Audit.startsWith Audit.urlEncodedType Audit.urlEncodedType = true by decide)
      other

/-! ## The request that reorders -/

theorem on_reorder_known (distinct : DistinctIds rows) {ids : List Int} (nonempty : ids ≠ [])
    (known : ∀ id ∈ ids, id ∈ rows.map Entry.id ∧ isStorable id = true)
    (room : ids.length ≤ 2 ^ 63) (submitted : request.submittedIds platform = .ok (some ids))
    (log : List LogRecord) (events : List (String × Json)) :
    on ⟨ofRows rows, log, events⟩ (Application.reorder platform (management url) request) =
      (.ok (.blank 200), ⟨ofRows (placed rows 0 ids), log, events⟩) := by
  let world : World Database := ⟨ofRows rows, log, events⟩
  have distinct : DistinctIds world.store.working := distinct
  have placing : on world ((management url).placeFrom 0 (ids ++ [])) =
      (.ok (), Database.withRows world (placed rows 0 ids)) :=
    Database.on_placeFrom_append distinct url 0 known (by omega) []
  rw [List.append_nil] at placing
  rw [on_reorder, submitted]
  simp only [Database.reorder_of_ne_nil _ nonempty]
  rw [placing]
  simp [world, Database.committed, Database.commit, Database.withRows, ofRows]

/-- Submitted ids of the table come to their positions, and the answer is 200 without a body. -/
theorem Server.serve_reorder (distinct : DistinctIds rows) {ids : List Int} (nonempty : ids ≠ [])
    (known : ∀ id ∈ ids, id ∈ rows.map Entry.id ∧ isStorable id = true)
    (room : ids.length ≤ 2 ^ 63) (asks : request.Asks "POST" .reorder) (readable : request.Readable)
    (submitted : request.submittedIds platform = .ok (some ids))
    {recorder : Option Audit.Recorder} (recordable : isCaptured recorder request = true →
      ∃ body, Audit.requestBody request = .ok body) (origins : List String) :
    let served := (ofDatabase platform url recorder origins).serve (ofRows rows) request
    served.1.status? = some 200 ∧ served.1.body? = some [] ∧
      served.2 = ofRows (placed rows 0 ids) := by
  intro served
  have question := preflight?_of_asks asks (by decide) origins
  have dispatched : on ⟨ofRows rows, [], []⟩
      (Application.dispatch platform (Database.management url) request) =
      (.ok (Application.plain (.blank 200)), ⟨ofRows (placed rows 0 ids), [], []⟩) := by
    rw [dispatch_of_asks asks (by decide), Application.serve, Run.on_bind,
      on_reorder_known distinct nonempty known room submitted]
    rfl
  obtain ⟨response, stored⟩ := serve_replies (ofDatabase platform url recorder origins) question
    readable recordable dispatched (show 200 < 400 by decide)
  refine ⟨?_, ?_, stored⟩
  · rw [Outcome.status?, response]
    rfl
  · rw [Outcome.body?, response]
    rfl

/-! ## The listing afterwards -/

section Listing

variable {ids : List Int}

theorem search_placed (answers : ∀ row ∈ rows, ∃ admits, row.admits url = .ok admits)
    (order : ids.Perm (rows.map Entry.id)) (distinct : ids.Nodup) :
    ∃ admits, anyAdmits url (inListingOrder (placed rows 0 ids)) = .ok admits := by
  cases search : anyAdmits url (inListingOrder (placed rows 0 ids)) with
  | ok admits => exact ⟨admits, rfl⟩
  | error fault =>
    obtain ⟨before, row, after, split, -, stops⟩ := anyAdmits_eq_error_iff.mp search
    have mem : row ∈ inListingOrder (placed rows 0 ids) := by
      rw [split]
      exact List.mem_append_right _ List.mem_cons_self
    obtain ⟨old, found, same⟩ :=
      Database.exists_of_mem_placed order distinct (mem_inListingOrder.mp mem)
    obtain ⟨admits, answer⟩ := answers old found
    have pattern : row.serviceId = old.serviceId := by rw [same]
    rw [Entry.admits_congr pattern, answer] at stops
    cases stops

theorem exists_projections_placed (complete : ∀ row ∈ rows, row.Complete)
    (order : ids.Perm (rows.map Entry.id)) (distinct : ids.Nodup) :
    ∃ listed : List Projection,
      listed.map Projection.entry = inListingOrder (placed rows 0 ids) := by
  have shown : ∀ row ∈ inListingOrder (placed rows 0 ids), row.Complete := by
    intro row mem
    obtain ⟨old, found, same⟩ :=
      Database.exists_of_mem_placed order distinct (mem_inListingOrder.mp mem)
    rw [same]
    exact complete old found
  obtain ⟨listed, projected⟩ := mapM_project_of_complete shown
  exact ⟨listed, mapM_project_eq_ok_iff.mp projected⟩

/-- The listing after all ids of a table were placed has at each index the row of the id that was
given there. -/
theorem projections_placed (order : ids.Perm (rows.map Entry.id)) (distinct : ids.Nodup)
    {listed : List Projection}
    (shown : listed.map Projection.entry = inListingOrder (placed rows 0 ids)) :
    listed.map Projection.id = ids ∧
      ∀ (index : Nat) (projection : Projection), listed[index]? = some projection →
        ∃ row ∈ rows, projection.entry = { row with evaluationOrder := index } := by
  constructor
  · rw [← Database.listed_placed order distinct, ← shown, List.map_map]
    rfl
  · intro index projection at_index
    refine Database.getElem?_listed_placed order distinct ?_
    rw [← shown, List.getElem?_map, at_index]
    rfl

end Listing

/-- All ids of a table, submitted as a form in any order, put the rows into this order: the request
is answered 200 without a body, and the listing after it has each row at the index of its id, with
this index as its position and all other fields as they were. Some row admits the default address,
no pattern stops the search, the positions are numbers of 64 bits, and the addresses of both
requests can be read. -/
theorem Server.listing_of_reordered (platform : Form.Platform) (distinct : DistinctIds rows)
    (complete : ∀ row ∈ rows, row.Complete) (stored : ∀ row ∈ rows, isStorable row.id = true)
    (room : rows.length ≤ 2 ^ 63) (admitted : Admitted url rows)
    (answers : ∀ row ∈ rows, ∃ admits, row.admits url = .ok admits) {ids : List Int}
    (order : ids.Perm (rows.map Entry.id)) {posting reading : Request}
    (posts : posting.Asks "POST" .reorder) (postable : posting.Readable)
    (type : header? "content-type" posting.headers = some Audit.urlEncodedType)
    (body : posting.body = Text.utf8Encode (Form.idsText ids))
    (reads : reading.Asks "GET" .listing) (readable : reading.Readable)
    (recorder : Option Audit.Recorder) (origins : List String) :
    let server := ofDatabase platform url recorder origins
    let posted := server.serve (ofRows rows) posting
    let listing := server.serve posted.2 reading
    posted.1.status? = some 200 ∧ posted.1.body? = some [] ∧
      listing.1.status? = some 200 ∧ ∃ (text : List UInt8) (listed : List Projection),
        listing.1.body? = some text ∧ Json.readDocument text = .ok (listingJson listed) ∧
          listed.map Projection.id = ids ∧
          ∀ (index : Nat) (projection : Projection), listed[index]? = some projection →
            ∃ row ∈ rows, projection.entry = { row with evaluationOrder := index } := by
  intro server posted listing
  have distinctIds : ids.Nodup := order.nodup_iff.mpr distinct
  have known : ∀ id ∈ ids, id ∈ rows.map Entry.id ∧ isStorable id = true := by
    intro id mem
    have present := order.mem_iff.mp mem
    obtain ⟨row, found, rfl⟩ := List.mem_map.mp present
    exact ⟨present, stored row found⟩
  have nonempty : ids ≠ [] := by
    obtain ⟨row, found, -⟩ := admitted
    exact List.ne_nil_of_mem (order.mem_iff.mpr (List.mem_map_of_mem found))
  have submitted : posting.submittedIds platform = .ok (some ids) :=
    Form.submittedIds_idsText type body nonempty
      fun id mem => natAbs_lt_of_storable (known id mem).2
  have few : ids.length ≤ 2 ^ 63 := by rwa [order.length_eq, List.length_map]
  obtain ⟨success, blank, kept⟩ : posted.1.status? = some 200 ∧
      posted.1.body? = some [] ∧ posted.2 = ofRows (placed rows 0 ids) :=
    serve_reorder distinct nonempty known few posts postable submitted
      (fun _ => exists_requestBody_of_urlEncoded type) origins
  -- The default address is still admitted, so the listing adds no row of its own.
  have registered : ensured url (placed rows 0 ids) = placed rows 0 ids :=
    if_pos (Database.admitted_placed 0 ids admitted)
  obtain ⟨admits, search⟩ := search_placed answers order distinctIds
  obtain ⟨listed, shown⟩ := exists_projections_placed complete order distinctIds
  obtain ⟨listedIds, listedRows⟩ := projections_placed order distinctIds shown
  obtain ⟨answered, text, -⟩ :=
    serve_listing search (registered.symm ▸ shown) reads readable platform recorder origins
  have storable : ∀ projection ∈ listed, isStorable projection.id = true ∧
      isStorable projection.evaluationOrder = true := by
    intro projection mem
    obtain ⟨index, at_index⟩ := List.mem_iff_getElem?.mp mem
    obtain ⟨row, found, same⟩ := listedRows index projection at_index
    have id : projection.id = row.id := congrArg Entry.id same
    have position : projection.evaluationOrder = index := congrArg Entry.evaluationOrder same
    have lt : index < ids.length := by
      rw [← listedIds, List.length_map]
      exact (List.getElem?_eq_some_iff.mp at_index).1
    rw [id, position]
    exact ⟨stored row found, Database.isStorable_natCast (Nat.lt_of_lt_of_le lt few)⟩
  have after : listing = server.serve (ofRows (placed rows 0 ids)) reading := by rw [← kept]
  rw [after]
  exact ⟨success, blank, answered, _, listed, text, readDocument_listing storable, listedIds,
    listedRows⟩

/-- Three rows, two of which have one position, are put into another order. -/
theorem Server.listing_of_reordered_ties :
    let rows := [newEntry 7 "u" "a", newEntry 9 "v" "b",
      { newEntry 8 "w" "c" with evaluationOrder := -3 }]
    let ids : List Int := [9, 8, 7]
    let posting := Request.formPost "/updateRegisteredServiceEvaluationOrder" "id=9&id=8&id=7"
    let reading := Request.get "/getServices"
    let server := ofDatabase .standard "u" none []
    let posted := server.serve (ofRows rows) posting
    let listing := server.serve posted.2 reading
    (DistinctIds rows ∧ (∀ row ∈ rows, row.Complete) ∧ (∀ row ∈ rows, isStorable row.id = true) ∧
        rows.length ≤ 2 ^ 63 ∧ Admitted "u" rows ∧
        (∀ row ∈ rows, ∃ admits, row.admits "u" = .ok admits) ∧
        ids.Perm (rows.map Entry.id) ∧ posting.body = Text.utf8Encode (Form.idsText ids) ∧
        posting.Readable ∧ reading.Readable) ∧
      posted.1.status? = some 200 ∧ posted.1.body? = some [] ∧
      listing.1.status? = some 200 ∧ ∃ (text : List UInt8) (listed : List Projection),
        listing.1.body? = some text ∧ Json.readDocument text = .ok (listingJson listed) ∧
          listed.map Projection.id = ids ∧
          ∀ (index : Nat) (projection : Projection), listed[index]? = some projection →
            ∃ row ∈ rows, projection.entry = { row with evaluationOrder := index } := by
  intro rows ids posting reading server posted listing
  have distinct : DistinctIds rows := by decide
  have complete : ∀ row ∈ rows, row.Complete := by decide
  have stored : ∀ row ∈ rows, isStorable row.id = true := by decide
  have room : rows.length ≤ 2 ^ 63 := by decide
  have admitted : Admitted "u" rows := by decide +kernel
  have answers : ∀ row ∈ rows, ∃ admits, row.admits "u" = .ok admits := by
    simp only [rows, List.forall_mem_cons, List.not_mem_nil, false_implies, implies_true, and_true]
    exact ⟨⟨_, rfl⟩, ⟨_, rfl⟩, ⟨_, rfl⟩⟩
  have order : ids.Perm (rows.map Entry.id) := by decide
  have body : posting.body = Text.utf8Encode (Form.idsText ids) := by decide +kernel
  have postable : posting.Readable := by decide +kernel
  have readable : reading.Readable := by decide +kernel
  exact ⟨⟨distinct, complete, stored, room, admitted, answers, order, body, postable, readable⟩,
    listing_of_reordered .standard distinct complete stored room admitted answers order
      ⟨rfl, by decide +kernel⟩ postable rfl body ⟨rfl, by decide +kernel⟩ readable none []⟩

end ServiceRegistry.Http
