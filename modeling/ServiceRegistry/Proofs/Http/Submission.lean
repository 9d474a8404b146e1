import ServiceRegistry.Http.Application
import ServiceRegistry.Proofs.Http.Failing

/-!
# Requests that submit ids

A removal submits one id and a reordering a list of ids. What is submitted in their place is shown
in the refusal, and a text in it may have a surrogate.

Results:

* `Request.Asks`, `Request.submittedId`, `Request.submittedIds`: what a request asks for, and with
  which ids.
* `Request.Garbles`: the requests whose ids are refused with a text that has a surrogate.
* `Foreseen`: the faults that the application stops with at a request.
* `Request.submittedId_foreseen`, `Request.submittedIds_foreseen`: the faults of forms.
* `Request.refused_of_garbles`: a request that garbles its form is refused.
-/

namespace ServiceRegistry.Http

variable {platform : Form.Platform} {request : Request} {fault : Fault}

/-! ## What requests ask for -/

/-- A request with a method for one of the two paths of a route. -/
def Request.Asks (request : Request) (method : String) (route : Route) : Prop :=
  request.method = method ∧ Route.ofPath? request.path = some route

instance (request : Request) (method : String) (route : Route) :
    Decidable (request.Asks method route) :=
  inferInstanceAs (Decidable (_ ∧ _))

theorem Request.Asks.unique {method method' : String} {route route' : Route}
    (asks : request.Asks method route) (asks' : request.Asks method' route') : route = route' :=
  Option.some.inj (asks.2.symm.trans asks'.2)

/-- The id that a request submits. -/
def Request.submittedId (request : Request) (platform : Form.Platform) : Except Fault Int :=
  Form.fieldsOf platform request >>= Form.submittedId platform

/-- The ids that a request submits. -/
def Request.submittedIds (request : Request) (platform : Form.Platform) :
    Except Fault (Option (List Int)) :=
  Form.fieldsOf platform request >>= Form.submittedIds platform

/-! ## What is refused -/

/-- A request for a removal whose last id, or for a reordering of which some id is not shown without
a surrogate. -/
def Request.Garbles (request : Request) (platform : Form.Platform) : Prop :=
  ∃ fields, Form.fieldsOf platform request = .ok fields ∧
    let values := Form.fieldValues Form.idField fields
    (request.Asks "POST" .delete ∧ ∃ value, values.getLast? = some value ∧
        platform.Garbles value) ∨
      (request.Asks "POST" .reorder ∧ ∃ value ∈ values, platform.Garbles value)

/-- The faults that the application stops with at a request. Unless the request garbles its form,
they can be written. -/
structure Foreseen (platform : Form.Platform) (request : Request) (fault : Fault) : Prop where
  expected : fault.Expected (Form.positionLimit request)
  writable : ¬ request.Garbles platform → fault.Writable

theorem Foreseen.of_ordinary (h : fault.Ordinary) : Foreseen platform request fault :=
  ⟨h.expected, fun _ => h.writable⟩

theorem Foreseen.of_refused {status : Nat} {detail : String} (least : 400 ≤ status)
    (most : status < 500) : Foreseen platform request (.refused status detail) :=
  ⟨⟨least, most⟩, fun _ issues same => by cases same⟩

theorem Request.submittedId_expected (h : request.submittedId platform = .error fault) :
    fault.Expected (Form.positionLimit request) := by
  rcases bind_eq_error.mp h with h | ⟨fields, submitted, h⟩
  · obtain ⟨detail, rfl⟩ := Form.fieldsOf_stops h
    exact ⟨by decide, by decide⟩
  · obtain ⟨issues, rfl, all⟩ := Form.submittedId_stops h (Form.positionLimit request)
    exact fun issue mem => (all issue mem).1

theorem Request.submittedIds_expected (h : request.submittedIds platform = .error fault) :
    fault.Expected (Form.positionLimit request) := by
  rcases bind_eq_error.mp h with h | ⟨fields, submitted, h⟩
  · obtain ⟨detail, rfl⟩ := Form.fieldsOf_stops h
    exact ⟨by decide, by decide⟩
  · obtain ⟨issues, rfl, all⟩ := Form.submittedIds_stops h (Form.length_fieldsOf submitted)
    exact fun issue mem => (all issue mem).1

theorem Request.submittedId_foreseen (asks : request.Asks "POST" .delete)
    (h : request.submittedId platform = .error fault) : Foreseen platform request fault := by
  refine ⟨submittedId_expected h, fun whole => ?_⟩
  rintro issues rfl issue mem garbled
  rcases bind_eq_error.mp h with h | ⟨fields, submitted, h⟩
  · obtain ⟨detail, refused⟩ := Form.fieldsOf_stops h
    cases refused
  · obtain ⟨issues', same, all⟩ := Form.submittedId_stops h (Form.positionLimit request)
    obtain rfl := Fault.invalidForm.inj same
    exact whole ⟨fields, submitted, .inl ⟨asks, (all issue mem).2 garbled⟩⟩

theorem Request.submittedIds_foreseen (asks : request.Asks "POST" .reorder)
    (h : request.submittedIds platform = .error fault) : Foreseen platform request fault := by
  refine ⟨submittedIds_expected h, fun whole => ?_⟩
  rintro issues rfl issue mem garbled
  rcases bind_eq_error.mp h with h | ⟨fields, submitted, h⟩
  · obtain ⟨detail, refused⟩ := Form.fieldsOf_stops h
    cases refused
  · obtain ⟨issues', same, all⟩ := Form.submittedIds_stops h (Form.length_fieldsOf submitted)
    obtain rfl := Fault.invalidForm.inj same
    exact whole ⟨fields, submitted, .inr ⟨asks, (all issue mem).2 garbled⟩⟩

/-- A request that garbles its form is refused before anything is done. -/
theorem Request.refused_of_garbles (garbles : request.Garbles platform) :
    ∃ issues, (∃ issue ∈ issues, issue.input.plain? = none) ∧
      ((request.Asks "POST" .delete ∧
          request.submittedId platform = .error (.invalidForm issues)) ∨
        (request.Asks "POST" .reorder ∧
          request.submittedIds platform = .error (.invalidForm issues))) := by
  obtain ⟨fields, submitted, ⟨asks, value, last, garbled⟩ | ⟨asks, value, mem, garbled⟩⟩ := garbles
  · obtain ⟨issues, refused, shows⟩ := Form.submittedId_of_garbles last garbled
    refine ⟨issues, shows, .inl ⟨asks, ?_⟩⟩
    rw [Request.submittedId, submitted]
    exact refused
  · obtain ⟨issues, refused, shows⟩ := Form.submittedIds_of_garbles mem garbled
    refine ⟨issues, shows, .inr ⟨asks, ?_⟩⟩
    rw [Request.submittedIds, submitted]
    exact refused

end ServiceRegistry.Http
