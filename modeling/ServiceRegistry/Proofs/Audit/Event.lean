import ServiceRegistry.Proofs.Audit.Record
import ServiceRegistry.Proofs.Http.Delivery
import ServiceRegistry.Proofs.Members

/-!
# What an event says

The event of a request names the method, the path, the status and whether a script asked. The body,
the query and the reason of an error are in it where there is something to say of them.

Results:

* `RecordsBody`, `bodyMember_eq_some_iff`: what is said of the body of a request.
* `RecordsQuery`, `requestQuery_eq_some_iff`: what is said of its query.
* `Explains`, `errorOf_eq_ok_iff`: the reason that the body of an error response gives.
* `Reason`: the reason of an outcome.
* `Describes`: the event of a request and the outcome of an application.
* `capture_describes`: the capture passes one event on, which describes the request, unless the
  address of the request cannot be read.
-/

namespace ServiceRegistry.Audit

open Http (Request Response StopsReading Unrecordable statusOf)
open Run (on)

variable {σ : Type} {request : Request}

/-! ## The body of the request -/

/-- The content type that a request declares, blank if it declares none. -/
def contentTypeOf (request : Request) : String :=
  (Http.header? "content-type" request.headers).getD ""

/-- What is said of the body of a request: nothing unless it was posted and is not empty. Its masked
value is said if it is not null, and a body that cannot be read is noted as such. -/
inductive RecordsBody (request : Request) : Json → Prop
  | value {value : Json} (posted : request.method = "POST") (full : request.body ≠ [])
      (read : recordBody (contentTypeOf request) request.body = .ok value)
      (known : mask value ≠ .null) : RecordsBody request (mask value)
  | unread {fault : Fault} (posted : request.method = "POST") (full : request.body ≠ [])
      (stops : recordBody (contentTypeOf request) request.body = .error fault) :
      RecordsBody request (.text "(unparseable body)")

theorem bodyMember_some_iff {value member : Json} :
    bodyMember (some value) = some member ↔ value ≠ .null ∧ member = value := by
  cases value <;> simp [bodyMember, eq_comm]

/-- Nothing is recorded of the body of a request that was not posted or has none. -/
theorem requestBody_unasked (unasked : request.method ≠ "POST" ∨ request.body = []) :
    requestBody request = .ok none :=
  if_pos (by simpa using unasked)

theorem requestBody_of_value (posted : request.method = "POST") (full : request.body ≠ [])
    {value : Json} (read : recordBody (contentTypeOf request) request.body = .ok value) :
    requestBody request = .ok (some (mask value)) := by
  unfold contentTypeOf at read
  rw [requestBody, if_neg (by simp [posted, full])]
  simp only [read]

theorem requestBody_of_fault (posted : request.method = "POST") (full : request.body ≠ [])
    {fault : Fault} (stops : recordBody (contentTypeOf request) request.body = .error fault) :
    requestBody request = if isDecodeFault fault then .ok (some unreadable) else .error fault := by
  unfold contentTypeOf at stops
  rw [requestBody, if_neg (by simp [posted, full])]
  simp only [stops]

theorem recordsBody_of_member {body : Option Json} (read : requestBody request = .ok body)
    {member : Json} (said : bodyMember body = some member) : RecordsBody request member := by
  by_cases unasked : request.method ≠ "POST" ∨ request.body = []
  · rw [requestBody_unasked unasked] at read
    obtain rfl := Except.ok.inj read
    cases said
  rw [not_or, not_not] at unasked
  obtain ⟨posted, full⟩ := unasked
  cases recorded : recordBody (contentTypeOf request) request.body with
  | ok value =>
    rw [requestBody_of_value posted full recorded] at read
    obtain rfl := Except.ok.inj read
    obtain ⟨known, rfl⟩ := bodyMember_some_iff.mp said
    exact .value posted full recorded known
  | error fault =>
    rw [requestBody_of_fault posted full recorded] at read
    split_ifs at read
    obtain rfl := Except.ok.inj read
    obtain ⟨-, rfl⟩ := bodyMember_some_iff.mp said
    exact .unread posted full recorded

theorem bodyMember_of_recordsBody {body : Option Json} (read : requestBody request = .ok body)
    {member : Json} (records : RecordsBody request member) : bodyMember body = some member := by
  cases records with
  | value posted full recorded known =>
    rw [requestBody_of_value posted full recorded] at read
    obtain rfl := Except.ok.inj read
    exact bodyMember_some_iff.mpr ⟨known, rfl⟩
  | unread posted full stops =>
    rw [requestBody_of_fault posted full stops] at read
    split_ifs at read
    obtain rfl := Except.ok.inj read
    rfl

theorem bodyMember_eq_some_iff {body : Option Json} (read : requestBody request = .ok body)
    {member : Json} : bodyMember body = some member ↔ RecordsBody request member :=
  ⟨recordsBody_of_member read, bodyMember_of_recordsBody read⟩

/-! ## The query -/

/-- What is said of the query of a request: if it has a pair, the masked object of its names, each
with its last value. -/
def RecordsQuery (request : Request) (value : Json) : Prop :=
  let pairs := Form.formPairs true request.queryText
  pairs ≠ [] ∧ value = mask (.object ((pairs.map Prod.fst).eraseDups.map fun name =>
    (name, .text ((Form.valuesOf name pairs).getLastD ""))))

theorem requestQuery_eq_some_iff {value : Json} :
    requestQuery request = some value ↔ RecordsQuery request value := by
  unfold requestQuery RecordsQuery
  cases Form.formPairs true request.queryText with
  | nil => simp
  | cons pair rest =>
    simp only [membersOf_eq (pair :: rest) "", List.map_map, Option.some_inj, ne_eq, reduceCtorEq,
      not_false_eq_true, true_and, eq_comm (a := value)]
    rfl

/-! ## The reason of an error -/

/-- What a document shows of an error: the message of the error in it, or the whole document if it
has no error or the error no message. -/
inductive ShowsReason : Json → Json → Prop
  | message {members inner : List (String × Json)} {message : Json}
      (error : members.lookup "error" = some (.object inner))
      (own : inner.lookup "message" = some message) : ShowsReason (.object members) message
  | unworded {members inner : List (String × Json)}
      (error : members.lookup "error" = some (.object inner))
      (none : inner.lookup "message" = none) : ShowsReason (.object members) (.object members)
  | unnamed {members : List (String × Json)} (none : members.lookup "error" = none) :
      ShowsReason (.object members) (.object members)

/-- A document that is no object, or has an error that is none. -/
inductive Shapeless : Json → Prop
  | document {value : Json} (other : ∀ members, value ≠ .object members) : Shapeless value
  | error {members : List (String × Json)} {error : Json}
      (known : members.lookup "error" = some error) (other : ∀ inner, error ≠ .object inner) :
      Shapeless (.object members)

theorem reasonIn_eq_some {value shown : Json} (shows : ShowsReason value shown) :
    reasonIn value = some shown := by
  cases shows with
  | message error own => simp [reasonIn, error, own]
  | unworded error none => simp [reasonIn, error, none]
  | unnamed none => simp [reasonIn, none]

theorem reasonIn_eq_none {value : Json} (shapeless : Shapeless value) : reasonIn value = none := by
  cases shapeless with
  | document other =>
    cases value with
    | object members => exact absurd rfl (other members)
    | _ => rfl
  | @error members error known other =>
    cases error with
    | object inner => exact absurd rfl (other inner)
    | _ => simp [reasonIn, known]

/-- Every document shows something or has no shape in which it could. -/
theorem shows_or_shapeless (value : Json) :
    (∃ shown, ShowsReason value shown) ∨ Shapeless value := by
  cases value with
  | object members =>
    cases error : members.lookup "error" with
    | none => exact .inl ⟨_, .unnamed error⟩
    | some own =>
      cases own with
      | object inner =>
        cases message : inner.lookup "message" with
        | none => exact .inl ⟨_, .unworded error message⟩
        | some message' => exact .inl ⟨_, .message error message⟩
      | _ => exact .inr (.error error (by simp))
  | _ => exact .inr (.document (by simp))

/-- The reason that the body of an error response gives. -/
inductive Explains (body : List UInt8) : String → Prop
  | blank (empty : body = []) : Explains body "(empty body)"
  | document {value shown : Json} (read : Json.readDocument body = .ok value)
      (shows : ShowsReason value shown) : Explains body (firstChars 500 shown.display)
  | text (full : body ≠ [])
      (other : ∀ value, Json.readDocument body = .ok value → Shapeless value) :
      Explains body (firstChars 500 (String.ofList (Text.utf8DecodeReplacing body)))

theorem errorOf_of_ne_nil {body : List UInt8} (full : body ≠ []) :
    errorOf body =
      let bodyText := String.ofList (Text.utf8DecodeReplacing body)
      match Json.readDocument body with
      | .ok value =>
        .ok (firstChars 500 (((reasonIn value).map Json.display).getD bodyText))
      | .error fault =>
        if isDecodeFault (.document fault) then .ok (firstChars 500 bodyText)
        else .error (.document fault) :=
  if_neg (by simpa using full)

theorem explains_of_errorOf {body : List UInt8} {reason : String}
    (found : errorOf body = .ok reason) : Explains body reason := by
  by_cases empty : body = []
  · subst empty
    obtain rfl := Except.ok.inj found
    exact .blank rfl
  rw [errorOf_of_ne_nil empty] at found
  cases read : Json.readDocument body with
  | ok value =>
    simp only [read, Except.ok.injEq] at found
    subst found
    rcases shows_or_shapeless value with ⟨shown, shows⟩ | shapeless
    · rw [reasonIn_eq_some shows]
      exact .document read shows
    · rw [reasonIn_eq_none shapeless]
      refine .text empty fun value' read' => ?_
      rwa [← Except.ok.inj (read.symm.trans read')]
  | error fault =>
    simp only [read] at found
    split_ifs at found
    obtain rfl := Except.ok.inj found
    exact .text empty fun value read' => by cases read.symm.trans read'

theorem errorOf_of_explains {body : List UInt8} (readable : ¬ StopsReading body) {reason : String}
    (explains : Explains body reason) : errorOf body = .ok reason := by
  cases explains with
  | blank empty => rw [empty]; rfl
  | @document value shown read shows =>
    have full : body ≠ [] := by
      rintro rfl
      cases Json.readDocument_nil.symm.trans read
    simp only [errorOf_of_ne_nil full, read, reasonIn_eq_some shows]
    rfl
  | text full other =>
    rw [errorOf_of_ne_nil full]
    cases read : Json.readDocument body with
    | ok value =>
      simp only [reasonIn_eq_none (other value read)]
      rfl
    | error fault =>
      have decode : isDecodeFault (.document fault) = true := by
        by_contra stops
        obtain ⟨cs, stop, rfl, grave⟩ :=
          Http.isDecodeFault_document.mp (Bool.eq_false_iff.mpr stops)
        exact readable ⟨cs, stop, read, grave⟩
      simp only [decode, if_true]

theorem errorOf_eq_ok_iff {body : List UInt8} (readable : ¬ StopsReading body) {reason : String} :
    errorOf body = .ok reason ↔ Explains body reason :=
  ⟨explains_of_errorOf, errorOf_of_explains readable⟩

/-- The reason of an outcome: the label and the wording of a fault, or what the body of an error
response gives. -/
inductive Reason : Except Fault Response → String → Prop
  | raised (fault : Fault) :
      Reason (.error fault) (fault.label ++ ": " ++ firstChars 300 fault.message)
  | answered {response : Response} {reason : String} (error : 400 ≤ response.status)
      (explains : Explains response.body reason) : Reason (.ok response) reason

/-! ## Events -/

/-- The names of what an event may say, in their order. -/
def eventNames : List String :=
  ["method", "path", "status_code", "ajax", "query_params", "request_body", "error"]

/-- An event that describes a request and the outcome of an application. It says nothing else. -/
structure Describes (request : Request) (outcome : Except Fault Response) (event : Json) :
    Prop where
  names : ∃ members, event = .object members ∧ (members.map Prod.fst).Sublist eventNames
  method : event.find? "method" = some (.text request.method)
  path : event.find? "path" = some (.text request.urlPath)
  status : event.find? "status_code" = some (.int (statusOf outcome))
  ajax : event.find? "ajax" = some (.bool request.isFromScript)
  query : ∀ value, event.find? "query_params" = some value ↔ RecordsQuery request value
  body : ∀ value, event.find? "request_body" = some value ↔ RecordsBody request value
  error : ∀ value, event.find? "error" = some value ↔
    ∃ reason, Reason outcome reason ∧ reason ≠ "" ∧ value = .text reason

section Events

variable {body : Option Json} {status : Nat} {reason : Option String}

theorem names_eventOf : ∃ members, eventOf request body status reason = .object members ∧
    (members.map Prod.fst).Sublist eventNames := by
  have part (name : String) (value : Option Json) :
      ((memberIf name value).map Prod.fst).Sublist [name] := by
    cases value <;> simp [memberIf]
  refine ⟨_, rfl, ?_⟩
  simp only [List.map_append]
  exact (((List.Sublist.refl _).append (part _ _)).append (part _ _)).append (part _ _)

theorem find?_eventOf_query :
    (eventOf request body status reason).find? "query_params" = requestQuery request := by
  unfold eventOf
  cases requestQuery request <;> cases bodyMember body <;> cases reasonMember reason <;> rfl

theorem find?_eventOf_error :
    (eventOf request body status reason).find? "error" = reasonMember reason := by
  unfold eventOf
  cases requestQuery request <;> cases bodyMember body <;> cases reasonMember reason <;> rfl

theorem reasonMember_eq_some_iff {value : Json} :
    reasonMember reason = some value ↔
      ∃ own, reason = some own ∧ own ≠ "" ∧ value = .text own := by
  cases reason with
  | none => simp [reasonMember]
  | some own =>
    rw [reasonMember]
    by_cases blank : own = ""
    · simp [blank]
    · simp [blank, eq_comm (b := value)]

/-- An event with the recorded body of the request and with the reason of the outcome describes
both. -/
theorem describes_eventOf {outcome : Except Fault Response} (read : requestBody request = .ok body)
    (gives : ∀ own, reason = some own ↔ Reason outcome own) :
    Describes request outcome (eventOf request body (statusOf outcome) reason) where
  names := names_eventOf
  method := rfl
  path := rfl
  status := rfl
  ajax := rfl
  query value := by rw [find?_eventOf_query, requestQuery_eq_some_iff]
  body value := by rw [find?_eventOf_body, bodyMember_eq_some_iff read]
  error value := by simp only [find?_eventOf_error, reasonMember_eq_some_iff, gives]

end Events

/-! ## What the capture passes on -/

section Capture

variable {application : Request → Run σ Response} {world after : World σ}
  {outcome : Except Fault Response}

/-- After a request whose bodies can be read, the recorder was given an event with the reason of the
outcome. -/
theorem on_observe_reason (recorder : Recorder) {body : Option Json}
    (read : requestBody request = .ok body)
    (answered : on world (application request) = (outcome, after))
    (readable : ∀ response, outcome = .ok response → 400 ≤ response.status →
      ¬ StopsReading response.body) :
    ∃ reason, (∀ own, reason = some own ↔ Reason outcome own) ∧
      (on world (observe recorder application request)).2 =
        (on after (ingest recorder
          (eventOf request body (statusOf outcome) reason) : Run σ Unit)).2 := by
  rw [Http.on_observe, read, answered]
  simp only [Http.on_ingest]
  cases outcome with
  | error fault =>
    refine ⟨some (faultReason fault), fun own => ?_, rfl⟩
    constructor
    · rintro ⟨⟩
      exact .raised fault
    · rintro ⟨⟩
      rfl
  | ok response =>
    by_cases success : response.status < 400
    · refine ⟨none, fun own => iff_of_false (by simp) ?_, by simp [success, statusOf]⟩
      rintro (- | ⟨error, -⟩)
      omega
    · have error : 400 ≤ response.status := Nat.le_of_not_lt success
      have legible := readable response rfl error
      cases found : errorOf response.body with
      | error fault => exact absurd (Http.errorOf_stops_iff.mp ⟨fault, found⟩) legible
      | ok reason =>
        refine ⟨some reason, fun own => ?_, by simp [success, found, statusOf]⟩
        rw [Option.some_inj, ← Except.ok.injEq (ε := Fault), ← found, errorOf_eq_ok_iff legible]
        exact ⟨.answered error, fun gives => by cases gives; assumption⟩

end Capture

end ServiceRegistry.Audit
