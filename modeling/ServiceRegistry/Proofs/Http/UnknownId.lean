import ServiceRegistry.Proofs.Form.Ids
import ServiceRegistry.Proofs.Http.Answer
import ServiceRegistry.Proofs.Http.Lockout
import ServiceRegistry.Proofs.Http.Transparency

/-!
# Ids that no row has

A request that comes to an id of no row is stopped there, and the positions that it has given so far
are dropped. The database is asked for the row, so an id that has no 64 bits is not an unknown one
but a number that is too large.

Results:

* `Request.Reaches`: a removal of an id, or a reordering that comes to it.
* `unknownFault`: the fault of an id that no row has.
* `dispatch_unknown`: the application stops with this fault and commits nothing.
* `Server.unknown_id_answered`: the answer is 404 for an id of 64 bits, and 500 for any other.
-/

namespace ServiceRegistry.Http

open Database (management ofRows placed isStorable DistinctIds)
open Run (on)

variable {platform : Form.Platform} {url : String} {rows : List Entry} {request : Request}
  {id : Int}

/-- A request to remove the row of an id, or to place it after some ids of the table, whose
positions are numbers of 64 bits. -/
inductive Request.Reaches (request : Request) (platform : Form.Platform) (rows : List Entry)
    (id : Int) : Prop
  | removes : request.Asks "POST" .delete → request.submittedId platform = .ok id →
      Request.Reaches request platform rows id
  | places (before after : List Int) : request.Asks "POST" .reorder →
      request.submittedIds platform = .ok (some (before ++ id :: after)) →
      (∀ known ∈ before, known ∈ rows.map Entry.id) → before.length ≤ 2 ^ 63 →
      Request.Reaches request platform rows id

theorem Request.Reaches.exists_route (reaches : request.Reaches platform rows id) :
    ∃ route, request.Asks "POST" route := by
  cases reaches with
  | removes asks => exact ⟨_, asks⟩
  | places _ _ asks => exact ⟨_, asks⟩

/-- The fault of an id that no row has. -/
def unknownFault (id : Int) : Fault :=
  if isStorable id then Management.noSuchId id else .integerTooLarge

theorem on_delete_unknown (world : World Database) (url : String)
    (unknown : id ∉ world.store.working.map Entry.id) :
    on world ((management url).delete id) = (.error (unknownFault id), world) := by
  rw [Database.on_delete, unknownFault, Database.find_eq_none unknown]
  split_ifs <;> rfl

theorem on_placeFrom_unknown {world : World Database}
    (distinct : DistinctIds world.store.working) (url : String)
    (unknown : id ∉ world.store.working.map Entry.id) (position : Nat) (rest : List Int) :
    on world ((management url).placeFrom position (id :: rest)) =
      (.error (unknownFault id), world) := by
  rw [Database.on_placeFrom_cons distinct, unknownFault, Database.find_eq_none unknown]
  split_ifs <;> rfl

/-- The application stops at the id. Positions that were given before it are not committed. -/
theorem dispatch_unknown (distinct : DistinctIds rows)
    (stored : ∀ row ∈ rows, isStorable row.id = true) (unknown : id ∉ rows.map Entry.id)
    (reaches : request.Reaches platform rows id) :
    ∃ after : World Database, on ⟨ofRows rows, [], []⟩
        (Application.dispatch platform (management url) request) =
          (.error (unknownFault id), after) ∧
      after.store.saved = rows ∧ after.log = [] := by
  let world : World Database := ⟨ofRows rows, [], []⟩
  have distinct : DistinctIds world.store.working := distinct
  cases reaches with
  | removes asks submitted =>
    refine ⟨world, ?_, rfl, rfl⟩
    rw [dispatch_of_asks asks (by decide), Application.serve, Run.on_bind, on_delete, submitted]
    simp only
    rw [on_delete_unknown world url unknown]
  | places before after asks submitted known room =>
    have present : ∀ other ∈ before, other ∈ world.store.working.map Entry.id ∧
        isStorable other = true := by
      intro other mem
      obtain ⟨row, found, rfl⟩ := List.mem_map.mp (known other mem)
      exact ⟨known _ mem, stored row found⟩
    -- The session has moved the rows before the id, and this is what it drops.
    let moved := Database.withRows world (placed rows 0 before)
    have missing : id ∉ moved.store.working.map Entry.id := by
      rw [Database.store_withRows, Database.map_id_placed]
      exact unknown
    have placing : on world ((management url).placeFrom 0 (before ++ id :: after)) =
        (.error (unknownFault id), moved) := by
      rw [Database.on_placeFrom_append distinct url 0 present (by omega)]
      exact on_placeFrom_unknown (Database.distinctIds_placed distinct 0 before) url missing _ after
    have nonempty : before ++ id :: after ≠ [] := by simp
    refine ⟨moved, ?_, rfl, rfl⟩
    rw [dispatch_of_asks asks (by decide), Application.serve, Run.on_bind, on_reorder, submitted]
    simp only [Database.reorder_of_ne_nil _ nonempty]
    rw [placing]

namespace Server

/-- A request that no recorder stops can be recorded if it is captured. -/
theorem recordable_of_passed {recorder : Option Audit.Recorder} {origins : List String}
    (question : Cors.preflight? origins request = none) (readable : request.Readable)
    (passed : recorder = none ∨ ¬ Stopped origins request) :
    isCaptured recorder request = true → ∃ body, Audit.requestBody request = .ok body := by
  intro captured
  rcases passed with rfl | passed
  · cases captured
  · cases recorder with
    | none => cases captured
    | some recorder =>
      by_contra stops
      refine passed ⟨question, readable, isCaptured_iff.mp captured, requestBody_stops_iff.mp ?_⟩
      cases recorded : Audit.requestBody request with
      | ok body => exact absurd ⟨body, recorded⟩ stops
      | error fault => exact ⟨fault, rfl⟩

/-- A removal of an id that no row has, and a reordering that comes to such an id after any ids of
the table, is answered 404 with the error that names the id, if the id has 64 bits. If it has not,
the number is too large for the database and the answer is 500. Either is reported once. Only a
request whose address cannot be read is not answered. The table always stays as it is. -/
theorem unknown_id_answered (distinct : DistinctIds rows)
    (stored : ∀ row ∈ rows, isStorable row.id = true) (unknown : id ∉ rows.map Entry.id)
    (reaches : request.Reaches platform rows id) {recorder : Option Audit.Recorder}
    {origins : List String} (passed : recorder = none ∨ ¬ Stopped origins request) :
    let served := (ofDatabase platform url recorder origins).serve (ofRows rows) request
    (request.Readable →
      (isStorable id = true →
        served.1.status? = some 404 ∧ served.1.raised = none ∧
          served.1.response = some (Cors.withOrigin origins request
            (faultResponse request (Management.noSuchId id) 404)) ∧
          errors served.1.log = [report request (Management.noSuchId id)]) ∧
      (isStorable id = false →
        served.1.status? = some 500 ∧ served.1.raised = some .integerTooLarge ∧
          served.1.response = some (faultResponse request .integerTooLarge 500) ∧
          errors served.1.log = [report request .integerTooLarge])) ∧
      (∀ fault, request.address = .error fault → served.1 = ⟨none, some fault, [], []⟩) ∧
      served.2 = ofRows rows := by
  intro served
  let server := ofDatabase platform url recorder origins
  obtain ⟨route, asks⟩ := reaches.exists_route
  have question := preflight?_of_asks asks (by decide) origins
  rcases request.readable_or with readable | ⟨cause, unread⟩
  · obtain ⟨after, dispatched, saved, log⟩ := dispatch_unknown distinct stored unknown reaches
    have ordinary : (unknownFault id).Ordinary := by
      unfold unknownFault
      split_ifs <;> trivial
    -- The fault names no position of a form, so its document can always be read back.
    have expected : (unknownFault id).Expected 0 := ordinary.expected
    obtain ⟨answer, reported, kept⟩ := serve_stops server question readable
      (recordable_of_passed question readable passed) dispatched expected ordinary.writable
      (Nat.pow_pos (by decide))
    rw [log] at reported
    refine ⟨fun _ => ⟨fun fits => ?_, fun large => ?_⟩,
      fun _ unread => absurd readable (Request.not_readable unread), ?_⟩
    · rw [unknownFault, if_pos fits] at answer reported
      obtain ⟨response, raised⟩ := answer
      refine ⟨?_, raised, response, reported⟩
      rw [Outcome.status?, response]
      exact congrArg some (status_faultResponse request _ 404)
    · rw [unknownFault, if_neg (by rw [large]; decide)] at answer reported
      obtain ⟨response, raised⟩ := answer
      refine ⟨?_, raised, response, reported⟩
      rw [Outcome.status?, response]
      exact congrArg some (status_faultResponse request _ 500)
    · rw [kept]
      exact congrArg ofRows saved
  · have unserved : served = _ := serve_unread server (ofRows rows) question unread
    rw [unserved]
    refine ⟨fun readable => absurd readable (Request.not_readable unread),
      fun fault same => ?_, rfl⟩
    rw [Except.error.inj (unread.symm.trans same)]

/-- A reordering that comes to an unknown id after it has placed a row. -/
theorem unknown_id_answered_reorder :
    let rows := [newEntry 7 "u" "a"]
    let request := Request.formPost "/updateRegisteredServiceEvaluationOrder" "id=7&id=9&id=8"
    let served := (ofDatabase .standard "u" none []).serve (ofRows rows) request
    DistinctIds rows ∧ (∀ row ∈ rows, isStorable row.id = true) ∧ 9 ∉ rows.map Entry.id ∧
      request.Reaches .standard rows 9 ∧ isStorable 9 = true ∧
      served.1.status? = some 404 ∧ served.1.raised = none ∧ served.2 = ofRows rows := by
  intro rows request served
  have distinct : DistinctIds rows := by decide
  have stored : ∀ row ∈ rows, isStorable row.id = true := by decide
  have unknown : 9 ∉ rows.map Entry.id := by decide
  have submitted : request.submittedIds .standard = .ok (some ([7] ++ 9 :: [8])) := by
    have small : ∀ id ∈ ([7, 9, 8] : List Int), id.natAbs < 10000 := by decide
    exact Form.submittedIds_idsText rfl (by decide +kernel) (by decide)
      fun id mem => lt_ten_pow (small id mem) (by decide)
  have reaches : request.Reaches .standard rows 9 :=
    .places [7] [8] ⟨rfl, by decide +kernel⟩ submitted (by decide) (by decide)
  have readable : request.Readable := by decide +kernel
  obtain ⟨answer, -, kept⟩ := unknown_id_answered distinct stored unknown reaches
    (show none = none ∨ ¬ Stopped [] request from .inl rfl)
  obtain ⟨status, raised, -⟩ := (answer readable).1 (by decide)
  exact ⟨distinct, stored, unknown, reaches, by decide, status, raised, kept⟩

/-- A removal of the first id that is too large is answered 500. -/
theorem unknown_id_too_large :
    let id : Int := 9223372036854775808
    let request := Request.formPost "/deleteRegisteredService" "id=9223372036854775808"
    let served := (ofDatabase .standard "u" none []).serve (ofRows []) request
    request.Asks "POST" .delete ∧ request.submittedId .standard = .ok id ∧
      id ∉ ([] : List Entry).map Entry.id ∧ served.1.status? = some 500 := by
  intro id request served
  have submitted : request.submittedId .standard = .ok id :=
    Form.submittedId_idsText rfl (by decide +kernel)
      (Nat.lt_of_lt_of_le (show id.natAbs < 10 ^ 19 by decide)
        (Nat.pow_le_pow_right (n := 10) (by decide) (by decide)))
  exact ⟨⟨rfl, by decide +kernel⟩, submitted, by decide, by decide +kernel⟩

end Server

end ServiceRegistry.Http
