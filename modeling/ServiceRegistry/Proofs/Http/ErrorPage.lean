import ServiceRegistry.Proofs.Http.Layers
import ServiceRegistry.Proofs.Http.Failing
import ServiceRegistry.Proofs.Json.RoundTrip

/-!
# Errors as responses, read back

Results:

* `readDocument_errorDocument`: the document of a fault can be read back.
* `errorOf_faultResponse`: the capture finds a reason in each response to such a fault.
* `rebuild_faultResponse`: the capture sends such a response on as it is.
-/

namespace ServiceRegistry.Http

open Json (Fits)
open Number (digitLimit)

variable {limit : Nat}

/-! ## Documents -/

theorem fits_step {digits depth : Nat} {step : Step}
    (short : ∀ position, step = .index position → position ≤ limit)
    (within : limit < 10 ^ digits) : Fits digits depth step.toJson := by
  cases step with
  | key name => exact .text name
  | index position => exact .of_lt (Nat.lt_of_le_of_lt (short position rfl) within)

/-- An issue fits if it can be written. -/
theorem fits_issue {issue : IssueWith Shown} (h : issue.Submitted limit)
    (within : limit < 10 ^ digitLimit) {value : Json}
    (plain : (issueShown issue).plain? = some value) :
    Fits digitLimit (Form.viewDepth + 1) value := by
  obtain ⟨short, input⟩ := h
  rw [plain?_issueShown] at plain
  obtain ⟨given, same, rfl⟩ := Option.map_eq_some_iff.mp plain
  have place : Fits digitLimit Form.viewDepth (.list (issue.place.map Step.toJson)) := by
    refine .list fun item mem => ?_
    obtain ⟨step, stands, rfl⟩ := List.mem_map.mp mem
    exact fits_step (fun position same => short position (same ▸ stands)) within
  refine .object (by simp) ?_
  simp only [List.forall_mem_cons, List.not_mem_nil, false_implies, implies_true, and_true]
  exact ⟨.text _, place, .text _, input given same⟩

theorem fits_faultWording {fault : Fault} (h : fault.Printable limit)
    (within : limit < 10 ^ digitLimit) :
    Fits digitLimit (Form.viewDepth + 2) (faultWording fault) := by
  cases fault with
  | invalidForm issues =>
    cases given : Shown.plainItems? (issues.map issueShown) with
    | none =>
      rw [show faultWording (.invalidForm issues) = .null by
        simp [faultWording, faultMessageShown, Shown.plain?, given]]
      exact .null
    | some values =>
      rw [show faultWording (.invalidForm issues) = .list values by
        simp [faultWording, faultMessageShown, Shown.plain?, given]]
      refine .list fun value mem => ?_
      obtain ⟨item, mem, plain⟩ := Shown.mem_plainItems? given mem
      obtain ⟨issue, found, rfl⟩ := List.mem_map.mp mem
      exact fits_issue (h issues rfl issue found) within plain
  | _ => exact .text _

/-- The document of a fault nests four containers around what was submitted. -/
theorem fits_errorDocument {fault : Fault} (h : fault.Printable limit) {status : Nat}
    (within : limit < 10 ^ digitLimit) (small : status < 10 ^ digitLimit) :
    Fits digitLimit (Form.viewDepth + 4) (errorDocument fault (faultWording fault) status) := by
  have inner : Fits digitLimit (Form.viewDepth + 3) (.object
      [("type", .text fault.label), ("message", faultWording fault),
        ("status", .int status)]) := by
    refine .object (by simp) ?_
    simp only [List.forall_mem_cons, List.not_mem_nil, false_implies, implies_true, and_true]
    exact ⟨.text _, fits_faultWording h within, .of_lt small⟩
  refine .object (by simp) ?_
  simpa using inner

theorem lt_ten_pow {n digits : Nat} (h : n < 10000) (enough : 4 ≤ digits) : n < 10 ^ digits :=
  Nat.lt_of_lt_of_le h (Nat.pow_le_pow_right (n := 10) (by decide) enough)

/-- The document of a fault is read back from its text. -/
theorem readDocument_errorDocument {fault : Fault} (h : fault.Printable limit) {status : Nat}
    (within : limit < 10 ^ digitLimit) (small : status < 10000) :
    Json.readDocument
        (Text.utf8Encode (errorDocument fault (faultWording fault) status).printValue) =
      .ok (errorDocument fault (faultWording fault) status) :=
  Json.readDocument_print
    ((fits_errorDocument h within (lt_ten_pow small (by decide))).mono (by decide))

/-! ## Responses -/

theorem body_json (status : Nat) (value : Json) :
    (Response.json status value).body = Text.utf8Encode value.printValue := by
  show Text.utf8Encode (String.ofList value.printValue).toList = _
  rw [String.toList_ofList]

/-- The capture finds a reason in each response to a fault of the application. -/
theorem errorOf_faultResponse {fault : Fault} (h : fault.Expected limit)
    (within : limit < 10 ^ digitLimit) {status : Nat} (small : status < 10000)
    (request : Request) :
    ∃ reason, Audit.errorOf (faultResponse request fault status).body = .ok reason := by
  unfold faultResponse
  split_ifs
  · unfold Audit.errorOf
    rw [body_json, readDocument_errorDocument h.printable within small]
    split_ifs <;> exact ⟨_, rfl⟩
  · exact ⟨_, rfl⟩

theorem rebuild_json (status : Nat) (value : Json) :
    Audit.rebuild (Response.json status value) = Response.json status value := by
  have names : ["content-length", "content-type"].eraseDups =
    ["content-length", "content-type"] := by decide
  simp [Audit.rebuild, Audit.rebuiltHeaders, Response.json, Response.content, Response.lengthLine,
    names, header?, List.lookup_cons]

theorem rebuild_blank (status : Nat) :
    Audit.rebuild (Response.blank status) = Response.blank status := rfl

/-- The capture sends a response to a fault on as it is. -/
theorem rebuild_faultResponse (request : Request) (fault : Fault) (status : Nat) :
    Audit.rebuild (faultResponse request fault status) = faultResponse request fault status := by
  unfold faultResponse
  split_ifs
  · exact rebuild_json status _
  · exact rebuild_blank status

end ServiceRegistry.Http
