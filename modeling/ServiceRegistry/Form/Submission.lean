import ServiceRegistry.Form.Multipart
import ServiceRegistry.Form.UrlEncoded
import ServiceRegistry.Http.Message
import ServiceRegistry.Fault
import ServiceRegistry.Validate

/-!
# Submitted forms

Results:

* `fieldsOf`: the fields that a request submits.
* `submittedId`: the one id that is asked for.
* `submittedIds`: the ids of a list.
-/

namespace ServiceRegistry.Form

/-- The fields that a request submits. A body of any other content type submits none. -/
def fieldsOf (platform : Platform) (request : Http.Request) : Except Fault (List Field) :=
  let contentType := HeaderValue.read ((Http.header? "content-type" request.headers).getD "")
  if contentType.kind == "multipart/form-data".toList then
    match Multipart.fields platform contentType request.body with
    | .ok fields => .ok fields
    | .error fault => .error (.refused 400 fault.message)
  else if contentType.kind == "application/x-www-form-urlencoded".toList then
    .ok ((formPairs true (Text.latin1Decode request.body)).map Field.ofPair)
  else .ok []

/-- The name of the field with ids. -/
def idField : String := "id"

/-- The place of the ids in a request. -/
def idPlace : List Step := [.key "body", .key idField]

/-- The values of the fields with a name. -/
def fieldValues (name : String) (fields : List Field) : List Value :=
  (fields.filter (·.name == .whole name)).map (·.value)

/-- The whole number that a value gives. -/
def validId : Value → Except IssueKind Int
  | .text (.whole s) => validInteger (.text s)
  | .text (.garbled _) => .error .textSurrogate
  | .file _ => .error .integerKind

/-- A checked value of a form as the result of an operation. -/
def orRefusal {α : Type} (platform : Platform) : CheckedFrom Value α → Except Fault α
  | .ok a => .ok a
  | .error issues => .error (.invalidForm (issues.map (·.map platform.shown)))

/-- The last id that is submitted; a blank one counts as missing. -/
def submittedId (platform : Platform) (fields : List Field) : Except Fault Int :=
  match (fieldValues idField fields).getLast? with
  | none => .error (.invalidForm [⟨.missing, idPlace, .plain .null⟩])
  | some (.text (.whole "")) => .error (.invalidForm [⟨.missing, idPlace, .plain .null⟩])
  | some value => orRefusal platform (Checked.located idPlace validId value)

/-- All ids that are submitted, in their order, or nothing when there are none. -/
def submittedIds (platform : Platform) (fields : List Field) : Except Fault (Option (List Int)) :=
  match fieldValues idField fields with
  | [] => .ok none
  | values => (orRefusal platform (Checked.each validId idPlace 0 values)).map some

end ServiceRegistry.Form
