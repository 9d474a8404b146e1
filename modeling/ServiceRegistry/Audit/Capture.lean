import ServiceRegistry.Audit.Body
import ServiceRegistry.Audit.Mask
import ServiceRegistry.Http.Address
import ServiceRegistry.Registry.Basic

/-!
# Capture of requests

Every request but those to a few paths is recorded as an event: what was asked, what was submitted
and how it was answered, with sensitive values hidden. A recorder that fails is only noted in the
log. A request whose address cannot be read stops here.

Results:

* `Recorder`: where events go.
* `eventOf`: the event of a request and its outcome.
* `errorOf`: the reason that the body of an error gives.
* `capture`: records what an application does with a request.
-/

namespace ServiceRegistry.Audit

variable {σ : Type}

/-- Where events go: a data set of a service that takes them or fails. -/
structure Recorder where
  dataset : String
  fails : Bool
  deriving Repr, DecidableEq

/-- The recorder of a token and a data set, both of which must be given. -/
def Recorder.of? (token dataset : String) (fails : Bool) : Option Recorder :=
  if token.isEmpty || dataset.isEmpty then none else some ⟨dataset, fails⟩

/-- The tokens that the service is asked with. -/
def tokensOf (token : String) (recorder : Option Recorder) : List String :=
  if recorder.isSome then [token] else []

/-- The paths that are not captured. -/
def skippedPaths : List String := ["/health", "/docs", "/redoc", "/openapi.json"]

/-- The name of the logger of the capture. -/
def loggerName : String := "app.middleware.axiom_logging"

/-- What stands for a body that cannot be read. -/
def unreadable : Json := .text "(unparseable body)"

/-- Whether a fault only says that a body is no text or no document. -/
def isDecodeFault : Fault → Bool
  | .undecodable _ => true
  | .document (.undecodable _) => true
  | .document (.unreadable _ (.malformed ..)) => true
  | _ => false

/-- The recorded body of a request: that of a post which has one. -/
def requestBody (request : Http.Request) : Except Fault (Option Json) :=
  if request.method != "POST" || request.body.isEmpty then .ok none
  else
    let contentType := (Http.header? "content-type" request.headers).getD ""
    match recordBody contentType request.body with
    | .ok value => .ok (some (mask value))
    | .error fault => if isDecodeFault fault then .ok (some unreadable) else .error fault

/-- The recorded query of a request: the last value of each name, if there is a pair. -/
def requestQuery (request : Http.Request) : Option Json :=
  match Form.formPairs true request.queryText with
  | [] => none
  | pairs => some (mask (.object ((membersOf pairs).map fun (name, value) => (name, .text value))))

/-- The most characters of the reason of an error response. -/
def reasonLimit : Nat := 500

/-- The most characters of the wording of a fault. -/
def faultLimit : Nat := 300

/-- The first characters of a text. -/
def firstChars (count : Nat) (s : String) : String :=
  String.ofList (s.toList.take count)

/-- The reason that a document gives: its error's message, or the whole document where there is
none. A document of another shape gives nothing. -/
def reasonIn : Json → Option Json
  | .object members =>
    match members.lookup "error" with
    | none => some (.object members)
    | some (.object error) => some ((error.lookup "message").getD (.object members))
    | some _ => none
  | _ => none

/-- The reason that the body of an error response gives. -/
def errorOf (body : List UInt8) : Except Fault String :=
  let bodyText := String.ofList (Text.utf8DecodeReplacing body)
  if body.isEmpty then .ok "(empty body)"
  else match Json.readDocument body with
    | .ok value =>
      .ok (firstChars reasonLimit (((reasonIn value).map Json.display).getD bodyText))
    | .error fault =>
      if isDecodeFault (.document fault) then .ok (firstChars reasonLimit bodyText)
      else .error (.document fault)

/-- The recorded wording of a fault. -/
def faultReason (fault : Fault) : String :=
  fault.label ++ ": " ++ firstChars faultLimit fault.message

/-- A member of an event that is left out when there is nothing to say. -/
def memberIf (name : String) : Option Json → List (String × Json)
  | none => []
  | some value => [(name, value)]

/-- The reason of an event; a blank one is left out. -/
def reasonMember : Option String → Option Json
  | none => none
  | some reason => if reason.isEmpty then none else some (.text reason)

/-- The recorded body of an event; null is left out. -/
def bodyMember : Option Json → Option Json
  | some .null => none
  | body => body

/-- The event of a request by the status and the reason of its outcome. -/
def eventOf (request : Http.Request) (body : Option Json) (status : Nat)
    (reason : Option String) : Json :=
  .object <|
    [("method", .text request.method), ("path", .text request.urlPath),
     ("status_code", .int status), ("ajax", .bool request.isFromScript)] ++
    memberIf "query_params" (requestQuery request) ++
    memberIf "request_body" (bodyMember body) ++
    memberIf "error" (reasonMember reason)

/-- Records an event, or notes that the recorder failed. -/
def ingest (recorder : Recorder) (event : Json) : Run σ Unit :=
  if recorder.fails then
    Run.log ⟨.warning, loggerName, "Axiom ingest failed: ingest refused", none⟩
  else Run.record recorder.dataset event

/-- The first line of each name, with the length of the body if no line gives it. -/
def rebuiltHeaders (response : Http.Response) : Http.Headers :=
  let names := (response.headers.map (·.1)).eraseDups
  let lines := names.filterMap fun name =>
    (Http.header? name response.headers).map fun value => (name, value)
  let bodiless := response.status < 200 || response.status == 204 || response.status == 304
  if names.contains "content-length" || bodiless then lines
  else lines ++ [Http.Response.lengthLine response.body]

/-- The response that is sent on in the place of an error response. -/
def rebuild (response : Http.Response) : Http.Response :=
  { response with headers := rebuiltHeaders response }

/-- Records what an application does with a request. -/
def observe (recorder : Recorder) (application : Http.Request → Run σ Http.Response)
    (request : Http.Request) : Run σ Http.Response := do
  let body ← Run.lift (requestBody request)
  match ← Run.attempt (application request) with
  | .error fault =>
    ingest recorder (eventOf request body 500 (some (faultReason fault)))
    throw fault
  | .ok response =>
    if response.status < 400 then
      ingest recorder (eventOf request body response.status none)
      return response
    else match errorOf response.body with
      | .ok reason =>
        ingest recorder (eventOf request body response.status (some reason))
        return rebuild response
      | .error fault =>
        ingest recorder (eventOf request body response.status (some (faultReason fault)))
        throw fault

/-- Records what an application does, if there is a recorder and the path is captured. The path is
found before anything else, with or without a recorder. -/
def capture (recorder : Option Recorder) (application : Http.Request → Run σ Http.Response)
    (request : Http.Request) : Run σ Http.Response := do
  let path ← Run.lift request.address
  match recorder with
  | none => application request
  | some recorder =>
    if skippedPaths.contains path then application request
    else observe recorder application request

end ServiceRegistry.Audit
