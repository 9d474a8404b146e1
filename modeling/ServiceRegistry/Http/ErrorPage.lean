import ServiceRegistry.Http.Application

/-!
# Errors as responses

A fault is logged and answered by its status: for a script with a JSON document that says what
happened, and otherwise without a body. The record names the path of the address, so nothing is
logged or answered if the address cannot be read. A document in which a text has a surrogate cannot
be written, which is found out after the record.

Results:

* `answerFault`: the response to a fault.
* `answerRefusals`: answers the faults that have a status of their own.
* `guard`: answers all other faults, and says which it was.
-/

namespace ServiceRegistry.Http

variable {σ : Type}

/-- The name of the logger of errors. -/
def errorLogger : String := "app.api.error_handlers"

/-- An issue as a part of a document. -/
def issueShown (issue : IssueWith Shown) : Shown :=
  .object
    [("type", .plain (.text issue.kind.code)),
     ("loc", .plain (.list (issue.place.map Step.toJson))),
     ("msg", .plain (.text issue.message)), ("input", issue.input)]

/-- The wording of a fault as a part of a document: of a form, the list of its issues. -/
def faultMessageShown : Fault → Shown
  | .invalidForm issues => .list (issues.map issueShown)
  | fault => .plain (.text fault.message)

/-- The document that describes a fault. -/
def faultDocument (fault : Fault) (status : Nat) : Shown :=
  .object [("error", .object
    [("type", .plain (.text fault.label)), ("message", faultMessageShown fault),
     ("status", .plain (.int status))])]

/-- The response with a document, or the fault that it cannot be written. -/
def documentResponse (status : Nat) (document : Shown) : Except Fault Response :=
  match Text.encodeCodes document.print with
  | .ok bytes =>
    .ok ⟨status, [Response.lengthLine bytes, ("content-type", "application/json")], bytes⟩
  | .error fault => .error (.unencodable fault)

/-- The response to a fault, which is logged. -/
def answerFault (request : Request) (fault : Fault) (status : Nat) : Run σ Response := do
  let path ← Run.lift request.address
  Run.log ⟨.error, errorLogger, request.method ++ " " ++ path ++ " failed: " ++ fault.message,
    some fault.label⟩
  if request.isFromScript then
    Run.log ⟨.debug, errorLogger, "Handling exception " ++ fault.label ++
      " for ajax request indicated by header " ++ scriptHeader, none⟩
    Run.lift (documentResponse status (faultDocument fault status))
  else
    Run.log ⟨.debug, errorLogger, "Unable to resolve exception " ++ fault.label ++
      " for request. Ajax request header " ++ scriptHeader ++ " not found.", none⟩
    return .blank status

/-- Answers the faults of an application that have a status of their own. -/
def answerRefusals (application : Request → Run σ Reply) (request : Request) : Run σ Reply := do
  match ← Run.attempt (application request) with
  | .ok reply => return reply
  | .error fault =>
    match fault.status? with
    | some status => return Application.plain (← answerFault request fault status)
    | none => throw fault

/-- Answers every fault that is left, and gives it beside the response. If the answer fails itself,
there is no response, and its fault is the one that is given. -/
def guard (application : Request → Run σ Response) (request : Request) :
    Run σ (Option Response × Option Fault) := do
  match ← Run.attempt (application request) with
  | .ok response => return (some response, none)
  | .error fault =>
    match ← Run.attempt (answerFault request fault 500) with
    | .ok response => return (some response, some fault)
    | .error fault => return (none, some fault)

end ServiceRegistry.Http
