import ServiceRegistry.Issue
import ServiceRegistry.Json.Document
import ServiceRegistry.Json.Shown
import ServiceRegistry.Pattern.Reader
import ServiceRegistry.Text.Authority

/-!
# Faults

Everything that can stop an operation, by its cause.

Results:

* `Fault.label`: the name that a fault goes by in answers and log records.
* `Fault.message`: its wording.
* `Fault.status?`: the status of the faults that are answers to a request by themselves.
-/

namespace ServiceRegistry

/-- Refusals by the storage of the registry. -/
inductive StorageFault
  | integrity
  | statement
  | operational
  deriving Repr, DecidableEq

/-- The kinds of failures that an application may end with. -/
inductive FailureKind
  | runtime
  | value
  | key
  deriving Repr, DecidableEq

/-- A failure of an application, with the values that describe it. -/
structure Failure where
  kind : FailureKind
  arguments : List Json
  deriving Repr

/-- Why an operation stopped. -/
inductive Fault
  | notFound (detail : String)
  | invalidRequest (detail : String)
  | configuration (detail : String)
  | refused (status : Nat) (detail : String)
  | invalidForm (issues : List (IssueWith Shown))
  | invalidRecord (model : String) (issues : List Issue)
  | storage (fault : StorageFault)
  | integerTooLarge
  | registryUnavailable
  | pattern (fault : Pattern.ReadFault)
  | unknownField (name : String)
  | unknownView (name : String)
  | undecodable (fault : Text.DecodeFault)
  | unencodable (fault : Text.EncodeFault)
  | unreadableAddress (fault : Text.AuthorityFault)
  | document (fault : Json.DocumentFault)
  | failure (cause : Failure)
  deriving Repr

/-- The label of a refusal by the storage. -/
def StorageFault.label : StorageFault → String
  | .integrity => "IntegrityError"
  | .statement => "StatementError"
  | .operational => "OperationalError"

/-- The label of a kind of failures. -/
def FailureKind.label : FailureKind → String
  | .runtime => "RuntimeError"
  | .value => "ValueError"
  | .key => "KeyError"

/-- The wording of a failure: one value alone is displayed, of a missing key in its quoted form,
and several stand in parentheses. -/
def Failure.message (failure : Failure) : String :=
  match failure.arguments with
  | [] => ""
  | [argument] =>
    if failure.kind = .key then argument.quotedDisplay else argument.display
  | arguments => "(" ++ ", ".intercalate (arguments.map Json.quotedDisplay) ++ ")"

/-- The label of a pattern that could not be read. -/
def patternLabel : Pattern.ReadFault → String
  | .malformed => "error"
  | .countTooLarge => "OverflowError"
  | .countTooLong _ => "ValueError"
  | .clashingModes => "ValueError"
  | .tooDeep => "RecursionError"

/-- The wording of a pattern that could not be read. -/
def patternMessage : Pattern.ReadFault → String
  | .malformed => "malformed pattern"
  | .countTooLarge => "the repetition number is too large"
  | .countTooLong digits => Json.tooManyDigitsMessage digits
  | .clashingModes => "ASCII and UNICODE flags are incompatible"
  | .tooDeep => "maximum recursion depth exceeded"

/-- The label of a document that could not be read. -/
def documentLabel : Json.DocumentFault → String
  | .undecodable _ => "UnicodeDecodeError"
  | .unreadable _ (.malformed ..) => "JSONDecodeError"
  | .unreadable _ (.tooManyDigits _) => "ValueError"
  | .unreadable _ (.tooDeep _) => "RecursionError"

namespace Fault

/-- The name that a fault goes by. -/
def label : Fault → String
  | .notFound _ => "NotFoundError"
  | .invalidRequest _ => "ValidationError"
  | .configuration _ => "ConfigurationError"
  | .refused .. => "HTTPException"
  | .invalidForm _ => "RequestValidationError"
  | .invalidRecord .. => "ValidationError"
  | .storage fault => fault.label
  | .integerTooLarge => "OverflowError"
  | .registryUnavailable => "RuntimeError"
  | .pattern fault => patternLabel fault
  | .unknownField _ => "TypeError"
  | .unknownView _ => "ValueError"
  | .undecodable _ => "UnicodeDecodeError"
  | .unencodable _ => "UnicodeEncodeError"
  | .unreadableAddress _ => "ValueError"
  | .document fault => documentLabel fault
  | .failure cause => cause.kind.label

/-- The wording of a fault. The issues with a form are left out of it: `<list>` stands for them. -/
def message : Fault → String
  | .notFound detail => detail
  | .invalidRequest detail => detail
  | .configuration detail => detail
  | .refused _ detail => detail
  | .invalidForm _ => "<list>"
  | .invalidRecord model issues => issuesText model issues
  | .storage fault => fault.label
  | .integerTooLarge => "Python int too large to convert to SQLite INTEGER"
  | .registryUnavailable => "registry unavailable"
  | .pattern fault => patternMessage fault
  | .unknownField name =>
    Text.quoted name ++ " is an invalid keyword argument for RegisteredService"
  | .unknownView name => "Unknown view: " ++ name
  | .undecodable fault => fault.message
  | .unencodable fault => fault.message
  | .unreadableAddress fault => fault.message
  | .document fault => fault.message
  | .failure cause => cause.message

/-- The wording of a missing resource about which nothing more is known. -/
def notFoundDetail : String := "Resource not found"

/-- The wording of a bad request about which nothing more is known. -/
def invalidRequestDetail : String := "Bad request"

/-- The wording of a bad configuration about which nothing more is known. -/
def configurationDetail : String := "Invalid configuration"

/-- The status of the faults that answer a request by themselves. -/
def status? : Fault → Option Nat
  | .notFound _ => some 404
  | .invalidRequest _ => some 400
  | .configuration _ => some 500
  | .refused status _ => some status
  | .invalidForm _ => some 422
  | _ => none

/-- The status and the wording of a fault. -/
def statusLine (fault : Fault) : String :=
  match fault.status? with
  | some status => toString status ++ ": " ++ fault.message
  | none => fault.message

end Fault

end ServiceRegistry
