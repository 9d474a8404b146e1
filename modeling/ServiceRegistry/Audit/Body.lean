import ServiceRegistry.Fault
import ServiceRegistry.Form.UrlEncoded

/-!
# Bodies as they are recorded

Results:

* `formRecord`: the object that a form is recorded as; a name with several values has them in a
  list.
* `recordBody`: the value that a body is recorded as.
-/

namespace ServiceRegistry.Audit

/-- The content type of forms in the encoding of addresses. -/
def urlEncodedType : String := "application/x-www-form-urlencoded"

/-- The content type of forms in several parts. -/
def multipartType : String := "multipart/form-data"

/-- The values of one name: a text, or a list if there are several. -/
def valuesRecord : List String → Json
  | [value] => .text value
  | values => .list (values.map Json.text)

/-- The object that the pairs of a form are recorded as. -/
def formRecord (pairs : List (String × String)) : Json :=
  .object ((Form.groupPairs pairs).map fun group => (group.1, valuesRecord group.2))

/-- Whether a text starts with another one. -/
def startsWith (s start : String) : Bool :=
  start.toList.isPrefixOf s.toList

/-- The value that a body is recorded as: a form without its blank values, a note for a form in
several parts, and otherwise a document. -/
def recordBody (contentType : String) (bytes : List UInt8) : Except Fault Json :=
  if startsWith contentType urlEncodedType then
    match Text.utf8Decode bytes with
    | .ok cs => .ok (formRecord (Form.formPairs false cs))
    | .error fault => .error (.undecodable fault)
  else if startsWith contentType multipartType then .ok (.text "(multipart body)")
  else match Json.readDocument bytes with
    | .ok value => .ok value
    | .error fault => .error (.document fault)

end ServiceRegistry.Audit
