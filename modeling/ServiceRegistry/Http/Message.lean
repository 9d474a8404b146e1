import ServiceRegistry.Json.Printer
import ServiceRegistry.Text.Utf8

/-!
# Requests and responses

Results:

* `Request`: a request with its headers in the order in which they came, names in lower case.
* `Response`: a response with its headers in the order in which they are sent.
* `Response.ofPieces`: a response whose body comes in pieces.
* `header?`: the first value of a header.
-/

namespace ServiceRegistry.Http

/-- Header lines: names in lower case, with their values. -/
abbrev Headers := List (String × String)

/-- The first value of a header. -/
def header? (name : String) (headers : Headers) : Option String :=
  headers.lookup name

/-- A request. `session` is what the signed session cookie holds, if it came with one. -/
structure Request where
  method : String
  path : String
  query : List UInt8
  headers : Headers
  body : List UInt8
  session : Option (List (String × Json))
  deriving Repr

/-- The header by which a request says that a script made it, and its value. -/
def scriptHeader : String := "x-requested-with"

/-- The value of the header of scripts. -/
def scriptValue : String := "XMLHttpRequest"

/-- Whether a script made the request. -/
def Request.isFromScript (request : Request) : Bool :=
  header? scriptHeader request.headers == some scriptValue

/-- A response. -/
structure Response where
  status : Nat
  headers : Headers
  body : List UInt8
  deriving Repr

namespace Response

/-- A response whose body comes in pieces, which are put together as they come. -/
def ofPieces (status : Nat) (headers : Headers) (pieces : List (List UInt8)) : Response :=
  ⟨status, headers, pieces.foldl (· ++ ·) []⟩

theorem ofPieces_eq (status : Nat) (headers : Headers) (pieces : List (List UInt8)) :
    ofPieces status headers pieces = ⟨status, headers, pieces.flatten⟩ := by
  suffices ∀ before : List UInt8, pieces.foldl (· ++ ·) before = before ++ pieces.flatten by
    simp [ofPieces, this []]
  induction pieces with
  | nil => simp
  | cons piece rest ih => exact fun before => by simp [ih]

/-- The length of a body as a header line. -/
def lengthLine (body : List UInt8) : String × String :=
  ("content-length", toString body.length)

/-- A response without a body. -/
def blank (status : Nat) : Response :=
  ⟨status, [lengthLine []], []⟩

/-- A response with a text. -/
def content (status : Nat) (contentType : String) (body : String) : Response :=
  let bytes := Text.utf8Encode body.toList
  ⟨status, [lengthLine bytes, ("content-type", contentType)], bytes⟩

/-- A response with a JSON value. -/
def json (status : Nat) (value : Json) : Response :=
  content status "application/json" value.print

end Response

end ServiceRegistry.Http
