import ServiceRegistry.Fault
import ServiceRegistry.Http.Message
import ServiceRegistry.Text.Percent

/-!
# Addresses of requests

The address of a request is put together from its host, its path and its query, and taken apart
again to find the path. It cannot be read if the query is not UTF-8 or if what stands before the
first slash is no authority.

Results:

* `Request.host`: the host of a request; one that names none is for the host `test`.
* `Request.urlPath`: the path of a request as its address shows it.
* `Request.address`: the same, or why the address cannot be read.
* `Request.location`: the address of another path with the same query.
-/

namespace ServiceRegistry.Http

/-- A line break or a tab, none of which is part of an address. -/
def isAddressBreak (c : Char) : Bool :=
  c == '\t' || c == '\n' || c == '\r'

/-- The host that a request is addressed to: the one that it names, or the standard one. -/
def Request.host (request : Request) : String :=
  (header? "host" request.headers).getD "test"

/-- The path of an address without its scheme: without breaks, from the first slash on, and up to a
question mark or number sign. -/
def shownPath (address : String) : String :=
  let cs := address.toList.filter (!isAddressBreak ·)
  let fromSlash := cs.dropWhile fun c => c != '/' && c != '?' && c != '#'
  String.ofList (fromSlash.takeWhile fun c => c != '?' && c != '#')

/-- The path of a request as its address shows it. -/
def Request.urlPath (request : Request) : String :=
  shownPath (request.host ++ request.path)

/-- The authority of an address without its scheme: without breaks, up to the first slash, question
mark or number sign. -/
def authorityOf (address : String) : List Char :=
  (address.toList.filter (!isAddressBreak ·)).takeWhile fun c => c != '/' && c != '?' && c != '#'

/-- The path of a request as its address shows it, or why the address cannot be read. The query is
decoded before the address is taken apart. -/
def Request.address (request : Request) : Except Fault String :=
  match Text.utf8Decode request.query with
  | .error fault => .error (.undecodable fault)
  | .ok _ =>
    match Text.authorityFault? (authorityOf (request.host ++ request.path)) with
    | some fault => .error (.unreadableAddress fault)
    | none => .ok request.urlPath

/-- The characters that stay in an address when it is sent as a location. -/
def staysInLocation (b : UInt8) : Bool :=
  Text.isUnreserved b || (":/%#?=@[]!$&'()*+,;".toList.contains (Char.ofNat b.toNat) && b < 128)

/-- The address of a path on the host of a request, with the query of the request, which must be
UTF-8. -/
def Request.location (request : Request) (path : String) : Except Fault String :=
  match Text.utf8Decode request.query with
  | .error fault => .error (.undecodable fault)
  | .ok query =>
    let query := if query.isEmpty then [] else '?' :: query
    .ok (String.ofList (Text.percentQuote staysInLocation
      ("http://".toList ++ request.host.toList ++ path.toList ++ query)))

/-- The pairs of the query of a request. -/
def Request.queryText (request : Request) : List Char :=
  Text.latin1Decode request.query

end ServiceRegistry.Http
