import ServiceRegistry.Http.Application

/-!
# The session cookie

Results:

* `withSession`: tells the client to forget a session that was cleared.
-/

namespace ServiceRegistry.Http

variable {σ : Type}

/-- Adds a name to the headers that a response varies with. -/
def addVary (name : String) : Headers → Headers
  | [] => [("vary", name)]
  | (key, value) :: rest =>
    if key == "vary" then (key, value ++ ", " ++ name) :: rest
    else (key, value) :: addVary name rest

/-- The line that makes a client forget the session. -/
def forgetLine : String × String :=
  ("set-cookie", "services_management_session=null; path=/; " ++
    "expires=Thu, 01 Jan 1970 00:00:00 GMT; httponly; samesite=lax")

/-- The response of a reply. A response that made use of the session varies with the cookie, and
a session that came with the request and was cleared is forgotten. -/
def withSession (application : Request → Run σ Reply) (request : Request) : Run σ Response := do
  let reply ← application request
  match reply.session with
  | .untouched => return reply.response
  | .cleared =>
    let headers := addVary "Cookie" reply.response.headers
    return { reply.response with
      headers := if request.session.isSome then headers ++ [forgetLine] else headers }

end ServiceRegistry.Http
