import ServiceRegistry.Http.SessionCookie

/-!
# Requests from other origins

Results:

* `Cors.preflight?`: the answer to a question whether a request will be allowed.
* `Cors.withOrigin`: says in every other response to whom it may be shown.
-/

namespace ServiceRegistry.Http.Cors

variable {σ : Type}

/-- The methods that may be used from another origin. -/
def methods : List String :=
  ["DELETE", "GET", "HEAD", "OPTIONS", "PATCH", "POST", "PUT", "QUERY"]

/-- The line that allows credentials. -/
def credentialsLine : String × String := ("access-control-allow-credentials", "true")

/-- The line that allows an origin, if it is among the allowed ones. -/
def originLines (origins : List String) (origin : String) : Headers :=
  if origins.contains origin then [("access-control-allow-origin", origin)] else []

/-- The reasons to refuse a question. -/
def refusals (origins : List String) (origin method : String) (headers : Headers) : List String :=
  (if origins.contains origin then [] else ["origin"]) ++
  (if methods.contains method then [] else ["method"]) ++
  (if (header? "access-control-request-private-network" headers).isSome then ["private-network"]
    else [])

/-- The answer to a question. -/
def answerQuestion (origins : List String) (origin method : String) (headers : Headers) :
    Response :=
  let refusals := refusals origins origin method headers
  let base := if refusals.isEmpty then Response.content 200 "text/plain; charset=utf-8" "OK"
    else Response.content 400 "text/plain; charset=utf-8"
      ("Disallowed CORS " ++ ", ".intercalate refusals)
  let asked := match header? "access-control-request-headers" headers with
    | some names => [("access-control-allow-headers", names)]
    | none => []
  { base with headers := base.headers ++
      [("vary", "Origin, Access-Control-Request-Method, Access-Control-Request-Headers, " ++
          "Access-Control-Request-Private-Network"),
       ("access-control-allow-methods", ", ".intercalate methods),
       ("access-control-max-age", "600"), credentialsLine] ++
      originLines origins origin ++ asked }

/-- The answer to a request that only asks whether another one will be allowed. -/
def preflight? (origins : List String) (request : Request) : Option Response := do
  let origin ← header? "origin" request.headers
  let method ← header? "access-control-request-method" request.headers
  if request.method == "OPTIONS" then some (answerQuestion origins origin method request.headers)
  else none

/-- Says in a response to whom it may be shown. -/
def withOrigin (origins : List String) (request : Request) (response : Response) : Response :=
  let lines := match header? "origin" request.headers with
    | some origin => credentialsLine :: originLines origins origin
    | none => []
  { response with headers := addVary "Origin" response.headers ++ lines }

/-- Answers questions itself and marks the responses to all other requests. -/
def around (origins : List String) (application : Request → Run σ Response) (request : Request) :
    Run σ Response :=
  match preflight? origins request with
  | some response => return response
  | none => return withOrigin origins request (← application request)

end ServiceRegistry.Http.Cors
