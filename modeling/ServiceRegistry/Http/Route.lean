import ServiceRegistry.Http.Message

/-!
# Routes

Every page of the administration has two paths, of which one ends in `.html`. A path may be
followed by one line feed.

Results:

* `Route`: what a path leads to.
* `Route.ofPath?`: the route of a path.
* `slashTwin?`: the path with or without slashes at its end, if that has a route.
-/

namespace ServiceRegistry.Http

/-- What a path leads to. -/
inductive Route
  | health
  | authorizationFailure
  | logout
  | delete
  | manage
  | listing
  | reorder
  | documentation
  deriving Repr, DecidableEq

namespace Route

/-- The paths of the pages, without their second form. -/
def pages : List (String × Route) :=
  [("/authorizationFailure", .authorizationFailure), ("/logout", .logout),
   ("/deleteRegisteredService", .delete), ("/manage", .manage), ("/getServices", .listing),
   ("/updateRegisteredServiceEvaluationOrder", .reorder)]

/-- The paths with one form. -/
def single : List (String × Route) :=
  [("/health", .health), ("/docs", .documentation), ("/redoc", .documentation),
   ("/openapi.json", .documentation), ("/docs/oauth2-redirect", .documentation)]

/-- All paths. -/
def table : List (String × Route) :=
  single ++ pages ++ pages.map fun (path, route) => (path ++ ".html", route)

/-- The path without a line feed at its end. -/
def dropLineFeed (path : String) : String :=
  match path.toList.reverse with
  | '\n' :: rest => String.ofList rest.reverse
  | _ => path

/-- The route of a path. -/
def ofPath? (path : String) : Option Route :=
  table.lookup (dropLineFeed path)

/-- The methods of a route. -/
def methods : Route → List String
  | .delete => ["POST"]
  | .reorder => ["POST"]
  | .documentation => ["GET", "HEAD"]
  | _ => ["GET"]

end Route

/-- The path without the slashes at its end, or with one if there are none. -/
def toggleSlash (path : String) : String :=
  match path.toList.reverse with
  | '/' :: rest => String.ofList (rest.dropWhile (· == '/')).reverse
  | _ => path ++ "/"

/-- The path with or without slashes at its end, if that has a route. -/
def slashTwin? (path : String) : Option String :=
  let twin := toggleSlash path
  if path == "/" || (Route.ofPath? twin).isNone then none else some twin

end ServiceRegistry.Http
