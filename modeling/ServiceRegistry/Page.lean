import ServiceRegistry.Fault
import ServiceRegistry.Http.Message
import ServiceRegistry.Text.Markup
import ServiceRegistry.Text.Replace

/-!
# Pages

The pages of the administration: the table of services, the farewell and the refusal. A page is a
frame in which marks are replaced one after the other by the title, the name and the content of its
view. The content of the table of services has a mark of its own, for the address of the
administration. The address is the only part that comes from outside, and it is written as markup
text.

Results:

* `View`: a view with its model.
* `View.frame`, `View.content`: the frame of all pages, and what a view puts into it.
* `View.page`: the text of a view, if there is one of its name.
* `View.render`: the page as a response.
-/

namespace ServiceRegistry

/-- The name of a view and the values that it shows. -/
structure View where
  name : String
  model : List (String × Json)
  deriving Repr

namespace View

/-! ## Views -/

/-- The view of the table of services, which shows the address of the administration. -/
def manage (defaultUrl : String) : View :=
  ⟨"manage", [("defaultServiceUrl", .text defaultUrl)]⟩

/-- The view after the end of a session. -/
def logout : View := ⟨"logout", []⟩

/-- The view of those who are not authorized. -/
def authorizationFailure : View := ⟨"authorizationFailure", []⟩

/-- A view as the values of a name and a model give it. -/
def ofJson (name : Json) (model : Option Json) : Except Fault View :=
  let nameIssues : List Issue := match name with
    | .text _ => []
    | value => [⟨.textKind, [.key "view_name"], value⟩]
  let modelIssues : List Issue := match model with
    | none => []
    | some (.object _) => []
    | some value => [⟨.objectKind, [.key "model"], value⟩]
  match name, model, nameIssues ++ modelIssues with
  | .text name, some (.object members), [] => .ok ⟨name, members⟩
  | .text name, _, [] => .ok ⟨name, []⟩
  | _, _, issues => .error (.invalidRecord "ViewModel" issues)

/-! ## Marks -/

/-- The mark of a name: the name in two pairs of braces. -/
def mark (name : String) : String := "\x7b\x7b" ++ name ++ "\x7d\x7d"

/-- The mark in whose place the title stands. -/
def titleMark : String := mark "TITLE"

/-- The mark in whose place the name of the view stands. -/
def nameMark : String := mark "VIEW"

/-- The mark in whose place the content stands. -/
def contentMark : String := mark "CONTENT"

/-- The mark in whose place the address of the administration stands. -/
def urlMark : String := mark "DEFAULT_SERVICE_URL"

/-- A template with a text in the place of every occurrence of a mark. -/
def fill (mark text template : String) : String :=
  String.ofList (Text.replaceAll mark.toList text.toList template.toList)

/-- A text as markup text. -/
def escaped (text : String) : String :=
  String.ofList (Text.markup text.toList)

/-- A text of some lines. -/
def lines (texts : List String) : String := "\n".intercalate texts

/-! ## The frame -/

/-- The frame up to the title. -/
def frameStart : String :=
  lines [
    "<!DOCTYPE html>",
    "<html>",
    "<head>",
    "<meta charset=\"utf-8\">",
    "<meta name=\"viewport\" content=\"width=device-width, initial-scale=1\">",
    "<title>"]

/-- The frame between the title and the name of the view. -/
def frameStyle : String :=
  lines [
    "</title>",
    "<style>",
    "body\x7bfont-family:system-ui,sans-serif;background:#111;color:#eee;" ++
      "margin:0;padding:40px\x7d",
    ".card\x7bbackground:#1a1a2e;border:1px solid #333;border-radius:12px;" ++
      "padding:32px;max-width:960px;margin:0 auto\x7d",
    "h2\x7bmargin:0 0 16px\x7d",
    "table\x7bwidth:100%;border-collapse:collapse;font-size:14px\x7d",
    "th,td\x7bpadding:8px;border-bottom:1px solid #333;text-align:left\x7d",
    ".muted\x7bcolor:#aaa;font-size:13px\x7d",
    "a\x7bcolor:#6c5ce7\x7d",
    "</style>",
    "</head>",
    "<body data-view=\""]

/-- The frame between the name of the view and its content. -/
def frameBody : String :=
  lines ["\">", "<div class=\"card\">", ""]

/-- The frame after the content. -/
def frameEnd : String :=
  lines ["", "</div>", "</body>", "</html>"]

/-- The frame of all pages. -/
def frame : String :=
  frameStart ++ titleMark ++ frameStyle ++ nameMark ++ frameBody ++ contentMark ++ frameEnd

/-! ## Contents -/

/-- The content of the table of services up to the address. -/
def manageStart : String :=
  lines [
    "<h2>Manage Services</h2>",
    "<p class=\"muted\">Management application service: <code id=\"defaultServiceUrl\">"]

/-- The content of the table of services after the address. -/
def manageEnd : String :=
  lines [
    "</code></p>",
    "<table id=\"services\">",
    "<thead><tr><th>Name</th><th>Service URL</th><th>Order</th><th></th></tr></thead>",
    "<tbody></tbody>",
    "</table>",
    "<script>",
    "function ajax(method, url, body) \x7b",
    "  return fetch(url, \x7bmethod: method, body: body, headers: " ++
      "\x7b\"X-Requested-With\": \"XMLHttpRequest\"\x7d\x7d);",
    "\x7d",
    "async function loadServices() \x7b",
    "  const res = await ajax(\"GET\", \"getServices\");",
    "  const data = await res.json();",
    "  const tbody = document.querySelector(\"#services tbody\");",
    "  tbody.innerHTML = \"\";",
    "  for (const svc of data.services) \x7b",
    "    const tr = document.createElement(\"tr\");",
    "    tr.dataset.id = svc.id;",
    "    for (const value of [svc.name, svc.serviceId, svc.evaluationOrder]) \x7b",
    "      const td = document.createElement(\"td\");",
    "      td.textContent = value;",
    "      tr.appendChild(td);",
    "    \x7d",
    "    const del = document.createElement(\"td\");",
    "    const link = document.createElement(\"a\");",
    "    link.href = \"#\";",
    "    link.textContent = \"Delete\";",
    "    link.onclick = async () => \x7b",
    "      const form = new FormData();",
    "      form.append(\"id\", svc.id);",
    "      await ajax(\"POST\", \"deleteRegisteredService\", form);",
    "      loadServices();",
    "      return false;",
    "    \x7d;",
    "    del.appendChild(link);",
    "    tr.appendChild(del);",
    "    tbody.appendChild(tr);",
    "  \x7d",
    "\x7d",
    "loadServices();",
    "</script>"]

/-- The content of the table of services. -/
def manageContent : String := manageStart ++ urlMark ++ manageEnd

/-- The content of the farewell. -/
def logoutContent : String :=
  lines [
    "<h2>Logged Out</h2>",
    "<p>You have successfully logged out of the Services Management web application.</p>",
    "<p><a href=\"manage\">Log in again</a></p>"]

/-- The content of the refusal. -/
def authorizationFailureContent : String :=
  lines [
    "<h2>Authorization Failure</h2>",
    "<p>You are not authorized to use the Services Management web application.</p>"]

/-! ## Pages -/

/-- The titles of the views. -/
def titles : List (String × String) :=
  [("manage", "Services Management"), ("logout", "Logged Out"),
   ("authorizationFailure", "Authorization Failure")]

/-- The title of a view, which is its name if it has no other. -/
def title (view : View) : String :=
  (titles.lookup view.name).getD view.name

/-- The address that the table of services shows. -/
def shownUrl (view : View) : String :=
  ((view.model.lookup "defaultServiceUrl").getD (.text "")).display

/-- The content of a view, if there is a view of its name. -/
def content (view : View) : Except Fault String :=
  if view.name = "manage" then .ok (fill urlMark (escaped view.shownUrl) manageContent)
  else if view.name = "logout" then .ok logoutContent
  else if view.name = "authorizationFailure" then .ok authorizationFailureContent
  else .error (.unknownView view.name)

/-- The text of the page of a view. -/
def page (view : View) : Except Fault String := do
  let titled := fill titleMark view.title frame
  let named := fill nameMark (escaped view.name) titled
  return fill contentMark (← view.content) named

/-- The page of a view as a response. -/
def render (view : View) : Except Fault Http.Response :=
  view.page.map (Http.Response.content 200 "text/html; charset=utf-8")

end View

end ServiceRegistry
