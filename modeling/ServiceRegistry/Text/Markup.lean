/-!
# Text inside markup

Results:

* `markupChar`, `markup`: the five characters that have a meaning in markup are written as
  entities, all others as themselves.
-/

namespace ServiceRegistry.Text

/-- One character as markup text. -/
def markupChar (c : Char) : List Char :=
  if c == '&' then "&amp;".toList
  else if c == '<' then "&lt;".toList
  else if c == '>' then "&gt;".toList
  else if c == '"' then "&quot;".toList
  else if c == '\'' then "&#x27;".toList
  else [c]

/-- A text as markup text. -/
def markup (cs : List Char) : List Char :=
  cs.flatMap markupChar

end ServiceRegistry.Text
