/-!
# Replacing a mark in a text

Results:

* `replaceAll`: a text with every occurrence of a mark replaced.
-/

namespace ServiceRegistry.Text

/-- A text without its first `skip` characters and with every occurrence of a mark replaced, from
left to right. What is written in the place of a mark is not searched. -/
def replaceFrom (mark new : List Char) : Nat → List Char → List Char
  | _, [] => []
  | skip + 1, _ :: rest => replaceFrom mark new skip rest
  | 0, c :: rest =>
    if mark.isPrefixOf (c :: rest) then new ++ replaceFrom mark new (mark.length - 1) rest
    else c :: replaceFrom mark new 0 rest

/-- A text with every occurrence of a mark replaced. The mark is not empty. -/
def replaceAll (mark new text : List Char) : List Char :=
  replaceFrom mark new 0 text

end ServiceRegistry.Text
