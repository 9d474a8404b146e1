import ServiceRegistry.Json.Value
import ServiceRegistry.Pattern.Charset

/-!
# Masking

Values that are stored under sensitive keys are hidden before they are recorded, long lists are
cut, and what lies deep is left out.

Results:

* `isSensitive`: whether a key is sensitive.
* `maskAt`, `mask`: the harmless part of a value.
-/

namespace ServiceRegistry.Audit

/-- The words that make a key sensitive. -/
def sensitiveWords : List (List Char) :=
  ["password", "passwd", "secret", "token", "authorization", "api_key", "apikey", "credential",
   "session"].map String.toList

/-- Whether a text begins with a word, in any letter case. -/
def beginsWith : List Char → List Char → Bool
  | [], _ => true
  | _ :: _, [] => false
  | letter :: word, c :: cs => Pattern.codeHolds .start c letter.toNat && beginsWith word cs

/-- Whether a text has a word somewhere, in any letter case. -/
def hasWord (word : List Char) : List Char → Bool
  | [] => beginsWith word []
  | c :: cs => beginsWith word (c :: cs) || hasWord word cs

/-- A key is sensitive if it has one of the sensitive words. -/
def isSensitive (key : String) : Bool :=
  sensitiveWords.any (hasWord · key.toList)

/-- The depth below which nothing is recorded. -/
def depthLimit : Int := 5

/-- The number of items of a list that are recorded. -/
def itemLimit : Nat := 20

/-- What stands for a sensitive value. -/
def hidden : Json := .text "***"

/-- What stands for a value that lies too deep. -/
def elided : Json := .text "..."

mutual

/-- The harmless part of a value at a depth. -/
def maskAt (depth : Int) : Json → Json
  | .object members =>
    if depth > depthLimit then elided else .object (maskMembers (depth + 1) members)
  | .list items =>
    if depth > depthLimit then elided else .list (maskItems (depth + 1) itemLimit items)
  | value => if depth > depthLimit then elided else value

/-- The harmless parts of the first items of a list. -/
def maskItems (depth : Int) : Nat → List Json → List Json
  | count + 1, item :: rest => maskAt depth item :: maskItems depth count rest
  | _, _ => []

/-- The members of an object with their values hidden or masked. -/
def maskMembers (depth : Int) : List (String × Json) → List (String × Json)
  | [] => []
  | (key, value) :: rest =>
    (key, if isSensitive key then hidden else maskAt depth value) :: maskMembers depth rest

end

/-- The harmless part of a value. -/
def mask (value : Json) : Json :=
  maskAt 0 value

end ServiceRegistry.Audit
