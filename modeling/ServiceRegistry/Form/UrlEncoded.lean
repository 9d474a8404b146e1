import ServiceRegistry.Text.Percent
import ServiceRegistry.Text.Split

/-!
# Forms in the encoding of addresses

A form is a text of pairs, parted by ampersands; the first equals sign of a pair ends its name.

Results:

* `formPairs`: the pairs of a text, with or without those whose value is blank.
* `formText`: the text of some pairs.
* `groupPairs`: the values of each name, in the order in which the names came first.
* `valuesOf`: the values of one name.
-/

namespace ServiceRegistry.Form

/-- The text before the first equals sign and the text after it. -/
def splitPair (part : List Char) : List Char × List Char :=
  (part.takeWhile (· != '='), (part.dropWhile (· != '=')).tail)

/-- The pairs of a text. Empty parts are no pairs, and a part without an equals sign has a blank
value. -/
def formPairs (keepBlank : Bool) (cs : List Char) : List (String × String) :=
  (Text.splitAt '&' cs).filterMap fun part =>
    let (name, value) := splitPair part
    if part.isEmpty || (value.isEmpty && !keepBlank) then none
    else some (String.ofList (Text.formDecode name), String.ofList (Text.formDecode value))

/-- The text of one pair. -/
def pairText (pair : String × String) : List Char :=
  Text.formEncode pair.1.toList ++ '=' :: Text.formEncode pair.2.toList

/-- The text of some pairs. -/
def formText : List (String × String) → List Char
  | [] => []
  | [pair] => pairText pair
  | pair :: next :: rest => pairText pair ++ '&' :: formText (next :: rest)

/-- Adds a value to those of its name. -/
def addValue (name value : String) : List (String × List String) → List (String × List String)
  | [] => [(name, [value])]
  | group :: rest =>
    if group.1 == name then (group.1, group.2 ++ [value]) :: rest
    else group :: addValue name value rest

/-- The values of each name. -/
def groupPairs (pairs : List (String × String)) : List (String × List String) :=
  pairs.foldl (fun groups pair => addValue pair.1 pair.2 groups) []

/-- The values of one name. -/
def valuesOf (name : String) (pairs : List (String × String)) : List String :=
  (pairs.filter (·.1 == name)).map (·.2)

end ServiceRegistry.Form
