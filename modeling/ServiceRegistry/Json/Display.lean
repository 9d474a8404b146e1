import ServiceRegistry.Json.Value
import ServiceRegistry.Number.Shortest
import ServiceRegistry.Text.Quoted

/-!
# Values as shown in messages

A text alone is shown as itself. Inside lists and objects texts are quoted, items are parted by a
comma and a space, and the constants are written as capitalised words.

Results:

* `Json.quotedDisplay`: a value as a part of a list or object.
* `Json.display`: a value alone.
-/

namespace ServiceRegistry

namespace Json

mutual

/-- The characters of a value as a part of another. -/
def showValue : Json → List Char
  | .null => "None".toList
  | .bool true => "True".toList
  | .bool false => "False".toList
  | .int n => Number.intText n
  | .float x => x.text
  | .text s => (Text.quoted s).toList
  | .list items => '[' :: showItems items
  | .object members => '\x7b' :: showMembers members

/-- The characters of the items of a list and its end. -/
def showItems : List Json → List Char
  | [] => [']']
  | [item] => showValue item ++ [']']
  | item :: next :: rest => showValue item ++ ',' :: ' ' :: showItems (next :: rest)

/-- The characters of the members of an object and its end. -/
def showMembers : List (String × Json) → List Char
  | [] => ['\x7d']
  | [(key, value)] => (Text.quoted key).toList ++ ':' :: ' ' :: (showValue value ++ ['\x7d'])
  | (key, value) :: next :: rest =>
    (Text.quoted key).toList ++ ':' :: ' ' ::
      (showValue value ++ ',' :: ' ' :: showMembers (next :: rest))

end

/-- A value as a part of another. -/
def quotedDisplay (value : Json) : String :=
  String.ofList value.showValue

/-- A value alone. -/
def display : Json → String
  | .text s => s
  | value => value.quotedDisplay

end Json

end ServiceRegistry
