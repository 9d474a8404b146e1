import ServiceRegistry.Json.Value
import ServiceRegistry.Number.Shortest
import ServiceRegistry.Text.Hex

/-!
# JSON text

The compact text of a value: no blanks, and characters outside ASCII stand for themselves.

Results:

* `Json.print`: the text of a value.
-/

namespace ServiceRegistry

namespace Json

/-- One character inside a JSON string. -/
def printChar (c : Char) : List Char :=
  if c == '"' then ['\\', '"']
  else if c == '\\' then ['\\', '\\']
  else if c == '\n' then ['\\', 'n']
  else if c == '\r' then ['\\', 'r']
  else if c == '\t' then ['\\', 't']
  else if c.toNat == 8 then ['\\', 'b']
  else if c.toNat == 12 then ['\\', 'f']
  else if c.toNat < 32 then '\\' :: 'u' :: Text.hexPadded 4 c.toNat
  else [c]

/-- A JSON string. -/
def printText (s : String) : List Char :=
  '"' :: s.toList.flatMap printChar ++ ['"']

/-- The text of a number with a binary exponent; the three that are no numbers are spelled out. -/
def printFloat (x : Number.Binary64) : List Char :=
  match x with
  | .nan => "NaN".toList
  | .infinite false => "Infinity".toList
  | .infinite true => "-Infinity".toList
  | x => x.text

mutual

/-- The characters of a value. -/
def printValue : Json → List Char
  | .null => "null".toList
  | .bool true => "true".toList
  | .bool false => "false".toList
  | .int n => Number.intText n
  | .float x => printFloat x
  | .text s => printText s
  | .list items => '[' :: printItems items
  | .object members => '\x7b' :: printMembers members

/-- The characters of the items of a list and its end. -/
def printItems : List Json → List Char
  | [] => [']']
  | [item] => printValue item ++ [']']
  | item :: next :: rest => printValue item ++ ',' :: printItems (next :: rest)

/-- The characters of the members of an object and its end. -/
def printMembers : List (String × Json) → List Char
  | [] => ['\x7d']
  | [(key, value)] => printText key ++ ':' :: (printValue value ++ ['\x7d'])
  | (key, value) :: next :: rest =>
    printText key ++ ':' :: (printValue value ++ ',' :: printMembers (next :: rest))

end

/-- The compact text of a value. -/
def print (value : Json) : String :=
  String.ofList value.printValue

end Json

end ServiceRegistry
