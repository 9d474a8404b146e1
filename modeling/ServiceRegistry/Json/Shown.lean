import ServiceRegistry.Json.Printer
import ServiceRegistry.Text.Loose

/-!
# Documents with surrogates

Results:

* `Shown`: a JSON value, some of whose texts may have surrogates.
* `Shown.plain?`: the value, if no text has one.
* `Shown.print`: the code points of its text.
-/

namespace ServiceRegistry

/-- A JSON value, some of whose texts may have surrogates. -/
inductive Shown
  | plain (value : Json)
  | garbled (text : Text.Garbled)
  | list (items : List Shown)
  | object (members : List (String × Shown))
  deriving Repr

namespace Shown

/-- A text. -/
def ofLoose : Text.Loose → Shown
  | .whole s => .plain (.text s)
  | .garbled text => .garbled text

mutual

/-- The value, if no text has a surrogate. -/
def plain? : Shown → Option Json
  | .plain value => some value
  | .garbled _ => none
  | .list items => (plainItems? items).map .list
  | .object members => (plainMembers? members).map .object

/-- The items of a list, if no text has a surrogate. -/
def plainItems? : List Shown → Option (List Json)
  | [] => some []
  | item :: rest =>
    match plain? item, plainItems? rest with
    | some value, some values => some (value :: values)
    | _, _ => none

/-- The members of an object, if no text has a surrogate. -/
def plainMembers? : List (String × Shown) → Option (List (String × Json))
  | [] => some []
  | (key, item) :: rest =>
    match plain? item, plainMembers? rest with
    | some value, some values => some ((key, value) :: values)
    | _, _ => none

end

/-! ## Text -/

/-- The code points of a text. -/
def codesOf (cs : List Char) : List Nat :=
  cs.map Char.toNat

/-- One code point inside a JSON string. A surrogate stands for itself. -/
def printCode (code : Nat) : List Nat :=
  if Text.isSurrogate code then [code] else codesOf (Json.printChar (Char.ofNat code))

mutual

/-- The code points of a value. -/
def print : Shown → List Nat
  | .plain value => codesOf value.printValue
  | .garbled text => codesOf ['"'] ++ text.codes.flatMap printCode ++ codesOf ['"']
  | .list items => codesOf ['['] ++ printItems items
  | .object members => codesOf ['\x7b'] ++ printMembers members

/-- The code points of the items of a list and its end. -/
def printItems : List Shown → List Nat
  | [] => codesOf [']']
  | [item] => print item ++ codesOf [']']
  | item :: next :: rest => print item ++ codesOf [','] ++ printItems (next :: rest)

/-- The code points of the members of an object and its end. -/
def printMembers : List (String × Shown) → List Nat
  | [] => codesOf ['\x7d']
  | [(key, item)] => codesOf (Json.printText key ++ [':']) ++ print item ++ codesOf ['\x7d']
  | (key, item) :: next :: rest =>
    codesOf (Json.printText key ++ [':']) ++ print item ++ codesOf [','] ++
      printMembers (next :: rest)

end

end Shown

end ServiceRegistry
