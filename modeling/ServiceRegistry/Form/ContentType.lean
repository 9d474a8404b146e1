import ServiceRegistry.Text.Blank
import ServiceRegistry.Text.LetterCase
import ServiceRegistry.Text.Percent
import ServiceRegistry.Text.Word

/-!
# Header values with parameters

A value such as `form-data; name="id"`: its first part, and the parameters that follow it after
semicolons. A parameter may be quoted, and a long one may be given in numbered segments.

Results:

* `HeaderValue.read`: the parts of a value.
* `HeaderValue.parameter?`: a parameter by its name.
-/

namespace ServiceRegistry.Form

/-- The first part of a value and its parameters; of several with one name the last counts. -/
structure HeaderValue where
  kind : List Char
  parameters : List (List Char × List Char)
  deriving Repr, DecidableEq

namespace HeaderValue

/-- The text without the blanks at its two ends. -/
def trim (cs : List Char) : List Char :=
  ((cs.dropWhile Text.isBlank).reverse.dropWhile Text.isBlank).reverse

/-- The parts between the semicolons that stand outside quotes; `quoted` says whether a quote is
open and `escaped` whether a backslash came right before. -/
def parts : Bool → Bool → List Char → List (List Char)
  | _, _, [] => [[]]
  | quoted, escaped, c :: rest =>
    if c == ';' && !quoted then [] :: parts false false rest
    else
      let quoted := if c == '"' && !escaped then !quoted else quoted
      match parts quoted (c == '\\') rest with
      | [] => [[c]]
      | part :: more => (c :: part) :: more

/-- Resolves escaped backslashes. -/
def unescapeBackslashes : List Char → List Char
  | '\\' :: '\\' :: rest => '\\' :: unescapeBackslashes rest
  | c :: rest => c :: unescapeBackslashes rest
  | [] => []

/-- Resolves escaped quotes. -/
def unescapeQuotes : List Char → List Char
  | '\\' :: '"' :: rest => '"' :: unescapeQuotes rest
  | c :: rest => c :: unescapeQuotes rest
  | [] => []

/-- The text between the quotes or angle brackets around it. -/
def unquote (cs : List Char) : List Char :=
  if cs.length > 1 && cs.head? == some '"' && cs.getLast? == some '"' then
    unescapeQuotes (unescapeBackslashes cs.tail.dropLast)
  else if cs.length > 1 && cs.head? == some '<' && cs.getLast? == some '>' then cs.tail.dropLast
  else cs

/-- The name and value of a parameter; a part without an equals sign is a name alone. -/
def splitParameter (part : List Char) : List Char × List Char :=
  let name := part.takeWhile (· != '=')
  match part.dropWhile (· != '=') with
  | [] => (trim part, [])
  | _ :: value => (((trim name).map fun c => Char.ofNat (Text.lower c.toNat)), trim value)

/-- A segment of a parameter: its number, and whether its value is percent-encoded. -/
structure Segment where
  name : List Char
  number : Nat
  encoded : Bool
  deriving Repr, DecidableEq

/-- The segment that a name with a star names. -/
def segment? (name : List Char) : Option Segment :=
  let base := name.takeWhile (· != '*')
  if base.isEmpty || !base.all Text.isAsciiWord then none
  else match name.dropWhile (· != '*') with
    | ['*'] => some ⟨base, 0, true⟩
    | '*' :: digits =>
      let number := digits.takeWhile Char.isDigit
      if number.isEmpty then none
      else
        let n := number.foldl (fun n c => n * 10 + (c.toNat - 48)) 0
        match digits.dropWhile Char.isDigit with
        | [] => some ⟨base, n, false⟩
        | ['*'] => some ⟨base, n, true⟩
        | _ => none
    | _ => none

/-- The text of percent-encoded bytes, each a character of its number. -/
def percentLatin1 (cs : List Char) : List Char :=
  if cs.all Text.isAscii then Text.latin1Decode (Text.percentBytes cs) else cs

/-- The text after the second apostrophe, if there are two. -/
def afterLanguage (cs : List Char) : List Char :=
  match (cs.dropWhile (· != '\'')).tail.dropWhile (· != '\'') with
  | [] => cs
  | _ :: value => value

/-- The value of a parameter in segments. -/
def joinSegments (segments : List (Segment × List Char)) : List Char :=
  let ordered := segments.mergeSort fun a b => a.1.number ≤ b.1.number
  let value := ordered.flatMap fun (segment, value) =>
    if segment.encoded then percentLatin1 value else value
  if segments.any (·.1.encoded) then afterLanguage value else value

/-- The parameters with the segments of each name joined. -/
def joinAll (parameters : List (List Char × List Char)) : List (List Char × List Char) :=
  let segments := parameters.filterMap fun (name, value) =>
    (segment? name).map fun segment => (segment, value)
  let names := (segments.map (·.1.name)).eraseDups
  parameters.filter (fun parameter => (segment? parameter.1).isNone) ++
    names.map fun name => (name, joinSegments (segments.filter (·.1.name == name)))

/-- The parts of a value. Without parameters letter case is disregarded. -/
def read (value : String) : HeaderValue :=
  let cs := value.toList
  if !cs.contains ';' then
    ⟨trim (cs.map fun c => Char.ofNat (Text.lower c.toNat)), []⟩
  else match parts false false cs with
    | [] => ⟨[], []⟩
    | first :: rest =>
      ⟨(splitParameter first).1,
        joinAll (rest.map fun part =>
          let (name, value) := splitParameter part
          (name, unquote value))⟩

/-- The last parameter of a name. -/
def parameter? (value : HeaderValue) (name : String) : Option (List Char) :=
  value.parameters.reverse.lookup name.toList

end HeaderValue

end ServiceRegistry.Form
