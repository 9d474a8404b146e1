import ServiceRegistry.Json.Value
import ServiceRegistry.Text.WideUnits

/-!
# Reading JSON

The reader accepts the three constants `NaN`, `Infinity` and `-Infinity`. It reports the first
thing that it did not expect, by the number of characters that were left there.

Results:

* `Json.read`: the value of a text, or what is wrong with it and where.
* `Json.Stop.message`: the wording of what is wrong.
-/

namespace ServiceRegistry

namespace Json

/-- What the reader did not find, or found where it may not stand. -/
inductive Complaint
  | value
  | propertyName
  | colon
  | comma
  | extraData
  | unterminated
  | controlCharacter
  | badEscape
  | badUnicodeEscape
  deriving Repr, DecidableEq

/-- The wording of a complaint. -/
def Complaint.wording : Complaint → String
  | .value => "Expecting value"
  | .propertyName => "Expecting property name enclosed in double quotes"
  | .colon => "Expecting ':' delimiter"
  | .comma => "Expecting ',' delimiter"
  | .extraData => "Extra data"
  | .unterminated => "Unterminated string starting at"
  | .controlCharacter => "Invalid control character at"
  | .badEscape => "Invalid \\escape"
  | .badUnicodeEscape => "Invalid \\uXXXX escape"

/-- The two kinds of containers. -/
inductive Container
  | array
  | object
  deriving Repr, DecidableEq

/-- Why reading stopped; `left` characters were not read. -/
inductive Stop
  | malformed (complaint : Complaint) (left : Nat)
  | tooManyDigits (count : Nat)
  | tooDeep (container : Container)
  deriving Repr, DecidableEq

/-- The most digits of a whole number and the greatest depth of containers that are read. -/
structure Limits where
  digits : Nat
  depth : Nat
  deriving Repr, DecidableEq

/-- The limits that documents are read with. -/
def Limits.document : Limits := ⟨Number.digitLimit, 990⟩

/-- A result with the characters that follow. -/
abbrev Reading (α : Type) := Except Stop (α × List Char)

/-- Stops before the given characters. -/
def stopAt {α : Type} (complaint : Complaint) (rest : List Char) : Except Stop α :=
  .error (.malformed complaint rest.length)

/-! ## Blanks and literals -/

/-- A blank between tokens. -/
def isBlank (c : Char) : Bool :=
  c == ' ' || c == '\t' || c == '\n' || c == '\r'

/-- Drops blanks. -/
def skipBlanks (cs : List Char) : List Char :=
  cs.dropWhile isBlank

/-- The characters after a literal, if it stands at the front. -/
def afterLiteral? : List Char → List Char → Option (List Char)
  | [], cs => some cs
  | _ :: _, [] => none
  | l :: literal, c :: cs => if l == c then afterLiteral? literal cs else none

/-- The spelled-out values. -/
def literals : List (List Char × Json) :=
  [("null".toList, .null), ("true".toList, .bool true), ("false".toList, .bool false),
   ("NaN".toList, .float .nan), ("Infinity".toList, .float (.infinite false)),
   ("-Infinity".toList, .float (.infinite true))]

/-- A spelled-out value at the front. -/
def readLiteral? (cs : List Char) : Option (Json × List Char) :=
  literals.findSome? fun entry => (afterLiteral? entry.1 cs).map fun rest => (entry.2, rest)

/-! ## Numbers -/

/-- The digits of a whole number at the front: a lone zero, or digits that start otherwise. -/
def splitWhole : List Char → List Char × List Char
  | [] => ([], [])
  | c :: rest =>
    if c == '0' then ([c], rest)
    else ((c :: rest).takeWhile Char.isDigit, (c :: rest).dropWhile Char.isDigit)

/-- A point and digits at the front; without a digit after it the point is not read. -/
def splitFraction : List Char → Option (List Char) × List Char
  | '.' :: rest =>
    let digits := rest.takeWhile Char.isDigit
    if digits.isEmpty then (none, '.' :: rest) else (some digits, rest.dropWhile Char.isDigit)
  | cs => (none, cs)

/-- An exponent at the front; without a digit in it nothing is read. -/
def splitExponent (cs : List Char) : Option Int × List Char :=
  match cs with
  | [] => (none, cs)
  | mark :: rest =>
    if mark != 'e' && mark != 'E' then (none, cs)
    else
      let (negative, rest) := match rest with
        | '-' :: rest => (true, rest)
        | '+' :: rest => (false, rest)
        | rest => (false, rest)
      let digits := rest.takeWhile Char.isDigit
      if digits.isEmpty then (none, cs)
      else
        let n : Int := Number.digitsValue digits
        (some (if negative then -n else n), rest.dropWhile Char.isDigit)

/-- A number at the front of `cs`, whose sign has been read; `start` is the text with the sign. -/
def readNumber (limits : Limits) (negative : Bool) (start cs : List Char) : Reading Json :=
  let (whole, rest) := splitWhole cs
  if whole.isEmpty then stopAt .value start
  else
    let (fraction, rest) := splitFraction rest
    let (exponent, rest) := splitExponent rest
    if fraction.isNone && exponent.isNone then
      if whole.length > limits.digits then .error (.tooManyDigits whole.length)
      else
        let n : Int := Number.digitsValue whole
        .ok (.int (if negative then -n else n), rest)
    else
      .ok (.float (Number.Binary64.ofParts negative whole (fraction.getD []) (exponent.getD 0)),
        rest)

/-! ## Strings -/

/-- The character that an escape letter stands for. -/
def escaped? (c : Char) : Option Char :=
  if c == '"' || c == '\\' || c == '/' then some c
  else if c == 'b' then some '\x08'
  else if c == 'f' then some '\x0c'
  else if c == 'n' then some '\n'
  else if c == 'r' then some '\r'
  else if c == 't' then some '\t'
  else none

/-- The number of four hexadecimal digits. -/
def hexQuad? (a b c d : Char) : Option Nat := do
  let a ← Text.hexValue? a
  let b ← Text.hexValue? b
  let c ← Text.hexValue? c
  let d ← Text.hexValue? d
  return ((a * 16 + b) * 16 + c) * 16 + d

/-- The code point of an escape whose `\u` has been read, joined with a low surrogate that is
escaped right after a high one. `start` are the characters from the `u` on. At least one character
must follow the four digits. -/
def readCode (start : List Char) : List Char → Reading Nat
  | a :: b :: c :: d :: next :: rest =>
    match hexQuad? a b c d with
    | none => stopAt .badUnicodeEscape start
    | some high =>
      match Text.isHighSurrogate high, next :: rest with
      | true, '\\' :: 'u' :: e :: f :: g :: h :: last :: rest =>
        match hexQuad? e f g h with
        | none => stopAt .badUnicodeEscape ('u' :: e :: f :: g :: h :: last :: rest)
        | some low =>
          if Text.isLowSurrogate low then .ok (Text.joinSurrogates high low, last :: rest)
          else .ok (high, '\\' :: 'u' :: e :: f :: g :: h :: last :: rest)
      | _, rest => .ok (high, rest)
  | _ => stopAt .badUnicodeEscape start

/-- The rest of a string; `opening` counts the characters from its opening quote on, and `done`
holds the characters already read, the last one first. -/
def readChars (opening : Nat) : Nat → List Char → List Char → Reading String
  | 0, _, _ => .error (.malformed .unterminated opening)
  | _ + 1, _, [] => .error (.malformed .unterminated opening)
  | fuel + 1, done, c :: rest =>
    if c == '"' then .ok (String.ofList done.reverse, rest)
    else if c.toNat < 32 then stopAt .controlCharacter (c :: rest)
    else if c != '\\' then readChars opening fuel (c :: done) rest
    else match rest with
      | [] => .error (.malformed .unterminated opening)
      | 'u' :: digits =>
        match readCode ('u' :: digits) digits with
        | .error stop => .error stop
        | .ok (code, rest) => readChars opening fuel (Text.charOfCode code :: done) rest
      | letter :: after =>
        match escaped? letter with
        | some x => readChars opening fuel (x :: done) after
        | none => stopAt .badEscape (c :: rest)

/-- A string whose opening quote has been read. -/
def readString (rest : List Char) : Reading String :=
  readChars (rest.length + 1) (rest.length + 1) [] rest

/-! ## Values -/

mutual

/-- A value at the front. Every call uses one unit of fuel, of which two for each character are
enough; `depth` more containers may be opened. -/
def readValue (limits : Limits) : Nat → Nat → List Char → Reading Json
  | 0, _, cs => stopAt .value cs
  | _ + 1, _, [] => stopAt .value []
  | fuel + 1, depth, c :: rest =>
    if c == '"' then (readString rest).map fun result => (.text result.1, result.2)
    else if c == '\x7b' then
      match depth with
      | 0 => .error (.tooDeep .object)
      | depth + 1 =>
        match skipBlanks rest with
        | '\x7d' :: rest => .ok (.object [], rest)
        | rest => readMembers limits fuel depth [] rest
    else if c == '[' then
      match depth with
      | 0 => .error (.tooDeep .array)
      | depth + 1 =>
        match skipBlanks rest with
        | ']' :: rest => .ok (.list [], rest)
        | rest => readItems limits fuel depth [] rest
    else match readLiteral? (c :: rest) with
      | some result => .ok result
      | none =>
        if c == '-' then readNumber limits true (c :: rest) rest
        else if c.isDigit then readNumber limits false (c :: rest) (c :: rest)
        else stopAt .value (c :: rest)

/-- The items of a list from a value on; `done` holds the items already read, the last one
first. -/
def readItems (limits : Limits) : Nat → Nat → List Json → List Char → Reading Json
  | 0, _, _, cs => stopAt .value cs
  | fuel + 1, depth, done, cs =>
    match readValue limits fuel depth cs with
    | .error stop => .error stop
    | .ok (item, rest) =>
      match skipBlanks rest with
      | ']' :: rest => .ok (.list (item :: done).reverse, rest)
      | ',' :: rest => readItems limits fuel depth (item :: done) (skipBlanks rest)
      | rest => stopAt .comma rest

/-- The members of an object from a key on; `done` holds the members already read, the last one
first. -/
def readMembers (limits : Limits) : Nat → Nat → List (String × Json) → List Char → Reading Json
  | 0, _, _, cs => stopAt .value cs
  | fuel + 1, depth, done, cs =>
    match cs with
    | '"' :: rest =>
      match readString rest with
      | .error stop => .error stop
      | .ok (key, rest) =>
        match skipBlanks rest with
        | ':' :: rest =>
          match readValue limits fuel depth (skipBlanks rest) with
          | .error stop => .error stop
          | .ok (value, rest) =>
            match skipBlanks rest with
            | '\x7d' :: rest => .ok (objectOf ((key, value) :: done).reverse, rest)
            | ',' :: rest => readMembers limits fuel depth ((key, value) :: done) (skipBlanks rest)
            | rest => stopAt .comma rest
        | rest => stopAt .colon rest
    | cs => stopAt .propertyName cs

end

/-- The value of a whole text, with blanks before and after it. -/
def read (limits : Limits) (cs : List Char) : Except Stop Json :=
  match readValue limits (2 * cs.length + 2) limits.depth (skipBlanks cs) with
  | .error stop => .error stop
  | .ok (value, rest) =>
    match skipBlanks rest with
    | [] => .ok value
    | rest => stopAt .extraData rest

/-! ## Wording -/

/-- The line and column, both from one, of the character after some others. -/
def lineAndColumn (before : List Char) : Nat × Nat :=
  before.foldl (fun place c => if c == '\n' then (place.1 + 1, 1) else (place.1, place.2 + 1))
    (1, 1)

/-- The wording of a refusal to read a whole number. -/
def tooManyDigitsMessage (count : Nat) : String :=
  "Exceeds the limit (" ++ toString Number.digitLimit ++
    " digits) for integer string conversion: value has " ++ toString count ++
    " digits; use sys.set_int_max_str_digits() to increase the limit"

/-- The wording of a refusal to open a container. -/
def tooDeepMessage (container : Container) : String :=
  "maximum recursion depth exceeded while decoding a JSON " ++
    (match container with
      | .array => "array"
      | .object => "object") ++ " from a unicode string"

/-- The wording of a stop in a text. -/
def Stop.message (cs : List Char) : Stop → String
  | .malformed complaint left =>
    let position := cs.length - left
    let (line, column) := lineAndColumn (cs.take position)
    complaint.wording ++ ": line " ++ toString line ++ " column " ++ toString column ++
      " (char " ++ toString position ++ ")"
  | .tooManyDigits count => tooManyDigitsMessage count
  | .tooDeep container => tooDeepMessage container

end Json

end ServiceRegistry
