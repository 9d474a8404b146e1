import ServiceRegistry.Text.Hex

/-!
# Tokens of a pattern

A backslash and the character after it are one token, and every other character is one.

Results:

* `tokensOf`: the tokens of a pattern.
* `takeHex`, `takeOctal`, `takeUntil`: parts of escapes and names at the front of some tokens.
-/

namespace ServiceRegistry.Pattern

/-- A token; `dangling` is a backslash at the end. -/
inductive Token
  | plain (c : Char)
  | escaped (c : Char)
  | dangling
  deriving Repr, DecidableEq

/-- The characters of a token. -/
def Token.chars : Token → List Char
  | .plain c => [c]
  | .escaped c => ['\\', c]
  | .dangling => ['\\']

/-- The tokens of a pattern. -/
def tokensOf : List Char → List Token
  | [] => []
  | ['\\'] => [.dangling]
  | '\\' :: c :: rest => .escaped c :: tokensOf rest
  | c :: rest => .plain c :: tokensOf rest

/-- Up to `count` plain characters of a class, from the front. -/
def takeClass (inClass : Char → Bool) : Nat → List Token → List Char × List Token
  | count + 1, .plain c :: rest =>
    if inClass c then
      let (taken, rest) := takeClass inClass count rest
      (c :: taken, rest)
    else ([], .plain c :: rest)
  | _, tokens => ([], tokens)

/-- An octal digit. -/
def isOctal (c : Char) : Bool :=
  '0' ≤ c && c ≤ '7'

/-- The number that octal digits write. -/
def octalValue (digits : List Char) : Nat :=
  digits.foldl (fun n c => n * 8 + (c.toNat - 48)) 0

/-- The number that hexadecimal digits write. -/
def hexNumber (digits : List Char) : Nat :=
  digits.foldl (fun n c => n * 16 + (Text.hexValue? c).getD 0) 0

/-- The number of exactly `count` hexadecimal digits at the front. -/
def takeHex (count : Nat) (tokens : List Token) : Option (Nat × List Token) :=
  let (digits, rest) := takeClass (fun c => (Text.hexValue? c).isSome) count tokens
  if digits.length = count then some (hexNumber digits, rest) else none

/-- The characters before the first plain `stop`, at least one, and the tokens after it. -/
def takeUntil (stop : Char) : List Token → Option (List Char × List Token)
  | [] => none
  | token :: rest =>
    if token == .plain stop then none
    else go token.chars rest
where
  /-- The characters from here on, after those already read. -/
  go (done : List Char) : List Token → Option (List Char × List Token)
    | [] => none
    | token :: rest =>
      if token == .plain stop then some (done, rest) else go (done ++ token.chars) rest

end ServiceRegistry.Pattern
