import ServiceRegistry.Pattern.Syntax
import ServiceRegistry.Text.Blank
import ServiceRegistry.Text.Digit
import ServiceRegistry.Text.LetterCase
import ServiceRegistry.Text.Word

/-!
# Tests of characters

Where letter case is disregarded, a character is compared by its lower case. The lower-case letters
that have an upper case in common are equal. A set disregards case only if it has a member with two
cases; a code point above U+FFFF counts as such a member and is compared as it is written.

Results:

* `CharTest.holds`: whether a character passes a test in a mode.
* `sameLetter`: whether two characters are equal in a mode.
-/

namespace ServiceRegistry.Pattern

open ServiceRegistry.Text

/-- Whether a character is of a kind. -/
def Category.holds (ascii : Bool) (c : Char) : Category → Bool
  | .digit => if ascii then c.isDigit else isDigit c
  | .blank => if ascii then isAsciiBlank c else isBlank c
  | .word => if ascii then isAsciiWord c else isWord c

/-- The lower case, of ASCII letters only where the mode is ASCII. -/
def foldCase (ascii : Bool) (n : Nat) : Nat :=
  if ascii then asciiLower n else lower n

/-- Whether a code point has two letter cases. -/
def hasCases (ascii : Bool) (n : Nat) : Bool :=
  if ascii then (65 ≤ n && n ≤ 90) || (97 ≤ n && n ≤ 122) else isCased n

/-- Whether a code point between two bounds has two letter cases. -/
def anyCases (ascii : Bool) (low high : Nat) : Bool :=
  if ascii then (low ≤ 90 && 65 ≤ high) || (low ≤ 122 && 97 ≤ high) else anyCased low high

/-- The other letters that a lower-case letter is equal to. -/
def otherLetters (ascii : Bool) (n : Nat) : List Nat :=
  if ascii then [] else variantsOf n

/-- The code points with the given lower case. -/
def foldSources (ascii : Bool) (n : Nat) : List Nat :=
  if ascii then
    (if asciiLower n == n then [n] else []) ++ (if 97 ≤ n && n ≤ 122 then [n - 32] else [])
  else lowerSources n

/-- The greatest code point that a set stores by its lower case. -/
def storedLimit : Nat := 0xFFFF

/-- Whether an item makes its set disregard case. -/
def SetItem.cased (ascii : Bool) : SetItem → Bool
  | .code n => hasCases ascii n || foldCase ascii n > storedLimit
  | .range low high => high > storedLimit || anyCases ascii low high
  | .category .. => false

/-- Whether a character is in an item as it is written. -/
def SetItem.holds (ascii : Bool) (c : Char) : SetItem → Bool
  | .code n => c.toNat == n
  | .range low high => low ≤ c.toNat && c.toNat ≤ high
  | .category kind negated => kind.holds ascii c != negated

/-- Whether a lower-case code point is in an item when case is disregarded. -/
def SetItem.holdsFolded (ascii : Bool) (n : Nat) : SetItem → Bool
  | .code member =>
    let folded := foldCase ascii member
    if folded > storedLimit then n == member
    else n == folded || (otherLetters ascii folded).contains n
  | .range low high =>
    ((n :: otherLetters ascii n).any fun letter =>
      (foldSources ascii letter).any fun source =>
        low ≤ source && source ≤ min high storedLimit) ||
    (high > storedLimit &&
      ((low ≤ n && n ≤ high) || (low ≤ upper n && upper n ≤ high)))
  | .category kind negated => kind.holds ascii (Char.ofNat n) != negated

/-- Whether a character is in one of the items. -/
def itemsHold (mode : Mode) (c : Char) (items : List SetItem) : Bool :=
  if mode.ignoreCase && items.any (·.cased mode.ascii) then
    items.any (·.holdsFolded mode.ascii (foldCase mode.ascii c.toNat))
  else items.any (·.holds mode.ascii c)

/-- Whether a character is the one of a code point. -/
def codeHolds (mode : Mode) (c : Char) (n : Nat) : Bool :=
  if mode.ignoreCase && hasCases mode.ascii n then
    let folded := foldCase mode.ascii n
    let letter := foldCase mode.ascii c.toNat
    letter == folded || (otherLetters mode.ascii folded).contains letter
  else c.toNat == n

/-- Whether a character passes a test. -/
def CharTest.holds (mode : Mode) (c : Char) : CharTest → Bool
  | .any => mode.dotAll || c != '\n'
  | .code n => codeHolds mode c n
  | .notCode n => !codeHolds mode c n
  | .set negated items => itemsHold mode c items != negated

/-- Whether two characters of the text are equal. -/
def sameLetter (mode : Mode) (a b : Char) : Bool :=
  if mode.ignoreCase then foldCase mode.ascii a.toNat == foldCase mode.ascii b.toNat else a == b

end ServiceRegistry.Pattern
