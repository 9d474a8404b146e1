import ServiceRegistry.Text.Blank

/-!
# Whole numbers as text

Results:

* `natDigits`, `intText`: the decimal digits of a number, without leading zeros.
* `digitsValue`: the number that some digits write.
* `readInteger`: the number that a form or a document gives as text. Blanks around it, a plus sign,
  leading zeros, single low lines between digits and a fraction of zeros are accepted.
-/

namespace ServiceRegistry.Number

/-- The most digits that a number may be read from or written with. -/
def digitLimit : Nat := 4300

/-- The digit of a value below ten. -/
def digitChar (n : Nat) : Char :=
  Char.ofNat (48 + n)

/-- The value of an ASCII digit. -/
def digitValue (c : Char) : Nat :=
  c.toNat - 48

/-- The decimal digits of a number. -/
def natDigits (n : Nat) : List Char :=
  if n < 10 then [digitChar n] else natDigits (n / 10) ++ [digitChar (n % 10)]

/-- The number that some decimal digits write. -/
def digitsValue (digits : List Char) : Nat :=
  digits.foldl (fun n c => n * 10 + digitValue c) 0

/-- The decimal text of a number. -/
def intText : Int → List Char
  | .ofNat n => natDigits n
  | .negSucc n => '-' :: natDigits (n + 1)

/-! ## Reading -/

/-- Why a text gives no number. -/
inductive IntegerFault
  | malformed
  | tooManyDigits
  deriving Repr, DecidableEq

/-- The text without the blanks at its two ends. -/
def trimWhite (cs : List Char) : List Char :=
  ((cs.dropWhile Text.isWhite).reverse.dropWhile Text.isWhite).reverse

/-- Drops zeros and low lines after a leading zero, as long as a digit or a point follows; of a
text of nothing else the last character stays. -/
def dropZeros (last : Char) : List Char → Option (List Char)
  | [] => some [last]
  | c :: rest =>
    if c == '0' || c == '_' then dropZeros c rest
    else if c.isDigit then some (c :: rest)
    else if c == '.' then some (last :: c :: rest)
    else none

/-- The text without leading zeros; a text that starts with neither a digit nor a minus sign gives
nothing. -/
def stripZeros : List Char → Option (List Char)
  | [] => none
  | c :: rest =>
    if c == '0' then dropZeros c rest
    else if c.isDigit || c == '-' then some (c :: rest)
    else none

/-- The text before a point that only zeros follow, at least one. -/
def dropFraction (cs : List Char) : Option (List Char) :=
  match cs.dropWhile (· != '.') with
  | [] => some cs
  | _ :: fraction =>
    if fraction.isEmpty || fraction.any (· != '0') then none
    else some (cs.takeWhile (· != '.'))

/-- The text without low lines, each of which must stand between two characters other than low
lines. -/
def dropLowLines : List Char → Option (List Char)
  | [] => some []
  | ['_'] => none
  | [c] => some [c]
  | '_' :: _ => none
  | _ :: '_' :: '_' :: _ => none
  | _ :: ['_'] => none
  | c :: '_' :: rest => (dropLowLines rest).map (c :: ·)
  | c :: rest => (dropLowLines rest).map (c :: ·)

/-- A number from its digits alone, which start with a zero only if that is all. -/
def plainNat (digits : List Char) : Except IntegerFault Nat :=
  if digits.isEmpty || digits.any (!·.isDigit) then .error .malformed
  else if digits.head? == some '0' && digits.length != 1 then .error .malformed
  else if digits.length > digitLimit then .error .tooManyDigits
  else .ok (digitsValue digits)

/-- A number from its digits, with a minus sign before them or not. -/
def plainInt : List Char → Except IntegerFault Int
  | '-' :: digits => (plainNat digits).map fun n => -(n : Int)
  | digits => (plainNat digits).map Int.ofNat

/-- Drops a plus sign that no minus sign follows. -/
def dropPlus : List Char → List Char
  | '+' :: '-' :: rest => '+' :: '-' :: rest
  | '+' :: rest => rest
  | cs => cs

/-- The number that a text gives. -/
def readInteger (cs : List Char) : Except IntegerFault Int :=
  match (stripZeros (dropPlus (trimWhite cs))).bind dropFraction |>.bind dropLowLines with
  | some plain => plainInt plain
  | none => .error .malformed

end ServiceRegistry.Number
