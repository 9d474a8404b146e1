import ServiceRegistry.Number.Decimal

/-!
# Numbers of 64 bits with a binary exponent

A finite number is a mantissa below 2^53 times a power of two that is at least 2^-1074. All
arithmetic is on whole numbers, so that rounding is exact: to the nearest number, and from the
middle to the even mantissa.

Results:

* `Binary64.ofRatio`, `Binary64.ofDecimal`: the number nearest to a quotient or to a decimal.
* `Binary64.ofText?`: the number that a decimal text names.
* `Binary64.toInt?`: the whole number that a number is equal to, if it is one.
-/

namespace ServiceRegistry.Number

/-- A number of 64 bits; negative zero and positive zero are apart. -/
inductive Binary64
  | finite (negative : Bool) (mantissa : Nat) (exponent : Int)
  | infinite (negative : Bool)
  | nan
  deriving Repr, DecidableEq

namespace Binary64

/-- The least exponent of a finite number. -/
def leastExponent : Int := -1074

/-- The greatest exponent of a finite number. -/
def greatestExponent : Int := 971

/-- The nearest whole number to a quotient, from the middle to the even one. -/
def roundDiv (num den : Nat) : Nat :=
  let q := num / den
  let r := 2 * (num % den)
  if r < den then q else if r > den then q + 1 else q + q % 2

/-- The numerator and denominator of a quotient divided by a power of two. -/
def scaleDown (num den : Nat) (exponent : Int) : Nat × Nat :=
  (num * Nat.pow 2 (-exponent).toNat, den * Nat.pow 2 exponent.toNat)

/-- The number nearest to `num / den`. -/
def ofRatio (negative : Bool) (num den : Nat) : Binary64 :=
  if num = 0 then .finite negative 0 leastExponent
  else
    let guess : Int := max ((Nat.log2 num : Int) - Nat.log2 den - 53) leastExponent
    let exponent : Int :=
      let (n, d) := scaleDown num den guess
      if n / d ≥ Nat.pow 2 53 then guess + 1 else guess
    let (n, d) := scaleDown num den exponent
    let mantissa := roundDiv n d
    let (mantissa, exponent) :=
      if mantissa = Nat.pow 2 53 then (Nat.pow 2 52, exponent + 1) else (mantissa, exponent)
    if exponent > greatestExponent then .infinite negative
    else .finite negative mantissa exponent

/-- The number nearest to `digits · 10 ^ exponent`, where `count` digits are written. -/
def ofDecimal (negative : Bool) (digits count : Nat) (exponent : Int) : Binary64 :=
  if digits = 0 then .finite negative 0 leastExponent
  else if exponent + count < -330 then .finite negative 0 leastExponent
  else if exponent > 310 then .infinite negative
  else ofRatio negative (digits * Nat.pow 10 exponent.toNat) (Nat.pow 10 (-exponent).toNat)

/-- The number that the parts of a decimal text write: the digits before and after the point, and
the exponent. -/
def ofParts (negative : Bool) (whole fraction : List Char) (exponent : Int) : Binary64 :=
  let digits := (whole ++ fraction).dropWhile (· == '0')
  ofDecimal negative (digitsValue digits) digits.length (exponent - fraction.length)

/-- The exponent that a text writes after its mark, `0` when there is none. -/
def exponentOfText? : List Char → Option Int
  | [] => some 0
  | mark :: rest =>
    if mark != 'e' && mark != 'E' then none
    else
      let (negative, digits) := match rest with
        | '-' :: digits => (true, digits)
        | '+' :: digits => (false, digits)
        | digits => (false, digits)
      if digits.isEmpty || digits.any (!·.isDigit) then none
      else
        let n : Int := digitsValue digits
        some (if negative then -n else n)

/-- The number that a decimal text without a sign names. -/
def ofUnsigned? (negative : Bool) (cs : List Char) : Option Binary64 :=
  if cs == "inf".toList then some (.infinite negative)
  else if cs == "nan".toList then some .nan
  else
    let whole := cs.takeWhile Char.isDigit
    let rest := cs.dropWhile Char.isDigit
    let (fraction, rest) := match rest with
      | '.' :: rest => (rest.takeWhile Char.isDigit, rest.dropWhile Char.isDigit)
      | rest => ([], rest)
    if whole.isEmpty && fraction.isEmpty then none
    else (exponentOfText? rest).map (ofParts negative whole fraction)

/-- The number that a decimal text names; `inf` and `nan` name the others. -/
def ofText? : List Char → Option Binary64
  | '-' :: cs => ofUnsigned? true cs
  | cs => ofUnsigned? false cs

/-- The whole number that a finite number is equal to. -/
def toInt? : Binary64 → Option Int
  | .finite negative mantissa exponent =>
    let power := Nat.pow 2 (-exponent).toNat
    if mantissa % power != 0 then none
    else
      let n : Int := mantissa / power * Nat.pow 2 exponent.toNat
      some (if negative then -n else n)
  | _ => none

/-- Whether the number is neither infinite nor undefined. -/
def isFinite : Binary64 → Bool
  | .finite .. => true
  | _ => false

/-- Whether the number is zero of either sign. -/
def isZero : Binary64 → Bool
  | .finite _ mantissa _ => mantissa == 0
  | _ => false

end Binary64

end ServiceRegistry.Number
