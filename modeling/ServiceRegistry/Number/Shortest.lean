import ServiceRegistry.Number.Binary64

/-!
# Shortest decimals

The text of a number has the fewest digits that read back as the number, and of those the digits
nearest to it. A number is written positionally from 0.0001 up to below 10^16 and with an exponent
of at least two digits otherwise; a whole number keeps one zero after its point.

Results:

* `shortestDecimal`: the digits, as a number without trailing zeros, and the exponent of the last.
* `Binary64.text`: the text of a number.
-/

namespace ServiceRegistry.Number

/-- The reals that round to a mantissa at an exponent, in quarters of a unit, with the mantissa
itself in the middle; the ends belong to it when the mantissa is even. -/
structure Interval where
  low : Nat
  middle : Nat
  high : Nat
  closed : Bool
  exponent : Int
  deriving Repr, DecidableEq

/-- The interval of a mantissa. The numbers below a power of two lie half as far apart. -/
def Interval.of (mantissa : Nat) (exponent : Int) : Interval where
  low := if mantissa = Nat.pow 2 52 && exponent > Binary64.leastExponent then 4 * mantissa - 1
    else 4 * mantissa - 2
  middle := 4 * mantissa
  high := 4 * mantissa + 2
  closed := mantissa % 2 == 0
  exponent := exponent - 2

/-- Brings `quarters · 2 ^ exponent` and `digits · 10 ^ place` to one scale. -/
def alignScales (quarters : Nat) (exponent : Int) (digits : Nat) (place : Int) : Nat × Nat :=
  (quarters * Nat.pow 2 exponent.toNat * Nat.pow 10 (-place).toNat,
   digits * Nat.pow 10 place.toNat * Nat.pow 2 (-exponent).toNat)

/-- Whether `digits · 10 ^ place` lies in the interval. -/
def Interval.holds (interval : Interval) (digits : Nat) (place : Int) : Bool :=
  let (low, x) := alignScales interval.low interval.exponent digits place
  let (high, _) := alignScales interval.high interval.exponent digits place
  if interval.closed then low ≤ x && x ≤ high else low < x && x < high

/-- The greatest whole number of steps of `10 ^ place` that is not above the middle. -/
def Interval.stepsBelow (interval : Interval) (place : Int) : Nat :=
  let (middle, unit) := alignScales interval.middle interval.exponent 1 place
  middle / unit

/-- Of the two grid points around the middle, the one in the interval; of two, the nearer, and
from the middle between them the even one. -/
def Interval.nearest? (interval : Interval) (place : Int) : Option Nat :=
  let below := interval.stepsBelow place
  let above := below + 1
  match below != 0 && interval.holds below place, interval.holds above place with
  | true, true =>
    let (middle, twice) := alignScales (2 * interval.middle) interval.exponent (below + above) place
    some (if middle < twice then below else if middle > twice then above
      else if below % 2 == 0 then below else above)
  | true, false => some below
  | false, true => some above
  | false, false => none

/-- Tries the grids with ever more digits, `fuel` of them. -/
def Interval.search (interval : Interval) : Nat → Int → Nat × Int
  | 0, place => (interval.stepsBelow place, place)
  | fuel + 1, place =>
    match interval.nearest? place with
    | some digits => (digits, place)
    | none => interval.search fuel (place - 1)

/-- Drops trailing zeros of the digits. -/
def dropTrailingZeros : Nat → Nat → Int → Nat × Int
  | 0, digits, place => (digits, place)
  | fuel + 1, digits, place =>
    if digits != 0 && digits % 10 == 0 then dropTrailingZeros fuel (digits / 10) (place + 1)
    else (digits, place)

/-- The shortest decimal of a positive number: its digits and the exponent of the last one. -/
def shortestDecimal (mantissa : Nat) (exponent : Int) : Nat × Int :=
  let interval := Interval.of mantissa exponent
  let top : Int := (natDigits (interval.stepsBelow (-330))).length - 330
  let (digits, place) := interval.search 17 (top - 1)
  dropTrailingZeros 20 digits place

/-- The text of digits with the point after the first `point` of them. -/
def positionalText (digits : List Char) (point : Int) : List Char :=
  if point ≤ 0 then '0' :: '.' :: (List.replicate (-point).toNat '0' ++ digits)
  else if point ≥ digits.length then
    digits ++ List.replicate (point.toNat - digits.length) '0' ++ ['.', '0']
  else digits.take point.toNat ++ '.' :: digits.drop point.toNat

/-- The text of digits with the point after the first one and an exponent. -/
def exponentText (digits : List Char) (exponent : Int) : List Char :=
  let power := natDigits exponent.natAbs
  let power := if power.length < 2 then '0' :: power else power
  digits.take 1 ++ (if digits.length > 1 then '.' :: digits.drop 1 else []) ++
    ['e', if exponent < 0 then '-' else '+'] ++ power

/-- The text of a number. -/
def Binary64.text : Binary64 → List Char
  | .nan => "nan".toList
  | .infinite negative => (if negative then ['-'] else []) ++ "inf".toList
  | .finite negative mantissa exponent =>
    let sign := if negative then ['-'] else []
    if mantissa = 0 then sign ++ "0.0".toList
    else
      let (digits, place) := shortestDecimal mantissa exponent
      let digits := natDigits digits
      let point := place + digits.length
      sign ++ (if -4 < point && point ≤ 16 then positionalText digits point
        else exponentText digits (point - 1))

end ServiceRegistry.Number
