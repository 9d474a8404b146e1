import ServiceRegistry.Text.CharName
import ServiceRegistry.Text.Hex
import ServiceRegistry.Text.Loose

/-!
# Encodings of texts in ASCII bytes

Both encodings write any code point in bytes of ASCII, a surrogate that stands alone included.

Results:

* `sevenDecode?`: the code points of UTF-7, in which runs of base64 hold UTF-16 units.
* `escapeDecode?`: the code points of bytes with escapes by a backslash.
-/

namespace ServiceRegistry.Text

/-! ## UTF-7 -/

/-- The value of a base64 digit. -/
def base64Value? (b : UInt8) : Option Nat :=
  if 65 ≤ b && b ≤ 90 then some (b.toNat - 65)
  else if 97 ≤ b && b ≤ 122 then some (b.toNat - 71)
  else if 48 ≤ b && b ≤ 57 then some (b.toNat + 4)
  else if b == 43 then some 62
  else if b == 47 then some 63
  else none

/-- The state inside a run of base64: a high surrogate that waits for a low one, and the value and
count of the bits that make no unit yet. -/
structure Base64Run where
  high : Option Nat
  value : Nat
  bits : Nat
  deriving Repr, DecidableEq

namespace Base64Run

/-- The state at the start of a run. -/
def start : Base64Run := ⟨none, 0, 0⟩

/-- The code points that a unit gives, and the high surrogate that waits after it. -/
def takeUnit (high : Option Nat) (unit : Nat) : List Nat × Option Nat :=
  let fresh := if isHighSurrogate unit then ([], some unit) else ([unit], none)
  match high with
  | none => fresh
  | some first =>
    if isLowSurrogate unit then ([joinSurrogates first unit], none) else (first :: fresh.1, fresh.2)

/-- The code points that six more bits give, and the state after them. -/
def add (run : Base64Run) (six : Nat) : List Nat × Base64Run :=
  let value := run.value * 64 + six
  let bits := run.bits + 6
  if bits < 16 then ([], ⟨run.high, value, bits⟩)
  else
    let (codes, high) := takeUnit run.high (value >>> (bits - 16))
    (codes, ⟨high, value % (1 <<< (bits - 16)), bits - 16⟩)

/-- Whether the bits that are left are the padding of a unit. -/
def isPadded (run : Base64Run) : Bool :=
  run.bits < 6 && run.value == 0

end Base64Run

mutual

/-- The code points of bytes outside a run. -/
def sevenDirect : List UInt8 → Option (List Nat)
  | [] => some []
  | b :: rest =>
    if b == 43 then
      match rest with
      | [] => some []
      | next :: after =>
        if next == 45 then (sevenDirect after).map (43 :: ·)
        else if (base64Value? next).isSome then sevenRun .start (next :: after)
        else none
    else if b < 128 then (sevenDirect rest).map (b.toNat :: ·)
    else none
termination_by bytes => bytes.length

/-- The code points of bytes inside a run. A high surrogate that waits at the end of the run stands
alone. -/
def sevenRun (run : Base64Run) : List UInt8 → Option (List Nat)
  | [] => if run.isPadded && run.high.isNone then some [] else none
  | b :: rest =>
    match base64Value? b with
    | some six =>
      let (codes, run) := run.add six
      (sevenRun run rest).map (codes ++ ·)
    | none =>
      if !run.isPadded || b ≥ 128 then none
      else if b == 45 then (sevenDirect rest).map (run.high.toList ++ ·)
      else (sevenDirect rest).map (run.high.toList ++ [b.toNat] ++ ·)
termination_by bytes => bytes.length

end

/-- The code points of UTF-7. -/
def sevenDecode? (bytes : List UInt8) : Option (List Nat) :=
  sevenDirect bytes

/-! ## Escapes -/

/-- The code points of the escapes by one letter. -/
def letterEscapes : List (Char × Nat) :=
  [('\\', 92), ('\'', 39), ('"', 34), ('b', 8), ('f', 12), ('t', 9), ('n', 10), ('r', 13),
   ('v', 11), ('a', 7)]

/-- The counts of hexadecimal digits after a letter. -/
def hexEscapes : List (Char × Nat) := [('x', 2), ('u', 4), ('U', 8)]

/-- The value of a digit below eight. -/
def octalValue? (c : Char) : Option Nat :=
  if '0' ≤ c && c ≤ '7' then some (c.toNat - 48) else none

/-- The code point of an escape at the front, given without its backslash, and the count of its
characters. A break is no character, and an unknown escape stands for itself. -/
def escapeFront (c : Char) (rest : List Char) : Option (List Nat × Nat) :=
  if c == '\n' then some ([], 1)
  else match letterEscapes.lookup c, hexEscapes.lookup c with
    | some code, _ => some ([code], 1)
    | none, some count => do
      let digits ← (rest.take count).mapM hexValue?
      let code := digits.foldl (fun n digit => n * 16 + digit) 0
      if digits.length == count && code < 0x110000 then some ([code], count + 1) else none
    | none, none =>
      let octal := ((c :: rest).take 3).takeWhile fun d => (octalValue? d).isSome
      if !octal.isEmpty then
        some ([octal.foldl (fun n d => n * 8 + (d.toNat - 48)) 0], octal.length)
      else if c == 'N' then
        match rest with
        | '\x7b' :: named => do
          let name := named.takeWhile (· != '\x7d')
          let code ← codePointOfName? (String.ofList name)
          if name.length < named.length then some ([code], name.length + 3) else none
        | _ => none
      else some ([92, c.toNat], 1)

/-- The code points of bytes with escapes, at most as many as there is fuel for. -/
def escapeDecodeFrom : Nat → List Char → Option (List Nat)
  | _, [] => some []
  | 0, _ => none
  | fuel + 1, c :: rest =>
    if c == '\\' then
      match rest with
      | [] => none
      | next :: after => do
        let (codes, count) ← escapeFront next after
        (escapeDecodeFrom fuel (rest.drop count)).map (codes ++ ·)
    else (escapeDecodeFrom fuel rest).map (c.toNat :: ·)

/-- The code points of bytes with escapes by a backslash. -/
def escapeDecode? (bytes : List UInt8) : Option (List Nat) :=
  escapeDecodeFrom bytes.length (latin1Decode bytes)

end ServiceRegistry.Text
