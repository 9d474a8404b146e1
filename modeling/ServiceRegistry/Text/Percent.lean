import ServiceRegistry.Text.Utf8

/-!
# Percent-encoding

A byte is written as a percent sign and two hexadecimal digits. In forms a plus sign stands for a
space.

Results:

* `percentDecode`: the text of a percent-encoded one; what is no escape stays, and escaped bytes
  that are no UTF-8 become U+FFFD.
* `formDecode`: the same after plus signs have become spaces.
* `formEncode`: the encoded form of a text, which `formDecode` reads back.
* `percentQuote`: the encoded form that keeps the characters of a given set.
-/

namespace ServiceRegistry.Text

/-- The bytes of an ASCII text with its escapes resolved. -/
def percentBytes : List Char → List UInt8
  | [] => []
  | '%' :: a :: b :: rest =>
    match hexValue? a, hexValue? b with
    | some high, some low => UInt8.ofNat (high * 16 + low) :: percentBytes rest
    | _, _ => 37 :: percentBytes (a :: b :: rest)
  | c :: rest => UInt8.ofNat c.toNat :: percentBytes rest

/-- An ASCII character. -/
def isAscii (c : Char) : Bool :=
  c.toNat < 128

/-- The text of a percent-encoded one. The runs of ASCII are resolved one by one, and characters
outside ASCII stay. -/
def percentDecode : List Char → List Char
  | [] => []
  | c :: rest =>
    if isAscii c then
      utf8DecodeReplacing (percentBytes (c :: rest.takeWhile isAscii)) ++
        percentDecode (rest.dropWhile isAscii)
    else c :: percentDecode rest
termination_by cs => cs.length
decreasing_by
  · have := (List.dropWhile_suffix (l := rest) isAscii).length_le
    simp only [List.length_cons]; omega
  · simp only [List.length_cons]; omega

/-- Spaces for plus signs. -/
def plusToSpace (cs : List Char) : List Char :=
  cs.map fun c => if c == '+' then ' ' else c

/-- The text of a name or value of a form. -/
def formDecode (cs : List Char) : List Char :=
  percentDecode (plusToSpace cs)

/-! ## Writing -/

/-- A byte as a percent sign and two capital digits. -/
def percentByte (b : UInt8) : List Char :=
  ['%', capitalHexDigit (b.toNat / 16), capitalHexDigit (b.toNat % 16)]

/-- The bytes that are written as themselves: letters, digits and `_.-~`. -/
def isUnreserved (b : UInt8) : Bool :=
  let c := Char.ofNat b.toNat
  b < 128 && (c.isAlphanum || c == '_' || c == '.' || c == '-' || c == '~')

/-- A text in which the bytes outside a set are escaped. -/
def percentQuote (keep : UInt8 → Bool) (cs : List Char) : List Char :=
  (utf8Encode cs).flatMap fun b => if keep b then [Char.ofNat b.toNat] else percentByte b

/-- The form encoding of a text: unreserved characters stay, a space becomes a plus sign. -/
def formEncode (cs : List Char) : List Char :=
  (utf8Encode cs).flatMap fun b =>
    if b == 32 then ['+'] else if isUnreserved b then [Char.ofNat b.toNat] else percentByte b

end ServiceRegistry.Text
