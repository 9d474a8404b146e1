import ServiceRegistry.Text.Utf8

/-!
# UTF-16 and UTF-32, and UTF-8 with surrogates

The readers here let a surrogate that stands alone pass, as U+FFFD, since no text can hold it.

Results:

* `wideDecode`: the text of units of two or four bytes in either byte order.
* `utf8DecodePassing`: the text of UTF-8 in which surrogates may be written as three bytes.
-/

namespace ServiceRegistry.Text

/-- The order of the bytes of a unit. -/
inductive ByteOrder
  | little
  | big
  deriving Repr, DecidableEq

/-- The number that some bytes write. -/
def ByteOrder.number (order : ByteOrder) (bytes : List UInt8) : Nat :=
  let digits := match order with
    | .little => bytes.reverse
    | .big => bytes
  digits.foldl (fun n b => n * 256 + b.toNat) 0

/-- A unit from 0xD800 to 0xDBFF. -/
def isHighSurrogate (n : Nat) : Bool :=
  0xD800 ≤ n && n ≤ 0xDBFF

/-- A unit from 0xDC00 to 0xDFFF. -/
def isLowSurrogate (n : Nat) : Bool :=
  0xDC00 ≤ n && n ≤ 0xDFFF

/-- The code point of a high and a low surrogate. -/
def joinSurrogates (high low : Nat) : Nat :=
  0x10000 + (high - 0xD800) * 1024 + (low - 0xDC00)

/-- The character of a code point, U+FFFD for a surrogate. -/
def charOfCode (n : Nat) : Char :=
  if isHighSurrogate n || isLowSurrogate n then '\uFFFD' else Char.ofNat n

/-- The pieces of UTF-16. -/
def utf16Pieces (order : ByteOrder) : List UInt8 → List Piece
  | [] => []
  | [a] => [.bad a 1 .truncated]
  | a :: b :: c :: d :: rest =>
    let unit := order.number [a, b]
    let next := order.number [c, d]
    if isHighSurrogate unit && isLowSurrogate next then
      .char (Char.ofNat (joinSurrogates unit next)) 4 :: utf16Pieces order rest
    else .char (charOfCode unit) 2 :: utf16Pieces order (c :: d :: rest)
  | a :: b :: rest => .char (charOfCode (order.number [a, b])) 2 :: utf16Pieces order rest
termination_by bytes => bytes.length

/-- The pieces of UTF-32. -/
def utf32Pieces (order : ByteOrder) : List UInt8 → List Piece
  | [] => []
  | a :: b :: c :: d :: rest =>
    let code := order.number [a, b, c, d]
    (if code < 0x110000 then .char (charOfCode code) 4 else .bad a 4 .outOfRange) ::
      utf32Pieces order rest
  | a :: rest => [.bad a (rest.length + 1) .truncated]
termination_by bytes => bytes.length

/-- The size of a unit. -/
inductive UnitSize
  | two
  | four
  deriving Repr, DecidableEq

/-- The name of an encoding by its unit and byte order. -/
def wideName (size : UnitSize) (order : ByteOrder) : String :=
  (match size with
    | .two => "utf-16"
    | .four => "utf-32") ++
  (match order with
    | .little => "-le"
    | .big => "-be")

/-- The text of wide units; `start` bytes before them have already been read. -/
def wideDecode (size : UnitSize) (order : ByteOrder) (start : Nat) (bytes : List UInt8) :
    Except DecodeFault (List Char) :=
  strictText (wideName size order) start <|
    match size with
    | .two => utf16Pieces order bytes
    | .four => utf32Pieces order bytes

/-- The pieces of UTF-8 in which a surrogate may be written as three bytes. -/
def utf8PassingPieces : List UInt8 → List Piece
  | [] => []
  | 0xED :: b :: c :: rest =>
    if 0xA0 ≤ b && b ≤ 0xBF && isContinuation c then .char '\uFFFD' 3 :: utf8PassingPieces rest
    else
      let piece := utf8Front 0xED (b :: c :: rest)
      piece :: utf8PassingPieces ((b :: c :: rest).drop (piece.width - 1))
  | first :: rest =>
    let piece := utf8Front first rest
    piece :: utf8PassingPieces (rest.drop (piece.width - 1))
termination_by bytes => bytes.length
decreasing_by all_goals simp only [List.length_drop, List.length_cons]; omega

/-- The text of UTF-8 in which surrogates pass. -/
def utf8DecodePassing (bytes : List UInt8) : Except DecodeFault (List Char) :=
  strictText "utf-8" 0 (utf8PassingPieces bytes)

end ServiceRegistry.Text
