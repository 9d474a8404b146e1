import ServiceRegistry.Text.Hex

/-!
# UTF-8

Bytes are cut into pieces, each of which is a character or a maximal run of bytes that cannot
begin one. The readers differ only in what they do with the second kind.

Results:

* `utf8Encode`: the bytes of a text.
* `utf8Pieces`: the pieces of some bytes.
* `utf8Decode`: the text of well-formed bytes, or where and why they fail.
* `utf8DecodeReplacing`: the text with U+FFFD for each run that is no character.
* `latin1Decode`: the text in which each byte is the character of its number.
-/

namespace ServiceRegistry.Text

/-- Why a run of bytes is no character. -/
inductive DecodeReason
  | invalidStart
  | invalidContinuation
  | unexpectedEnd
  | truncated
  | outOfRange
  deriving Repr, DecidableEq

/-- The wording of a reason. -/
def DecodeReason.wording : DecodeReason → String
  | .invalidStart => "invalid start byte"
  | .invalidContinuation => "invalid continuation byte"
  | .unexpectedEnd => "unexpected end of data"
  | .truncated => "truncated data"
  | .outOfRange => "code point not in range(0x110000)"

/-- The first run of bytes that is no character. -/
structure DecodeFault where
  encoding : String
  first : UInt8
  start : Nat
  width : Nat
  reason : DecodeReason
  deriving Repr, DecidableEq

/-- The wording of a fault: the byte and its position, or the positions of several bytes. -/
def DecodeFault.message (fault : DecodeFault) : String :=
  let place :=
    if fault.width == 1 then
      "byte 0x" ++ String.ofList (hexPadded 2 fault.first.toNat) ++
        " in position " ++ toString fault.start
    else
      "bytes in position " ++ toString fault.start ++ "-" ++
        toString (fault.start + fault.width - 1)
  "'" ++ fault.encoding ++ "' codec can't decode " ++ place ++ ": " ++ fault.reason.wording

/-- A character with its count of bytes, or a run of bytes that is no character. -/
inductive Piece
  | char (c : Char) (width : Nat)
  | bad (first : UInt8) (width : Nat) (reason : DecodeReason)
  deriving Repr, DecidableEq

/-- The number of bytes of a piece. -/
def Piece.width : Piece → Nat
  | .char _ width => width
  | .bad _ width _ => width

/-- The text of pieces without a bad one, or the first bad one, at its position. -/
def strictText (encoding : String) : Nat → List Piece → Except DecodeFault (List Char)
  | _, [] => .ok []
  | start, .bad first width reason :: _ => .error ⟨encoding, first, start, width, reason⟩
  | start, .char c width :: rest => (strictText encoding (start + width) rest).map (c :: ·)

/-- The text of pieces, with U+FFFD for each bad one. -/
def replacedText (pieces : List Piece) : List Char :=
  pieces.map fun
    | .char c _ => c
    | .bad .. => '\uFFFD'

/-! ## Cutting bytes -/

/-- The UTF-8 bytes of a text. -/
def utf8Encode (cs : List Char) : List UInt8 :=
  cs.flatMap String.utf8EncodeChar

/-- A byte that continues a character. -/
def isContinuation (b : UInt8) : Bool :=
  0x80 ≤ b && b ≤ 0xBF

/-- The six low bits of a continuation byte. -/
def lowBits (b : UInt8) : Nat :=
  b.toNat % 64

/-- A second byte that can follow the given first byte: long forms, surrogates and numbers above
the last code point are excluded. -/
def mayFollow (first second : UInt8) : Bool :=
  isContinuation second &&
    !(first == 0xE0 && second < 0xA0) && !(first == 0xED && second ≥ 0xA0) &&
    !(first == 0xF0 && second < 0x90) && !(first == 0xF4 && second ≥ 0x90)

/-- The piece at the front of `first :: rest`. -/
def utf8Front (first : UInt8) (rest : List UInt8) : Piece :=
  if first < 0x80 then .char (Char.ofNat first.toNat) 1
  else if first < 0xC2 then .bad first 1 .invalidStart
  else if first < 0xE0 then
    match rest with
    | [] => .bad first 1 .unexpectedEnd
    | b :: _ =>
      if isContinuation b then .char (Char.ofNat (first.toNat % 32 * 64 + lowBits b)) 2
      else .bad first 1 .invalidContinuation
  else if first < 0xF0 then
    match rest with
    | [] => .bad first 1 .unexpectedEnd
    | b :: rest =>
      if !mayFollow first b then .bad first 1 .invalidContinuation
      else match rest with
        | [] => .bad first 2 .unexpectedEnd
        | c :: _ =>
          if isContinuation c then
            .char (Char.ofNat (first.toNat % 16 * 4096 + lowBits b * 64 + lowBits c)) 3
          else .bad first 2 .invalidContinuation
  else if first < 0xF5 then
    match rest with
    | [] => .bad first 1 .unexpectedEnd
    | b :: rest =>
      if !mayFollow first b then .bad first 1 .invalidContinuation
      else match rest with
        | [] => .bad first 2 .unexpectedEnd
        | c :: rest =>
          if !isContinuation c then .bad first 2 .invalidContinuation
          else match rest with
            | [] => .bad first 3 .unexpectedEnd
            | d :: _ =>
              if isContinuation d then
                .char (Char.ofNat (first.toNat % 8 * 262144 + lowBits b * 4096 +
                  lowBits c * 64 + lowBits d)) 4
              else .bad first 3 .invalidContinuation
  else .bad first 1 .invalidStart

/-- All pieces of some bytes, in order. -/
def utf8Pieces : List UInt8 → List Piece
  | [] => []
  | first :: rest =>
    let piece := utf8Front first rest
    piece :: utf8Pieces (rest.drop (piece.width - 1))
termination_by bytes => bytes.length
decreasing_by simp only [List.length_drop, List.length_cons]; omega

/-- The text of well-formed UTF-8. -/
def utf8Decode (bytes : List UInt8) : Except DecodeFault (List Char) :=
  strictText "utf-8" 0 (utf8Pieces bytes)

/-- The text of some bytes, with U+FFFD for each run that is no character. -/
def utf8DecodeReplacing (bytes : List UInt8) : List Char :=
  replacedText (utf8Pieces bytes)

/-- The text in which each byte is the character of its number. -/
def latin1Decode (bytes : List UInt8) : List Char :=
  bytes.map fun b => Char.ofNat b.toNat

end ServiceRegistry.Text
