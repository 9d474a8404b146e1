import ServiceRegistry.Json.Reader

/-!
# JSON documents

A document is bytes. Its encoding is told by a byte order mark or by the places of the zero bytes
among the first four.

Results:

* `Json.Encoding.detect`: the encoding of a document.
* `Json.readDocument`: the value of a document, or why it has none.
* `DocumentFault.message`: the wording of the reason.
-/

namespace ServiceRegistry

namespace Json

/-- The encodings of documents. Marks are not part of the text. -/
inductive Encoding
  | utf8
  | markedUtf8
  | wide (size : Text.UnitSize) (order : Text.ByteOrder)
  | markedWide (size : Text.UnitSize) (order : Text.ByteOrder)
  deriving Repr, DecidableEq

/-- The byte order marks. A mark comes before the shorter one that it begins with. -/
def Encoding.marks : List (List UInt8 × Encoding) :=
  [([0x00, 0x00, 0xFE, 0xFF], .markedWide .four .big),
    ([0xFF, 0xFE, 0x00, 0x00], .markedWide .four .little),
    ([0xFE, 0xFF], .markedWide .two .big),
    ([0xFF, 0xFE], .markedWide .two .little),
    ([0xEF, 0xBB, 0xBF], .markedUtf8)]

/-- The encoding that the places of the zero bytes tell. -/
def Encoding.ofZeros : List UInt8 → Encoding
  | a :: b :: c :: d :: _ =>
    if a == 0 then .wide (if b != 0 then .two else .four) .big
    else if b == 0 then .wide (if c != 0 || d != 0 then .two else .four) .little
    else .utf8
  | [a, b] =>
    if a == 0 then .wide .two .big else if b == 0 then .wide .two .little else .utf8
  | _ => .utf8

/-- The encoding that the first bytes of a document tell. -/
def Encoding.detect (bytes : List UInt8) : Encoding :=
  match Encoding.marks.find? (·.1.isPrefixOf bytes) with
  | some (_, encoding) => encoding
  | none => .ofZeros bytes

/-- The text of a document. -/
def Encoding.decode (bytes : List UInt8) : Encoding → Except Text.DecodeFault (List Char)
  | .utf8 => Text.utf8DecodePassing bytes
  | .markedUtf8 => Text.utf8DecodePassing (bytes.drop 3)
  | .wide size order => Text.wideDecode size order 0 bytes
  | .markedWide .two order => Text.wideDecode .two order 2 (bytes.drop 2)
  | .markedWide .four order => Text.wideDecode .four order 4 (bytes.drop 4)

/-- Why some bytes are no document. -/
inductive DocumentFault
  | undecodable (fault : Text.DecodeFault)
  | unreadable (cs : List Char) (stop : Stop)
  deriving Repr, DecidableEq

/-- The wording of a fault. -/
def DocumentFault.message : DocumentFault → String
  | .undecodable fault => fault.message
  | .unreadable cs stop => stop.message cs

/-- The value of a document. -/
def readDocument (bytes : List UInt8) : Except DocumentFault Json :=
  match (Encoding.detect bytes).decode bytes with
  | .error fault => .error (.undecodable fault)
  | .ok cs =>
    match read .document cs with
    | .error stop => .error (.unreadable cs stop)
    | .ok value => .ok value

theorem readDocument_nil : readDocument [] = .error (.unreadable [] (.malformed .value 0)) := by
  cbv

end Json

end ServiceRegistry
