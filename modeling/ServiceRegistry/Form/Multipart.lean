import ServiceRegistry.Form.ContentType
import ServiceRegistry.Form.Platform

/-!
# Forms in several parts

The parts of a form stand between lines with a boundary. Each has header lines, a blank line and a
value, which is a file if the part names one. A form that ends early gives the parts that are
complete.

Results:

* `Multipart.fields`: the fields of the parts, or why they cannot be read.
-/

namespace ServiceRegistry.Form.Multipart

/-- Why a form cannot be read. -/
inductive PartFault
  | malformed
  | noBoundary
  | unnamed
  | tooManyFields
  | tooManyFiles
  | tooLong
  | undecoded
  deriving Repr, DecidableEq

/-- The most texts of a form. -/
def fieldLimit : Nat := 1000

/-- The most files of a form. -/
def fileLimit : Nat := 1000

/-- The most bytes of a text. -/
def textLimit : Nat := 1024 * 1024

/-- The wording of a fault. -/
def PartFault.message : PartFault → String
  | .malformed => "Invalid multipart data."
  | .noBoundary => "Missing boundary in multipart."
  | .unnamed => "The Content-Disposition header field \"name\" must be provided."
  | .tooManyFields =>
    "Too many fields. Maximum number of fields is " ++ toString fieldLimit ++ "."
  | .tooManyFiles =>
    "Too many files. Maximum number of files is " ++ toString fileLimit ++ "."
  | .tooLong => "Part exceeded maximum size of " ++ toString (textLimit / 1024) ++ "KB."
  | .undecoded => "There was an error parsing the body"

/-- The carriage return. -/
def cr : UInt8 := 13

/-- The line feed. -/
def lf : UInt8 := 10

/-- The hyphen. -/
def hyphen : UInt8 := 45

/-- The bytes of an ASCII text. -/
def ascii (s : String) : List UInt8 :=
  s.toList.map fun c => UInt8.ofNat c.toNat

/-- What was found at a place of the form: something with the bytes after it, the early end of the
form, or nothing that may stand there. -/
inductive Found (α : Type)
  | here (value : α) (rest : List UInt8)
  | ended
  | wrong

/-- Takes the given bytes. -/
def expect : List UInt8 → List UInt8 → Found Unit
  | [], rest => .here () rest
  | _ :: _, [] => .ended
  | b :: bytes, c :: rest => if b == c then expect bytes rest else .wrong

/-- A byte of the name of a header. -/
def isNameByte (b : UInt8) : Bool :=
  let c := Char.ofNat b.toNat
  b < 128 && (c.isAlphanum || "!#$%&'*+-.^_\x60|~".toList.contains c)

/-- The name of a header at the front, up to its colon. -/
def headerName (bytes : List UInt8) : Found (List UInt8) :=
  let name := bytes.takeWhile isNameByte
  match bytes.dropWhile isNameByte with
  | [] => .ended
  | b :: rest => if b == 58 && !name.isEmpty then .here name rest else .wrong

/-- The value of a header at the front, up to the end of its line. -/
def headerValue (bytes : List UInt8) : Found (List UInt8) :=
  let bytes := bytes.dropWhile (· == 32)
  let value := bytes.takeWhile (· != cr)
  match bytes.dropWhile (· != cr) with
  | _ :: b :: rest => if b == lf then .here value rest else .wrong
  | _ => .ended

/-- The header lines at the front and the blank line after them; `fuel` lines at most. -/
def headerLines : Nat → List (List UInt8 × List UInt8) → List UInt8 →
    Found (List (List UInt8 × List UInt8))
  | 0, _, _ => .ended
  | fuel + 1, done, bytes =>
    if bytes.head? == some cr then
      match bytes with
      | _ :: b :: rest => if b == lf then .here done.reverse rest else .wrong
      | _ => .ended
    else match headerName bytes with
      | .ended => .ended
      | .wrong => .wrong
      | .here name rest =>
        match headerValue rest with
        | .ended => .ended
        | .wrong => .wrong
        | .here value rest => headerLines fuel ((name, value) :: done) rest

/-- What ends a value: the line of the boundary before another part, or that after the last. -/
inductive Ending
  | another
  | last
  deriving Repr, DecidableEq

/-- The ending at the front of some bytes; `mark` is the line break and the boundary. -/
def ending? (mark bytes : List UInt8) : Option (Ending × List UInt8) :=
  match expect mark bytes with
  | .here _ (a :: b :: rest) =>
    if a == cr && b == lf then some (.another, rest)
    else if a == hyphen && b == hyphen then some (.last, rest)
    else none
  | _ => none

/-- The value at the front up to its ending; `done` holds its bytes already read, the last one
first. -/
def partValue (mark : List UInt8) : List UInt8 → List UInt8 → Found (List UInt8 × Ending)
  | _, [] => .ended
  | done, b :: rest =>
    match ending? mark (b :: rest) with
    | some (ending, after) => .here (done.reverse, ending) after
    | none => partValue mark (b :: done) rest

/-- The count of the bytes at the front that no ending can begin with, when the form ends early. -/
def arrived (mark : List UInt8) : List UInt8 → Nat
  | [] => 0
  | b :: rest =>
    if (b :: rest).isPrefixOf (mark ++ [cr, lf]) ||
        (b :: rest).isPrefixOf (mark ++ [hyphen, hyphen]) then 0
    else arrived mark rest + 1

/-! ## Parts -/

/-- The text of bytes in an encoding. If that is unknown or does not allow them, each byte is the
character of its number. -/
def decodeIn (platform : Platform) (charset : String) (bytes : List UInt8) :
    Except PartFault Text.Loose :=
  match platform.decode charset bytes with
  | .codes codes => .ok (.ofCodes codes)
  | .unsuitable => .ok (.whole (String.ofList (Text.latin1Decode bytes)))
  | .failed => .error .undecoded

/-- The names of some header lines in small letters. -/
def lowerNames (headers : List (List UInt8 × List UInt8)) : List (List UInt8 × List UInt8) :=
  headers.map fun (name, value) =>
    (name.map fun b => if 65 ≤ b && b ≤ 90 then b + 32 else b, value)

/-- The disposition of a part: the last header of that name. -/
def disposition (headers : List (List UInt8 × List UInt8)) : HeaderValue :=
  let value := headers.reverse.find? fun header => header.1 == ascii "content-disposition"
  HeaderValue.read (String.ofList (Text.latin1Decode ((value.map (·.2)).getD [])))

/-- The bytes of a text whose characters are bytes. -/
def bytesOf (cs : List Char) : List UInt8 :=
  cs.map fun c => UInt8.ofNat c.toNat

/-- What the header lines of a part say: its name, and that of its file if it is one. -/
structure PartHead where
  name : Text.Loose
  fileName : Option Text.Loose
  headers : List (List UInt8 × List UInt8)

/-- A field that is a file. -/
def isFile (field : Field) : Bool :=
  match field.value with
  | .text _ => false
  | .file _ => true

/-- What the header lines of a part say, after the fields that were read before. -/
def partHead (platform : Platform) (charset : String) (done : List Field)
    (lines : List (List UInt8 × List UInt8)) : Except PartFault PartHead := do
  let headers := lowerNames lines
  let disposition := disposition headers
  match disposition.parameter? "name" with
  | none => throw .unnamed
  | some name =>
    let name ← decodeIn platform charset (bytesOf name)
    match disposition.parameter? "filename" with
    | some fileName =>
      if done.countP isFile ≥ fileLimit then throw .tooManyFiles
      return ⟨name, some (← decodeIn platform charset (bytesOf fileName)), headers⟩
    | none =>
      if done.countP (!isFile ·) ≥ fieldLimit then throw .tooManyFields
      return ⟨name, none, headers⟩

/-- The field of a part with some bytes as its value. -/
def partField (platform : Platform) (charset : String) (head : PartHead) (bytes : List UInt8) :
    Except PartFault Field :=
  match head.fileName with
  | some fileName => .ok ⟨head.name, .file ⟨fileName, head.headers, bytes⟩⟩
  | none =>
    if bytes.length > textLimit then .error .tooLong
    else (decodeIn platform charset bytes).map fun text => ⟨head.name, .text text⟩

/-- The fields of the parts from the header lines of one on; `done` holds those already read, the
last one first. The bytes of a text count against its limit even if the form ends in it. -/
def fieldsFrom (platform : Platform) (charset : String) (mark : List UInt8) :
    Nat → List Field → List UInt8 → Except PartFault (List Field)
  | 0, done, _ => .ok done.reverse
  | fuel + 1, done, bytes =>
    match headerLines (bytes.length + 1) [] bytes with
    | .ended => .ok done.reverse
    | .wrong => .error .malformed
    | .here headers rest =>
      match partHead platform charset done headers with
      | .error fault => .error fault
      | .ok head =>
        match partValue mark [] rest with
        | .ended =>
          if head.fileName.isNone && arrived mark rest > textLimit then .error .tooLong
          else .ok done.reverse
        | .wrong => .error .malformed
        | .here (value, ending) rest =>
          match partField platform charset head value with
          | .error fault => .error fault
          | .ok field =>
            match ending with
            | .another => fieldsFrom platform charset mark fuel (field :: done) rest
            | .last => .ok (field :: done).reverse

/-- The fields of a form with a boundary. Line breaks before the first boundary are skipped. -/
def fieldsWithin (platform : Platform) (charset : String) (boundary bytes : List UInt8) :
    Except PartFault (List Field) :=
  let mark := [cr, lf, hyphen, hyphen] ++ boundary
  match expect ([hyphen, hyphen] ++ boundary) (bytes.dropWhile fun b => b == cr || b == lf) with
  | .ended => .ok []
  | .wrong => .error .malformed
  | .here _ [] => .ok []
  | .here _ (b :: rest) =>
    if b == hyphen then
      match rest with
      | [] => .ok []
      | c :: _ => if c == hyphen then .ok [] else .error .malformed
    else if b == cr then
      match rest with
      | [] => .ok []
      | c :: rest =>
        if c == lf then fieldsFrom platform charset mark (rest.length + 1) [] rest
        else .error .malformed
    else .error .malformed

/-- The fields of a form by its content type. -/
def fields (platform : Platform) (contentType : HeaderValue) (bytes : List UInt8) :
    Except PartFault (List Field) :=
  match contentType.parameter? "boundary" with
  | none => .error .noBoundary
  | some boundary =>
    let charset := ((contentType.parameter? "charset").map String.ofList).getD "utf-8"
    fieldsWithin platform charset (bytesOf boundary) bytes

end ServiceRegistry.Form.Multipart
