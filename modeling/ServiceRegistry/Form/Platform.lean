import ServiceRegistry.Json.Shown
import ServiceRegistry.Number.Decimal
import ServiceRegistry.Text.Escape
import ServiceRegistry.Text.Split

/-!
# What forms are read with

A form in parts names the encoding of its texts, and the platform knows what the name stands for.
The platform also says how a file is shown where a number was asked for.

Results:

* `Field`: a name with a text or a file.
* `Platform`: the encodings that are known, and the view of a file.
* `Platform.standard`: a platform with encodings of Unicode.
-/

namespace ServiceRegistry.Form

/-- A file of a form, with the header lines of its part. -/
structure File where
  name : Text.Loose
  headers : List (List UInt8 × List UInt8)
  content : List UInt8
  deriving Repr, DecidableEq

/-- What a field holds. -/
inductive Value
  | text (text : Text.Loose)
  | file (file : File)
  deriving Repr, DecidableEq

/-- A field of a form. -/
structure Field where
  name : Text.Loose
  value : Value
  deriving Repr, DecidableEq

/-- The field of a pair of texts. -/
def Field.ofPair (pair : String × String) : Field :=
  ⟨.whole pair.1, .text (.whole pair.2)⟩

/-- What an encoding makes of bytes: code points, or nothing, because it is unknown or does not
allow them. It may also fail in another way. -/
inductive Decoding
  | codes (codes : List Nat)
  | unsuitable
  | failed
  deriving Repr, DecidableEq

/-- The most containers around any part of the view of a file. -/
def viewDepth : Nat := 900

/-- What the reading of forms takes from elsewhere: the encodings by their names, and the view of a
file, which is a document of little depth without numbers that have a binary exponent. -/
structure Platform where
  decode : String → List UInt8 → Decoding
  showFile : File → Shown
  fits : ∀ file value, (showFile file).plain? = some value →
    value.Fits Number.digitLimit viewDepth

/-- The view of a value. -/
def Platform.shown (platform : Platform) : Value → Shown
  | .text text => .ofLoose text
  | .file file => platform.showFile file

namespace Platform

/-! ## A platform with encodings of Unicode -/

/-- An encoding by its name, in which letter case and the kind of marks between words are
disregarded. -/
def encodingName (name : String) : String :=
  let word (c : Char) : Char := if c.isAlphanum || c == '.' then c.toLower else '_'
  String.ofList ((Text.splitAt '_' (name.toList.map word)).filter (!·.isEmpty) |>.intersperse ['_']
    |>.flatten)

/-- The names of UTF-8. -/
def utf8Names : List String := ["utf_8", "u8", "utf", "utf8", "utf8_ucs2", "utf8_ucs4", "cp65001"]

/-- The names of UTF-7. -/
def utf7Names : List String := ["utf_7", "u7", "utf7", "unicode_1_1_utf_7"]

/-- The code points that an encoding of Unicode gives. No bytes have no characters in any encoding,
and the encoding `undefined` always fails. -/
def decodeUnicode (name : String) (bytes : List UInt8) : Decoding :=
  let name := encodingName name
  let orUnsuitable : Option (List Nat) → Decoding
    | some codes => .codes codes
    | none => .unsuitable
  if bytes.isEmpty then .codes []
  else if utf8Names.contains name then
    orUnsuitable ((Text.utf8Decode bytes).toOption.map Shown.codesOf)
  else if utf7Names.contains name then orUnsuitable (Text.sevenDecode? bytes)
  else if name == "unicode_escape" then orUnsuitable (Text.escapeDecode? bytes)
  else if name == "undefined" then .failed
  else .unsuitable

/-- The text of a header, each byte the character of its number. -/
def headerText (bytes : List UInt8) : String :=
  String.ofList (Text.latin1Decode bytes)

/-- The first header line of each name. -/
def headerView (headers : List (List UInt8 × List UInt8)) : Json :=
  let lines := headers.map fun line => (headerText line.1, headerText line.2)
  .object ((lines.map (·.1)).eraseDups.map fun name =>
    (name, .text ((lines.lookup name).getD "")))

/-- The view of a file: its name, its handle, which has nothing to show, its size, which is a number
of 64 bits, and its headers. -/
def fileView (file : File) : Shown :=
  .object
    [("filename", .ofLoose file.name), ("file", .plain (.object [])),
     ("size", .plain (.int (UInt64.ofNat file.content.length).toNat)),
     ("headers", .plain (headerView file.headers))]

theorem fits_headerView (headers : List (List UInt8 × List UInt8)) (depth : Nat) :
    (headerView headers).Fits Number.digitLimit (depth + 1) := by
  refine .object ?_ fun member mem => ?_
  · rw [List.map_map]
    exact (List.map_id _).symm ▸ nodup_eraseDups _
  · obtain ⟨name, -, rfl⟩ := List.mem_map.mp mem
    exact .text _

/-- A number of 64 bits has no more than twenty digits. -/
theorem word_lt {n digits : Nat} (word : n < UInt64.size) (enough : 20 ≤ digits) :
    n < Nat.pow 10 digits :=
  Nat.lt_of_lt_of_le word
    (Nat.le_trans (show UInt64.size ≤ Nat.pow 10 20 by decide)
      (Nat.pow_le_pow_right (by decide) enough))

theorem fits_fileView (file : File) (value : Json) (plain : (fileView file).plain? = some value) :
    value.Fits Number.digitLimit viewDepth := by
  cases name : file.name with
  | garbled text => simp [fileView, name, Shown.ofLoose, Shown.plain?, Shown.plainMembers?] at plain
  | whole s =>
    have size := word_lt (UInt64.toNat_lt (.ofNat file.content.length))
      (show 20 ≤ Number.digitLimit by decide)
    simp only [fileView, name, Shown.ofLoose, Shown.plain?, Shown.plainMembers?, Option.map_some,
      Option.some.injEq] at plain
    rw [← plain]
    refine .object (by simp) ?_
    simp only [List.forall_mem_cons, List.not_mem_nil, false_implies, implies_true, and_true]
    exact ⟨.text s, .object List.nodup_nil (by simp), .int size, fits_headerView file.headers _⟩

/-- A platform with the encodings of Unicode that write texts in bytes of ASCII, where a file is
shown by its name, its size and its headers. -/
def standard : Platform where
  decode := decodeUnicode
  showFile := fileView
  fits := fits_fileView

end Platform

end ServiceRegistry.Form
