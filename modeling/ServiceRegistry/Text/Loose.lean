import ServiceRegistry.Text.WideUnits

/-!
# Texts with surrogates

Some encodings give texts in which a surrogate stands alone. Such a text is known by its code
points, and UTF-8 cannot write it.

Results:

* `Loose`: a text, or one with a surrogate.
* `encodeCodes`: the UTF-8 bytes of code points, or where they cannot be written.
-/

namespace ServiceRegistry.Text

/-- A code point from 0xD800 to 0xDFFF. -/
def isSurrogate (code : Nat) : Bool :=
  isHighSurrogate code || isLowSurrogate code

/-- The code points of a text with a surrogate. -/
structure Garbled where
  codes : List Nat
  surrogate : ∃ code ∈ codes, isSurrogate code = true
  deriving Repr, DecidableEq

/-- A text, or one with a surrogate. -/
inductive Loose
  | whole (s : String)
  | garbled (text : Garbled)
  deriving Repr, DecidableEq

/-- The text of some code points. -/
def Loose.ofCodes (codes : List Nat) : Loose :=
  if h : ∃ code ∈ codes, isSurrogate code = true then .garbled ⟨codes, h⟩
  else .whole (String.ofList (codes.map Char.ofNat))

/-- The first run of code points that cannot be written. -/
structure EncodeFault where
  first : Nat
  start : Nat
  width : Nat
  deriving Repr, DecidableEq

/-- The wording of a fault. -/
def EncodeFault.message (fault : EncodeFault) : String :=
  let place := if fault.width == 1 then
      "character '\\u" ++ String.ofList (hexPadded 4 fault.first) ++ "' in position " ++
        toString fault.start
    else
      "characters in position " ++ toString fault.start ++ "-" ++
        toString (fault.start + fault.width - 1)
  "'utf-8' codec can't encode " ++ place ++ ": surrogates not allowed"

/-- The UTF-8 bytes of code points, or the first run of surrogates among them. -/
def encodeCodes (codes : List Nat) : Except EncodeFault (List UInt8) :=
  match codes.dropWhile (!isSurrogate ·) with
  | [] => .ok (utf8Encode (codes.map Char.ofNat))
  | first :: rest =>
    .error ⟨first, (codes.takeWhile (!isSurrogate ·)).length,
      (rest.takeWhile isSurrogate).length + 1⟩

end ServiceRegistry.Text
