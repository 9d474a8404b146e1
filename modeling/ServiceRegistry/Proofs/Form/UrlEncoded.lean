import Mathlib.Data.List.Basic
import Mathlib.Data.List.TakeWhile
import ServiceRegistry.Form.UrlEncoded
import ServiceRegistry.Proofs.Text.Utf8

/-!
# Forms in the encoding of addresses, read back

The encoded form of a text has no separator in it, so the pairs of a form can be told apart, and
each name and value is read back from its bytes.

Results:

* `Text.formDecode_formEncode`: the text of an encoded text.
* `Text.splitAt_intercalate`: parts that are put together with a separator between them.
* `Form.formPairs_formText_eq_filter`, `Form.formPairs_formText`: the pairs of the text of some
  pairs.
-/

namespace ServiceRegistry

namespace Text

/-! ## Single bytes -/

/-- The characters that a byte is written as in a form. -/
def formByte (b : UInt8) : List Char :=
  if b == 32 then ['+'] else if isUnreserved b then [Char.ofNat b.toNat] else percentByte b

theorem formEncode_eq (cs : List Char) : formEncode cs = (utf8Encode cs).flatMap formByte := rfl

/-- What holds of all numbers below 256 holds of all bytes. -/
theorem forall_byte {holds : UInt8 → Prop} (h : ∀ n < 256, holds (UInt8.ofNat n)) (b : UInt8) :
    holds b := by
  have := h b.toNat b.toNat_lt
  rwa [UInt8.ofNat_toNat] at this

/-- After the plus signs are resolved, a byte of a form is its own character or an escape. -/
theorem formByte_cases (b : UInt8) :
    (∃ c, plusToSpace (formByte b) = [c] ∧ c ≠ '%' ∧ isAscii c = true ∧
      UInt8.ofNat c.toNat = b) ∨ plusToSpace (formByte b) = percentByte b := by
  have cases : ∀ b : UInt8, (plusToSpace (formByte b) = [Char.ofNat b.toNat] ∧
      Char.ofNat b.toNat ≠ '%' ∧ isAscii (Char.ofNat b.toNat) = true ∧
      UInt8.ofNat (Char.ofNat b.toNat).toNat = b) ∨ plusToSpace (formByte b) = percentByte b :=
    forall_byte (by decide +kernel)
  exact (cases b).imp_left fun own => ⟨_, own⟩

/-- No byte of a form is written with a separator. -/
theorem separators_notMem_formByte : ∀ b : UInt8, '&' ∉ formByte b ∧ '=' ∉ formByte b :=
  forall_byte (by decide +kernel)

theorem isAscii_formByte (b : UInt8) : ∀ c ∈ formByte b, isAscii c = true := by
  have all : ∀ b : UInt8, (formByte b).all isAscii = true := forall_byte (by decide +kernel)
  exact List.all_eq_true.mp (all b)

theorem hexValue?_capitalHexDigit : ∀ n < 16, hexValue? (capitalHexDigit n) = some n := by decide

theorem isAscii_percentByte (b : UInt8) : ∀ c ∈ percentByte b, isAscii c = true := by
  have all : ∀ b : UInt8, (percentByte b).all isAscii = true := forall_byte (by decide +kernel)
  exact List.all_eq_true.mp (all b)

theorem isAscii_plusToSpace_formByte (b : UInt8) :
    ∀ c ∈ plusToSpace (formByte b), isAscii c = true := by
  rcases formByte_cases b with ⟨c, own, -, ascii, -⟩ | escape
  · rw [own]
    simpa using ascii
  · rw [escape]
    exact isAscii_percentByte b

/-! ## Escapes -/

theorem percentBytes_cons {c : Char} (plain : c ≠ '%') (rest : List Char) :
    percentBytes (c :: rest) = UInt8.ofNat c.toNat :: percentBytes rest := by
  rw [percentBytes.eq_def]
  split
  next h => cases h
  next h => exact absurd (List.cons.inj h).1 plain
  next h =>
    obtain ⟨rfl, rfl⟩ := List.cons.inj h
    rfl

theorem percentBytes_percentByte (b : UInt8) (rest : List Char) :
    percentBytes (percentByte b ++ rest) = b :: percentBytes rest := by
  have small := b.toNat_lt
  show percentBytes ('%' :: capitalHexDigit (b.toNat / 16) ::
    capitalHexDigit (b.toNat % 16) :: rest) = _
  rw [percentBytes]
  simp only [hexValue?_capitalHexDigit _ (show b.toNat / 16 < 16 by omega),
    hexValue?_capitalHexDigit _ (show b.toNat % 16 < 16 by omega)]
  rw [show b.toNat / 16 * 16 + b.toNat % 16 = b.toNat by omega, UInt8.ofNat_toNat]

theorem percentBytes_formByte (b : UInt8) (rest : List Char) :
    percentBytes (plusToSpace (formByte b) ++ rest) = b :: percentBytes rest := by
  rcases formByte_cases b with ⟨c, own, plain, -, code⟩ | escape
  · rw [own, List.singleton_append, percentBytes_cons plain, code]
  · rw [escape, percentBytes_percentByte]

/-! ## Whole texts -/

theorem plusToSpace_formEncode (cs : List Char) :
    plusToSpace (formEncode cs) =
      (utf8Encode cs).flatMap fun b => plusToSpace (formByte b) := by
  rw [formEncode_eq, plusToSpace, List.map_flatMap]
  rfl

theorem percentBytes_flatMap (bytes : List UInt8) :
    percentBytes (bytes.flatMap fun b => plusToSpace (formByte b)) = bytes := by
  induction bytes with
  | nil => rfl
  | cons b rest ih => rw [List.flatMap_cons, percentBytes_formByte, ih]

/-- A text of ASCII alone is one run. -/
theorem percentDecode_ascii {cs : List Char} (ascii : ∀ c ∈ cs, isAscii c = true) :
    percentDecode cs = utf8DecodeReplacing (percentBytes cs) := by
  cases cs with
  | nil => simp [percentDecode, percentBytes, utf8DecodeReplacing, utf8Pieces, replacedText]
  | cons c rest =>
    obtain ⟨first, others⟩ := List.forall_mem_cons.mp ascii
    rw [percentDecode, if_pos first, List.takeWhile_eq_self_iff.mpr others,
      List.dropWhile_eq_nil_iff.mpr others, percentDecode, List.append_nil]

/-- What was encoded for a form is read back. -/
theorem formDecode_formEncode (cs : List Char) : formDecode (formEncode cs) = cs := by
  have ascii : ∀ c ∈ (utf8Encode cs).flatMap fun b => plusToSpace (formByte b),
      isAscii c = true := by
    intro c mem
    obtain ⟨b, -, mem⟩ := List.mem_flatMap.mp mem
    exact isAscii_plusToSpace_formByte b c mem
  rw [formDecode, plusToSpace_formEncode, percentDecode_ascii ascii, percentBytes_flatMap,
    utf8DecodeReplacing_encode]

/-- The bytes of a text of ASCII are the numbers of its characters. -/
theorem latin1Decode_encode {cs : List Char} (ascii : ∀ c ∈ cs, isAscii c = true) :
    latin1Decode (utf8Encode cs) = cs := by
  induction cs with
  | nil => rfl
  | cons c rest ih =>
    obtain ⟨first, others⟩ := List.forall_mem_cons.mp ascii
    have small : c.toNat < 128 := of_decide_eq_true first
    show latin1Decode (String.utf8EncodeChar c ++ utf8Encode rest) = _
    rw [encode_ascii small, latin1Decode, List.map_append, List.map_singleton,
      toNat_ofNat_lt (by omega), Char.ofNat_toNat]
    exact congrArg (c :: ·) (ih others)

theorem separators_notMem_formEncode (cs : List Char) :
    '&' ∉ formEncode cs ∧ '=' ∉ formEncode cs := by
  rw [formEncode_eq]
  constructor <;> intro mem <;> obtain ⟨b, -, mem⟩ := List.mem_flatMap.mp mem
  · exact (separators_notMem_formByte b).1 mem
  · exact (separators_notMem_formByte b).2 mem

theorem isAscii_formEncode (cs : List Char) : ∀ c ∈ formEncode cs, isAscii c = true := by
  rw [formEncode_eq]
  intro c mem
  obtain ⟨b, -, mem⟩ := List.mem_flatMap.mp mem
  exact isAscii_formByte b c mem

theorem formEncode_eq_nil_iff {cs : List Char} : formEncode cs = [] ↔ cs = [] := by
  constructor
  · intro h
    rw [← formDecode_formEncode cs, h]
    simp [formDecode, plusToSpace, percentDecode]
  · rintro rfl
    rfl

/-! ## Parts -/

section Parts

variable {separator : Char} {part : List Char}

theorem splitAt_of_notMem (free : separator ∉ part) : splitAt separator part = [part] := by
  induction part with
  | nil => rfl
  | cons c rest ih =>
    obtain ⟨other, free⟩ := not_or.mp (List.mem_cons.not.mp free)
    rw [splitAt, if_neg (by simpa using Ne.symm other), ih free]

theorem exists_splitAt (separator : Char) (cs : List Char) :
    ∃ first parts, splitAt separator cs = first :: parts := by
  cases cs with
  | nil => exact ⟨[], [], rfl⟩
  | cons c rest =>
    rw [splitAt]
    split_ifs
    · exact ⟨_, _, rfl⟩
    · split
      next => exact ⟨_, _, rfl⟩
      next => exact ⟨_, _, rfl⟩

/-- A text without the separator is put before the first part. -/
theorem splitAt_prepend (free : separator ∉ part) {cs first : List Char}
    {parts : List (List Char)} (h : splitAt separator cs = first :: parts) :
    splitAt separator (part ++ cs) = (part ++ first) :: parts := by
  induction part with
  | nil => exact h
  | cons c rest ih =>
    obtain ⟨other, free⟩ := not_or.mp (List.mem_cons.not.mp free)
    rw [List.cons_append, splitAt, if_neg (by simpa using Ne.symm other), ih free]
    rfl

theorem splitAt_append (free : separator ∉ part) (more : List Char) :
    splitAt separator (part ++ separator :: more) = part :: splitAt separator more := by
  have split : splitAt separator (separator :: more) = [] :: splitAt separator more := by
    simp [splitAt]
  rw [splitAt_prepend free split, List.append_nil]

/-- Parts without the separator that are put together with it are told apart. -/
theorem splitAt_intercalate {parts : List (List Char)} (nonempty : parts ≠ [])
    (free : ∀ part ∈ parts, separator ∉ part) :
    splitAt separator (List.intercalate [separator] parts) = parts := by
  induction parts with
  | nil => exact absurd rfl nonempty
  | cons part rest ih =>
    obtain ⟨first, others⟩ := List.forall_mem_cons.mp free
    cases rest with
    | nil => simpa [List.intercalate] using splitAt_of_notMem first
    | cons next rest =>
      have more := ih (by simp) others
      rw [List.intercalate_cons_cons, List.append_assoc, List.singleton_append,
        splitAt_append first, more]

end Parts

end Text

namespace Form

open Text (splitAt splitAt_intercalate)

/-! ## Pairs -/

theorem splitPair_append {name : List Char} (free : '=' ∉ name) (value : List Char) :
    splitPair (name ++ '=' :: value) = (name, value) := by
  have inside : ∀ c ∈ name, (c != '=') = true := by
    intro c mem
    exact bne_iff_ne.mpr fun equals => free (equals ▸ mem)
  unfold splitPair
  rw [List.takeWhile_append_of_pos inside, List.dropWhile_append_of_pos inside]
  simp

theorem formText_eq (pairs : List (String × String)) :
    formText pairs = List.intercalate ['&'] (pairs.map pairText) := by
  induction pairs with
  | nil => rfl
  | cons pair rest ih =>
    cases rest with
    | nil => simp [formText, List.intercalate]
    | cons next rest =>
      rw [formText, ih, List.map_cons, List.map_cons, List.map_cons, List.intercalate_cons_cons,
        List.append_assoc, List.singleton_append]

theorem ampersand_notMem_pairText (pair : String × String) : '&' ∉ pairText pair := by
  have name := (Text.separators_notMem_formEncode pair.1.toList).1
  have value := (Text.separators_notMem_formEncode pair.2.toList).1
  simp [pairText, name, value]

theorem isAscii_formText (pairs : List (String × String)) :
    ∀ c ∈ formText pairs, Text.isAscii c = true := by
  have pairAscii (pair : String × String) : ∀ c ∈ pairText pair, Text.isAscii c = true := by
    unfold pairText
    rw [List.forall_mem_append, List.forall_mem_cons]
    exact ⟨Text.isAscii_formEncode _, by decide, Text.isAscii_formEncode _⟩
  induction pairs with
  | nil => simp [formText]
  | cons pair rest ih =>
    cases rest with
    | nil => exact pairAscii pair
    | cons next rest =>
      rw [formText, List.forall_mem_append, List.forall_mem_cons]
      exact ⟨pairAscii pair, by decide, ih⟩

/-- A pair is read back from its text unless its value is blank and such values are not kept. -/
theorem pair_of_pairText (keepBlank : Bool) (pair : String × String) :
    (let (name, value) := splitPair (pairText pair)
      if (pairText pair).isEmpty || (value.isEmpty && !keepBlank) then none
      else some (String.ofList (Text.formDecode name), String.ofList (Text.formDecode value))) =
      Option.guard (fun pair => keepBlank || pair.2 != "") pair := by
  have name := (Text.separators_notMem_formEncode pair.1.toList).2
  have some : (pairText pair).isEmpty = false := by simp [pairText]
  have blank : (Text.formEncode pair.2.toList).isEmpty = (pair.2 == "") := by
    rw [Bool.eq_iff_iff]
    simp [Text.formEncode_eq_nil_iff]
  rw [some, pairText, splitPair_append name]
  simp only [blank, Text.formDecode_formEncode, String.ofList_toList, Option.guard]
  cases keepBlank <;> cases empty : pair.2 == "" <;> simp [bne, empty]

/-- The pairs of the text of some pairs. A blank value is read back only if such values are kept. -/
theorem formPairs_formText_eq_filter (keepBlank : Bool) (pairs : List (String × String)) :
    formPairs keepBlank (formText pairs) = pairs.filter fun pair => keepBlank || pair.2 != "" := by
  cases pairs with
  | nil => rfl
  | cons pair rest =>
    have parts : splitAt '&' (formText (pair :: rest)) = (pair :: rest).map pairText := by
      rw [formText_eq]
      refine splitAt_intercalate (by simp) fun part mem => ?_
      obtain ⟨other, -, rfl⟩ := List.mem_map.mp mem
      exact ampersand_notMem_pairText other
    unfold formPairs
    rw [parts, List.filterMap_map, ← List.filterMap_eq_filter]
    exact List.filterMap_congr fun other _ => pair_of_pairText keepBlank other

theorem formPairs_formText {keepBlank : Bool} {pairs : List (String × String)}
    (kept : keepBlank = true ∨ ∀ pair ∈ pairs, pair.2 ≠ "") :
    formPairs keepBlank (formText pairs) = pairs := by
  rw [formPairs_formText_eq_filter, List.filter_eq_self]
  intro pair mem
  rcases kept with rfl | full
  · rfl
  · simp [full pair mem]

end Form

end ServiceRegistry
