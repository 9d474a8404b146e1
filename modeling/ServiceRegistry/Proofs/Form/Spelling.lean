import Mathlib.Data.List.Forall2
import ServiceRegistry.Proofs.Form.UrlEncoded
import ServiceRegistry.Proofs.Number.Decimal

/-!
# One form, read in two encodings

The bytes of a form are read as a text in two ways: each byte as the character of its number, and
as UTF-8. Both agree on ASCII, and so on where the separators are. A character outside ASCII is
several bytes in the first reading, of which one leads the others. It stays when a name or a value
is decoded, so it is in no name of ASCII and in no value that gives a number.

Results:

* `Form.Spelt`: the two readings of some bytes, `Form.spelt_of_utf8Decode`.
* `Form.Spelt.parts`, `Form.Spelt.pair`: separators part both in the same way.
* `Form.Spelt.valuesOf_eq`: the values of a name of ASCII are the same in both if they give numbers.
-/

namespace ServiceRegistry

open Text (isAscii latin1Decode utf8Decode formDecode splitAt exists_splitAt splitAt_prepend)

namespace Form

/-! ## The two readings -/

/-- The character of a byte that leads others. -/
def IsLead (c : Char) : Prop :=
  0xC2 ≤ c.toNat ∧ c.toNat ≤ 0xF4

theorem IsLead.not_ascii {c : Char} (lead : IsLead c) : isAscii c = false := by
  obtain ⟨low, -⟩ := lead
  exact decide_eq_false (by omega)

/-- A byte that leads others is no blank. -/
theorem IsLead.not_white {c : Char} (lead : IsLead c) : Text.isWhite c = false := by
  have black : ∀ n < 0xF5, 0xC2 ≤ n → Text.inSpans Text.blankSpans n = false := by
    decide +kernel
  obtain ⟨low, high⟩ := lead
  rw [Text.isWhite, Text.isBlank, black c.toNat (by omega) low]
  rfl

/-- The characters of some bytes, one for each byte, and the text that the bytes are in UTF-8. -/
inductive Spelt : List Char → List Char → Prop
  | nil : Spelt [] []
  | ascii {c : Char} {single text : List Char} : isAscii c = true → Spelt single text →
      Spelt (c :: single) (c :: text)
  | wide {lead c : Char} {more single text : List Char} : IsLead lead →
      (∀ d ∈ more, isAscii d = false) → isAscii c = false → Spelt single text →
      Spelt (lead :: (more ++ single)) (c :: text)

theorem toNat_ofByte (b : UInt8) : (Char.ofNat b.toNat).toNat = b.toNat :=
  Text.toNat_ofNat_of_valid (.inl (Nat.lt_trans b.toNat_lt (by decide)))

theorem spelt_of_strictText {encoding : String} {start : Nat} {bytes : List UInt8}
    {text : List Char} (h : Text.strictText encoding start (Text.utf8Pieces bytes) = .ok text) :
    Spelt (latin1Decode bytes) text := by
  fun_induction Text.utf8Pieces bytes generalizing start text with
  | case1 =>
    obtain rfl := Except.ok.inj h
    exact .nil
  | case2 first rest front =>
    rename_i ih
    cases piece : Text.utf8Front first rest with
    | bad => simp [front, piece, Text.strictText] at h
    | char c width =>
      simp only [front, piece, Text.strictText, Text.Piece.width] at h ih
      cases read : Text.strictText encoding (start + width)
          (Text.utf8Pieces (rest.drop (width - 1))) with
      | error fault =>
        rw [read] at h
        cases h
      | ok tail =>
        rw [read] at h
        obtain rfl := Except.ok.inj h
        rcases Text.utf8Front_eq_char piece with ⟨one, rfl, rfl⟩ | ⟨low, high, wide, more⟩
        · exact .ascii (decide_eq_true (by rwa [toNat_ofByte])) (ih read)
        · have split : latin1Decode rest =
              latin1Decode (rest.take (width - 1)) ++ latin1Decode (rest.drop (width - 1)) := by
            rw [latin1Decode, latin1Decode, latin1Decode, ← List.map_append, List.take_append_drop]
          show Spelt (Char.ofNat first.toNat :: latin1Decode rest) (c :: tail)
          rw [split]
          refine .wide ⟨by rwa [toNat_ofByte], by rwa [toNat_ofByte]⟩ (fun d mem => ?_)
            (decide_eq_false (Nat.not_lt.mpr wide)) (ih read)
          obtain ⟨b, found, rfl⟩ := List.mem_map.mp mem
          exact decide_eq_false (by rw [toNat_ofByte]; exact Nat.not_lt.mpr (more b found))

/-- The two readings of bytes that are UTF-8. -/
theorem spelt_of_utf8Decode {bytes : List UInt8} {text : List Char}
    (h : utf8Decode bytes = .ok text) : Spelt (latin1Decode bytes) text :=
  spelt_of_strictText h

namespace Spelt

variable {single text : List Char}

/-- The two readings are the same text of ASCII, or both have a character outside ASCII. -/
theorem eq_or_wide (spelt : Spelt single text) :
    single = text ∨ (∃ c ∈ single, IsLead c) ∧ ∃ c ∈ text, isAscii c = false := by
  induction spelt with
  | nil => exact .inl rfl
  | ascii _ _ ih =>
    rcases ih with rfl | ⟨⟨c, mem, lead⟩, d, mem', wide⟩
    · exact .inl rfl
    · exact .inr ⟨⟨c, List.mem_cons_of_mem _ mem, lead⟩, d, List.mem_cons_of_mem _ mem', wide⟩
  | wide lead _ wide _ _ =>
    exact .inr ⟨⟨_, List.mem_cons_self, lead⟩, _, List.mem_cons_self, wide⟩

theorem isEmpty_eq (spelt : Spelt single text) : single.isEmpty = text.isEmpty := by
  cases spelt <;> rfl

/-! ## Separators -/

section Separators

variable {separator : Char}

theorem bne_of_wide (ascii : isAscii separator = true) {c : Char} (wide : isAscii c = false) :
    (c != separator) = true := by
  rw [bne_iff_ne]
  rintro rfl
  rw [wide] at ascii
  cases ascii

/-- Before the first separator, which is of ASCII. -/
theorem takeWhile (spelt : Spelt single text) (ascii : isAscii separator = true) :
    Spelt (single.takeWhile fun c => c != separator) (text.takeWhile fun c => c != separator) := by
  induction spelt with
  | nil => exact .nil
  | ascii first _ ih =>
    rw [List.takeWhile_cons, List.takeWhile_cons]
    split_ifs
    · exact .ascii first ih
    · exact .nil
  | wide lead more wide _ ih =>
    rw [List.takeWhile_cons, bne_of_wide ascii lead.not_ascii, List.takeWhile_cons,
      bne_of_wide ascii wide,
      List.takeWhile_append_of_pos fun d mem => bne_of_wide ascii (more d mem)]
    exact .wide lead more wide ih

/-- After the first separator. -/
theorem tail_dropWhile (spelt : Spelt single text) (ascii : isAscii separator = true) :
    Spelt (single.dropWhile fun c => c != separator).tail
      (text.dropWhile fun c => c != separator).tail := by
  induction spelt with
  | nil => exact .nil
  | ascii _ rest ih =>
    rw [List.dropWhile_cons, List.dropWhile_cons]
    split_ifs
    · exact ih
    · exact rest
  | wide lead more wide _ ih =>
    rw [List.dropWhile_cons, bne_of_wide ascii lead.not_ascii, List.dropWhile_cons,
      bne_of_wide ascii wide,
      List.dropWhile_append_of_pos fun d mem => bne_of_wide ascii (more d mem)]
    exact ih

/-- Both readings of a pair have their first equals sign at the same place. -/
theorem pair (spelt : Spelt single text) :
    Spelt (splitPair single).1 (splitPair text).1 ∧ Spelt (splitPair single).2 (splitPair text).2 :=
  ⟨spelt.takeWhile (by decide), spelt.tail_dropWhile (by decide)⟩

/-- A separator parts both readings at the same places. -/
theorem parts (spelt : Spelt single text) (ascii : isAscii separator = true) :
    List.Forall₂ Spelt (splitAt separator single) (splitAt separator text) := by
  induction spelt with
  | nil => exact .cons .nil .nil
  | @ascii c single text first rest ih =>
    obtain ⟨part, parts, split⟩ := exists_splitAt separator single
    obtain ⟨part', parts', split'⟩ := exists_splitAt separator text
    rw [splitAt, splitAt]
    split_ifs
    · exact .cons .nil ih
    · rw [split, split'] at ih ⊢
      cases ih with
      | cons same others => exact .cons (.ascii first same) others
  | @wide lead c more single text leads many wide rest ih =>
    obtain ⟨part, parts, split⟩ := exists_splitAt separator single
    obtain ⟨part', parts', split'⟩ := exists_splitAt separator text
    have free : separator ∉ lead :: more := by
      intro mem
      have other : ∀ d ∈ lead :: more, isAscii d = false :=
        List.forall_mem_cons.mpr ⟨leads.not_ascii, many⟩
      rw [other separator mem] at ascii
      cases ascii
    have free' : separator ∉ [c] := by
      rw [List.mem_singleton]
      rintro rfl
      rw [wide] at ascii
      cases ascii
    have joined := splitAt_prepend free split
    have joined' := splitAt_prepend free' split'
    rw [List.cons_append] at joined
    rw [List.singleton_append] at joined'
    rw [joined, joined']
    rw [split, split'] at ih
    cases ih with
    | cons same others => exact .cons (.wide leads many wide same) others

end Separators

end Spelt

/-! ## Names and values -/

/-- A character outside ASCII stays when a text is decoded. -/
theorem mem_formDecode {cs : List Char} {c : Char} (mem : c ∈ cs) (wide : isAscii c = false) :
    c ∈ formDecode cs := by
  have decoded {cs : List Char} (mem : c ∈ cs) : c ∈ Text.percentDecode cs := by
    fun_induction Text.percentDecode cs with
    | case1 => exact mem
    | case2 first rest ascii ih =>
      rcases List.mem_cons.mp mem with rfl | mem
      · rw [wide] at ascii
        cases ascii
      · exact List.mem_append_right _ (ih (Number.mem_dropWhile mem wide))
    | case3 first rest other ih =>
      rcases List.mem_cons.mp mem with rfl | mem
      · exact List.mem_cons_self
      · exact List.mem_cons_of_mem _ (ih mem)
  refine decoded (List.mem_map.mpr ⟨c, mem, if_neg fun plus => ?_⟩)
  rw [beq_iff_eq.mp plus] at wide
  cases wide

theorem formDecode_nil : formDecode [] = [] := by
  simp [formDecode, Text.plusToSpace, Text.percentDecode]

/-- The values that one part of a form gives to a name. -/
def partValues (keepBlank : Bool) (name : String) (part : List Char) : List String :=
  if part.isEmpty || ((splitPair part).2.isEmpty && !keepBlank) then []
  else if String.ofList (formDecode (splitPair part).1) == name then
    [String.ofList (formDecode (splitPair part).2)]
  else []

theorem valuesOf_formPairs (keepBlank : Bool) (name : String) (cs : List Char) :
    valuesOf name (formPairs keepBlank cs) =
      (splitAt '&' cs).flatMap (partValues keepBlank name) := by
  unfold formPairs
  generalize splitAt '&' cs = parts
  induction parts with
  | nil => rfl
  | cons part rest ih =>
    rw [List.flatMap_cons, ← ih, List.filterMap_cons, partValues]
    simp only [valuesOf]
    split_ifs with dropped named <;> simp [*]

variable {single text : List Char} {name : String}

/-- A value is a number. -/
def IsNumber (value : String) : Prop :=
  ∃ n, Number.readInteger value.toList = .ok n

theorem Spelt.name_eq (spelt : Spelt single text) (ascii : ∀ c ∈ name.toList, isAscii c = true)
    (named : String.ofList (formDecode single) = name ∨ String.ofList (formDecode text) = name) :
    single = text := by
  rcases spelt.eq_or_wide with same | ⟨⟨c, mem, lead⟩, d, mem', wide⟩
  · exact same
  · rcases named with named | named
    · have other := ascii c
        (by rw [← named, String.toList_ofList]; exact mem_formDecode mem lead.not_ascii)
      rw [lead.not_ascii] at other
      cases other
    · have other := ascii d (by rw [← named, String.toList_ofList]; exact mem_formDecode mem' wide)
      rw [wide] at other
      cases other

theorem Spelt.value_eq (spelt : Spelt single text)
    (number : IsNumber (String.ofList (formDecode single))) : single = text := by
  rcases spelt.eq_or_wide with same | ⟨⟨c, mem, lead⟩, -⟩
  · exact same
  · obtain ⟨n, read⟩ := number
    rw [String.toList_ofList] at read
    have only := Number.ascii_or_white_of_readInteger read c (mem_formDecode mem lead.not_ascii)
    rw [lead.not_white] at only
    have ascii : isAscii c = true := decide_eq_true (only.resolve_right (by decide))
    rw [lead.not_ascii] at ascii
    cases ascii

/-- A part gives a name of ASCII the same values in both readings, if it gives numbers. -/
theorem Spelt.partValues_eq (spelt : Spelt single text)
    (ascii : ∀ c ∈ name.toList, isAscii c = true)
    (numbers : ∀ value ∈ partValues true name single, IsNumber value) :
    partValues false name text = partValues true name single := by
  obtain ⟨names, values⟩ := spelt.pair
  by_cases empty : single.isEmpty = true
  · have empty' : text.isEmpty = true := spelt.isEmpty_eq ▸ empty
    simp [partValues, empty, empty']
  have full : single.isEmpty = false := Bool.eq_false_iff.mpr empty
  have full' : text.isEmpty = false := spelt.isEmpty_eq ▸ full
  by_cases named : String.ofList (formDecode (splitPair single).1) = name
  · have given : partValues true name single =
        [String.ofList (formDecode (splitPair single).2)] := by
      simp [partValues, full, named]
    have number : IsNumber (String.ofList (formDecode (splitPair single).2)) :=
      numbers _ (by rw [given]; exact List.mem_singleton_self _)
    have sameName := names.name_eq ascii (.inl named)
    have sameValue := values.value_eq number
    have filled : (splitPair single).2.isEmpty = false := by
      by_contra blank
      rw [Bool.not_eq_false, List.isEmpty_iff] at blank
      obtain ⟨n, read⟩ := number
      rw [blank, formDecode_nil] at read
      cases read
    rw [given]
    simp [partValues, full', ← sameName, ← sameValue, named, filled]
  · have other : String.ofList (formDecode (splitPair text).1) ≠ name := by
      intro named'
      rw [← names.name_eq ascii (.inr named')] at named'
      exact named named'
    simp [partValues, named, other]

/-- The values of a name of ASCII are the same in both readings, if those of the first give
numbers. None of them is blank then. -/
theorem Spelt.valuesOf_eq (spelt : Spelt single text)
    (ascii : ∀ c ∈ name.toList, isAscii c = true)
    (numbers : ∀ value ∈ valuesOf name (formPairs true single), IsNumber value) :
    valuesOf name (formPairs false text) = valuesOf name (formPairs true single) := by
  rw [valuesOf_formPairs] at numbers ⊢
  rw [valuesOf_formPairs]
  have parts : List.Forall₂ Spelt (splitAt '&' single) (splitAt '&' text) :=
    spelt.parts (by decide)
  generalize splitAt '&' single = these at parts numbers ⊢
  generalize splitAt '&' text = those at parts ⊢
  induction parts with
  | nil => rfl
  | cons same _ ih =>
    rw [List.flatMap_cons, List.forall_mem_append] at numbers
    rw [List.flatMap_cons, List.flatMap_cons, same.partValues_eq ascii numbers.1, ih numbers.2]

end Form

end ServiceRegistry
