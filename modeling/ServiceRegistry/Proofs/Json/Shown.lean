import Mathlib.Data.List.TakeWhile
import ServiceRegistry.Json.Shown

/-!
# Documents with surrogates, printed

A document is written in UTF-8 exactly if no text in it has a surrogate, for a surrogate stands for
itself in the text of the document.

Results:

* `Text.encodeCodes_codesOf`, `Text.encodeCodes_of_surrogate`: which code points can be written.
* `Shown.print_of_plain`: a value without surrogates has its own text.
* `Shown.surrogate_of_garbled`: the text of any other has a surrogate.
-/

namespace ServiceRegistry

/-! ## Code points -/

namespace Text

theorem isSurrogate_toNat (c : Char) : isSurrogate c.toNat = false := by
  have valid : c.toNat < 0xD800 ∨ 0xDFFF < c.toNat ∧ c.toNat < 0x110000 := c.valid
  simp only [isSurrogate, isHighSurrogate, isLowSurrogate, Bool.or_eq_false_iff,
    Bool.and_eq_false_iff, decide_eq_false_iff_not]
  omega

/-- The code points of characters can be written. -/
theorem encodeCodes_codesOf (cs : List Char) :
    encodeCodes (Shown.codesOf cs) = .ok (utf8Encode cs) := by
  have whole : (Shown.codesOf cs).dropWhile (!isSurrogate ·) = [] := by
    refine List.dropWhile_eq_nil_iff.mpr fun code mem => ?_
    obtain ⟨c, -, rfl⟩ := List.mem_map.mp mem
    rw [isSurrogate_toNat]
    rfl
  have back : (Shown.codesOf cs).map Char.ofNat = cs := by
    rw [Shown.codesOf, List.map_map]
    exact (List.map_congr_left fun c _ => Char.ofNat_toNat c).trans (List.map_id cs)
  unfold encodeCodes
  rw [whole, back]

theorem encodeCodes_of_surrogate {codes : List Nat}
    (surrogate : ∃ code ∈ codes, isSurrogate code = true) :
    ∃ fault, encodeCodes codes = .error fault := by
  obtain ⟨code, mem, high⟩ := surrogate
  unfold encodeCodes
  cases left : codes.dropWhile (!isSurrogate ·) with
  | nil =>
    have whole := List.dropWhile_eq_nil_iff.mp left code mem
    rw [high] at whole
    cases whole
  | cons first rest => exact ⟨_, rfl⟩

end Text

namespace Shown

theorem codesOf_append (cs ds : List Char) : codesOf (cs ++ ds) = codesOf cs ++ codesOf ds :=
  List.map_append

theorem codesOf_cons (c : Char) (cs : List Char) : codesOf (c :: cs) = c.toNat :: codesOf cs :=
  rfl

theorem codesOf_nil : codesOf [] = [] := rfl

/-! ## Values without surrogates -/

theorem plainItems?_cons {item : Shown} {rest : List Shown} {values : List Json}
    (h : plainItems? (item :: rest) = some values) :
    ∃ value others, plain? item = some value ∧ plainItems? rest = some others ∧
      values = value :: others := by
  rw [plainItems?] at h
  split at h
  next value others item rest => exact ⟨value, others, item, rest, (Option.some.inj h).symm⟩
  next => cases h

theorem plainMembers?_cons {key : String} {item : Shown} {rest : List (String × Shown)}
    {values : List (String × Json)} (h : plainMembers? ((key, item) :: rest) = some values) :
    ∃ value others, plain? item = some value ∧ plainMembers? rest = some others ∧
      values = (key, value) :: others := by
  rw [plainMembers?] at h
  split at h
  next value others item rest => exact ⟨value, others, item, rest, (Option.some.inj h).symm⟩
  next => cases h

theorem plainItems?_isSome {items : List Shown}
    (h : ∀ item ∈ items, ∃ value, plain? item = some value) :
    ∃ values, plainItems? items = some values := by
  induction items with
  | nil => exact ⟨[], rfl⟩
  | cons item rest ih =>
    obtain ⟨⟨value, given⟩, others⟩ := List.forall_mem_cons.mp h
    obtain ⟨values, more⟩ := ih others
    exact ⟨value :: values, by rw [plainItems?, given, more]⟩

theorem plainItems?_eq_none {items : List Shown} {item : Shown} (mem : item ∈ items)
    (h : plain? item = none) : plainItems? items = none := by
  induction items with
  | nil => cases mem
  | cons first rest ih =>
    rw [plainItems?]
    rcases List.mem_cons.mp mem with rfl | mem
    · rw [h]
    · rw [ih mem]
      cases plain? first <;> rfl

theorem mem_plainItems? {items : List Shown} {values : List Json}
    (h : plainItems? items = some values) {value : Json} (mem : value ∈ values) :
    ∃ item ∈ items, plain? item = some value := by
  induction items generalizing values with
  | nil =>
    obtain rfl := Option.some.inj h
    cases mem
  | cons item rest ih =>
    obtain ⟨first, others, given, more, rfl⟩ := plainItems?_cons h
    rcases List.mem_cons.mp mem with rfl | mem
    · exact ⟨item, List.mem_cons_self, given⟩
    · obtain ⟨other, found, same⟩ := ih more mem
      exact ⟨other, List.mem_cons_of_mem item found, same⟩

mutual

/-- A value without surrogates has its own text. -/
theorem print_of_plain (shown : Shown) {value : Json} (h : shown.plain? = some value) :
    shown.print = codesOf value.printValue := by
  match shown with
  | .plain own =>
    obtain rfl := Option.some.inj h
    rfl
  | .garbled text => cases h
  | .list items =>
    obtain ⟨values, given, rfl⟩ := Option.map_eq_some_iff.mp h
    rw [print, printItems_of_plain items given]
    rfl
  | .object members =>
    obtain ⟨values, given, rfl⟩ := Option.map_eq_some_iff.mp h
    rw [print, printMembers_of_plain members given]
    rfl

theorem printItems_of_plain (items : List Shown) {values : List Json}
    (h : plainItems? items = some values) :
    printItems items = codesOf (Json.printItems values) := by
  match items with
  | [] =>
    obtain rfl := Option.some.inj h
    rfl
  | [item] =>
    obtain ⟨value, others, given, none, rfl⟩ := plainItems?_cons h
    obtain rfl := Option.some.inj none
    rw [printItems, print_of_plain item given, Json.printItems, codesOf_append]
  | item :: next :: rest =>
    obtain ⟨value, others, given, more, rfl⟩ := plainItems?_cons h
    have tail := printItems_of_plain (next :: rest) more
    obtain ⟨value', others', -, -, rfl⟩ := plainItems?_cons more
    rw [printItems, print_of_plain item given, tail, Json.printItems, codesOf_append,
      List.append_assoc]
    rfl

theorem printMembers_of_plain (members : List (String × Shown)) {values : List (String × Json)}
    (h : plainMembers? members = some values) :
    printMembers members = codesOf (Json.printMembers values) := by
  match members with
  | [] =>
    obtain rfl := Option.some.inj h
    rfl
  | [(key, item)] =>
    obtain ⟨value, others, given, none, rfl⟩ := plainMembers?_cons h
    obtain rfl := Option.some.inj none
    simp only [printMembers, print_of_plain item given, Json.printMembers, codesOf_append,
      codesOf_cons, codesOf_nil, List.append_assoc, List.cons_append, List.nil_append]
  | (key, item) :: next :: rest =>
    obtain ⟨value, others, given, more, rfl⟩ := plainMembers?_cons h
    have tail := printMembers_of_plain (next :: rest) more
    obtain ⟨value', others', -, -, rfl⟩ := plainMembers?_cons more
    simp only [printMembers, print_of_plain item given, tail, Json.printMembers, codesOf_append,
      codesOf_cons, codesOf_nil, List.append_assoc, List.cons_append, List.nil_append]

end

/-! ## Values with surrogates -/

mutual

/-- The text of a value with a surrogate has one. -/
theorem surrogate_of_garbled (shown : Shown) (h : shown.plain? = none) :
    ∃ code ∈ shown.print, Text.isSurrogate code = true := by
  match shown with
  | .plain own => cases h
  | .garbled text =>
    obtain ⟨code, mem, surrogate⟩ := text.surrogate
    refine ⟨code, ?_, surrogate⟩
    have printed : code ∈ text.codes.flatMap printCode := by
      refine List.mem_flatMap.mpr ⟨code, mem, ?_⟩
      rw [printCode, if_pos surrogate]
      exact List.mem_singleton_self code
    exact List.mem_append_left _ (List.mem_append_right _ printed)
  | .list items =>
    obtain ⟨code, mem, surrogate⟩ := surrogate_of_garbledItems items (Option.map_eq_none_iff.mp h)
    exact ⟨code, List.mem_append_right _ mem, surrogate⟩
  | .object members =>
    obtain ⟨code, mem, surrogate⟩ :=
      surrogate_of_garbledMembers members (Option.map_eq_none_iff.mp h)
    exact ⟨code, List.mem_append_right _ mem, surrogate⟩

theorem surrogate_of_garbledItems (items : List Shown) (h : plainItems? items = none) :
    ∃ code ∈ printItems items, Text.isSurrogate code = true := by
  match items with
  | [] => cases h
  | [item] =>
    cases given : plain? item with
    | none =>
      obtain ⟨code, mem, surrogate⟩ := surrogate_of_garbled item given
      exact ⟨code, List.mem_append_left _ mem, surrogate⟩
    | some value => simp [plainItems?, given] at h
  | item :: next :: rest =>
    cases given : plain? item with
    | none =>
      obtain ⟨code, mem, surrogate⟩ := surrogate_of_garbled item given
      exact ⟨code, List.mem_append_left _ (List.mem_append_left _ mem), surrogate⟩
    | some value =>
      cases more : plainItems? (next :: rest) with
      | none =>
        obtain ⟨code, mem, surrogate⟩ := surrogate_of_garbledItems (next :: rest) more
        exact ⟨code, List.mem_append_right _ mem, surrogate⟩
      | some values =>
        rw [plainItems?, given, more] at h
        cases h

theorem surrogate_of_garbledMembers (members : List (String × Shown))
    (h : plainMembers? members = none) :
    ∃ code ∈ printMembers members, Text.isSurrogate code = true := by
  match members with
  | [] => cases h
  | [(key, item)] =>
    cases given : plain? item with
    | none =>
      obtain ⟨code, mem, surrogate⟩ := surrogate_of_garbled item given
      exact ⟨code, List.mem_append_left _ (List.mem_append_right _ mem), surrogate⟩
    | some value => simp [plainMembers?, given] at h
  | (key, item) :: next :: rest =>
    cases given : plain? item with
    | none =>
      obtain ⟨code, mem, surrogate⟩ := surrogate_of_garbled item given
      exact ⟨code, List.mem_append_left _ (List.mem_append_left _ (List.mem_append_right _ mem)),
        surrogate⟩
    | some value =>
      cases more : plainMembers? (next :: rest) with
      | none =>
        obtain ⟨code, mem, surrogate⟩ := surrogate_of_garbledMembers (next :: rest) more
        exact ⟨code, List.mem_append_right _ mem, surrogate⟩
      | some values =>
        rw [plainMembers?, given, more] at h
        cases h

end

end Shown

end ServiceRegistry
