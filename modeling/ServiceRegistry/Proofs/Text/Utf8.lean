import Mathlib.Tactic.SplitIfs
import ServiceRegistry.Text.WideUnits

/-!
# UTF-8 and back

Results:

* `utf8Front_encode`: the bytes of a character are one piece.
* `utf8Decode_encode`, `utf8DecodeReplacing_encode`, `utf8DecodePassing_encode`: the text of the
  bytes of a text.
* `utf8Front_eq_char`: the bytes of a piece that is a character.
-/

namespace ServiceRegistry.Text

/-! ## Pieces by the values of their bytes -/

/-- The value of a byte that continues a character. -/
def IsTail (b : UInt8) : Prop :=
  0x80 ≤ b.toNat ∧ b.toNat < 0xC0

theorem isContinuation_of_isTail {b : UInt8} (h : IsTail b) : isContinuation b = true := by
  obtain ⟨low, high⟩ := h
  simp only [isContinuation, Bool.and_eq_true, decide_eq_true_eq, UInt8.le_iff_toNat_le,
    UInt8.reduceToNat]
  omega

theorem mayFollow_of_isTail (first : UInt8) {b : UInt8} (h : IsTail b)
    (e0 : first.toNat = 0xE0 → 0xA0 ≤ b.toNat) (ed : first.toNat = 0xED → b.toNat < 0xA0)
    (f0 : first.toNat = 0xF0 → 0x90 ≤ b.toNat) (f4 : first.toNat = 0xF4 → b.toNat < 0x90) :
    mayFollow first b = true := by
  simp only [mayFollow, isContinuation_of_isTail h, Bool.and_eq_true, Bool.not_eq_true',
    Bool.and_eq_false_iff, beq_eq_false_iff_ne, decide_eq_false_iff_not, ge_iff_le, ne_eq,
    ← UInt8.toNat_inj, UInt8.lt_iff_toNat_lt, UInt8.le_iff_toNat_le, UInt8.reduceToNat, true_and]
  omega

theorem utf8Front_one {first : UInt8} (h : first.toNat < 0x80) (rest : List UInt8) :
    utf8Front first rest = .char (Char.ofNat first.toNat) 1 := by
  unfold utf8Front
  rw [if_pos (UInt8.lt_iff_toNat_lt.mpr h)]

theorem utf8Front_two {first b : UInt8} (low : 0xC2 ≤ first.toNat) (high : first.toNat < 0xE0)
    (tail : IsTail b) (rest : List UInt8) :
    utf8Front first (b :: rest) = .char (Char.ofNat (first.toNat % 32 * 64 + lowBits b)) 2 := by
  unfold utf8Front
  simp only [UInt8.lt_iff_toNat_lt, UInt8.reduceToNat]
  rw [if_neg (by omega), if_neg (by omega), if_pos high, if_pos (isContinuation_of_isTail tail)]

theorem utf8Front_three {first b c : UInt8} (low : 0xE0 ≤ first.toNat) (high : first.toNat < 0xF0)
    (second : IsTail b) (e0 : first.toNat = 0xE0 → 0xA0 ≤ b.toNat)
    (ed : first.toNat = 0xED → b.toNat < 0xA0) (third : IsTail c) (rest : List UInt8) :
    utf8Front first (b :: c :: rest) =
      .char (Char.ofNat (first.toNat % 16 * 4096 + lowBits b * 64 + lowBits c)) 3 := by
  have follows := mayFollow_of_isTail first second e0 ed (by omega) (by omega)
  unfold utf8Front
  simp only [UInt8.lt_iff_toNat_lt, UInt8.reduceToNat]
  rw [if_neg (by omega), if_neg (by omega), if_neg (by omega), if_pos high, follows]
  exact if_pos (isContinuation_of_isTail third)

theorem utf8Front_four {first b c d : UInt8} (low : 0xF0 ≤ first.toNat)
    (high : first.toNat < 0xF5) (second : IsTail b) (f0 : first.toNat = 0xF0 → 0x90 ≤ b.toNat)
    (f4 : first.toNat = 0xF4 → b.toNat < 0x90) (third : IsTail c) (fourth : IsTail d)
    (rest : List UInt8) :
    utf8Front first (b :: c :: d :: rest) =
      .char (Char.ofNat (first.toNat % 8 * 262144 + lowBits b * 4096 + lowBits c * 64 +
        lowBits d)) 4 := by
  have follows := mayFollow_of_isTail first second (by omega) (by omega) f0 f4
  unfold utf8Front
  simp only [UInt8.lt_iff_toNat_lt, UInt8.reduceToNat]
  rw [if_neg (by omega), if_neg (by omega), if_neg (by omega), if_neg (by omega), if_pos high,
    follows, isContinuation_of_isTail third]
  exact if_pos (isContinuation_of_isTail fourth)

/-! ## The bytes of a character -/

theorem toNat_ofNat_lt {n : Nat} (h : n < 256) : (UInt8.ofNat n).toNat = n :=
  UInt8.toNat_ofNat_of_lt' h

theorem isTail_ofNat {n : Nat} (h : n < 64) : IsTail (UInt8.ofNat (n + 0x80)) := by
  rw [IsTail, toNat_ofNat_lt (by omega)]
  omega

theorem lowBits_ofNat {n : Nat} (h : n < 64) : lowBits (UInt8.ofNat (n + 0x80)) = n := by
  rw [lowBits, toNat_ofNat_lt (by omega)]
  omega

theorem not_surrogate (c : Char) : c.toNat < 0xD800 ∨ 0xDFFF < c.toNat ∧ c.toNat < 0x110000 :=
  c.valid

/-- The bytes of a character are one piece, whatever follows; a first byte 0xED is not followed by
the second byte of a surrogate. -/
theorem utf8Front_encode (c : Char) : ∃ first tail,
    String.utf8EncodeChar c = first :: tail ∧
      (∀ rest, utf8Front first (tail ++ rest) = .char c (tail.length + 1)) ∧
      (first.toNat = 0xED → ∃ b tail', tail = b :: tail' ∧ b.toNat < 0xA0) := by
  have valid := not_surrogate c
  have same : Char.ofNat c.toNat = c := Char.ofNat_toNat c
  unfold String.utf8EncodeChar
  rw [show c.val.toNat = c.toNat from rfl]
  generalize c.toNat = n at valid same
  subst same
  simp only
  split_ifs with one two three
  · refine ⟨_, [], rfl, fun rest => ?_, ?_⟩
    · rw [utf8Front_one] <;> rw [toNat_ofNat_lt (by omega)]
      · rfl
      · omega
    · rw [toNat_ofNat_lt (by omega)]
      omega
  · have first := toNat_ofNat_lt (n := n / 64 % 32 + 0xC0) (by omega)
    refine ⟨_, [_], rfl, fun rest => ?_, by omega⟩
    rw [List.singleton_append, utf8Front_two (by omega) (by omega) (isTail_ofNat (by omega)),
      lowBits_ofNat (by omega), first]
    congr 2
    omega
  · have first := toNat_ofNat_lt (n := n / 4096 % 16 + 0xE0) (by omega)
    have second := toNat_ofNat_lt (n := n / 64 % 64 + 0x80) (by omega)
    refine ⟨_, [_, _], rfl, fun rest => ?_, fun _ => ⟨_, _, rfl, by omega⟩⟩
    rw [List.cons_append, List.singleton_append, utf8Front_three (by omega) (by omega)
      (isTail_ofNat (by omega)) (by omega) (by omega) (isTail_ofNat (by omega)),
      lowBits_ofNat (by omega), lowBits_ofNat (by omega), first]
    congr 2
    omega
  · have first := toNat_ofNat_lt (n := n / 262144 % 8 + 0xF0) (by omega)
    have second := toNat_ofNat_lt (n := n / 4096 % 64 + 0x80) (by omega)
    refine ⟨_, [_, _, _], rfl, fun rest => ?_, by omega⟩
    rw [List.cons_append, List.cons_append, List.singleton_append, utf8Front_four (by omega)
      (by omega) (isTail_ofNat (by omega)) (by omega) (by omega) (isTail_ofNat (by omega))
      (isTail_ofNat (by omega)), lowBits_ofNat (by omega), lowBits_ofNat (by omega),
      lowBits_ofNat (by omega), first]
    congr 2
    omega

theorem encode_ascii {c : Char} (h : c.toNat < 128) :
    String.utf8EncodeChar c = [UInt8.ofNat c.toNat] :=
  if_pos (Nat.le_of_lt_succ h)

theorem ofNat_ne_zero {n : Nat} (positive : 0 < n) (h : n < 256) : UInt8.ofNat n ≠ 0 := by
  intro zero
  have := congrArg UInt8.toNat zero
  rw [toNat_ofNat_lt h] at this
  exact Nat.ne_of_gt positive this

/-- Only the character zero has a byte zero. -/
theorem ne_zero_of_mem_encode {c : Char} (positive : 0 < c.toNat) :
    ∀ b ∈ String.utf8EncodeChar c, b ≠ 0 := by
  unfold String.utf8EncodeChar
  rw [show c.val.toNat = c.toNat from rfl]
  generalize c.toNat = n at positive
  simp only
  split_ifs with one
  · simpa using ofNat_ne_zero positive (by omega)
  all_goals
    simp only [List.forall_mem_cons, List.not_mem_nil, false_implies, implies_true, and_true]
    repeat' apply And.intro
    all_goals exact ofNat_ne_zero (by omega) (by omega)

/-! ## The bytes of a text -/

theorem utf8Pieces_encode (c : Char) (rest : List UInt8) : ∃ width,
    utf8Pieces (String.utf8EncodeChar c ++ rest) = .char c width :: utf8Pieces rest := by
  obtain ⟨first, tail, bytes, front, -⟩ := utf8Front_encode c
  refine ⟨tail.length + 1, ?_⟩
  rw [bytes, List.cons_append, utf8Pieces, front]
  simp [Piece.width]

/-- Bytes that do not begin a surrogate are cut as in UTF-8. -/
theorem utf8PassingPieces_cons {first : UInt8} {rest : List UInt8}
    (plain : first.toNat = 0xED → ∃ b rest', rest = b :: rest' ∧ b.toNat < 0xA0) :
    utf8PassingPieces (first :: rest) =
      utf8Front first rest ::
        utf8PassingPieces (rest.drop ((utf8Front first rest).width - 1)) := by
  rw [utf8PassingPieces.eq_def]
  split
  next h => cases h
  next b c rest' h =>
    obtain ⟨rfl, rfl⟩ := List.cons.inj h
    obtain ⟨b', rest'', same, low⟩ := plain rfl
    obtain ⟨rfl, -⟩ := List.cons.inj same
    rw [if_neg]
    simp only [Bool.and_eq_true, decide_eq_true_eq, UInt8.le_iff_toNat_le, UInt8.reduceToNat]
    omega
  next _ h =>
    obtain ⟨rfl, rfl⟩ := List.cons.inj h
    rfl

theorem utf8PassingPieces_encode (c : Char) (rest : List UInt8) : ∃ width,
    utf8PassingPieces (String.utf8EncodeChar c ++ rest) =
      .char c width :: utf8PassingPieces rest := by
  obtain ⟨first, tail, bytes, front, plain⟩ := utf8Front_encode c
  refine ⟨tail.length + 1, ?_⟩
  rw [bytes, List.cons_append, utf8PassingPieces_cons, front]
  · simp [Piece.width]
  · intro ed
    obtain ⟨b, tail', rfl, low⟩ := plain ed
    exact ⟨b, tail' ++ rest, rfl, low⟩

theorem strictText_encode {pieces : List UInt8 → List Piece} (nil : pieces [] = [])
    (encode : ∀ c rest, ∃ width,
      pieces (String.utf8EncodeChar c ++ rest) = .char c width :: pieces rest)
    (encoding : String) (start : Nat) (cs : List Char) :
    strictText encoding start (pieces (utf8Encode cs)) = .ok cs := by
  induction cs generalizing start with
  | nil =>
    show strictText encoding start (pieces []) = _
    rw [nil]
    rfl
  | cons c rest ih =>
    obtain ⟨width, cut⟩ := encode c (utf8Encode rest)
    show strictText encoding start (pieces (String.utf8EncodeChar c ++ utf8Encode rest)) = _
    rw [cut, strictText, ih]
    rfl

/-- The text of the bytes of a text. -/
theorem utf8Decode_encode (cs : List Char) : utf8Decode (utf8Encode cs) = .ok cs :=
  strictText_encode (by rw [utf8Pieces]) utf8Pieces_encode "utf-8" 0 cs

/-- No character of a text is replaced. -/
theorem utf8DecodeReplacing_encode (cs : List Char) :
    utf8DecodeReplacing (utf8Encode cs) = cs := by
  induction cs with
  | nil => simp [utf8Encode, utf8DecodeReplacing, utf8Pieces, replacedText]
  | cons c rest ih =>
    obtain ⟨width, cut⟩ := utf8Pieces_encode c (utf8Encode rest)
    show replacedText (utf8Pieces (String.utf8EncodeChar c ++ utf8Encode rest)) = _
    rw [cut]
    exact congrArg (c :: ·) ih

/-- The same where surrogates pass: the bytes of a text have none. -/
theorem utf8DecodePassing_encode (cs : List Char) : utf8DecodePassing (utf8Encode cs) = .ok cs :=
  strictText_encode (by rw [utf8PassingPieces]) utf8PassingPieces_encode "utf-8" 0 cs

/-! ## Pieces that are characters -/

theorem isTail_of_isContinuation {b : UInt8} (h : isContinuation b = true) : IsTail b := by
  simp only [isContinuation, Bool.and_eq_true, decide_eq_true_eq, UInt8.le_iff_toNat_le,
    UInt8.reduceToNat] at h
  exact ⟨h.1, Nat.lt_succ_of_le h.2⟩

theorem isTail_of_mayFollow {first b : UInt8} (h : mayFollow first b = true) :
    IsTail b ∧ (first.toNat = 0xE0 → 0xA0 ≤ b.toNat) ∧ (first.toNat = 0xED → b.toNat < 0xA0) ∧
      (first.toNat = 0xF0 → 0x90 ≤ b.toNat) ∧ (first.toNat = 0xF4 → b.toNat < 0x90) := by
  simp only [mayFollow, Bool.and_eq_true, Bool.not_eq_true', Bool.and_eq_false_iff,
    beq_eq_false_iff_ne, decide_eq_false_iff_not, ge_iff_le, ne_eq, ← UInt8.toNat_inj,
    UInt8.lt_iff_toNat_lt, UInt8.le_iff_toNat_le, UInt8.reduceToNat] at h
  obtain ⟨⟨⟨⟨tail, e0⟩, ed⟩, f0⟩, f4⟩ := h
  refine ⟨isTail_of_isContinuation tail, ?_, ?_, ?_, ?_⟩ <;> omega

theorem toNat_ofNat_of_valid {n : Nat} (valid : n < 0xD800 ∨ 0xDFFF < n ∧ n < 0x110000) :
    (Char.ofNat n).toNat = n := by
  have valid : n.isValidChar := valid
  rw [Char.ofNat, dif_pos valid]
  rfl

/-- A piece that is a character is one byte of ASCII, or a byte that leads some that continue it and
a character outside ASCII. -/
theorem utf8Front_eq_char {first : UInt8} {rest : List UInt8} {c : Char} {width : Nat}
    (h : utf8Front first rest = .char c width) :
    (first.toNat < 0x80 ∧ c = Char.ofNat first.toNat ∧ width = 1) ∨
      (0xC2 ≤ first.toNat ∧ first.toNat ≤ 0xF4 ∧ 0x80 ≤ c.toNat ∧
        ∀ b ∈ rest.take (width - 1), 0x80 ≤ b.toNat) := by
  unfold utf8Front at h
  simp only [UInt8.lt_iff_toNat_lt, UInt8.reduceToNat] at h
  split_ifs at h with one low two three four
  · obtain ⟨rfl, rfl⟩ := Piece.char.inj h
    exact .inl ⟨one, rfl, rfl⟩
  · refine .inr ?_
    cases rest with
    | nil => cases h
    | cons b rest =>
      simp only at h
      split_ifs at h with second
      obtain ⟨rfl, rfl⟩ := Piece.char.inj h
      have tail := isTail_of_isContinuation second
      refine ⟨by omega, by omega, ?_, by simpa using tail.1⟩
      rw [toNat_ofNat_of_valid (by unfold lowBits; omega)]
      omega
  · refine .inr ?_
    rcases rest with _ | ⟨b, _ | ⟨c, rest⟩⟩ <;> simp only at h
    · cases h
    · split_ifs at h
    · split_ifs at h with second third
      obtain ⟨rfl, rfl⟩ := Piece.char.inj h
      obtain ⟨tail, e0, ed, -, -⟩ := isTail_of_mayFollow (by simpa using second)
      have tail' := isTail_of_isContinuation third
      obtain ⟨above, below⟩ := tail
      refine ⟨by omega, by omega, ?_, by simpa using ⟨above, tail'.1⟩⟩
      rw [toNat_ofNat_of_valid (by unfold lowBits; omega)]
      unfold lowBits
      omega
  · refine .inr ?_
    rcases rest with _ | ⟨b, _ | ⟨c, _ | ⟨d, rest⟩⟩⟩ <;> simp only at h
    · cases h
    · split_ifs at h
    · split_ifs at h
    · split_ifs at h with second third fourth
      obtain ⟨rfl, rfl⟩ := Piece.char.inj h
      obtain ⟨tail, -, -, f0, f4⟩ := isTail_of_mayFollow (by simpa using second)
      have tail' := isTail_of_isContinuation (by simpa using third)
      have tail'' := isTail_of_isContinuation fourth
      obtain ⟨above, below⟩ := tail
      refine ⟨by omega, by omega, ?_, by simpa using ⟨above, tail'.1, tail''.1⟩⟩
      rw [toNat_ofNat_of_valid (by unfold lowBits; omega)]
      unfold lowBits
      omega

end ServiceRegistry.Text
