import Mathlib.Data.List.TakeWhile
import Mathlib.Tactic.SplitIfs
import ServiceRegistry.Json.Document
import ServiceRegistry.Json.Printer
import ServiceRegistry.Proofs.Number.Decimal
import ServiceRegistry.Proofs.Text.Utf8

/-!
# Values that their text gives back

Results:

* `readValue_print`: the text of a value that fits is read as the value, whatever follows it.
* `read_print`: the same for a whole text.
* `readDocument_print`: the same for the bytes of the text.
* `readDocument_digits`: a whole number with too many digits is not read.
-/

namespace ServiceRegistry.Json

open Number (ne_of_isDigit toNat_of_isDigit)

/-! ## Texts -/

/-- The characters of a control character that is spelled out. -/
theorem hexPadded_control : ∀ n < 32, Text.hexPadded 4 n =
    ['0', '0', Text.hexDigit (n / 16), Text.hexDigit (n % 16)] := by decide

theorem hexQuad_control : ∀ n < 32,
    hexQuad? '0' '0' (Text.hexDigit (n / 16)) (Text.hexDigit (n % 16)) = some n := by decide

theorem readCode_control {n : Nat} (h : n < 32) (start : List Char) (next : Char)
    (rest : List Char) :
    readCode start (Text.hexPadded 4 n ++ next :: rest) = .ok (n, next :: rest) := by
  have low : Text.isHighSurrogate n = false := by
    simp only [Text.isHighSurrogate, Bool.and_eq_false_iff, decide_eq_false_iff_not]
    omega
  rw [hexPadded_control n h]
  show readCode start ('0' :: '0' :: _ :: _ :: next :: rest) = _
  rw [readCode, hexQuad_control n h]
  simp only [low]

theorem charOfCode_control {c : Char} (h : c.toNat < 32) : Text.charOfCode c.toNat = c := by
  unfold Text.charOfCode
  rw [if_neg, Char.ofNat_toNat]
  simp only [Text.isHighSurrogate, Text.isLowSurrogate, Bool.or_eq_true, Bool.and_eq_true,
    decide_eq_true_eq]
  omega

/-- The three ways to write a character in a JSON string: by a letter, by a number, or as it is. -/
theorem printChar_cases (c : Char) :
    (∃ letter, printChar c = ['\\', letter] ∧ escaped? letter = some c ∧ 32 ≤ letter.toNat) ∨
      (printChar c = '\\' :: 'u' :: Text.hexPadded 4 c.toNat ∧ c.toNat < 32) ∨
      (printChar c = [c] ∧ c ≠ '"' ∧ c ≠ '\\' ∧ ¬ c.toNat < 32) := by
  unfold printChar
  by_cases quote : (c == '"') = true
  · exact .inl ⟨'"', if_pos quote, by rw [beq_iff_eq.mp quote]; rfl, by decide⟩
  rw [if_neg quote]
  by_cases backslash : (c == '\\') = true
  · exact .inl ⟨'\\', if_pos backslash, by rw [beq_iff_eq.mp backslash]; rfl, by decide⟩
  rw [if_neg backslash]
  by_cases feed : (c == '\n') = true
  · exact .inl ⟨'n', if_pos feed, by rw [beq_iff_eq.mp feed]; rfl, by decide⟩
  rw [if_neg feed]
  by_cases carriage : (c == '\r') = true
  · exact .inl ⟨'r', if_pos carriage, by rw [beq_iff_eq.mp carriage]; rfl, by decide⟩
  rw [if_neg carriage]
  by_cases tab : (c == '\t') = true
  · exact .inl ⟨'t', if_pos tab, by rw [beq_iff_eq.mp tab]; rfl, by decide⟩
  rw [if_neg tab]
  by_cases back : (c.toNat == 8) = true
  · exact .inl ⟨'b', if_pos back, by rw [← Char.ofNat_toNat c, beq_iff_eq.mp back]; rfl, by decide⟩
  rw [if_neg back]
  by_cases form : (c.toNat == 12) = true
  · exact .inl ⟨'f', if_pos form, by rw [← Char.ofNat_toNat c, beq_iff_eq.mp form]; rfl, by decide⟩
  rw [if_neg form]
  by_cases control : c.toNat < 32
  · exact .inr (.inl ⟨if_pos control, control⟩)
  rw [if_neg control]
  exact .inr (.inr ⟨rfl, by simpa using quote, by simpa using backslash, control⟩)

section Chars

variable (opening fuel : Nat) (done rest : List Char)

theorem readChars_letter {letter c : Char} (means : escaped? letter = some c) :
    readChars opening (fuel + 1) done ('\\' :: letter :: rest) =
      readChars opening fuel (c :: done) rest := by
  have other : letter ≠ 'u' := by
    rintro rfl
    cases means
  rw [readChars, if_neg (by decide), if_neg (by decide), if_neg (by decide)]
  simp only [means]
  exact other

theorem readChars_control {c : Char} (h : c.toNat < 32) (next : Char) :
    readChars opening (fuel + 1) done
        ('\\' :: 'u' :: (Text.hexPadded 4 c.toNat ++ next :: rest)) =
      readChars opening fuel (c :: done) (next :: rest) := by
  rw [readChars, if_neg (by decide), if_neg (by decide), if_neg (by decide)]
  simp only [readCode_control h, charOfCode_control h]

theorem readChars_plain {c : Char} (quote : c ≠ '"') (backslash : c ≠ '\\')
    (visible : ¬ c.toNat < 32) :
    readChars opening (fuel + 1) done (c :: rest) = readChars opening fuel (c :: done) rest := by
  rw [readChars.eq_def]
  simp only
  rw [if_neg (by simpa using quote), if_neg visible, if_pos (by simpa using backslash)]

/-- One character of a text is read back. A character that is spelled out needs another one after
it, and there is one: at least the closing quote. -/
theorem readChars_printChar (c next : Char) :
    readChars opening (fuel + 1) done (printChar c ++ next :: rest) =
      readChars opening fuel (c :: done) (next :: rest) := by
  rcases printChar_cases c with ⟨letter, printed, means, -⟩ | ⟨printed, control⟩ |
    ⟨printed, quote, backslash, visible⟩ <;> rw [printed]
  · exact readChars_letter _ _ _ _ means
  · exact readChars_control _ _ _ _ control next
  · exact readChars_plain _ _ _ _ quote backslash visible

end Chars

/-- All characters of a text are read back, up to the closing quote. -/
theorem readChars_print (opening : Nat) {fuel : Nat} {cs : List Char} (enough : cs.length < fuel)
    (done rest : List Char) :
    readChars opening fuel done (cs.flatMap printChar ++ '"' :: rest) =
      .ok (String.ofList (done.reverse ++ cs), rest) := by
  obtain ⟨fuel, rfl⟩ := Nat.exists_eq_add_one_of_ne_zero (Nat.ne_zero_of_lt enough)
  induction cs generalizing fuel done with
  | nil =>
    rw [List.append_nil]
    exact if_pos rfl
  | cons c cs ih =>
    rw [List.flatMap_cons, List.append_assoc]
    obtain ⟨next, tail, cons⟩ : ∃ next tail, cs.flatMap printChar ++ '"' :: rest = next :: tail :=
      List.exists_cons_of_ne_nil (by simp)
    rw [List.length_cons] at enough
    obtain ⟨fuel, rfl⟩ := Nat.exists_eq_add_one_of_ne_zero (n := fuel) (by omega)
    rw [cons, readChars_printChar, ← cons, ih (c :: done) fuel (by omega)]
    simp

theorem length_le_printed (cs : List Char) : cs.length ≤ (cs.flatMap printChar).length := by
  induction cs with
  | nil => exact Nat.le_refl 0
  | cons c cs ih =>
    have one : 1 ≤ (printChar c).length := by
      rcases printChar_cases c with ⟨letter, printed, -⟩ | ⟨printed, -⟩ | ⟨printed, -⟩ <;>
        simp [printed]
    rw [List.flatMap_cons, List.length_append, List.length_cons]
    omega

/-- A text is read back from its JSON string. -/
theorem readString_print (s : String) (rest : List Char) :
    readString (s.toList.flatMap printChar ++ '"' :: rest) = .ok (s, rest) := by
  unfold readString
  have enough := length_le_printed s.toList
  rw [readChars_print _ (by simp only [List.length_append, List.length_cons]; omega)]
  simp

/-! ## Numbers -/

/-- What may follow a value: the end, or a character that parts values. -/
def Follows (rest : List Char) : Prop :=
  ∀ c ∈ rest.head?, c = ',' ∨ c = ']' ∨ c = '\x7d'

theorem follows_nil : Follows [] := by simp [Follows]

theorem follows_cons {c : Char} (h : c = ',' ∨ c = ']' ∨ c = '\x7d') (rest : List Char) :
    Follows (c :: rest) := by
  rintro _ ⟨⟩
  exact h

section Numbers

variable {rest : List Char}

theorem takeWhile_isDigit (follows : Follows rest) : rest.takeWhile Char.isDigit = [] := by
  cases rest with
  | nil => rfl
  | cons c rest =>
    rcases follows c rfl with rfl | rfl | rfl <;> rfl

theorem dropWhile_isDigit (follows : Follows rest) : rest.dropWhile Char.isDigit = rest := by
  cases rest with
  | nil => rfl
  | cons c rest =>
    rcases follows c rfl with rfl | rfl | rfl <;> rfl

theorem splitWhole_print (follows : Follows rest) (n : Nat) :
    splitWhole (Number.natDigits n ++ rest) = (Number.natDigits n, rest) := by
  have digits : ∀ c ∈ Number.natDigits n, c.isDigit = true :=
    fun _ => Number.isDigit_of_mem_natDigits
  have taken : (Number.natDigits n ++ rest).takeWhile Char.isDigit = _ :=
    List.takeWhile_append_of_pos digits
  have dropped : (Number.natDigits n ++ rest).dropWhile Char.isDigit = _ :=
    List.dropWhile_append_of_pos digits
  obtain ⟨c, tail, cons, zero⟩ := Number.natDigits_cons n
  rw [takeWhile_isDigit follows, List.append_nil] at taken
  rw [dropWhile_isDigit follows] at dropped
  rw [cons, List.cons_append] at taken dropped ⊢
  rw [splitWhole]
  split_ifs with isZero
  · rw [(zero (beq_iff_eq.mp isZero)).2]
    rfl
  · rw [taken, dropped]

theorem splitFraction_follows (follows : Follows rest) : splitFraction rest = (none, rest) := by
  cases rest with
  | nil => rfl
  | cons c rest =>
    rcases follows c rfl with rfl | rfl | rfl <;> rfl

theorem splitExponent_follows (follows : Follows rest) : splitExponent rest = (none, rest) := by
  cases rest with
  | nil => rfl
  | cons c rest =>
    rcases follows c rfl with rfl | rfl | rfl <;> rfl

/-- The digits of a number within the limit are read back. -/
theorem readNumber_print {limits : Limits} {n : Nat}
    (within : (Number.natDigits n).length ≤ limits.digits) (follows : Follows rest)
    (negative : Bool) (start : List Char) :
    readNumber limits negative start (Number.natDigits n ++ rest) =
      .ok (.int (if negative then -n else n), rest) := by
  obtain ⟨c, tail, cons, -⟩ := Number.natDigits_cons n
  have full : (Number.natDigits n).isEmpty = false := by
    rw [cons]
    rfl
  unfold readNumber
  rw [splitWhole_print follows]
  simp only [splitFraction_follows follows, splitExponent_follows follows, full,
    Number.digitsValue_natDigits]
  rw [if_neg (by decide), if_pos (by rfl), if_neg (by omega)]

end Numbers

/-! ## Scalars -/

theorem readValue_scalar {limits : Limits} {c : Char} (quote : c ≠ '"') (brace : c ≠ '\x7b')
    (bracket : c ≠ '[') (fuel depth : Nat) (rest : List Char) :
    readValue limits (fuel + 1) depth (c :: rest) =
      match readLiteral? (c :: rest) with
      | some result => .ok result
      | none =>
        if c == '-' then readNumber limits true (c :: rest) rest
        else if c.isDigit then readNumber limits false (c :: rest) (c :: rest)
        else stopAt .value (c :: rest) := by
  rw [readValue.eq_def]
  simp only
  rewrite [if_neg (by simpa using quote), if_neg (by simpa using brace),
    if_neg (by simpa using bracket)]
  rfl

theorem readValue_null (limits : Limits) (fuel depth : Nat) (rest : List Char) :
    readValue limits (fuel + 1) depth ("null".toList ++ rest) = .ok (.null, rest) := rfl

theorem readValue_true (limits : Limits) (fuel depth : Nat) (rest : List Char) :
    readValue limits (fuel + 1) depth ("true".toList ++ rest) = .ok (.bool true, rest) := rfl

theorem readValue_false (limits : Limits) (fuel depth : Nat) (rest : List Char) :
    readValue limits (fuel + 1) depth ("false".toList ++ rest) = .ok (.bool false, rest) := rfl

theorem readLiteral?_digit {c : Char} (h : c.isDigit = true) (rest : List Char) :
    readLiteral? (c :: rest) = none := by
  have other (letter : Char) (h' : letter.isDigit = false) : (letter == c) = false :=
    beq_eq_false_iff_ne.mpr (ne_of_isDigit h h').symm
  simp [readLiteral?, literals, afterLiteral?, other]

theorem readLiteral?_minus {c : Char} (h : c.isDigit = true) (rest : List Char) :
    readLiteral? ('-' :: c :: rest) = none := by
  have other : ('I' == c) = false := beq_eq_false_iff_ne.mpr (ne_of_isDigit h (by decide)).symm
  simp [readLiteral?, literals, afterLiteral?, other]

theorem readValue_int {limits : Limits} {n : Int}
    (within : (Number.natDigits n.natAbs).length ≤ limits.digits) {rest : List Char}
    (follows : Follows rest) (fuel depth : Nat) :
    readValue limits (fuel + 1) depth (Number.intText n ++ rest) = .ok (.int n, rest) := by
  obtain ⟨c, tail, cons, -⟩ := Number.natDigits_cons n.natAbs
  have digit : c.isDigit = true :=
    Number.isDigit_of_mem_natDigits (n := n.natAbs) (by rw [cons]; exact List.mem_cons_self)
  have number := readNumber_print within follows
  rw [cons, List.cons_append] at number
  cases n with
  | ofNat n =>
    show readValue limits (fuel + 1) depth (Number.natDigits (Int.ofNat n).natAbs ++ rest) = _
    rw [cons, List.cons_append, readValue_scalar (ne_of_isDigit digit (by decide))
      (ne_of_isDigit digit (by decide)) (ne_of_isDigit digit (by decide)),
      readLiteral?_digit digit]
    simp only
    rw [if_neg (by simpa using ne_of_isDigit digit (by decide)), if_pos digit, number false]
    rfl
  | negSucc n =>
    show readValue limits (fuel + 1) depth
      ('-' :: (Number.natDigits (Int.negSucc n).natAbs ++ rest)) = _
    rw [cons, List.cons_append, readValue_scalar (by decide) (by decide) (by decide),
      readLiteral?_minus digit]
    simp only
    rw [if_pos (by decide), number true]
    rfl

theorem readValue_text (limits : Limits) (s : String) (fuel depth : Nat) (rest : List Char) :
    readValue limits (fuel + 1) depth (printText s ++ rest) = .ok (.text s, rest) := by
  have body := readString_print s rest
  rw [printText, List.append_assoc, List.cons_append, List.singleton_append]
  rw [readValue.eq_def]
  simp only
  rw [if_pos (by decide), body]
  rfl

/-! ## Containers -/

/-- A text that begins with a character of ASCII, which is neither a blank nor an end. -/
def Begins (cs : List Char) : Prop :=
  ∃ c rest, cs = c :: rest ∧ isBlank c = false ∧ c ≠ ']' ∧ c ≠ '\x7d' ∧ c.toNat < 128

theorem Begins.append {cs : List Char} (h : Begins cs) (more : List Char) :
    Begins (cs ++ more) := by
  obtain ⟨c, rest, rfl, plain⟩ := h
  exact ⟨c, rest ++ more, rfl, plain⟩

theorem Begins.skipBlanks {cs : List Char} (h : Begins cs) : skipBlanks cs = cs := by
  obtain ⟨c, rest, rfl, blank, -⟩ := h
  exact List.dropWhile_cons_of_neg (by rw [blank]; decide)

theorem begins_digit {c : Char} (digit : c.isDigit = true) (rest : List Char) :
    Begins (c :: rest) := by
  refine ⟨c, rest, rfl, ?_, ne_of_isDigit digit (by decide), ne_of_isDigit digit (by decide),
    Nat.lt_of_le_of_lt (toNat_of_isDigit digit).2 (by decide)⟩
  have other (d : Char) (h : d.isDigit = false) : (c == d) = false :=
    beq_eq_false_iff_ne.mpr (ne_of_isDigit digit h)
  simp [isBlank, other]

theorem begins_digits (n : Nat) : Begins (Number.natDigits n) := by
  obtain ⟨c, rest, cons, -⟩ := Number.natDigits_cons n
  rw [cons]
  exact begins_digit (Number.isDigit_of_mem_natDigits (n := n) (by simp [cons])) rest

theorem Fits.of_lt {digits depth : Nat} {n : Int} (h : n.natAbs < 10 ^ digits) :
    Fits digits depth (.int n) :=
  .int h

/-- A value that fits does so with more room. -/
theorem Fits.mono {digits depth depth' : Nat} {value : Json} (h : Fits digits depth value)
    (le : depth ≤ depth') : Fits digits depth' value := by
  induction h generalizing depth' with
  | null => exact .null
  | bool b => exact .bool b
  | int within => exact .int within
  | text s => exact .text s
  | list _ ih =>
    obtain ⟨depth', rfl⟩ := Nat.exists_eq_add_one_of_ne_zero (Nat.ne_zero_of_lt le)
    exact .list fun item mem => ih item mem (Nat.le_of_succ_le_succ le)
  | object distinct _ ih =>
    obtain ⟨depth', rfl⟩ := Nat.exists_eq_add_one_of_ne_zero (Nat.ne_zero_of_lt le)
    exact .object distinct fun member mem => ih member mem (Nat.le_of_succ_le_succ le)

theorem begins_print {digits depth : Nat} {value : Json} (h : Fits digits depth value) :
    Begins value.printValue := by
  cases h with
  | null => exact ⟨'n', _, rfl, by decide⟩
  | bool b =>
    cases b with
    | true => exact ⟨'t', _, rfl, by decide⟩
    | false => exact ⟨'f', _, rfl, by decide⟩
  | @int _ n _ =>
    cases n with
    | ofNat n => exact begins_digits n
    | negSucc n => exact ⟨'-', _, rfl, by decide⟩
  | text s => exact ⟨'"', _, rfl, by decide⟩
  | list _ => exact ⟨'[', _, rfl, by decide⟩
  | object _ _ => exact ⟨'\x7b', _, rfl, by decide⟩

/-- A value is read back where at most `depth` containers may be opened. -/
def Reads (limits : Limits) (depth : Nat) (value : Json) : Prop :=
  ∀ fuel rest, 2 * value.printValue.length ≤ fuel → Follows rest →
    readValue limits fuel depth (value.printValue ++ rest) = .ok (value, rest)

section Containers

variable {limits : Limits} {depth : Nat}

theorem begins_printItems {items : List Json} (nonempty : items ≠ [])
    (begins : ∀ item ∈ items, Begins item.printValue) : Begins (printItems items) := by
  cases items with
  | nil => exact absurd rfl nonempty
  | cons item tail =>
    have first := begins item List.mem_cons_self
    cases tail <;> exact first.append _

/-- The items of a list are read back one after the other. -/
theorem readItems_print {items : List Json} (nonempty : items ≠ [])
    (begins : ∀ item ∈ items, Begins item.printValue)
    (reads : ∀ item ∈ items, Reads limits depth item) {fuel : Nat}
    (enough : 2 * (printItems items).length ≤ fuel) (done : List Json) (rest : List Char) :
    readItems limits fuel depth done (printItems items ++ rest) =
      .ok (.list (done.reverse ++ items), rest) := by
  induction items generalizing fuel done with
  | nil => exact absurd rfl nonempty
  | cons item tail ih =>
    have read := reads item List.mem_cons_self
    cases tail with
    | nil =>
      rw [printItems, List.length_append, List.length_singleton] at enough
      obtain ⟨fuel, rfl⟩ := Nat.exists_eq_add_one_of_ne_zero (n := fuel) (by omega)
      have first := read fuel (']' :: rest) (by omega) (follows_cons (by decide) rest)
      rw [printItems, List.append_assoc, List.singleton_append, readItems, first]
      show Except.ok (Json.list (item :: done).reverse, rest) = _
      rw [List.reverse_cons]
    | cons next tail =>
      rw [printItems, List.length_append, List.length_cons] at enough
      obtain ⟨fuel, rfl⟩ := Nat.exists_eq_add_one_of_ne_zero (n := fuel) (by omega)
      have first := read fuel (',' :: (printItems (next :: tail) ++ rest)) (by omega)
        (follows_cons (by decide) _)
      have begins' := begins_printItems (List.cons_ne_nil next tail)
        fun other mem => begins other (List.mem_cons_of_mem item mem)
      have enough' : 2 * (printItems (next :: tail)).length ≤ fuel := by omega
      have others := ih (List.cons_ne_nil next tail)
        (fun other mem => begins other (List.mem_cons_of_mem item mem))
        (fun other mem => reads other (List.mem_cons_of_mem item mem)) enough' (item :: done)
      rw [printItems, List.append_assoc, List.cons_append, readItems, first]
      show readItems limits fuel depth (item :: done)
        (skipBlanks (printItems (next :: tail) ++ rest)) = _
      rw [(begins'.append rest).skipBlanks, others, List.reverse_cons, List.append_assoc,
        List.singleton_append]

theorem begins_printText (s : String) : Begins (printText s) :=
  ⟨'"', _, rfl, by decide⟩

theorem begins_printMembers {members : List (String × Json)} (nonempty : members ≠ []) :
    Begins (printMembers members) := by
  cases members with
  | nil => exact absurd rfl nonempty
  | cons member tail =>
    cases tail <;> exact (begins_printText member.1).append _

/-- One member of an object is read back. -/
theorem readMembers_member (key : String) {value : Json} (begins : Begins value.printValue)
    (reads : Reads limits depth value) {after : List Char} (follows : Follows after) {fuel : Nat}
    (enough : 2 * value.printValue.length ≤ fuel) (done : List (String × Json)) :
    readMembers limits (fuel + 1) depth done
        (printText key ++ ':' :: (value.printValue ++ after)) =
      match skipBlanks after with
      | '\x7d' :: rest => .ok (objectOf ((key, value) :: done).reverse, rest)
      | ',' :: rest => readMembers limits fuel depth ((key, value) :: done) (skipBlanks rest)
      | rest => stopAt .comma rest := by
  have named := readString_print key (':' :: (value.printValue ++ after))
  have first := reads fuel after enough follows
  have blanks : skipBlanks (':' :: (value.printValue ++ after)) =
    ':' :: (value.printValue ++ after) := rfl
  rw [printText, List.append_assoc, List.cons_append, List.singleton_append, readMembers, named]
  simp only [blanks]
  rewrite [(begins.append after).skipBlanks, first]
  rfl

/-- The members of an object are read back one after the other. -/
theorem readMembers_print {members : List (String × Json)} (nonempty : members ≠ [])
    (begins : ∀ member ∈ members, Begins member.2.printValue)
    (reads : ∀ member ∈ members, Reads limits depth member.2) {fuel : Nat}
    (enough : 2 * (printMembers members).length ≤ fuel) (done : List (String × Json))
    (rest : List Char) :
    readMembers limits fuel depth done (printMembers members ++ rest) =
      .ok (objectOf (done.reverse ++ members), rest) := by
  induction members generalizing fuel done with
  | nil => exact absurd rfl nonempty
  | cons member tail ih =>
    obtain ⟨key, value⟩ := member
    have read : Reads limits depth value := reads (key, value) List.mem_cons_self
    have begin : Begins value.printValue := begins (key, value) List.mem_cons_self
    cases tail with
    | nil =>
      simp only [printMembers, List.length_append, List.length_cons, List.length_nil] at enough
      obtain ⟨fuel, rfl⟩ := Nat.exists_eq_add_one_of_ne_zero (n := fuel) (by omega)
      have short : 2 * value.printValue.length ≤ fuel := by omega
      have step := readMembers_member key begin read (follows_cons (c := '\x7d') (by decide) rest)
        short done
      rw [printMembers, List.append_assoc, List.cons_append, List.append_assoc,
        List.singleton_append, step]
      show Except.ok (objectOf ((key, value) :: done).reverse, rest) = _
      rw [List.reverse_cons]
    | cons next tail =>
      simp only [printMembers, List.length_append, List.length_cons] at enough
      obtain ⟨fuel, rfl⟩ := Nat.exists_eq_add_one_of_ne_zero (n := fuel) (by omega)
      have short : 2 * value.printValue.length ≤ fuel := by omega
      have enough' : 2 * (printMembers (next :: tail)).length ≤ fuel := by omega
      have step := readMembers_member key begin read
        (follows_cons (c := ',') (by decide) (printMembers (next :: tail) ++ rest)) short done
      have others := ih (List.cons_ne_nil next tail)
        (fun other mem => begins other (List.mem_cons_of_mem _ mem))
        (fun other mem => reads other (List.mem_cons_of_mem _ mem)) enough' ((key, value) :: done)
      have begins' : Begins (printMembers (next :: tail)) := begins_printMembers (by simp)
      rw [printMembers, List.append_assoc, List.cons_append, List.append_assoc, List.cons_append,
        step]
      show readMembers limits fuel depth ((key, value) :: done)
        (skipBlanks (printMembers (next :: tail) ++ rest)) = _
      rw [(begins'.append rest).skipBlanks, others, List.reverse_cons, List.append_assoc,
        List.singleton_append]

end Containers

/-! ## Members without a key twice -/

theorem insertMember_of_notMem {α : Type} {key : String} {members : List (String × α)}
    (h : key ∉ members.map Prod.fst) (value : α) :
    insertMember key value members = members ++ [(key, value)] := by
  induction members with
  | nil => rfl
  | cons member rest ih =>
    rw [List.map_cons, List.mem_cons, not_or] at h
    rw [insertMember, if_neg (by simpa using Ne.symm h.1), ih h.2, List.cons_append]

theorem membersOf_of_nodup {α : Type} {pairs : List (String × α)}
    (h : (pairs.map Prod.fst).Nodup) : membersOf pairs = pairs := by
  have go (done : List (String × α)) (distinct : ((done ++ pairs).map Prod.fst).Nodup) :
      pairs.foldl (fun members pair => insertMember pair.1 pair.2 members) done =
        done ++ pairs := by
    induction pairs generalizing done with
    | nil => simp
    | cons pair rest ih =>
      have free : pair.1 ∉ done.map Prod.fst := by
        intro mem
        rw [List.map_append, List.map_cons] at distinct
        exact (List.nodup_append.mp distinct).2.2 _ mem _ List.mem_cons_self rfl
      rw [List.append_cons done pair rest] at distinct ⊢
      rw [List.foldl_cons, insertMember_of_notMem free]
      exact ih (List.nodup_cons.mp h).2 _ distinct
  exact go [] h

/-! ## Values -/

/-- A value that has a text takes at least one unit of fuel. -/
theorem Reads.of_succ {limits : Limits} {depth : Nat} {value : Json}
    (begins : Begins value.printValue)
    (h : ∀ fuel rest, 2 * value.printValue.length ≤ fuel + 1 → Follows rest →
      readValue limits (fuel + 1) depth (value.printValue ++ rest) = .ok (value, rest)) :
    Reads limits depth value := by
  intro fuel rest enough follows
  obtain ⟨c, tail, cons, -⟩ := begins
  have positive : 0 < value.printValue.length := by simp [cons]
  obtain ⟨fuel, rfl⟩ := Nat.exists_eq_add_one_of_ne_zero (n := fuel) (by omega)
  exact h fuel rest enough follows

theorem readValue_openBracket {limits : Limits} {cs : List Char} (begins : Begins cs)
    (fuel depth : Nat) :
    readValue limits (fuel + 1) (depth + 1) ('[' :: cs) = readItems limits fuel depth [] cs := by
  rw [readValue.eq_def]
  simp only
  rw [if_neg (by decide), if_neg (by decide), if_pos (by decide), begins.skipBlanks]
  obtain ⟨c, rest, rfl, -, other, -⟩ := begins
  split
  next same => exact absurd (List.cons.inj same).1 other
  next => rfl

theorem readValue_openBrace {limits : Limits} {cs : List Char} (begins : Begins cs)
    (fuel depth : Nat) :
    readValue limits (fuel + 1) (depth + 1) ('\x7b' :: cs) =
      readMembers limits fuel depth [] cs := by
  rw [readValue.eq_def]
  simp only
  rw [if_neg (by decide), if_pos (by decide), begins.skipBlanks]
  obtain ⟨c, rest, rfl, -, -, other, -⟩ := begins
  split
  next same => exact absurd (List.cons.inj same).1 other
  next => rfl

/-- The text of a value is read as the value, whatever follows it. -/
theorem readValue_print {limits : Limits} (positive : 0 < limits.digits) {depth : Nat}
    {value : Json} (h : Fits limits.digits depth value) : Reads limits depth value := by
  induction h with
  | null =>
    refine .of_succ (begins_print (.null : Fits 0 0 .null)) fun fuel rest _ _ => ?_
    rw [printValue]
    exact readValue_null limits fuel _ rest
  | bool b =>
    refine .of_succ (begins_print (.bool b : Fits 0 0 (.bool b))) fun fuel rest _ _ => ?_
    cases b with
    | true =>
      rw [printValue]
      exact readValue_true limits fuel _ rest
    | false =>
      rw [printValue]
      exact readValue_false limits fuel _ rest
  | @int _ n within =>
    have fits : Fits limits.digits 0 (.int n) := .int within
    refine .of_succ (begins_print fits) fun fuel rest _ follows => ?_
    exact readValue_int (Number.length_natDigits_le positive within) follows fuel _
  | text s =>
    refine .of_succ (begins_printText s) fun fuel rest _ _ => ?_
    exact readValue_text limits s fuel _ rest
  | @list depth items fits reads =>
    refine .of_succ ⟨'[', _, rfl, by decide⟩ fun fuel rest enough _ => ?_
    rw [printValue, List.length_cons] at enough
    rw [printValue, List.cons_append]
    by_cases nonempty : items = []
    · subst nonempty
      rfl
    · have begins (item) (mem : item ∈ items) := begins_print (fits item mem)
      rw [readValue_openBracket ((begins_printItems nonempty begins).append rest),
        readItems_print nonempty begins reads (by omega) [] rest, List.reverse_nil,
        List.nil_append]
  | @object depth members distinct fits reads =>
    refine .of_succ ⟨'\x7b', _, rfl, by decide⟩ fun fuel rest enough _ => ?_
    rw [printValue, List.length_cons] at enough
    rw [printValue, List.cons_append]
    by_cases nonempty : members = []
    · subst nonempty
      rfl
    · have begins := begins_printMembers nonempty
      rw [readValue_openBrace (begins.append rest),
        readMembers_print nonempty (fun member mem => begins_print (fits member mem)) reads
          (by omega) [] rest]
      simp only [objectOf, List.reverse_nil, List.nil_append, membersOf_of_nodup distinct]

/-- The value of the text of a value. -/
theorem read_print {limits : Limits} (positive : 0 < limits.digits) {value : Json}
    (h : Fits limits.digits limits.depth value) : read limits value.printValue = .ok value := by
  have reads := readValue_print positive h (2 * value.printValue.length + 2) [] (by omega)
    follows_nil
  rw [List.append_nil] at reads
  unfold read
  rw [(begins_print h).skipBlanks, reads]
  rfl

/-! ## Documents -/

/-- A text without control characters. -/
def Visible (cs : List Char) : Prop :=
  ∀ c ∈ cs, 32 ≤ c.toNat

instance (cs : List Char) : Decidable (Visible cs) :=
  List.decidableBAll _ cs

theorem visible_nil : Visible [] := by simp [Visible]

@[simp] theorem visible_cons {c : Char} {cs : List Char} :
    Visible (c :: cs) ↔ 32 ≤ c.toNat ∧ Visible cs :=
  List.forall_mem_cons

@[simp] theorem visible_append {cs ds : List Char} :
    Visible (cs ++ ds) ↔ Visible cs ∧ Visible ds :=
  List.forall_mem_append

theorem visible_control : ∀ n < 32, Visible (Text.hexPadded 4 n) := by
  decide

theorem visible_printChar (c : Char) : Visible (printChar c) := by
  rcases printChar_cases c with ⟨letter, printed, -, visible⟩ | ⟨printed, control⟩ |
    ⟨printed, -, -, visible⟩ <;> rw [printed]
  · simpa [visible_nil] using visible
  · simpa using visible_control _ control
  · simpa [visible_nil] using visible

theorem visible_printText (s : String) : Visible (printText s) := by
  have body : Visible (s.toList.flatMap printChar) := by
    intro c mem
    obtain ⟨d, -, mem⟩ := List.mem_flatMap.mp mem
    exact visible_printChar d c mem
  simpa [printText, visible_nil] using body

theorem visible_digits {cs : List Char} (digits : ∀ c ∈ cs, c.isDigit = true) : Visible cs := by
  intro c mem
  have := toNat_of_isDigit (digits c mem)
  omega

theorem visible_intText (n : Int) : Visible (Number.intText n) := by
  have digits (n : Nat) : Visible (Number.natDigits n) :=
    visible_digits fun _ => Number.isDigit_of_mem_natDigits
  cases n with
  | ofNat n => exact digits n
  | negSucc n => exact visible_cons.mpr ⟨by decide, digits (n + 1)⟩

theorem visible_printItems {items : List Json}
    (h : ∀ item ∈ items, Visible item.printValue) : Visible (printItems items) := by
  induction items with
  | nil => simp [printItems, visible_nil]
  | cons item tail ih =>
    obtain ⟨first, others⟩ := List.forall_mem_cons.mp h
    cases tail with
    | nil => simpa [printItems, visible_nil] using first
    | cons next tail => simpa [printItems] using ⟨first, ih others⟩

theorem visible_printMembers {members : List (String × Json)}
    (h : ∀ member ∈ members, Visible member.2.printValue) : Visible (printMembers members) := by
  induction members with
  | nil => simp [printMembers, visible_nil]
  | cons member tail ih =>
    obtain ⟨first, others⟩ := List.forall_mem_cons.mp h
    have key := visible_printText member.1
    cases tail with
    | nil => simpa [printMembers, visible_nil] using ⟨key, first⟩
    | cons next tail => simpa [printMembers] using ⟨key, first, ih others⟩

theorem visible_print {digits depth : Nat} {value : Json} (h : Fits digits depth value) :
    Visible value.printValue := by
  induction h with
  | null => decide
  | bool b => cases b <;> decide
  | int _ => exact visible_intText _
  | text s => exact visible_printText s
  | list _ ih => exact visible_cons.mpr ⟨by decide, visible_printItems ih⟩
  | object _ _ ih => exact visible_cons.mpr ⟨by decide, visible_printMembers ih⟩

theorem ofZeros_of_nonzero {bytes : List UInt8} (nonzero : ∀ b ∈ bytes, b ≠ 0) :
    Encoding.ofZeros bytes = .utf8 := by
  unfold Encoding.ofZeros
  split
  case h_1 =>
    rw [if_neg (by simpa using nonzero _ (by simp)), if_neg (by simpa using nonzero _ (by simp))]
  case h_2 =>
    rw [if_neg (by simpa using nonzero _ (by simp)), if_neg (by simpa using nonzero _ (by simp))]
  case h_3 => rfl

/-- Every mark begins with a byte that no visible character begins with. -/
theorem marks_begin : ∀ mark ∈ Encoding.marks, ∃ b rest, mark.1 = b :: rest ∧
    (b = 0 ∨ 128 ≤ b.toNat) := by
  simp [Encoding.marks]

theorem detect_of_nonzero {bytes : List UInt8} (first : ∀ b ∈ bytes.head?, b.toNat < 128)
    (nonzero : ∀ b ∈ bytes, b ≠ 0) : Encoding.detect bytes = .utf8 := by
  have unmarked : Encoding.marks.find? (·.1.isPrefixOf bytes) = none := by
    refine List.find?_eq_none.mpr fun mark mem marked => ?_
    obtain ⟨b, rest, begin, early⟩ := marks_begin mark mem
    obtain ⟨after, rfl⟩ := List.isPrefixOf_iff_prefix.mp marked
    rw [begin] at first nonzero
    rcases early with zero | late
    · exact nonzero b (by simp) zero
    · exact Nat.not_lt.mpr late (first b rfl)
  rw [Encoding.detect, unmarked]
  exact ofZeros_of_nonzero nonzero

theorem detect_encode {cs : List Char} (begins : Begins cs) (visible : Visible cs) :
    Encoding.detect (Text.utf8Encode cs) = .utf8 := by
  refine detect_of_nonzero ?_ ?_
  · obtain ⟨c, rest, rfl, -, -, -, ascii⟩ := begins
    rw [Text.utf8Encode, List.flatMap_cons, Text.encode_ascii ascii]
    rintro _ ⟨⟩
    rwa [Text.toNat_ofNat_lt (by omega)]
  · intro b mem
    obtain ⟨c, mem, byte⟩ := List.mem_flatMap.mp mem
    exact Text.ne_zero_of_mem_encode (Nat.lt_of_lt_of_le (by decide) (visible c mem)) b byte

/-- The value of the document of a value. -/
theorem readDocument_print {value : Json}
    (h : Fits Limits.document.digits Limits.document.depth value) :
    readDocument (Text.utf8Encode value.printValue) = .ok value := by
  unfold readDocument
  rw [detect_encode (begins_print h) (visible_print h)]
  simp only [Encoding.decode, Text.utf8DecodePassing_encode, read_print (by decide) h]

/-! ## Numbers that are not read -/

section TooManyDigits

variable {c : Char} {rest : List Char}

/-- A whole number with more digits than the limit stops the reader. -/
theorem read_digits {limits : Limits} (digits : ∀ d ∈ c :: rest, d.isDigit = true)
    (nonzero : c ≠ '0') (many : limits.digits < (c :: rest).length) :
    read limits (c :: rest) = .error (.tooManyDigits (c :: rest).length) := by
  have digit : c.isDigit = true := digits c List.mem_cons_self
  have whole : splitWhole (c :: rest) = (c :: rest, []) := by
    rw [splitWhole, if_neg (by simpa using nonzero), List.takeWhile_eq_self_iff.mpr digits,
      List.dropWhile_eq_nil_iff.mpr digits]
  have number : readNumber limits false (c :: rest) (c :: rest) =
      .error (.tooManyDigits (c :: rest).length) := by
    unfold readNumber
    rw [whole]
    exact if_pos many
  unfold read
  rw [(begins_digit digit rest).skipBlanks, readValue_scalar (ne_of_isDigit digit (by decide))
    (ne_of_isDigit digit (by decide)) (ne_of_isDigit digit (by decide)), readLiteral?_digit digit]
  simp only
  rw [if_neg (by simpa using ne_of_isDigit digit (by decide)), if_pos digit, number]

theorem readDocument_digits (digits : ∀ d ∈ c :: rest, d.isDigit = true) (nonzero : c ≠ '0')
    (many : Number.digitLimit < (c :: rest).length) :
    readDocument (Text.utf8Encode (c :: rest)) =
      .error (.unreadable (c :: rest) (.tooManyDigits (c :: rest).length)) := by
  unfold readDocument
  rw [detect_encode (begins_digit (digits c List.mem_cons_self) rest) (visible_digits digits)]
  simp only [Encoding.decode, Text.utf8DecodePassing_encode]
  rw [read_digits digits nonzero many]

end TooManyDigits

end ServiceRegistry.Json
