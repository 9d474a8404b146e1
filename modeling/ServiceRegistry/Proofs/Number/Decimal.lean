import Mathlib.Algebra.Group.Nat.Defs
import Mathlib.Data.List.Basic
import Mathlib.Data.List.TakeWhile
import ServiceRegistry.Number.Decimal

/-!
# The digits of whole numbers

Results:

* `digitsValue_natDigits`: the digits of a number write it.
* `natDigits_cons`: the first digit is zero only for zero.
* `length_natDigits_le`: how many digits a number has.
* `readInteger_intText`: the number that its text gives.
* `ascii_or_white_of_readInteger`: what stands in a text that gives a number.
-/

namespace ServiceRegistry.Number

theorem natDigits_of_lt {n : Nat} (h : n < 10) : natDigits n = [digitChar n] := by
  rw [natDigits, if_pos h]

theorem natDigits_of_le {n : Nat} (h : 10 ≤ n) :
    natDigits n = natDigits (n / 10) ++ [digitChar (n % 10)] := by
  rw [natDigits, if_neg (by omega)]

/-! ## Single digits -/

theorem digitValue_digitChar : ∀ n < 10, digitValue (digitChar n) = n := by decide

theorem isDigit_digitChar : ∀ n < 10, (digitChar n).isDigit = true := by decide

theorem ne_of_isDigit {c d : Char} (h : c.isDigit = true) (h' : d.isDigit = false) : c ≠ d := by
  rintro rfl
  rw [h] at h'
  cases h'

theorem toNat_of_isDigit {c : Char} (h : c.isDigit = true) : 48 ≤ c.toNat ∧ c.toNat ≤ 57 := by
  simpa [Char.isDigit, UInt32.le_iff_toNat_le] using h

theorem digitChar_ne_zero : ∀ n < 10, n ≠ 0 → digitChar n ≠ '0' := by decide

/-! ## All digits -/

/-- Induction over a number by the removal of its last digit. -/
theorem lastDigit_induction {motive : Nat → Prop} (single : ∀ n < 10, motive n)
    (more : ∀ n, 10 ≤ n → motive (n / 10) → motive n) (n : Nat) : motive n := by
  induction n using Nat.strongRecOn with
  | ind n ih =>
    rcases Nat.lt_or_ge n 10 with small | large
    · exact single n small
    · exact more n large (ih (n / 10) (by omega))

theorem digitsValue_append (digits : List Char) (c : Char) :
    digitsValue (digits ++ [c]) = digitsValue digits * 10 + digitValue c := by
  simp [digitsValue]

/-- The digits of a number write it. -/
theorem digitsValue_natDigits (n : Nat) : digitsValue (natDigits n) = n := by
  induction n using lastDigit_induction with
  | single n small =>
    rw [natDigits_of_lt small]
    show 0 * 10 + digitValue (digitChar n) = n
    rw [digitValue_digitChar n small]
    omega
  | more n large ih =>
    rw [natDigits_of_le large, digitsValue_append, ih, digitValue_digitChar _ (by omega)]
    omega

theorem isDigit_of_mem_natDigits {n : Nat} {c : Char} (h : c ∈ natDigits n) :
    c.isDigit = true := by
  induction n using lastDigit_induction with
  | single n small =>
    rw [natDigits_of_lt small] at h
    rw [List.mem_singleton.mp h]
    exact isDigit_digitChar n small
  | more n large ih =>
    rw [natDigits_of_le large] at h
    rcases List.mem_append.mp h with h | h
    · exact ih h
    · rw [List.mem_singleton.mp h]
      exact isDigit_digitChar _ (by omega)

/-- A number has a first digit, and only that of zero is a zero. -/
theorem natDigits_cons (n : Nat) : ∃ c rest, natDigits n = c :: rest ∧
    (c = '0' → n = 0 ∧ rest = []) := by
  induction n using lastDigit_induction with
  | single n small =>
    refine ⟨digitChar n, [], natDigits_of_lt small, fun zero => ⟨?_, rfl⟩⟩
    by_contra nonzero
    exact digitChar_ne_zero n small nonzero zero
  | more n large ih =>
    obtain ⟨c, rest, digits, zero⟩ := ih
    refine ⟨c, rest ++ [digitChar (n % 10)], ?_, fun isZero => ?_⟩
    · rw [natDigits_of_le large, digits, List.cons_append]
    · have := (zero isZero).1
      omega

/-- A number below a power of ten has at most as many digits as its exponent. -/
theorem length_natDigits_le {n count : Nat} (positive : 0 < count) (h : n < 10 ^ count) :
    (natDigits n).length ≤ count := by
  induction n using lastDigit_induction generalizing count with
  | single n small =>
    rw [natDigits_of_lt small]
    exact positive
  | more n large ih =>
    obtain ⟨count, rfl⟩ := Nat.exists_eq_add_of_lt positive
    rw [Nat.zero_add] at h ⊢
    have two : 0 < count := by
      by_contra none
      obtain rfl : count = 0 := by omega
      omega
    rw [natDigits_of_le large, List.length_append, List.length_singleton]
    refine Nat.add_le_add_right (ih two ?_) 1
    exact Nat.div_lt_of_lt_mul (by rwa [Nat.mul_comm, ← Nat.pow_succ])

/-! ## Reading back -/

/-- A digit or a minus sign: a character that no step of the reader drops. -/
def IsKept (c : Char) : Prop :=
  c.isDigit = true ∨ c = '-'

theorem IsKept.ne {c d : Char} (h : IsKept c) (other : ¬ IsKept d) : c ≠ d := by
  rintro rfl
  exact other h

instance (c : Char) : Decidable (IsKept c) :=
  inferInstanceAs (Decidable (_ ∨ _))

theorem IsKept.toNat {c : Char} (h : IsKept c) : 45 ≤ c.toNat ∧ c.toNat ≤ 57 := by
  rcases h with digit | rfl
  · have := toNat_of_isDigit digit
    omega
  · decide

theorem IsKept.isWhite {c : Char} (h : IsKept c) : Text.isWhite c = false := by
  have code := h.toNat
  simp [Text.isWhite, Text.isBlank, Text.inSpans, Text.blankSpans]
  omega

theorem isKept_of_mem_intText {n : Int} {c : Char} (mem : c ∈ intText n) : IsKept c := by
  cases n with
  | ofNat n => exact .inl (isDigit_of_mem_natDigits mem)
  | negSucc n =>
    rcases List.mem_cons.mp mem with minus | mem
    · exact .inr minus
    · exact .inl (isDigit_of_mem_natDigits mem)

section Kept

variable {cs : List Char}

theorem trimWhite_of_kept (kept : ∀ c ∈ cs, IsKept c) : trimWhite cs = cs := by
  have front (cs : List Char) (kept : ∀ c ∈ cs, IsKept c) :
      cs.dropWhile Text.isWhite = cs := by
    cases cs with
    | nil => rfl
    | cons c rest =>
      refine List.dropWhile_cons_of_neg ?_
      rw [(kept c List.mem_cons_self).isWhite]
      decide
  unfold trimWhite
  rw [front cs kept, front cs.reverse fun c mem => kept c (List.mem_reverse.mp mem),
    List.reverse_reverse]

theorem dropPlus_of_kept (kept : ∀ c ∈ cs, IsKept c) : dropPlus cs = cs := by
  unfold dropPlus
  split
  next => exact absurd rfl ((kept '+' List.mem_cons_self).ne (by decide))
  next => exact absurd rfl ((kept '+' List.mem_cons_self).ne (by decide))
  next => rfl

theorem dropFraction_of_kept (kept : ∀ c ∈ cs, IsKept c) : dropFraction cs = some cs := by
  have whole : cs.dropWhile (· != '.') = [] :=
    List.dropWhile_eq_nil_iff.mpr fun c mem => bne_iff_ne.mpr ((kept c mem).ne (by decide))
  unfold dropFraction
  rw [whole]

theorem dropLowLines_of_kept (kept : ∀ c ∈ cs, IsKept c) : dropLowLines cs = some cs := by
  induction cs with
  | nil => rfl
  | cons c rest ih =>
    obtain ⟨first, others⟩ := List.forall_mem_cons.mp kept
    have line {d : Char} (h : IsKept d) : d ≠ '_' := h.ne (by decide)
    have tail := ih others
    cases rest with
    | nil => simp [dropLowLines, line first]
    | cons d rest => simp [dropLowLines, line first, line (others d List.mem_cons_self), tail]

end Kept

theorem stripZeros_intText (n : Int) : stripZeros (intText n) = some (intText n) := by
  cases n with
  | negSucc n => rfl
  | ofNat n =>
    obtain ⟨c, rest, digits, zero⟩ := natDigits_cons n
    have digit : c.isDigit = true := isDigit_of_mem_natDigits (digits ▸ List.mem_cons_self)
    rw [intText, digits, stripZeros]
    by_cases isZero : c = '0'
    · obtain ⟨-, rfl⟩ := zero isZero
      rw [isZero]
      rfl
    · rw [if_neg (by simpa using isZero), if_pos (by rw [digit]; rfl)]

theorem plainNat_natDigits {n : Nat} (short : (natDigits n).length ≤ digitLimit) :
    plainNat (natDigits n) = .ok n := by
  obtain ⟨c, rest, digits, zero⟩ := natDigits_cons n
  have plain : ((natDigits n).isEmpty || (natDigits n).any (!·.isDigit)) = false := by
    have all : (natDigits n).any (!·.isDigit) = false := by
      refine List.any_eq_false.mpr fun c mem => ?_
      rw [isDigit_of_mem_natDigits mem]
      decide
    rw [all, digits]
    rfl
  have leading : ((natDigits n).head? == some '0' && (natDigits n).length != 1) = false := by
    rw [digits]
    by_cases isZero : c = '0'
    · obtain ⟨-, rfl⟩ := zero isZero
      simp
    · simp [isZero]
  unfold plainNat
  rw [plain, leading, if_neg (by decide), if_neg (by decide), if_neg (Nat.not_lt.mpr short),
    digitsValue_natDigits]

theorem plainInt_intText {n : Int} (small : n.natAbs < 10 ^ digitLimit) :
    plainInt (intText n) = .ok n := by
  have short {m : Nat} (le : m < 10 ^ digitLimit) : plainNat (natDigits m) = .ok m :=
    plainNat_natDigits (length_natDigits_le (by decide) le)
  cases n with
  | negSucc n =>
    rw [intText, plainInt, short (m := n + 1) small]
    rfl
  | ofNat n =>
    obtain ⟨c, rest, digits, -⟩ := natDigits_cons n
    have digit : c.isDigit = true := isDigit_of_mem_natDigits (digits ▸ List.mem_cons_self)
    have read := short (m := n) small
    rw [digits] at read
    rw [intText, digits, plainInt]
    · rw [read]
      rfl
    · rintro _ minus
      rw [(List.cons.inj minus).1] at digit
      cases digit

/-- The text of a number that may be read gives it back. -/
theorem readInteger_intText {n : Int} (small : n.natAbs < 10 ^ digitLimit) :
    readInteger (intText n) = .ok n := by
  have kept : ∀ c ∈ intText n, IsKept c := fun _ => isKept_of_mem_intText
  unfold readInteger
  rw [trimWhite_of_kept kept, dropPlus_of_kept kept, stripZeros_intText, Option.bind_some,
    dropFraction_of_kept kept, Option.bind_some, dropLowLines_of_kept kept]
  exact plainInt_intText small

/-! ## Texts that give a number -/

/-- All characters of a text are of ASCII. -/
def AllAscii (cs : List Char) : Prop :=
  ∀ c ∈ cs, c.toNat < 128

section Ascii

variable {cs out : List Char}

theorem AllAscii.cons {c : Char} (first : c.toNat < 128) (rest : AllAscii cs) :
    AllAscii (c :: cs) :=
  List.forall_mem_cons.mpr ⟨first, rest⟩

theorem AllAscii.tail {c : Char} (ascii : AllAscii (c :: cs)) : AllAscii cs :=
  (List.forall_mem_cons.mp ascii).2

theorem mem_dropWhile {drops : Char → Bool} {c : Char} (mem : c ∈ cs) (kept : drops c = false) :
    c ∈ cs.dropWhile drops := by
  induction cs with
  | nil => cases mem
  | cons d rest ih =>
    rw [List.dropWhile_cons]
    split_ifs with dropped
    · rcases List.mem_cons.mp mem with rfl | mem
      · rw [kept] at dropped
        cases dropped
      · exact ih mem
    · exact mem

theorem toNat_lt_of_isDigit {c : Char} (h : c.isDigit = true) : c.toNat < 128 := by
  have := (toNat_of_isDigit h).2
  omega

theorem allAscii_of_dropLowLines (h : dropLowLines cs = some out) (ascii : AllAscii out) :
    AllAscii cs := by
  fun_induction dropLowLines cs generalizing out with
  | case1 => exact fun c mem => (List.not_mem_nil mem).elim
  | case3 c => rwa [Option.some.inj h]
  | case7 c rest _ _ _ ih =>
    obtain ⟨inner, read, rfl⟩ := Option.map_eq_some_iff.mp h
    exact .cons (ascii c List.mem_cons_self) (.cons (by decide) (ih read ascii.tail))
  | case8 c rest =>
    rename_i ih
    obtain ⟨inner, read, rfl⟩ := Option.map_eq_some_iff.mp h
    exact .cons (ascii c List.mem_cons_self) (ih read ascii.tail)
  | _ => cases h

theorem allAscii_of_dropFraction (h : dropFraction cs = some out) (ascii : AllAscii out) :
    AllAscii cs := by
  unfold dropFraction at h
  split at h
  next => rwa [Option.some.inj h]
  next point fraction split =>
    split_ifs at h with zeros
    obtain rfl := Option.some.inj h
    have point : point = '.' := by
      have stops := List.head?_dropWhile_not (· != '.') cs
      rw [split] at stops
      simpa using stops
    have zero : AllAscii fraction := by
      simp only [Bool.or_eq_true, not_or, List.any_eq_true, not_exists, not_and] at zeros
      intro c mem
      have := zeros.2 c mem
      rw [bne_iff_ne, not_not] at this
      rw [this]
      decide
    intro c mem
    rw [← List.takeWhile_append_dropWhile (p := (· != '.')) (l := cs), split, point] at mem
    rcases List.mem_append.mp mem with before | after
    · exact ascii c before
    · exact AllAscii.cons (by decide) zero c after

theorem allAscii_of_dropZeros {last : Char} (h : dropZeros last cs = some out)
    (ascii : AllAscii out) : AllAscii cs := by
  fun_induction dropZeros last cs with
  | case1 => exact fun c mem => (List.not_mem_nil mem).elim
  | case2 last c rest zero ih =>
    refine .cons ?_ (ih h)
    rcases Bool.or_eq_true _ _ ▸ zero with zero | line
    · rw [beq_iff_eq.mp zero]; decide
    · rw [beq_iff_eq.mp line]; decide
  | case3 => rwa [Option.some.inj h]
  | case4 last c rest =>
    rw [← Option.some.inj h] at ascii
    exact ascii.tail
  | case5 => cases h

theorem allAscii_of_stripZeros (h : stripZeros cs = some out) (ascii : AllAscii out) :
    AllAscii cs := by
  cases cs with
  | nil => cases h
  | cons c rest =>
    rw [stripZeros] at h
    split_ifs at h with zero
    · refine .cons ?_ (allAscii_of_dropZeros h ascii)
      rw [beq_iff_eq.mp zero]
      decide
    · rwa [Option.some.inj h]

theorem allAscii_of_dropPlus (ascii : AllAscii (dropPlus cs)) : AllAscii cs := by
  unfold dropPlus at ascii
  split at ascii
  next => exact ascii
  next => exact .cons (by decide) ascii
  next => exact ascii

theorem allAscii_of_plainNat {n : Nat} (h : plainNat cs = .ok n) : AllAscii cs := by
  unfold plainNat at h
  split_ifs at h with plain
  simp only [Bool.or_eq_true, not_or, List.any_eq_true, not_exists, not_and] at plain
  intro c mem
  have digit := plain.2 c mem
  exact toNat_lt_of_isDigit (by simpa using digit)

theorem allAscii_of_plainInt {n : Int} (h : plainInt cs = .ok n) : AllAscii cs := by
  unfold plainInt at h
  split at h
  next digits =>
    cases read : plainNat digits with
    | error fault =>
      rw [read] at h
      cases h
    | ok m => exact .cons (by decide) (allAscii_of_plainNat read)
  next =>
    cases read : plainNat cs with
    | error fault =>
      rw [read] at h
      cases h
    | ok m => exact allAscii_of_plainNat read

/-- A character of a text that gives a number is of ASCII, or it is a blank at an end. -/
theorem ascii_or_white_of_readInteger {n : Int} (h : readInteger cs = .ok n) :
    ∀ c ∈ cs, c.toNat < 128 ∨ Text.isWhite c = true := by
  unfold readInteger at h
  split at h
  next plain read =>
    obtain ⟨unpointed, read, lines⟩ := Option.bind_eq_some_iff.mp read
    obtain ⟨stripped, strips, fraction⟩ := Option.bind_eq_some_iff.mp read
    have trimmed : AllAscii (trimWhite cs) :=
      allAscii_of_dropPlus (allAscii_of_stripZeros strips (allAscii_of_dropFraction fraction
        (allAscii_of_dropLowLines lines (allAscii_of_plainInt h))))
    intro c mem
    by_contra other
    obtain ⟨wide, black⟩ := not_or.mp other
    have black : Text.isWhite c = false := Bool.eq_false_iff.mpr black
    refine wide (trimmed c (List.mem_reverse.mpr (mem_dropWhile ?_ black)))
    exact List.mem_reverse.mpr (mem_dropWhile mem black)
  next => cases h

end Ascii

end ServiceRegistry.Number
