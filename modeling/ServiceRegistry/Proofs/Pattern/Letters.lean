import Mathlib.Tactic.SplitIfs
import ServiceRegistry.Pattern.Charset

/-!
# Letters of a pattern without regard to case

Where letter case is disregarded, an ASCII letter of a pattern stands for both of its cases. Outside
ASCII, two letters have the lower case i or k, and two more are other forms of i and s. No other
character is taken for an ASCII one.

Results:

* `mem_lowerSources`: a code point is one of those that its lower case comes from.
* `spellings`, `codeHolds_ascii_iff`: the characters that are taken for an ASCII one.
-/

namespace ServiceRegistry

namespace Text

/-- No run moves a code point below zero. -/
theorem shift_nonneg : ∀ run ∈ lowerRuns, 0 ≤ (run.first : Int) + run.shift := by
  decide +kernel

theorem CaseRun.first_le {run : CaseRun} {n : Nat} (covered : run.covers n = true) :
    run.first ≤ n := by
  simp only [CaseRun.covers, Bool.and_eq_true, decide_eq_true_eq] at covered
  exact covered.1.1

/-- A code point that a run moves is one of those that its new place comes from. -/
theorem mem_lowerSources_of_covers {run : CaseRun} (mem : run ∈ lowerRuns) {n : Nat}
    (covered : run.covers n = true) : n ∈ lowerSources ((n : Int) + run.shift).toNat := by
  have above := CaseRun.first_le covered
  have nonneg := shift_nonneg run mem
  have back : (((n : Int) + run.shift).toNat : Int) - run.shift = n := by omega
  refine List.mem_append_right _ (List.mem_filterMap.mpr ⟨run, mem, ?_⟩)
  simp only [back, Int.toNat_natCast, covered]
  simp

theorem mem_lowerSources_of_fixed {n : Nat} (fixed : lower n = n) : n ∈ lowerSources n := by
  simp [lowerSources, fixed]

/-- A code point is one of those that its lower case comes from. -/
theorem mem_lowerSources (n : Nat) : n ∈ lowerSources (lower n) := by
  by_cases fixed : lower n = n
  · rw [fixed]
    exact mem_lowerSources_of_fixed fixed
  · unfold lower asciiLower at fixed ⊢
    split_ifs at fixed ⊢ with ascii capital
    · have covered : (⟨0x41, 0x5A, 1, 32⟩ : CaseRun).covers n = true := by
        simpa [CaseRun.covers, Nat.mod_one] using capital
      have moved := mem_lowerSources_of_covers (by decide +kernel) covered
      rwa [show ((n : Int) + 32).toNat = n + 32 by omega] at moved
    · exact absurd rfl fixed
    · unfold shiftBy at fixed ⊢
      split at fixed
      next run found =>
        have covered : run.covers n = true := by
          have holds := List.find?_some found
          exact holds
        exact mem_lowerSources_of_covers (List.mem_of_find?_eq_some found) covered
      next => exact absurd rfl fixed

end Text

namespace Pattern

open Text (lowerSources mem_lowerSources)

/-- The characters that are taken for an ASCII one where case is disregarded: both cases of a
letter, and the letters outside ASCII that belong to i, k and s. -/
def spellings (c : Char) : List Char :=
  match c.toLower with
  | 'i' => ['i', 'I', '\u0130', '\u0131']
  | 'k' => ['k', 'K', '\u212A']
  | 's' => ['s', 'S', '\u017F']
  | low => [low, c.toUpper]

/-- What was evaluated for one number after the other holds of every ASCII code. -/
theorem holds_of_ascii {holds : Nat → Bool} (all : (List.range 128).all holds = true) {n : Nat}
    (ascii : n < 128) : holds n = true :=
  List.all_eq_true.mp all n (List.mem_range.mpr ascii)

/-- All spellings of an ASCII character are taken for it. -/
theorem codeHolds_of_mem_spellings {n : Nat} (ascii : n < 128) {c : Char}
    (mem : c ∈ spellings (Char.ofNat n)) : codeHolds .start c n = true := by
  have all : (List.range 128).all
      (fun n => (spellings (Char.ofNat n)).all (codeHolds .start · n)) = true := by
    decide +kernel
  exact List.all_eq_true.mp (holds_of_ascii all ascii) c mem

/-- The code points whose lower case is that of an ASCII letter, or another form of it, are its
spellings. -/
theorem mem_spellings_of_sources {n m : Nat} (ascii : n < 128) (cased : Text.isCased n = true)
    (mem : m ∈ (Text.lower n :: Text.variantsOf (Text.lower n)).flatMap lowerSources) :
    Char.ofNat m ∈ spellings (Char.ofNat n) := by
  have all : (List.range 128).all (fun n => !Text.isCased n ||
      ((Text.lower n :: Text.variantsOf (Text.lower n)).flatMap lowerSources).all fun m =>
        (spellings (Char.ofNat n)).contains (Char.ofNat m)) = true := by
    decide +kernel
  have letter := holds_of_ascii all ascii
  rw [cased, Bool.not_true, Bool.false_or] at letter
  exact List.contains_iff_mem.mp (List.all_eq_true.mp letter m mem)

theorem mem_spellings_self {n : Nat} (ascii : n < 128) : Char.ofNat n ∈ spellings (Char.ofNat n) :=
  have all : (List.range 128).all
      (fun n => (spellings (Char.ofNat n)).contains (Char.ofNat n)) = true := by
    decide +kernel
  List.contains_iff_mem.mp (holds_of_ascii all ascii)

/-- A character is taken for an ASCII one exactly if it is one of its spellings. -/
theorem codeHolds_ascii_iff {a : Char} (ascii : a.toNat < 128) (c : Char) :
    codeHolds .start c a.toNat = true ↔ c ∈ spellings a := by
  have same : Char.ofNat a.toNat = a := Char.ofNat_toNat a
  constructor
  · intro holds
    rw [← same, ← Char.ofNat_toNat c]
    have split : codeHolds .start c a.toNat =
        if Text.isCased a.toNat then
          Text.lower c.toNat == Text.lower a.toNat ||
            (Text.variantsOf (Text.lower a.toNat)).contains (Text.lower c.toNat)
        else c.toNat == a.toNat := rfl
    rw [split] at holds
    split_ifs at holds with cased
    · refine mem_spellings_of_sources ascii cased (List.mem_flatMap.mpr ⟨_, ?_,
        mem_lowerSources c.toNat⟩)
      simpa using holds
    · rw [beq_iff_eq.mp holds]
      exact mem_spellings_self ascii
  · intro mem
    exact codeHolds_of_mem_spellings ascii (same.symm ▸ mem)

end Pattern

end ServiceRegistry
