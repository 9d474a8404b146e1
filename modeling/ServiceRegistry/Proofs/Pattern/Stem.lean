import Mathlib.Data.List.Forall2
import Mathlib.Data.List.TakeWhile
import ServiceRegistry.Proofs.Pattern.Letters
import ServiceRegistry.Registry.Basic

/-!
# Patterns of the addresses that begin with a stem

A stem is a text of ASCII letters, digits and `:/.-_`. Its pattern is the stem with its dots escaped
and then `.*`. The pattern is read as one literal for each character and a repetition of anything
but a line feed, so it takes the texts that begin with the stem in any letter case and have no line
feed after it.

Results:

* `readPattern_stem`: the tree of the pattern of a stem.
* `run_stem`, `run_anything`: what its parts take.
* `matchesWhole_stem`: the texts that it takes.
* `admits_stem_iff`: the addresses that an entry with such a pattern admits.
-/

namespace ServiceRegistry

namespace Pattern

/-! ## The pattern of a stem -/

/-- An ASCII letter or digit, or one of the characters `:/.-_`. -/
def isStemChar (c : Char) : Bool :=
  c.isAlphanum || c == ':' || c == '/' || c == '.' || c == '-' || c == '_'

/-- A dot is written with a backslash before it, any other character as itself. -/
def escapeDot (c : Char) : List Char :=
  if c == '.' then ['\\', '.'] else [c]

/-- The pattern of the texts that begin with a stem. -/
def stemPattern (stem : List Char) : List Char :=
  stem.flatMap escapeDot ++ ['.', '*']

theorem toNat_lt_of_le {c last : Char} (below : c.val ≤ last.val) (ascii : last.toNat < 128) :
    c.toNat < 128 :=
  Nat.lt_of_le_of_lt (UInt32.le_iff_toNat_le.mp below) ascii

theorem toNat_lt_of_isAlphanum {c : Char} (letter : c.isAlphanum = true) : c.toNat < 128 := by
  rcases Bool.or_eq_true_iff.mp letter with letter | digit
  · rcases Bool.or_eq_true_iff.mp letter with capital | small
    · exact toNat_lt_of_le (of_decide_eq_true capital).2 (by decide)
    · exact toNat_lt_of_le (of_decide_eq_true (Bool.and_eq_true_iff.mp small).2) (by decide)
  · exact toNat_lt_of_le (of_decide_eq_true (Bool.and_eq_true_iff.mp digit).2) (by decide)

theorem toNat_lt_of_isStemChar {c : Char} (plain : isStemChar c = true) : c.toNat < 128 := by
  simp only [isStemChar, Bool.or_eq_true, beq_iff_eq] at plain
  rcases plain with ((((letter | rfl) | rfl) | rfl) | rfl) | rfl
  · exact toNat_lt_of_isAlphanum letter
  all_goals decide

/-- The token of a character of a stem. -/
def stemToken (c : Char) : Token :=
  if c == '.' then .escaped '.' else .plain c

theorem tokensOf_cons {c : Char} (other : c ≠ '\\') (rest : List Char) :
    tokensOf (c :: rest) = .plain c :: tokensOf rest := by
  rw [tokensOf.eq_def]
  split
  next h => cases h
  next h => exact absurd (List.cons.inj h).1 other
  next h => exact absurd (List.cons.inj h).1 other
  next h =>
    obtain ⟨rfl, rfl⟩ := List.cons.inj h
    rfl

theorem tokensOf_escapeDot {c : Char} (plain : isStemChar c = true) (rest : List Char) :
    tokensOf (escapeDot c ++ rest) = stemToken c :: tokensOf rest := by
  unfold escapeDot stemToken
  split_ifs with dot
  · rfl
  · refine tokensOf_cons ?_ rest
    rintro rfl
    exact absurd plain (by decide)

theorem tokensOf_stemPattern {stem : List Char} (plain : ∀ c ∈ stem, isStemChar c = true) :
    tokensOf (stemPattern stem) = stem.map stemToken ++ [.plain '.', .plain '*'] := by
  unfold stemPattern
  induction stem with
  | nil => rfl
  | cons c stem ih =>
    obtain ⟨first, others⟩ := List.forall_mem_cons.mp plain
    rw [List.flatMap_cons, List.append_assoc, tokensOf_escapeDot first, ih others]
    rfl

/-! ## Reading -/

section Reading

variable {progress : Progress} {rest : List Token}

theorem run_bind_of_ok {α β : Type} {first : Read α} {next : α → Read β} {a : α}
    {before after : Progress} (done : first.run before = .ok (a, after)) :
    (first >>= next).run before = (next a).run after := by
  rw [StateT.run_bind, done]
  rfl

theorem run_get : (get : Read Progress).run progress = .ok (progress, progress) := rfl

theorem run_goOn (tokens : List Token) :
    (goOn tokens).run progress = .ok ((), { progress with rest := tokens }) := rfl

theorem run_peek {token : Token} (next : progress.rest = token :: rest)
    (sound : token ≠ .dangling) : peek.run progress = .ok (some token, progress) := by
  obtain ⟨tokens, _⟩ := progress
  subst next
  cases token with
  | dangling => exact absurd rfl sound
  | plain c => rfl
  | escaped c => rfl

/-- The characters that are more than themselves in a pattern. -/
def specialChars : List Char :=
  ['|', ')', '.', '^', '$', '[', '*', '+', '?', '\x7b', '(']

theorem notMem_specialChars {c : Char} (plain : isStemChar c = true) (other : c ≠ '.') :
    c ∉ specialChars := by
  have all : specialChars.all (fun c => !isStemChar c || c == '.') = true := by decide
  intro special
  have := List.all_eq_true.mp all c special
  simp [plain, other] at this

/-- A character that is not special is read as itself. -/
theorem readTerms_plain {c : Char} (ordinary : c ∉ specialChars) (fuel : Nat) (atFront : Bool)
    (done : List Item) (next : progress.rest = .plain c :: rest) :
    (readTerms (fuel + 1) .start atFront done).run progress =
      (readTerms fuel .start atFront (.single (.one .start (.code c.toNat)) :: done)).run
        { progress with rest } := by
  have taken : { progress with rest } = { progress with rest := progress.rest.tail } := by
    rw [next, List.tail_cons]
  rw [readTerms, run_bind_of_ok (run_peek next (by simp)), taken]
  -- First the ends of a sequence, then the tokens, then the special characters.
  split
  next h => cases h
  next h =>
    obtain rfl := Token.plain.inj (Option.some.inj h)
    exact absurd (by decide) ordinary
  next h =>
    obtain rfl := Token.plain.inj (Option.some.inj h)
    exact absurd (by decide) ordinary
  next h => cases h
  next h => cases h
  next h =>
    obtain rfl := Token.plain.inj (Option.some.inj h)
    rw [run_bind_of_ok run_get, run_bind_of_ok (run_goOn _),
      if_neg (by simp [Mode.start]), if_neg (by simp [Mode.start])]
    split
    all_goals first
      | rfl
      | exact absurd (by decide) ordinary

/-- An escaped dot is read as a dot. -/
theorem readTerms_dot (fuel : Nat) (atFront : Bool) (done : List Item)
    (next : progress.rest = .escaped '.' :: rest) :
    (readTerms (fuel + 1) .start atFront done).run progress =
      (readTerms fuel .start atFront (.single (.one .start (.code '.'.toNat)) :: done)).run
        { progress with rest } := by
  rw [readTerms, run_bind_of_ok (run_peek next (by simp))]
  show (readTerms fuel .start atFront (.single (.one .start (.code '.'.toNat)) :: done)).run
    { progress with rest := progress.rest.tail } = _
  rw [next, List.tail_cons]

/-- The tree of a character of a stem. -/
def stemNode (c : Char) : Node :=
  .one .start (.code c.toNat)

/-- The tree of anything but line feeds. -/
def anything : Node :=
  .many .greedy 0 none (.one .start .any)

theorem readTerms_stem {stem : List Char} (plain : ∀ c ∈ stem, isStemChar c = true) (fuel : Nat)
    (atFront : Bool) (done : List Item) (next : progress.rest = stem.map stemToken ++ rest) :
    (readTerms (fuel + stem.length) .start atFront done).run progress =
      (readTerms fuel .start atFront
        ((stem.map fun c => .single (stemNode c)).reverse ++ done)).run { progress with rest } := by
  induction stem generalizing progress done with
  | nil =>
    subst next
    rfl
  | cons c stem ih =>
    obtain ⟨first, others⟩ := List.forall_mem_cons.mp plain
    have step : (readTerms (fuel + stem.length + 1) .start atFront done).run progress =
        (readTerms (fuel + stem.length) .start atFront (.single (stemNode c) :: done)).run
          { progress with rest := stem.map stemToken ++ rest } := by
      rw [List.map_cons, List.cons_append] at next
      unfold stemToken at next
      split_ifs at next with dot
      · obtain rfl := beq_iff_eq.mp dot
        exact readTerms_dot _ _ _ next
      · exact readTerms_plain (notMem_specialChars first (by simpa using dot)) _ _ _ next
    rw [List.length_cons, ← Nat.add_assoc, step, ih others _ rfl]
    simp

theorem readTerms_anything (fuel : Nat) (atFront : Bool) (done : List Item)
    (next : progress.rest = [.plain '.', .plain '*']) :
    (readTerms (fuel + 3) .start atFront done).run progress =
      .ok ((Item.single anything :: done).reverse.flatMap Item.nodes,
        { progress with rest := [], repeats := true }) := by
  obtain ⟨tokens, _⟩ := progress
  subst next
  rfl

theorem readAlternatives_stem {stem : List Char} (plain : ∀ c ∈ stem, isStemChar c = true)
    (fuel : Nat) (next : progress.rest = stem.map stemToken ++ [.plain '.', .plain '*']) :
    (readAlternatives (fuel + 3 + stem.length + 1) .start true []).run progress =
      .ok (stem.map stemNode ++ [anything], { progress with rest := [], repeats := true }) := by
  have terms : (readTerms (fuel + 3 + stem.length) .start true []).run progress =
      .ok (stem.map stemNode ++ [anything], { progress with rest := [], repeats := true }) := by
    rw [readTerms_stem plain (fuel + 3) true [] next, readTerms_anything _ _ _ rfl]
    simp [Item.nodes, List.flatMap_map, ← List.map_eq_flatMap]
  rw [readAlternatives]
  exact run_bind_of_ok terms

end Reading

/-- The tree of the pattern of a stem. -/
def stemTree (stem : List Char) : Node :=
  .sequence (stem.map stemNode ++ [anything])

theorem readPattern_stem {stem : List Char} (plain : ∀ c ∈ stem, isStemChar c = true) :
    readPattern (stemPattern stem) = .ok (stemTree stem) := by
  have fuel : 4 * (stem.map stemToken ++ [Token.plain '.', .plain '*']).length + 4 =
      (3 * stem.length + 8) + 3 + stem.length + 1 := by
    simp only [List.length_append, List.length_map, List.length_cons, List.length_nil]
    omega
  have tokens : (Progress.start (stem.map stemToken ++ [.plain '.', .plain '*'])).rest =
      stem.map stemToken ++ [.plain '.', .plain '*'] := rfl
  unfold readPattern
  simp only [tokensOf_stemPattern plain, fuel, readAlternatives_stem plain _ tokens]
  rfl

/-! ## Matching -/

/-- A character is taken for one of a pattern where letter case is disregarded. -/
def TakenFor (a c : Char) : Prop :=
  codeHolds .start c a.toNat = true

instance (a c : Char) : Decidable (TakenFor a c) :=
  inferInstanceAs (Decidable (_ = true))

theorem takenFor_iff {a : Char} (plain : isStemChar a = true) (c : Char) :
    TakenFor a c ↔ c ∈ spellings a :=
  codeHolds_ascii_iff (toNat_lt_of_isStemChar plain) c

section Matching

theorem getElem?_append_cons (before after : List Char) (c : Char) :
    (before ++ c :: after).toArray[before.length]? = some c := by
  simp

/-- A character of a stem takes one character that is taken for it. -/
theorem run_stemNode (a c : Char) (before after : List Char) (tail : Node) (next : Next)
    (marks : Marks) :
    run (before ++ c :: after).toArray (.seq (stemNode a) tail) next ⟨before.length, marks⟩ =
      if TakenFor a c then
        run (before ++ c :: after).toArray tail next ⟨(before ++ [c]).length, marks⟩
      else none := by
  have moved : State.goto ⟨before.length, marks⟩ (before.length + 1) =
      ⟨(before ++ [c]).length, marks⟩ := by simp [State.goto]
  rw [run, stemNode, run]
  simp only [getElem?_append_cons, CharTest.holds, moved]
  rfl

theorem run_stemNode_end (a : Char) (before : List Char) (tail : Node) (next : Next)
    (marks : Marks) :
    run before.toArray (.seq (stemNode a) tail) next ⟨before.length, marks⟩ = none := by
  rw [run, stemNode, run]
  simp only [List.getElem?_toArray, List.getElem?_length]

theorem exists_taken_cons {stem after : List Char} {a c : Char} {goesOn : List Char → Prop} :
    (∃ first rest, c :: after = first ++ rest ∧ List.Forall₂ TakenFor (a :: stem) first ∧
        goesOn first) ↔
      TakenFor a c ∧ ∃ first rest, after = first ++ rest ∧ List.Forall₂ TakenFor stem first ∧
        goesOn (c :: first) := by
  constructor
  · rintro ⟨_, rest, whole, taken, ends⟩
    cases taken with
    | cons own taken =>
      obtain ⟨rfl, rfl⟩ := List.cons.inj whole
      exact ⟨own, _, rest, rfl, taken, ends⟩
  · rintro ⟨own, first, rest, rfl, taken, ends⟩
    exact ⟨c :: first, rest, rfl, .cons own taken, ends⟩

/-- The characters of a stem take as many characters that are taken for them. -/
theorem run_stem (stem before after : List Char) (last : Node) (next : Next) (marks : Marks) :
    (run (before ++ after).toArray (.sequence (stem.map stemNode ++ [last])) next
      ⟨before.length, marks⟩).isSome = true ↔
    ∃ first rest, after = first ++ rest ∧ List.Forall₂ TakenFor stem first ∧
      (run (before ++ after).toArray last next
        ⟨(before ++ first).length, marks⟩).isSome = true := by
  induction stem generalizing before after with
  | nil =>
    have alone : Node.sequence (([] : List Char).map stemNode ++ [last]) = last := rfl
    rw [alone]
    constructor
    · intro ends
      exact ⟨[], after, rfl, .nil, by rwa [List.append_nil]⟩
    · rintro ⟨first, rest, -, taken, ends⟩
      cases taken
      rwa [List.append_nil] at ends
  | cons a stem ih =>
    have split : Node.sequence ((a :: stem).map stemNode ++ [last]) =
        .seq (stemNode a) (.sequence (stem.map stemNode ++ [last])) := by
      cases stem <;> rfl
    rw [split]
    cases after with
    | nil =>
      rw [List.append_nil, run_stemNode_end]
      constructor
      · rintro ⟨⟩
      · rintro ⟨first, rest, none, taken, -⟩
        cases taken
        cases none
    | cons c after =>
      rw [run_stemNode, exists_taken_cons, apply_ite Option.isSome]
      simp only [Option.isSome_none, Bool.ite_eq_true_distrib, Bool.false_eq_true, if_false_right]
      refine and_congr_right fun _ => ?_
      rw [List.append_cons before c after, ih (before ++ [c]) after]
      simp only [List.append_assoc, List.singleton_append]

/-- As many characters are counted as pass the test one after the other. -/
theorem runLength_eq (mode : Mode) (test : CharTest) (before after : List Char) :
    runLength (before ++ after).toArray mode test after.length before.length =
      (after.takeWhile (test.holds mode)).length := by
  induction after generalizing before with
  | nil => rfl
  | cons c rest ih =>
    have more := ih (before ++ [c])
    rw [List.append_assoc, List.singleton_append, List.length_append,
      List.length_singleton] at more
    rw [List.length_cons, runLength, getElem?_append_cons, List.takeWhile_cons]
    simp only [more]
    split_ifs <;> rfl

theorem tryDown_isSome_iff (next : Next) (state : State) (least extra : Nat) :
    (tryDown next state least extra).isSome = true ↔
      ∃ more ≤ extra, (next (state.goto (state.position + least + more))).isSome = true := by
  induction extra with
  | zero => simp [tryDown]
  | succ extra ih =>
    rw [tryDown]
    cases reached : next (state.goto (state.position + least + (extra + 1))) with
    | some result =>
      simp only [Option.isSome_some, true_iff]
      exact ⟨extra + 1, le_rfl, by rw [reached]; rfl⟩
    | none =>
      simp only [ih]
      constructor
      · rintro ⟨more, few, ends⟩
        exact ⟨more, Nat.le_succ_of_le few, ends⟩
      · rintro ⟨more, few, ends⟩
        refine ⟨more, Nat.le_of_lt_succ (Nat.lt_of_le_of_ne few ?_), ends⟩
        rintro rfl
        rw [reached] at ends
        cases ends

theorem length_takeWhile_any_iff (cs : List Char) :
    (cs.takeWhile (CharTest.any.holds .start)).length = cs.length ↔ '\n' ∉ cs := by
  have part := List.takeWhile_prefix (l := cs) (CharTest.any.holds .start)
  have passes (c : Char) : CharTest.any.holds .start c = true ↔ c ≠ '\n' := by
    simp [CharTest.holds, Mode.start]
  constructor
  · intro whole feed
    have all := List.takeWhile_eq_self_iff.mp (part.eq_of_length whole)
    exact (passes _).mp (all _ feed) rfl
  · intro free
    have all : ∀ c ∈ cs, CharTest.any.holds .start c = true :=
      fun c mem => (passes c).mpr fun feed => free (feed ▸ mem)
    rw [List.takeWhile_eq_self_iff.mpr all]

/-- The rest of a text is taken if it has no line feed. -/
theorem run_anything (before after : List Char) (marks : Marks) :
    let text := (before ++ after).toArray
    let atEnd : Next := fun state => if state.position == text.size then some state else none
    (run text anything atEnd ⟨before.length, marks⟩).isSome = true ↔ '\n' ∉ after := by
  intro text atEnd
  have size : text.size = before.length + after.length := by simp [text]
  have left : text.size - before.length = after.length := by omega
  have ends (position : Nat) : (atEnd ⟨position, marks⟩).isSome = true ↔
      position = before.length + after.length := by
    simp only [atEnd, size]
    split_ifs with last <;> simpa using last
  have part := (List.takeWhile_prefix (l := after) (CharTest.any.holds .start)).length_le
  rw [anything, run, repeatOne]
  simp only [left, Option.getD_none, Nat.min_self, text, runLength_eq, Nat.not_lt_zero, if_false,
    Nat.sub_zero, tryDown_isSome_iff, State.goto, ends]
  rw [← length_takeWhile_any_iff]
  constructor
  · rintro ⟨more, few, last⟩
    omega
  · intro whole
    exact ⟨after.length, whole.ge, by omega⟩

/-- The pattern of a stem takes the texts that begin with it in any letter case and have no line
feed after it. -/
theorem matchesWhole_stem (stem text : List Char) :
    matchesWhole (stemTree stem) text = true ↔
      ∃ first rest, text = first ++ rest ∧ List.Forall₂ TakenFor stem first ∧ '\n' ∉ rest := by
  refine (run_stem stem [] text anything _ ⟨[], []⟩).trans ?_
  refine exists_congr fun first => exists_congr fun rest => ?_
  refine and_congr_right fun whole => and_congr_right fun _ => ?_
  subst whole
  exact run_anything first rest _

end Matching

end Pattern

open Pattern (isStemChar stemPattern TakenFor spellings)

theorem patternAdmits_stem {stem : List Char} (plain : ∀ c ∈ stem, isStemChar c = true)
    (address : String) : ∃ admitted,
      patternAdmits (String.ofList (stemPattern stem)) address = .ok admitted ∧
      (admitted = true ↔ address ≠ "" ∧ (address = String.ofList (stemPattern stem) ∨
        ∃ first rest, address.toList = first ++ rest ∧ List.Forall₂ TakenFor stem first ∧
          '\n' ∉ rest)) := by
  have full : (String.ofList (stemPattern stem)).isEmpty = false := by
    simp [stemPattern]
  unfold patternAdmits
  by_cases none : address = ""
  · exact ⟨false, by simp [none], by simp [none]⟩
  · by_cases literal : String.ofList (stemPattern stem) = address
    · exact ⟨true, by simp [none, literal], by simp [none, literal]⟩
    · refine ⟨Pattern.matchesWhole (Pattern.stemTree stem) address.toList, ?_, ?_⟩
      · simp [full, none, literal, Pattern.matchesPattern, Pattern.readPattern_stem plain]
      · simp [none, Ne.symm literal, Pattern.matchesWhole_stem]

/-- An entry with the pattern of a stem admits the pattern itself and the addresses that begin with
the stem in any letter case and have no line feed after it. An address in which the stem stands
only further inside is not admitted. Besides its two cases, a letter of the stem is only taken for
those outside ASCII that belong to i, k and s. -/
theorem admits_stem_iff {stem : String} (plain : ∀ c ∈ stem.toList, isStemChar c = true)
    {entry : Entry} (named : entry.serviceId = some (String.ofList (stemPattern stem.toList)))
    (address : String) :
    (∃ admitted, entry.admits address = .ok admitted ∧
      (admitted = true ↔ address ≠ "" ∧ (address = String.ofList (stemPattern stem.toList) ∨
        ∃ first rest, address.toList = first ++ rest ∧
          List.Forall₂ TakenFor stem.toList first ∧ '\n' ∉ rest)) ∧
      (address ≠ String.ofList (stemPattern stem.toList) →
        ¬ List.Forall₂ TakenFor stem.toList (address.toList.take stem.length) →
        admitted = false)) ∧
      ∀ a ∈ stem.toList, ∀ c, TakenFor a c ↔ c ∈ spellings a := by
  refine ⟨?_, fun a mem => Pattern.takenFor_iff (plain a mem)⟩
  obtain ⟨admitted, given, iff⟩ := patternAdmits_stem plain address
  refine ⟨admitted, ?_, iff, fun other inside => ?_⟩
  · unfold Entry.admits
    rw [named]
    exact given
  · rw [← Bool.not_eq_true, iff]
    rintro ⟨-, literal | ⟨first, rest, whole, taken, -⟩⟩
    · exact other literal
    · have length : first.length = stem.length := taken.length_eq.symm
      rw [whole, ← length, List.take_left] at inside
      exact inside taken

/-- A stem in capitals and with letters that are no ASCII letters, and an address with the stem in
its query. -/
theorem admits_stem_iff_kelvin :
    let stem := "http://k.s/"
    let entry := newEntry 1 (String.ofList (stemPattern stem.toList)) "n"
    (∀ c ∈ stem.toList, isStemChar c = true) ∧
      entry.serviceId = some (String.ofList (stemPattern stem.toList)) ∧
      entry.admits "HTTP://\u212A.\u017F/x" = .ok true ∧
      entry.admits "http://x/?http://k.s/" = .ok false := by
  intro stem entry
  have plain : ∀ c ∈ stem.toList, isStemChar c = true :=
    List.all_eq_true.mp (by decide : stem.toList.all isStemChar = true)
  have named : entry.serviceId = some (String.ofList (stemPattern stem.toList)) := rfl
  refine ⟨plain, named, ?_, ?_⟩
  · obtain ⟨⟨admitted, given, iff, -⟩, -⟩ :=
      admits_stem_iff plain named "HTTP://\u212A.\u017F/x"
    have taken : List.Forall₂ TakenFor stem.toList "HTTP://\u212A.\u017F/".toList := by
      decide +kernel
    rw [given, iff.mpr ⟨by decide, .inr ⟨_, ['x'], by decide, taken, by decide⟩⟩]
  · obtain ⟨⟨admitted, given, -, inside⟩, -⟩ :=
      admits_stem_iff plain named "http://x/?http://k.s/"
    rw [given, inside (by decide) (by decide +kernel)]

end ServiceRegistry
