import Mathlib.Data.List.Induction
import Mathlib.Tactic.SplitIfs
import ServiceRegistry.Proofs.Audit.Record

/-!
# What masking keeps of a value

A path leads from a value to a part of it. Masking keeps what harmless paths lead to, those that
take no sensitive key and no item after the twentieth. Five steps down the containers are still
there; what lies after the sixth step is left out, and what lies under a sensitive key is hidden.

Results:

* `Json.at?`: the part that a path leads to.
* `maskItems_eq`, `maskMembers_eq`: masked items and members, one by one.
* `at?_maskAt`, `at?_mask_hidden`: the parts of a masked value.
* `HarmlessPart`: what is kept of a value, what stands for the rest, and that nothing else is there.
* `mask_harmlessPart`: masking gives the harmless part, which is small, and masking it again does
  not change it.
-/

namespace ServiceRegistry

namespace Json

/-! ## Paths -/

/-- A step into a value: to the value of a key, or to an item of a list. -/
inductive PathStep
  | key (name : String)
  | item (index : Nat)
  deriving Repr, DecidableEq

/-- The steps from a value to a part of it. -/
abbrev Path := List PathStep

/-- The part that a step leads to. -/
def child? : Json → PathStep → Option Json
  | .object members, .key name => members.lookup name
  | .list items, .item index => items[index]?
  | _, _ => none

/-- The part that a path leads to. -/
def at? (value : Json) : Path → Option Json
  | [] => some value
  | step :: path => (value.child? step).bind fun part => part.at? path

theorem at?_append (value : Json) (path more : Path) :
    value.at? (path ++ more) = (value.at? path).bind fun part => part.at? more := by
  induction path generalizing value with
  | nil => rfl
  | cons step path ih =>
    rw [List.cons_append, at?, at?, Option.bind_assoc]
    exact congrArg _ (funext fun part => ih part)

theorem at?_concat (value : Json) (path : Path) (step : PathStep) :
    value.at? (path ++ [step]) = (value.at? path).bind fun part => part.child? step := by
  rw [at?_append]
  refine congrArg _ (funext fun part => ?_)
  cases leads : part.child? step <;> simp [at?, leads]

@[simp] theorem child?_text (s : String) (step : PathStep) : (Json.text s).child? step = none := by
  cases step <;> rfl

/-- A step that masking passes: to a key that is not sensitive, or to one of the first twenty
items. -/
def PathStep.isHarmless : PathStep → Bool
  | .key name => !Audit.isSensitive name
  | .item index => index < 20

end Json

namespace Audit

open Json (Path PathStep)

/-! ## Items and members -/

theorem maskItems_eq (depth : Int) (count : Nat) (items : List Json) :
    maskItems depth count items = (items.take count).map (maskAt depth) := by
  induction items generalizing count with
  | nil => cases count <;> simp [maskItems]
  | cons item rest ih =>
    cases count with
    | zero => simp [maskItems]
    | succ count => rw [maskItems, ih, List.take_succ_cons, List.map_cons]

theorem maskMembers_eq (depth : Int) (members : List (String × Json)) :
    maskMembers depth members = members.map fun member =>
      (member.1, if isSensitive member.1 then hidden else maskAt depth member.2) := by
  induction members with
  | nil => rw [maskMembers, List.map_nil]
  | cons member rest ih => rw [maskMembers, ih, List.map_cons]

section Shallow

variable {depth : Int}

theorem not_deep (shallow : depth ≤ 5) : ¬ depth > depthLimit :=
  Int.not_lt.mpr shallow

theorem maskAt_object (shallow : depth ≤ 5) (members : List (String × Json)) :
    maskAt depth (.object members) = .object (maskMembers (depth + 1) members) := by
  rw [maskAt, if_neg (not_deep shallow)]

theorem maskAt_list (shallow : depth ≤ 5) (items : List Json) :
    maskAt depth (.list items) = .list (maskItems (depth + 1) itemLimit items) := by
  rw [maskAt, if_neg (not_deep shallow)]

/-! ## Parts of a masked value -/

/-- A harmless step leads to the masked part. -/
theorem child?_maskAt (shallow : depth ≤ 5) (value : Json) {step : PathStep}
    (harmless : step.isHarmless = true) :
    (maskAt depth value).child? step = (value.child? step).map (maskAt (depth + 1)) := by
  cases value with
  | object members =>
    rw [maskAt_object shallow]
    cases step with
    | key name =>
      have plain : isSensitive name = false := by simpa [PathStep.isHarmless] using harmless
      simp [Json.child?, lookup_maskMembers, plain]
    | item index => rfl
  | list items =>
    rw [maskAt_list shallow]
    cases step with
    | key name => rfl
    | item index =>
      have early : index < itemLimit := of_decide_eq_true harmless
      simp [Json.child?, maskItems_eq, List.getElem?_take_of_lt early]
  | _ => cases step <;> simp [maskAt, not_deep shallow, Json.child?]

/-- A sensitive key leads to the text that stands for its value. -/
theorem child?_maskAt_sensitive (shallow : depth ≤ 5) (value : Json) {name : String}
    (sensitive : isSensitive name = true) :
    (maskAt depth value).child? (.key name) = (value.child? (.key name)).map fun _ => hidden := by
  cases value with
  | object members =>
    rw [maskAt_object shallow]
    simp [Json.child?, lookup_maskMembers, sensitive]
  | list items =>
    rw [maskAt_list shallow]
    rfl
  | _ => simp [maskAt, not_deep shallow, Json.child?]

/-- No step leads to an item after the twentieth. -/
theorem child?_maskAt_late (shallow : depth ≤ 5) (value : Json) {index : Nat}
    (late : 20 ≤ index) : (maskAt depth value).child? (.item index) = none := by
  cases value with
  | object members =>
    rw [maskAt_object shallow]
    rfl
  | list items =>
    rw [maskAt_list shallow]
    have late : itemLimit ≤ index := late
    simp [Json.child?, maskItems_eq]
    omega
  | _ => simp [maskAt, not_deep shallow, Json.child?]

/-- What a step leads to in a masked value was there before, and the step is harmless or takes a
sensitive key. -/
theorem child?_of_maskAt (shallow : depth ≤ 5) (part : Json) {step : PathStep}
    (leads : ((maskAt depth part).child? step).isSome = true) :
    (part.child? step).isSome = true ∧
      (step.isHarmless = true ∨ ∃ name, step = .key name ∧ isSensitive name = true) := by
  cases passes : step.isHarmless with
  | true =>
    rw [child?_maskAt shallow part passes, Option.isSome_map] at leads
    exact ⟨leads, .inl rfl⟩
  | false =>
    cases step with
    | key name =>
      have sensitive : isSensitive name = true := by
        simpa [PathStep.isHarmless] using passes
      rw [child?_maskAt_sensitive shallow part sensitive, Option.isSome_map] at leads
      exact ⟨leads, .inr ⟨name, rfl, sensitive⟩⟩
    | item index =>
      have late : 20 ≤ index := by simpa [PathStep.isHarmless] using passes
      rw [child?_maskAt_late shallow part late] at leads
      cases leads

/-- A harmless path leads to the part masked at its depth. -/
theorem at?_maskAt (depth : Int) (value : Json) {path : Path} (harmless : path.all (·.isHarmless))
    (short : depth + path.length ≤ 6) :
    (maskAt depth value).at? path = (value.at? path).map (maskAt (depth + path.length)) := by
  induction path generalizing depth value with
  | nil => simp [Json.at?]
  | cons step path ih =>
    rw [List.all_cons, Bool.and_eq_true] at harmless
    rw [List.length_cons, Int.natCast_succ] at short ⊢
    rw [Json.at?, Json.at?, child?_maskAt (by omega) value harmless.1]
    cases value.child? step with
    | none => rfl
    | some part =>
      have further := ih (depth + 1) part harmless.2 (by omega)
      rw [show depth + ((path.length : Int) + 1) = depth + 1 + path.length by omega]
      exact further

theorem at?_mask (value : Json) {path : Path} (harmless : path.all (·.isHarmless))
    (short : path.length ≤ 6) :
    (mask value).at? path = (value.at? path).map (maskAt path.length) := by
  have := at?_maskAt 0 value harmless (by omega)
  rwa [Int.zero_add] at this

theorem at?_mask_hidden (value : Json) {path : Path}
    (harmless : path.all (·.isHarmless)) (short : path.length ≤ 5) {name : String}
    (sensitive : isSensitive name = true) :
    (mask value).at? (path ++ [.key name]) =
      (value.at? (path ++ [.key name])).map fun _ => hidden := by
  rw [Json.at?_concat, Json.at?_concat, at?_mask value harmless (by omega)]
  cases value.at? path with
  | none => rfl
  | some part => exact child?_maskAt_sensitive (by omega) part sensitive

theorem maskAt_deep (value : Json) : maskAt 6 value = elided := by
  cases value <;> rfl

end Shallow

/-! ## The harmless part -/

/-- A container and one of the same kind with the same keys or with the first twenty items, or a
scalar and itself. -/
inductive SameFrame : Json → Json → Prop
  | object {members members' : List (String × Json)} :
      members'.map Prod.fst = members.map Prod.fst →
      SameFrame (.object members) (.object members')
  | list {items items' : List Json} : items'.length = min 20 items.length →
      SameFrame (.list items) (.list items')
  | null : SameFrame .null .null
  | bool (b : Bool) : SameFrame (.bool b) (.bool b)
  | int (n : Int) : SameFrame (.int n) (.int n)
  | float (x : Number.Binary64) : SameFrame (.float x) (.float x)
  | text (s : String) : SameFrame (.text s) (.text s)

/-- The paths that lead to parts of a masked value: short harmless ones, and those whose last key is
the first sensitive one. -/
def IsShown (path : Path) : Prop :=
  path.all (·.isHarmless) ∧ path.length ≤ 6 ∨
    ∃ before name, path = before ++ [.key name] ∧ before.all (·.isHarmless) ∧
      before.length ≤ 5 ∧ isSensitive name = true

/-- What is kept of a value, by the paths into it. -/
structure HarmlessPart (value shown : Json) : Prop where
  kept : ∀ path part, path.all (·.isHarmless) → path.length ≤ 5 →
    value.at? path = some part → ∃ part', shown.at? path = some part' ∧ SameFrame part part'
  hidden : ∀ path name, path.all (·.isHarmless) → path.length ≤ 5 →
    isSensitive name = true → (value.at? (path ++ [.key name])).isSome = true →
    shown.at? (path ++ [.key name]) = some (.text "***")
  elided : ∀ path, path.all (·.isHarmless) → path.length = 6 →
    (value.at? path).isSome = true → shown.at? path = some (.text "...")
  nothingElse : ∀ path, (shown.at? path).isSome = true →
    IsShown path ∧ (value.at? path).isSome = true

namespace HarmlessPart

variable {value shown : Json}

/-- Containers are nested six deep at most. -/
theorem length_le (harmless : HarmlessPart value shown) {path : Path}
    (leads : (shown.at? path).isSome = true) : path.length ≤ 6 := by
  obtain ⟨⟨-, short⟩ | ⟨before, name, rfl, -, short, -⟩, -⟩ := harmless.nothingElse path leads
  · exact short
  · rw [List.length_append, List.length_singleton]
    omega

/-- No list has more than twenty items. -/
theorem items_le (harmless : HarmlessPart value shown) {path : Path} {items : List Json}
    (leads : shown.at? path = some (.list items)) : items.length ≤ 20 := by
  have some : (shown.at? path).isSome = true := by rw [leads]; rfl
  obtain ⟨⟨plain, short⟩ | ⟨before, name, rfl, plain, short, sensitive⟩, there⟩ :=
    harmless.nothingElse path some
  · by_cases last : path.length = 6
    · have text := harmless.elided path plain last there
      rw [leads] at text
      cases text
    · obtain ⟨part, found⟩ := Option.isSome_iff_exists.mp there
      obtain ⟨part', same, frame⟩ := harmless.kept path part plain (by omega) found
      obtain rfl := Option.some.inj (leads.symm.trans same)
      cases frame with
      | list count => omega
  · have text := harmless.hidden before name plain short sensitive there
    rw [leads] at text
    cases text

end HarmlessPart

theorem maskAt_sameFrame {depth : Int} (shallow : depth ≤ 5) (value : Json) :
    SameFrame value (maskAt depth value) := by
  cases value with
  | object members =>
    rw [maskAt_object shallow, maskMembers_eq]
    exact .object (by simp)
  | list items =>
    rw [maskAt_list shallow, maskItems_eq]
    exact .list (by simp [itemLimit])
  | _ =>
    simp only [maskAt, not_deep shallow, if_false]
    constructor

/-- Nothing else is in a masked value: by the last step of a path. -/
theorem isShown_of_mask (value : Json) (path : Path)
    (leads : ((mask value).at? path).isSome = true) :
    IsShown path ∧ (value.at? path).isSome = true := by
  induction path using List.reverseRecOn with
  | nil => exact ⟨.inl ⟨rfl, by simp⟩, rfl⟩
  | append_singleton before step ih =>
    have reached : ((mask value).at? before).isSome = true := by
      rw [Json.at?_concat] at leads
      exact Option.isSome_of_isSome_bind leads
    obtain ⟨⟨plain, short⟩ | ⟨earlier, name, rfl, plain, short, sensitive⟩, there⟩ := ih reached
    · obtain ⟨part, found⟩ := Option.isSome_iff_exists.mp there
      rw [Json.at?_concat, at?_mask value plain short, found] at leads
      rw [Json.at?_concat, found]
      have shallow : before.length ≤ 5 := by
        by_contra last
        rw [show before.length = 6 by omega, Option.map_some, Option.bind_some] at leads
        simp [maskAt_deep, elided] at leads
      obtain ⟨leads, passes | ⟨name, rfl, sensitive⟩⟩ := child?_of_maskAt (by omega) part leads
      · refine ⟨.inl ⟨by simp [plain, passes], ?_⟩, leads⟩
        rw [List.length_append, List.length_singleton]
        omega
      · exact ⟨.inr ⟨before, name, rfl, plain, shallow, sensitive⟩, leads⟩
    · -- What is hidden has no parts.
      rw [Json.at?_concat, at?_mask_hidden value plain short sensitive] at leads
      obtain ⟨part, found⟩ := Option.isSome_iff_exists.mp there
      rw [found, Option.map_some, Option.bind_some] at leads
      simp [hidden] at leads

theorem harmlessPart_mask (value : Json) : HarmlessPart value (mask value) where
  kept path part harmless short found := by
    refine ⟨maskAt path.length part, ?_, maskAt_sameFrame (by omega) part⟩
    rw [at?_mask value harmless (by omega), found]
    rfl
  hidden path name harmless short sensitive leads := by
    obtain ⟨part, found⟩ := Option.isSome_iff_exists.mp leads
    rw [at?_mask_hidden value harmless short sensitive, found]
    rfl
  elided path harmless length leads := by
    obtain ⟨part, found⟩ := Option.isSome_iff_exists.mp leads
    rw [at?_mask value harmless (by omega), found, length]
    exact congrArg some (maskAt_deep part)
  nothingElse := isShown_of_mask value

/-! ## Masking twice -/

mutual

/-- What has been masked is not changed by masking it again at the same depth. -/
theorem maskAt_maskAt (depth : Int) (value : Json) :
    maskAt depth (maskAt depth value) = maskAt depth value := by
  match value with
  | .object members =>
    by_cases deep : depth > depthLimit
    · simp only [maskAt, deep, if_true, elided]
    · simp only [maskAt, deep, if_false, maskMembers_maskMembers (depth + 1) members]
  | .list items =>
    by_cases deep : depth > depthLimit
    · simp only [maskAt, deep, if_true, elided]
    · simp only [maskAt, deep, if_false, maskItems_maskItems (depth + 1) itemLimit items]
  | .null | .bool _ | .int _ | .float _ | .text _ =>
    by_cases deep : depth > depthLimit <;> simp only [maskAt, deep, if_true, if_false, elided]

theorem maskItems_maskItems (depth : Int) (count : Nat) (items : List Json) :
    maskItems depth count (maskItems depth count items) = maskItems depth count items := by
  match items, count with
  | [], _ => simp [maskItems]
  | _ :: _, 0 => simp [maskItems]
  | item :: rest, count + 1 =>
    simp only [maskItems, maskAt_maskAt depth item, maskItems_maskItems depth count rest]

theorem maskMembers_maskMembers (depth : Int) (members : List (String × Json)) :
    maskMembers depth (maskMembers depth members) = maskMembers depth members := by
  match members with
  | [] => rfl
  | (key, value) :: rest =>
    simp only [maskMembers, maskMembers_maskMembers depth rest]
    split_ifs
    · rfl
    · rw [maskAt_maskAt depth value]

end

/-- Masking gives the harmless part of a value, in which containers are nested six deep at most and
lists have twenty items at most, and which is its own harmless part. -/
theorem mask_harmlessPart (value : Json) :
    HarmlessPart value (mask value) ∧
      (∀ path, ((mask value).at? path).isSome = true → path.length ≤ 6) ∧
      (∀ path items, (mask value).at? path = some (.list items) → items.length ≤ 20) ∧
      mask (mask value) = mask value := by
  have harmless := harmlessPart_mask value
  refine ⟨harmless, ?_, ?_, maskAt_maskAt 0 value⟩
  · intro path leads
    exact harmless.length_le leads
  · intro path items leads
    exact harmless.items_le leads

end Audit

end ServiceRegistry
