import ServiceRegistry.Proofs.Text.Replace
import ServiceRegistry.Text.Markup

/-!
# Markup text

Results:

* `tagChar_notMem_markup`: the characters that open or close a tag or a value do not occur.
* `markup_injective`: markup text can be read back.
* `markup_eq_foldl`: the special characters replaced one after the other, the ampersand first.
-/

namespace ServiceRegistry.Text

/-- The characters that have a meaning in markup, with their entities. -/
def entities : List (Char × String) :=
  [('&', "&amp;"), ('<', "&lt;"), ('>', "&gt;"), ('"', "&quot;"), ('\'', "&#x27;")]

/-- The characters that open or close a tag or a value. -/
def tagChars : List Char := ['<', '>', '"', '\'']

/-- A character without a meaning in markup. -/
def IsPlainChar (c : Char) : Prop :=
  c ∉ entities.map Prod.fst

instance (c : Char) : Decidable (IsPlainChar c) :=
  inferInstanceAs (Decidable (c ∉ entities.map Prod.fst))

/-! ## Single characters -/

/-- A character is written as its entity, or as itself if it has none. -/
theorem markupChar_cases (c : Char) :
    (∃ entity, (c, entity) ∈ entities ∧ markupChar c = entity.toList) ∨
      IsPlainChar c ∧ markupChar c = [c] := by
  unfold markupChar IsPlainChar
  split_ifs with amp lt gt quot apos
  · exact .inl ⟨"&amp;", by simp_all [entities], rfl⟩
  · exact .inl ⟨"&lt;", by simp_all [entities], rfl⟩
  · exact .inl ⟨"&gt;", by simp_all [entities], rfl⟩
  · exact .inl ⟨"&quot;", by simp_all [entities], rfl⟩
  · exact .inl ⟨"&#x27;", by simp_all [entities], rfl⟩
  · exact .inr ⟨by simp_all [entities], rfl⟩

/-- An entity begins with an ampersand, and none is the beginning of another. -/
theorem entities_prefixFree : ∀ first ∈ entities, ∀ second ∈ entities, ∀ rest rest' : List Char,
    first.2.toList ++ rest = second.2.toList ++ rest' → first.1 = second.1 ∧ rest = rest' := by
  simp [entities]

theorem ampersand_begins : ∀ entity ∈ entities, entity.2.toList.head? = some '&' := by
  simp [entities]

/-- What follows a character can be told from what it is written as. -/
theorem markupChar_prefixFree {c d : Char} {rest rest' : List Char}
    (same : markupChar c ++ rest = markupChar d ++ rest') : c = d ∧ rest = rest' := by
  have ampersand {c d : Char} {entity : String} (mem : (c, entity) ∈ entities)
      (plain : IsPlainChar d) {rest rest' : List Char} : entity.toList ++ rest ≠ d :: rest' := by
    intro same
    have first : (entity.toList ++ rest).head? = some '&' := by
      rw [List.head?_append, ampersand_begins _ mem, Option.some_or]
    rw [same, List.head?_cons, Option.some_inj] at first
    exact absurd plain (first ▸ by decide)
  obtain ⟨entity, mem, eq⟩ | ⟨plain, eq⟩ := markupChar_cases c <;>
    obtain ⟨entity', mem', eq'⟩ | ⟨plain', eq'⟩ := markupChar_cases d <;>
    rw [eq, eq'] at same
  · exact entities_prefixFree _ mem _ mem' _ _ same
  · exact absurd same (ampersand mem plain')
  · exact absurd same.symm (ampersand mem' plain)
  · exact List.cons.inj same

/-! ## Texts -/

theorem markup_append (first second : List Char) :
    markup (first ++ second) = markup first ++ markup second :=
  List.flatMap_append

/-- Nothing in markup text opens or closes a tag or a value. -/
theorem tagChar_notMem_markup (text : List Char) : ∀ c ∈ markup text, c ∉ tagChars := by
  intro c mem
  obtain ⟨d, -, mem⟩ := List.mem_flatMap.mp mem
  obtain ⟨entity, known, eq⟩ | ⟨plain, eq⟩ := markupChar_cases d
  · have clean : ∀ entity ∈ entities, entity.2.toList.all (· ∉ tagChars) = true := by decide
    exact of_decide_eq_true (List.all_eq_true.mp (clean _ known) c (eq ▸ mem))
  · rw [eq, List.mem_singleton] at mem
    have special : tagChars ⊆ entities.map Prod.fst := by simp [tagChars, entities]
    exact fun tag => plain (special (mem ▸ tag))

theorem markupChar_ne_nil (c : Char) : markupChar c ≠ [] := by
  obtain ⟨entity, mem, eq⟩ | ⟨-, eq⟩ := markupChar_cases c
  · intro empty
    have first := ampersand_begins _ mem
    rw [← eq, empty] at first
    cases first
  · rw [eq]
    exact List.cons_ne_nil c []

/-- Markup text can be read back. -/
theorem markup_injective : Function.Injective markup := by
  intro text
  induction text with
  | nil =>
    intro other same
    cases other with
    | nil => rfl
    | cons d other =>
      exact absurd (List.append_eq_nil_iff.mp same.symm).1 (markupChar_ne_nil d)
  | cons c rest ih =>
    intro other same
    cases other with
    | nil => exact absurd (List.append_eq_nil_iff.mp same).1 (markupChar_ne_nil c)
    | cons d other =>
      obtain ⟨rfl, rests⟩ := markupChar_prefixFree same
      rw [ih rests]

/-- Characters that are replaced one after the other are replaced in each character of a text. -/
theorem foldl_replaceAll_eq (pairs : List (Char × String)) (text : List Char) :
    pairs.foldl (fun text pair => replaceAll [pair.1] pair.2.toList text) text =
      text.flatMap fun c =>
        pairs.foldl (fun text pair => replaceAll [pair.1] pair.2.toList text) [c] := by
  induction pairs generalizing text with
  | nil => exact (List.flatMap_singleton' text).symm
  | cons pair rest ih =>
    simp only [List.foldl_cons]
    rw [ih, replaceAll_singleton, List.flatMap_assoc]
    refine List.flatMap_congr fun c _ => ?_
    rw [← ih, replaceAll_singleton, List.flatMap_singleton]

theorem foldl_replaceAll_of_notMem {pairs : List (Char × String)} {c : Char}
    (absent : c ∉ pairs.map Prod.fst) :
    pairs.foldl (fun text pair => replaceAll [pair.1] pair.2.toList text) [c] = [c] := by
  induction pairs with
  | nil => rfl
  | cons pair rest ih =>
    rw [List.map_cons, List.mem_cons, not_or] at absent
    rw [List.foldl_cons, replaceAll_singleton, List.flatMap_singleton, if_neg absent.1]
    exact ih absent.2

/-- The special characters replaced one after the other. The ampersand comes first: those of the
entities are not replaced again. -/
theorem markup_eq_foldl (text : List Char) :
    markup text =
      entities.foldl (fun text pair => replaceAll [pair.1] pair.2.toList text) text := by
  rw [foldl_replaceAll_eq]
  refine List.flatMap_congr fun c _ => ?_
  obtain ⟨entity, mem, eq⟩ | ⟨plain, eq⟩ := markupChar_cases c
  · rw [eq]
    simp only [entities, List.mem_cons, Prod.mk.injEq, List.not_mem_nil, or_false] at mem
    rcases mem with ⟨rfl, rfl⟩ | ⟨rfl, rfl⟩ | ⟨rfl, rfl⟩ | ⟨rfl, rfl⟩ | ⟨rfl, rfl⟩ <;> decide
  · rw [eq, foldl_replaceAll_of_notMem plain]

end ServiceRegistry.Text
