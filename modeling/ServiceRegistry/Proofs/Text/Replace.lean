import Mathlib.Data.List.Infix
import ServiceRegistry.Text.Replace

/-!
# Where marks are replaced

The scan of a text passes over what cannot begin an occurrence of the mark, replaces an occurrence
and goes on behind it. What is written in the place of a mark has no part in the scan.

Results:

* `Passed`: texts over which the scan for a mark passes, whatever comes after them.
* `replaceAll_marked`: a text in which a mark stands at one place.
* `replaceAll_singleton`: a mark of one character.
-/

namespace ServiceRegistry.Text

variable {mark new before after : List Char}

/-- The scan for a mark passes over a text, whatever comes after it. -/
def Passed (mark text : List Char) : Prop :=
  ∀ new rest, replaceAll mark new (text ++ rest) = text ++ replaceAll mark new rest

theorem Passed.append {first second : List Char} (h : Passed mark first) (h' : Passed mark second) :
    Passed mark (first ++ second) := by
  intro new rest
  rw [List.append_assoc, h, h', List.append_assoc]

/-- Nothing is replaced in a text over which the scan passes. -/
theorem Passed.replaceAll_eq {text : List Char} (h : Passed mark text) :
    replaceAll mark new text = text := by
  have all := h new []
  rwa [List.append_nil, show replaceAll mark new [] = [] from rfl, List.append_nil] at all

/-- At a character where no occurrence begins the scan goes on to the next one. -/
theorem replaceAll_cons {c : Char} {rest : List Char} (absent : ¬ mark.isPrefixOf (c :: rest)) :
    replaceAll mark new (c :: rest) = c :: replaceAll mark new rest := by
  rw [replaceAll, replaceFrom, if_neg absent]
  rfl

theorem replaceFrom_length (mark new skipped rest : List Char) :
    replaceFrom mark new skipped.length (skipped ++ rest) = replaceAll mark new rest := by
  induction skipped with
  | nil => rfl
  | cons c skipped ih => exact ih

/-- At an occurrence the scan goes on behind it. -/
theorem replaceAll_mark_append (nonempty : mark ≠ []) :
    replaceAll mark new (mark ++ after) = new ++ replaceAll mark new after := by
  cases mark with
  | nil => exact absurd rfl nonempty
  | cons c rest =>
    have occurs : (c :: rest).isPrefixOf (c :: (rest ++ after)) :=
      List.isPrefixOf_iff_prefix.mpr (List.prefix_append (c :: rest) after)
    rw [replaceAll, List.cons_append, replaceFrom, if_pos occurs]
    exact congrArg (new ++ ·) (replaceFrom_length (c :: rest) new rest after)

/-- A mark that stands at one place is replaced there, whatever the new text is. -/
theorem replaceAll_marked (nonempty : mark ≠ []) (passed : Passed mark before)
    (passed' : Passed mark after) :
    replaceAll mark new (before ++ mark ++ after) = before ++ new ++ after := by
  rw [List.append_assoc, passed, replaceAll_mark_append nonempty, passed'.replaceAll_eq,
    List.append_assoc]

/-- A mark of one character is replaced character by character. -/
theorem replaceAll_singleton (c : Char) (new text : List Char) :
    replaceAll [c] new text = text.flatMap fun d => if d = c then new else [d] := by
  induction text with
  | nil => rfl
  | cons d rest ih =>
    rw [List.flatMap_cons, ← ih]
    by_cases same : d = c
    · rw [if_pos same, same]
      exact replaceAll_mark_append (List.cons_ne_nil c [])
    · have absent : ¬ List.isPrefixOf [c] (d :: rest) := by
        simpa using fun here : c = d => same here.symm
      rw [if_neg same, replaceAll_cons absent]
      rfl

end ServiceRegistry.Text
