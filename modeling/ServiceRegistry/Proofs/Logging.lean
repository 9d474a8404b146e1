import Mathlib.Data.List.Basic
import ServiceRegistry.Logging
import ServiceRegistry.Proofs.Members

/-!
# The setup of logging

A call of the setup does nothing when there is a handler. Otherwise it looks its name up among names
of which two stand for no level; these stop it before anything is changed. So the first other name
decides: it sets the level and attaches the one handler, and no later call does anything.

Results:

* `levelOf_eq`: the level of a name, or that it is one of the two names that stop the setup.
* `call_of_handler`: a logger with a handler is left as it is.
* `after_others`, `after_none`: the logger after any calls.
* `call_settles`: when a call stops, and what the logger is after it.
-/

namespace ServiceRegistry

/-- The names of levels, in capital letters. -/
def levelNumbers : List (String × Nat) :=
  [("CRITICAL", 50), ("FATAL", 50), ("ERROR", 40), ("WARNING", 30), ("WARN", 30), ("INFO", 20),
   ("DEBUG", 10), ("NOTSET", 0)]

/-- The level that a name names in any letter case. -/
def namedLevel? (name : String) : Option Nat :=
  levelNumbers.lookup (Text.upperText name)

/-- A name that stands for something but for no level. -/
def IsMisnomer (name : String) : Prop :=
  Text.upperText name ∈ ["BASIC_FORMAT", "_STYLES"]

instance (name : String) : Decidable (IsMisnomer name) :=
  inferInstanceAs (Decidable (Text.upperText name ∈ ["BASIC_FORMAT", "_STYLES"]))

theorem levelOf_of_misnomer {name : String} (h : IsMisnomer name) :
    ∃ fault, levelOf name = .error fault := by
  unfold levelOf
  rcases List.mem_pair.mp h with same | same
  · exact ⟨.unknown basicFormat, by rw [same]; rfl⟩
  · exact ⟨.notALevel shownStyles, by rw [same]; rfl⟩

/-- Any other name gives the level that it names, or that of records that inform. -/
theorem levelOf_of_not_misnomer {name : String} (h : ¬ IsMisnomer name) :
    levelOf name = .ok ((namedLevel? name).getD infoLevel) := by
  have split : levelValues =
      levelNumbers.map (fun member => (member.1, .number member.2)) ++
        [("BASIC_FORMAT", .text basicFormat), ("_STYLES", .other shownStyles)] := rfl
  have absent : [("BASIC_FORMAT", LevelValue.text basicFormat),
      ("_STYLES", .other shownStyles)].lookup (Text.upperText name) = none := by
    simp only [IsMisnomer, List.mem_pair, not_or] at h
    rw [lookup_cons_ite, if_neg h.1, lookup_cons_ite, if_neg h.2, List.lookup_nil]
  rw [levelOf, split, List.lookup_append, lookup_map_value, absent, Option.or_none, namedLevel?]
  cases levelNumbers.lookup (Text.upperText name) <;> rfl

namespace RootLogger

variable {root : RootLogger}

/-! ## One call -/

/-- A logger that has a handler is left as it is. -/
theorem call_of_handler (handled : root.handlers ≠ 0) (name : Option String) :
    root.call name = (none, root) := by
  rw [call, setup, if_pos handled]

theorem call_of_misnomer {name : Option String} (free : root.handlers = 0)
    (misnomer : IsMisnomer (name.getD defaultLevelName)) :
    ∃ fault, root.call name = (some fault, root) := by
  obtain ⟨fault, stops⟩ := levelOf_of_misnomer misnomer
  refine ⟨fault, ?_⟩
  rw [call, setup, if_neg (not_not.mpr free), stops]
  rfl

theorem call_of_not_misnomer {name : Option String} (free : root.handlers = 0)
    (names : ¬ IsMisnomer (name.getD defaultLevelName)) :
    root.call name = (none, { root with
      level := (namedLevel? (name.getD defaultLevelName)).getD infoLevel, console := true }) := by
  rw [call, setup, if_neg (not_not.mpr free), levelOf_of_not_misnomer names]
  rfl

/-! ## Calls one after the other -/

theorem after_concat (before : List (Option String)) (name : Option String) :
    root.after (before ++ [name]) = ((root.after before).call name).2 := by
  rw [after, List.foldl_append]
  rfl

theorem after_of_handler (handled : root.handlers ≠ 0) (names : List (Option String)) :
    root.after names = root := by
  induction names with
  | nil => rfl
  | cons name rest ih =>
    rw [after, List.foldl_cons, call_of_handler handled]
    exact ih

/-- The name that decides among those of some calls: the first that stops no setup. -/
def decisive? (names : List (Option String)) : Option String :=
  (names.map (·.getD defaultLevelName)).find? fun name => ¬ IsMisnomer name

theorem decisive?_eq_none_iff {names : List (Option String)} :
    decisive? names = none ↔ ∀ name ∈ names, IsMisnomer (name.getD defaultLevelName) := by
  simp [decisive?]

theorem decisive?_append (before : List (Option String)) (name : Option String) :
    decisive? (before ++ [name]) = (decisive? before).or (decisive? [name]) := by
  rw [decisive?, List.map_append, List.find?_append]
  rfl

/-- Without handlers of others there is none before the console handler is attached. -/
theorem handlers_free (level : Nat) : (⟨level, 0, false⟩ : RootLogger).handlers = 0 := rfl

theorem handlers_console (level : Nat) : (⟨level, 0, true⟩ : RootLogger).handlers ≠ 0 :=
  Nat.one_ne_zero

/-- The decisive name sets the level and attaches the handler. Before it nothing changes. -/
theorem after_free (level : Nat) (names : List (Option String)) :
    (⟨level, 0, false⟩ : RootLogger).after names =
      match decisive? names with
      | some name => ⟨(namedLevel? name).getD infoLevel, 0, true⟩
      | none => ⟨level, 0, false⟩ := by
  induction names with
  | nil => rfl
  | cons name rest ih =>
    by_cases misnomer : IsMisnomer (name.getD defaultLevelName)
    · obtain ⟨fault, stops⟩ := call_of_misnomer (handlers_free level) misnomer
      have later : decisive? (name :: rest) = decisive? rest := by
        rw [decisive?, List.map_cons, List.find?_cons_of_neg (by simpa using misnomer)]
        rfl
      rw [after, List.foldl_cons, stops, later]
      exact ih
    · have first : decisive? (name :: rest) = some (name.getD defaultLevelName) := by
        rw [decisive?, List.map_cons, List.find?_cons_of_pos (by simpa using misnomer)]
      rw [after, List.foldl_cons, call_of_not_misnomer (handlers_free level) misnomer, first]
      exact after_of_handler (handlers_console _) rest

/-- Without a handler at the start a call stops exactly if no name has decided yet. -/
theorem call_stops_iff (level : Nat) (before : List (Option String)) (name : Option String) :
    (((⟨level, 0, false⟩ : RootLogger).after before).call name).1 ≠ none ↔
      decisive? (before ++ [name]) = none := by
  rw [after_free, decisive?_append]
  cases decisive? before with
  | some first =>
    simp only [Option.some_or]
    rw [call_of_handler (handlers_console _)]
    simp
  | none =>
    rw [Option.none_or]
    by_cases misnomer : IsMisnomer (name.getD defaultLevelName)
    · obtain ⟨fault, stops⟩ := call_of_misnomer (handlers_free level) misnomer
      have undecided : decisive? [name] = none :=
        decisive?_eq_none_iff.mpr (by simpa using misnomer)
      simp [stops, undecided]
    · have decided : decisive? [name] = some (name.getD defaultLevelName) :=
        List.find?_cons_of_pos (by simpa using misnomer)
      simp [call_of_not_misnomer (handlers_free level) misnomer, decided]

/-- A call stops exactly if there was no handler at the start and its name and all names before it
stand for no level; then nothing has changed. After a call that does not stop there are as many
handlers as at the start, or one. With handlers at the start the level never changes. Without them
it is that of the first name that stops no call, or that of records that inform if this name stands
for nothing. -/
theorem call_settles (level others : Nat) (before : List (Option String)) (name : Option String) :
    let root : RootLogger := ⟨level, others, false⟩
    let calls := before ++ [name]
    let outcome := (root.after before).call name
    (outcome.1 ≠ none ↔
      others = 0 ∧ ∀ name ∈ calls, IsMisnomer (name.getD defaultLevelName)) ∧
    (outcome.1 ≠ none → outcome.2 = root) ∧
    (outcome.1 = none → outcome.2.handlers = max others 1) ∧
    (others ≠ 0 → outcome.2.level = level) ∧
    (others = 0 → ∀ first, decisive? calls = some first →
      outcome.2.level = (namedLevel? first).getD infoLevel) := by
  intro root calls outcome
  rw [← decisive?_eq_none_iff]
  by_cases free : others = 0
  · subst free
    have stops : outcome.1 ≠ none ↔ decisive? calls = none := call_stops_iff level before name
    have next : outcome.2 = _ := (after_concat before name).symm.trans (after_free level calls)
    have quiet : outcome.1 = none ↔ decisive? calls ≠ none := by
      rw [← not_iff_not, not_not]
      exact stops
    rw [next, stops, quiet]
    cases decisive? calls <;> simp [handlers, root]
  · have handled : root.handlers ≠ 0 := by simpa [handlers, root] using free
    have settled : outcome = (none, root) := by
      rw [← call_of_handler handled name]
      exact congrArg (·.call name) (after_of_handler handled before)
    rw [settled]
    simp [free, handlers, root]
    omega

/-- A call stops at a name that stands for a text, and attaches no handler. -/
theorem setup_stops_format :
    (start 0).call (some "basic_format") = (some (.unknown basicFormat), start 0) ∧
      (start 0).handlers = 0 := by
  decide +kernel

end RootLogger

end ServiceRegistry
