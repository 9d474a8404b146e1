import ServiceRegistry.Proofs.Form.Submission
import ServiceRegistry.Proofs.Registry.Administration

/-!
# Faults that the application stops with

Results:

* `Fault.Ordinary`: the faults of the administration.
* `Fault.Expected`: the faults of the application. Each is answered with a status of at least 400.
* `Fault.Writable`: the faults in whose wording no text has a surrogate.
* `mapM_project_stops`, `removedName_stops`, `Database.placeFrom_stops`: faults of the
  administration.
-/

namespace ServiceRegistry

/-- The faults of the administration: no refusal, no issues with a form, and no document that cannot
be read. -/
def Fault.Ordinary : Fault → Prop
  | .refused .. => False
  | .invalidForm _ => False
  | .document _ => False
  | _ => True

/-- The faults that the application stops with. A refusal has the status of a mistake of the
client, the issues with a form are issues with what was submitted, and no document is read. -/
def Fault.Expected (limit : Nat) : Fault → Prop
  | .refused status _ => 400 ≤ status ∧ status < 500
  | .invalidForm issues => ∀ issue ∈ issues, issue.Submitted limit
  | .document _ => False
  | _ => True

/-- A fault whose document names positions up to a limit, and values that fit. -/
def Fault.Printable (limit : Nat) (fault : Fault) : Prop :=
  ∀ issues, fault = .invalidForm issues → ∀ issue ∈ issues, issue.Submitted limit

/-- A fault in whose wording no text has a surrogate. -/
def Fault.Writable (fault : Fault) : Prop :=
  ∀ issues, fault = .invalidForm issues → ∀ issue ∈ issues, issue.input.plain? ≠ none

theorem Fault.Ordinary.expected {limit : Nat} {fault : Fault} (h : fault.Ordinary) :
    fault.Expected limit := by
  cases fault with
  | refused | invalidForm | document => exact h.elim
  | _ => trivial

theorem Fault.Ordinary.writable {fault : Fault} (h : fault.Ordinary) : fault.Writable := by
  rintro issues rfl
  exact h.elim

theorem Fault.Expected.printable {limit : Nat} {fault : Fault} (h : fault.Expected limit) :
    fault.Printable limit := by
  rintro issues rfl
  exact h

/-- A fault without a status of its own is answered 500. -/
theorem Fault.Expected.fails {limit : Nat} {fault : Fault} (h : fault.Expected limit) :
    400 ≤ fault.status?.getD 500 ∧ fault.status?.getD 500 ≤ 500 := by
  cases fault with
  | refused status detail => exact ⟨h.1, Nat.le_of_lt h.2⟩
  | _ => simp [Fault.status?]

/-- Issues with a form have a status of their own. -/
theorem Fault.writable_of_status? {fault : Fault} (h : fault.status? = none) : fault.Writable := by
  rintro issues rfl
  cases h

theorem Fault.printable_of_status? {fault : Fault} (h : fault.status? = none) (limit : Nat) :
    fault.Printable limit := by
  rintro issues rfl
  cases h

/-! ## The administration -/

theorem project_stops {entry : Entry} {fault : Fault} (h : entry.project = .error fault) :
    ∃ model issues, fault = .invalidRecord model issues := by
  unfold Entry.project Projection.ofValues Projection.orFault at h
  split at h
  next => cases h
  next => exact ⟨_, _, (Except.error.inj h).symm⟩

theorem mapM_project_stops {entries : List Entry} {fault : Fault}
    (h : entries.mapM Entry.project = .error fault) :
    ∃ model issues, fault = .invalidRecord model issues := by
  induction entries with
  | nil => cases h
  | cons entry rest ih =>
    rw [List.mapM_cons] at h
    rcases bind_eq_error.mp h with first | ⟨_, -, others⟩
    · exact project_stops first
    · rcases bind_eq_error.mp others with others | ⟨_, -, done⟩
      · exact ih others
      · cases done

theorem removedName_stops {entry : Entry} {fault : Fault}
    (h : Management.removedName entry = .error fault) :
    ∃ model issues, fault = .invalidRecord model issues := by
  unfold Management.removedName at h
  split at h
  next => cases h
  next => exact ⟨_, _, (Except.error.inj h).symm⟩

theorem Database.placeFrom_stops {world after : World Database}
    (distinct : Database.DistinctIds world.store.working) {url : String} {position : Nat}
    {ids : List Int} {fault : Fault}
    (h : Run.on world ((Database.management url).placeFrom position ids) = (.error fault, after)) :
    fault = .integerTooLarge ∨ ∃ id ∈ ids, fault = Management.noSuchId id := by
  induction ids generalizing world position with
  | nil => cases h
  | cons id rest ih =>
    rw [Database.on_placeFrom_cons distinct] at h
    split at h
    next =>
      split at h
      next =>
        obtain ⟨⟨rfl⟩, -⟩ := Prod.mk.inj h
        exact .inr ⟨id, List.mem_cons_self, rfl⟩
      next =>
        split at h
        next =>
          rcases ih (Database.distinctIds_place distinct id position) h with
            large | ⟨other, mem, no⟩
          · exact .inl large
          · exact .inr ⟨other, List.mem_cons_of_mem id mem, no⟩
        next =>
          obtain ⟨⟨rfl⟩, -⟩ := Prod.mk.inj h
          exact .inl rfl
    next =>
      obtain ⟨⟨rfl⟩, -⟩ := Prod.mk.inj h
      exact .inl rfl

end ServiceRegistry
