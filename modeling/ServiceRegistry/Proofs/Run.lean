import ServiceRegistry.Registry.Basic

/-!
# Operations on a world, evaluated

`Run.on world operation` is a pair of a result and a world. The equations below compute it for
every way in which operations are put together, so that later proofs never open the monad.

Results:

* `bind_eq_ok`, `bind_eq_error`: results one after the other, taken apart.
* `errors`, `Unnoticed`: the errors in a log, and worlds with the same errors and events.
* `Run.on_bind`, `Run.on_tryCatch`: an operation that stops ends the sequence, with the changes
  made so far.
* `Run.on_attempt`: an attempt never stops.
-/

namespace ServiceRegistry

/-! ## Results -/

section Results

variable {ε α β : Type}

theorem bind_eq_ok {first : Except ε α} {next : α → Except ε β} {b : β} :
    first >>= next = .ok b ↔ ∃ a, first = .ok a ∧ next a = .ok b := by
  cases first with
  | error e =>
    constructor
    · intro h
      cases h
    · rintro ⟨_, h, -⟩
      cases h
  | ok a =>
    constructor
    · intro h
      exact ⟨a, rfl, h⟩
    · rintro ⟨_, ⟨⟩, h⟩
      exact h

theorem bind_eq_error {first : Except ε α} {next : α → Except ε β} {e : ε} :
    first >>= next = .error e ↔ first = .error e ∨ ∃ a, first = .ok a ∧ next a = .error e := by
  cases first with
  | error e' =>
    constructor
    · rintro ⟨⟩
      exact .inl rfl
    · rintro (⟨⟨⟩⟩ | ⟨_, h, -⟩)
      · rfl
      · cases h
  | ok a =>
    constructor
    · intro h
      exact .inr ⟨a, rfl, h⟩
    · rintro (h | ⟨_, ⟨⟩, h⟩)
      · cases h
      · exact h

theorem map_eq_error {f : α → β} {result : Except ε α} {e : ε} :
    result.map f = .error e ↔ result = .error e := by
  cases result <;> simp [Except.map]

end Results

/-! ## What is left in a world -/

/-- The records of errors. -/
def errors (log : List LogRecord) : List LogRecord :=
  log.filter (·.level = .error)

@[simp] theorem errors_nil : errors [] = [] := rfl

@[simp] theorem errors_append (log more : List LogRecord) :
    errors (log ++ more) = errors log ++ errors more :=
  List.filter_append log more

section Worlds

variable {σ : Type}

/-- Two worlds with the same errors in their logs and the same events. -/
structure Unnoticed (before after : World σ) : Prop where
  errors : errors after.log = errors before.log
  events : after.events = before.events

theorem Unnoticed.refl (world : World σ) : Unnoticed world world :=
  ⟨rfl, rfl⟩

theorem Unnoticed.trans {a b c : World σ} (first : Unnoticed a b) (second : Unnoticed b c) :
    Unnoticed a c :=
  ⟨second.errors.trans first.errors, second.events.trans first.events⟩

end Worlds

namespace Run

variable {σ α β : Type}

@[simp] theorem on_pure (world : World σ) (a : α) :
    on world (pure a : Run σ α) = (.ok a, world) := rfl

@[simp] theorem on_throw (world : World σ) (fault : Fault) :
    on world (throw fault : Run σ α) = (.error fault, world) := rfl

@[simp] theorem on_bind (world : World σ) (first : Run σ α) (next : α → Run σ β) :
    on world (first >>= next) =
      match on world first with
      | (.ok a, world) => on world (next a)
      | (.error fault, world) => (.error fault, world) := by
  simp only [on, ExceptT.run_bind, StateT.run_bind]
  rcases StateT.run (ExceptT.run first) world with ⟨_ | _, _⟩ <;> rfl

@[simp] theorem on_map (world : World σ) (f : α → β) (operation : Run σ α) :
    on world (f <$> operation) =
      match on world operation with
      | (.ok a, world) => (.ok (f a), world)
      | (.error fault, world) => (.error fault, world) := by
  rw [← bind_pure_comp, on_bind]
  rfl

theorem on_tryCatch (world : World σ) (operation : Run σ α) (handler : Fault → Run σ α) :
    on world (tryCatch operation handler) =
      match on world operation with
      | (.ok a, world) => (.ok a, world)
      | (.error fault, world) => on world (handler fault) := by
  unfold on ExceptT.run StateT.run
  simp only [tryCatch, tryCatchThe, MonadExceptOf.tryCatch, ExceptT.tryCatch, ExceptT.mk, bind,
    StateT.bind]
  rcases operation world with ⟨_ | _, _⟩ <;> rfl

@[simp] theorem on_attempt (world : World σ) (operation : Run σ α) :
    on world (attempt operation) = (.ok (on world operation).1, (on world operation).2) := by
  unfold attempt
  rw [on_tryCatch, on_map]
  rcases on world operation with ⟨_ | _, _⟩ <;> rfl

@[simp] theorem on_lift (world : World σ) (result : Except Fault α) :
    on world (lift result) = (result, world) := by
  cases result <;> rfl

@[simp] theorem on_store (world : World σ) : on world store = (.ok world.store, world) := rfl

@[simp] theorem on_setStore (world : World σ) (s : σ) :
    on world (setStore s) = (.ok (), { world with store := s }) := rfl

@[simp] theorem on_log (world : World σ) (record : LogRecord) :
    on world (log record) = (.ok (), { world with log := world.log ++ [record] }) := rfl

@[simp] theorem on_record (world : World σ) (dataset : String) (event : Json) :
    on world (record dataset event) =
      (.ok (), { world with events := world.events ++ [(dataset, event)] }) := rfl

end Run

end ServiceRegistry
