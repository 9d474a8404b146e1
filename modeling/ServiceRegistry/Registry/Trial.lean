import ServiceRegistry.Registry.Management
import ServiceRegistry.Registry.Memory

/-!
# Trials of the administration

The administration is tried out over a registry in memory, which can be told between two operations
to fail from then on. An operation that stops leaves the changes made before it.

Results:

* `Trial.Step`: the steps.
* `Trial.take`, `Trial.Transition`: a step with its result and the registry before and after it.
* `Trial.run`: steps one after the other.
-/

namespace ServiceRegistry.Trial

/-- The steps of a trial: an operation, or other faults of the registry. -/
inductive Step
  | perform (operation : Management.Operation)
  | setFaults (returnsNone : Bool) (failsOn : Option Int)
  deriving Repr, DecidableEq

/-- A step that was taken. -/
structure Transition where
  before : Memory
  step : Step
  result : Except Fault Management.Answer
  after : Memory
  deriving Repr

/-- Takes a step. -/
def take (url : String) (memory : Memory) (step : Step) : Transition :=
  match step with
  | .perform operation =>
    let (result, world) := Run.on ⟨memory, [], []⟩
      ((⟨Memory.registry, url⟩ : Management Memory).perform operation)
    ⟨memory, step, result, world.store⟩
  | .setFaults returnsNone failsOn =>
    ⟨memory, step, .ok .nothing, memory.withFaults returnsNone failsOn⟩

/-- Takes steps one after the other. -/
def run (url : String) : Memory → List Step → List Transition
  | _, [] => []
  | memory, step :: rest =>
    let transition := take url memory step
    transition :: run url transition.after rest

end ServiceRegistry.Trial
