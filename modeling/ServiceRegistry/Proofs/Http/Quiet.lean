import ServiceRegistry.Proofs.Http.Address
import ServiceRegistry.Proofs.Http.Submission
import ServiceRegistry.Registry.Database
import ServiceRegistry.Registry.Memory

/-!
# What the application leaves to the layers around it

The application logs no error and records no event. It stops with a fault, and the layers around
it say what becomes of that. This does not depend on where the entries are kept.

Results:

* `Run.Quiet`: an operation that goes unnoticed and stops with expected faults only.
* `Backend`, `Backend.quiet`: the two registries, whose requests are quiet.
* `dispatch_quiet`: the application of a quiet registry is quiet, and no reply of it is an error.
-/

namespace ServiceRegistry

open Run (on)

variable {σ α β : Type}

/-! ## Operations -/

/-- An operation that goes unnoticed, whose results are good and whose faults are expected. -/
def Run.Quiet (expected : Fault → Prop) (good : α → Prop) (operation : Run σ α) : Prop :=
  ∀ world, Unnoticed world (on world operation).2 ∧
    match (on world operation).1 with
    | .ok a => good a
    | .error fault => expected fault

namespace Run

variable {expected : Fault → Prop} {good : α → Prop}

theorem quiet_pure {a : α} (h : good a) : Quiet expected good (pure a : Run σ α) :=
  fun world => ⟨.refl world, h⟩

theorem quiet_throw {fault : Fault} (h : expected fault) :
    Quiet expected good (throw fault : Run σ α) :=
  fun world => ⟨.refl world, h⟩

theorem quiet_bind {middle : α → Prop} {good : β → Prop} {first : Run σ α} {next : α → Run σ β}
    (h : Quiet expected middle first) (h' : ∀ a, middle a → Quiet expected good (next a)) :
    Quiet expected good (first >>= next) := by
  intro world
  rw [on_bind]
  have ends := h world
  generalize on world first = result at ends
  obtain ⟨unnoticed, ends⟩ := ends
  rcases result with ⟨fault | a, after⟩
  · exact ⟨unnoticed, ends⟩
  · obtain ⟨unnoticed', ends'⟩ := h' a ends after
    exact ⟨unnoticed.trans unnoticed', ends'⟩

/-- A quiet operation is quiet where more faults are expected. -/
theorem Quiet.mono {expected' : Fault → Prop} {operation : Run σ α}
    (h : Quiet expected good operation) (more : ∀ fault, expected fault → expected' fault) :
    Quiet expected' good operation := by
  intro world
  have ends := h world
  generalize on world operation = result at ends ⊢
  rcases result with ⟨fault | a, after⟩
  · exact ⟨ends.1, more fault ends.2⟩
  · exact ends

theorem quiet_lift {result : Except Fault α} (ok : ∀ a, result = .ok a → good a)
    (error : ∀ fault, result = .error fault → expected fault) :
    Quiet expected good (lift result : Run σ α) := by
  cases result with
  | ok a => exact quiet_pure (ok a rfl)
  | error fault => exact quiet_throw (error fault rfl)

theorem quiet_store : Quiet expected (fun _ => True) (store : Run σ σ) :=
  fun world => ⟨.refl world, trivial⟩

theorem quiet_setStore (s : σ) : Quiet expected (fun _ => True) (setStore s) :=
  fun _ => ⟨⟨rfl, rfl⟩, trivial⟩

theorem quiet_log {record : LogRecord} (h : record.level ≠ .error) :
    Quiet expected (fun _ => True) (log record : Run σ Unit) := by
  intro world
  have none : errors [record] = [] := List.filter_eq_nil_iff.mpr (by simpa using h)
  exact ⟨⟨by simp [none], rfl⟩, trivial⟩

end Run

/-! ## Registries -/

/-- A registry all of whose requests are quiet. -/
structure Registry.Quiet (registry : Registry σ) : Prop where
  listing : Run.Quiet Fault.Ordinary (fun _ => True) registry.listing
  find : ∀ id, Run.Quiet Fault.Ordinary (fun _ => True) (registry.find id)
  register : ∀ pattern name,
    Run.Quiet Fault.Ordinary (fun _ => True) (registry.register pattern name)
  place : ∀ entry position, Run.Quiet Fault.Ordinary (fun _ => True) (registry.place entry position)
  remove : ∀ id, Run.Quiet Fault.Ordinary (fun _ => True) (registry.remove id)
  admits : ∀ url, Run.Quiet Fault.Ordinary (fun _ => True) (registry.admits url)
  commit : Run.Quiet Fault.Ordinary (fun _ => True) registry.commit

section Registries

theorem quiet_anyAdmits (address : String) (entries : List Entry) :
    Run.Quiet Fault.Ordinary (fun _ => True)
      (Run.lift (anyAdmits address entries) : Run σ Bool) := by
  refine Run.quiet_lift (fun _ _ => trivial) fun fault stops => ?_
  obtain ⟨cause, rfl⟩ := anyAdmits_stops stops
  trivial

theorem Database.quiet_storable (n : Int) :
    Run.Quiet Fault.Ordinary (fun _ => True)
      (Run.lift ((storable n).map fun _ => ()) : Run σ Unit) := by
  refine Run.quiet_lift (fun _ _ => trivial) fun fault stops => ?_
  rw [map_eq_error, storable] at stops
  split_ifs at stops
  obtain rfl := Except.error.inj stops
  trivial

theorem Database.quiet_rows : Run.Quiet Fault.Ordinary (fun _ => True) rows :=
  fun world => ⟨.refl world, trivial⟩

theorem Database.quiet_setRows (rows : List Entry) :
    Run.Quiet Fault.Ordinary (fun _ => True) (setRows rows) :=
  fun _ => ⟨⟨rfl, rfl⟩, trivial⟩

theorem Database.quiet_findRow (id : Int) : Run.Quiet Fault.Ordinary (fun _ => True) (findRow id) :=
  Run.quiet_bind (quiet_storable id) fun _ _ =>
    Run.quiet_bind quiet_rows fun _ _ => Run.quiet_pure trivial

theorem Database.registry_quiet : Database.registry.Quiet where
  listing := Run.quiet_bind quiet_rows fun _ _ => Run.quiet_pure trivial
  find := quiet_findRow
  register _ _ := Run.quiet_bind quiet_rows fun _ _ => quiet_setRows _
  place _ position := Run.quiet_bind (quiet_storable position) fun _ _ =>
    Run.quiet_bind quiet_rows fun _ _ => quiet_setRows _
  remove id := Run.quiet_bind (quiet_findRow id) fun _ _ => Run.quiet_bind quiet_rows fun _ _ =>
    Run.quiet_bind (quiet_setRows _) fun _ _ => Run.quiet_pure trivial
  admits url := Run.quiet_bind quiet_rows fun _ _ => quiet_anyAdmits url _
  commit := Run.quiet_bind Run.quiet_store fun _ _ => Run.quiet_setStore _

theorem Memory.registry_quiet : Memory.registry.Quiet where
  listing := Run.quiet_bind Run.quiet_store fun _ _ => Run.quiet_pure trivial
  find _ := Run.quiet_bind Run.quiet_store fun _ _ => Run.quiet_pure trivial
  register _ _ := Run.quiet_bind Run.quiet_store fun _ _ => Run.quiet_setStore _
  place entry _ := by
    refine Run.quiet_bind Run.quiet_store fun memory _ =>
      Run.quiet_bind (Run.quiet_setStore _) fun _ _ => ?_
    dsimp only
    split_ifs
    · have refused : Run.Quiet Fault.Ordinary (fun _ => True)
          (throw .registryUnavailable : Run Memory Unit) :=
        Run.quiet_throw trivial
      exact Run.quiet_bind refused fun _ _ => Run.quiet_setStore _
    · exact Run.quiet_setStore _
  remove _ := Run.quiet_bind Run.quiet_store fun _ _ =>
    Run.quiet_bind (Run.quiet_setStore _) fun _ _ => Run.quiet_pure trivial
  admits url := Run.quiet_bind Run.quiet_store fun _ _ => quiet_anyAdmits url _
  commit := Run.quiet_pure trivial

end Registries

/-- Where the entries may be kept: in a database, or in memory with any faults. -/
inductive Backend
  | database
  | memory
  deriving Repr, DecidableEq

namespace Backend

/-- What is kept. -/
abbrev Store : Backend → Type
  | .database => Database
  | .memory => Memory

/-- The requests to what is kept. -/
def registry : (backend : Backend) → Registry backend.Store
  | .database => Database.registry
  | .memory => Memory.registry

theorem quiet (backend : Backend) : backend.registry.Quiet := by
  cases backend with
  | database => exact Database.registry_quiet
  | memory => exact Memory.registry_quiet

end Backend

/-! ## The administration -/

namespace Management

variable {management : Management σ}

theorem quiet_ensureDefault (quiet : management.registry.Quiet) :
    Run.Quiet Fault.Ordinary (fun _ => True) management.ensureDefault := by
  refine Run.quiet_bind quiet.listing fun entries _ => ?_
  cases entries with
  | none => exact Run.quiet_throw trivial
  | some entries =>
    refine Run.quiet_bind (quiet.admits _) fun admits _ => ?_
    split_ifs
    · exact Run.quiet_bind (Run.quiet_log (by simp)) fun _ _ => quiet.register _ _
    · exact Run.quiet_pure trivial

theorem quiet_delete (quiet : management.registry.Quiet) (id : Int) :
    Run.Quiet Fault.Ordinary (fun _ => True) (management.delete id) := by
  refine Run.quiet_bind (quiet.remove id) fun found _ => ?_
  cases found with
  | none => exact Run.quiet_throw trivial
  | some entry =>
    refine Run.quiet_bind (quiet_ensureDefault quiet) fun _ _ =>
      Run.quiet_lift (fun _ _ => trivial) fun fault stops => ?_
    obtain ⟨model, issues, rfl⟩ := removedName_stops stops
    trivial

theorem quiet_list (quiet : management.registry.Quiet) :
    Run.Quiet Fault.Ordinary (fun _ => True) management.list := by
  refine Run.quiet_bind (quiet_ensureDefault quiet) fun _ _ =>
    Run.quiet_bind quiet.listing fun entries _ =>
      Run.quiet_lift (fun _ _ => trivial) fun fault stops => ?_
  obtain ⟨model, issues, rfl⟩ := mapM_project_stops stops
  trivial

theorem quiet_placeFrom (quiet : management.registry.Quiet) (position : Nat)
    (ids : List Int) :
    Run.Quiet Fault.Ordinary (fun _ => True) (management.placeFrom position ids) := by
  induction ids generalizing position with
  | nil => exact Run.quiet_pure trivial
  | cons id rest ih =>
    refine Run.quiet_bind (quiet.find id) fun found _ => ?_
    cases found with
    | none => exact Run.quiet_throw trivial
    | some entry => exact Run.quiet_bind (quiet.place _ _) fun _ _ => ih (position + 1)

theorem quiet_reorder (quiet : management.registry.Quiet) (ids : Option (List Int)) :
    Run.Quiet Fault.Ordinary (fun _ => True) (management.reorder ids) := by
  match ids with
  | none => exact Run.quiet_throw trivial
  | some [] => exact Run.quiet_throw trivial
  | some (id :: rest) => exact quiet_placeFrom quiet 0 (id :: rest)

end Management

/-! ## The application -/

namespace Http.Application

variable {platform : Form.Platform} {management : Management σ} {request : Request}
  {expected : Fault → Prop}

/-- A response that is no error. -/
def Succeeds (response : Response) : Prop :=
  response.status < 400

theorem succeeds_ok {response : Response} (h : response.status = 200) : Succeeds response := by
  unfold Succeeds
  omega

theorem quiet_plain {operation : Run σ Response} (h : Run.Quiet expected Succeeds operation) :
    Run.Quiet expected (fun reply => Succeeds reply.response) do return plain (← operation) :=
  Run.quiet_bind h fun _ success => Run.quiet_pure success

theorem render_eq_ok {view : View} {response : Response} (h : view.render = .ok response) :
    Succeeds response := by
  unfold View.render at h
  cases shown : view.page with
  | error fault =>
    rw [shown] at h
    cases h
  | ok text =>
    rw [shown] at h
    obtain rfl := Except.ok.inj h
    exact succeeds_ok rfl

/-- A view that has a page is shown. -/
theorem quiet_render {view : View} (known : ∃ text, view.page = .ok text) :
    Run.Quiet expected Succeeds (Run.lift view.render : Run σ Response) := by
  obtain ⟨text, shown⟩ := known
  refine Run.quiet_lift (fun _ => render_eq_ok) fun fault stops => ?_
  rw [View.render, shown] at stops
  cases stops

variable (quiet : management.registry.Quiet)
include quiet

theorem quiet_delete (asks : request.Asks "POST" .delete) :
    Run.Quiet (Foreseen platform request) Succeeds (delete platform management request) := by
  have submitted : Run.Quiet (Foreseen platform request) (fun _ => True)
      (Run.lift (request.submittedId platform) : Run σ Int) :=
    Run.quiet_lift (fun _ _ => trivial) fun fault stops => Request.submittedId_foreseen asks stops
  exact Run.quiet_bind submitted fun id _ =>
    Run.quiet_bind ((Management.quiet_delete quiet id).mono fun _ => .of_ordinary) fun name _ =>
      Run.quiet_bind (quiet.commit.mono fun _ => .of_ordinary) fun _ _ =>
        Run.quiet_pure (succeeds_ok rfl)

theorem quiet_reorder (asks : request.Asks "POST" .reorder) :
    Run.Quiet (Foreseen platform request) Succeeds (reorder platform management request) := by
  have submitted : Run.Quiet (Foreseen platform request) (fun _ => True)
      (Run.lift (request.submittedIds platform) : Run σ (Option (List Int))) :=
    Run.quiet_lift (fun _ _ => trivial) fun fault stops => Request.submittedIds_foreseen asks stops
  exact Run.quiet_bind submitted fun ids _ =>
    Run.quiet_bind ((Management.quiet_reorder quiet ids).mono fun _ => .of_ordinary) fun _ _ =>
      Run.quiet_bind (quiet.commit.mono fun _ => .of_ordinary) fun _ _ =>
        Run.quiet_pure (succeeds_ok rfl)

theorem quiet_manage : Run.Quiet Fault.Ordinary Succeeds (manage management) := by
  have viewed : Run.Quiet Fault.Ordinary (· = .manage management.defaultUrl)
      management.manageView :=
    Run.quiet_bind (Management.quiet_ensureDefault quiet) fun _ _ => Run.quiet_pure rfl
  refine Run.quiet_bind viewed ?_
  rintro _ rfl
  exact Run.quiet_bind quiet.commit fun _ _ => quiet_render ⟨_, rfl⟩

theorem quiet_listing : Run.Quiet Fault.Ordinary Succeeds (listing management) :=
  Run.quiet_bind (Management.quiet_list quiet) fun _ _ =>
    Run.quiet_bind quiet.commit fun _ _ => Run.quiet_pure (succeeds_ok rfl)

theorem quiet_serve {route : Route} (path : Route.ofPath? request.path = some route)
    (method : request.method ∈ route.methods) :
    Run.Quiet (Foreseen platform request) (fun reply => Succeeds reply.response)
      (serve platform management request route) := by
  cases route with
  | health => exact Run.quiet_pure (succeeds_ok rfl)
  | documentation => exact Run.quiet_pure (succeeds_ok rfl)
  | authorizationFailure => exact quiet_plain (quiet_render ⟨_, rfl⟩)
  | logout =>
    have viewed : Run.Quiet (Foreseen platform request) (· = .logout)
        (Management.logoutView : Run σ View) :=
      Run.quiet_bind (Run.quiet_log (by simp)) fun _ _ => Run.quiet_pure rfl
    refine Run.quiet_bind viewed ?_
    rintro _ rfl
    exact Run.quiet_bind (quiet_render ⟨_, rfl⟩) fun _ success => Run.quiet_pure success
  | delete => exact quiet_plain (quiet_delete quiet ⟨List.mem_singleton.mp method, path⟩)
  | manage => exact quiet_plain ((quiet_manage quiet).mono fun _ => .of_ordinary)
  | listing => exact quiet_plain ((quiet_listing quiet).mono fun _ => .of_ordinary)
  | reorder => exact quiet_plain (quiet_reorder quiet ⟨List.mem_singleton.mp method, path⟩)

/-- The application of a quiet registry is quiet. It refuses what no route allows, and none of its
replies is an error. -/
theorem dispatch_quiet (platform : Form.Platform) (request : Request) :
    Run.Quiet (Foreseen platform request) (fun reply => Succeeds reply.response)
      (dispatch platform management request) := by
  unfold dispatch
  cases path : Route.ofPath? request.path with
  | some route =>
    simp only
    split_ifs with method
    · exact quiet_serve quiet path (List.contains_iff_mem.mp method)
    · exact Run.quiet_throw (.of_refused (by decide) (by decide))
  | none =>
    simp only
    cases slashTwin? request.path with
    | some twin =>
      have located : Run.Quiet (Foreseen platform request) (fun _ => True)
          (Run.lift (request.location twin) : Run σ String) := by
        refine Run.quiet_lift (fun _ _ => trivial) fun fault stops => ?_
        obtain ⟨cause, rfl⟩ := Request.location_stops stops
        exact .of_ordinary trivial
      exact Run.quiet_bind located fun location _ => Run.quiet_pure (show 307 < 400 by decide)
    | none => exact Run.quiet_throw (.of_refused (by decide) (by decide))

end Http.Application

end ServiceRegistry
