import Mathlib.Data.List.Infix
import ServiceRegistry.Proofs.Registry.Administration
import ServiceRegistry.Registry.Seed

/-!
# Seeds one after the other

Every step keeps the rows and appends others. So an entry that admits an address stays, and an
address that was seeded once is admitted ever after.

Results:

* `Seeding.perform_seed`: what a seed does to a table.
* `Seeding.rows_prefix_perform`, `Seeding.rows_prefix_after`: rows are only appended.
* `Seeding.Succeeded`: an address was seeded.
* `Seeding.seeding_accumulates`: what a seed does after any steps.
-/

namespace ServiceRegistry.Seeding

/-! ## One step -/

/-- Creating the table changes no rows. -/
theorem rows_create (table : Table) : table.create.rows = table.rows := by
  cases table <;> rfl

/-- A seed fails where the search for the address does, and changes nothing then. -/
theorem perform_seed (table : Table) (url : String) :
    perform table (.seed url) =
      match anyAdmits url (inListingOrder table.rows) with
      | .ok _ => (.ok (), some (Database.ensured url table.rows))
      | .error fault => (.error fault, some table.rows) := by
  simp only [perform, run, seed, Run.on_bind, Database.on_ensureDefault, Database.ofRows,
    rows_create]
  cases anyAdmits url (inListingOrder table.rows) with
  | error fault => rfl
  | ok result =>
    simp only [Database.on_commit, Run.on_log, Database.store_committed,
      Database.store_defaultEnsured, Database.rollback]

theorem insert_appends {rows after : List Entry} {draft : Draft} {row : Entry}
    (inserted : Database.insert rows draft = .ok (after, row)) : rows <+: after := by
  obtain ⟨new, -, inserted⟩ := bind_eq_ok.mp inserted
  obtain ⟨all, placed, ends⟩ := bind_eq_ok.mp inserted
  cases ends
  unfold Database.insertRow at placed
  split_ifs at placed
  cases placed
  exact List.prefix_append rows [row]

theorem insertAll_appends {rows after : List Entry} {drafts : List Draft}
    (inserted : Database.insertAll rows drafts = .ok after) : rows <+: after := by
  induction drafts generalizing rows with
  | nil =>
    cases inserted
    exact List.prefix_rfl
  | cons draft rest ih =>
    rw [Database.insertAll, List.foldlM_cons] at inserted
    obtain ⟨next, first, inserted⟩ := bind_eq_ok.mp inserted
    cases one : Database.insert rows draft with
    | error fault =>
      rw [one] at first
      cases first
    | ok result =>
      rw [one] at first
      cases first
      exact (insert_appends one).trans (ih inserted)

theorem ensured_appends (url : String) (rows : List Entry) :
    rows <+: Database.ensured url rows := by
  unfold Database.ensured
  split_ifs
  · exact List.prefix_rfl
  · exact List.prefix_append _ _

/-- A step keeps the rows, whether it fails or not. -/
theorem rows_prefix_perform (table : Table) (step : Step) :
    table.rows <+: (perform table step).2.rows := by
  cases step with
  | seed url =>
    rw [perform_seed]
    cases anyAdmits url (inListingOrder table.rows) with
    | error fault => exact List.prefix_rfl
    | ok result => exact ensured_appends url table.rows
  | insert drafts =>
    cases table with
    | none => exact List.prefix_rfl
    | some rows =>
      simp only [perform]
      cases inserted : Database.insertAll rows drafts with
      | error fault => exact List.prefix_rfl
      | ok after => exact insertAll_appends inserted

/-! ## Steps one after the other -/

theorem after_append (table : Table) (first second : List Step) :
    after table (first ++ second) = after (after table first) second :=
  List.foldl_append

theorem rows_prefix_after (table : Table) (steps : List Step) :
    table.rows <+: (after table steps).rows := by
  induction steps generalizing table with
  | nil => exact List.prefix_rfl
  | cons step rest ih => exact (rows_prefix_perform table step).trans (ih _)

/-- Some seed of the address succeeded among the steps, which start without a table. -/
def Succeeded (steps : List Step) (url : String) : Prop :=
  ∃ before rest, steps = before ++ .seed url :: rest ∧
    (perform (after none before) (.seed url)).1 = .ok ()

theorem rows_of_seed_ok {table : Table} {url : String}
    (succeeds : (perform table (.seed url)).1 = .ok ()) :
    (perform table (.seed url)).2 = some (Database.ensured url table.rows) := by
  rw [perform_seed] at succeeds ⊢
  cases search : anyAdmits url (inListingOrder table.rows) with
  | ok result => rfl
  | error fault =>
    rw [search] at succeeds
    cases succeeds

/-- An address that was seeded is admitted from then on. -/
theorem admitted_of_succeeded {steps : List Step} {url : String} (nonempty : url ≠ "")
    (succeeded : Succeeded steps url) : Admitted url (after none steps).rows := by
  obtain ⟨before, rest, rfl, succeeds⟩ := succeeded
  have kept := rows_prefix_after (perform (after none before) (.seed url)).2 rest
  obtain ⟨row, mem, admits⟩ : Admitted url (perform (after none before) (.seed url)).2.rows := by
    rw [rows_of_seed_ok succeeds]
    exact Database.admitted_ensured nonempty _
  rw [after_append]
  exact ⟨row, kept.subset mem, admits⟩

/-- After any steps a seed of an address that succeeds appends nothing if a row admits the address,
and one default row for it otherwise. One that fails changes no row, and the pattern of a row stops
it. If the address was seeded before, a row admits it, and the seed changes no row either way. -/
theorem seeding_accumulates (steps : List Step) {url : String} (nonempty : url ≠ "") :
    let table := after none steps
    let rows := table.rows
    let (result, next) := perform table (.seed url)
    (result = .ok () → Admitted url rows → next = some rows) ∧
    (result = .ok () → ¬ Admitted url rows → ∃ id ∉ rows.map Entry.id,
      next = some (rows ++ [newEntry id url Management.defaultName])) ∧
    (∀ fault, result = .error fault →
      next = some rows ∧ ∃ row ∈ rows, row.admits url = .error fault) ∧
    (Succeeded steps url → Admitted url rows ∧ next = some rows) := by
  intro table rows
  have known : Succeeded steps url → Admitted url rows := admitted_of_succeeded nonempty
  have ends := perform_seed table url
  obtain ⟨fault, row, mem, stops, search⟩ | ⟨admitted, search⟩ | ⟨refuses, search⟩ :=
    anyAdmits_cases url (inListingOrder table.rows)
  · rw [search] at ends
    rw [ends]
    refine ⟨nofun, nofun, ?_, fun succeeded => ⟨known succeeded, rfl⟩⟩
    rintro _ ⟨⟩
    exact ⟨rfl, row, mem_inListingOrder.mp mem, stops⟩
  · have admitted : Admitted url rows := admitted_inListingOrder.mp admitted
    have same : Database.ensured url table.rows = rows := if_pos admitted
    rw [search, same] at ends
    rw [ends]
    exact ⟨fun _ _ => rfl, fun _ free => absurd admitted free, nofun, fun _ => ⟨admitted, rfl⟩⟩
  · have free : ¬ Admitted url rows :=
      not_admitted_of_refuses fun row mem => refuses row (mem_inListingOrder.mpr mem)
    have grown : Database.ensured url table.rows = Database.withDefault url rows := if_neg free
    rw [search, grown] at ends
    rw [ends]
    exact ⟨fun _ admitted => absurd admitted free,
      fun _ _ => ⟨_, Database.nextId_not_mem rows, rfl⟩, nofun,
      fun succeeded => absurd (known succeeded) free⟩

/-- A seed of an address that was seeded before another one changes nothing, also when a row whose
pattern cannot be read is listed before both. -/
theorem seeding_accumulates_unreadable :
    let first : Draft :=
      [(.serviceId, .text "a\x7b4294967295\x7d"), (.name, .text "n"), (.evaluationOrder, .int (-1))]
    let steps : List Step := [.seed "u", .seed "v", .insert [first]]
    let rows := (after none steps).rows
    "u" ≠ "" ∧ Succeeded steps "u" ∧ rows.length = 3 ∧ Admitted "u" rows ∧
      (perform (after none steps) (.seed "u")).2 = some rows := by
  intro first steps rows
  have nonempty : "u" ≠ "" := by decide
  have succeeded : Succeeded steps "u" :=
    ⟨[], _, rfl, by simp [perform_seed, after, Table.rows, inListingOrder, anyAdmits]⟩
  obtain ⟨-, -, -, later⟩ := seeding_accumulates steps nonempty
  obtain ⟨admitted, kept⟩ := later succeeded
  exact ⟨nonempty, succeeded, by decide +kernel, admitted, kept⟩

end ServiceRegistry.Seeding
