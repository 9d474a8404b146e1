import Mathlib.Data.List.Induction
import ServiceRegistry.Schema

/-!
# The table over any steps

A database without the table comes, by any steps, to one of three states: without the table and its
index, or with both, by the columns of the revision or by those of the model. Which columns there
are decides whether a row can be inserted, so it is remembered with the steps: the table is that of
the revision exactly if an upgrade succeeded and no downgrade did after it.

Results:

* `Schema.Table.insert_of_filled`, `Schema.Table.insert_of_unfilled`: when a row can be inserted.
* `Schema.State`: the three states; `Schema.State.step`: they are never left.
* `Schema.Migrated`: the table was made by the revision.
* `Schema.steps_consistent`: what any steps lead to, and what the next step does then.
-/

namespace ServiceRegistry.Schema

/-! ## New rows -/

/-- Whether the database has a cell for a column in a new row: a given value, a default, the next
key, or null. -/
def Column.isFilled (values : List (String × Cell)) (column : Column) : Bool :=
  (values.lookup column.name).isSome || column.default.isSome || column.primaryKey ||
    column.nullable

theorem Table.newCell_of_filled (table : Table) {values : List (String × Cell)} {column : Column}
    (filled : column.isFilled values = true) : ∃ cell, table.newCell values column = .ok cell := by
  unfold Column.isFilled at filled
  unfold Table.newCell
  split
  · exact ⟨_, rfl⟩
  · exact ⟨_, rfl⟩
  · split_ifs
    · exact ⟨_, rfl⟩
    · exact ⟨_, rfl⟩
    · simp_all

theorem Table.newCell_of_unfilled (table : Table) {values : List (String × Cell)} {column : Column}
    (unfilled : column.isFilled values = false) :
    table.newCell values column = .error .integrity := by
  unfold Column.isFilled at unfilled
  simp only [Bool.or_eq_false_iff, Option.isSome_eq_false_iff, Option.isNone_iff_eq_none]
    at unfilled
  obtain ⟨⟨⟨absent, bare⟩, keyless⟩, required⟩ := unfilled
  simp [Table.newCell, absent, bare, keyless, required]

theorem Table.cells_of_filled (table : Table) {values : List (String × Cell)}
    {columns : List Column} (filled : columns.all (Column.isFilled values) = true) :
    ∃ row, row.length = columns.length ∧ columns.mapM (table.newCell values) = .ok row := by
  induction columns with
  | nil => exact ⟨[], rfl, rfl⟩
  | cons column rest ih =>
    obtain ⟨here, filled⟩ := (Bool.and_eq_true _ _).mp filled
    obtain ⟨cell, first⟩ := table.newCell_of_filled here
    obtain ⟨row, length, made⟩ := ih filled
    exact ⟨cell :: row, congrArg (· + 1) length, by rw [List.mapM_cons, first, made]; rfl⟩

theorem Table.cells_of_unfilled (table : Table) {values : List (String × Cell)}
    {columns : List Column} (unfilled : columns.all (Column.isFilled values) = false) :
    columns.mapM (table.newCell values) = .error .integrity := by
  induction columns with
  | nil => cases unfilled
  | cons column rest ih =>
    rw [List.mapM_cons]
    cases here : column.isFilled values with
    | false =>
      rw [table.newCell_of_unfilled here]
      rfl
    | true =>
      obtain ⟨cell, first⟩ := table.newCell_of_filled here
      rw [List.all_cons, here, Bool.true_and] at unfilled
      rw [first, ih unfilled]
      rfl

/-- A row can be inserted if every column has a cell. The new row has one for each of them. -/
theorem Table.insert_of_filled {table : Table} {values : List (String × Cell)}
    (filled : table.columns.all (Column.isFilled values) = true) :
    ∃ row, row.length = table.columns.length ∧
      table.insert values = .ok { table with rows := table.rows ++ [row] } := by
  obtain ⟨row, length, made⟩ := table.cells_of_filled filled
  exact ⟨row, length, by rw [Table.insert, made]; rfl⟩

/-- A row without a cell for some column is refused. -/
theorem Table.insert_of_unfilled {table : Table} {values : List (String × Cell)}
    (unfilled : table.columns.all (Column.isFilled values) = false) :
    table.insert values = .error .integrity := by
  rw [Table.insert, table.cells_of_unfilled unfilled]
  rfl

/-! ## States -/

/-- The states of a database: without the table, with that of the revision, or with that of the
model. -/
inductive State : Database → Prop
  | absent : State .empty
  | migrated (rows : List (List Cell)) : State ⟨some ⟨revisionColumns, rows⟩, [orderIndex]⟩
  | mapped (rows : List (List Cell)) : State ⟨some ⟨modelColumns, rows⟩, [orderIndex]⟩

/-- The two tables are different. -/
@[simp] theorem modelColumns_ne : modelColumns ≠ revisionColumns := by decide +kernel

namespace Database

/-- The rows of the table; without the table there are none. -/
def rows (database : Database) : List (List Cell) :=
  (database.table.map Table.rows).getD []

/-- The columns of the table, if it exists. -/
def columns? (database : Database) : Option (List Column) :=
  database.table.map Table.columns

@[simp] theorem table_empty : empty.table = none := rfl

@[simp] theorem columns?_empty : empty.columns? = none := rfl

@[simp] theorem columns?_mk (table : Table) (indexes : List Index) :
    columns? ⟨some table, indexes⟩ = some table.columns := rfl

@[simp] theorem step_upgrade_absent :
    empty.step .upgrade = (none, ⟨some ⟨revisionColumns, []⟩, [orderIndex]⟩) := rfl

@[simp] theorem step_upgrade_present (table : Table) (indexes : List Index) :
    step ⟨some table, indexes⟩ .upgrade = (some .operational, ⟨some table, indexes⟩) := rfl

@[simp] theorem step_downgrade_absent :
    empty.step .downgrade = (some .operational, empty) := rfl

@[simp] theorem step_downgrade_present (table : Table) :
    step ⟨some table, [orderIndex]⟩ .downgrade = (none, empty) := rfl

@[simp] theorem step_metadata_absent :
    empty.step .metadata = (none, ⟨some ⟨modelColumns, []⟩, [orderIndex]⟩) := rfl

@[simp] theorem step_metadata_present (table : Table) (indexes : List Index) :
    step ⟨some table, indexes⟩ .metadata = (none, ⟨some table, indexes⟩) := rfl

@[simp] theorem step_insert_absent (serviceId name : String) :
    empty.step (.insert serviceId name) = (some .operational, empty) := rfl

/-- The revision has a default for every column that is not given and must not be null. -/
theorem step_insert_migrated (rows : List (List Cell)) (serviceId name : String) :
    ∃ row, row.length = revisionColumns.length ∧
      step ⟨some ⟨revisionColumns, rows⟩, [orderIndex]⟩ (.insert serviceId name) =
        (none, ⟨some ⟨revisionColumns, rows ++ [row]⟩, [orderIndex]⟩) := by
  have filled : (⟨revisionColumns, rows⟩ : Table).columns.all
      (Column.isFilled [("service_id", .text serviceId), ("name", .text name)]) = true := rfl
  obtain ⟨row, length, inserted⟩ := Table.insert_of_filled filled
  refine ⟨row, length, ?_⟩
  simp only [step, statements, run, execute, inserted]
  rfl

/-- The model has none. -/
@[simp] theorem step_insert_mapped (rows : List (List Cell)) (serviceId name : String) :
    step ⟨some ⟨modelColumns, rows⟩, [orderIndex]⟩ (.insert serviceId name) =
      (some .integrity, ⟨some ⟨modelColumns, rows⟩, [orderIndex]⟩) := by
  have unfilled : (⟨modelColumns, rows⟩ : Table).columns.all
      (Column.isFilled [("service_id", .text serviceId), ("name", .text name)]) = false := rfl
  have refused := Table.insert_of_unfilled unfilled
  simp only [step, statements, run, execute, refused]
  rfl

end Database

namespace State

open Database (empty)

variable {database : Database}

/-- A step fails and changes nothing, or it comes to its end in one of the states. Only a downgrade
drops rows. -/
theorem step_cases (state : State database) (step : Step) :
    (∃ fault, database.step step = (some fault, database)) ∨
    ∃ next, database.step step = (none, next) ∧ State next ∧
      (step = .downgrade ∨ database.rows <+: next.rows) := by
  cases state with
  | absent =>
    cases step with
    | upgrade => exact .inr ⟨_, rfl, .migrated [], .inr List.prefix_rfl⟩
    | downgrade => exact .inl ⟨_, rfl⟩
    | metadata => exact .inr ⟨_, rfl, .mapped [], .inr List.prefix_rfl⟩
    | insert serviceId name => exact .inl ⟨_, rfl⟩
  | migrated rows =>
    cases step with
    | upgrade => exact .inl ⟨_, rfl⟩
    | downgrade => exact .inr ⟨_, rfl, .absent, .inl rfl⟩
    | metadata => exact .inr ⟨_, rfl, .migrated rows, .inr List.prefix_rfl⟩
    | insert serviceId name =>
      obtain ⟨row, -, inserted⟩ := Database.step_insert_migrated rows serviceId name
      exact .inr ⟨_, inserted, .migrated _, .inr (List.prefix_append rows [row])⟩
  | mapped rows =>
    cases step with
    | upgrade => exact .inl ⟨_, rfl⟩
    | downgrade => exact .inr ⟨_, rfl, .absent, .inl rfl⟩
    | metadata => exact .inr ⟨_, rfl, .mapped rows, .inr List.prefix_rfl⟩
    | insert serviceId name =>
      exact .inl ⟨_, Database.step_insert_mapped rows serviceId name⟩

theorem step (state : State database) (step : Step) : State (database.step step).2 := by
  obtain ⟨fault, ends⟩ | ⟨next, ends, reached, -⟩ := state.step_cases step
  · rwa [ends]
  · rwa [ends]

theorem after (state : State database) (steps : List Step) : State (database.after steps) := by
  induction steps generalizing database with
  | nil => exact state
  | cons step rest ih => exact ih (state.step step)

end State

/-! ## Histories -/

/-- The step succeeds after the steps before it. -/
def Succeeds (before : List Step) (step : Step) : Prop :=
  ((Database.empty.after before).step step).1 = none

/-- Some upgrade succeeded, and no downgrade did after it. -/
def Migrated (steps : List Step) : Prop :=
  ∃ before rest, steps = before ++ .upgrade :: rest ∧ Succeeds before .upgrade ∧
    ∀ between last, rest = between ++ .downgrade :: last →
      ¬ Succeeds (before ++ .upgrade :: between) .downgrade

theorem Database.after_concat (database : Database) (steps : List Step) (step : Step) :
    database.after (steps ++ [step]) = ((database.after steps).step step).2 :=
  List.foldl_append

theorem migrated_concat (steps : List Step) (step : Step) :
    Migrated (steps ++ [step]) ↔
      step = .upgrade ∧ Succeeds steps .upgrade ∨
      Migrated steps ∧ ¬ (step = .downgrade ∧ Succeeds steps .downgrade) := by
  constructor
  · rintro ⟨before, rest, split, succeeds, stays⟩
    -- The last step is the upgrade itself, or it comes after it.
    rcases List.eq_nil_or_concat rest with rfl | ⟨rest, last, rfl⟩
    · obtain ⟨rfl, ends⟩ := List.append_inj' split rfl
      exact .inl ⟨List.singleton_inj.mp ends, succeeds⟩
    · rw [List.concat_eq_append, ← List.cons_append, ← List.append_assoc] at split
      obtain ⟨rfl, ends⟩ := List.append_inj' split rfl
      obtain rfl := List.singleton_inj.mp ends
      refine .inr ⟨⟨before, rest, rfl, succeeds, fun between last same => ?_⟩, ?_⟩
      · exact stays between (last ++ [step]) (by simp [same])
      · rintro ⟨rfl, dropped⟩
        exact stays rest [] (by simp) dropped
  · rintro (⟨rfl, succeeds⟩ | ⟨⟨before, rest, rfl, succeeds, stays⟩, kept⟩)
    · exact ⟨steps, [], rfl, succeeds, by simp⟩
    · refine ⟨before, rest ++ [step], by simp, succeeds, fun between last split => ?_⟩
      rcases List.eq_nil_or_concat last with rfl | ⟨last, final, rfl⟩
      · obtain ⟨rfl, ends⟩ := List.append_inj' split rfl
        exact fun dropped => kept ⟨List.singleton_inj.mp ends, dropped⟩
      · rw [List.concat_eq_append, ← List.cons_append, ← List.append_assoc] at split
        exact stays between last (List.append_inj' split rfl).1

/-- The history tells of which table the columns are. -/
theorem migrated_iff (steps : List Step) :
    Migrated steps ↔ (Database.empty.after steps).columns? = some revisionColumns := by
  induction steps using List.reverseRecOn with
  | nil =>
    refine ⟨?_, nofun⟩
    rintro ⟨before, rest, split, -⟩
    simp at split
  | append_singleton steps step ih =>
    rw [migrated_concat, ih, Database.after_concat, Succeeds, Succeeds]
    have state := State.absent.after steps
    generalize Database.empty.after steps = database at state
    cases state with
    | absent => cases step <;> simp
    | migrated rows =>
      cases step with
      | insert serviceId name =>
        obtain ⟨row, -, inserted⟩ := Database.step_insert_migrated rows serviceId name
        simp [inserted]
      | _ => simp
    | mapped rows => cases step <;> simp

/-! ## Any steps -/

/-- What is true of the database after some steps, and of the next step. The index exists exactly
with the table. A step that fails changes nothing. Which steps fail is told by the table and its
history. Rows stay unless a downgrade succeeds. -/
structure Consistent (steps : List Step) (database : Database) : Prop where
  together : database.indexes = if database.table.isSome then [orderIndex] else []
  unchanged : ∀ step, (database.step step).1 ≠ none → (database.step step).2 = database
  upgrade : (database.step .upgrade).1 ≠ none ↔ database.table ≠ none
  downgrade : (database.step .downgrade).1 ≠ none ↔ database.table = none
  metadata : (database.step .metadata).1 = none ∧
    (database.table ≠ none → (database.step .metadata).2 = database)
  insert : ∀ serviceId name, (database.step (.insert serviceId name)).1 = none ↔
    database.table ≠ none ∧ Migrated steps
  kept : ∀ step, (step = .downgrade → (database.step step).1 ≠ none) →
    database.rows <+: (database.step step).2.rows

/-- A database without the table is consistent after any steps. -/
theorem steps_consistent (steps : List Step) :
    Consistent steps (Database.empty.after steps) := by
  have state := State.absent.after steps
  have history := migrated_iff steps
  generalize Database.empty.after steps = database at state history
  constructor
  case together => cases state <;> rfl
  case unchanged =>
    intro step fails
    obtain ⟨fault, ends⟩ | ⟨next, ends, -⟩ := state.step_cases step
    · rw [ends]
    · exact absurd (congrArg Prod.fst ends) fails
  case upgrade => cases state <;> simp
  case downgrade => cases state <;> simp
  case metadata => cases state <;> simp
  case insert =>
    intro serviceId name
    rw [history]
    cases state with
    | absent => simp
    | migrated rows =>
      obtain ⟨row, -, inserted⟩ := Database.step_insert_migrated rows serviceId name
      simp [inserted]
    | mapped rows => simp
  case kept =>
    intro step stays
    obtain ⟨fault, ends⟩ | ⟨next, ends, -, rfl | grows⟩ := state.step_cases step
    · simp [ends]
    · exact absurd (congrArg Prod.fst ends) (stays rfl)
    · rwa [ends]

/-- The table of the model takes no row, also after an upgrade that fails. -/
example : ((Database.empty.after [.metadata, .upgrade]).step (.insert "s" "n")).1 =
    some .integrity := by
  decide +kernel

end ServiceRegistry.Schema
