import ServiceRegistry.Fault

/-!
# The table of the registry

The table can be created by the revision, which gives its columns defaults of their own, or from
the model, which gives none. A step is a list of statements, each of which may fail.

Results:

* `Schema.Database.execute`: the effect of one statement, or why it fails.
* `Schema.Database.step`: one step, with the statements before one that fails.
* `Schema.Database.after`: steps one after the other.
-/

namespace ServiceRegistry.Schema

/-- A value in a row. -/
inductive Cell
  | null
  | int (n : Int)
  | text (s : String)
  deriving Repr, DecidableEq

/-- A default that the database itself fills in. -/
inductive ServerDefault
  | zero
  | flag (b : Bool)
  | now
  deriving Repr, DecidableEq

/-- The expression of a default. -/
def ServerDefault.expression : ServerDefault → String
  | .zero => "'0'"
  | .flag true => "true"
  | .flag false => "false"
  | .now => "CURRENT_TIMESTAMP"

/-- The value of a default; the time has no fixed one. -/
def ServerDefault.cell : ServerDefault → Cell
  | .zero => .int 0
  | .flag true => .int 1
  | .flag false => .int 0
  | .now => .text "CURRENT_TIMESTAMP"

/-- A column. -/
structure Column where
  name : String
  kind : String
  nullable : Bool
  default : Option ServerDefault
  primaryKey : Bool
  deriving Repr, DecidableEq

/-- An index. -/
structure Index where
  name : String
  columns : List String
  unique : Bool
  deriving Repr, DecidableEq

/-- A table: its columns and its rows. -/
structure Table where
  columns : List Column
  rows : List (List Cell)
  deriving Repr, DecidableEq

/-- A database with at most the one table, and the indexes of the table. -/
structure Database where
  table : Option Table
  indexes : List Index
  deriving Repr, DecidableEq

/-- The name of the table. -/
def tableName : String := "registered_services"

/-- The name of the revision. -/
def revision : String := "a1b2c3d4e5f6"

/-- The columns up to the first that has a default in the revision. -/
def leadingColumns : List Column :=
  [⟨"id", "INTEGER", false, none, true⟩,
   ⟨"service_id", "VARCHAR(1024)", false, none, false⟩,
   ⟨"name", "VARCHAR(255)", false, none, false⟩,
   ⟨"description", "TEXT", true, none, false⟩,
   ⟨"theme", "VARCHAR(255)", true, none, false⟩]

/-- The columns of the revision. -/
def revisionColumns : List Column :=
  leadingColumns ++
  [⟨"evaluation_order", "INTEGER", false, some .zero, false⟩,
   ⟨"enabled", "BOOLEAN", false, some (.flag true), false⟩,
   ⟨"sso_enabled", "BOOLEAN", false, some (.flag true), false⟩,
   ⟨"allowed_to_proxy", "BOOLEAN", false, some (.flag false), false⟩,
   ⟨"anonymous_access", "BOOLEAN", false, some (.flag false), false⟩,
   ⟨"created_at", "DATETIME", true, some .now, false⟩,
   ⟨"updated_at", "DATETIME", true, some .now, false⟩]

/-- The columns of the model, which fills in all defaults itself. -/
def modelColumns : List Column :=
  leadingColumns ++
  [⟨"evaluation_order", "INTEGER", false, none, false⟩,
   ⟨"enabled", "BOOLEAN", false, none, false⟩,
   ⟨"sso_enabled", "BOOLEAN", false, none, false⟩,
   ⟨"allowed_to_proxy", "BOOLEAN", false, none, false⟩,
   ⟨"anonymous_access", "BOOLEAN", false, none, false⟩,
   ⟨"created_at", "DATETIME", false, none, false⟩,
   ⟨"updated_at", "DATETIME", false, none, false⟩]

/-- The index that the listing uses. -/
def orderIndex : Index :=
  ⟨"ix_registered_services_evaluation_order", ["evaluation_order"], false⟩

/-- The key of the next row: one more than the greatest, or one. -/
def Table.nextKey (table : Table) : Int :=
  table.rows.foldl
    (fun next row => match row.head? with
      | some (.int key) => max next (key + 1)
      | _ => next) 1

/-- The cell of a column in a new row: the given value, the default, or null where it is allowed. -/
def Table.newCell (table : Table) (values : List (String × Cell)) (column : Column) :
    Except StorageFault Cell :=
  match values.lookup column.name, column.default with
  | some value, _ => .ok value
  | none, some default => .ok default.cell
  | none, none =>
    if column.primaryKey then .ok (.int table.nextKey)
    else if column.nullable then .ok .null
    else .error .integrity

/-- The table with one more row. -/
def Table.insert (table : Table) (values : List (String × Cell)) : Except StorageFault Table :=
  (table.columns.mapM (table.newCell values)).map fun row =>
    { table with rows := table.rows ++ [row] }

/-! ## Statements -/

/-- The statements. -/
inductive Statement
  | createTable (columns : List Column)
  | dropTable
  | createIndex (index : Index)
  | dropIndex (name : String)
  | insert (values : List (String × Cell))
  deriving Repr, DecidableEq

namespace Database

/-- A database without the table. -/
def empty : Database := ⟨none, []⟩

/-- Whether there is an index of a name. -/
def hasIndex (database : Database) (name : String) : Bool :=
  database.indexes.any (·.name = name)

/-- The effect of a statement. The indexes of a table are dropped with it. -/
def execute (database : Database) : Statement → Except StorageFault Database
  | .createTable columns =>
    match database.table with
    | none => .ok { database with table := some ⟨columns, []⟩ }
    | some _ => .error .operational
  | .dropTable =>
    match database.table with
    | none => .error .operational
    | some _ => .ok empty
  | .createIndex index =>
    match database.table with
    | none => .error .operational
    | some table =>
      if database.hasIndex index.name then .error .operational
      else if index.columns.all (table.columns.map Column.name).contains then
        .ok { database with indexes := database.indexes ++ [index] }
      else .error .operational
  | .dropIndex name =>
    if database.hasIndex name then
      .ok { database with indexes := database.indexes.filter (·.name ≠ name) }
    else .error .operational
  | .insert values =>
    match database.table with
    | none => .error .operational
    | some table => (table.insert values).map fun table => { database with table := some table }

/-- Executes statements one after the other: why they stopped, if they did, and the database after
them. The changes made before a statement that fails stay. -/
def run (database : Database) : List Statement → Option StorageFault × Database
  | [] => (none, database)
  | statement :: rest =>
    match database.execute statement with
    | .ok next => next.run rest
    | .error fault => (some fault, database)

end Database

/-! ## Steps -/

/-- The steps: those of the revision, the creation from the model, and a new row with a pattern and
a name. -/
inductive Step
  | upgrade
  | downgrade
  | metadata
  | insert (serviceId name : String)
  deriving Repr, DecidableEq

/-- The statements of a step. The model looks for the table first, and for nothing else. -/
def Database.statements (database : Database) : Step → List Statement
  | .upgrade => [.createTable revisionColumns, .createIndex orderIndex]
  | .downgrade => [.dropIndex orderIndex.name, .dropTable]
  | .metadata =>
    match database.table with
    | none => [.createTable modelColumns, .createIndex orderIndex]
    | some _ => []
  | .insert serviceId name => [.insert [("service_id", .text serviceId), ("name", .text name)]]

/-- One step: why it failed, if it did, and the database after it. -/
def Database.step (database : Database) (step : Step) : Option StorageFault × Database :=
  database.run (database.statements step)

/-- The database after steps one after the other. -/
def Database.after (database : Database) (steps : List Step) : Database :=
  steps.foldl (fun database step => (database.step step).2) database

/-- The first ten cells of each row, which are those of an entry. -/
def Table.entryRows (table : Table) : List (List Cell) :=
  table.rows.map (·.take 10)

end ServiceRegistry.Schema
