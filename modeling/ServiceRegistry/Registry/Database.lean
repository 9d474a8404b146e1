import ServiceRegistry.Registry.Basic

/-!
# A registry in a database

One session works on a table: its changes are visible to it at once and become lasting when it
commits. Ids and positions are numbers of 64 bits, every row has a pattern and a name, and no two
rows have one id.

Results:

* `Database`: the committed rows and the rows that the session sees.
* `Database.insert`, `Database.update`: changes of rows by drafts.
* `Database.registry`: the requests to the registry.
-/

namespace ServiceRegistry

/-- The committed rows, and the rows as the session sees them. -/
structure Database where
  saved : List Entry
  working : List Entry
  deriving Repr, DecidableEq

namespace Database

/-- A database with some committed rows. -/
def ofRows (rows : List Entry) : Database := ⟨rows, rows⟩

/-- Makes the changes of the session lasting. -/
def commit (database : Database) : Database := ⟨database.working, database.working⟩

/-- Drops the changes of the session. -/
def rollback (database : Database) : Database := ⟨database.saved, database.saved⟩

/-! ## Cells -/

/-- Whether a number has 64 bits. -/
def isStorable (n : Int) : Bool :=
  leastInt64 ≤ n && n ≤ greatestInt64

/-- A number that the database can take. -/
def storable (n : Int) : Except Fault Int :=
  if isStorable n then .ok n else .error .integerTooLarge

/-- The number in a column of numbers. -/
def integerCell : Json → Except Fault Int
  | .int n => storable n
  | .bool b => .ok (if b then 1 else 0)
  | .float x =>
    match x.toInt? with
    | some n => storable n
    | none => .error (.storage .statement)
  | .text s =>
    match Number.plainInt s.toList with
    | .ok n => storable n
    | .error _ => .error (.storage .statement)
  | _ => .error (.storage .statement)

/-- The text in a column of texts; null is kept. -/
def textCell : Json → Except Fault (Option String)
  | .null => .ok none
  | .text s => .ok (some s)
  | .int n => (storable n).map fun n => some (String.ofList (Number.intText n))
  | .bool b => .ok (some (if b then "1" else "0"))
  | _ => .error (.storage .statement)

/-- The truth value in a column of truth values. -/
def booleanCell : Json → Except Fault Bool
  | .bool b => .ok b
  | .int n => if n = 0 then .ok false else if n = 1 then .ok true else .error (.storage .statement)
  | .float x =>
    match x.toInt? with
    | some n =>
      if n = 0 then .ok false else if n = 1 then .ok true else .error (.storage .statement)
    | none => .error (.storage .statement)
  | _ => .error (.storage .statement)

/-- Whether a value cannot be bound to a column of a field. -/
def isUnbindable (field : Field) (value : Json) : Bool :=
  let refused {α : Type} (cell : Except Fault α) : Bool := match cell with
    | .error (.storage .statement) => true
    | _ => false
  if value.isNull then false
  else match field with
    | .id => refused (integerCell value)
    | .evaluationOrder => refused (integerCell value)
    | .serviceId => refused (textCell value)
    | .name => refused (textCell value)
    | .description => refused (textCell value)
    | .theme => refused (textCell value)
    | _ => refused (booleanCell value)

/-- A value that may not be null. -/
def notNull {α : Type} (cell : Json → Except Fault α) (value : Json) : Except Fault α :=
  if value.isNull then .error (.storage .integrity) else cell value

/-- A text that may not be null. -/
def textNotNull (value : Json) : Except Fault (Option String) :=
  notNull textCell value

/-- The row of values for all fields. A value that cannot be bound counts first, then a number
that is too large, and then a null that is not allowed. -/
def rowOf (value : Field → Json) : Except Fault Entry := do
  if Field.all.any fun field => isUnbindable field (value field) then
    throw (.storage .statement)
  let tooLarge (field : Field) : Bool := match value field with
    | .int n => !isStorable n
    | _ => false
  if Field.all.any tooLarge then throw .integerTooLarge
  return {
    id := ← notNull integerCell (value .id)
    serviceId := ← textNotNull (value .serviceId)
    name := ← textNotNull (value .name)
    description := ← textCell (value .description)
    theme := ← textCell (value .theme)
    evaluationOrder := ← notNull integerCell (value .evaluationOrder)
    enabled := ← notNull booleanCell (value .enabled)
    ssoEnabled := ← notNull booleanCell (value .ssoEnabled)
    allowedToProxy := ← notNull booleanCell (value .allowedToProxy)
    anonymousAccess := ← notNull booleanCell (value .anonymousAccess) }

/-! ## Rows -/

/-- The row of an id. -/
def find (rows : List Entry) (id : Int) : Option Entry :=
  rows.find? (·.id = id)

/-- The rows without that of an id. -/
def delete (rows : List Entry) (id : Int) : List Entry :=
  rows.filter (·.id ≠ id)

/-- The rows with another row in the place of that of an id. -/
def replace (rows : List Entry) (id : Int) (row : Entry) : List Entry :=
  rows.map fun old => if old.id = id then row else old

/-- The id of the next row: after the greatest, or the least that is free when the greatest is the
last number of 64 bits. -/
def nextId (rows : List Entry) : Int :=
  let id := idAfter rows
  if isStorable id then id
  else
    let ids := (List.range (rows.length + 1)).map fun (n : Nat) => (n : Int) + 1
    (ids.find? fun id => (find rows id).isNone).getD 1

/-- The rows with a new one, whose id must be free. -/
def insertRow (rows : List Entry) (row : Entry) : Except Fault (List Entry) :=
  if (find rows row.id).isSome then .error (.storage .integrity) else .ok (rows ++ [row])

/-- The rows with one more, made from a draft. A null in a field with a default stands for the
default, and a null id for the next one. -/
def insert (rows : List Entry) (draft : Draft) : Except Fault (List Entry × Entry) := do
  let value (field : Field) : Json :=
    match draft.value field, field with
    | .null, .id => .int (nextId rows)
    | .null, field => field.default
    | value, _ => value
  let row ← rowOf value
  let rows ← insertRow rows row
  return (rows, row)

/-- The rows with more of them, made from drafts. -/
def insertAll (rows : List Entry) (drafts : List Draft) : Except Fault (List Entry) :=
  drafts.foldlM (fun rows draft => (insert rows draft).map (·.1)) rows

/-- A database with rows made from drafts, all committed. -/
def ofDrafts (drafts : List Draft) : Except Fault Database :=
  (insertAll [] drafts).map ofRows

/-- The rows with some fields of one row set. The row may get another id, which must be free. -/
def update (rows : List Entry) (old : Entry) (draft : Draft) :
    Except Fault (List Entry × Entry) := do
  let row ← rowOf fun field => (draft.lookup field).getD (old.value field)
  if row.id ≠ old.id && (find rows row.id).isSome then throw (.storage .integrity)
  return (replace rows old.id row, row)

/-! ## Requests -/

/-- The rows that the session sees. -/
def rows : Run Database (List Entry) := do
  return (← Run.store).working

/-- Replaces the rows that the session sees. -/
def setRows (rows : List Entry) : Run Database Unit := do
  Run.setStore { (← Run.store) with working := rows }

/-- The row of an id, which must be a number that the database can take. -/
def findRow (id : Int) : Run Database (Option Entry) := do
  Run.lift ((storable id).map fun _ => ())
  return find (← rows) id

/-- The requests to a registry in a database. -/
def registry : Registry Database where
  listing := do return some (inListingOrder (← rows))
  find := findRow
  register pattern name := do
    let current ← rows
    setRows (current ++ [newEntry (nextId current) pattern name])
  place entry position := do
    Run.lift ((storable position).map fun _ => ())
    setRows (replace (← rows) entry.id { entry with evaluationOrder := position })
  remove id := do
    let found ← findRow id
    setRows (delete (← rows) id)
    return found
  admits url := do Run.lift (anyAdmits url (inListingOrder (← rows)))
  commit := do Run.setStore (← Run.store).commit
  settle := rollback

end Database

end ServiceRegistry
