import Mathlib.Logic.Function.Basic
import Mathlib.Order.Bounds.Defs
import ServiceRegistry.Proofs.Registry.Stored
import ServiceRegistry.Registry.Session

/-!
# A session as two maps

What a session does to its rows, said without lists, drafts and operations: there are two maps from
ids to rows, those that were saved last and those that the session works on. Each step answers from
the working map and changes it at one id at most, and a step that stops goes back to the saved map.

Results:

* `Ledger`: the two maps, `Database.ledger`.
* `Step.Admissible`: the steps on single rows whose values are of the kind of their fields.
* `NextId`: the id of a new row for which none is given.
* `Refuses`, `Stops`: why a step stops.
* `Takes`, `Follows`: the steps of a ledger, and the runs.
-/

namespace ServiceRegistry

open Database (isStorable)

/-! ## Maps of rows -/

/-- The rows by their ids, as they were saved last and as the session sees them. -/
structure Ledger where
  saved : Int → Option Entry
  working : Int → Option Entry

/-- The two maps of a database. -/
def Database.ledger (database : Database) : Ledger :=
  ⟨find database.saved, find database.working⟩

namespace Ledger

/-- The ledger with a row under its id. -/
def put (ledger : Ledger) (row : Entry) : Ledger :=
  { ledger with working := Function.update ledger.working row.id (some row) }

/-- The ledger without the row of an id. -/
def without (ledger : Ledger) (id : Int) : Ledger :=
  { ledger with working := Function.update ledger.working id none }

/-- The ledger with all changes saved. -/
def committed (ledger : Ledger) : Ledger := ⟨ledger.working, ledger.working⟩

/-- The ledger without the changes since they were saved last. -/
def restored (ledger : Ledger) : Ledger := ⟨ledger.saved, ledger.saved⟩

/-- The ids of the rows that the session sees. -/
def ids (ledger : Ledger) : Set Int := {id | (ledger.working id).isSome}

/-- All rows that the session sees, in the strict order of a listing. -/
structure Lists (ledger : Ledger) (rows : List Entry) : Prop where
  sorted : rows.Pairwise Entry.Precedes
  complete : ∀ row, row ∈ rows ↔ ledger.working row.id = some row

end Ledger

/-! ## Values of fields -/

/-- The kinds of fields. -/
inductive Field.Kind
  | number
  | text
  | flag
  deriving Repr, DecidableEq

/-- The kind of a field. -/
def Field.kind : Field → Field.Kind
  | .id | .evaluationOrder => .number
  | .serviceId | .name | .description | .theme => .text
  | .enabled | .ssoEnabled | .allowedToProxy | .anonymousAccess => .flag

/-- Whether every row has a value in a field. -/
def Field.isRequired : Field → Bool
  | .description | .theme => false
  | _ => true

/-- The values that may be given for a kind of fields: those of the kind, and numbers that do not
have 64 bits. -/
inductive Field.Kind.Fits : Field.Kind → Json → Prop
  | number (n : Int) : Fits .number (.int n)
  | text (s : String) : Fits .text (.text s)
  | flag (b : Bool) : Fits .flag (.bool b)
  | large {kind : Field.Kind} {n : Int} : isStorable n = false → Fits kind (.int n)

namespace Session

/-- The value that is given for a field of a new row, or its default. -/
def valueFor (fields : List (String × Json)) (field : Field) : Json :=
  (fields.lookup field.column).getD field.default

/-- The value that is given for a field of a row, or its old one. -/
def valueOver (old : Entry) (fields : List (String × Json)) (field : Field) : Json :=
  (fields.lookup field.column).getD (old.value field)

/-- A named value that a new row may be made from: for one of the ten fields and of its kind, or a
null for a text; or a number that does not have 64 bits for one of the times. -/
inductive MayAdd : String × Json → Prop
  | fits {field : Field} {value : Json} : field.kind.Fits value → MayAdd (field.column, value)
  | null {field : Field} : field.kind = .text → MayAdd (field.column, .null)
  | time {name : String} {n : Int} : name ∈ timeNames → isStorable n = false →
      MayAdd (name, .int n)

/-- A named value that a row may be changed by: not for its id, but possibly null. -/
inductive MayUpdate : String × Json → Prop
  | fits {field : Field} {value : Json} : field ≠ .id → field.kind.Fits value →
      MayUpdate (field.column, value)
  | null {field : Field} : field ≠ .id → MayUpdate (field.column, .null)
  | time {name : String} {n : Int} : name ∈ timeNames → isStorable n = false →
      MayUpdate (name, .int n)
  | nullTime {name : String} : name ∈ timeNames → MayUpdate (name, .null)

/-- The steps on single rows with admissible values. -/
def Step.Admissible : Step → Prop
  | .manage _ _ => False
  | .add fields => ∀ field ∈ fields, MayAdd field
  | .update _ fields => ∀ field ∈ fields, MayUpdate field
  | _ => True

/-! ## Steps -/

/-- The ids that a new row may get when none is given: one in an empty table and the number after
the greatest id otherwise. If that does not have 64 bits, any id may be given that does. -/
inductive NextId (ledger : Ledger) : Int → Prop
  | first : ledger.ids = ∅ → NextId ledger 1
  | after {greatest : Int} : IsGreatest ledger.ids greatest → isStorable (greatest + 1) = true →
      NextId ledger (greatest + 1)
  | any {greatest id : Int} : IsGreatest ledger.ids greatest → isStorable (greatest + 1) = false →
      isStorable id = true → NextId ledger id

/-- The id of a new row: the given one, or a next one. -/
def IdOf (ledger : Ledger) (fields : List (String × Json)) (id : Int) : Prop :=
  match fields.lookup Field.id.column with
  | some value => value = .int id
  | none => NextId ledger id

/-- Why values for the fields of a row are refused: a number in the place of a truth value, a number
that does not have 64 bits, or a null in a required field. -/
inductive Refuses (value : Field → Json) : Fault → Prop
  | flag {field : Field} {n : Int} : field.kind = .flag → value field = .int n →
      Refuses value (.storage .statement)
  | large {field : Field} {n : Int} : value field = .int n → isStorable n = false →
      Refuses value .integerTooLarge
  | null {field : Field} : field.isRequired = true → field ≠ .id → value field = .null →
      Refuses value (.storage .integrity)

/-- Why given times for a row are refused: they are no times. -/
inductive RefusesTime (fields : List (String × Json)) : Fault → Prop
  | value {name : String} {value : Json} : name ∈ timeNames → (name, value) ∈ fields →
      value ≠ .null → RefusesTime fields (.storage .statement)
  | null {name : String} : name ∈ timeNames → (name, .null) ∈ fields →
      RefusesTime fields (.storage .integrity)

/-- Why a step stops. A step on an id that does not have 64 bits need not stop. -/
inductive Stops (ledger : Ledger) : Step → Fault → Prop
  | add {fields : List (String × Json)} {fault : Fault} : Refuses (valueFor fields) fault →
      Stops ledger (.add fields) fault
  | addTime {fields : List (String × Json)} {fault : Fault} : RefusesTime fields fault →
      Stops ledger (.add fields) fault
  | taken {fields : List (String × Json)} {id : Int} :
      fields.lookup Field.id.column = some (.int id) → id ∈ ledger.ids →
      Stops ledger (.add fields) (.storage .integrity)
  | full {fields : List (String × Json)} : fields.lookup Field.id.column = none →
      (∀ id, 0 < id → isStorable id = true → id ∈ ledger.ids) →
      Stops ledger (.add fields) .integerTooLarge
  | update {id : Int} {fields : List (String × Json)} {old : Entry} {fault : Fault} :
      ledger.working id = some old → Refuses (valueOver old fields) fault →
      Stops ledger (.update id fields) fault
  | updateTime {id : Int} {fields : List (String × Json)} {fault : Fault} : id ∈ ledger.ids →
      RefusesTime fields fault → Stops ledger (.update id fields) fault
  | updateLarge {id : Int} {fields : List (String × Json)} : isStorable id = false →
      Stops ledger (.update id fields) .integerTooLarge
  | findLarge {id : Int} : isStorable id = false → Stops ledger (.find id) .integerTooLarge
  | deleteLarge {id : Int} : isStorable id = false → Stops ledger (.delete id) .integerTooLarge
  | pattern {url : String} {rows : List Entry} {fault : Fault} : ledger.Lists rows →
      anyAdmits url rows = .error fault → Stops ledger (.admits url) fault

/-- The answer of a step and the ledger after it. -/
inductive Takes (ledger : Ledger) : Step → Except Fault Answer → Ledger → Prop
  | add {fields : List (String × Json)} {row : Entry} : row.Stored →
      (∀ field ≠ .id, row.value field = valueFor fields field) → IdOf ledger fields row.id →
      row.id ∉ ledger.ids → (∀ fault, ¬ RefusesTime fields fault) →
      Takes ledger (.add fields) (.ok (.row (some row))) (ledger.put row)
  | update {id : Int} {fields : List (String × Json)} {old row : Entry} :
      ledger.working id = some old → row.Stored → row.id = id →
      (∀ field, row.value field = valueOver old fields field) →
      (∀ fault, ¬ RefusesTime fields fault) →
      Takes ledger (.update id fields) (.ok (.row (some row))) (ledger.put row)
  | updateNone {id : Int} {fields : List (String × Json)} : ledger.working id = none →
      Takes ledger (.update id fields) (.ok (.row none)) ledger
  | find (id : Int) : Takes ledger (.find id) (.ok (.row (ledger.working id))) ledger
  | delete {id : Int} {row : Entry} : ledger.working id = some row →
      Takes ledger (.delete id) (.ok (.row (some row))) (ledger.without id)
  | deleteNone {id : Int} : ledger.working id = none →
      Takes ledger (.delete id) (.ok (.row none)) ledger
  | admits {url : String} {rows : List Entry} {result : Bool} : ledger.Lists rows →
      anyAdmits url rows = .ok result → Takes ledger (.admits url) (.ok (.admitted result)) ledger
  | ids {ids : List Int} : ids.Pairwise (· < ·) → (∀ id, id ∈ ids ↔ id ∈ ledger.ids) →
      Takes ledger .ids (.ok (.ids ids)) ledger
  | listing {rows : List Entry} : ledger.Lists rows →
      Takes ledger .listing (.ok (.ids (rows.map Entry.id))) ledger
  | commit : Takes ledger .commit (.ok .nothing) ledger.committed
  | rollback : Takes ledger .rollback (.ok .nothing) ledger.restored
  | stops {step : Step} {fault : Fault} : Stops ledger step fault →
      Takes ledger step (.error fault) ledger.restored

/-- The answers of steps one after the other, with the ledger after each. -/
inductive Follows : Ledger → List Step → List (Except Fault Answer × Ledger) → Prop
  | nil (ledger : Ledger) : Follows ledger [] []
  | cons {ledger next : Ledger} {step : Step} {result : Except Fault Answer} {steps : List Step}
      {rest : List (Except Fault Answer × Ledger)} : Takes ledger step result next →
      Follows next steps rest → Follows ledger (step :: steps) ((result, next) :: rest)

end Session

end ServiceRegistry
