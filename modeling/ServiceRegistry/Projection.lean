import ServiceRegistry.Entry
import ServiceRegistry.Json.Printer
import ServiceRegistry.Validate

/-!
# Public projections

What the administration shows of an entry, as a JSON object with ten members.

Results:

* `Field`: the ten fields, with their names in the registry and in documents.
* `Draft`: the fields that an entry is made from, and what they are when they are not given.
* `Projection.ofFields`: a projection from given values, or all issues with them.
* `Projection.ofDraft`, `Projection.ofDocument`, `Entry.project`: the three sources of values.
* `Projection.toJson`: the document of a projection.
-/

namespace ServiceRegistry

/-- The fields of an entry. -/
inductive Field
  | id
  | serviceId
  | name
  | description
  | theme
  | evaluationOrder
  | enabled
  | ssoEnabled
  | allowedToProxy
  | anonymousAccess
  deriving Repr, DecidableEq

namespace Field

/-- The fields in their order. -/
def all : List Field :=
  [.id, .serviceId, .name, .description, .theme, .evaluationOrder, .enabled, .ssoEnabled,
   .allowedToProxy, .anonymousAccess]

/-- The name of a field in the registry. -/
def column : Field → String
  | .id => "id"
  | .serviceId => "service_id"
  | .name => "name"
  | .description => "description"
  | .theme => "theme"
  | .evaluationOrder => "evaluation_order"
  | .enabled => "enabled"
  | .ssoEnabled => "sso_enabled"
  | .allowedToProxy => "allowed_to_proxy"
  | .anonymousAccess => "anonymous_access"

/-- The name of a field in documents. -/
def key : Field → String
  | .id => "id"
  | .serviceId => "serviceId"
  | .name => "name"
  | .description => "description"
  | .theme => "theme"
  | .evaluationOrder => "evaluationOrder"
  | .enabled => "enabled"
  | .ssoEnabled => "ssoEnabled"
  | .allowedToProxy => "allowedToProxy"
  | .anonymousAccess => "anonymousAccess"

/-- The field of a name in the registry. -/
def ofColumn? (name : String) : Option Field :=
  all.find? (·.column == name)

/-- The value of a field that is not given when an entry is made. -/
def default : Field → Json
  | .evaluationOrder => .int 0
  | .enabled => .bool true
  | .ssoEnabled => .bool true
  | .allowedToProxy => .bool false
  | .anonymousAccess => .bool false
  | _ => .null

end Field

/-! ## Drafts -/

/-- The fields that are given. -/
abbrev Draft := List (Field × Json)

namespace Draft

/-- Names that are accepted beside the fields and have no effect on them. -/
def silentNames : List String :=
  ["created_at", "updated_at", "matches", "metadata", "registry", "__tablename__", "__table__",
   "__mapper__", "__doc__", "__module__", "__init__", "__repr__", "__str__", "__eq__", "__hash__",
   "__abstract__", "_sa_class_manager", "_sa_registry"]

/-- The fields of named values; the first name that is not known is refused. -/
def ofNamed : List (String × Json) → Except Fault Draft
  | [] => .ok []
  | (name, value) :: rest =>
    match Field.ofColumn? name with
    | some field => (ofNamed rest).map ((field, value) :: ·)
    | none => if silentNames.contains name then ofNamed rest else .error (.unknownField name)

/-- The fields among named values; other names are passed over. -/
def known (named : List (String × Json)) : Draft :=
  named.filterMap fun (name, value) => (Field.ofColumn? name).map fun field => (field, value)

/-- The value of a field, given or not. -/
def value (draft : Draft) (field : Field) : Json :=
  (draft.lookup field).getD field.default

/-- The values of all fields in their order. -/
def row (draft : Draft) : List Json :=
  Field.all.map draft.value

end Draft

/-! ## Projections -/

/-- What is shown of an entry. -/
structure Projection where
  id : Int
  serviceId : String
  name : String
  description : Option String
  theme : Option String
  evaluationOrder : Int
  enabled : Bool
  ssoEnabled : Bool
  allowedToProxy : Bool
  anonymousAccess : Bool
  deriving Repr, DecidableEq

namespace Projection

/-- The name of the model in the texts of issues. -/
def modelName : String := "RegisteredServiceBean"

/-- A value that was given for a field under a name, or nothing. -/
abbrev Source := Field → Option (String × Json)

/-- A field that must be given. -/
def required {α : Type} (valid : Json → Except IssueKind α) (whole : Json) (source : Source)
    (field : Field) : Checked α :=
  match source field with
  | some (name, value) => Checked.located [.key name] valid value
  | none => .error [⟨.missing, [.key field.key], whole⟩]

/-- A field that has a value when it is not given. -/
def optional {α : Type} (valid : Json → Except IssueKind α) (absent : α) (source : Source)
    (field : Field) : Checked α :=
  match source field with
  | some (name, value) => Checked.located [.key name] valid value
  | none => .ok absent

/-- The projection of given values; `whole` is the document that they come from. -/
def ofFields (whole : Json) (source : Source) : Checked Projection :=
  Checked.apply (Checked.apply (Checked.apply (Checked.apply (Checked.apply (Checked.apply
    (Checked.apply (Checked.apply (Checked.apply (Checked.apply (.ok Projection.mk)
      (required validInteger whole source .id))
      (required validText whole source .serviceId))
      (required validText whole source .name))
      (optional validOptionalText none source .description))
      (optional validOptionalText none source .theme))
      (optional validInteger 0 source .evaluationOrder))
      (optional validBoolean true source .enabled))
      (optional validBoolean true source .ssoEnabled))
      (optional validBoolean false source .allowedToProxy))
      (optional validBoolean false source .anonymousAccess)

/-- A checked projection as the result of an operation. -/
def orFault (checked : Checked Projection) : Except Fault Projection :=
  match checked with
  | .ok projection => .ok projection
  | .error issues => .error (.invalidRecord modelName issues)

/-- The projection of values for all fields, under their names in the registry. -/
def ofValues (value : Field → Json) : Except Fault Projection :=
  orFault (ofFields .null fun field => some (field.column, value field))

/-- The projection of a draft. -/
def ofDraft (draft : Draft) : Except Fault Projection :=
  ofValues draft.value

/-- The member of a document for a field: its name in documents wins over that in the registry. -/
def memberOf (members : List (String × Json)) (field : Field) : Option (String × Json) :=
  match members.lookup field.key with
  | some value => some (field.key, value)
  | none => (members.lookup field.column).map fun value => (field.column, value)

/-- The projection that a document describes. -/
def ofDocument : Json → Except Fault Projection
  | .object members => orFault (ofFields (.object members) (memberOf members))
  | value => .error (.invalidRecord modelName [⟨.recordKind modelName, [], value⟩])

/-- The document of a projection. -/
def toJson (projection : Projection) : Json :=
  .object
    [(Field.id.key, .int projection.id),
     (Field.serviceId.key, .text projection.serviceId),
     (Field.name.key, .text projection.name),
     (Field.description.key, .ofText? projection.description),
     (Field.theme.key, .ofText? projection.theme),
     (Field.evaluationOrder.key, .int projection.evaluationOrder),
     (Field.enabled.key, .bool projection.enabled),
     (Field.ssoEnabled.key, .bool projection.ssoEnabled),
     (Field.allowedToProxy.key, .bool projection.allowedToProxy),
     (Field.anonymousAccess.key, .bool projection.anonymousAccess)]

end Projection

/-! ## Entries -/

namespace Entry

/-- The value of a field of an entry. -/
def value (entry : Entry) : Field → Json
  | .id => .int entry.id
  | .serviceId => .ofText? entry.serviceId
  | .name => .ofText? entry.name
  | .description => .ofText? entry.description
  | .theme => .ofText? entry.theme
  | .evaluationOrder => .int entry.evaluationOrder
  | .enabled => .bool entry.enabled
  | .ssoEnabled => .bool entry.ssoEnabled
  | .allowedToProxy => .bool entry.allowedToProxy
  | .anonymousAccess => .bool entry.anonymousAccess

/-- The values of all fields in their order. -/
def row (entry : Entry) : List Json :=
  Field.all.map entry.value

/-- The projection of an entry. -/
def project (entry : Entry) : Except Fault Projection :=
  Projection.ofValues entry.value

end Entry

/-- The document of a listing. -/
def listingJson (projections : List Projection) : Json :=
  .object [("services", .list (projections.map Projection.toJson))]

/-- The document of the answer to a removal. -/
def removedJson (name : String) : Json :=
  .object [("serviceName", .text name)]

end ServiceRegistry
