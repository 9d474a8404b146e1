import ServiceRegistry.Fault

/-!
# Registry entries

An entry names the client applications that may ask for authentication, by a pattern of their
addresses.

Results:

* `Entry`: the entries.
* `patternAdmits`, `Entry.admits`: whether an address is one of those that an entry names.
* `inListingOrder`: the order in which entries are listed.
-/

namespace ServiceRegistry

/-- A registered service. -/
structure Entry where
  id : Int
  serviceId : Option String
  name : Option String
  description : Option String
  theme : Option String
  evaluationOrder : Int
  enabled : Bool
  ssoEnabled : Bool
  allowedToProxy : Bool
  anonymousAccess : Bool
  deriving Repr, DecidableEq

/-- Whether a pattern admits an address. An empty pattern or address admits nothing, a pattern
admits itself, and a malformed pattern admits nothing else. -/
def patternAdmits (pattern address : String) : Except Fault Bool :=
  if address.isEmpty || pattern.isEmpty then .ok false
  else if pattern == address then .ok true
  else match Pattern.matchesPattern pattern.toList address.toList with
    | .ok result => .ok result
    | .error fault => .error (.pattern fault)

/-- Whether an entry admits an address. -/
def Entry.admits (entry : Entry) (address : String) : Except Fault Bool :=
  match entry.serviceId with
  | some pattern => patternAdmits pattern address
  | none => .ok false

/-- Whether one of some entries admits an address; entries after the first that does are not
consulted. -/
def anyAdmits (address : String) : List Entry → Except Fault Bool
  | [] => .ok false
  | entry :: rest =>
    match entry.admits address with
    | .ok true => .ok true
    | .ok false => anyAdmits address rest
    | .error fault => .error fault

/-- Entries are listed by their evaluation order, and those of one order by their id. -/
def Entry.listedBefore (a b : Entry) : Bool :=
  a.evaluationOrder < b.evaluationOrder ||
    (a.evaluationOrder == b.evaluationOrder && a.id ≤ b.id)

/-- Entries in the order in which they are listed. -/
def inListingOrder (entries : List Entry) : List Entry :=
  entries.mergeSort Entry.listedBefore

end ServiceRegistry
