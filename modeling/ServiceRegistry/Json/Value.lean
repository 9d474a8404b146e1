import ServiceRegistry.Number.Binary64

/-!
# JSON values

Whole numbers and numbers with a binary exponent are apart, and the members of an object keep the
order in which their keys came first.

Results:

* `Json`: the values.
* `Json.find?`: the value of a key.
* `insertMember`, `Json.objectOf`: a later value for a key takes the place of the earlier one.
* `Json.Fits`: the values without numbers that have a binary exponent, within limits.
-/

namespace ServiceRegistry

/-- A JSON value. -/
inductive Json
  | null
  | bool (b : Bool)
  | int (n : Int)
  | float (x : Number.Binary64)
  | text (s : String)
  | list (items : List Json)
  | object (members : List (String × Json))
  deriving Inhabited, Repr

/-- Gives a key a value: in its place if the key is there, at the end otherwise. -/
def insertMember {α : Type} (key : String) (value : α) : List (String × α) → List (String × α)
  | [] => [(key, value)]
  | member :: rest =>
    if member.1 == key then (key, value) :: rest else member :: insertMember key value rest

/-- The members of pairs in which a later value for a key replaces the earlier one. -/
def membersOf {α : Type} (pairs : List (String × α)) : List (String × α) :=
  pairs.foldl (fun members pair => insertMember pair.1 pair.2 members) []

theorem nodup_eraseDups {α : Type} [BEq α] [LawfulBEq α] :
    (names : List α) → names.eraseDups.Nodup
  | [] => List.nodup_nil
  | name :: rest => by
    rw [List.eraseDups_cons, List.nodup_cons]
    refine ⟨?_, nodup_eraseDups _⟩
    simp [List.mem_eraseDups]
termination_by names => names.length
decreasing_by exact Nat.lt_succ_of_le (List.length_filter_le _ _)

namespace Json

/-- The object of pairs in which a later value for a key replaces the earlier one. -/
def objectOf (pairs : List (String × Json)) : Json :=
  .object (membersOf pairs)

/-- The value of a key of an object. -/
def find? (key : String) : Json → Option Json
  | .object members => members.lookup key
  | _ => none

/-- Whether the value is absent. -/
def isNull : Json → Bool
  | .null => true
  | _ => false

/-- A text, or null when there is none. -/
def ofText? : Option String → Json
  | some s => .text s
  | none => .null

/-- A value without numbers that have a binary exponent, with whole numbers below a power of ten
and with at most `depth` containers around any part of it. No object has a key twice. -/
inductive Fits (digits : Nat) : Nat → Json → Prop
  | null {depth : Nat} : Fits digits depth .null
  | bool {depth : Nat} (b : Bool) : Fits digits depth (.bool b)
  | int {depth : Nat} {n : Int} : n.natAbs < Nat.pow 10 digits → Fits digits depth (.int n)
  | text {depth : Nat} (s : String) : Fits digits depth (.text s)
  | list {depth : Nat} {items : List Json} :
      (∀ item ∈ items, Fits digits depth item) → Fits digits (depth + 1) (.list items)
  | object {depth : Nat} {members : List (String × Json)} :
      (members.map Prod.fst).Nodup → (∀ member ∈ members, Fits digits depth member.2) →
      Fits digits (depth + 1) (.object members)

end Json

end ServiceRegistry
