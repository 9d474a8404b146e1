import ServiceRegistry.Issue
import ServiceRegistry.Number.Decimal

/-!
# Validation of single values

A value may be given in another form than the one asked for: a number or a truth value as text, a
truth value as a number, a whole number with a fraction of zero.

Results:

* `validInteger`, `validBoolean`, `validText`, `validOptionalText`: the value asked for, or the
  kind of mistake.
* `CheckedFrom`, `Checked`: a value or all issues with its parts.
-/

namespace ServiceRegistry

/-- The least number of 64 bits. -/
def leastInt64 : Int := -0x8000000000000000

/-- The greatest number of 64 bits. -/
def greatestInt64 : Int := 0x7FFFFFFFFFFFFFFF

/-- The whole number that a number with a binary exponent is; it must lie strictly between the
bounds of 64 bits. -/
def integerOfFloat (x : Number.Binary64) : Except IssueKind Int :=
  if !x.isFinite then .error .finiteNumber
  else match x.toInt? with
    | none => .error .integerFraction
    | some n => if leastInt64 < n && n ≤ greatestInt64 then .ok n else .error .integerSize

/-- A whole number. -/
def validInteger : Json → Except IssueKind Int
  | .int n => .ok n
  | .bool b => .ok (if b then 1 else 0)
  | .float x => integerOfFloat x
  | .text s =>
    match Number.readInteger s.toList with
    | .ok n => .ok n
    | .error .malformed => .error .integerText
    | .error .tooManyDigits => .error .integerSize
  | _ => .error .integerKind

/-- The words for true. -/
def trueWords : List String := ["1", "true", "t", "yes", "y", "on"]

/-- The words for false. -/
def falseWords : List String := ["0", "false", "f", "no", "n", "off"]

/-- The truth value of a word, in any letter case. -/
def booleanOfText (s : String) : Except IssueKind Bool :=
  let word := s.map Char.toLower
  if trueWords.contains word then .ok true
  else if falseWords.contains word then .ok false
  else .error .booleanText

/-- The truth value of a number of 64 bits. -/
def booleanOfInteger (n : Int) : Except IssueKind Bool :=
  if n = 1 then .ok true
  else if n = 0 then .ok false
  else if leastInt64 ≤ n && n ≤ greatestInt64 then .error .booleanText
  else .error .booleanKind

/-- A truth value. -/
def validBoolean : Json → Except IssueKind Bool
  | .bool b => .ok b
  | .text s => booleanOfText s
  | .int n => booleanOfInteger n
  | .float x =>
    match integerOfFloat x with
    | .ok n => booleanOfInteger n
    | .error _ => .error .booleanKind
  | _ => .error .booleanKind

/-- A text. -/
def validText : Json → Except IssueKind String
  | .text s => .ok s
  | _ => .error .textKind

/-- A text or nothing. -/
def validOptionalText : Json → Except IssueKind (Option String)
  | .null => .ok none
  | value => (validText value).map some

/-! ## All issues of a record -/

/-- A value, or all issues with its parts in their order. -/
abbrev CheckedFrom (ι α : Type) := Except (List (IssueWith ι)) α

/-- A value, or all issues with the JSON values in it. -/
abbrev Checked (α : Type) := CheckedFrom Json α

namespace Checked

variable {ι : Type}

/-- A value at a place. -/
def located {α : Type} (place : List Step) (valid : ι → Except IssueKind α) (value : ι) :
    CheckedFrom ι α :=
  match valid value with
  | .ok a => .ok a
  | .error kind => .error [⟨kind, place, value⟩]

/-- A function of several checked values; the issues with all of them count. -/
def apply {α β : Type} (f : CheckedFrom ι (α → β)) (a : CheckedFrom ι α) : CheckedFrom ι β :=
  match f, a with
  | .ok f, .ok a => .ok (f a)
  | .ok _, .error issues => .error issues
  | .error issues, .ok _ => .error issues
  | .error issues, .error more => .error (issues ++ more)

/-- The values of a list, each checked at its position. -/
def each {α : Type} (valid : ι → Except IssueKind α) (place : List Step) :
    Nat → List ι → CheckedFrom ι (List α)
  | _, [] => .ok []
  | position, item :: rest =>
    apply (apply (.ok List.cons) (Checked.located (place ++ [.index position]) valid item))
      (each valid place (position + 1) rest)

end Checked

end ServiceRegistry
