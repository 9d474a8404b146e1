import ServiceRegistry.Json.Display

/-!
# Validation issues

What is wrong with one value of a document or form, and where it stands.

Results:

* `IssueWith`, `Issue`: a kind of mistake, the place of the value and the value.
* `IssueWith.message`: the wording of a mistake.
* `issuesText`: the text of all mistakes in a document.
-/

namespace ServiceRegistry

/-- The kinds of mistakes. -/
inductive IssueKind
  | missing
  | integerText
  | integerSize
  | integerKind
  | integerFraction
  | finiteNumber
  | booleanText
  | booleanKind
  | textKind
  | textSurrogate
  | listKind
  | objectKind
  | recordKind (model : String)
  deriving Repr, DecidableEq

/-- The code of a kind of mistake. -/
def IssueKind.code : IssueKind → String
  | .missing => "missing"
  | .integerText => "int_parsing"
  | .integerSize => "int_parsing_size"
  | .integerKind => "int_type"
  | .integerFraction => "int_from_float"
  | .finiteNumber => "finite_number"
  | .booleanText => "bool_parsing"
  | .booleanKind => "bool_type"
  | .textKind => "string_type"
  | .textSurrogate => "string_unicode"
  | .listKind => "list_type"
  | .objectKind => "dict_type"
  | .recordKind _ => "model_type"

/-- The wording of a kind of mistake. -/
def IssueKind.message : IssueKind → String
  | .missing => "Field required"
  | .integerText =>
    "Input should be a valid integer, unable to parse string as an integer"
  | .integerSize =>
    "Unable to parse input string as an integer, exceeded maximum size"
  | .integerKind => "Input should be a valid integer"
  | .integerFraction =>
    "Input should be a valid integer, got a number with a fractional part"
  | .finiteNumber => "Input should be a finite number"
  | .booleanText => "Input should be a valid boolean, unable to interpret input"
  | .booleanKind => "Input should be a valid boolean"
  | .textKind => "Input should be a valid string"
  | .textSurrogate =>
    "Input should be a valid string, unable to parse raw data as a unicode string"
  | .listKind => "Input should be a valid list"
  | .objectKind => "Input should be a valid dictionary"
  | .recordKind model => "Input should be a valid dictionary or instance of " ++ model

/-- A step to a value: a key of an object or a position in a list. -/
inductive Step
  | key (name : String)
  | index (position : Nat)
  deriving Repr, DecidableEq

/-- The text of a step. -/
def Step.text : Step → String
  | .key name => name
  | .index position => toString position

/-- The step as a JSON value. -/
def Step.toJson : Step → Json
  | .key name => .text name
  | .index position => .int position

/-- A mistake in one value of some type. -/
structure IssueWith (ι : Type) where
  kind : IssueKind
  place : List Step
  input : ι
  deriving Repr

/-- The same mistake with the value in another form. -/
def IssueWith.map {ι κ : Type} (f : ι → κ) (issue : IssueWith ι) : IssueWith κ :=
  ⟨issue.kind, issue.place, f issue.input⟩

/-- The wording of a mistake. -/
def IssueWith.message {ι : Type} (issue : IssueWith ι) : String :=
  issue.kind.message

/-- A mistake in one JSON value. -/
abbrev Issue := IssueWith Json

/-- The name of the kind of a value. -/
def Json.kindName : Json → String
  | .null => "NoneType"
  | .bool _ => "bool"
  | .int _ => "int"
  | .float _ => "float"
  | .text _ => "str"
  | .list _ => "list"
  | .object _ => "dict"

/-- The lines of one mistake. -/
def Issue.text (issue : Issue) : String :=
  ".".intercalate (issue.place.map Step.text) ++ "\n  " ++ issue.message ++ " [type=" ++
    issue.kind.code ++ ", input_value=" ++ issue.input.quotedDisplay ++ ", input_type=" ++
    issue.input.kindName ++ "]\n    For further information visit " ++
    "https://errors.pydantic.dev/2.14/v/" ++ issue.kind.code

/-- The text of all mistakes in a document of a model. -/
def issuesText (model : String) (issues : List Issue) : String :=
  let count := issues.length
  toString count ++ (if count == 1 then " validation error for " else " validation errors for ") ++
    model ++ "\n" ++ "\n".intercalate (issues.map Issue.text)

end ServiceRegistry
