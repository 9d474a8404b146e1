import ServiceRegistry.Proofs.Http.Listing
import ServiceRegistry.Proofs.Registry.Stored
import ServiceRegistry.Proofs.Session.Values

/-!
# One projection from three sources

The fields of an entry are given in three ways: under their names in the registry when an entry is
made, under either of their names in a document, and under their names in documents in the text of a
projection. The same values give the same projection, whichever way they come.

Results:

* `Field.Takes`: the values of a field that a projection shows as they are.
* `Projection.ShownBy`, `Projection.ofFields_of_shownBy`: a source of the values of a projection, or
  of some of them where the others are the defaults, gives this projection.
* `Projection.memberOf_spelled`: what a document has for a field, in whichever spelling.
* `texts_agree`: the three ways give one text, which has all ten fields.
-/

namespace ServiceRegistry

/-! ## Values that are shown as they are -/

/-- The values of a field that a projection shows as they are: a number that can be read back from
its digits, a text, a truth value, or a null where a field may have none. -/
inductive Field.Takes (field : Field) : Json → Prop
  | number {n : Int} : field.kind = .number → n.natAbs < 10 ^ Number.digitLimit →
      Field.Takes field (.int n)
  | text {s : String} : field.kind = .text → Field.Takes field (.text s)
  | flag {b : Bool} : field.kind = .flag → Field.Takes field (.bool b)
  | null : field.isRequired = false → Field.Takes field .null

/-- A field that is given need not have a default; every other default can be shown. -/
theorem Field.takes_default {field : Field} (other : field ∉ [.id, .serviceId, .name]) :
    field.Takes field.default := by
  cases field with
  | id | serviceId | name => simp at other
  | description | theme => exact .null rfl
  | evaluationOrder => exact .number rfl (Nat.pow_pos (by decide))
  | enabled | ssoEnabled | allowedToProxy | anonymousAccess => exact .flag rfl

theorem Field.kind_of_optional {field : Field} (optional : field.isRequired = false) :
    field.kind = .text := by
  cases field <;> first | rfl | cases optional

section Takes

variable {field : Field} {value : Json}

theorem Field.Takes.exists_int (takes : field.Takes value) (kind : field.kind = .number) :
    ∃ n : Int, value = .int n ∧ n.natAbs < 10 ^ Number.digitLimit := by
  cases takes with
  | number _ small => exact ⟨_, rfl, small⟩
  | text own | flag own => simp [kind] at own
  | null own => simp [Field.kind_of_optional own] at kind

theorem Field.Takes.exists_text? (takes : field.Takes value) (kind : field.kind = .text) :
    ∃ s : Option String, value = .ofText? s ∧ (field.isRequired = true → s.isSome = true) := by
  cases takes with
  | text => exact ⟨some _, rfl, fun _ => rfl⟩
  | null own => exact ⟨none, rfl, fun needed => by simp [own] at needed⟩
  | number own | flag own => simp [kind] at own

theorem Field.Takes.exists_text (takes : field.Takes value) (kind : field.kind = .text)
    (needed : field.isRequired = true) : ∃ s : String, value = .text s := by
  obtain ⟨s, rfl, some⟩ := takes.exists_text? kind
  obtain ⟨s, rfl⟩ := Option.isSome_iff_exists.mp (some needed)
  exact ⟨s, rfl⟩

theorem Field.Takes.exists_bool (takes : field.Takes value) (kind : field.kind = .flag) :
    ∃ b : Bool, value = .bool b := by
  cases takes with
  | flag => exact ⟨_, rfl⟩
  | number own | text own => simp [kind] at own
  | null own => simp [Field.kind_of_optional own] at kind

end Takes

/-! ## Sources of values -/

namespace Projection

/-- A source gives for each field the value that a projection shows. What it does not give is shown
as the default. -/
def ShownBy (projection : Projection) (source : Source) : Prop :=
  ∀ field, (∃ name, source field = some (name, projection.entry.value field)) ∨
    source field = none ∧ projection.entry.value field = field.default

variable {projection : Projection} {source : Source} {whole : Json} {field : Field}

theorem required_of_shownBy {α : Type} {valid : Json → Except IssueKind α} {a : α}
    (shown : projection.ShownBy source) (given : field.default ≠ projection.entry.value field)
    (accepts : valid (projection.entry.value field) = .ok a) :
    required valid whole source field = .ok a := by
  rcases shown field with ⟨name, found⟩ | ⟨-, same⟩
  · simp [required, found, Checked.located, accepts]
  · exact absurd same.symm given

theorem optional_of_shownBy {α : Type} {valid : Json → Except IssueKind α} {a absent : α}
    (shown : projection.ShownBy source) (accepts : valid (projection.entry.value field) = .ok a)
    (default : valid field.default = .ok absent) :
    optional valid absent source field = .ok a := by
  rcases shown field with ⟨name, found⟩ | ⟨missing, same⟩
  · simp [optional, found, Checked.located, accepts]
  · rw [same, default] at accepts
    simpa [optional, missing] using accepts

theorem validOptionalText_ofText? (text : Option String) :
    validOptionalText (.ofText? text) = .ok text := by
  cases text <;> rfl

/-- A source of the values that a projection shows gives this projection: what is not given is the
same by either set of defaults. -/
theorem ofFields_of_shownBy (shown : projection.ShownBy source) :
    ofFields whole source = .ok projection := by
  have id : required validInteger whole source .id = .ok projection.id :=
    required_of_shownBy shown nofun rfl
  have pattern : required validText whole source .serviceId = .ok projection.serviceId :=
    required_of_shownBy shown nofun rfl
  have name : required validText whole source .name = .ok projection.name :=
    required_of_shownBy shown nofun rfl
  have description : optional validOptionalText none source .description =
      .ok projection.description :=
    optional_of_shownBy shown (validOptionalText_ofText? projection.description) rfl
  have theme : optional validOptionalText none source .theme = .ok projection.theme :=
    optional_of_shownBy shown (validOptionalText_ofText? projection.theme) rfl
  have order : optional validInteger 0 source .evaluationOrder = .ok projection.evaluationOrder :=
    optional_of_shownBy shown rfl rfl
  have enabled : optional validBoolean true source .enabled = .ok projection.enabled :=
    optional_of_shownBy shown rfl rfl
  have sso : optional validBoolean true source .ssoEnabled = .ok projection.ssoEnabled :=
    optional_of_shownBy shown rfl rfl
  have proxy : optional validBoolean false source .allowedToProxy =
      .ok projection.allowedToProxy := optional_of_shownBy shown rfl rfl
  have anonymous : optional validBoolean false source .anonymousAccess =
      .ok projection.anonymousAccess := optional_of_shownBy shown rfl rfl
  rw [ofFields, id, pattern, name, description, theme, order, enabled, sso, proxy, anonymous]
  rfl

/-- Values that are all shown as they are belong to a projection. -/
theorem exists_of_takes {value : Field → Json}
    (takes : ∀ field : Field, field.Takes (value field)) :
    ∃ projection : Projection, (∀ field, projection.entry.value field = value field) ∧
      projection.id.natAbs < 10 ^ Number.digitLimit ∧
      projection.evaluationOrder.natAbs < 10 ^ Number.digitLimit := by
  obtain ⟨id, hid, small⟩ := (takes .id).exists_int rfl
  obtain ⟨pattern, hpattern⟩ := (takes .serviceId).exists_text rfl rfl
  obtain ⟨name, hname⟩ := (takes .name).exists_text rfl rfl
  obtain ⟨description, hdescription, -⟩ := (takes .description).exists_text? rfl
  obtain ⟨theme, htheme, -⟩ := (takes .theme).exists_text? rfl
  obtain ⟨order, horder, low⟩ := (takes .evaluationOrder).exists_int rfl
  obtain ⟨enabled, henabled⟩ := (takes .enabled).exists_bool rfl
  obtain ⟨sso, hsso⟩ := (takes .ssoEnabled).exists_bool rfl
  obtain ⟨proxy, hproxy⟩ := (takes .allowedToProxy).exists_bool rfl
  obtain ⟨anonymous, hanonymous⟩ := (takes .anonymousAccess).exists_bool rfl
  refine ⟨⟨id, pattern, name, description, theme, order, enabled, sso, proxy, anonymous⟩,
    fun field => ?_, small, low⟩
  cases field with
  | id => exact hid.symm
  | serviceId => exact hpattern.symm
  | name => exact hname.symm
  | description => exact hdescription.symm
  | theme => exact htheme.symm
  | evaluationOrder => exact horder.symm
  | enabled => exact henabled.symm
  | ssoEnabled => exact hsso.symm
  | allowedToProxy => exact hproxy.symm
  | anonymousAccess => exact hanonymous.symm

end Projection

/-! ## Names of fields -/

namespace Field

/-- The two names of a field. -/
def names (field : Field) : List String := [field.key, field.column]

theorem key_mem_names (field : Field) : field.key ∈ field.names := List.mem_cons_self

theorem column_mem_names (field : Field) : field.column ∈ field.names := by simp [names]

/-- No two fields have a name in common. -/
theorem eq_of_mem_names {field other : Field} {name : String} (mem : name ∈ field.names)
    (mem' : name ∈ other.names) : field = other := by
  have apart : ∀ field ∈ all, ∀ other ∈ all, ∀ name ∈ field.names, name ∈ other.names →
      field = other := by decide
  exact apart field field.mem_all other other.mem_all name mem mem'

/-- The name of a field where some fields, the documented ones, have their names in documents and
the others have those in the registry. -/
def spelling (documented : Field → Bool) (field : Field) : String :=
  if documented field then field.key else field.column

theorem spelling_mem_names (documented : Field → Bool) (field : Field) :
    field.spelling documented ∈ field.names := by
  unfold spelling
  split
  · exact field.key_mem_names
  · exact field.column_mem_names

end Field

/-! ## Drafts -/

namespace Draft

variable {draft : Draft}

/-- The values under the names of their fields in the registry. -/
def named (draft : Draft) : List (String × Json) :=
  draft.map fun (field, value) => (field.column, value)

/-- The members of a document that has the values, some under the names in documents. -/
def spelled (documented : Field → Bool) (draft : Draft) : List (String × Json) :=
  draft.map fun (field, value) => (field.spelling documented, value)

/-- The document of all ten fields under their names in documents, with the values that are given
and the defaults. -/
def document (draft : Draft) : Json :=
  .object (Field.all.map fun field => (field.key, draft.value field))

theorem ofNamed_named (draft : Draft) : ofNamed draft.named = .ok draft := by
  induction draft with
  | nil => rfl
  | cons first rest ih =>
    obtain ⟨field, value⟩ := first
    have own : ofNamed (named ((field, value) :: rest)) =
        (ofNamed (named rest)).map ((field, value) :: ·) := by
      rw [named, List.map_cons, ofNamed, Field.ofColumn?_column]
      rfl
    rw [own, ih]
    rfl

/-- If the fields without a default are given, each field has a value that can be shown. -/
theorem value_takes (given : ∀ field ∈ [Field.id, .serviceId, .name], field ∈ draft.map Prod.fst)
    (takes : ∀ member ∈ draft, member.1.Takes member.2) (field : Field) :
    field.Takes (draft.value field) := by
  unfold value
  cases found : draft.lookup field with
  | some value => exact takes (field, value) (mem_of_lookup found)
  | none =>
    refine Field.takes_default fun needed => ?_
    obtain ⟨member, mem, rfl⟩ := List.mem_map.mp (given field needed)
    have other := List.lookup_eq_none_iff.mp found member mem
    simp at other

/-- A name of a field is found where it is the one that the document uses. -/
theorem lookup_spelled (documented : Field → Bool) (draft : Draft) {field : Field} {name : String}
    (own : name ∈ field.names) : (draft.spelled documented).lookup name =
      if name = field.spelling documented then draft.lookup field else none := by
  induction draft with
  | nil => simp [spelled]
  | cons first rest ih =>
    obtain ⟨other, value⟩ := first
    have step : (spelled documented ((other, value) :: rest)).lookup name =
        if name = other.spelling documented then some value
        else (spelled documented rest).lookup name := by
      rw [spelled, List.map_cons, List.lookup_cons]
      by_cases here : name = other.spelling documented
      · rw [if_pos here, here, beq_self_eq_true]
      · rw [if_neg here, beq_eq_false_iff_ne.mpr here]
        rfl
    rw [step, ih, List.lookup_cons]
    by_cases same : field = other
    · subst same
      split_ifs <;> simp
    · have apart : name ≠ other.spelling documented := fun here => same
        (Field.eq_of_mem_names own (here ▸ Field.spelling_mem_names documented other))
      rw [if_neg apart, beq_eq_false_iff_ne.mpr same]

end Draft

namespace Projection

/-- A document has for a field the value that is given, in whichever spelling. -/
theorem memberOf_spelled (documented : Field → Bool) (draft : Draft) (field : Field) :
    memberOf (draft.spelled documented) field =
      (draft.lookup field).map fun value => (field.spelling documented, value) := by
  have key := Draft.lookup_spelled documented draft field.key_mem_names
  have column := Draft.lookup_spelled documented draft field.column_mem_names
  rw [memberOf, key, column]
  cases given : draft.lookup field with
  | none => simp
  | some value =>
    by_cases byKey : documented field
    · simp [Field.spelling, byKey]
    · -- The names in the registry and in documents may be the same.
      by_cases same : field.key = field.column <;> simp [Field.spelling, byKey, same]

section ThreeWays

variable {projection : Projection} {draft : Draft}

/-- A draft gives the projection that shows its values. -/
theorem ofDraft_of_value (same : ∀ field, projection.entry.value field = draft.value field) :
    ofDraft draft = .ok projection := by
  have shown : projection.ShownBy fun field => some (field.column, draft.value field) :=
    fun field => .inl ⟨field.column, by rw [same]⟩
  rw [ofDraft, ofValues, ofFields_of_shownBy shown, orFault]

/-- So does each document that has its values. -/
theorem ofDocument_spelled (same : ∀ field, projection.entry.value field = draft.value field)
    (documented : Field → Bool) :
    ofDocument (.object (draft.spelled documented)) = .ok projection := by
  have shown : projection.ShownBy (memberOf (draft.spelled documented)) := by
    intro field
    rw [memberOf_spelled, same, Draft.value]
    cases draft.lookup field with
    | some value => exact .inl ⟨_, rfl⟩
    | none => exact .inr ⟨rfl, rfl⟩
  rw [ofDocument, ofFields_of_shownBy shown, orFault]

theorem toJson_of_value (same : ∀ field, projection.entry.value field = draft.value field) :
    projection.toJson = draft.document := by
  have all : Field.all.map (fun field => (field.key, projection.entry.value field)) =
      Field.all.map fun field => (field.key, draft.value field) :=
    List.map_congr_left fun field _ => by rw [same]
  exact congrArg Json.object all

end ThreeWays

end Projection

/-! ## Texts -/

/-- The text of the projection of an entry that is made from named values. -/
def namedText (fields : List (String × Json)) : Except Fault String := do
  let draft ← Draft.ofNamed fields
  let projection ← Projection.ofDraft draft
  return projection.toJson.print

/-- The text of the projection that a document describes. -/
def documentText (value : Json) : Except Fault String := do
  let projection ← Projection.ofDocument value
  return projection.toJson.print

/-- The document of a draft is one that gives all fields under their names in documents. -/
theorem Draft.document_eq_spelled (draft : Draft) :
    draft.document = .object (Draft.spelled (fun _ => true)
      (Field.all.map fun field => (field, draft.value field))) := by
  rw [document, spelled, List.map_map]
  rfl

theorem Draft.value_all (draft : Draft) (field : Field) :
    Draft.value (Field.all.map fun field => (field, draft.value field)) field =
      draft.value field := by
  cases field <;> rfl

/-- Values for the ten fields, of which those without a default are given, make one text: as the
values of an entry under the names in the registry, as a document in any mixture of the two
spellings, and as the document that is read from this text. The text has all ten fields, with the
defaults for those that are not given. -/
theorem texts_agree (draft : Draft)
    (given : ∀ field ∈ [Field.id, .serviceId, .name], field ∈ draft.map Prod.fst)
    (takes : ∀ member ∈ draft, member.1.Takes member.2) :
    let text := draft.document.print
    namedText draft.named = .ok text ∧
      (∀ documented : Field → Bool, documentText (.object (draft.spelled documented)) = .ok text) ∧
      ∃ value, Json.readDocument (Text.utf8Encode text.toList) = .ok value ∧
        documentText value = .ok text := by
  intro text
  obtain ⟨projection, same, id, order⟩ :=
    Projection.exists_of_takes (Draft.value_takes given takes)
  have shown := Projection.toJson_of_value same
  have fits : Json.Fits Number.digitLimit (989 + 1) projection.toJson :=
    Http.fits_projection id order
  have again : documentText draft.document = .ok text := by
    rw [documentText, Draft.document_eq_spelled,
      Projection.ofDocument_spelled fun field => (same field).trans (draft.value_all field).symm]
    exact congrArg (fun value => Except.ok value.print) shown
  refine ⟨?_, fun documented => ?_, draft.document, ?_, again⟩
  · rw [namedText, Draft.ofNamed_named]
    show Projection.ofDraft draft >>= _ = _
    rw [Projection.ofDraft_of_value same]
    exact congrArg (fun value => Except.ok value.print) shown
  · rw [documentText, Projection.ofDocument_spelled same]
    exact congrArg (fun value => Except.ok value.print) shown
  · have printed : text.toList = draft.document.printValue := String.toList_ofList
    rw [printed, ← shown]
    exact Json.readDocument_print fits

/-- Half of the fields are given, in an order of their own and in both spellings. -/
theorem texts_agree_mixed :
    let draft : Draft := [(.serviceId, .text "^https://é"), (.name, .text "a\nb"),
      (.evaluationOrder, .int (-3)), (.id, .int 7), (.theme, .null)]
    (∀ field ∈ [Field.id, .serviceId, .name], field ∈ draft.map Prod.fst) ∧
      (∀ member ∈ draft, member.1.Takes member.2) ∧
      namedText [("service_id", .text "^https://é"), ("name", .text "a\nb"),
          ("evaluation_order", .int (-3)), ("id", .int 7), ("theme", .null)] =
        documentText (.object [("serviceId", .text "^https://é"), ("name", .text "a\nb"),
          ("evaluation_order", .int (-3)), ("id", .int 7), ("theme", .null)]) := by
  intro draft
  have given : ∀ field ∈ [Field.id, .serviceId, .name], field ∈ draft.map Prod.fst := by decide
  have small {n : Int} (h : n.natAbs < 10) : n.natAbs < 10 ^ Number.digitLimit :=
    Nat.lt_of_lt_of_le h (Nat.le_self_pow (by decide) 10)
  have takes : ∀ member ∈ draft, member.1.Takes member.2 := by
    simp only [draft, List.forall_mem_cons]
    exact ⟨.text rfl, .text rfl, .number rfl (small (by decide)), .number rfl (small (by decide)),
      .null rfl, nofun⟩
  obtain ⟨named, documents, -⟩ := texts_agree draft given takes
  exact ⟨given, takes, named.trans (documents fun field => field = .serviceId).symm⟩

end ServiceRegistry
