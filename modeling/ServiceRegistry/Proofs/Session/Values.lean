import ServiceRegistry.Proofs.Run
import ServiceRegistry.Proofs.Session.Ledger

/-!
# Rows from given values

The values of a row are given under the names of its fields. A row has exactly these values, or it
is refused for one of them.

Results:

* `Gives`: what holds of the result of an operation and of the fault that it stops with.
* `MayAdd.cases`, `MayUpdate.cases`: what a value may be given for.
* `ofNamed_eq`, `lookup_known`: a draft has the values that are given under the names of fields.
* `rowOf_gives`: a row has the values that it is made from.
* `insert_gives`, `update_gives`: the changes of rows.
-/

namespace ServiceRegistry

open Database (isStorable)

/-! ## Results and faults -/

/-- An operation gives something good, or stops with a fault that is due. -/
def Gives {α : Type} (good : α → Prop) (due : Fault → Prop) : Except Fault α → Prop
  | .ok a => good a
  | .error fault => due fault

section Gives

variable {α β : Type} {good : α → Prop} {due : Fault → Prop}

theorem Gives.bind {first : Except Fault α} {next : α → Except Fault β} {fine : β → Prop}
    (h : Gives good due first) (more : ∀ a, good a → Gives fine due (next a)) :
    Gives fine due (first >>= next) := by
  cases first with
  | ok a => exact more a h
  | error fault => exact h

theorem Gives.mono {result : Except Fault α} {fine : α → Prop} {owed : Fault → Prop}
    (h : Gives good due result) (better : ∀ a, good a → fine a)
    (wider : ∀ fault, due fault → owed fault) : Gives fine owed result := by
  cases result with
  | ok a => exact better a h
  | error fault => exact wider fault h

end Gives

/-! ## Names of fields -/

theorem Field.ofColumn?_column (field : Field) : Field.ofColumn? field.column = some field := by
  cases field <;> decide +kernel

theorem Field.ofColumn?_eq_some {name : String} {field : Field}
    (h : Field.ofColumn? name = some field) : name = field.column := by
  have same : (field.column == name) = true :=
    List.find?_some (p := fun field : Field => field.column == name) h
  exact (beq_iff_eq.mp same).symm

theorem Field.column_inj {field other : Field} (h : field.column = other.column) :
    field = other := by
  have := Field.ofColumn?_column field
  rw [h, Field.ofColumn?_column] at this
  exact (Option.some.inj this).symm

theorem Field.mem_all (field : Field) : field ∈ Field.all := by
  cases field <;> decide

/-! ## Values of rows -/

/-- The values of a row in a field of a kind. -/
inductive Field.Kind.Holds : Field.Kind → Json → Prop
  | number {n : Int} : isStorable n = true → Holds .number (.int n)
  | text (s : String) : Holds .text (.text s)
  | flag (b : Bool) : Holds .flag (.bool b)

/-- A value that may be given is one that a row can have, or a number that is too large. -/
theorem Field.Kind.Fits.cases {kind : Field.Kind} {value : Json} (fits : kind.Fits value) :
    kind.Holds value ∨ ∃ n, value = .int n ∧ isStorable n = false := by
  cases fits with
  | number n =>
    cases storable : isStorable n with
    | true => exact .inl (.number storable)
    | false => exact .inr ⟨n, rfl, storable⟩
  | text s => exact .inl (.text s)
  | flag b => exact .inl (.flag b)
  | large storable => exact .inr ⟨_, rfl, storable⟩

/-! ## Given values -/

theorem mem_of_lookup {κ α : Type} [BEq κ] [LawfulBEq κ] {members : List (κ × α)} {key : κ}
    {value : α} (given : members.lookup key = some value) : (key, value) ∈ members := by
  obtain ⟨before, after, rfl, -⟩ := List.lookup_eq_some_iff.mp given
  simp

namespace Session

/-- The times of a row are no fields and have no effect on a draft. -/
theorem time_spec {name : String} (time : name ∈ timeNames) :
    Field.ofColumn? name = none ∧ Draft.silentNames.contains name = true := by
  have all : ∀ name ∈ timeNames,
      Field.ofColumn? name = none ∧ Draft.silentNames.contains name = true := by decide +kernel
  exact all name time

theorem column_notMem_timeNames (field : Field) : field.column ∉ timeNames := fun time => by
  have unknown := (time_spec time).1
  rw [Field.ofColumn?_column] at unknown
  cases unknown

/-- A value for a new row is given for a field or for a time. -/
theorem MayAdd.cases {name : String} {value : Json} (may : MayAdd (name, value)) :
    (∃ field : Field, name = field.column ∧
      (field.kind.Fits value ∨ value = .null ∧ field.kind = .text)) ∨
      name ∈ timeNames ∧ value ≠ .null := by
  cases may with
  | fits fits => exact .inl ⟨_, rfl, .inl fits⟩
  | null text => exact .inl ⟨_, rfl, .inr ⟨rfl, text⟩⟩
  | time time => exact .inr ⟨time, nofun⟩

theorem MayAdd.spec {field : Field} {value : Json} (may : MayAdd (field.column, value)) :
    field.kind.Fits value ∨ value = .null ∧ field.kind = .text := by
  rcases may.cases with ⟨own, same, fits⟩ | ⟨time, -⟩
  · exact Field.column_inj same ▸ fits
  · exact absurd time (column_notMem_timeNames field)

/-- A change is given for a field other than the id or for a time. -/
theorem MayUpdate.cases {name : String} {value : Json} (may : MayUpdate (name, value)) :
    (∃ field : Field, name = field.column ∧ field ≠ .id ∧
      (field.kind.Fits value ∨ value = .null)) ∨ name ∈ timeNames := by
  cases may with
  | fits other fits => exact .inl ⟨_, rfl, other, .inl fits⟩
  | null other => exact .inl ⟨_, rfl, other, .inr rfl⟩
  | time time => exact .inr time
  | nullTime time => exact .inr time

theorem MayUpdate.spec {field : Field} {value : Json} (may : MayUpdate (field.column, value)) :
    field ≠ .id ∧ (field.kind.Fits value ∨ value = .null) := by
  rcases may.cases with ⟨own, same, fits⟩ | time
  · exact Field.column_inj same ▸ fits
  · exact absurd time (column_notMem_timeNames field)

theorem known_cons_of_some {name : String} {field : Field}
    (h : Field.ofColumn? name = some field) (value : Json) (rest : List (String × Json)) :
    Draft.known ((name, value) :: rest) = (field, value) :: Draft.known rest := by
  simp [Draft.known, h]

theorem known_cons_of_none {name : String} (h : Field.ofColumn? name = none) (value : Json)
    (rest : List (String × Json)) : Draft.known ((name, value) :: rest) = Draft.known rest := by
  simp [Draft.known, h]

/-- A draft has the values that are given under the names of fields. -/
theorem lookup_known (fields : List (String × Json)) (field : Field) :
    (Draft.known fields).lookup field = fields.lookup field.column := by
  induction fields with
  | nil => rfl
  | cons first rest ih =>
    obtain ⟨name, value⟩ := first
    rw [List.lookup_cons, ← ih]
    cases known : Field.ofColumn? name with
    | none =>
      have other : (field.column == name) = false := beq_eq_false_iff_ne.mpr fun same => by
        rw [← same, Field.ofColumn?_column] at known
        cases known
      rw [known_cons_of_none known, other]
    | some own =>
      obtain rfl := Field.ofColumn?_eq_some known
      rw [known_cons_of_some known, List.lookup_cons]
      by_cases same : field = own
      · rw [same, beq_self_eq_true, beq_self_eq_true]
      · rw [beq_eq_false_iff_ne.mpr same,
          beq_eq_false_iff_ne.mpr fun equal => same (Field.column_inj equal)]

theorem ofNamed_eq {fields : List (String × Json)} (may : ∀ field ∈ fields, MayAdd field) :
    Draft.ofNamed fields = .ok (Draft.known fields) := by
  induction fields with
  | nil => rfl
  | cons first rest ih =>
    obtain ⟨name, value⟩ := first
    obtain ⟨this, others⟩ := List.forall_mem_cons.mp may
    rcases this.cases with ⟨field, rfl, -⟩ | ⟨time, -⟩
    · have known := Field.ofColumn?_column field
      rw [known_cons_of_some known]
      simp only [Draft.ofNamed, known, ih others, Except.map]
    · obtain ⟨unknown, silent⟩ := time_spec time
      rw [known_cons_of_none unknown]
      simp only [Draft.ofNamed, unknown, silent, if_true, ih others]

/-! ## Rows -/

section Cells

variable {n : Int}

theorem integerCell_of_storable (fits : isStorable n = true) :
    Database.integerCell (.int n) = .ok n :=
  if_pos fits

theorem integerCell_of_large (large : isStorable n = false) :
    Database.integerCell (.int n) = .error .integerTooLarge :=
  if_neg (by simp [large])

theorem textCell_of_large (large : isStorable n = false) :
    Database.textCell (.int n) = .error .integerTooLarge := by
  simp [Database.textCell, Database.storable, large, Except.map]

/-- A number that does not have 64 bits is neither of the two that stand for truth values. -/
theorem booleanCell_of_large (large : isStorable n = false) :
    Database.booleanCell (.int n) = .error (.storage .statement) := by
  have zero : n ≠ 0 := by
    rintro rfl
    revert large
    decide
  have one : n ≠ 1 := by
    rintro rfl
    revert large
    decide
  simp [Database.booleanCell, zero, one]

end Cells

/-- Only a number in the place of a truth value cannot be bound. -/
theorem isUnbindable_iff {field : Field} {value : Json}
    (may : field.kind.Fits value ∨ value = .null) :
    Database.isUnbindable field value = true ↔ field.kind = .flag ∧ ∃ n, value = .int n := by
  rcases may with fits | rfl
  · rcases fits.cases with holds | ⟨n, rfl, large⟩
    · cases field <;> cases holds <;>
        simp_all [Database.isUnbindable, Json.isNull, Field.kind, integerCell_of_storable,
          Database.textCell, Database.booleanCell]
    · cases field <;>
        simp [Database.isUnbindable, Json.isNull, Field.kind, integerCell_of_large large,
          textCell_of_large large, booleanCell_of_large large]
  · cases field <;> simp [Database.isUnbindable, Json.isNull]

section CellsGive

variable {α : Type} {due : Fault → Prop} {value : Json}

theorem integerCell_gives (holds : Field.Kind.number.Holds value) :
    Gives (fun n => value = .int n ∧ isStorable n = true) due (Database.integerCell value) := by
  cases holds with
  | number fits =>
    rw [integerCell_of_storable fits]
    exact ⟨rfl, fits⟩

theorem textCell_gives (holds : Field.Kind.text.Holds value ∨ value = .null) :
    Gives (fun s => value = .ofText? s ∧ (value ≠ .null → s.isSome = true)) due
      (Database.textCell value) := by
  rcases holds with holds | rfl
  · cases holds with
    | text s => exact ⟨rfl, fun _ => rfl⟩
  · exact ⟨rfl, fun some => absurd rfl some⟩

theorem booleanCell_gives (holds : Field.Kind.flag.Holds value) :
    Gives (fun b => value = .bool b) due (Database.booleanCell value) := by
  cases holds with
  | flag b => exact rfl

theorem notNull_gives {cell : Json → Except Fault α} {good : α → Prop}
    (null : value = .null → due (.storage .integrity))
    (other : value ≠ .null → Gives good due (cell value)) :
    Gives good due (Database.notNull cell value) := by
  unfold Database.notNull
  cases value with
  | null => exact null rfl
  | _ => exact other nofun

end CellsGive

section Row

variable {value : Field → Json}

/-- A required value is refused if it is null. -/
theorem required_gives {α : Type} {cell : Json → Except Fault α} {good : α → Prop} {field : Field}
    (needed : field.isRequired = true) (other : field ≠ .id)
    (gives : value field ≠ .null → Gives good (Refuses value) (cell (value field))) :
    Gives good (Refuses value) (Database.notNull cell (value field)) :=
  notNull_gives (fun null => .null needed other null) gives

theorem requiredText_gives {field : Field} (needed : field.isRequired = true) (other : field ≠ .id)
    (holds : Field.Kind.text.Holds (value field) ∨ value field = .null) :
    Gives (fun s => value field = .ofText? s ∧ s.isSome = true) (Refuses value)
      (Database.textNotNull (value field)) :=
  required_gives needed other fun some =>
    (textCell_gives holds).mono (fun _ is => ⟨is.1, is.2 some⟩) fun _ due => due

theorem requiredFlag_gives {field : Field} (needed : field.isRequired = true) (other : field ≠ .id)
    (holds : Field.Kind.flag.Holds (value field) ∨ value field = .null) :
    Gives (fun b => value field = .bool b) (Refuses value)
      (Database.notNull Database.booleanCell (value field)) :=
  required_gives needed other fun some => booleanCell_gives (holds.resolve_right some)

/-- Values without a large number are such that a row can have, or null. -/
theorem holds_of_small (may : ∀ field, field.kind.Fits (value field) ∨ value field = .null)
    (small : ∀ field n, value field = .int n → isStorable n = true) (field : Field) :
    field.kind.Holds (value field) ∨ value field = .null := by
  refine (may field).imp_left fun fits => fits.cases.resolve_right ?_
  rintro ⟨n, number, large⟩
  rw [small field n number] at large
  cases large

/-- A row has exactly the values that it is made from, or it is refused for one of them. -/
theorem rowOf_gives (may : ∀ field, field.kind.Fits (value field) ∨ value field = .null)
    (id : value .id ≠ .null) :
    Gives (fun row => row.Stored ∧ ∀ field, row.value field = value field) (Refuses value)
      (Database.rowOf value) := by
  unfold Database.rowOf
  by_cases unbindable :
      (Field.all.any fun field => Database.isUnbindable field (value field)) = true
  · obtain ⟨field, -, bad⟩ := List.any_eq_true.mp unbindable
    obtain ⟨flag, n, number⟩ := (isUnbindable_iff (may field)).mp bad
    rw [if_pos unbindable]
    exact Refuses.flag flag number
  rw [if_neg unbindable]
  dsimp only
  split_ifs with tooLarge
  · obtain ⟨field, -, bad⟩ := List.any_eq_true.mp tooLarge
    split at bad
    next n number => exact Refuses.large number (by simpa using bad)
    next => cases bad
  have small (field : Field) (n : Int) (number : value field = .int n) : isStorable n = true := by
    by_contra large
    refine tooLarge (List.any_eq_true.mpr ⟨field, field.mem_all, ?_⟩)
    simpa [number] using large
  have holds := holds_of_small may small
  -- Only nulls can still be refused, each at the field that requires a value.
  refine .bind (notNull_gives (fun null => absurd null id) fun some =>
    integerCell_gives ((holds .id).resolve_right some)) fun _ hid => ?_
  refine .bind (requiredText_gives rfl nofun (holds .serviceId)) fun _ hpattern => ?_
  refine .bind (requiredText_gives rfl nofun (holds .name)) fun _ hname => ?_
  refine .bind (textCell_gives (holds .description)) fun _ hdescription => ?_
  refine .bind (textCell_gives (holds .theme)) fun _ htheme => ?_
  refine .bind (required_gives rfl nofun fun some =>
    integerCell_gives ((holds .evaluationOrder).resolve_right some)) fun _ horder => ?_
  refine .bind (requiredFlag_gives rfl nofun (holds .enabled)) fun _ henabled => ?_
  refine .bind (requiredFlag_gives rfl nofun (holds .ssoEnabled)) fun _ hsso => ?_
  refine .bind (requiredFlag_gives rfl nofun (holds .allowedToProxy)) fun _ hproxy => ?_
  refine .bind (requiredFlag_gives rfl nofun (holds .anonymousAccess)) fun _ hanonymous => ?_
  refine ⟨⟨hid.2, horder.2, hpattern.2, hname.2⟩, fun field => ?_⟩
  cases field
  exacts [hid.1.symm, hpattern.1.symm, hname.1.symm, hdescription.1.symm, htheme.1.symm,
    horder.1.symm, henabled.symm, hsso.symm, hproxy.symm, hanonymous.symm]

end Row

/-! ## Values that may be given -/

section May

variable {fields : List (String × Json)} {field : Field} {value : Json}

/-- The values of a new row fit their fields, but for its id and nulls in the place of texts. -/
theorem valueFor_spec (may : ∀ field ∈ fields, MayAdd field) (other : field ≠ .id) :
    field.kind.Fits (valueFor fields field) ∨
      valueFor fields field = .null ∧ field.kind = .text := by
  unfold valueFor
  cases given : fields.lookup field.column with
  | some value => exact (may _ (mem_of_lookup given)).spec
  | none =>
    cases field
    case id => exact absurd rfl other
    case serviceId | name | description | theme => exact .inr ⟨rfl, rfl⟩
    case evaluationOrder => exact .inl (.number 0)
    case enabled | ssoEnabled | allowedToProxy | anonymousAccess => exact .inl (.flag _)

theorem id_of_mayAdd (may : ∀ field ∈ fields, MayAdd field)
    (given : fields.lookup Field.id.column = some value) : ∃ n, value = .int n := by
  rcases (may _ (mem_of_lookup given)).spec with fits | ⟨-, text⟩
  · cases fits with
    | number n => exact ⟨n, rfl⟩
    | large => exact ⟨_, rfl⟩
  · cases text

theorem valueOver_id (may : ∀ field ∈ fields, MayUpdate field) (old : Entry) :
    valueOver old fields .id = .int old.id := by
  unfold valueOver
  cases given : fields.lookup Field.id.column with
  | some value => exact absurd rfl (may _ (mem_of_lookup given)).spec.1
  | none => rfl

theorem ofText?_fits (s : Option String) :
    Field.Kind.text.Fits (.ofText? s) ∨ Json.ofText? s = .null := by
  cases s with
  | none => exact .inr rfl
  | some s => exact .inl (.text s)

theorem valueOver_spec (may : ∀ field ∈ fields, MayUpdate field) (old : Entry) (field : Field) :
    field.kind.Fits (valueOver old fields field) ∨ valueOver old fields field = .null := by
  unfold valueOver
  cases given : fields.lookup field.column with
  | some value => exact (may _ (mem_of_lookup given)).spec.2
  | none =>
    cases field
    case id | evaluationOrder => exact .inl (.number _)
    case serviceId | name | description | theme => exact ofText?_fits _
    case enabled | ssoEnabled | allowedToProxy | anonymousAccess => exact .inl (.flag _)

end May

/-! ## Changes of rows -/

section Changes

variable {fields : List (String × Json)} {rows : List Entry}

/-- The values of a new row: the given ones and the defaults, with the next id if none is given. -/
def valueNew (rows : List Entry) (fields : List (String × Json)) (field : Field) : Json :=
  if field = .id then (fields.lookup Field.id.column).getD (.int (Database.nextId rows))
  else valueFor fields field

theorem valueNew_of_ne {field : Field} (other : field ≠ .id) :
    valueNew rows fields field = valueFor fields field := if_neg other

theorem insert_eq (may : ∀ field ∈ fields, MayAdd field) (rows : List Entry) :
    Database.insert rows (Draft.known fields) = (do
      let row ← Database.rowOf (valueNew rows fields)
      let rows ← Database.insertRow rows row
      return (rows, row)) := by
  unfold Database.insert
  dsimp only
  congr 2
  funext field
  have value : (Draft.known fields).value field = valueFor fields field := by
    unfold Draft.value valueFor
    rw [lookup_known]
  rw [value]
  by_cases id : field = .id
  · subst id
    unfold valueNew valueFor
    cases given : fields.lookup Field.id.column with
    | none => rfl
    | some value =>
      obtain ⟨n, rfl⟩ := id_of_mayAdd may given
      rfl
  rw [valueNew_of_ne id]
  rcases valueFor_spec may id with fits | ⟨null, text⟩
  · generalize valueFor fields field = value at fits ⊢
    generalize field.kind = kind at fits
    cases fits <;> rfl
  · rw [null]
    cases field <;> first | rfl | cases text

/-- The id of a new row: the given one, or the next one. -/
theorem valueNew_id (may : ∀ field ∈ fields, MayAdd field) (rows : List Entry) :
    ∃ id, valueNew rows fields .id = .int id ∧
      (fields.lookup Field.id.column = some (.int id) ∨
        fields.lookup Field.id.column = none ∧ id = Database.nextId rows) := by
  unfold valueNew
  rw [if_pos rfl]
  cases given : fields.lookup Field.id.column with
  | none => exact ⟨_, rfl, .inr ⟨rfl, rfl⟩⟩
  | some value =>
    obtain ⟨n, rfl⟩ := id_of_mayAdd may given
    exact ⟨n, rfl, .inl rfl⟩

/-- A new row has the given values and an id that is free, or it is refused. -/
theorem insert_gives (may : ∀ field ∈ fields, MayAdd field) (rows : List Entry) :
    Gives
      (fun (after, row) => after = rows ++ [row] ∧ row.Stored ∧
        (∀ field ≠ .id, row.value field = valueFor fields field) ∧
        valueNew rows fields .id = .int row.id ∧ row.id ∉ rows.map Entry.id)
      (fun fault => Refuses (valueNew rows fields) fault ∨
        fault = .storage .integrity ∧
          ∃ id ∈ rows.map Entry.id, valueNew rows fields .id = .int id)
      (Database.insert rows (Draft.known fields)) := by
  obtain ⟨id, given, -⟩ := valueNew_id may rows
  have fits (field : Field) : field.kind.Fits (valueNew rows fields field) ∨
      valueNew rows fields field = .null := by
    by_cases is : field = .id
    · rw [is, given]
      exact .inl (.number id)
    · rw [valueNew_of_ne is]
      exact (valueFor_spec may is).imp_right And.left
  rw [insert_eq may]
  refine .bind ((rowOf_gives fits (by rw [given]; nofun)).mono (fun _ row => row)
    fun _ refused => .inl refused) fun row ⟨stored, values⟩ => ?_
  have own : valueNew rows fields .id = .int row.id := (values .id).symm
  unfold Database.insertRow
  split_ifs with taken
  · exact .inr ⟨rfl, row.id, Database.find_isSome_iff.mp taken, own⟩
  · exact ⟨rfl, stored, fun field other => (values field).trans (valueNew_of_ne other), own,
      fun mem => taken (Database.find_isSome_iff.mpr mem)⟩

/-- A changed row has the given values over its old ones and its old id, or it is refused. -/
theorem update_gives (may : ∀ field ∈ fields, MayUpdate field) (rows : List Entry) (old : Entry) :
    Gives
      (fun (after, row) => after = Database.replace rows old.id row ∧ row.Stored ∧
        row.id = old.id ∧ ∀ field, row.value field = valueOver old fields field)
      (Refuses (valueOver old fields))
      (Database.update rows old (Draft.known fields)) := by
  have values : (fun field => ((Draft.known fields).lookup field).getD (old.value field)) =
      valueOver old fields := by
    funext field
    rw [lookup_known]
    rfl
  have id := valueOver_id may old
  unfold Database.update
  rw [values]
  refine .bind (rowOf_gives (valueOver_spec may old) (by rw [id]; nofun))
    fun row ⟨stored, has⟩ => ?_
  have same : row.id = old.id := Json.int.inj ((has .id).trans id)
  simp only [same, ne_eq, not_true_eq_false, decide_false, Bool.false_and]
  exact ⟨rfl, stored, same, has⟩

/-! ## Times -/

theorem isNull_iff {value : Json} : value.isNull = true ↔ value = .null := by
  cases value <;> simp [Json.isNull]

theorem refuseTimes_gives (fields : List (String × Json)) :
    Gives (fun _ => ∀ name ∈ timeNames, ∀ value, (name, value) ∈ fields → value = .null)
      (RefusesTime fields) (refuseTimes fields) := by
  unfold refuseTimes
  split_ifs with given
  · obtain ⟨⟨name, value⟩, mem, bad⟩ := List.any_eq_true.mp given
    simp only [Bool.and_eq_true, List.contains_iff_mem, Bool.not_eq_true', ← Bool.not_eq_true,
      isNull_iff] at bad
    exact .value bad.1 mem bad.2
  · intro name time value mem
    by_contra some
    refine given (List.any_eq_true.mpr ⟨(name, value), mem, ?_⟩)
    have kept : (!value.isNull) = true := by rwa [Bool.not_eq_true', ← Bool.not_eq_true, isNull_iff]
    exact Bool.and_eq_true_iff.mpr ⟨List.contains_iff_mem.mpr time, kept⟩

theorem refuseNullTimes_gives (fields : List (String × Json)) :
    Gives (fun _ => ∀ name ∈ timeNames, (name, .null) ∉ fields)
      (RefusesTime fields) (refuseNullTimes fields) := by
  unfold refuseNullTimes
  split_ifs with given
  · obtain ⟨⟨name, value⟩, mem, bad⟩ := List.any_eq_true.mp given
    simp only [Bool.and_eq_true, List.contains_iff_mem, isNull_iff] at bad
    obtain ⟨time, rfl⟩ := bad
    exact .null time mem
  · intro name time mem
    refine given (List.any_eq_true.mpr ⟨(name, .null), mem, ?_⟩)
    exact Bool.and_eq_true_iff.mpr ⟨List.contains_iff_mem.mpr time, rfl⟩

/-- For a new row no null is given in the place of a time. -/
theorem null_notMem_of_mayAdd (may : ∀ field ∈ fields, MayAdd field) {name : String}
    (time : name ∈ timeNames) : (name, Json.null) ∉ fields := by
  intro mem
  rcases (may _ mem).cases with ⟨field, rfl, -⟩ | ⟨-, some⟩
  · exact column_notMem_timeNames field time
  · exact some rfl

theorem not_refusesTime
    (values : ∀ name ∈ timeNames, ∀ value, (name, value) ∈ fields → value = .null)
    (nulls : ∀ name ∈ timeNames, (name, Json.null) ∉ fields) (fault : Fault) :
    ¬ RefusesTime fields fault := by
  rintro (⟨time, mem, some⟩ | ⟨time, mem⟩)
  · exact some (values _ time _ mem)
  · exact nulls _ time mem

end Changes

end Session

end ServiceRegistry
