import Mathlib.Data.List.Forall2
import Mathlib.Tactic.SplitIfs
import ServiceRegistry.Form.Submission
import ServiceRegistry.Proofs.Run

/-!
# What can be wrong with a submitted form

Results:

* `Form.Multipart.Few`: as many texts and files as a form in parts may have.
* `Form.length_fieldsOf`: a request submits at most one field more than its body has bytes, or as
  many as a form in parts may have.
* `IssueWith.Submitted`: an issue at one of the first positions, with a value that fits.
* `Form.fieldsOf_stops`, `Form.submittedId_stops`, `Form.submittedIds_stops`: the faults of forms.
* `Form.Platform.Garbles`: values that are not shown without a surrogate, and
  `Form.submittedId_of_garbles`, `Form.submittedIds_of_garbles`: what becomes of them as ids.
-/

namespace ServiceRegistry

namespace Form

open Text (splitAt)

/-! ## How many fields there are -/

theorem length_splitAt (separator : Char) (cs : List Char) :
    (splitAt separator cs).length ≤ cs.length + 1 := by
  induction cs with
  | nil => exact Nat.le_refl 1
  | cons c rest ih =>
    rw [splitAt, List.length_cons]
    split_ifs
    · rw [List.length_cons]
      omega
    · split
      next => simp
      next parts =>
        rw [parts] at ih
        simp only [List.length_cons] at ih ⊢
        omega

theorem length_formPairs (keepBlank : Bool) (cs : List Char) :
    (formPairs keepBlank cs).length ≤ cs.length + 1 :=
  Nat.le_trans (List.length_filterMap_le _ _) (length_splitAt '&' cs)

namespace Multipart

variable {platform : Platform} {charset : String} {mark bytes : List UInt8}
  {done fields : List Field}

/-- As many files and texts as a form may have. -/
structure Few (fields : List Field) : Prop where
  files : fields.countP isFile ≤ fileLimit
  texts : fields.countP (!isFile ·) ≤ fieldLimit

theorem Few.nil : Few [] :=
  ⟨Nat.zero_le _, Nat.zero_le _⟩

theorem Few.reverse (few : Few fields) : Few fields.reverse :=
  ⟨by rw [List.countP_reverse]; exact few.files, by rw [List.countP_reverse]; exact few.texts⟩

theorem Few.length (few : Few fields) : fields.length ≤ fieldLimit + fileLimit := by
  have count := List.length_eq_countP_add_countP isFile (l := fields)
  have texts := few.texts
  have files := few.files
  simp only [Bool.not_eq_true, Bool.decide_eq_false] at count
  omega

/-- The head of a part is read only where there is room for its field. -/
theorem room_of_partHead {lines : List (List UInt8 × List UInt8)} {head : PartHead}
    (h : partHead platform charset done lines = .ok head) :
    if head.fileName.isSome then done.countP isFile < fileLimit
    else done.countP (!isFile ·) < fieldLimit := by
  unfold partHead at h
  simp only at h
  split at h
  next => cases h
  next =>
    obtain ⟨name, -, h⟩ := bind_eq_ok.mp h
    split at h
    next =>
      split_ifs at h with full
      · cases h
      · obtain ⟨fileName, -, h⟩ := bind_eq_ok.mp h
        obtain rfl := Except.ok.inj h
        simpa using full
    next =>
      split_ifs at h with full
      · cases h
      · obtain rfl := Except.ok.inj h
        simpa using full

theorem isFile_of_partField {head : PartHead} {field : Field}
    (h : partField platform charset head bytes = .ok field) :
    isFile field = head.fileName.isSome := by
  unfold partField at h
  split at h
  next some =>
    obtain rfl := Except.ok.inj h
    rw [some]
    rfl
  next none =>
    rw [none]
    split_ifs at h
    cases text : decodeIn platform charset bytes with
    | error fault =>
      rw [text] at h
      cases h
    | ok text' =>
      rw [text] at h
      obtain rfl := Except.ok.inj h
      rfl

theorem Few.cons (few : Few done) {lines : List (List UInt8 × List UInt8)} {head : PartHead}
    (read : partHead platform charset done lines = .ok head) {field : Field}
    (h : partField platform charset head bytes = .ok field) : Few (field :: done) := by
  have room := room_of_partHead read
  rw [← isFile_of_partField h] at room
  have files := few.files
  have texts := few.texts
  by_cases file : isFile field = true
  · rw [if_pos file] at room
    constructor
    · rw [List.countP_cons_of_pos file]
      exact room
    · rw [List.countP_cons_of_neg (by simp [file])]
      exact texts
  · rw [if_neg file] at room
    constructor
    · rw [List.countP_cons_of_neg file]
      exact files
    · rw [List.countP_cons_of_pos (by simpa using file)]
      exact room

theorem few_fieldsFrom {fuel : Nat} (few : Few done)
    (h : fieldsFrom platform charset mark fuel done bytes = .ok fields) : Few fields := by
  induction fuel generalizing done bytes with
  | zero =>
    obtain rfl := Except.ok.inj h
    exact few.reverse
  | succ fuel ih =>
    rw [fieldsFrom] at h
    split at h
    next =>
      obtain rfl := Except.ok.inj h
      exact few.reverse
    next => cases h
    next =>
      split at h
      next => cases h
      next head read =>
        split at h
        next =>
          split_ifs at h
          obtain rfl := Except.ok.inj h
          exact few.reverse
        next => cases h
        next value ending rest _ =>
          split at h
          next => cases h
          next field given =>
            have more := few.cons read given
            cases ending with
            | another => exact ih more h
            | last =>
              obtain rfl := Except.ok.inj h
              exact more.reverse

theorem few_fields {contentType : HeaderValue}
    (h : Multipart.fields platform contentType bytes = .ok fields) : Few fields := by
  unfold Multipart.fields fieldsWithin at h
  simp only at h
  repeat' split at h
  all_goals first
    | cases h; done
    | exact few_fieldsFrom .nil h
    | (obtain rfl := Except.ok.inj h; exact .nil)

end Multipart

variable {platform : Platform}

/-- The positions of the fields of a request. -/
def positionLimit (request : Http.Request) : Nat :=
  max request.body.length (Multipart.fieldLimit + Multipart.fileLimit)

/-- A field of a form in the encoding of addresses takes at least one byte, but for the first. -/
theorem length_fieldsOf {request : Http.Request} {fields : List Field}
    (h : fieldsOf platform request = .ok fields) : fields.length ≤ positionLimit request + 1 := by
  unfold fieldsOf at h
  unfold positionLimit
  simp only at h
  split at h
  next =>
    split at h
    next parts =>
      obtain rfl := Except.ok.inj h
      have := (Multipart.few_fields parts).length
      omega
    next => cases h
  next =>
    split at h
    next =>
      obtain rfl := Except.ok.inj h
      have := length_formPairs true (Text.latin1Decode request.body)
      rw [show (Text.latin1Decode request.body).length = request.body.length from
        List.length_map _] at this
      rw [List.length_map]
      omega
    next =>
      obtain rfl := Except.ok.inj h
      exact Nat.zero_le _

theorem length_fieldValues (name : String) (fields : List Field) :
    (fieldValues name fields).length ≤ fields.length := by
  rw [fieldValues, List.length_map]
  exact List.length_filter_le _ _

theorem fieldValues_ofPair (name : String) (pairs : List (String × String)) :
    fieldValues name (pairs.map Field.ofPair) =
      (valuesOf name pairs).map fun s => .text (.whole s) := by
  have named (pair : String × String) :
      ((Field.ofPair pair).name == Text.Loose.whole name) = (pair.1 == name) := by
    rw [Bool.eq_iff_iff, beq_iff_eq, beq_iff_eq, Field.ofPair, Text.Loose.whole.injEq]
  unfold fieldValues valuesOf
  rw [List.filter_map, List.map_map, List.map_map]
  simp only [Function.comp_def, named]
  rfl

end Form

/-! ## Issues -/

/-- An issue at one of the positions up to a limit, with a value that fits if no text in it has a
surrogate. -/
def IssueWith.Submitted (limit : Nat) (issue : IssueWith Shown) : Prop :=
  (∀ position, .index position ∈ issue.place → position ≤ limit) ∧
    ∀ value, issue.input.plain? = some value → value.Fits Number.digitLimit Form.viewDepth

section Checks

variable {ι α : Type} {valid : ι → Except IssueKind α} {place : List Step}

theorem Checked.located_eq_error {value : ι} {issues : List (IssueWith ι)}
    (h : Checked.located place valid value = .error issues) :
    ∃ kind, issues = [⟨kind, place, value⟩] := by
  unfold Checked.located at h
  split at h
  next => cases h
  next kind _ => exact ⟨kind, (Except.error.inj h).symm⟩

/-- A list is accepted if each of its values is. -/
theorem Checked.each_eq_ok_iff {position : Nat} {values : List ι} {results : List α} :
    Checked.each valid place position values = .ok results ↔
      List.Forall₂ (fun value result => valid value = .ok result) values results := by
  induction values generalizing position results with
  | nil =>
    rw [List.forall₂_nil_left_iff]
    exact ⟨fun h => (Except.ok.inj h).symm, fun h => h ▸ rfl⟩
  | cons value rest ih =>
    rw [Checked.each, Checked.located, List.forall₂_cons_left_iff]
    cases first : valid value with
    | error kind =>
      constructor
      · intro h
        cases others : Checked.each valid place (position + 1) rest <;> rw [others] at h <;> cases h
      · rintro ⟨_, _, ⟨⟩, -, -⟩
    | ok result =>
      cases others : Checked.each valid place (position + 1) rest with
      | error issues =>
        constructor
        · rintro ⟨⟩
        · rintro ⟨_, more, -, all, -⟩
          rw [ih.mpr all] at others
          cases others
      | ok more =>
        have all := ih.mp others
        constructor
        · intro h
          exact ⟨result, more, rfl, all, (Except.ok.inj h).symm⟩
        · rintro ⟨result', more', same, all', rfl⟩
          obtain rfl := Except.ok.inj same
          rw [ih.mpr all'] at others
          obtain rfl := Except.ok.inj others
          rfl

/-- The issues with a list stand at the positions of its values. -/
theorem Checked.each_eq_error {position : Nat} {values : List ι} {issues : List (IssueWith ι)}
    (h : Checked.each valid place position values = .error issues) :
    ∀ issue ∈ issues, ∃ n < values.length,
      issue.place = place ++ [.index (position + n)] ∧ issue.input ∈ values := by
  induction values generalizing position issues with
  | nil => cases h
  | cons value rest ih =>
    rw [Checked.each] at h
    have first : ∀ issues, Checked.located (place ++ [.index position]) valid value =
        .error issues → ∀ issue ∈ issues, ∃ n < (value :: rest).length,
          issue.place = place ++ [.index (position + n)] ∧ issue.input ∈ value :: rest := by
      intro issues h issue mem
      obtain ⟨kind, rfl⟩ := Checked.located_eq_error h
      rw [List.mem_singleton.mp mem]
      exact ⟨0, Nat.zero_lt_succ _, rfl, List.mem_cons_self⟩
    have others : ∀ issues, Checked.each valid place (position + 1) rest = .error issues →
        ∀ issue ∈ issues, ∃ n < (value :: rest).length,
          issue.place = place ++ [.index (position + n)] ∧ issue.input ∈ value :: rest := by
      intro issues h issue mem
      obtain ⟨n, lt, stands, input⟩ := ih h issue mem
      refine ⟨n + 1, Nat.succ_lt_succ lt, ?_, List.mem_cons_of_mem value input⟩
      rw [stands, Nat.add_assoc, Nat.add_comm 1 n]
    generalize Checked.located (place ++ [.index position]) valid value = head at h first
    generalize Checked.each valid place (position + 1) rest = tail at h others
    rcases head with more | head <;> rcases tail with more' | tail
    · obtain rfl := Except.error.inj h
      intro issue mem
      rcases List.mem_append.mp mem with mem | mem
      · exact first _ rfl issue mem
      · exact others _ rfl issue mem
    · obtain rfl := Except.error.inj h
      exact first _ rfl
    · obtain rfl := Except.error.inj h
      exact others _ rfl
    · cases h

/-- A value of a list that is not accepted is the input of an issue. -/
theorem Checked.each_of_invalid {position : Nat} {values : List ι} {value : ι} {kind : IssueKind}
    (mem : value ∈ values) (invalid : valid value = .error kind) :
    ∃ issues, Checked.each valid place position values = .error issues ∧
      ∃ issue ∈ issues, issue.input = value := by
  induction values generalizing position with
  | nil => cases mem
  | cons first rest ih =>
    rw [Checked.each]
    rcases List.mem_cons.mp mem with rfl | mem
    · rw [Checked.located, invalid]
      cases Checked.each valid place (position + 1) rest with
      | ok more => exact ⟨_, rfl, _, List.mem_singleton_self _, rfl⟩
      | error issues => exact ⟨_, rfl, _, List.mem_append_left _ (List.mem_singleton_self _), rfl⟩
    · obtain ⟨issues, others, issue, found, input⟩ := ih mem
      rw [others]
      cases Checked.located (place ++ [.index position]) valid first with
      | ok more => exact ⟨issues, rfl, issue, found, input⟩
      | error head => exact ⟨_, rfl, issue, List.mem_append_right _ found, input⟩

end Checks

namespace Form

/-! ## Faults -/

theorem index_notMem_idPlace (position : Nat) : Step.index position ∉ idPlace := by
  simp [idPlace]

variable {platform : Platform}

/-- What is shown of a value fits. -/
theorem fits_shown {value : Value} {given : Json}
    (plain : (platform.shown value).plain? = some given) :
    given.Fits Number.digitLimit viewDepth := by
  match value, plain with
  | .text (.whole s), plain =>
    obtain rfl := Option.some.inj plain
    exact .text s
  | .text (.garbled text), plain => cases plain
  | .file file, plain => exact platform.fits file given plain

/-- A value that is not shown without a surrogate. -/
def Platform.Garbles (platform : Platform) (value : Value) : Prop :=
  (platform.shown value).plain? = none

/-- It is no id. -/
theorem validId_of_garbles {value : Value} (garbles : platform.Garbles value) :
    ∃ kind, validId value = .error kind := by
  match value, garbles with
  | .text (.whole s), garbles => cases garbles
  | .text (.garbled text), _ => exact ⟨_, rfl⟩
  | .file file, _ => exact ⟨_, rfl⟩

theorem orRefusal_eq_error {α : Type} {checked : CheckedFrom Value α} {fault : Fault}
    (h : orRefusal platform checked = .error fault) :
    ∃ issues, checked = .error issues ∧
      fault = .invalidForm (issues.map (·.map platform.shown)) := by
  unfold orRefusal at h
  split at h
  next => cases h
  next issues => exact ⟨issues, rfl, (Except.error.inj h).symm⟩

/-- Ids that are submitted are the values of their field, each read as a whole number. -/
theorem submittedIds_eq_some {fields : List Field} {ids : List Int}
    (h : submittedIds platform fields = .ok (some ids)) :
    fieldValues idField fields ≠ [] ∧
      Checked.each validId idPlace 0 (fieldValues idField fields) = .ok ids := by
  unfold submittedIds at h
  split at h
  next => cases h
  next some =>
    refine ⟨some, ?_⟩
    generalize Checked.each validId idPlace 0 _ = checked at h
    cases checked with
    | error issues => cases h
    | ok read => rw [Option.some.inj (Except.ok.inj h)]

theorem fieldsOf_stops {request : Http.Request} {fault : Fault}
    (h : fieldsOf platform request = .error fault) : ∃ detail, fault = .refused 400 detail := by
  unfold fieldsOf at h
  simp only at h
  split_ifs at h
  split at h
  next => cases h
  next => exact ⟨_, (Except.error.inj h).symm⟩

/-- The issue with an id is at its place, and its input is the last value or a missing one. -/
theorem submittedId_stops {fields : List Field} {fault : Fault}
    (h : submittedId platform fields = .error fault) (limit : Nat) :
    ∃ issues, fault = .invalidForm issues ∧ ∀ issue ∈ issues, issue.Submitted limit ∧
      (issue.input.plain? = none → ∃ value, (fieldValues idField fields).getLast? = some value ∧
        platform.Garbles value) := by
  have place : ∀ position, .index position ∈ idPlace → position ≤ limit :=
    fun position mem => absurd mem (index_notMem_idPlace position)
  have missing : IssueWith.Submitted limit ⟨.missing, idPlace, .plain .null⟩ :=
    ⟨place, fun value same => Option.some.inj same ▸ .null⟩
  unfold submittedId at h
  split at h
  next => exact ⟨_, (Except.error.inj h).symm, by simpa [Shown.plain?] using missing⟩
  next => exact ⟨_, (Except.error.inj h).symm, by simpa [Shown.plain?] using missing⟩
  next value _ last =>
    obtain ⟨issues, located, rfl⟩ := orRefusal_eq_error h
    obtain ⟨kind, rfl⟩ := Checked.located_eq_error located
    refine ⟨_, rfl, fun issue mem => ?_⟩
    rw [List.map_singleton, List.mem_singleton] at mem
    rw [mem]
    exact ⟨⟨place, fun given plain => fits_shown plain⟩, fun garbles => ⟨value, last, garbles⟩⟩

/-- The issues with ids are at their positions, and the input of each is one of the values. -/
theorem submittedIds_stops {fields : List Field} {fault : Fault}
    (h : submittedIds platform fields = .error fault) {limit : Nat}
    (few : fields.length ≤ limit + 1) :
    ∃ issues, fault = .invalidForm issues ∧ ∀ issue ∈ issues, issue.Submitted limit ∧
      (issue.input.plain? = none → ∃ value ∈ fieldValues idField fields,
        platform.Garbles value) := by
  unfold submittedIds at h
  split at h
  next => cases h
  next =>
    obtain ⟨issues, each, rfl⟩ := orRefusal_eq_error (map_eq_error.mp h)
    refine ⟨_, rfl, fun issue mem => ?_⟩
    obtain ⟨own, mem', rfl⟩ := List.mem_map.mp mem
    obtain ⟨n, lt, stands, given⟩ := Checked.each_eq_error each own mem'
    have fewer := length_fieldValues idField fields
    refine ⟨⟨fun position mem => ?_, fun given plain => fits_shown plain⟩,
      fun garbles => ⟨own.input, given, garbles⟩⟩
    rw [show (own.map platform.shown).place = own.place from rfl, stands] at mem
    rcases List.mem_append.mp mem with mem | mem
    · exact absurd mem (index_notMem_idPlace position)
    · obtain ⟨⟩ := List.mem_singleton.mp mem
      omega

/-- A last value that is garbled is refused, and the refusal shows it. -/
theorem submittedId_of_garbles {fields : List Field} {value : Value}
    (last : (fieldValues idField fields).getLast? = some value)
    (garbles : platform.Garbles value) :
    ∃ issues, submittedId platform fields = .error (.invalidForm issues) ∧
      ∃ issue ∈ issues, issue.input.plain? = none := by
  obtain ⟨kind, invalid⟩ := validId_of_garbles garbles
  unfold submittedId
  rw [last]
  split
  next none => cases none
  next blank =>
    obtain rfl := Option.some.inj blank
    cases garbles
  next value' _ same =>
    obtain rfl := Option.some.inj same
    rw [Checked.located, invalid]
    exact ⟨_, rfl, _, List.mem_singleton_self _, garbles⟩

/-- Each garbled value of a list is refused, and the refusal shows it. -/
theorem submittedIds_of_garbles {fields : List Field} {value : Value}
    (mem : value ∈ fieldValues idField fields) (garbles : platform.Garbles value) :
    ∃ issues, submittedIds platform fields = .error (.invalidForm issues) ∧
      ∃ issue ∈ issues, issue.input.plain? = none := by
  obtain ⟨kind, invalid⟩ := validId_of_garbles garbles
  have stops : ∃ issues, Checked.each validId idPlace 0 (fieldValues idField fields) =
      .error issues ∧ ∃ issue ∈ issues, issue.input = value :=
    Checked.each_of_invalid mem invalid
  obtain ⟨issues, each, issue, found, rfl⟩ := stops
  unfold submittedIds
  split
  next none =>
    rw [none] at mem
    cases mem
  next =>
    rw [each]
    exact ⟨_, rfl, _, List.mem_map_of_mem found, garbles⟩

end Form

end ServiceRegistry
