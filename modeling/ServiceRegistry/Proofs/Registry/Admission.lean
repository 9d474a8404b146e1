import Mathlib.Data.List.Basic
import ServiceRegistry.Registry.Basic

/-!
# Which addresses some entries admit

Results:

* `Admitted`: some entry admits an address.
* `anyAdmits_eq_true`, `anyAdmits_eq_false_iff`, `anyAdmits_eq_error_iff`: what the search over a
  list of entries says about them. It looks at the entries from the front, so an entry whose
  pattern stops it counts only if none before it admits the address.
* `anyAdmits_cases`: the three ways in which a search ends.
* `anyAdmits_stops`: a search is only stopped by a pattern that cannot be read.
* `admits_newEntry`, `admits_empty`: an entry that is made for an address admits it, and no entry
  admits the empty one.
-/

namespace ServiceRegistry

/-- Some entry admits the address. -/
def Admitted (address : String) (entries : List Entry) : Prop :=
  ∃ entry ∈ entries, entry.admits address = .ok true

instance (entry : Entry) (address : String) : Decidable (entry.admits address = .ok true) :=
  match entry.admits address with
  | .ok true => isTrue rfl
  | .ok false => isFalse (by simp)
  | .error _ => isFalse (by simp)

instance (address : String) (entries : List Entry) : Decidable (Admitted address entries) :=
  inferInstanceAs (Decidable (∃ entry ∈ entries, entry.admits address = .ok true))

/-- The pattern is all that admission looks at. -/
theorem Entry.admits_congr {a b : Entry} (h : a.serviceId = b.serviceId) (address : String) :
    a.admits address = b.admits address := by
  unfold Entry.admits
  rw [h]

/-- So entries with the same patterns admit the same addresses. -/
theorem admitted_congr {address : String} {entries others : List Entry}
    (same : entries.map Entry.serviceId = others.map Entry.serviceId) :
    Admitted address entries ↔ Admitted address others := by
  have half {a b : List Entry} (same : a.map Entry.serviceId = b.map Entry.serviceId)
      (admitted : Admitted address a) : Admitted address b := by
    obtain ⟨entry, mem, admits⟩ := admitted
    have found : entry.serviceId ∈ b.map Entry.serviceId := same ▸ List.mem_map_of_mem mem
    obtain ⟨other, mem, pattern⟩ := List.mem_map.mp found
    exact ⟨other, mem, (Entry.admits_congr pattern address).trans admits⟩
  exact ⟨half same, half same.symm⟩

theorem patternAdmits_self {address : String} (h : address ≠ "") :
    patternAdmits address address = .ok true := by
  simp [patternAdmits, h]

/-- An entry that is made for an address admits it, whatever the address means as a pattern. -/
theorem admits_newEntry {address : String} (h : address ≠ "") (id : Int) (name : String) :
    (newEntry id address name).admits address = .ok true :=
  patternAdmits_self h

/-- The empty address is admitted by no entry, and no pattern is read for it. -/
theorem admits_empty (entry : Entry) : entry.admits "" = .ok false := by
  unfold Entry.admits
  cases entry.serviceId with
  | none => rfl
  | some pattern => rfl

theorem not_admitted_of_refuses {address : String} {entries : List Entry}
    (refuses : ∀ entry ∈ entries, entry.admits address = .ok false) :
    ¬ Admitted address entries := by
  rintro ⟨entry, mem, admits⟩
  rw [refuses entry mem] at admits
  cases admits

/-! ## The search over a list -/

theorem anyAdmits_eq_true {address : String} {entries : List Entry}
    (h : anyAdmits address entries = .ok true) : Admitted address entries := by
  induction entries with
  | nil => simp [anyAdmits] at h
  | cons entry rest ih =>
    rw [anyAdmits] at h
    split at h
    next admits => exact ⟨entry, List.mem_cons_self, admits⟩
    next =>
      obtain ⟨found, mem, admits⟩ := ih h
      exact ⟨found, List.mem_cons_of_mem _ mem, admits⟩
    next => cases h

theorem anyAdmits_eq_false_iff {address : String} {entries : List Entry} :
    anyAdmits address entries = .ok false ↔
      ∀ entry ∈ entries, entry.admits address = .ok false := by
  induction entries with
  | nil => simp [anyAdmits]
  | cons entry rest ih =>
    rw [anyAdmits, List.forall_mem_cons]
    split
    next admits => simp [admits]
    next admits => rw [ih]; simp [admits]
    next admits => simp [admits]

/-- The search stops at the first entry whose pattern cannot be read, unless an entry before it
admits the address. -/
theorem anyAdmits_eq_error_iff {address : String} {entries : List Entry} {fault : Fault} :
    anyAdmits address entries = .error fault ↔
      ∃ before entry after, entries = before ++ entry :: after ∧
        (∀ earlier ∈ before, earlier.admits address = .ok false) ∧
        entry.admits address = .error fault := by
  induction entries with
  | nil => simp [anyAdmits]
  | cons entry rest ih =>
    rw [anyAdmits]
    constructor
    · intro h
      split at h
      next => cases h
      next refuses =>
        obtain ⟨before, stop, after, rfl, none, stops⟩ := ih.mp h
        exact ⟨entry :: before, stop, after, rfl, by simpa [refuses] using none, stops⟩
      next stops => exact ⟨[], entry, rest, rfl, by simp, stops.trans (by rw [Except.error.inj h])⟩
    · rintro ⟨before, stop, after, split, none, stops⟩
      cases before with
      | nil =>
        obtain ⟨rfl, rfl⟩ := List.cons.inj split
        rw [stops]
      | cons first before =>
        obtain ⟨rfl, rfl⟩ := List.cons.inj split
        rw [none entry List.mem_cons_self]
        exact ih.mpr ⟨before, stop, after, rfl,
          fun earlier mem => none earlier (List.mem_cons_of_mem _ mem), stops⟩

/-- A search that does not stop says whether some entry admits the address. -/
theorem anyAdmits_eq_ok {address : String} {entries : List Entry} {result : Bool}
    (h : anyAdmits address entries = .ok result) :
    result = decide (Admitted address entries) := by
  cases result with
  | true => simpa using anyAdmits_eq_true h
  | false => simpa using not_admitted_of_refuses (anyAdmits_eq_false_iff.mp h)

/-- A search is stopped by an entry, or finds one that admits the address, or all refuse it. -/
theorem anyAdmits_cases (address : String) (entries : List Entry) :
    (∃ fault, ∃ entry ∈ entries, entry.admits address = .error fault ∧
      anyAdmits address entries = .error fault) ∨
    (Admitted address entries ∧ anyAdmits address entries = .ok true) ∨
    ((∀ entry ∈ entries, entry.admits address = .ok false) ∧
      anyAdmits address entries = .ok false) := by
  cases search : anyAdmits address entries with
  | error fault =>
    obtain ⟨before, entry, after, split, -, stops⟩ := anyAdmits_eq_error_iff.mp search
    have mem : entry ∈ entries := split ▸ List.mem_append_right before List.mem_cons_self
    exact .inl ⟨fault, entry, mem, stops, rfl⟩
  | ok admits =>
    cases admits with
    | true => exact .inr (.inl ⟨anyAdmits_eq_true search, rfl⟩)
    | false => exact .inr (.inr ⟨anyAdmits_eq_false_iff.mp search, rfl⟩)

/-- A search is only stopped by a pattern that cannot be read. -/
theorem anyAdmits_stops {address : String} {entries : List Entry} {fault : Fault}
    (h : anyAdmits address entries = .error fault) : ∃ cause, fault = .pattern cause := by
  obtain ⟨-, entry, -, -, -, stops⟩ := anyAdmits_eq_error_iff.mp h
  unfold Entry.admits patternAdmits at stops
  split at stops
  next =>
    split at stops
    next => cases stops
    next =>
      split at stops
      next => cases stops
      next =>
        split at stops
        next => cases stops
        next cause _ => exact ⟨cause, (Except.error.inj stops).symm⟩
  next => cases stops

/-- If all patterns can be read, the search does not stop. -/
theorem anyAdmits_of_readable {address : String} {entries : List Entry}
    (readable : ∀ entry ∈ entries, ∃ admits, entry.admits address = .ok admits) :
    anyAdmits address entries = .ok (decide (Admitted address entries)) := by
  cases search : anyAdmits address entries with
  | error fault =>
    obtain ⟨before, entry, after, rfl, -, stops⟩ := anyAdmits_eq_error_iff.mp search
    obtain ⟨admits, answers⟩ := readable entry (by simp)
    rw [answers] at stops
    cases stops
  | ok result => rw [anyAdmits_eq_ok search]

/-! ## Entries in listing order -/

theorem mem_inListingOrder {entry : Entry} {entries : List Entry} :
    entry ∈ inListingOrder entries ↔ entry ∈ entries :=
  List.mem_mergeSort

theorem admitted_inListingOrder {address : String} {entries : List Entry} :
    Admitted address (inListingOrder entries) ↔ Admitted address entries := by
  simp only [Admitted, mem_inListingOrder]

/-- A search in listing order that does not stop says whether some entry admits the address. -/
theorem anyAdmits_inListingOrder {address : String} {entries : List Entry} {result : Bool}
    (h : anyAdmits address (inListingOrder entries) = .ok result) :
    result = decide (Admitted address entries) := by
  rw [anyAdmits_eq_ok h, decide_eq_decide]
  exact admitted_inListingOrder

end ServiceRegistry
