import Mathlib.Data.List.TakeWhile
import Mathlib.Tactic.SplitIfs
import ServiceRegistry.Http.Address

/-!
# Addresses, read

Results:

* `shownPath_append`, `Request.urlPath_of_plain`: the path that an address shows.
* `Request.Readable`, `Request.readable_or`: requests whose address can be read, and all others.
* `authorityOf_append`: the authority of an address does not depend on a path from a slash on.
* `Request.readable_iff_of_plain`: a plain path that is asked for without a host gives an address
  that can be read exactly if the query can.
-/

namespace ServiceRegistry.Http

variable {request : Request}

/-! ## Paths -/

/-- Whether a character of a path stands in it wherever an address shows the path. -/
def isPathChar (c : Char) : Bool :=
  !isAddressBreak c && c != '?' && c != '#'

theorem isPathChar_iff {c : Char} :
    isPathChar c = true ↔ isAddressBreak c = false ∧ c ≠ '?' ∧ c ≠ '#' := by
  simp [isPathChar, and_assoc]

/-- A request that names no host, for a path that an address shows as it is. -/
def Request.HasPlainPath (request : Request) : Prop :=
  header? "host" request.headers = none ∧
    request.path.toList.head? = some '/' ∧ request.path.toList.all isPathChar = true

instance (request : Request) : Decidable request.HasPlainPath :=
  inferInstanceAs (Decidable (_ ∧ _))

/-- What stands in a host from the first slash, question mark or number sign on. -/
def hostTail (host : String) : List Char :=
  (host.toList.filter (!isAddressBreak ·)).dropWhile fun c => c != '/' && c != '?' && c != '#'

theorem hostTail_eq_nil {host : String}
    (named : (host.toList.all fun c => c != '/' && c != '?' && c != '#') = true) :
    hostTail host = [] :=
  List.dropWhile_eq_nil_iff.mpr fun c mem =>
    List.all_eq_true.mp named c (List.mem_filter.mp mem).1

/-- The path of an address begins in the host, if a slash stands there, and goes on with the path
that was given, unless it has ended before. -/
theorem shownPath_append (host : String) {path : String} {rest : List Char}
    (shown : path.toList.filter (!isAddressBreak ·) = '/' :: rest) :
    shownPath (host ++ path) = String.ofList
      ((hostTail host ++ '/' :: rest).takeWhile fun c => c != '?' && c != '#') := by
  unfold shownPath hostTail
  simp only [String.toList_append, List.filter_append, shown, List.dropWhile_append]
  split_ifs with none
  · rw [List.isEmpty_iff.mp none, List.dropWhile_cons_of_neg (by decide), List.nil_append]
  · rfl

/-- The path of an address begins after the host, which has no character that ends one, and has no
breaks. -/
theorem shownPath_eq {host path : String} {rest : List Char}
    (named : (host.toList.all fun c => c != '/' && c != '?' && c != '#') = true)
    (shown : path.toList.filter (!isAddressBreak ·) = '/' :: rest)
    (plain : (rest.all fun c => c != '?' && c != '#') = true) :
    shownPath (host ++ path) = String.ofList ('/' :: rest) := by
  rw [shownPath_append host shown, hostTail_eq_nil named, List.nil_append,
    List.takeWhile_cons_of_pos (by decide),
    List.takeWhile_eq_self_iff.mpr (List.all_eq_true.mp plain)]

/-- A path that an address shows as it is. -/
def IsPlain (path : String) : Prop :=
  path.toList.head? = some '/' ∧ path.toList.all isPathChar = true

instance (path : String) : Decidable (IsPlain path) :=
  inferInstanceAs (Decidable (_ ∧ _))

/-- A plain path has no breaks, and nothing after its first slash ends it. -/
theorem IsPlain.exists_rest {path : String} (plain : IsPlain path) :
    ∃ rest, path.toList = '/' :: rest ∧ path.toList.filter (!isAddressBreak ·) = '/' :: rest ∧
      (rest.all fun c => c != '?' && c != '#') = true := by
  obtain ⟨rooted, plain⟩ := plain
  have inPath : ∀ c ∈ path.toList, isPathChar c = true := List.all_eq_true.mp plain
  have unbroken : path.toList.filter (!isAddressBreak ·) = path.toList :=
    List.filter_eq_self.mpr fun c mem => by simp [(isPathChar_iff.mp (inPath c mem)).1]
  obtain ⟨rest, slash⟩ := List.head?_eq_some_iff.mp rooted
  refine ⟨rest, slash, unbroken.trans slash, List.all_eq_true.mpr fun c mem => ?_⟩
  obtain ⟨-, question, number⟩ :=
    isPathChar_iff.mp (inPath c (slash ▸ List.mem_cons_of_mem _ mem))
  simp [question, number]

theorem shownPath_plain {host path : String}
    (named : (host.toList.all fun c => c != '/' && c != '?' && c != '#') = true)
    (plain : IsPlain path) : shownPath (host ++ path) = path := by
  obtain ⟨rest, slash, shown, ends⟩ := plain.exists_rest
  rw [shownPath_eq named shown ends, ← slash, String.ofList_toList]

/-- The capture looks at the path of a request as its address shows it. -/
theorem Request.urlPath_of_plain (h : request.HasPlainPath) : request.urlPath = request.path := by
  obtain ⟨unnamed, plain⟩ := h
  unfold Request.urlPath Request.host
  rw [unnamed]
  exact shownPath_plain (by decide) plain

/-! ## Addresses that can be read -/

/-- A request whose address can be read. -/
def Request.Readable (request : Request) : Prop :=
  ∃ path, request.address = .ok path

instance (request : Request) : Decidable request.Readable :=
  match h : request.address with
  | .ok path => isTrue ⟨path, h⟩
  | .error _ => isFalse fun ⟨_, same⟩ => by cases h.symm.trans same

theorem Request.readable_iff : request.Readable ↔
    (∃ query, Text.utf8Decode request.query = .ok query) ∧
      Text.authorityFault? (authorityOf (request.host ++ request.path)) = none := by
  unfold Request.Readable Request.address
  cases Text.utf8Decode request.query with
  | error fault => simp
  | ok query => cases Text.authorityFault? (authorityOf (request.host ++ request.path)) <;> simp

/-- An address that can be read gives the path that it shows. -/
theorem Request.Readable.address (readable : request.Readable) :
    request.address = .ok request.urlPath := by
  obtain ⟨⟨query, decoded⟩, fault⟩ := Request.readable_iff.mp readable
  unfold Request.address
  rw [decoded]
  simp only [fault]

theorem Request.readable_or (request : Request) :
    request.Readable ∨ ∃ fault, request.address = .error fault := by
  cases h : request.address with
  | ok path => exact .inl ⟨path, h⟩
  | error fault => exact .inr ⟨fault, rfl⟩

theorem Request.not_readable {fault : Fault} (unread : request.address = .error fault) :
    ¬ request.Readable := by
  rintro ⟨path, read⟩
  cases unread.symm.trans read

/-- An address that can be read is sent as a location. -/
theorem Request.Readable.location (readable : request.Readable) (path : String) :
    ∃ location, request.location path = .ok location := by
  obtain ⟨⟨query, decoded⟩, -⟩ := Request.readable_iff.mp readable
  unfold Request.location
  rw [decoded]
  exact ⟨_, rfl⟩

theorem Request.location_stops {path : String} {fault : Fault}
    (h : request.location path = .error fault) : ∃ cause, fault = .undecodable cause := by
  unfold Request.location at h
  split at h
  next cause _ => exact ⟨cause, (Except.error.inj h).symm⟩
  next => cases h

/-- The authority ends before a slash. -/
theorem authorityOf_append (host : String) {path : String} {rest : List Char}
    (shown : path.toList.filter (!isAddressBreak ·) = '/' :: rest) :
    authorityOf (host ++ path) = authorityOf host := by
  unfold authorityOf
  rw [String.toList_append, List.filter_append, shown, List.takeWhile_append]
  split_ifs with whole
  · rw [List.takeWhile_cons_of_neg (by decide), List.append_nil]
    exact ((List.takeWhile_prefix _).eq_of_length whole).symm
  · rfl

/-- A plain path that is asked for without a host gives an address that can be read exactly if the
query can. -/
theorem Request.readable_iff_of_plain (plain : request.HasPlainPath) :
    request.Readable ↔ ∃ query, Text.utf8Decode request.query = .ok query := by
  obtain ⟨unnamed, plain⟩ := plain
  obtain ⟨rest, -, shown, -⟩ := IsPlain.exists_rest plain
  have named : Text.authorityFault? (authorityOf (request.host ++ request.path)) = none := by
    rw [authorityOf_append _ shown, Request.host, unnamed]
    decide +kernel
  rw [Request.readable_iff, and_iff_left named]

end ServiceRegistry.Http
