import ServiceRegistry.Proofs.Trial.Changes

/-!
# How far a trial can grow the registry

The default address is registered when no entry admits it, and from then on an entry with just this
address as its pattern admits it, until this entry is removed. A list of entries without one has a
credit of one registration. A registration uses the credit up and a removal gives at most one back,
wherever the step that made it stops.

Results:

* `newcomers`: the entries of one list whose ids are not in another.
* `credit`, `Flow`: the registrations that are left, and how registrations and removals change it.
* `Trial.Changes.flow`: each step keeps the account.
* `Trial.run_registered_le`: along a run the default address is registered at most once more than
  entries are removed, and there is at most one entry more than at the start.
-/

namespace ServiceRegistry

open Database (DistinctIds)

/-! ## Entries that came or went -/

/-- The entries of the second list whose ids are not in the first. -/
def newcomers (before after : List Entry) : List Entry :=
  after.filter fun entry => entry.id ∉ before.map Entry.id

variable {before after entries : List Entry} {url : String}

theorem newcomers_eq_nil (subset : after.map Entry.id ⊆ before.map Entry.id) :
    newcomers before after = [] := by
  refine List.filter_eq_nil_iff.mpr fun entry mem => ?_
  simpa using subset (List.mem_map_of_mem mem)

theorem newcomers_append (subset : after.map Entry.id ⊆ before.map Entry.id) {entry : Entry}
    (new : entry.id ∉ before.map Entry.id) : newcomers before (after ++ [entry]) = [entry] := by
  have stays : newcomers before [entry] = [entry] :=
    List.filter_eq_self.mpr fun other mem => decide_eq_true (by rwa [List.mem_singleton.mp mem])
  have split : newcomers before (after ++ [entry]) =
      newcomers before after ++ newcomers before [entry] := List.filter_append ..
  rw [split, newcomers_eq_nil subset, stays, List.nil_append]

theorem ids_delete_subset (entries : List Entry) (id : Int) :
    (Database.delete entries id).map Entry.id ⊆ entries.map Entry.id :=
  List.map_subset _ (List.filter_subset_self _)

/-- The entries that went when those of an id were removed, and others came under other ids. -/
theorem newcomers_delete_append (entries : List Entry) (id : Int) {others : List Entry}
    (new : ∀ other ∈ others, other.id ∉ entries.map Entry.id) :
    newcomers (Database.delete entries id ++ others) entries = entries.filter (·.id = id) := by
  refine List.filter_congr fun entry mem => decide_eq_decide.mpr ?_
  have known : ∀ other ∈ others, other.id ≠ entry.id := fun other found same =>
    new other found (same ▸ List.mem_map_of_mem mem)
  simp only [Database.delete, List.map_append, List.mem_append, List.mem_map, List.mem_filter]
  constructor
  · intro gone
    by_contra other
    exact gone (.inl ⟨entry, ⟨mem, by simpa using other⟩, rfl⟩)
  · rintro same (⟨other, ⟨-, kept⟩, again⟩ | ⟨other, found, again⟩)
    · simp [again, same] at kept
    · exact known other found again

/-! ## The account of registrations -/

/-- The registrations of the default address that are left: none while an entry has it as its
pattern, and one otherwise. -/
def credit (url : String) (entries : List Entry) : Nat :=
  if ∃ entry ∈ entries, entry.serviceId = some url then 0 else 1

theorem credit_le_one (url : String) (entries : List Entry) : credit url entries ≤ 1 := by
  unfold credit
  split_ifs <;> omega

theorem credit_register (url : String) (entries : List Entry) (id : Int) (name : String) :
    credit url (entries ++ [newEntry id url name]) = 0 :=
  if_pos ⟨_, List.mem_append_right _ (List.mem_singleton_self _), rfl⟩

/-- An entry with the address itself as its pattern admits it, so a search that ends without
finding one leaves the credit whole. -/
theorem credit_of_free (nonempty : url ≠ "") (free : anyAdmits url entries = .ok false) :
    credit url entries = 1 := by
  refine if_neg ?_
  rintro ⟨entry, mem, own⟩
  have refuses := anyAdmits_eq_false_iff.mp free entry mem
  rw [Entry.admits, own] at refuses
  exact absurd ((patternAdmits_self nonempty).symm.trans refuses) (by simp)

theorem credit_congr (same : after.map Entry.serviceId = before.map Entry.serviceId) :
    credit url after = credit url before := by
  have iff (entries : List Entry) : (∃ entry ∈ entries, entry.serviceId = some url) ↔
      some url ∈ entries.map Entry.serviceId := List.mem_map.symm
  simp only [credit, iff, same]

/-- One list becomes another when some entries are registered and some are removed. -/
structure Flow (url : String) (before after registered removed : List Entry) : Prop where
  defaults : ∀ entry ∈ registered, entry = newEntry entry.id url Management.defaultName
  length : after.length + removed.length = before.length + registered.length
  credit : registered.length + credit url after ≤ credit url before + removed.length

namespace Flow

theorem of_same_patterns (same : after.map Entry.serviceId = before.map Entry.serviceId) :
    Flow url before after [] [] := by
  refine ⟨fun entry mem => (List.not_mem_nil mem).elim, ?_, ?_⟩
  · simpa using congrArg List.length same
  · rw [credit_congr same]
    exact Nat.le_of_eq (Nat.add_comm _ _)

theorem trans {middle registered removed registered' removed' : List Entry}
    (first : Flow url before middle registered removed)
    (second : Flow url middle after registered' removed') :
    Flow url before after (registered ++ registered') (removed ++ removed') := by
  have := first.length
  have := second.length
  have := first.credit
  have := second.credit
  refine ⟨fun entry mem => ?_, ?_, ?_⟩
  · exact (List.mem_append.mp mem).elim (first.defaults entry) (second.defaults entry)
  all_goals
    rw [List.length_append, List.length_append]
    omega

theorem register (nonempty : url ≠ "") (free : anyAdmits url entries = .ok false) (id : Int) :
    Flow url entries (entries ++ [newEntry id url Management.defaultName])
      [newEntry id url Management.defaultName] [] := by
  refine ⟨fun entry mem => ?_, by simp, ?_⟩
  · rw [List.mem_singleton.mp mem]
    rfl
  · rw [credit_register, credit_of_free nonempty free]
    exact Nat.le_refl _

theorem delete (url : String) (entries : List Entry) (id : Int) :
    Flow url entries (Database.delete entries id) [] (entries.filter (·.id = id)) := by
  have length := List.length_eq_length_filter_add (l := entries) fun entry => entry.id = id
  have kept : Database.delete entries id = entries.filter fun entry => !decide (entry.id = id) :=
    List.filter_congr fun entry _ => by simp
  refine ⟨fun entry mem => (List.not_mem_nil mem).elim, ?_, ?_⟩
  · rw [kept, length, List.length_nil]
    omega
  · by_cases gone : entries.filter (·.id = id) = []
    · have all : Database.delete entries id = entries :=
        List.filter_eq_self.mpr fun entry mem => by
          simpa using List.filter_eq_nil_iff.mp gone entry mem
      simp [all]
    · have := List.length_pos_iff.mpr gone
      have := credit_le_one url (Database.delete entries id)
      rw [List.length_nil]
      omega

end Flow

/-! ## Steps and runs -/

namespace Trial

/-- The entries that a step added. -/
def Transition.registered (t : Transition) : List Entry :=
  newcomers t.before.entries t.after.entries

/-- The entries that a step removed. -/
def Transition.removed (t : Transition) : List Entry :=
  newcomers t.after.entries t.before.entries

/-- Each step keeps the account, whether it comes to its end or stops. -/
theorem Changes.flow {before after : Memory} {step : Step} (nonempty : url ≠ "")
    (changes : Changes url before step after) (sound : before.Sound) :
    Flow url before.entries after.entries (newcomers before.entries after.entries)
      (newcomers after.entries before.entries) := by
  have none : Flow url before.entries before.entries
      (newcomers before.entries before.entries) (newcomers before.entries before.entries) := by
    rw [newcomers_eq_nil (List.Subset.refl _)]
    exact .of_same_patterns rfl
  have fresh (pattern name : String) :
      (newEntry before.nextId pattern name).id ∉ before.entries.map Entry.id := sound.nextId_notMem
  cases changes with
  | ensured _ ensures =>
    rcases ensures with rfl | ⟨free, rfl⟩
    · exact none
    · rw [Memory.register, newcomers_append (List.Subset.refl _) (fresh _ _),
        newcomers_eq_nil (by simp)]
      exact .register nonempty free _
  | removed id ensures =>
    have entries := Memory.entries_remove sound.distinct id
    have removal := Flow.delete url before.entries id
    rcases ensures with rfl | ⟨free, rfl⟩
    · have went : newcomers (Database.delete before.entries id ++ []) before.entries = _ :=
        newcomers_delete_append before.entries id (by simp)
      rw [List.append_nil] at went
      rw [entries, newcomers_eq_nil (ids_delete_subset _ id), went]
      exact removal
    · rw [entries] at free
      have came := newcomers_append (ids_delete_subset before.entries id)
        (fresh url Management.defaultName)
      have new : ∀ other ∈ [newEntry before.nextId url Management.defaultName],
          other.id ∉ before.entries.map Entry.id := by
        simpa using fresh url Management.defaultName
      have went := newcomers_delete_append before.entries id new
      have after : ((before.remove id).register url Management.defaultName).entries =
          Database.delete before.entries id ++
            [newEntry before.nextId url Management.defaultName] := by
        rw [← entries]
        rfl
      rw [after, came, went]
      simpa using removal.trans (.register nonempty free before.nextId)
  | moved ids reorders nextId =>
    rw [newcomers_eq_nil (by simp [reorders.map_id_eq]),
      newcomers_eq_nil (by simp [reorders.map_id_eq])]
    exact .of_same_patterns reorders.map_serviceId_eq
  | kept => exact none
  | faultsSet => exact none

/-- Along a run, registrations use up the credit and removals give it back, and no more entries
come than this allows. -/
theorem run_flow {memory : Memory} (nonempty : url ≠ "") (sound : memory.Sound)
    (steps : List Step) :
    ((run url memory steps).flatMap Transition.registered).length ≤
        credit url memory.entries + ((run url memory steps).flatMap Transition.removed).length ∧
      ∀ t ∈ run url memory steps,
        (∀ entry ∈ t.registered, entry = newEntry entry.id url Management.defaultName) ∧
        t.after.entries.length + credit url t.after.entries ≤
          memory.entries.length + credit url memory.entries := by
  induction steps generalizing memory with
  | nil => exact ⟨Nat.zero_le _, fun t mem => (List.not_mem_nil mem).elim⟩
  | cons step rest ih =>
    have changes := take_changes url sound step
    have flow := changes.flow nonempty sound
    obtain ⟨registered, each⟩ := ih (changes.sound sound)
    have := flow.length
    have := flow.credit
    have came : (take url memory step).registered =
        newcomers memory.entries (take url memory step).after.entries := by
      rw [Transition.registered, take_before]
    have went : (take url memory step).removed =
        newcomers (take url memory step).after.entries memory.entries := by
      rw [Transition.removed, take_before]
    constructor
    · simp only [run, List.flatMap_cons, List.length_append, came, went]
      omega
    · intro t mem
      rcases List.mem_cons.mp mem with rfl | mem
      · refine ⟨?_, by omega⟩
        rw [came]
        exact flow.defaults
      · obtain ⟨defaults, bound⟩ := each t mem
        exact ⟨defaults, by omega⟩

theorem run_take (url : String) (memory : Memory) (steps : List Step) (n : Nat) :
    (run url memory steps).take n = run url memory (steps.take n) := by
  induction steps generalizing memory n with
  | nil => rw [run, List.take_nil, List.take_nil, run]
  | cons step rest ih =>
    cases n with
    | zero => rfl
    | succ n => rw [run, List.take_succ_cons, ih, List.take_succ_cons, run]

/-- In a run over entries of distinct ids, under any faults, all that is ever added are entries for
the default address. At every point their number is at most one more than the number of entries
removed so far, and there is at most one entry more than at the start. -/
theorem run_registered_le (url : String) (nonempty : url ≠ "") (entries : List Entry)
    (distinct : DistinctIds entries) (returnsNone : Bool) (failsOn : Option Int)
    (steps : List Step) (n : Nat) :
    let past :=
      (run url ((Memory.ofEntries entries).withFaults returnsNone failsOn) steps).take n
    (past.flatMap Transition.registered).length ≤
        1 + (past.flatMap Transition.removed).length ∧
      ∀ t ∈ past,
        (∀ entry ∈ t.registered, entry = newEntry entry.id url Management.defaultName) ∧
        t.after.entries.length ≤ entries.length + 1 := by
  intro past
  have sound := Memory.sound_ofEntries distinct returnsNone failsOn
  obtain ⟨registered, each⟩ := run_flow nonempty sound (steps.take n)
  rw [← run_take] at registered each
  have := credit_le_one url entries
  refine ⟨Nat.le_trans registered (Nat.add_le_add_right this _), fun t mem => ?_⟩
  obtain ⟨defaults, bound⟩ := each t mem
  exact ⟨defaults, Nat.le_trans (Nat.le_of_add_right_le bound) (Nat.add_le_add_left this _)⟩

/-- Both bounds are reached when the entry for the default address is all there is, and is removed
over and over. -/
theorem run_registered_le_removals :
    let past := (run "u" ((Memory.ofEntries []).withFaults false none)
      [.perform .ensure, .perform (.delete 1), .perform (.delete 2)]).take 3
    "u" ≠ "" ∧ DistinctIds [] ∧
      (past.flatMap Transition.registered).length ≤
        1 + (past.flatMap Transition.removed).length ∧
      (past.flatMap Transition.registered).map Entry.id = [1, 2, 3] ∧
      (past.flatMap Transition.removed).map Entry.id = [1, 2] := by
  intro past
  have nonempty : "u" ≠ "" := by decide
  have distinct : DistinctIds [] := List.nodup_nil
  exact ⟨nonempty, distinct, (run_registered_le "u" nonempty [] distinct false none
    [.perform .ensure, .perform (.delete 1), .perform (.delete 2)] 3).1,
    by decide +kernel, by decide +kernel⟩

end Trial

end ServiceRegistry
