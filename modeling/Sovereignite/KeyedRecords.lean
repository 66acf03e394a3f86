import Mathlib.Data.List.AList
import Mathlib.Data.List.Perm.Basic

/-!
# Maps of records as lists of entries

A finite map is looked up by key and counted by entries.  These lemmas connect
the two views: what inserting and erasing do to a lookup, and which entries
they add or take away up to the order of the entries.
-/

namespace KeyedRecords

variable {Key Value : Type} [DecidableEq Key] {records : AList fun _ : Key => Value}
variable {key other : Key} {value found : Value}

theorem lookup_insert_cases (present : (records.insert other value).lookup key = some found) :
    (key = other ∧ found = value) ∨ (key ≠ other ∧ records.lookup key = some found) := by
  by_cases same : key = other
  · subst same
    rw [AList.lookup_insert] at present
    exact .inl ⟨rfl, (Option.some.inj present).symm⟩
  · rw [AList.lookup_insert_ne same] at present
    exact .inr ⟨same, present⟩

theorem lookup_of_erase (present : (records.erase other).lookup key = some found) :
    key ≠ other ∧ records.lookup key = some found := by
  by_cases same : key = other
  · subst same
    rw [AList.lookup_erase] at present
    cases present
  · rw [AList.lookup_erase_ne same] at present
    exact ⟨same, present⟩

theorem forall_insert {holds : Key → Value → Prop} (new : holds other value)
    (old : ∀ key found, records.lookup key = some found → holds key found) :
    ∀ key found, (records.insert other value).lookup key = some found → holds key found := by
  intro key found present
  rcases lookup_insert_cases present with ⟨rfl, rfl⟩ | ⟨_, before⟩
  · exact new
  · exact old key found before

/-- What no two records share is not shared either when a record with a new value of it
is entered. -/
theorem once_insert {Part : Type} {read : Value → Part}
    (once : ∀ first second left right, records.lookup first = some left →
      records.lookup second = some right → read left = read right → first = second)
    (new : ∀ key found, records.lookup key = some found → read found ≠ read value) :
    ∀ first second left right, (records.insert other value).lookup first = some left →
      (records.insert other value).lookup second = some right → read left = read right →
      first = second := by
  intro first second left right foundFirst foundSecond same
  rcases lookup_insert_cases foundFirst with ⟨rfl, rfl⟩ | ⟨_, beforeFirst⟩ <;>
    rcases lookup_insert_cases foundSecond with ⟨rfl, rfl⟩ | ⟨_, beforeSecond⟩
  · rfl
  · exact absurd same.symm (new second right beforeSecond)
  · exact absurd same (new first left beforeFirst)
  · exact once first second left right beforeFirst beforeSecond same

theorem forall_erase {holds : Key → Value → Prop}
    (old : ∀ key found, records.lookup key = some found → holds key found) :
    ∀ key found, (records.erase other).lookup key = some found → holds key found :=
  fun key found present => old key found (lookup_of_erase present).2

theorem mem_entries_iff :
    (⟨key, value⟩ : Σ _ : Key, Value) ∈ records.entries ↔ records.lookup key = some value :=
  AList.mem_lookup_iff.symm

theorem forall_entries {property : (Σ _ : Key, Value) → Prop} :
    (∀ entry ∈ records.entries, property entry) ↔
      ∀ key value, records.lookup key = some value → property ⟨key, value⟩ := by
  simp only [Sigma.forall, mem_entries_iff]

theorem entries_insert (records : AList fun _ : Key => Value) (key : Key) (value : Value) :
    (records.insert key value).entries = ⟨key, value⟩ :: (records.erase key).entries :=
  rfl

theorem erase_of_lookup_none (absent : records.lookup key = none) :
    (records.erase key).entries = records.entries :=
  List.kerase_of_notMem_keys (AList.lookup_eq_none.mp absent)

theorem entries_perm_of_lookup (present : records.lookup key = some value) :
    records.entries.Perm (⟨key, value⟩ :: (records.erase key).entries) := by
  have member : key ∈ records.entries.keys := List.mem_keys_of_mem (mem_entries_iff.mpr present)
  obtain ⟨stored, before, after, _, whole, rest⟩ := List.exists_of_kerase member
  have same : stored = value := by
    have stores : records.lookup key = some stored := by
      rw [← mem_entries_iff, whole]
      exact List.mem_append_right _ List.mem_cons_self
    exact Option.some.inj (stores.symm.trans present)
  have erased : (records.erase key).entries = before ++ after := rest
  rw [erased, whole, same]
  exact List.perm_middle

theorem lookup_eq_none_of_entries (empty : records.entries = []) : records.lookup key = none := by
  rw [AList.lookup_eq_none]
  intro member
  have inKeys : key ∈ records.entries.keys := member
  rw [empty] at inKeys
  cases inKeys

section Visits

variable {State : Type}

variable {step : State → (Σ _ : Key, Value) → State} {entries : List (Σ _ : Key, Value)}

/-- A fold that visits entries of a map keeps an invariant, if visiting an
entry that is still there keeps it and leaves the other entries alone. -/
theorem foldl_visits {view : State → AList fun _ : Key => Value} {invariant : State → Prop}
    (preserved : ∀ state entry, invariant state →
      (view state).lookup entry.1 = some entry.2 → invariant (step state entry))
    (others : ∀ state entry key, key ≠ entry.1 →
      (view (step state entry)).lookup key = (view state).lookup key)
    (distinct : (entries.map Sigma.fst).Nodup) {start : State} (holds : invariant start)
    (present : ∀ entry ∈ entries, (view start).lookup entry.1 = some entry.2) :
    invariant (entries.foldl step start) := by
  induction entries generalizing start with
  | nil => exact holds
  | cons first _ ih =>
    rw [List.map_cons, List.nodup_cons] at distinct
    refine ih distinct.2 (preserved start first holds (present first List.mem_cons_self)) ?_
    intro entry member
    have different : entry.1 ≠ first.1 := by
      intro same
      exact distinct.1 (same ▸ List.mem_map_of_mem member)
    rw [others start first entry.1 different]
    exact present entry (List.mem_cons_of_mem first member)

theorem foldl_visits_all {view : State → AList fun _ : Key => Value} {invariant : State → Prop}
    (preserved : ∀ state entry, invariant state →
      (view state).lookup entry.1 = some entry.2 → invariant (step state entry))
    (others : ∀ state entry key, key ≠ entry.1 →
      (view (step state entry)).lookup key = (view state).lookup key) {start : State}
    (holds : invariant start) : invariant ((view start).entries.foldl step start) := by
  have distinct : ((view start).entries.map Sigma.fst).Nodup := (view start).nodupKeys
  exact foldl_visits preserved others distinct holds fun _ member => mem_entries_iff.mp member

omit [DecidableEq Key] in
theorem foldl_untouched {Part : Type} {view : State → Part}
    (untouched : ∀ state, ∀ entry ∈ entries, view (step state entry) = view state) (start : State) :
    view (entries.foldl step start) = view start := by
  induction entries generalizing start with
  | nil => rfl
  | cons first _ ih =>
    have remaining := ih (fun state entry member =>
      untouched state entry (List.mem_cons_of_mem first member)) (step start first)
    exact remaining.trans (untouched start first List.mem_cons_self)

omit [DecidableEq Key] in
theorem foldl_at_key {Part : Type} {view : State → Part}
    (others : ∀ state (entry : Σ _ : Key, Value), entry.1 ≠ key →
      view (step state entry) = view state) (distinct : (entries.map Sigma.fst).Nodup)
    (member : ⟨key, value⟩ ∈ entries) (start : State) :
    ∃ state, view state = view start ∧
      view (entries.foldl step start) = view (step state ⟨key, value⟩) := by
  obtain ⟨before, after, rfl⟩ := List.append_of_mem member
  rw [List.map_append, List.map_cons, List.nodup_append, List.nodup_cons] at distinct
  have beforeOther : ∀ state, ∀ entry ∈ before, view (step state entry) = view state := by
    intro state entry inside
    refine others state entry fun same => ?_
    exact distinct.2.2 _ (List.mem_map_of_mem inside) _ List.mem_cons_self same
  have afterOther : ∀ state, ∀ entry ∈ after, view (step state entry) = view state := by
    intro state entry inside
    refine others state entry fun same => ?_
    have listed : entry.1 ∈ after.map Sigma.fst := List.mem_map_of_mem inside
    rw [same] at listed
    exact distinct.2.1.1 listed
  refine ⟨before.foldl step start, foldl_untouched beforeOther start, ?_⟩
  rw [List.foldl_append, List.foldl_cons]
  exact foldl_untouched afterOther _

end Visits

section Collections

variable {Item : Type}

/-- What is read off the entries of a map. -/
def collected (read : (Σ _ : Key, Value) → Option Item)
    (records : AList fun _ : Key => Value) : List Item :=
  records.entries.filterMap read

variable {read : (Σ _ : Key, Value) → Option Item}

theorem collected_erase (present : records.lookup key = some value) :
    (collected read records).Perm
      ((read ⟨key, value⟩).toList ++ collected read (records.erase key)) := by
  refine ((entries_perm_of_lookup present).filterMap read).trans ?_
  cases equal : read ⟨key, value⟩ with
  | none => simp [List.filterMap_cons_none equal, collected]
  | some => simp [List.filterMap_cons_some equal, collected]

theorem collected_insert :
    collected read (records.insert key value) =
      (read ⟨key, value⟩).toList ++ collected read (records.erase key) := by
  rw [collected, entries_insert]
  cases equal : read ⟨key, value⟩ with
  | none => simp [List.filterMap_cons_none equal, collected]
  | some => simp [List.filterMap_cons_some equal, collected]

theorem collected_insert_new (absent : records.lookup key = none) :
    collected read (records.insert key value) =
      (read ⟨key, value⟩).toList ++ collected read records := by
  rw [collected_insert, collected, erase_of_lookup_none absent]
  rfl

theorem collected_replace (present : records.lookup key = some found)
    (same : read ⟨key, value⟩ = read ⟨key, found⟩) :
    (collected read (records.insert key value)).Perm (collected read records) := by
  rw [collected_insert, same]
  exact (collected_erase present).symm

theorem collected_insert_unread (unread : read ⟨key, value⟩ = none)
    (before : ∀ stored, records.lookup key = some stored → read ⟨key, stored⟩ = none) :
    (collected read (records.insert key value)).Perm (collected read records) := by
  cases present : records.lookup key with
  | none => rw [collected_insert_new present, unread]; rfl
  | some stored => exact collected_replace present (unread.trans (before stored present).symm)

theorem mem_collected {item : Item} :
    item ∈ collected read records ↔
      ∃ key value, records.lookup key = some value ∧ read ⟨key, value⟩ = some item := by
  rw [collected, List.mem_filterMap]
  constructor
  · rintro ⟨⟨key, value⟩, member, equal⟩
    exact ⟨key, value, mem_entries_iff.mp member, equal⟩
  · rintro ⟨key, value, found, equal⟩
    exact ⟨⟨key, value⟩, mem_entries_iff.mpr found, equal⟩

/-- Nothing is read off two entries exactly when the same item is read off entries
of one key only. -/
theorem nodup_collected :
    (collected read records).Nodup ↔
      ∀ first second left right item, records.lookup first = some left →
        records.lookup second = some right → read ⟨first, left⟩ = some item →
        read ⟨second, right⟩ = some item → first = second := by
  rw [collected, List.Nodup, List.pairwise_filterMap]
  constructor
  · intro apart first second left right item foundFirst foundSecond readFirst readSecond
    by_contra different
    let Apart (one other : Σ _ : Key, Value) : Prop := one.1 ≠ other.1 →
      ∀ b, read one = some b → ∀ c, read other = some c → b ≠ c
    have symm : Std.Symm Apart :=
      ⟨fun one other holds apart b readB c readC => (holds apart.symm c readC b readB).symm⟩
    have adjacent : records.entries.Pairwise Apart := by
      refine apart.imp ?_
      intro one other holds _
      exact holds
    have anyTwo := adjacent.forall_of_forall fun one _ apart => absurd rfl apart
    exact anyTwo (mem_entries_iff.mpr foundFirst) (mem_entries_iff.mpr foundSecond) different
      item readFirst item readSecond rfl
  · intro once
    have keys : records.entries.Pairwise fun one other => one.1 ≠ other.1 :=
      List.pairwise_map.mp records.nodupKeys
    refine keys.imp_of_mem ?_
    rintro ⟨first, left⟩ ⟨second, right⟩ memberFirst memberSecond different b readFirst _
      readSecond rfl
    exact different (once first second left right b (mem_entries_iff.mp memberFirst)
      (mem_entries_iff.mp memberSecond) readFirst readSecond)

theorem nodup_collected_some {read : Value → Item} :
    (collected (fun entry => some (read entry.2)) records).Nodup ↔
      ∀ first second left right, records.lookup first = some left →
        records.lookup second = some right → read left = read right → first = second := by
  rw [nodup_collected]
  constructor
  · intro once first second left right foundFirst foundSecond same
    exact once first second left right _ foundFirst foundSecond rfl (congrArg some same.symm)
  · intro once first second left right _ foundFirst foundSecond readFirst readSecond
    exact once first second left right foundFirst foundSecond
      (Option.some.inj (readFirst.trans readSecond.symm))

end Collections

end KeyedRecords
