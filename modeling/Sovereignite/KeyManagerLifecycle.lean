import Sovereignite.CheckedFolds
import Sovereignite.KeyManagerSeparation

/-!
# The keys of one role

The metadata records, for each role, the key in use, the superseded keys that
are not evicted yet, and the key whose creation is intended.  A save changes
the record of a role in one of four ways: a creation is intended, the intent
becomes the key in use or is dropped, or the superseded keys are forgotten.
The pools of the roles are disjoint, so whether metadata is accepted when it is
loaded again depends on the record of each role alone.
-/

namespace Sovereignite.KeyManager

open Effect KeyedRecords

structure RoleEntry where
  state : Option RoleState
  pending : Option KeyMetadata

def Snapshot.entry (snapshot : Snapshot) (role : Role) : RoleEntry :=
  ⟨snapshot.roles.lookup role, snapshot.pending.lookup role⟩

/-- The key in use and the superseded ones. -/
def RoleState.keys (state : RoleState) : List KeyMetadata :=
  state.active :: state.retiring

def RoleEntry.keys (entry : RoleEntry) : List KeyMetadata :=
  (entry.state.map RoleState.keys).getD [] ++ entry.pending.toList

/-- A key comes into use; the key it replaces is to be retired. -/
def promote (state : Option RoleState) (metadata : KeyMetadata) : RoleState where
  active := metadata
  retiring := match state with
    | none => []
    | some state => state.retiring ++ [state.active]

section Entries

variable (snapshot : Snapshot)

theorem entry_withPending (metadata : KeyMetadata) (role : Role) :
    (withPending snapshot metadata).entry role =
      if role = metadata.role then ⟨(snapshot.entry role).state, some metadata⟩
      else snapshot.entry role := by
  by_cases same : role = metadata.role
  · subst same
    simp [Snapshot.entry, withPending]
  · simp [Snapshot.entry, withPending, same, AList.lookup_insert_ne]

theorem entry_withoutPending (removed role : Role) :
    (withoutPending snapshot removed).entry role =
      if role = removed then ⟨(snapshot.entry removed).state, none⟩
      else snapshot.entry role := by
  by_cases same : role = removed
  · subst same
    simp [Snapshot.entry, withoutPending]
  · simp [Snapshot.entry, withoutPending, same, AList.lookup_erase_ne]

theorem entry_activate (activated : Role) (metadata : KeyMetadata) (role : Role) :
    (activate snapshot activated metadata).entry role =
      if role = activated then ⟨some (promote (snapshot.entry activated).state metadata), none⟩
      else snapshot.entry role := by
  by_cases same : role = activated
  · subst same
    cases held : snapshot.roles.lookup role <;> simp [Snapshot.entry, activate, promote, held]
  · simp [Snapshot.entry, activate, same, AList.lookup_insert_ne, AList.lookup_erase_ne]

theorem entry_withoutRetiring (trimmed : Role) (state : RoleState) (role : Role) :
    (withoutRetiring snapshot trimmed state).entry role =
      if role = trimmed then ⟨some { state with retiring := [] }, (snapshot.entry role).pending⟩
      else snapshot.entry role := by
  by_cases same : role = trimmed
  · subst same
    simp [Snapshot.entry, withoutRetiring]
  · simp [Snapshot.entry, withoutRetiring, same, AList.lookup_insert_ne]

end Entries

/-- A key that the policy of its role allows. -/
@[irreducible]
def Fits (role : Role) (policy : RolePolicy) (key : KeyMetadata) : Prop :=
  validateMetadataForPolicy role policy key = .ok ()

variable {role : Role}

theorem fits_iff {policy : RolePolicy} {key : KeyMetadata} :
    Fits role policy key ↔ validateMetadataForPolicy role policy key = .ok () := by
  unfold Fits
  rfl

theorem Fits.handle {policy : RolePolicy} {key : KeyMetadata} (fits : Fits role policy key) :
    key.handle ∈ policy.handles :=
  handle_of_validateMetadata (fits_iff.mp fits)

/-- A role state that the check of loaded metadata accepts. -/
@[mk_iff]
structure Recorded (role : Role) (policy : RolePolicy) (state : RoleState) : Prop where
  fits : ∀ key ∈ state.keys, Fits role policy key
  permanent : policy.permanent role = true → state.active.generation = 1 ∧ state.retiring = []
  older : ∀ old ∈ state.retiring, old.generation < state.active.generation
  once : (state.keys.map KeyMetadata.handle).Nodup

/-- An intent that the check of loaded metadata accepts. -/
@[mk_iff]
structure Intended (role : Role) (policy : RolePolicy) (state : Option RoleState)
    (metadata : KeyMetadata) : Prop where
  fits : Fits role policy metadata
  permanent : policy.permanent role = true → state = none
  next : expectedGeneration role state = .ok metadata.generation
  unrecorded : ∀ recorded, state = some recorded →
    metadata.handle ∉ recorded.keys.map KeyMetadata.handle

/-- A record of a role that the check of loaded metadata accepts. -/
structure EntryOk (manager : Manager) (role : Role) (entry : RoleEntry) : Prop where
  state : ∀ state, entry.state = some state →
    ∃ policy, manager.policy role = some policy ∧ Recorded role policy state
  pending : ∀ metadata, entry.pending = some metadata →
    ∃ policy, manager.policy role = some policy ∧ Intended role policy entry.state metadata

/-- Metadata whose record of every role is accepted. -/
structure WellFormed (manager : Manager) (snapshot : Snapshot) : Prop where
  version : snapshot.version = metadataVersion
  entries : ∀ role, EntryOk manager role (snapshot.entry role)

section Validation

variable {manager : Manager} {snapshot : Snapshot} {policy : RolePolicy}
variable {seen next : SeenHandles} {state : RoleState} {metadata : KeyMetadata}

theorem SeenHandles.owner_eq_none {handle : Handle} :
    seen.owner handle = none ↔ handle ∉ seen.handles := by
  simp only [SeenHandles.owner, SeenHandles.handles, Option.map_eq_none_iff, List.find?_eq_none,
    List.mem_map, beq_iff_eq, not_exists, not_and]

theorem checkRecordedKey_eq_ok {active : KeyMetadata} {superseded : Bool} :
    checkRecordedKey role policy active superseded seen metadata = .ok next ↔
      (Fits role policy metadata ∧ (superseded = true → metadata.generation < active.generation)) ∧
        (∀ handle ∈ [metadata.handle], handle ∉ seen.handles) ∧
        next = (metadata.handle, role) :: seen := by
  simp only [checkRecordedKey, bind_eq_ok, reject_eq_ok, Unique.exists_iff,
    PUnit.default_eq_unit, fits_iff, List.mem_singleton, forall_eq, ← SeenHandles.owner_eq_none]
  cases seen.owner metadata.handle with
  | none =>
    simp only [pure, Except.pure]
    grind
  | some => simp

def SeenHandles.enter (role : Role) (seen : SeenHandles) (key : KeyMetadata) : SeenHandles :=
  (key.handle, role) :: seen

theorem mem_handles_enter {key : KeyMetadata} {handle : Handle} :
    handle ∈ (seen.enter role key).handles ↔ handle ∈ [key.handle] ∨ handle ∈ seen.handles := by
  simp [SeenHandles.enter, SeenHandles.handles]

theorem mem_handles_foldl {keys : List KeyMetadata} {handle : Handle} :
    handle ∈ (keys.foldl (SeenHandles.enter role) seen).handles ↔
      handle ∈ keys.map KeyMetadata.handle ∨ handle ∈ seen.handles := by
  rw [List.map_eq_flatMap]
  exact mem_used_foldl fun seen key handle =>
    (mem_handles_enter : handle ∈ (seen.enter role key).handles ↔ _)

theorem checkRoleState_eq_ok :
    checkRoleState manager seen role state = .ok next ↔
      (∃ policy, manager.policy role = some policy ∧ Recorded role policy state) ∧
        (∀ handle ∈ state.keys.map KeyMetadata.handle, handle ∉ seen.handles) ∧
        next = state.keys.foldl (SeenHandles.enter role) seen := by
  unfold checkRoleState
  cases manager.policy role with
  | none => simp
  | some policy =>
    have folded := @foldEach_keyed Error SeenHandles KeyMetadata Handle
      (checkRecordedKey role policy state.active true) (SeenHandles.enter role)
      SeenHandles.handles (fun key => [key.handle]) _
      (fun _ _ _ => checkRecordedKey_eq_ok) (fun _ _ => List.nodup_singleton _)
      (fun _ _ _ => mem_handles_enter) state.retiring
    simp only [bind_eq_ok, reject_eq_ok, exists_const, checkRecordedKey_eq_ok, folded,
      recorded_iff, RoleState.keys, ← List.map_eq_flatMap, Option.some.injEq, exists_eq_left',
      List.forall_mem_cons, List.map_cons, List.nodup_cons, List.foldl_cons]
    grind [SeenHandles.enter, SeenHandles.handles]

/-- What the check of an intent asks of the intent alone. -/
def Expected (manager : Manager) (snapshot : Snapshot) (role : Role) (metadata : KeyMetadata) :
    Prop :=
  ∃ policy, manager.policy role = some policy ∧ Fits role policy metadata ∧
    (policy.permanent role = true → snapshot.roles.lookup role = none) ∧
    expectedGeneration role (snapshot.roles.lookup role) = .ok metadata.generation

theorem checkPendingKey_eq_ok :
    checkPendingKey manager snapshot seen role metadata = .ok next ↔
      Expected manager snapshot role metadata ∧
        (∀ handle ∈ [metadata.handle], handle ∉ seen.handles) ∧
        next = seen.enter role metadata := by
  unfold checkPendingKey Expected
  cases manager.policy role with
  | none => simp
  | some =>
    simp only [bind_eq_ok, reject_eq_ok, Unique.exists_iff, PUnit.default_eq_unit, fits_iff,
      Option.some.injEq, exists_eq_left', List.mem_singleton, forall_eq, SeenHandles.enter,
      ← SeenHandles.owner_eq_none]
    cases seen.owner metadata.handle with
    | none =>
      simp only [pure, Except.pure]
      cases snapshot.roles.lookup role <;> grind [expectedGeneration]
    | some => simp

variable (manager) in
/-- The pools of the roles are disjoint, so handles that are in them differ if
they differ for each role. -/
theorem nodup_pooled {Value : Type} {records : AList fun _ : Role => Value}
    {handles : (Σ _ : Role, Value) → List Handle}
    (once : ∀ entry ∈ records.entries, (handles entry).Nodup)
    (pooled : ∀ entry ∈ records.entries, ∀ handle ∈ handles entry,
      manager.Pool entry.1 handle) : (records.entries.flatMap handles).Nodup := by
  refine List.nodup_flatMap.mpr ⟨once, ?_⟩
  refine (List.nodupKeys_iff_pairwise.mp records.nodupKeys).imp_of_mem ?_
  intro first second inFirst inSecond different handle left right
  exact different (Manager.pool_role (pooled first inFirst handle left)
    (pooled second inSecond handle right))

theorem Recorded.pool (recorded : Recorded role policy state)
    (configured : manager.policy role = some policy) {handle : Handle}
    (member : handle ∈ state.keys.map KeyMetadata.handle) : manager.Pool role handle := by
  obtain ⟨key, inKeys, rfl⟩ := List.mem_map.mp member
  exact ⟨policy, configured, (recorded.fits key inKeys).handle⟩

theorem WellFormed.pool_of_state (form : WellFormed manager snapshot) {handle : Handle}
    (present : snapshot.roles.lookup role = some state)
    (member : handle ∈ state.keys.map KeyMetadata.handle) : manager.Pool role handle := by
  obtain ⟨_, configured, recorded⟩ := (form.entries role).state state present
  exact recorded.pool configured member

theorem WellFormed.pool_of_pending (form : WellFormed manager snapshot) {metadata : KeyMetadata}
    (intended : snapshot.pending.lookup role = some metadata) :
    manager.Pool role metadata.handle := by
  obtain ⟨policy, configured, accepted⟩ := (form.entries role).pending metadata intended
  exact ⟨policy, configured, accepted.fits.handle⟩

/-- Accepted metadata lists no handle twice. -/
theorem WellFormed.nodup_handles (form : WellFormed manager snapshot) :
    ((snapshot.roles.entries.flatMap fun entry => entry.2.keys.map KeyMetadata.handle) ++
      snapshot.pending.entries.flatMap fun entry => [entry.2.handle]).Nodup := by
  rw [List.nodup_append]
  refine ⟨nodup_pooled manager ?_ ?_,
    nodup_pooled manager (fun _ _ => List.nodup_singleton _) ?_, ?_⟩
  · intro entry listed
    obtain ⟨_, _, recorded⟩ := (form.entries entry.1).state entry.2 (mem_entries_iff.mp listed)
    exact recorded.once
  · intro entry listed handle member
    exact form.pool_of_state (mem_entries_iff.mp listed) member
  · intro _ listed handle member
    rw [List.mem_singleton.mp member]
    exact form.pool_of_pending (mem_entries_iff.mp listed)
  · rintro _ inRoles _ inPending rfl
    obtain ⟨⟨role, state⟩, stored, inKeys⟩ := List.mem_flatMap.mp inRoles
    obtain ⟨⟨_, metadata⟩, listed, here⟩ := List.mem_flatMap.mp inPending
    cases List.mem_singleton.mp here
    have present := mem_entries_iff.mp stored
    have intended := mem_entries_iff.mp listed
    obtain rfl := Manager.pool_role (form.pool_of_state present inKeys)
      (form.pool_of_pending intended)
    obtain ⟨_, _, accepted⟩ := (form.entries role).pending metadata intended
    exact accepted.unrecorded state present inKeys

/-- Metadata is accepted exactly when its record of every role is. -/
theorem validateSnapshot_eq_ok :
    validateSnapshot manager snapshot = .ok () ↔ WellFormed manager snapshot := by
  have states := @foldEach_keyed Error SeenHandles (Σ _ : Role, RoleState) Handle
    (fun seen entry => checkRoleState manager seen entry.1 entry.2)
    (fun seen entry => entry.2.keys.foldl (SeenHandles.enter entry.1) seen) SeenHandles.handles
    (fun entry => entry.2.keys.map KeyMetadata.handle) _ (fun _ _ _ => checkRoleState_eq_ok)
    (fun _ accepted => accepted.choose_spec.2.once) (fun _ _ _ => mem_handles_foldl)
    snapshot.roles.entries
  have intents := @foldEach_keyed Error SeenHandles (Σ _ : Role, KeyMetadata) Handle
    (fun seen entry => checkPendingKey manager snapshot seen entry.1 entry.2)
    (fun seen entry => seen.enter entry.1 entry.2) SeenHandles.handles
    (fun entry => [entry.2.handle]) _ (fun _ _ _ => checkPendingKey_eq_ok)
    (fun _ _ => List.nodup_singleton _) (fun _ _ _ => mem_handles_enter) snapshot.pending.entries
  have members : ∀ handle, handle ∈ SeenHandles.handles (snapshot.roles.entries.foldl
      (fun seen entry => entry.2.keys.foldl (SeenHandles.enter entry.1) seen) []) ↔
      handle ∈ snapshot.roles.entries.flatMap fun entry =>
        entry.2.keys.map KeyMetadata.handle := by
    intro handle
    refine (@mem_used_foldl SeenHandles (Σ _ : Role, RoleState) Handle _ SeenHandles.handles
      (fun entry => entry.2.keys.map KeyMetadata.handle) (fun _ _ _ => mem_handles_foldl) _ _
      handle).trans ?_
    simp [SeenHandles.handles]
  simp only [validateSnapshot, validateSnapshotEnvelope, bind_eq_ok, reject_eq_ok, exists_const,
    bne_eq_false_iff_eq, states, intents]
  constructor
  · rintro ⟨version, _, ⟨recorded, _, _, rfl⟩, _, ⟨expected, _, unmet, rfl⟩, _⟩
    refine ⟨version, fun role => ⟨fun state found =>
      recorded ⟨role, state⟩ (mem_entries_iff.mpr found), ?_⟩⟩
    intro metadata found
    have listed := mem_entries_iff.mpr found
    obtain ⟨policy, configured, fits, permanent, next⟩ := expected ⟨role, metadata⟩ listed
    refine ⟨policy, configured, fits, permanent, next, fun state stored inKeys => ?_⟩
    exact unmet metadata.handle (List.mem_flatMap.mpr ⟨_, listed, List.mem_singleton_self _⟩)
      ((members _).mpr (List.mem_flatMap.mpr ⟨⟨role, state⟩, mem_entries_iff.mpr stored, inKeys⟩))
  · intro form
    obtain ⟨onceStates, onceIntents, apart⟩ := List.nodup_append.mp form.nodup_handles
    have recorded : ∀ entry ∈ snapshot.roles.entries, ∃ policy,
        manager.policy entry.1 = some policy ∧ Recorded entry.1 policy entry.2 :=
      fun entry listed =>
        (form.entries entry.1).state entry.2 (mem_entries_iff.mp listed)
    refine ⟨form.version, _, ⟨recorded, onceStates, by simp [SeenHandles.handles], rfl⟩, _,
      ⟨?_, onceIntents, ?_, rfl⟩, rfl⟩
    · intro entry listed
      obtain ⟨policy, configured, accepted⟩ :=
        (form.entries entry.1).pending entry.2 (mem_entries_iff.mp listed)
      exact ⟨policy, configured, accepted.fits, accepted.permanent, accepted.next⟩
    · intro handle met seen
      exact apart handle ((members handle).mp seen) handle met rfl

theorem WellFormed.separated (form : WellFormed manager snapshot) : Separated manager snapshot := by
  refine ⟨?_, ?_, ?_⟩
  · intro role state found
    obtain ⟨policy, configured, recorded⟩ := (form.entries role).state state found
    exact recorded.pool configured List.mem_cons_self
  · intro role state found old member
    obtain ⟨policy, configured, recorded⟩ := (form.entries role).state state found
    have inKeys : old.handle ∈ state.retiring.map KeyMetadata.handle := List.mem_map_of_mem member
    refine ⟨recorded.pool configured (List.mem_cons_of_mem _ inKeys), fun same => ?_⟩
    exact (List.nodup_cons.mp recorded.once).1 (same ▸ inKeys)
  · intro role metadata found
    obtain ⟨policy, configured, intended⟩ := (form.entries role).pending metadata found
    refine ⟨⟨policy, configured, intended.fits.handle⟩, fun state stored same => ?_,
      fun state stored old member same => ?_⟩
    · exact intended.unrecorded state stored (same ▸ List.mem_cons_self)
    · exact intended.unrecorded state stored
        (List.mem_cons_of_mem _ (same ▸ List.mem_map_of_mem member))

end Validation

end Sovereignite.KeyManager
