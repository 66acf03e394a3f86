import Sovereignite.KeyManagerLifecycle

/-!
# Every object of a pool is accounted for

The keys a role records and the objects in its pool are kept in step: each
object is the object of exactly one recorded key, and the key in use has its
object.  What an operation does to a role keeps that up, and what it does to
the object of one role leaves the other roles alone.

Which handles were free at the start, and when a key may follow another one,
which depends on who asks for rotations and on the clock, is left open here.
-/

namespace Sovereignite.KeyManager

open Effect

/-- Which handles are tracked because they were free at the start, which reading
of the clock may come after which, whether rotations are asked for directly, and
when a key may be created that follows another one. -/
structure Setting where
  tracked : Handle → Prop
  reads : Time → Time → Prop
  rotates : Prop
  follows : RolePolicy → KeyMetadata → Time → Prop
  refl : ∀ time, reads time time
  trans : ∀ first second third, reads first second → reads second third → reads first third
  due : ∀ policy key now later, key.createdAt + policy.rotationInterval ≤ now →
    reads now later → follows policy key later
  anytime : rotates → ∀ policy key time, follows policy key time

/-- What one save does to the record of a role. -/
inductive Advance (setting : Setting) (manager : Manager) (role : Role) :
    RoleEntry → RoleEntry → Prop where
  | same (entry : RoleEntry) : Advance setting manager role entry entry
  | intended (state : Option RoleState) (metadata : KeyMetadata) :
      Advance setting manager role ⟨state, none⟩ ⟨state, some metadata⟩
  | dropped (state : Option RoleState) (metadata : KeyMetadata) :
      Advance setting manager role ⟨state, some metadata⟩ ⟨state, none⟩
  | activated (policy : RolePolicy) (state : Option RoleState) (metadata : KeyMetadata)
      (configured : manager.policy role = some policy)
      (accepted : Intended role policy state metadata)
      (timely : ∀ recorded, state = some recorded →
        setting.follows policy recorded.active metadata.createdAt) :
      Advance setting manager role ⟨state, some metadata⟩ ⟨some (promote state metadata), none⟩
  | forgotten (state : RoleState) (pending : Option KeyMetadata) :
      Advance setting manager role ⟨some state, pending⟩
        ⟨some { state with retiring := [] }, pending⟩

/-- An object is the one a key describes. -/
@[irreducible]
def Verifies (env : Platform) (key : KeyMetadata) (object : Public) : Prop :=
  verifyPublicMetadata env key object = .ok ()

variable {key : KeyMetadata}

theorem verifies_iff {env : Platform} {object : Public} :
    Verifies env key object ↔ verifyPublicMetadata env key object = .ok () := by
  unfold Verifies
  rfl

/-- The TPM holds the object of a key. -/
def Holds (env : Platform) (objects : Handle → Option Public) (key : KeyMetadata) : Prop :=
  ∃ object, objects key.handle = some object ∧ Verifies env key object

/-- The record of a role is accepted, every object at a tracked handle of its
pool is the object of a recorded key, and the key in use has its object. -/
structure RoleValid (env : Platform) (setting : Setting) (manager : Manager) (role : Role)
    (entry : RoleEntry) (objects : Handle → Option Public) : Prop where
  accepted : EntryOk manager role entry
  listed : ∀ handle, manager.Pool role handle → setting.tracked handle →
    ∀ object, objects handle = some object →
    ∃ key ∈ entry.keys, key.handle = handle ∧ Verifies env key object
  active : ∀ state, entry.state = some state → Holds env objects state.active
  timely : ∀ policy state metadata, manager.policy role = some policy →
    entry.state = some state → entry.pending = some metadata →
      setting.follows policy state.active metadata.createdAt

section Steps

variable {env : Platform} {setting : Setting} {manager : Manager} {role : Role}
variable {objects : Handle → Option Public} {state : Option RoleState} {metadata : KeyMetadata}

theorem roleValid_empty (untouched : ∀ handle, manager.Pool role handle →
      setting.tracked handle → objects handle = none) :
    RoleValid env setting manager role ⟨none, none⟩ objects where
  accepted := ⟨by rintro _ ⟨⟩, by rintro _ ⟨⟩⟩
  listed handle pool tracked object present := by
    rw [untouched handle pool tracked] at present
    cases present
  active := by rintro _ ⟨⟩
  timely := by rintro _ _ _ _ ⟨⟩

/-- The intent of a creation adds a key. -/
theorem RoleValid.intend {policy : RolePolicy}
    (valid : RoleValid env setting manager role ⟨state, none⟩ objects)
    (configured : manager.policy role = some policy)
    (accepted : Intended role policy state metadata)
    (follows : ∀ recorded, state = some recorded →
      setting.follows policy recorded.active metadata.createdAt) :
    RoleValid env setting manager role ⟨state, some metadata⟩ objects where
  accepted := by
    refine ⟨valid.accepted.state, ?_⟩
    rintro _ ⟨⟩
    exact ⟨policy, configured, accepted⟩
  listed handle pool tracked object present := by
    obtain ⟨key, member, facts⟩ := valid.listed handle pool tracked object present
    refine ⟨key, ?_, facts⟩
    simp only [RoleEntry.keys, Option.toList_none, List.append_nil] at member
    exact List.mem_append_left _ member
  active := valid.active
  timely := by
    rintro _ recorded _ otherConfigured present ⟨⟩
    cases configured.symm.trans otherConfigured
    exact follows recorded present

theorem RoleValid.drop (valid : RoleValid env setting manager role ⟨state, some metadata⟩ objects)
    (free : objects metadata.handle = none) :
    RoleValid env setting manager role ⟨state, none⟩ objects where
  accepted := ⟨valid.accepted.state, by rintro _ ⟨⟩⟩
  listed handle pool tracked object present := by
    obtain ⟨key, member, same, verified⟩ := valid.listed handle pool tracked object present
    refine ⟨key, ?_, same, verified⟩
    rcases List.mem_append.mp member with inState | inPending
    · exact List.mem_append_left _ inState
    · rw [Option.mem_toList] at inPending
      cases inPending
      rw [← same, free] at present
      cases present
  active := valid.active
  timely := by rintro _ _ _ _ _ ⟨⟩

theorem mem_keys_promote :
    key ∈ (promote state metadata).keys ↔ key ∈ RoleEntry.keys ⟨state, some metadata⟩ := by
  cases state with
  | none => simp [promote, RoleState.keys, RoleEntry.keys]
  | some =>
    simp only [promote, RoleState.keys, RoleEntry.keys, Option.map_some, Option.getD_some,
      Option.toList_some, List.mem_cons, List.mem_append, List.cons_append, List.not_mem_nil,
      or_false]
    tauto

theorem generation_lt {recorded : RoleState} {generation : UInt64}
    (expected : expectedGeneration role (some recorded) = .ok generation) :
    generation.toNat = recorded.active.generation.toNat + 1 := by
  obtain ⟨_, room, next⟩ := bind_eq_ok.mp expected
  rw [reject_eq_ok, beq_eq_false_iff_ne] at room
  cases next
  exact toNat_succ room

theorem Recorded.promote {policy : RolePolicy}
    (before : ∀ recorded, state = some recorded → Recorded role policy recorded)
    (accepted : Intended role policy state metadata) :
    Recorded role policy (promote state metadata) := by
  cases state with
  | none =>
    have first : metadata.generation = 1 := (Except.ok.inj accepted.next).symm
    refine ⟨?_, fun _ => ⟨first, rfl⟩, by rintro _ ⟨⟩, List.nodup_singleton _⟩
    intro key member
    cases List.mem_singleton.mp member
    exact accepted.fits
  | some recorded =>
    have state := before recorded rfl
    have newer := generation_lt accepted.next
    refine ⟨?_, ?_, ?_, ?_⟩
    · intro key member
      have inKeys : key = metadata ∨ key ∈ recorded.keys := by
        simp only [KeyManager.promote, RoleState.keys, List.mem_cons, List.mem_append,
          List.not_mem_nil, or_false] at member ⊢
        tauto
      rcases inKeys with rfl | earlier
      · exact accepted.fits
      · exact state.fits key earlier
    · intro permanent
      cases accepted.permanent permanent
    · intro old member
      rw [UInt64.lt_iff_toNat_lt]
      have inUse : (KeyManager.promote (some recorded) metadata).active = metadata := rfl
      rw [inUse, newer]
      rcases List.mem_append.mp member with earlier | last
      · have older := UInt64.lt_iff_toNat_lt.mp (state.older old earlier)
        omega
      · rw [List.mem_singleton.mp last]
        omega
    · have unrecorded := accepted.unrecorded recorded rfl
      have once := state.once
      simp only [KeyManager.promote, RoleState.keys, List.map_cons, List.map_append, List.map_nil,
        List.nodup_cons, List.mem_cons, List.mem_append, not_or, List.not_mem_nil, or_false]
        at once unrecorded ⊢
      refine ⟨⟨unrecorded.2, unrecorded.1⟩, ?_⟩
      rw [List.nodup_append]
      refine ⟨once.2, List.nodup_singleton _, ?_⟩
      intro _ inRetiring _ inActive same
      cases List.mem_singleton.mp inActive
      exact once.1 (same ▸ inRetiring)

/-- An intended key whose object is there comes into use. -/
theorem RoleValid.activate
    (valid : RoleValid env setting manager role ⟨state, some metadata⟩ objects)
    (created : Holds env objects metadata) :
    RoleValid env setting manager role ⟨some (promote state metadata), none⟩ objects where
  accepted := by
    obtain ⟨policy, configured, accepted⟩ := valid.accepted.pending metadata rfl
    refine ⟨?_, by rintro _ ⟨⟩⟩
    rintro _ ⟨⟩
    refine ⟨policy, configured, Recorded.promote ?_ accepted⟩
    intro recorded present
    obtain ⟨_, otherConfigured, facts⟩ := valid.accepted.state recorded present
    cases configured.symm.trans otherConfigured
    exact facts
  listed handle pool tracked object present := by
    obtain ⟨key, member, facts⟩ := valid.listed handle pool tracked object present
    refine ⟨key, ?_, facts⟩
    have inKeys := mem_keys_promote.mpr member
    simpa [RoleEntry.keys] using inKeys
  active := by
    rintro _ ⟨⟩
    exact created
  timely := by rintro _ _ _ _ _ ⟨⟩

theorem RoleValid.forget {recorded : RoleState} {pending : Option KeyMetadata}
    (valid : RoleValid env setting manager role ⟨some recorded, pending⟩ objects)
    (free : ∀ old ∈ recorded.retiring, objects old.handle = none) :
    RoleValid env setting manager role ⟨some { recorded with retiring := [] }, pending⟩
      objects where
  accepted := by
    obtain ⟨policy, configured, state⟩ := valid.accepted.state recorded rfl
    refine ⟨?_, ?_⟩
    · rintro _ ⟨⟩
      refine ⟨policy, configured, ?_, ?_, by rintro _ ⟨⟩, List.nodup_singleton _⟩
      · intro key member
        cases List.mem_singleton.mp member
        exact state.fits _ List.mem_cons_self
      · intro permanent
        exact ⟨(state.permanent permanent).1, rfl⟩
    · intro metadata intended
      obtain ⟨other, otherConfigured, accepted⟩ := valid.accepted.pending metadata intended
      refine ⟨other, otherConfigured, accepted.fits, ?_, accepted.next, ?_⟩
      · intro permanent
        cases accepted.permanent permanent
      · rintro _ ⟨⟩ member
        refine accepted.unrecorded recorded rfl ?_
        rw [List.mem_singleton.mp member]
        exact List.mem_cons_self
  listed handle pool tracked object present := by
    obtain ⟨key, member, same, verified⟩ := valid.listed handle pool tracked object present
    refine ⟨key, ?_, same, verified⟩
    rcases List.mem_append.mp member with inState | inPending
    · rcases List.mem_cons.mp inState with rfl | inRetiring
      · exact List.mem_append_left _ List.mem_cons_self
      · rw [← same, free key inRetiring] at present
        cases present
    · exact List.mem_append_right _ inPending
  active := by
    rintro _ ⟨⟩
    exact valid.active recorded rfl
  timely := by
    rintro policy _ metadata configured ⟨⟩ intended
    exact valid.timely policy recorded metadata configured rfl intended

end Steps

section Objects

variable {env : Platform} {setting : Setting} {manager : Manager} {role : Role}
variable {objects : Handle → Option Public} {entry : RoleEntry} {handle : Handle}

theorem Holds.update (held : Holds env objects key) (different : key.handle ≠ handle)
    (object : Option Public) : Holds env (Function.update objects handle object) key := by
  obtain ⟨stored, present, verified⟩ := held
  exact ⟨stored, by rw [Function.update_of_ne different]; exact present, verified⟩

theorem RoleValid.active_pool (valid : RoleValid env setting manager role entry objects)
    {state : RoleState} (present : entry.state = some state) :
    manager.Pool role state.active.handle := by
  obtain ⟨_, configured, recorded⟩ := valid.accepted.state state present
  exact recorded.pool configured List.mem_cons_self

theorem RoleValid.elsewhere (valid : RoleValid env setting manager role entry objects)
    (outside : ¬ manager.Pool role handle) (object : Option Public) :
    RoleValid env setting manager role entry (Function.update objects handle object) where
  accepted := valid.accepted
  listed other pool tracked stored present := by
    have different : other ≠ handle := fun same => outside (same ▸ pool)
    rw [Function.update_of_ne different] at present
    exact valid.listed other pool tracked stored present
  active state present := by
    refine (valid.active state present).update ?_ object
    intro same
    exact outside (same ▸ valid.active_pool present)
  timely := valid.timely

theorem RoleValid.evict (valid : RoleValid env setting manager role entry objects)
    (unused : ∀ state, entry.state = some state → state.active.handle ≠ handle) :
    RoleValid env setting manager role entry (Function.update objects handle none) where
  accepted := valid.accepted
  listed other pool tracked stored present := by
    by_cases same : other = handle
    · subst same
      rw [Function.update_self] at present
      cases present
    · rw [Function.update_of_ne same] at present
      exact valid.listed other pool tracked stored present
  active state present := (valid.active state present).update (unused state present) none
  timely := valid.timely

theorem RoleValid.persist {state : Option RoleState} {metadata : KeyMetadata} {object : Public}
    (valid : RoleValid env setting manager role ⟨state, some metadata⟩ objects)
    (verified : Verifies env metadata object) :
    RoleValid env setting manager role ⟨state, some metadata⟩
      (Function.update objects metadata.handle (some object)) where
  accepted := valid.accepted
  listed other pool tracked stored present := by
    by_cases same : other = metadata.handle
    · subst same
      rw [Function.update_self] at present
      cases present
      exact ⟨metadata, List.mem_append_right _ (by simp), rfl, verified⟩
    · rw [Function.update_of_ne same] at present
      exact valid.listed other pool tracked stored present
  active recorded present := by
    refine (valid.active recorded present).update ?_ _
    intro same
    obtain ⟨_, _, accepted⟩ := valid.accepted.pending metadata rfl
    refine accepted.unrecorded recorded present ?_
    rw [← same]
    exact List.mem_cons_self
  timely := valid.timely

end Objects

end Sovereignite.KeyManager
