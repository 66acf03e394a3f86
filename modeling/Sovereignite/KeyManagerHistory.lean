import Sovereignite.KeyManagerSharedExecution
import Sovereignite.KeyManagerSharedSafety

/-!
# The history of the metadata

Every snapshot that was ever visible is accepted when it is loaded again.  From
one visible snapshot to the next the key of a role stays, or is replaced by the
one of the next generation; a permanent role keeps its first key.  Where all
readings come from one clock and nobody asks for a rotation directly, a key is
replaced only when its interval has passed.
-/

namespace Sovereignite.KeyManager.Shared

open Effect
open Trust (Context)

/-- Readings of the clock are arbitrary and rotations may be asked for. -/
def unrestricted (tracked : Handle → Prop) : Setting where
  tracked := tracked
  reads _ _ := True
  rotates := True
  follows _ _ _ := True
  refl _ := trivial
  trans _ _ _ _ _ := trivial
  due _ _ _ _ _ _ := trivial
  anytime _ _ _ _ := trivial

/-- The clock does not go back, and only schedulers rotate. -/
def scheduled (tracked : Handle → Prop) : Setting where
  tracked := tracked
  reads earlier later := earlier ≤ later
  rotates := False
  follows policy key time := key.createdAt + policy.rotationInterval ≤ time
  refl := le_refl
  trans _ _ _ := le_trans
  due _ _ _ _ := le_trans
  anytime := False.elim

variable {env : Platform} {setting : Setting} {manager : Manager} {role : Role}

section Steps

variable {before after : RoleEntry} {state : RoleState}

theorem active_of_advance (advance : Advance setting manager role before after)
    (present : before.state = some state) :
    ∃ next, after.state = some next ∧ (next.active = state.active ∨
      ∃ policy, manager.policy role = some policy ∧ policy.permanent role = false ∧
        next.active.generation.toNat = state.active.generation.toNat + 1 ∧
        setting.follows policy state.active next.active.createdAt) := by
  cases advance with
  | same | intended | dropped => exact ⟨state, present, .inl rfl⟩
  | activated policy _ _ configured accepted timely =>
    cases present
    refine ⟨_, rfl, .inr ⟨policy, configured, ?_, generation_lt accepted.next, ?_⟩⟩
    · cases permanent : policy.permanent role with
      | false => rfl
      | true => cases accepted.permanent permanent
    · exact timely state rfl
  | forgotten =>
    cases present
    exact ⟨_, rfl, .inl rfl⟩

end Steps

/-- A snapshot after another one keeps the key of a role. -/
def KeepsActive (role : Role) (newer older : Snapshot) : Prop :=
  ∀ state, older.roles.lookup role = some state →
    ∃ next, newer.roles.lookup role = some next ∧ next.active = state.active

instance : IsTrans Snapshot (KeepsActive role) where
  trans newest newer older second first state present := by
    obtain ⟨middle, found, same⟩ := first state present
    obtain ⟨last, foundLast, sameLast⟩ := second middle found
    exact ⟨last, foundLast, sameLast.trans same⟩

theorem keepsActive_of_replaced {policy : RolePolicy} {newer older : Snapshot}
    (configured : manager.policy role = some policy) (permanent : policy.permanent role = true)
    (replaced : Replaced setting manager newer older) : KeepsActive role newer older := by
  intro _ present
  obtain ⟨next, found, same | ⟨_, otherConfigured, movable, _⟩⟩ :=
    active_of_advance (replaced role) present
  · exact ⟨next, found, same⟩
  · cases configured.symm.trans otherConfigured
    rw [permanent] at movable
    cases movable

theorem lifetime_permanent {policy : RolePolicy} (lifetime : policy.lifetime = true) :
    policy.permanent role = true := by
  simp [RolePolicy.permanent, lifetime]

/-- What the check of loaded metadata says of the generations of a role. -/
structure GenerationsOrdered (snapshot : Snapshot) (role : Role) : Prop where
  retiring : ∀ state, snapshot.roles.lookup role = some state →
    ∀ old ∈ state.retiring, old.generation < state.active.generation
  pending : ∀ state metadata, snapshot.roles.lookup role = some state →
    snapshot.pending.lookup role = some metadata →
      metadata.generation.toNat = state.active.generation.toNat + 1

theorem generationsOrdered_of_wellFormed {snapshot : Snapshot}
    (wellFormed : WellFormed manager snapshot) (role : Role) :
    GenerationsOrdered snapshot role where
  retiring state present := by
    obtain ⟨policy, _, recorded⟩ := (wellFormed.entries role).state state present
    exact recorded.older
  pending state metadata present intended := by
    obtain ⟨_, _, accepted⟩ := (wellFormed.entries role).pending metadata intended
    have next := accepted.next
    rw [show (snapshot.entry role).state = some state from present] at next
    exact generation_lt next

/-- In every run of any processes over one store, whatever the TPM held before
and whatever the clock reads, every snapshot that was saved is accepted when it
is loaded again, with the generations of each role in order; and a lifetime role
that had a key keeps it, of generation one, in every later snapshot. -/
theorem saved_accepted_and_lifetime_kept {objects : Handle → Option Public} {clock : Time}
    {state : SystemState signature World Process Error Unit} (encodes : EncodesKeys env)
    (reached : (rules env (unrestricted fun handle => objects handle = none) manager).Reachable
      (initialWorld objects clock) state) :
    (∀ snapshot ∈ state.world.saved, validateSnapshot manager snapshot = .ok () ∧
      ∀ role, GenerationsOrdered snapshot role) ∧
    ∀ role policy, manager.policy role = some policy → policy.lifetime = true →
      (∀ snapshot ∈ state.world.saved, ∀ recorded, snapshot.roles.lookup role = some recorded →
        recorded.active.generation = 1) ∧
      state.world.saved.Pairwise (KeepsActive role) := by
  have valid := valid_of_reachable encodes (fun _ _ _ free => free) reached
  refine ⟨fun snapshot member => ?_, fun role policy configured lifetime => ⟨?_, ?_⟩⟩
  · have wellFormed := valid.accepted snapshot member
    exact ⟨validateSnapshot_eq_ok.mpr wellFormed, generationsOrdered_of_wellFormed wellFormed⟩
  · intro snapshot member recorded present
    obtain ⟨_, otherConfigured, facts⟩ :=
      ((valid.accepted snapshot member).entries role).state recorded present
    cases configured.symm.trans otherConfigured
    exact (facts.permanent (lifetime_permanent lifetime)).1
  · apply List.IsChain.pairwise
    exact valid.history.imp fun newer older replaced =>
      keepsActive_of_replaced configured (lifetime_permanent lifetime) replaced.2

section SampleDevice

open Trust (samplePlatform sampleInputs)

theorem samplePlatform_encodesKeys : EncodesKeys (samplePlatform sampleInputs) := by
  intro key _ encoded
  cases key with
  | ecdsa =>
    cases encoded
    simp
  | _ => cases encoded

def rotatedDevice : World :=
  execute 2 70 (rotate (samplePlatform sampleInputs) deviceManager .background roleDeviceRootCA >>=
      fun _ => .ret ())
    (execute 1 60 (ensureRole (samplePlatform sampleInputs) deviceManager .background
        roleDeviceRootCA >>= fun _ => .ret ())
      (execute 0 50 (ensureRole (samplePlatform sampleInputs) deviceManager .background
          roleDeviceIPNSIdentity >>= fun _ => .ret ())
        (initialWorld (fun _ => none) 0)))

theorem rotatedDevice_attained (tracked : Handle → Prop) :
    Attained (samplePlatform sampleInputs) (unrestricted tracked) deviceManager rotatedDevice
      3 := by
  have forward : ∀ clock time, (unrestricted tracked).reads clock (max clock time) :=
    fun _ _ => trivial
  have identity := (attained_initial (samplePlatform sampleInputs) (unrestricted tracked)
    deviceManager 0).execute forward
    (.ensureRole .background roleDeviceIPNSIdentity) 50
  have authority := identity.execute forward (.ensureRole .background roleDeviceRootCA) 60
  exact authority.execute forward (.rotate trivial .background roleDeviceRootCA) 70

/-- Seven snapshots were saved, the authority is at its second key and the
identity at its first. -/
theorem rotatedDevice_accepted_and_kept :
    (rotatedDevice.saved.map Snapshot.revision = [7, 6, 5, 4, 3, 2, 1, 0] ∧
      (rotatedDevice.visible.roles.lookup roleDeviceRootCA).map
        (fun state => state.active.generation) = some 2) ∧
    (∀ snapshot ∈ rotatedDevice.saved, validateSnapshot deviceManager snapshot = .ok () ∧
      ∀ role, GenerationsOrdered snapshot role) ∧
    ∀ role policy, deviceManager.policy role = some policy → policy.lifetime = true →
      (∀ snapshot ∈ rotatedDevice.saved, ∀ recorded, snapshot.roles.lookup role = some recorded →
        recorded.active.generation = 1) ∧
      rotatedDevice.saved.Pairwise (KeepsActive role) := by
  refine ⟨⟨by decide +kernel, by decide +kernel⟩, ?_⟩
  obtain ⟨_, reached, same, _⟩ := rotatedDevice_attained fun _ => (none : Option Public) = none
  rw [← same]
  exact saved_accepted_and_lifetime_kept samplePlatform_encodesKeys reached

end SampleDevice

/-- From one snapshot to the next a role keeps its key, or has one of the next
generation that was created no earlier than an interval after it. -/
def RotatesOnTime (policy : RolePolicy) (newer older : Snapshot) : Prop :=
  ∀ state, older.roles.lookup policy.role = some state →
    ∃ next, newer.roles.lookup policy.role = some next ∧ (next.active = state.active ∨
      (next.active.generation.toNat = state.active.generation.toNat + 1 ∧
        state.active.createdAt + policy.rotationInterval ≤ next.active.createdAt))

/-- In every run of any processes over one store in which all readings come from
one clock that does not go back and rotations are left to the schedulers, two
successive keys of a role have successive generations and were created at least
the rotation interval apart. -/
theorem scheduled_rotations_on_time {objects : Handle → Option Public} {clock : Time}
    {state : SystemState signature World Process Error Unit} (encodes : EncodesKeys env)
    (reached : (rules env (scheduled fun handle => objects handle = none) manager).Reachable
      (initialWorld objects clock) state)
    {policy : RolePolicy} (configured : manager.policy policy.role = some policy) :
    state.world.saved.IsChain (RotatesOnTime policy) := by
  have valid := valid_of_reachable encodes (fun _ _ _ free => free) reached
  apply valid.history.imp
  rintro _ _ ⟨_, replaced⟩ _ present
  obtain ⟨next, found, same | ⟨_, otherConfigured, _, generation, follows⟩⟩ :=
    active_of_advance (replaced policy.role) present
  · exact ⟨next, found, .inl same⟩
  · cases configured.symm.trans otherConfigured
    exact ⟨next, found, .inr ⟨generation, follows⟩⟩

section SampleDevice

open Trust (samplePlatform sampleInputs)

/-- The authority gets a key at sixty and a scheduler runs when it is due. -/
def scheduledDevice : World :=
  execute 2 1060 (runOnce (samplePlatform sampleInputs) deviceManager .background >>=
      fun _ => .ret ())
    (execute 1 1059 (runOnce (samplePlatform sampleInputs) deviceManager .background >>=
        fun _ => .ret ())
      (execute 0 60 (ensureRole (samplePlatform sampleInputs) deviceManager .background
          roleDeviceRootCA >>= fun _ => .ret ())
        (initialWorld (fun _ => none) 0)))

theorem scheduledDevice_attained :
    Attained (samplePlatform sampleInputs) (scheduled fun _ => (none : Option Public) = none)
      deviceManager scheduledDevice 3 := by
  have forward : ∀ clock time, (scheduled fun _ => (none : Option Public) = none).reads clock
      (max clock time) := fun clock time => le_max_left clock time
  have created := (attained_initial (samplePlatform sampleInputs)
    (scheduled fun _ => (none : Option Public) = none) deviceManager 0).execute forward
    (.ensureRole .background roleDeviceRootCA) 60
  have early := created.execute forward (.runOnce .background) 1059
  exact early.execute forward (.runOnce .background) 1060

/-- The first scheduler came too early and the second one rotated. -/
theorem scheduledDevice_on_time : (scheduledDevice.saved.map fun snapshot =>
      (snapshot.roles.lookup roleDeviceRootCA).map fun state =>
        (state.active.generation, state.active.createdAt)) =
      [some (2, 1060), some (2, 1060), some (1, 60), some (1, 60), none, none] ∧
    ∀ policy ∈ samplePolicies, scheduledDevice.saved.IsChain (RotatesOnTime policy) := by
  refine ⟨by decide +kernel, ?_⟩
  obtain ⟨_, reached, same, _⟩ := scheduledDevice_attained
  intro _ member
  rw [List.mem_singleton.mp member, ← same]
  apply scheduled_rotations_on_time samplePlatform_encodesKeys reached
  decide +kernel

end SampleDevice

end Sovereignite.KeyManager.Shared
