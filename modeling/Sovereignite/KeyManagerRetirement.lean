import Sovereignite.KeyManagerActiveKeys

/-!
# Retiring keys before the replacement is durable

A save that did not report success is visible, but a power loss may take it
back.  An operation that finds an activation saved that way evicts the key it
replaced, which the metadata before the activation still lists as active.
Operations that do not start in such a state never evict a key that a power
loss could make the active one again.
-/

namespace Sovereignite.KeyManager

open Effect

variable {env : Platform} {manager : Manager} {objects : Handle → Option Public}

/-- Watch all metadata that a power loss may restore. -/
def restorableScope : Scope where
  snapshots cell := cell.restorable
  visible _ := List.mem_cons_self
  write cell next durable := by
    cases durable with
    | true => exact List.cons_subset_cons next (List.nil_subset _)
    | false => exact List.Subset.refl _
  settled _ _ := List.Subset.refl _

/-- No key that the visible metadata lists to be retired is active in metadata
that a power loss may restore. -/
def RetirementsDurable (world : World) : Prop :=
  ∀ role state, world.store.visible.roles.lookup role = some state →
    ∀ old ∈ state.retiring, ∀ snapshot ∈ world.store.restorable, ¬ snapshot.ActiveAt old.handle

theorem Sound.powerLoss {world after : World}
    (sound : Sound env restorableScope world) (lost : PowerLoss world after) :
    Sound env restorableScope after := by
  obtain ⟨_, taken, rfl⟩ := lost
  exact ⟨fun snapshot member => sound.held snapshot (taken.subset member), sound.evictions⟩

/-- In every run with power losses whose operations start with durable
retirements, a handle is evicted only if no metadata that a power loss could
restore at that moment lists it as active, and all metadata that a power loss
can restore has its active keys in the TPM. -/
theorem durable_retirements_spare_active_keys {world : World}
    (reached : (powerLossRules env manager RetirementsDurable).Reachable
      (initialWorld objects) world) :
    (∀ eviction ∈ world.evictions, ∀ snapshot ∈ eviction.store.restorable,
        ¬ snapshot.ActiveAt eviction.handle) ∧
      ∀ snapshot ∈ world.store.restorable, ActiveHeld env world.objects snapshot := by
  have sound : Sound env restorableScope world := by
    refine reached.invariant (sound_initial restorableScope (List.Subset.refl _)) ?_
      fun _ _ sound lost => sound.powerLoss lost
    rintro _ _ sound ⟨durable, offered⟩
    exact (Operation.safe offered).safe sound fun _ => durable
  exact ⟨sound.evictions, sound.held⟩

theorem retirementsDurable_of_none {world : World}
    (none : hasRetiring world.store.visible = false) : RetirementsDurable world := by
  intro _ _ found _ member
  have entries := List.any_eq_false.mp none _ (KeyedRecords.mem_entries_iff.mpr found)
  rw [Bool.not_eq_true, Bool.not_eq_false', List.isEmpty_iff] at entries
  dsimp only at entries
  rw [entries] at member
  cases member

section SampleDevice

open Trust (samplePlatform sampleInputs)

/-- The directory cannot be synced after an activation or a cleanup. -/
def uncertainActivation (next : Snapshot) : Except Error Unit :=
  if next.pending.entries.isEmpty then
    .error (.sentinel .metadataDurabilityUncertain)
  else
    .ok ()

/-- A role is created, and the activation of its next key is uncertain. -/
def uncertainWorld : World :=
  execute (sampleEnvironment 60 uncertainActivation) sampleRotate
    (execute (sampleEnvironment 50 saved) sampleEnsure (initialWorld fun _ => none))

/-- A power loss that leaves the metadata below which none goes. -/
def revert (world : World) : World :=
  { world with store := ⟨world.store.settled, []⟩ }

/-- The metadata is opened before the power loss. -/
def strandedWorld : World :=
  revert (execute (sampleEnvironment 70 uncertainActivation) sampleOpen uncertainWorld)

/-- Without the condition a key is evicted that metadata to be restored lists as
active; after the power loss it is missing and opening fails. -/
theorem uncertain_activation_strands_active_key : ∃ env manager objects world,
    (powerLossRules env manager fun _ => True).Reachable (initialWorld objects) world ∧
      (∃ eviction ∈ world.evictions, ∃ snapshot ∈ eviction.store.restorable,
        snapshot.ActiveAt eviction.handle) ∧
      (∃ role state, world.store.visible.roles.lookup role = some state ∧
        world.objects state.active.handle = none) ∧
      ∃ environment error,
        ((openManager env manager .background).advance (respond environment) 1000
          world).2.failure = some error ∧ error.is .handleNotFound = true := by
  have initial : (powerLossRules (samplePlatform sampleInputs) sampleManager
      fun _ => True).Reachable (initialWorld fun _ => none) (initialWorld fun _ => none) :=
    .start
  have created := powerLossRules_execute initial (sampleEnvironment 50 saved)
    (.ensureRole .background roleDeviceRootCA) trivial
  have rotated := powerLossRules_execute created (sampleEnvironment 60 uncertainActivation)
    (.rotate .background roleDeviceRootCA) trivial
  have opened := powerLossRules_execute rotated (sampleEnvironment 70 uncertainActivation)
    (.openManager .background) trivial
  have lost := SequenceRules.Reachable.disturbed opened
    (show PowerLoss _ (revert _) from ⟨_, RecoverableCell.powerLoss_settled _, rfl⟩)
  have missing : (strandedWorld.store.visible.roles.lookup roleDeviceRootCA).any
      (fun state => (strandedWorld.objects state.active.handle).isNone) = true := by
    decide +kernel
  have failed : (((openManager (samplePlatform sampleInputs) sampleManager .background).advance
      (respond (sampleEnvironment 80 saved)) 1000 strandedWorld).2.failure).any
      (fun error => error.is .handleNotFound) = true := by
    decide +kernel
  obtain ⟨state, found, absent⟩ := (Option.any_eq_true _ _).mp missing
  obtain ⟨error, reported, cause⟩ := (Option.any_eq_true _ _).mp failed
  exact ⟨samplePlatform sampleInputs, sampleManager, fun _ => none, strandedWorld, lost,
    by decide +kernel, ⟨roleDeviceRootCA, state, found, Option.isNone_iff_eq_none.mp absent⟩,
    sampleEnvironment 80 saved, error, reported, cause⟩

/-- The power loss comes first: the metadata is opened after it, the key that
was created is adopted and its predecessor is retired. -/
def adoptedWorld : World :=
  execute (sampleEnvironment 70 saved) sampleOpen (revert uncertainWorld)

theorem adoptedWorld_reachable :
    (powerLossRules (samplePlatform sampleInputs) sampleManager RetirementsDurable).Reachable
      (initialWorld fun _ => none) adoptedWorld := by
  have initial : (powerLossRules (samplePlatform sampleInputs) sampleManager
      RetirementsDurable).Reachable (initialWorld fun _ => none)
      (initialWorld fun _ => none) := .start
  have created := powerLossRules_execute initial (sampleEnvironment 50 saved)
    (.ensureRole .background roleDeviceRootCA) (retirementsDurable_of_none (by decide +kernel))
  have rotated := powerLossRules_execute created (sampleEnvironment 60 uncertainActivation)
    (.rotate .background roleDeviceRootCA) (retirementsDurable_of_none (by decide +kernel))
  have lost := SequenceRules.Reachable.disturbed rotated
    (show PowerLoss _ (revert uncertainWorld) from ⟨_, RecoverableCell.powerLoss_settled _, rfl⟩)
  exact powerLossRules_execute lost (sampleEnvironment 70 saved) (.openManager .background)
    (retirementsDurable_of_none (by decide +kernel))

/-- The first key was evicted and the second one is active. -/
theorem adoptedWorld_spares_active_keys :
    adoptedWorld.evictions.map Eviction.handle = [0x81000000] ∧
      (adoptedWorld.store.visible.roles.lookup roleDeviceRootCA).map
        (fun state => state.active.handle) = some 0x81000001 ∧
      (∀ eviction ∈ adoptedWorld.evictions, ∀ snapshot ∈ eviction.store.restorable,
        ¬ snapshot.ActiveAt eviction.handle) ∧
      ∀ snapshot ∈ adoptedWorld.store.restorable,
        ActiveHeld (samplePlatform sampleInputs) adoptedWorld.objects snapshot :=
  ⟨by decide +kernel, by decide +kernel,
    durable_retirements_spare_active_keys adoptedWorld_reachable⟩

end SampleDevice

end Sovereignite.KeyManager
