import Sovereignite.KeyManagerExecution
import Sovereignite.KeyManagerOperationSafety

/-!
# Active keys survive crashes

Where visible saves survive, only the visible metadata is watched.  What it
lists to be retired is never active in it, so an operation can always start.
-/

namespace Sovereignite.KeyManager

open Effect

variable {env : Platform} {manager : Manager} {objects : Handle → Option Public}

def visibleScope : Scope where
  snapshots cell := [cell.visible]
  visible _ := List.mem_singleton_self _
  write cell next durable := by
    rw [RecoverableCell.visible_write]
    exact List.cons_subset_cons next (List.nil_subset _)
  settled _ _ := List.Subset.refl _

theorem startable_visible (world : World) : Startable manager visibleScope world := by
  intro separated _ _ found _ member _ watched
  rcases List.mem_singleton.mp watched with rfl
  exact separated.not_activeAt_retiring found member

theorem sound_initial (scope : Scope)
    (empty : scope.snapshots (initialWorld objects).store ⊆ [emptySnapshot]) :
    Sound env scope (initialWorld objects) where
  held := by
    intro _ member
    rcases List.mem_singleton.mp (empty member) with rfl
    exact activeHeld_empty
  evictions _ member := absurd member List.not_mem_nil

/-- In every run in which visible saves survive, at every point each role of the
visible metadata has its active key in the TPM exactly as recorded, and no
eviction was ever asked for at a handle that was active in the metadata then
visible. -/
theorem reachable_activeKeys {world : World}
    (reached : (crashRules env manager).Reachable (initialWorld objects) world) :
    ActiveHeld env world.objects world.store.visible ∧
      ∀ eviction ∈ world.evictions, ¬ eviction.store.visible.ActiveAt eviction.handle := by
  have sound : Sound env visibleScope world := by
    refine reached.invariant (sound_initial visibleScope (List.Subset.refl _)) ?_
      fun _ _ _ impossible => impossible.elim
    intro current _ sound offered
    exact (Operation.safe offered).safe sound (startable_visible current)
  refine ⟨sound.visible, ?_⟩
  intro eviction member
  exact sound.evictions eviction member _ (List.mem_singleton_self _)

section SampleDevice

open Trust (samplePlatform sampleInputs)

def rotatedWorld : World :=
  execute (sampleEnvironment 70 saved) sampleRotate
    (execute (sampleEnvironment 60 saved) sampleRotate
      (execute (sampleEnvironment 50 saved) sampleEnsure (initialWorld fun _ => none)))

theorem rotatedWorld_reachable :
    (crashRules (samplePlatform sampleInputs) sampleManager).Reachable
      (initialWorld fun _ => none) rotatedWorld := by
  have initial : (crashRules (samplePlatform sampleInputs) sampleManager).Reachable
      (initialWorld fun _ => none) (initialWorld fun _ => none) := .start
  have created := crashRules_execute initial (sampleEnvironment 50 saved)
    (.ensureRole .background roleDeviceRootCA)
  have rotated := crashRules_execute created (sampleEnvironment 60 saved)
    (.rotate .background roleDeviceRootCA)
  exact crashRules_execute rotated (sampleEnvironment 70 saved)
    (.rotate .background roleDeviceRootCA)

/-- Both handles were evicted once, and the first one is active again. -/
theorem rotatedWorld_activeKeys :
    rotatedWorld.evictions.map Eviction.handle = [0x81000001, 0x81000000] ∧
      (rotatedWorld.store.visible.roles.lookup roleDeviceRootCA).map
        (fun state => (state.active.handle, state.active.generation)) =
        some (0x81000000, 3) ∧
      ActiveHeld (samplePlatform sampleInputs) rotatedWorld.objects rotatedWorld.store.visible ∧
      ∀ eviction ∈ rotatedWorld.evictions, ¬ eviction.store.visible.ActiveAt eviction.handle :=
  ⟨by decide +kernel, by decide +kernel, reachable_activeKeys rotatedWorld_reachable⟩

end SampleDevice

end Sovereignite.KeyManager
