import Sovereignite.TrustCandidateClosure

/-!
# One device and one authority

From its first commit on a store belongs to one device, so services of different
devices are never both open on it, and no service replaces an authority.
-/

namespace Sovereignite.Trust

open Effect

variable {env : Platform}

theorem Recorded.identity_kept {log older : List Commit} (recorded : Recorded env log)
    (within : older <:+ log) (committed : (durable older).revision ≠ 0) :
    (durable log).identity = (durable older).identity := by
  induction recorded with
  | nil => rw [List.suffix_nil.mp within]
  | cons newest recorded _ transition ih =>
    rcases List.suffix_cons_iff.mp within with rfl | inside
    · rfl
    obtain ⟨_, label, _⟩ := newest
    have other : label ≠ .bindIdentity := by
      rintro rfl
      cases transition with
      | bindIdentity _ unbound =>
        -- Only the empty log has revision zero.
        have empty := recorded.revision
        rw [unbound] at empty
        rw [List.eq_nil_of_length_eq_zero empty.symm, List.suffix_nil] at inside
        rw [inside] at committed
        exact committed rfl
    exact (transition.frame.2 other).trans (ih inside)

/-- In every run of any number of services on one store, all documents after the
first commit are of one device, those with an authority have the same authority,
and every service that is open is configured for that device. -/
theorem reachable_documents_agree {configs : Nat → ServiceConfig}
    {state : SystemState signature World Caller Error Unit}
    (reachable : Reachable env configs state) :
    (∀ document, InHistory state.world.log document →
      (document.revision ≠ 0 → document.identity = (durable state.world.log).identity) ∧
      (document.activeCACertificate ≠ [] →
        document.activeCACertificate = (durable state.world.log).activeCACertificate)) ∧
    ∀ service, (state.world.memory service).opened = true →
      (configs service).identity = (durable state.world.log).identity := by
  obtain ⟨sound, bound⟩ := (SystemRules.Reachable.follows (rules_followed env configs)
    sound_initialWorld unissued_initialWorld reachable).1
  constructor
  · rintro _ ⟨older, within, rfl⟩
    exact ⟨fun committed => (sound.recorded.identity_kept within committed).symm,
      fun initialized => (sound.recorded.authority_kept within initialized).symm⟩
  · intro service opened
    obtain ⟨identity, committed⟩ := bound service opened
    obtain ⟨_, within, equal⟩ := sound.memory service opened
    rw [← equal] at identity committed
    rw [← identity, sound.recorded.identity_kept within committed]

/-- The service of this run is open. -/
theorem sampleRun_documents_agree : ∃ state,
    Reachable (samplePlatform sampleInputs) (fun _ => sampleConfig) state ∧
      (state.world.memory 0).opened = true ∧
      sampleConfig.identity = (durable state.world.log).identity := by
  obtain ⟨state, reachable, equal⟩ := sampleWorld_reachable
  have opened : (state.world.memory 0).opened = true := by
    rw [equal]
    decide +kernel
  exact ⟨state, reachable, opened, (reachable_documents_agree reachable).2 0 opened⟩

end Sovereignite.Trust
