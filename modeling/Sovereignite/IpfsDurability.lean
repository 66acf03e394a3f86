import Sovereignite.IpfsSequences

/-!
# Publishing ahead of the journal

A commit that did not report success is visible, but a power loss may take it
back.  A publisher that finds such a commit replays its prepared record without
committing again, so that the record can reach the network, be forgotten, and
another record can take its sequence.  Calls that do not repeat the prepared
publication while it may be taken back keep the journal ahead of the network.
-/

namespace Sovereignite.Ipfs

open Effect
open Trust (Context Publication)

variable {env : Platform}

/-- A commit that prepares a record with a sequence. -/
def Event.Prepares (sequence : UInt64) : Event → Prop
  | .committed next _ => ∃ pending, next.pending = some pending ∧ pending.record.sequence = sequence
  | .powerLoss _ => False
  | .published _ => False

/-- A commit reported success at or after the last commit that made the sequence
of a record visible, and that commit prepared this very record. -/
def Covered (earlier : List Event) (prepared : PendingPublication) : Prop :=
  ∃ recent next succeeded older,
    earlier = recent ++ .committed next succeeded :: older ∧ next.pending = some prepared ∧
      (∀ event ∈ recent, ¬ event.Prepares prepared.record.sequence) ∧
      (succeeded = true ∨ ∃ later, .committed later true ∈ recent)

/-- Every record was covered when it was handed to the node. -/
def WrittenAhead : List Event → Prop
  | [] => True
  | .published prepared :: earlier => Covered earlier prepared ∧ WrittenAhead earlier
  | .committed _ _ :: earlier => WrittenAhead earlier
  | .powerLoss _ :: earlier => WrittenAhead earlier

/-- No sequence was used for two records. -/
def OneRecordPerSequence (sent : List PendingPublication) : Prop :=
  ∀ first ∈ sent, ∀ second ∈ sent,
    first.record.sequence = second.record.sequence → first.record = second.record

instance (sent : List PendingPublication) : Decidable (OneRecordPerSequence sent) :=
  inferInstanceAs (Decidable (∀ first ∈ sent, ∀ second ∈ sent,
    first.record.sequence = second.record.sequence → first.record = second.record))

variable {prepared : PendingPublication}

theorem Covered.succeeded {earlier : List Event} (covered : Covered earlier prepared) :
    ∃ next, .committed next true ∈ earlier := by
  obtain ⟨_, next, _, _, rfl, _, _, reported | ⟨later, member⟩⟩ := covered
  · exact ⟨next, by simp [reported]⟩
  · exact ⟨later, List.mem_append_left _ member⟩

def Event.succeeded : Event → Bool
  | .committed _ succeeded => succeeded
  | .powerLoss _ => false
  | .published _ => false

/-- Whether a record was handed over before any commit reported success. -/
def handedFirst : List Event → Bool
  | [] => false
  | .published _ :: earlier => !earlier.any Event.succeeded || handedFirst earlier
  | .committed _ _ :: earlier => handedFirst earlier
  | .powerLoss _ :: earlier => handedFirst earlier

theorem WrittenAhead.not_handedFirst {history : List Event} (written : WrittenAhead history) :
    handedFirst history = false := by
  induction history with
  | nil => rfl
  | cons event earlier ih =>
    cases event with
    | committed | powerLoss => exact ih written
    | published =>
      obtain ⟨_, member⟩ := written.1.succeeded
      have reported : earlier.any Event.succeeded = true := List.any_eq_true.mpr ⟨_, member, rfl⟩
      simp [handedFirst, reported, ih written.2]

theorem oneRecordPerSequence_of_follows {sent : List PendingPublication}
    (follows : sent.Pairwise fun later earlier => Follows earlier later) :
    OneRecordPerSequence sent := by
  induction follows with
  | nil => exact fun first member => absurd member List.not_mem_nil
  | cons head _ ih =>
    intro first firstMember second secondMember equal
    rcases List.mem_cons.mp firstMember with rfl | firstOld
    · rcases List.mem_cons.mp secondMember with rfl | secondOld
      · rfl
      · exact ((head second secondOld).record equal.symm).symm
    · rcases List.mem_cons.mp secondMember with rfl | secondOld
      · exact (head first firstOld).record equal
      · exact ih first firstOld second secondOld equal

/-- A call repeats the prepared publication only when no power loss can take
the visible state back. -/
def Confirmed (world : World) (publication : Publication) : Prop :=
  ∀ pending, world.store.visible.pending = some pending →
    Repeats pending publication → world.store.fallbacks = []

/-- A later commit prepares records above a successful one. -/
def Event.Above : Event → Event → Prop
  | .committed later _, .committed earlier true => ∀ pending, later.pending = some pending →
      earlier.highSequence < pending.record.sequence
  | _, _ => True

/-- What holds in every world of a run whose calls are confirmed. -/
structure DurablyJournaled (world : World) : Prop where
  journaled : Journaled world.store.restorable (handed world.history)
  settled : world.store.settled = emptyPublicationState ∨
    .committed world.store.settled true ∈ world.history
  raised : ∀ next, .committed next true ∈ world.history →
    world.store.Always fun state => next.highSequence ≤ state.highSequence
  above : world.history.Pairwise Event.Above
  writtenAhead : WrittenAhead world.history

theorem durablyJournaled_initial : DurablyJournaled initialWorld where
  journaled := journaled_initial
  settled := .inl rfl
  raised _ member := absurd member List.not_mem_nil
  above := .nil
  writtenAhead := trivial

namespace DurablyJournaled

variable {world : World}

theorem commit (durable : DurablyJournaled world) {next : PublicationState}
    (succeeded : Bool) (advances : Advances env world.store.visible next) :
    DurablyJournaled (world.commit next succeeded) where
  journaled := by
    have extended := durable.journaled.commit List.mem_cons_self advances
    refine extended.mono ?_
    cases succeeded with
    | true => exact fun _ member => List.mem_cons.mpr (.inl (List.mem_singleton.mp member))
    | false => exact List.Subset.refl _
  settled := by
    unfold World.commit
    rw [RecoverableCell.settled_write]
    cases succeeded with
    | true => exact .inr List.mem_cons_self
    | false => exact durable.settled.imp_right (List.mem_cons_of_mem _)
  raised := by
    intro earlier member
    rcases List.mem_cons.mp member with same | older
    · cases same
      exact RecoverableCell.always_of_settled rfl (UInt64.le_refl _)
    · have raised := durable.raised earlier older
      exact raised.write (UInt64.le_trans raised.visible advances.highSequence_le) succeeded
  above := by
    refine List.pairwise_cons.mpr ⟨?_, durable.above⟩
    intro event member
    cases event with
    | committed earlier reported =>
      cases reported with
      | true =>
        intro _ found
        exact UInt64.lt_of_le_of_lt (durable.raised earlier member).visible
          (advances.pending_above found)
      | false => trivial
    | powerLoss | published => trivial
  writtenAhead := durable.writtenAhead

/-- The record prepared in a state that no power loss takes back is covered. -/
theorem covered (durable : DurablyJournaled world) (fallbacks : world.store.fallbacks = [])
    (found : world.store.visible.pending = some prepared) : Covered world.history prepared := by
  have settled := durable.settled
  rw [RecoverableCell.settled_eq_visible fallbacks] at settled
  rcases settled with empty | member
  · rw [empty] at found
    cases found
  · obtain ⟨recent, older, split⟩ := List.append_of_mem member
    refine ⟨recent, _, true, older, split, found, ?_, .inl rfl⟩
    intro event recentMember prepares
    have above := durable.above
    rw [split] at above
    have later := (List.pairwise_append.mp above).2.2 event recentMember _ List.mem_cons_self
    cases event with
    | committed =>
      obtain ⟨pending, present, equal⟩ := prepares
      have ordered := durable.journaled.ordered _ List.mem_cons_self
      have higher := later pending present
      rw [equal, (ordered.prepared prepared found).1] at higher
      exact UInt64.lt_irrefl _ higher
    | powerLoss | published => exact prepares

theorem publish (durable : DurablyJournaled world) (fallbacks : world.store.fallbacks = [])
    (found : world.store.visible.pending = some prepared) :
    DurablyJournaled (world.publish prepared) where
  journaled := by
    have single : world.store.restorable = [world.store.visible] := by
      rw [RecoverableCell.restorable, fallbacks]
    have journaled := durable.journaled
    rw [single] at journaled
    unfold World.publish
    rw [single]
    exact journaled.publish found
  settled := durable.settled.imp_right (List.mem_cons_of_mem _)
  raised := by
    intro next member
    rcases List.mem_cons.mp member with impossible | older
    · cases impossible
    · exact durable.raised next older
  above := List.pairwise_cons.mpr ⟨fun _ _ => trivial, durable.above⟩
  writtenAhead := ⟨durable.covered fallbacks found, durable.writtenAhead⟩

theorem powerLoss {after : World} (durable : DurablyJournaled world)
    (lost : PowerLoss world after) : DurablyJournaled after := by
  obtain ⟨taken, history⟩ := lost
  constructor
  · rw [history]
    exact durable.journaled.mono taken.subset
  · rw [history, RecoverableCell.settled_powerLoss taken]
    exact durable.settled.imp_right (List.mem_cons_of_mem _)
  · intro next member
    rw [history] at member
    rcases List.mem_cons.mp member with impossible | older
    · cases impossible
    · exact (durable.raised next older).powerLoss taken
  · rw [history]
    exact List.pairwise_cons.mpr ⟨fun _ _ => trivial, durable.above⟩
  · rw [history]
    exact durable.writtenAhead

end DurablyJournaled

theorem keeps_durablyJournaled :
    Keeps env DurablyJournaled fun world => world.store.fallbacks = [] where
  committed _ _ succeeded durable advances := durable.commit succeeded advances
  settled _ _ := rfl
  published _ _ durable fallbacks found := durable.publish fallbacks found

/-- In every run with power losses whose calls are confirmed, no record reaches
the node before a successful commit covers it, and no sequence is published
with two records. -/
theorem confirmed_runs_write_ahead {world : World}
    (reached : (powerLossRules env Confirmed).Reachable initialWorld world) :
    WrittenAhead world.history ∧ OneRecordPerSequence (handed world.history) := by
  have durable : DurablyJournaled world := by
    refine reached.invariant durablyJournaled_initial ?_
      fun _ _ durable lost => durable.powerLoss lost
    rintro _ _ durable ⟨publisher, ctx, publication, confirmed, rfl⟩
    exact (keeps_durablyJournaled.publishCall publisher ctx publication).safe durable confirmed
  exact ⟨durable.writtenAhead, oneRecordPerSequence_of_follows durable.journaled.follows⟩

section SampleDevice

open Trust (samplePlatform sampleInputs)

def uncertain : Except Error Unit :=
  .error (.sentinel .publicationStateDurabilityUncertain)

def uncertainWorld : World :=
  execute (samplePlatform sampleInputs) (sampleEnvironment (5000 * second) uncertain (.ok ()))
    samplePublisher (samplePublication 3) initialWorld

/-- A power loss that leaves the empty state. -/
def forget (world : World) : World where
  store := ⟨emptyPublicationState, []⟩
  history := .powerLoss emptyPublicationState :: world.history

/-- The call is repeated before the power loss and once more after it. -/
def republishedWorld : World :=
  execute (samplePlatform sampleInputs) (sampleEnvironment (5100 * second) (.ok ()) (.ok ()))
    samplePublisher (samplePublication 3)
    (forget (execute (samplePlatform sampleInputs)
      (sampleEnvironment (5001 * second) uncertain (.error (.message "timeout")))
      samplePublisher (samplePublication 3) uncertainWorld))

/-- Without the condition a record reaches the node ahead of the journal, and
its sequence is used again for another record. -/
theorem uncertain_record_published_and_replaced : ∃ env world,
    (powerLossRules env fun _ _ => True).Reachable initialWorld world ∧
      ¬ WrittenAhead world.history ∧ ¬ OneRecordPerSequence (handed world.history) := by
  have initial : (powerLossRules (samplePlatform sampleInputs) fun _ _ => True).Reachable
      initialWorld initialWorld := .start
  have prepared := powerLossRules_execute initial
    (sampleEnvironment (5000 * second) uncertain (.ok ())) samplePublisher
    (samplePublication 3) trivial
  have replayed := powerLossRules_execute prepared
    (sampleEnvironment (5001 * second) uncertain (.error (.message "timeout"))) samplePublisher
    (samplePublication 3) trivial
  have lost := SequenceRules.Reachable.disturbed replayed
    (show PowerLoss _ (forget _) from ⟨by decide +kernel, rfl⟩)
  have replaced := powerLossRules_execute lost
    (sampleEnvironment (5100 * second) (.ok ()) (.ok ())) samplePublisher
    (samplePublication 3) trivial
  refine ⟨samplePlatform sampleInputs, republishedWorld, replaced, ?_, by decide +kernel⟩
  intro written
  have first : handedFirst republishedWorld.history = true := by decide +kernel
  rw [written.not_handedFirst] at first
  cases first

/-- The power loss comes first, and the call is repeated after it, a second
time while the prepared record is durable. -/
def recoveredWorld : World :=
  execute (samplePlatform sampleInputs) (sampleEnvironment (5101 * second) (.ok ()) (.ok ()))
    samplePublisher (samplePublication 3)
    (execute (samplePlatform sampleInputs)
      (sampleEnvironment (5100 * second) (.ok ()) (.error (.message "timeout")))
      samplePublisher (samplePublication 3) (forget uncertainWorld))

theorem recoveredWorld_reachable :
    (powerLossRules (samplePlatform sampleInputs) Confirmed).Reachable initialWorld
      recoveredWorld := by
  have initial : (powerLossRules (samplePlatform sampleInputs) Confirmed).Reachable
      initialWorld initialWorld := .start
  have prepared := powerLossRules_execute initial
    (sampleEnvironment (5000 * second) uncertain (.ok ())) samplePublisher
    (samplePublication 3) fun _ _ _ => rfl
  have lost := SequenceRules.Reachable.disturbed prepared
    (show PowerLoss uncertainWorld (forget uncertainWorld) from ⟨by decide +kernel, rfl⟩)
  have repeated := powerLossRules_execute lost
    (sampleEnvironment (5100 * second) (.ok ()) (.error (.message "timeout"))) samplePublisher
    (samplePublication 3) fun _ _ _ => rfl
  exact powerLossRules_execute repeated
    (sampleEnvironment (5101 * second) (.ok ()) (.ok ())) samplePublisher
    (samplePublication 3) fun _ _ _ => by decide +kernel

/-- Two copies of one record were handed over. -/
theorem recoveredWorld_written_ahead :
    (handed recoveredWorld.history).map (fun sent => sent.record.sequence) = [1, 1] ∧
      WrittenAhead recoveredWorld.history ∧
      OneRecordPerSequence (handed recoveredWorld.history) :=
  ⟨by decide +kernel, confirmed_runs_write_ahead recoveredWorld_reachable⟩

end SampleDevice

end Sovereignite.Ipfs
