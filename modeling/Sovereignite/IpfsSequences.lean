import Sovereignite.IpfsExecution
import Sovereignite.IpfsJournal

/-!
# Sequences of published records

The state of a publisher explains every record it handed to the node: the
record is at or below the last completed one, or it is one of those prepared
for the pending publication.  A record handed over later therefore never goes
back, neither in its sequence nor in the trust revision it stands for.
-/

namespace Sovereignite.Ipfs

open Effect
open Trust (Context Publication)

variable {env : Platform}

/-- A record handed over later, against an earlier one. -/
structure Follows (earlier later : PendingPublication) : Prop where
  sequence : earlier.record.sequence ≤ later.record.sequence
  record : earlier.record.sequence = later.record.sequence → earlier.record = later.record
  revision : earlier.trustRevision ≤ later.trustRevision
  digest : earlier.trustRevision = later.trustRevision → earlier.digest = later.digest

/-- What a state says of a record that was handed over. -/
inductive Explains (state : PublicationState) (sent : PendingPublication) : Prop where
  | completed (sequence : sent.record.sequence ≤ state.lastSequence)
      (record : sent.record.sequence = state.lastSequence → state.lastRecord = some sent.record)
      (revision : sent.trustRevision ≤ state.lastTrustRevision)
      (digest : sent.trustRevision = state.lastTrustRevision → sent.digest = state.lastDigest)
  | prepared (pending : PendingPublication) (found : state.pending = some pending)
      (follows : Follows sent pending)
      (revision : sent.trustRevision = pending.trustRevision)

theorem Follows.refl (pending : PendingPublication) : Follows pending pending where
  sequence := UInt64.le_refl _
  record _ := rfl
  revision := UInt64.le_refl _
  digest _ := rfl

theorem Follows.of_lt {earlier later : PendingPublication}
    (sequence : earlier.record.sequence < later.record.sequence)
    (revision : earlier.trustRevision < later.trustRevision) : Follows earlier later where
  sequence := UInt64.le_of_lt sequence
  record equal := absurd equal (UInt64.ne_of_lt sequence)
  revision := UInt64.le_of_lt revision
  digest equal := absurd equal (UInt64.ne_of_lt revision)

namespace Explains

variable {current next : PublicationState} {sent : PendingPublication}

theorem follows (explained : Explains current sent) (ordered : Ordered current)
    {pending : PendingPublication} (found : current.pending = some pending) :
    Follows sent pending := by
  obtain ⟨_, above, newer⟩ := ordered.prepared pending found
  cases explained with
  | completed sequence _ revision =>
    exact .of_lt (UInt64.lt_of_le_of_lt sequence above) (UInt64.lt_of_le_of_lt revision newer)
  | prepared _ present follows =>
    cases Option.some.inj (found.symm.trans present)
    exact follows

theorem advance (explained : Explains current sent) (ordered : Ordered current)
    (advances : Advances env current next) : Explains next sent := by
  have above : ∀ pending, next.pending = some pending →
      current.highSequence < pending.record.sequence := fun _ => advances.pending_above
  cases advances with
  | prepared _ _ _ _ record _ compatible =>
    cases explained with
    | completed sequence record revision digest => exact .completed sequence record revision digest
    | prepared earlier present follows revision =>
      have raised := above _ rfl
      rw [← (ordered.prepared earlier present).1] at raised
      have strictly := UInt64.lt_of_le_of_lt follows.sequence raised
      obtain ⟨sameRevision, sameDigest⟩ := compatible earlier present
      refine .prepared _ rfl ?_ (revision.trans sameRevision)
      exact {
        sequence := UInt64.le_of_lt strictly
        record := fun equal => absurd equal (UInt64.ne_of_lt strictly)
        revision := UInt64.le_of_eq (revision.trans sameRevision)
        digest := fun _ => (follows.digest revision).trans sameDigest }
  | completed _ _ found =>
    have follows := explained.follows ordered found
    refine .completed follows.sequence ?_ follows.revision follows.digest
    intro equal
    exact congrArg some (follows.record equal).symm

end Explains

/-- The states explain what was handed over, and each record handed over
follows the earlier ones. -/
structure Journaled (states : List PublicationState) (sent : List PendingPublication) :
    Prop where
  ordered : ∀ state ∈ states, Ordered state
  explained : ∀ state ∈ states, ∀ pending ∈ sent, Explains state pending
  follows : sent.Pairwise fun later earlier => Follows earlier later

namespace Journaled

variable {states : List PublicationState} {sent : List PendingPublication}
variable {current next : PublicationState}

theorem mono {fewer : List PublicationState} (journaled : Journaled states sent)
    (subset : fewer ⊆ states) : Journaled fewer sent where
  ordered state member := journaled.ordered state (subset member)
  explained state member := journaled.explained state (subset member)
  follows := journaled.follows

theorem commit (journaled : Journaled states sent) (member : current ∈ states)
    (advances : Advances env current next) : Journaled (next :: states) sent where
  ordered := List.forall_mem_cons.mpr ⟨advances.ordered, journaled.ordered⟩
  explained := by
    refine List.forall_mem_cons.mpr ⟨?_, journaled.explained⟩
    intro pending present
    exact (journaled.explained current member pending present).advance
      (journaled.ordered current member) advances
  follows := journaled.follows

theorem publish (journaled : Journaled [current] sent) {prepared : PendingPublication}
    (found : current.pending = some prepared) : Journaled [current] (prepared :: sent) where
  ordered := journaled.ordered
  explained := by
    intro state member pending present
    rcases List.mem_singleton.mp member with rfl
    rcases List.mem_cons.mp present with rfl | earlier
    · exact .prepared pending found (.refl pending) rfl
    · exact journaled.explained state member pending earlier
  follows := by
    refine List.pairwise_cons.mpr ⟨?_, journaled.follows⟩
    intro pending present
    have member : current ∈ [current] := List.mem_singleton_self current
    exact (journaled.explained current member pending present).follows
      (journaled.ordered current member) found

end Journaled

theorem journaled_initial : Journaled [emptyPublicationState] [] where
  ordered state member := by
    rcases List.mem_singleton.mp member with rfl
    exact ordered_empty
  explained _ _ _ present := absurd present List.not_mem_nil
  follows := .nil

/-- Where commits survive, the visible state alone has to explain. -/
def VisiblyJournaled (world : World) : Prop :=
  Journaled [world.store.visible] (handed world.history)

theorem keeps_visiblyJournaled : Keeps env VisiblyJournaled fun _ => True where
  committed world next succeeded holds advances := by
    have extended := Journaled.commit holds (List.mem_singleton_self _) advances
    unfold VisiblyJournaled World.commit
    rw [RecoverableCell.visible_write]
    exact extended.mono (by simp)
  settled _ _ := trivial
  published world prepared holds _ found := Journaled.publish holds found

/-- In every run of publishers in which visible commits survive, the records
handed to the node never go back in their sequence or in the trust revision
they stand for, a sequence has one record and a trust revision one digest. -/
theorem handed_records_follow {world : World}
    (reached : (crashRules env).Reachable initialWorld world) :
    (handed world.history).Pairwise fun later earlier => Follows earlier later := by
  have journaled : VisiblyJournaled world := by
    refine reached.invariant journaled_initial ?_ fun _ _ _ impossible => impossible.elim
    rintro _ _ holds ⟨publisher, ctx, publication, rfl⟩
    exact (keeps_visiblyJournaled.publishCall publisher ctx publication).safe holds
      fun _ _ _ => trivial
  exact journaled.follows

section SampleDevice

open Trust (samplePlatform sampleInputs)

/-- The network fails once after it got a record, the record is replayed, and a
newer publication follows. -/
def replayedWorld : World :=
  execute (samplePlatform sampleInputs) (sampleEnvironment (5002 * second) (.ok ()) (.ok ()))
    samplePublisher (samplePublication 5)
    (execute (samplePlatform sampleInputs) (sampleEnvironment (5001 * second) (.ok ()) (.ok ()))
      samplePublisher (samplePublication 3)
      (execute (samplePlatform sampleInputs)
        (sampleEnvironment (5000 * second) (.ok ()) (.error (.message "timeout")))
        samplePublisher (samplePublication 3) initialWorld))

theorem replayedWorld_reachable :
    (crashRules (samplePlatform sampleInputs)).Reachable initialWorld replayedWorld := by
  have initial : (crashRules (samplePlatform sampleInputs)).Reachable initialWorld initialWorld :=
    .start
  have handedOver := crashRules_execute initial
    (sampleEnvironment (5000 * second) (.ok ()) (.error (.message "timeout")))
    samplePublisher (samplePublication 3)
  have replayed := crashRules_execute handedOver
    (sampleEnvironment (5001 * second) (.ok ()) (.ok ())) samplePublisher (samplePublication 3)
  exact crashRules_execute replayed
    (sampleEnvironment (5002 * second) (.ok ()) (.ok ())) samplePublisher (samplePublication 5)

/-- Three records were handed over, the first two being the same. -/
theorem replayedWorld_records_follow :
    (handed replayedWorld.history).map (fun sent => (sent.record.sequence, sent.trustRevision)) =
        [(2, 5), (1, 3), (1, 3)] ∧
      (handed replayedWorld.history).Pairwise fun later earlier => Follows earlier later :=
  ⟨by decide +kernel, handed_records_follow replayedWorld_reachable⟩

end SampleDevice

end Sovereignite.Ipfs
