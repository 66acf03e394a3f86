import Sovereignite.EffectRequests
import Sovereignite.IpfsRuns

/-!
# The journal of a publisher

Every commit of a publisher prepares a record above the high-water mark or
completes the prepared one, and every record it hands to the node is the one
that is prepared.  A property of worlds that these steps keep is kept by every
call of a publisher.
-/

namespace Sovereignite.Ipfs

open Effect Program
open Trust (Context Publication)

variable {env : Platform}

inductive Advances (env : Platform) : PublicationState → PublicationState → Prop where
  | prepared (publisher : Publisher) (current : PublicationState)
      (snapshot : PublicSnapshot) (root : Cid) (record : SignedRecord)
      (room : current.highSequence ≠ maxUint64)
      (compatible : ∀ pending, current.pending = some pending →
        pending.trustRevision = snapshot.stateRevision ∧ pending.digest = snapshot.digest)
      (ordered : Ordered (preparedState env publisher current snapshot root record)) :
      Advances env current (preparedState env publisher current snapshot root record)
  | completed (current : PublicationState) (pending : PendingPublication)
      (found : current.pending = some pending)
      (ordered : Ordered (completedState current pending)) :
      Advances env current (completedState current pending)

namespace Advances

variable {current next : PublicationState}

theorem ordered (advances : Advances env current next) : Ordered next := by
  cases advances with
  | prepared _ _ _ _ _ _ _ ordered => exact ordered
  | completed _ _ _ ordered => exact ordered

theorem highSequence_le (advances : Advances env current next) :
    current.highSequence ≤ next.highSequence := by
  cases advances with
  | prepared _ _ _ _ _ room =>
    have successor := toNat_succ room
    rw [UInt64.le_iff_toNat_le]
    change current.highSequence.toNat ≤ (current.highSequence + 1).toNat
    omega
  | completed => exact UInt64.le_refl _

/-- A record that a commit prepares is above the high-water mark. -/
theorem pending_above {pending : PendingPublication}
    (advances : Advances env current next) (found : next.pending = some pending) :
    current.highSequence < pending.record.sequence := by
  have sequence := (advances.ordered.prepared pending found).1
  cases advances with
  | prepared _ _ _ _ _ room =>
    have successor := toNat_succ room
    rw [sequence, UInt64.lt_iff_toNat_lt]
    change current.highSequence.toNat < (current.highSequence + 1).toNat
    omega
  | completed => cases found

end Advances

/-- A property of worlds that the journal's steps keep.  A record is handed over
in a world that is ready for it, as every world after a successful commit is. -/
structure Keeps (env : Platform) (valid ready : World → Prop) : Prop where
  committed : ∀ (world : World) next succeeded, valid world →
    Advances env world.store.visible next → valid (world.commit next succeeded)
  settled : ∀ (world : World) next, ready (world.commit next true)
  published : ∀ (world : World) prepared, valid world → ready world →
    world.store.visible.pending = some prepared → valid (world.publish prepared)

abbrev alone (env : Platform) (valid : World → Prop) : Contract signature World where
  answer := answer env
  valid := valid
  rely := Eq
  guarantee _ _ := True

section Quiet

/-- The requests that leave the publication store and the history alone. -/
def Quiet : Request → Prop
  | .commit _ _ => False
  | .publishSignedRecord _ => False
  | _ => True

variable {request : Request}

theorem answer_quiet {reply : Reply request} {before after : World} (quiet : Quiet request)
    (answered : answer env before request reply after) : after = before := by
  cases request with
  | contextError | load => exact answered.1
  | commit | publishSignedRecord => exact quiet.elim
  | _ => exact answered

variable (publisher : Publisher) (ctx : Context)

def Signs : Request → Prop
  | .contextError _ => True
  | .sign _ => True
  | _ => False

theorem Signs.quiet (request : Request) (signs : Signs request) : Quiet request := by
  cases request <;> trivial

theorem checkContext_signs : (checkContext ctx).Only Signs :=
  ⟨trivial, fun reply => by cases reply <;> trivial⟩

theorem checkContext_only : (checkContext ctx).Only Quiet :=
  (checkContext_signs ctx).mono Signs.quiet

theorem signContext_signs (payload : Bytes) :
    (signContext env publisher ctx payload).Only Signs := by
  apply Only.bind (checkContext_signs ctx); intro _
  apply Only.bind (Only.perform trivial); intro _
  apply Only.bind Only.ofExcept; intro _
  apply Only.bind Only.ofExcept; intro _
  apply Only.bind Only.rejectIf; intro _
  apply Only.bind (checkContext_signs ctx); intro _
  trivial

theorem createSignedRecord_signs (root : Cid) (sequence : UInt64) (now : Time) :
    (createSignedRecord env publisher ctx root sequence now).Only Signs := by
  apply Only.bind Only.rejectIf; intro _
  apply Only.bind Only.rejectIf; intro _
  apply Only.bind Only.rejectIf; intro _
  apply Only.bind Only.rejectIf; intro _
  apply Only.bind Only.ofExcept; intro _
  apply Only.bind Only.ofExcept; intro _
  apply Only.bind (signContext_signs publisher ctx _); intro _
  apply Only.bind Only.ofExcept; intro _
  trivial

theorem inspectAndPin_only (snapshot : PublicSnapshot) (imported : Option Cid) :
    (inspectAndPin env snapshot imported).Only Quiet := by
  cases imported with
  | none => trivial
  | some =>
    apply Only.bind Only.rejectIf; intro _
    apply Only.bind (Only.perform trivial); intro _
    apply Only.bind Only.ofExcept; intro _
    apply Only.bind Only.ofExcept; intro _
    apply Only.bind (Only.perform trivial); intro _
    apply Only.bind Only.ofExcept; intro _
    apply Only.bind (Only.perform trivial); intro _
    apply Only.bind Only.ofExcept; intro _
    apply Only.bind Only.rejectIf; intro _
    trivial

theorem confirmCompleted_only (state : PublicationState) (snapshot : PublicSnapshot) :
    (confirmCompleted env publisher state snapshot).Only Quiet := by
  apply Only.bind Only.ofExcept; intro _
  cases state.lastRecord with
  | none => trivial
  | some =>
    apply Only.bind (Only.perform trivial); intro _
    apply Only.bind Only.ofExcept; intro _
    apply Only.bind (inspectAndPin_only snapshot _); intro _
    trivial

variable {valid : World → Prop} {pre : World → Prop}

theorem quiet {α : Type} {program : Publishing α} (only : program.Only Quiet) :
    Ensures (alone env valid) Eq pre program fun _ _ => True := by
  refine .weaken (fun _ _ _ => trivial) (Ensures.only ?_ only)
  rintro _ quiet _ holds known _ _ rfl _ _ answered
  obtain rfl := answer_quiet quiet answered
  exact ⟨holds, trivial, holds, rfl, fun _ _ => known⟩

theorem ask_load : Ensures (alone env valid) Eq pre (ask .load) fun reply world =>
      ∀ state, reply = .ok state → world.store.visible = state := by
  rintro _ holds _ _ _ rfl _ _ ⟨rfl, loaded⟩
  refine ⟨holds, trivial, holds, rfl, ?_⟩
  rintro _ ⟨⟩ state equal
  exact (loaded state equal).symm

end Quiet

/-- The prepared publication that a snapshot repeats. -/
def Repeats (pending : PendingPublication) (publication : Publication) : Prop :=
  pending.trustRevision = publication.stateRevision ∧
    pending.publicationID = publication.id ∧ pending.digest = publication.digest

theorem newPublicSnapshot_source {publication : Publication} {name : String}
    {snapshot : PublicSnapshot}
    (built : newPublicSnapshot env publication name = .ok snapshot) :
    snapshot.stateRevision = publication.stateRevision ∧
      snapshot.publicationID = publication.id ∧ snapshot.digest = publication.digest := by
  simp only [newPublicSnapshot, bind_eq_ok] at built
  obtain ⟨_, _, _, _, _, _, _, _, _, _, _, _, _, _, _, _, _, _, _, _, built⟩ := built
  cases built
  exact ⟨rfl, rfl, rfl⟩

theorem pendingPublicationMatches_iff {pending : PendingPublication} {snapshot : PublicSnapshot} :
    pendingPublicationMatches pending snapshot = true ↔
      pending.trustRevision = snapshot.stateRevision ∧
        pending.publicationID = snapshot.publicationID ∧ pending.digest = snapshot.digest := by
  simp [pendingPublicationMatches, and_assoc]

namespace Keeps

variable {valid ready : World → Prop} (keeps : Keeps env valid ready)
include keeps

theorem commit {pre : World → Prop} {current next : PublicationState}
    (expectedRevision : UInt64) (advances : Advances env current next)
    (visible : ∀ world, pre world → world.store.visible = current) :
    Ensures (alone env valid) Anywhere pre (ask (.commit expectedRevision next))
      fun reply world => reply = .ok () → world.store.visible = next ∧ ready world := by
  rintro _ holds known _ _ rfl reply _ (⟨failed, rfl⟩ | ⟨_, rfl⟩)
  · refine ⟨holds, trivial, holds, trivial, ?_⟩
    rintro _ ⟨⟩ accepted
    exact absurd accepted failed
  · rw [← visible _ known] at advances
    have kept := keeps.committed _ next reply.isOk holds advances
    refine ⟨kept, trivial, kept, trivial, ?_⟩
    rintro _ ⟨⟩ rfl
    exact ⟨rfl, keeps.settled _ next⟩

variable (publisher : Publisher) (ctx : Context)

theorem publishPrepared (prepared : PublicationState)
    (snapshot : PublicSnapshot) :
    Ensures (alone env valid) Anywhere (fun world => world.store.visible = prepared ∧ ready world)
      (publishPrepared env publisher prepared snapshot) fun _ _ => True := by
  unfold Ipfs.publishPrepared
  cases found : prepared.pending with
  | none => exact .fail
  | some pending =>
    refine .check fun _ => ?_
    refine .check fun _ => ?_
    refine .take fun root _ => ?_
    refine .bindQuietPure (quiet (Only.perform trivial)) fun now _ => ?_
    refine .take fun _ _ => ?_
    have handedOver : Ensures (alone env valid) Anywhere
        (fun world => world.store.visible = prepared ∧ ready world)
        (ask (.publishSignedRecord pending))
        fun _ world => world.store.visible = prepared := by
      rintro _ holds ⟨rfl, isReady⟩ _ _ rfl _ _ rfl
      have kept := keeps.published _ pending holds isReady found
      exact ⟨kept, trivial, kept, trivial, fun _ _ => rfl⟩
    refine .sequence handedOver fun published => ?_
    refine .take fun _ _ => ?_
    refine .take fun _ completedValid => ?_
    have advances : Advances env prepared (completedState prepared pending) :=
      .completed prepared pending found (ordered_of_valid completedValid)
    refine .sequence (keeps.commit _ advances fun _ known => known) fun outcome => ?_
    refine .sequence .ofExcept fun _ => ?_
    exact .ret fun _ _ _ => trivial

theorem prepareRecord
    (current : PublicationState) (snapshot : PublicSnapshot) (root : Cid)
    (compatible : ∀ pending, current.pending = some pending →
      pending.trustRevision = snapshot.stateRevision ∧ pending.digest = snapshot.digest) :
    Ensures (alone env valid) Anywhere (fun world => world.store.visible = current)
      (prepareRecord env publisher ctx current snapshot root)
      fun prepared world => world.store.visible = prepared ∧ ready world := by
  refine .check fun room => ?_
  refine .check fun _ => ?_
  refine .bindQuietPure (quiet (Only.perform trivial)) fun now _ => ?_
  refine .bindQuietPure (quiet ((createSignedRecord_signs publisher ctx root _ now).mono
    Signs.quiet)) fun record _ => ?_
  refine .take fun _ preparedValid => ?_
  have advances : Advances env current (preparedState env publisher current snapshot root record) :=
    .prepared publisher current snapshot root record (by simpa using room) compatible
      (ordered_of_valid preparedValid)
  refine .sequence (keeps.commit _ advances fun _ known => known) fun outcome => ?_
  refine .take fun _ accepted => ?_
  refine .ret fun world _ reached => reached ?_
  cases outcome with
  | ok => rfl
  | error => cases accepted

theorem resumePending
    (state : PublicationState) (snapshot : PublicSnapshot) (pending : PendingPublication)
    (found : state.pending = some pending) :
    Ensures (alone env valid) Anywhere
      (fun world => world.store.visible = state ∧
        (pendingPublicationMatches pending snapshot = true → ready world))
      (resumePending env publisher ctx state snapshot pending) fun _ _ => True := by
  refine .check fun matching => ?_
  rw [Bool.not_eq_false'] at matching
  refine .take fun root _ => ?_
  refine .bindQuietPure (quiet (inspectAndPin_only snapshot _)) fun pinned _ => ?_
  refine .bindQuietPure (quiet (Only.perform trivial)) fun now _ => ?_
  split
  · have same := pendingPublicationMatches_iff.mp matching
    have compatible : ∀ earlier, state.pending = some earlier →
        earlier.trustRevision = snapshot.stateRevision ∧ earlier.digest = snapshot.digest := by
      intro _ present
      cases Option.some.inj (found.symm.trans present)
      exact ⟨same.1, same.2.2⟩
    refine .sequence (.strengthen (fun _ known => known.1)
      (keeps.prepareRecord publisher ctx state snapshot pinned compatible)) fun prepared => ?_
    exact keeps.publishPrepared publisher prepared snapshot
  · exact .strengthen (fun _ known => ⟨known.1, known.2 matching⟩)
      (keeps.publishPrepared publisher state snapshot)

theorem publishNew
    (state : PublicationState) (snapshot : PublicSnapshot) (absent : state.pending = none) :
    Ensures (alone env valid) Anywhere (fun world => world.store.visible = state)
      (publishNew env publisher ctx state snapshot) fun _ _ => True := by
  refine .bindQuietPure (quiet (Only.perform trivial)) fun reply _ => ?_
  refine .take fun imported _ => ?_
  refine .bindQuietPure (quiet (inspectAndPin_only snapshot imported)) fun root _ => ?_
  have compatible : ∀ pending, state.pending = some pending →
      pending.trustRevision = snapshot.stateRevision ∧ pending.digest = snapshot.digest := by
    intro _ present
    cases absent.symm.trans present
  refine .sequence (keeps.prepareRecord publisher ctx state snapshot root compatible)
    fun prepared => ?_
  exact keeps.publishPrepared publisher prepared snapshot

theorem publishLocked (snapshot : PublicSnapshot) :
    Ensures (alone env valid) Anywhere
      (fun world => ∀ pending, world.store.visible.pending = some pending →
        pendingPublicationMatches pending snapshot = true → ready world)
      (publishLocked env publisher ctx snapshot) fun _ _ => True := by
  refine .bindQuietPure (quiet (checkContext_only ctx)) fun _ _ => ?_
  refine .bindQuiet ask_load fun reply => ?_
  refine .take fun state accepted => ?_
  have loaded := mapError_eq_ok.mp accepted
  refine .take fun _ _ => ?_
  refine .take fun _ _ => ?_
  split
  · exact .relax (fun _ _ _ => trivial) (quiet (confirmCompleted_only publisher state snapshot))
  · cases found : state.pending with
    | none =>
      exact .strengthen (fun _ known => known.2 state loaded)
        (keeps.publishNew publisher ctx state snapshot found)
    | some pending =>
      refine .strengthen ?_ (keeps.resumePending publisher ctx state snapshot pending found)
      rintro _ ⟨readiness, visible⟩
      have same := visible state loaded
      refine ⟨same, readiness pending ?_⟩
      rw [same, found]

/-- A call of a publisher keeps the property, if the world is ready whenever
the call repeats the prepared publication. -/
theorem publishCall (publication : Publication) :
    Ensures (alone env valid) Anywhere
      (fun world => ∀ pending, world.store.visible.pending = some pending →
        Repeats pending publication → ready world)
      (publishCall env publisher ctx publication) fun _ _ => True := by
  have published : Ensures (alone env valid) Anywhere
      (fun world => ∀ pending, world.store.visible.pending = some pending →
        Repeats pending publication → ready world)
      (publish env publisher ctx publication) fun _ _ => True := by
    refine .check fun _ => ?_
    refine .bindQuietPure (quiet (checkContext_only ctx)) fun _ _ => ?_
    refine .take fun _ _ => ?_
    refine .take fun snapshot built => ?_
    obtain ⟨revision, identity, digest⟩ := newPublicSnapshot_source built
    refine .between (fun _ _ _ => trivial) Lasting.eq (fun _ _ _ _ _ => trivial)
      (quiet (Only.perform trivial))
      (.relax (fun _ _ _ => trivial) (quiet (Only.perform trivial))) ?_
    refine .strengthen ?_ (keeps.publishLocked publisher ctx snapshot)
    intro _ known pending found matching
    obtain ⟨sameRevision, sameIdentity, sameDigest⟩ := pendingPublicationMatches_iff.mp matching
    exact known pending found ⟨sameRevision.trans revision, sameIdentity.trans identity,
      sameDigest.trans digest⟩
  exact .sequence published fun _ => .ret fun _ _ _ => trivial

end Keeps

end Sovereignite.Ipfs
