import Sovereignite.EffectEvaluation
import Sovereignite.IpfsExecution
import Sovereignite.IpfsJournal

/-!
# Repeating a publication

A call that repeats the last completed publication commits nothing.  It returns
the receipt of the completed one, provided that the completed record is still
fresh by the clock.  The node is content addressed: whenever it reports what is
reachable from a root it reports the same.
-/

namespace Sovereignite.Ipfs

open Effect Program
open Trust (Context Publication PublicationReceipt)

variable {env : Platform}

variable {record : SignedRecord} {now : Time}

section Validation

theorem verifyRecordBindingAndSignature_bound {expectedName : String} {expectedRoot : Cid}
    {publicKey : Bytes}
    (verified : verifyRecordBindingAndSignature env record expectedName expectedRoot
      publicKey = .ok ()) :
    record.name = expectedName ∧ record.rootCID env = .ok expectedRoot := by
  obtain ⟨_, _, verified⟩ := bind_eq_ok.mp verified
  obtain ⟨_, named, verified⟩ := bind_eq_ok.mp verified
  obtain ⟨_, decoded, verified⟩ := bind_eq_ok.mp verified
  obtain ⟨_, rooted, _⟩ := bind_eq_ok.mp verified
  simp only [reject_eq_ok, Bool.or_eq_false_iff, bne_eq_false_iff_eq] at named rooted
  rw [rooted] at decoded
  exact ⟨named.1, decoded⟩

theorem validateSignedRecord_eq_ok {validation : RecordValidation} :
    validateSignedRecord env record validation = .ok () ↔
      validation.policy.validate env = .ok () ∧ validation.now ≠ 0 ∧
      validation.expectedName ≠ "" ∧
      verifyRecordBindingAndSignature env record validation.expectedName
        validation.expectedRoot validation.publicKey = .ok () ∧
      timeSub record.validUntil record.issuedAt ≤ validation.policy.maxValidity ∧
      validation.previousSequence < record.sequence ∧
      (validation.previousIssuedAt ≠ 0 → validation.previousIssuedAt ≤ record.issuedAt) ∧
      record.issuedAt ≤ validation.now + validation.policy.clockSkew ∧
      (record.issuedAt < validation.now →
        timeSub validation.now record.issuedAt ≤ validation.policy.maxStaleness) ∧
      validation.now < record.validUntil := by
  simp [validateSignedRecord, validateRecordLifetime, bind_eq_ok, reject_eq_ok,
    Unique.exists_iff, PUnit.default_eq_unit]

def Fresh (policy : RecordPolicy) (record : SignedRecord) (now : Time) : Prop :=
  now ≠ 0 ∧ recordNeedsRefresh policy record now = false

instance (policy : RecordPolicy) (record : SignedRecord) (now : Time) :
    Decidable (Fresh policy record now) :=
  inferInstanceAs (Decidable (_ ∧ _))

theorem fresh_iff {policy : RecordPolicy} :
    Fresh policy record now ↔
      now ≠ 0 ∧ now < record.validUntil ∧
        (record.issuedAt < now → timeSub now record.issuedAt ≤ policy.maxStaleness) ∧
        timeSub record.validUntil record.issuedAt ≤ policy.maxValidity := by
  simp [Fresh, recordNeedsRefresh, and_assoc]

theorem validateSignedRecord_later {validation : RecordValidation}
    (valid : validateSignedRecord env record validation = .ok ())
    (later : validation.now ≤ now) :
    validateSignedRecord env record { validation with now } = .ok () ↔
      Fresh validation.policy record now := by
  obtain ⟨checked, _, named, verified, lifetime, above, ordered, _, _, _⟩ :=
    validateSignedRecord_eq_ok.mp valid
  have notAhead : record.issuedAt ≤ now + validation.policy.clockSkew := by
    unfold Time Duration at *
    omega
  rw [validateSignedRecord_eq_ok, fresh_iff]
  constructor
  · rintro ⟨_, set, _, _, _, _, _, _, notStale, notExpired⟩
    exact ⟨set, notExpired, notStale, lifetime⟩
  · rintro ⟨set, notExpired, notStale, _⟩
    exact ⟨checked, set, named, verified, lifetime, above, ordered, notAhead, notStale, notExpired⟩

end Validation

variable {request : Request}

section TimedCalls

/-- The world of a publisher and the latest time its clock gave. -/
structure TimedWorld where
  world : World
  clock : Time

/-- A clock that never goes back and a node that is content addressed. -/
def Observed (contents : Cid → SnapshotInspection) (before after : TimedWorld) :
    (request : Request) → Reply request → Prop
  | .now, reply => before.clock ≤ reply ∧ after.clock = reply
  | .inspectPublicSnapshot root, reply =>
    after.clock = before.clock ∧ ∀ inspection, reply = .ok inspection → inspection = contents root
  | _, _ => after.clock = before.clock

def timedAnswer (env : Platform) (contents : Cid → SnapshotInspection)
    (before : TimedWorld) (request : Request) (reply : Reply request)
    (after : TimedWorld) : Prop :=
  answer env before.world request reply after.world ∧ Observed contents before after request reply

variable {contents : Cid → SnapshotInspection} {before after : TimedWorld}

theorem timedAnswer_clock {reply : Reply request}
    (answered : timedAnswer env contents before request reply after) :
    before.clock ≤ after.clock := by
  have observed := answered.2
  cases request with
  | now =>
    rw [observed.2]
    exact observed.1
  | inspectPublicSnapshot => exact le_of_eq observed.1.symm
  | _ => exact le_of_eq (Eq.symm observed)

theorem world_of_quiet {reply : Reply request} (quiet : Quiet request)
    (answered : timedAnswer env contents before request reply after) :
    after.world = before.world :=
  answer_quiet quiet answered.1

variable {ε α : Type} {outcome : Except Error α}

theorem clock_of_ends {program : Publishing α}
    (ended : program.Ends (timedAnswer env contents) before outcome after) :
    before.clock ≤ after.clock :=
  ended.relates (fun first second => first.clock ≤ second.clock)
    (fun _ => le_refl _) (fun _ _ _ => le_trans) fun _ _ _ _ => timedAnswer_clock

theorem world_of_ends {program : Publishing α} (only : program.Only Quiet)
    (ended : program.Ends (timedAnswer env contents) before outcome after) :
    after.world = before.world :=
  only.unchanged (fun _ _ _ _ quiet answered => world_of_quiet quiet answered) ended

end TimedCalls

variable {root : Cid}

section Outcomes

variable {publisher : Publisher} {ctx : Context} {contents : Cid → SnapshotInspection}
variable {before after : TimedWorld} {snapshot : PublicSnapshot}

theorem ask_ends {reply : Reply request} :
    Ends (α := no_index (Reply request)) (timedAnswer env contents) (ask request) before
      (.ok reply) after ↔ timedAnswer env contents before request reply after :=
  Ends.perform_ok

theorem inspectAndPin_ends {imported : Option Cid}
    (ended : (inspectAndPin env snapshot imported).Ends (timedAnswer env contents)
      before (.ok root) after) :
    root.version = 1 ∧ validateImportedSnapshot env root snapshot (contents root) = .ok () ∧
      imported = some root ∧ after.world = before.world := by
  have unchanged := world_of_ends (inspectAndPin_only snapshot imported) ended
  cases imported with
  | none => cases ended
  | some =>
    simp only [inspectAndPin, Ends.bind_ok, Ends.rejectIf_ok, Ends.ofExcept_ok, ask_ends,
      mapError_eq_ok] at ended
    obtain ⟨_, _, ⟨version, rfl⟩, _, _, asked, inspection, _, ⟨rfl, rfl⟩, _, _, ⟨accepted, _⟩, _,
      _, _, _, _, _, _, _, _, _, _, _, _, _, _, returned⟩ := ended
    cases returned
    rw [asked.2.2 inspection rfl] at accepted
    exact ⟨by simpa using version, accepted, rfl, unchanged⟩

theorem createSignedRecord_ends {sequence : UInt64}
    (ended : (createSignedRecord env publisher ctx root sequence now).Ends
      (timedAnswer env contents) before (.ok record) after) :
    record.rootCID env = .ok root := by
  simp only [createSignedRecord, Ends.bind_ok, Ends.ofExcept_ok, mapError_eq_ok] at ended
  obtain ⟨_, _, _, _, _, _, _, _, _, _, _, _, _, _, _, _, _, _, _, _, _, _, _, ⟨valid, _⟩,
    returned⟩ := ended
  cases returned
  have verified := (validateSignedRecord_eq_ok.mp valid).2.2.2.1
  exact (verifyRecordBindingAndSignature_bound verified).2

theorem prepareRecord_ends {current prepared : PublicationState}
    (ended : (prepareRecord env publisher ctx current snapshot root).Ends
      (timedAnswer env contents) before (.ok prepared) after) :
    ∃ pending, prepared.pending = some pending ∧ pending.record.rootCID env = .ok root := by
  simp only [prepareRecord, Ends.bind_ok] at ended
  obtain ⟨_, _, _, _, _, _, _, _, _, _, _, created, _, _, _, _, _, _, _, _, _, returned⟩ :=
    ended
  cases returned
  exact ⟨_, rfl, createSignedRecord_ends created⟩

/-- The store holds a publication as completed, its record was valid at some
time, and its root was inspected. -/
structure Settled (env : Platform) (contents : Cid → SnapshotInspection)
    (publisher : Publisher) (snapshot : PublicSnapshot) (state : PublicationState)
    (clock : Time) : Prop where
  loads : validateStateForSigner env publisher state = .ok ()
  completed : completedPublicationMatches state snapshot = true
  confirmed : ∃ record root now, state.lastRecord = some record ∧ now ≤ clock ∧
    canonicalRootCID env state.lastRootCID = .ok root ∧ root.version = 1 ∧
    validateImportedSnapshot env root snapshot (contents root) = .ok () ∧
    validateSignedRecord env record (completedValidation publisher state root now) = .ok ()

variable {prepared : PublicationState}

theorem settled_completedState {pending : PendingPublication} {now clock : Time}
    (past : now ≤ clock) (matching : pendingPublicationMatches pending snapshot = true)
    (decoded : canonicalRootCID env pending.rootCID = .ok root) (version : root.version = 1)
    (inspected : validateImportedSnapshot env root snapshot (contents root) = .ok ())
    (valid : validateSignedRecord env pending.record
      (preparedValidation publisher prepared root now) = .ok ())
    (stored : validatePublicationState env (completedState prepared pending) = .ok ()) :
    Settled env contents publisher snapshot (completedState prepared pending) clock := by
  obtain ⟨checked, set, named, verified, lifetime, above, _, skewed, notStale, notExpired⟩ :=
    validateSignedRecord_eq_ok.mp valid
  obtain ⟨revision, identity, digest⟩ := pendingPublicationMatches_iff.mp matching
  have positive : pending.record.sequence ≠ 0 := by
    intro zero
    rw [zero] at above
    exact UInt64.not_lt_zero above
  have below : pending.record.sequence - 1 < pending.record.sequence := by
    apply UInt64.sub_lt (by decide)
    rw [UInt64.le_iff_toNat_le]
    have larger := UInt64.lt_iff_toNat_lt.mp above
    change 1 ≤ pending.record.sequence.toNat
    omega
  have bound := (verifyRecordBindingAndSignature_bound verified).1
  have name : (completedState prepared pending).ipnsName = publisher.signer.name :=
    (lastRecord_name stored positive rfl).symm.trans bound
  have verifies : verifyStored env publisher pending.record pending.rootCID
      "verify last durable IPNS record" = .ok () :=
    bind_eq_ok.mpr ⟨root, decoded, mapError_eq_ok.mpr verified⟩
  constructor
  · apply bind_eq_ok.mpr ⟨(), mapError_eq_ok.mpr stored, _⟩
    apply bind_eq_ok.mpr ⟨(), _, _⟩
    · simp [name]
    · exact bind_eq_ok.mpr ⟨(), verifies, rfl⟩
  · simp [completedPublicationMatches, completedState, positive, revision, identity, digest]
  · refine ⟨pending.record, root, now, rfl, past, decoded, version, inspected, ?_⟩
    rw [validateSignedRecord_eq_ok]
    exact ⟨checked, set, named, verified, lifetime, below, fun set => absurd rfl set, skewed,
      notStale, notExpired⟩

theorem bound_of_prepared {pending : PendingPublication} (found : prepared.pending = some pending)
    (bound : pending.record.rootCID env = .ok root) (other : PendingPublication)
    (decoded : Cid) (present : prepared.pending = some other)
    (_ : canonicalRootCID env other.rootCID = .ok decoded)
    (expected : other.record.rootCID env = .ok decoded) : decoded = root := by
  cases found.symm.trans present
  exact Except.ok.inj (expected.symm.trans bound)

variable {receipt : PublicationReceipt}

theorem publishPrepared_ends (version : root.version = 1)
    (inspected : validateImportedSnapshot env root snapshot (contents root) = .ok ())
    (bound : ∀ pending decoded, prepared.pending = some pending →
      canonicalRootCID env pending.rootCID = .ok decoded →
      pending.record.rootCID env = .ok decoded → decoded = root)
    (ended : (publishPrepared env publisher prepared snapshot).Ends
      (timedAnswer env contents) before (.ok receipt) after) :
    receipt = completedReceipt after.world.store.visible ∧
      Settled env contents publisher snapshot after.world.store.visible after.clock := by
  unfold publishPrepared at ended
  cases found : prepared.pending with
  | none =>
    rw [found] at ended
    cases ended
  | some pending =>
    simp only [found, Ends.bind_ok, Ends.rejectIf_ok, Ends.ofExcept_ok, ask_ends,
      mapError_eq_ok] at ended
    obtain ⟨_, _, ⟨matched, _⟩, _, _, _, decoded, _, ⟨canonical, _⟩, now, _, asked, _, _,
      ⟨valid, rfl⟩, _, _, published, _, _, ⟨_, rfl⟩, _, _, ⟨checked, rfl⟩, _, _, committed,
      _, _, ⟨rfl, rfl⟩, returned⟩ := ended
    cases returned
    have elapsed : after.clock = now := (committed.2.trans published.2).trans asked.2.2
    have stored : after.world.store.visible = completedState prepared pending := by
      rcases committed.1 with ⟨failed, _⟩ | ⟨_, written⟩
      · exact absurd rfl failed
      · rw [written]
        simp [World.commit]
    have verified := (validateSignedRecord_eq_ok.mp valid).2.2.2.1
    obtain rfl : decoded = root :=
      bound pending decoded found canonical (verifyRecordBindingAndSignature_bound verified).2
    rw [stored]
    exact ⟨rfl, settled_completedState elapsed.ge (by simpa using matched) canonical version
      inspected valid checked⟩

theorem confirmCompleted_ends {state : PublicationState}
    (stored : before.world.store.visible = state)
    (loads : validateStateForSigner env publisher state = .ok ())
    (completed : completedPublicationMatches state snapshot = true)
    (ended : (confirmCompleted env publisher state snapshot).Ends
      (timedAnswer env contents) before (.ok receipt) after) :
    receipt = completedReceipt after.world.store.visible ∧
      Settled env contents publisher snapshot after.world.store.visible after.clock := by
  obtain ⟨root, _, decoded, ended⟩ := Ends.bind_ok.mp ended
  obtain ⟨canonical, rfl⟩ := Ends.ofExcept_ok.mp decoded
  cases found : state.lastRecord with
  | none =>
    rw [found] at ended
    cases ended
  | some record =>
    simp only [found, Ends.bind_ok, Ends.ofExcept_ok, ask_ends, mapError_eq_ok] at ended
    obtain ⟨now, _, asked, _, _, ⟨valid, rfl⟩, _, _, inspection, returned⟩ := ended
    have elapsed := clock_of_ends inspection
    obtain ⟨version, inspected, same, unchanged⟩ := inspectAndPin_ends inspection
    cases same
    cases returned
    rw [asked.2.2] at elapsed
    rw [unchanged, world_of_quiet (by trivial) asked, stored]
    exact ⟨rfl, loads, completed, record, root, now, found, elapsed, canonical, version, inspected,
      valid⟩

theorem publishLocked_ends (ended : (publishLocked env publisher ctx snapshot).Ends
      (timedAnswer env contents) before (.ok receipt) after) :
    receipt = completedReceipt after.world.store.visible ∧
      Settled env contents publisher snapshot after.world.store.visible after.clock := by
  simp only [publishLocked, Ends.bind_ok, Ends.ofExcept_ok, ask_ends, mapError_eq_ok] at ended
  obtain ⟨_, _, _, _, loading, asked, state, _, ⟨rfl, rfl⟩, _, _, ⟨loads, rfl⟩, _, _, ⟨_, rfl⟩,
    ended⟩ := ended
  have stored : loading.world.store.visible = state := by
    rw [asked.1.1]
    exact (asked.1.2 state rfl).symm
  cases completed : completedPublicationMatches state snapshot with
  | true =>
    rw [completed] at ended
    exact confirmCompleted_ends stored loads completed ended
  | false =>
    rw [completed] at ended
    cases found : state.pending with
    | none =>
      simp only [found, publishNew, Ends.bind_ok, Bool.false_eq_true, if_false] at ended
      obtain ⟨_, _, _, _, _, _, root, _, inspection, prepared, _, preparing, ended⟩ := ended
      obtain ⟨version, inspected, _, _⟩ := inspectAndPin_ends inspection
      obtain ⟨pending, present, bound⟩ := prepareRecord_ends preparing
      exact publishPrepared_ends version inspected (bound_of_prepared present bound) ended
    | some =>
      simp only [found, resumePending, Ends.bind_ok, Ends.ofExcept_ok, Bool.false_eq_true, if_false]
        at ended
      obtain ⟨_, _, _, _, _, ⟨canonical, _⟩, _, _, inspection, _, _, _, ended⟩ := ended
      obtain ⟨version, inspected, same, _⟩ := inspectAndPin_ends inspection
      split at ended
      · obtain ⟨_, _, preparing, ended⟩ := Ends.bind_ok.mp ended
        obtain ⟨_, present, bound⟩ := prepareRecord_ends preparing
        exact publishPrepared_ends version inspected (bound_of_prepared present bound) ended
      · refine publishPrepared_ends version inspected ?_ ended
        intro _ _ present again _
        cases found.symm.trans present
        cases canonical.symm.trans again
        exact Option.some.inj same

theorem publish_ends {publication : Publication}
    (ended : (publish env publisher ctx publication).Ends (timedAnswer env contents)
      before (.ok receipt) after) :
    ∃ snapshot, publication.validate env = .ok () ∧
      newPublicSnapshot env publication publisher.signer.name = .ok snapshot ∧
      receipt = completedReceipt after.world.store.visible ∧
      Settled env contents publisher snapshot after.world.store.visible after.clock := by
  simp only [publish, Ends.bind_ok, Ends.ofExcept_ok, mapError_eq_ok] at ended
  obtain ⟨_, _, _, _, _, _, _, _, ⟨validated, _⟩, snapshot, _, ⟨built, _⟩, ended⟩ := ended
  obtain ⟨_, _, closed, _, _, ran, freed⟩ := Ends.between_inv ended
  obtain ⟨returned, settled⟩ := publishLocked_ends ran
  have unchanged : after.world = closed.world := freed.1
  have elapsed : after.clock = closed.clock := freed.2
  rw [unchanged, elapsed]
  exact ⟨snapshot, validated, built, returned, settled⟩

end Outcomes

section Repetition

/-- Calls that repeat one publication, each up to its end or to a crash, and the
time between them. -/
def repeatRules (env : Platform) (contents : Cid → SnapshotInspection)
    (publication : Publication) : SequenceRules signature TimedWorld Error Unit where
  answer := timedAnswer env contents
  offered _ program := ∃ publisher ctx, program = publishCall env publisher ctx publication
  disturb before after := after.world = before.world ∧ before.clock ≤ after.clock

/-- A state that holds a publication as completed, as far as a call that repeats
it looks. -/
def Completes (publication : Publication) (state : PublicationState) : Prop :=
  ∀ snapshot : PublicSnapshot, snapshot.stateRevision = publication.stateRevision →
    snapshot.publicationID = publication.id → snapshot.digest = publication.digest →
    completedPublicationMatches state snapshot = true

theorem Settled.completes {publisher : Publisher} {contents : Cid → SnapshotInspection}
    {publication : Publication} {snapshot : PublicSnapshot} {state : PublicationState}
    {clock : Time} (settled : Settled env contents publisher snapshot state clock)
    (built : newPublicSnapshot env publication publisher.signer.name = .ok snapshot) :
    Completes publication state := by
  intro _ revision identity digest
  obtain ⟨sameRevision, sameIdentity, sameDigest⟩ := newPublicSnapshot_source built
  have completed := settled.completed
  simp only [completedPublicationMatches] at completed ⊢
  rw [revision, identity, digest, ← sameRevision, ← sameIdentity, ← sameDigest]
  exact completed

variable {contents : Cid → SnapshotInspection} {publication : Publication}

/-- The store as it was, and the clock not before a time. -/
def Unmoved (state : PublicationState) (clock : Time) (world : TimedWorld) : Prop :=
  world.world.store.visible = state ∧ clock ≤ world.clock

/-- The contract of a call that finds the store as it was and leaves it so. -/
abbrev repeating (env : Platform) (contents : Cid → SnapshotInspection)
    (publication : Publication) (state : PublicationState) (clock : Time) :
    Contract signature TimedWorld :=
  (repeatRules env contents publication).contract (Unmoved state clock)

variable {state : PublicationState} {clock : Time}

theorem Unmoved.quiet {reply : Reply request} {before after : TimedWorld}
    (unmoved : Unmoved state clock before) (quiet : Quiet request)
    (answered : timedAnswer env contents before request reply after) :
    Unmoved state clock after := by
  constructor
  · rw [world_of_quiet quiet answered]
    exact unmoved.1
  · exact le_trans unmoved.2 (timedAnswer_clock answered)

theorem quiet_unmoved {α : Type} {program : Publishing α} (only : program.Only Quiet) :
    Ensures (repeating env contents publication state clock) Anywhere (fun _ => True)
      program fun _ _ => True := by
  refine Ensures.only ?_ only
  rintro _ quiet _ unmoved _ _ _ rfl _ _ answered
  have kept := unmoved.quiet quiet answered
  exact ⟨kept, trivial, kept, trivial, fun _ _ => trivial⟩

theorem ask_load_unmoved :
    Ensures (repeating env contents publication state clock) Anywhere (fun _ => True)
      (ask .load) fun reply _ => ∀ loaded, reply = .ok loaded → loaded = state := by
  rintro _ unmoved _ _ _ rfl _ after answered
  have kept : Unmoved state clock after := unmoved.quiet (by trivial) answered
  refine ⟨kept, trivial, kept, trivial, ?_⟩
  rintro _ ⟨⟩ loaded same
  rw [answered.1.2 loaded same]
  exact unmoved.1

theorem publish_unmoved (completes : Completes publication state) (publisher : Publisher)
    (ctx : Context) :
    Ensures (repeating env contents publication state clock) Anywhere (fun _ => True)
      (publish env publisher ctx publication) fun _ _ => True := by
  refine .sequence (quiet_unmoved Only.rejectIf) fun _ => ?_
  refine .sequence (quiet_unmoved (checkContext_only ctx)) fun _ => ?_
  refine .sequence (quiet_unmoved Only.ofExcept) fun _ => ?_
  refine .take fun snapshot built => ?_
  obtain ⟨revision, identity, digest⟩ := newPublicSnapshot_source built
  have matching := completes snapshot revision identity digest
  refine .strengthen (fun _ _ => trivial) ?_
  refine .between (fun _ _ _ => trivial) (fun _ _ _ _ => trivial) (fun _ _ _ _ _ => trivial)
    (quiet_unmoved (Only.perform trivial)) (quiet_unmoved (Only.perform trivial)) ?_
  refine .sequence (quiet_unmoved (checkContext_only ctx)) fun _ => ?_
  refine .sequence ask_load_unmoved fun reply => ?_
  refine .derive (fun _ _ loaded => loaded) fun loaded => .strengthen (fun _ _ => trivial) ?_
  refine .take fun found replied => ?_
  obtain rfl := loaded found (mapError_eq_ok.mp replied)
  refine .strengthen (fun _ _ => trivial) ?_
  refine .sequence (quiet_unmoved Only.ofExcept) fun _ => ?_
  refine .sequence (quiet_unmoved Only.ofExcept) fun _ => ?_
  rw [matching]
  exact quiet_unmoved (confirmCompleted_only publisher found snapshot)

theorem unmoved_of_repeated {done later : TimedWorld}
    (completes : Completes publication done.world.store.visible)
    (repeated : (repeatRules env contents publication).Reachable done later) :
    Unmoved done.world.store.visible done.clock later := by
  refine repeated.invariant ⟨rfl, le_refl _⟩ ?_ ?_
  · rintro _ _ unmoved ⟨publisher, ctx, rfl⟩
    have call : Ensures (repeating env contents publication _ done.clock) Anywhere
        (fun _ => True) (publishCall env publisher ctx publication) fun _ _ => True :=
      .sequence (publish_unmoved completes publisher ctx) fun _ => .ret fun _ _ _ => trivial
    exact call.safe unmoved trivial
  · rintro _ _ ⟨visible, elapsed⟩ ⟨unchanged, passed⟩
    exact ⟨by rw [unchanged, visible], le_trans elapsed passed⟩

end Repetition

section HealthyCalls

/-- A node, a key and a clock that answer without failure. -/
structure Health where
  now : Time
  root : PublicSnapshot → Cid
  sign : Bytes → Bytes

/-- Nothing fails.  The store accepts what it should and refuses the rest. -/
def healthy (env : Platform) (contents : Cid → SnapshotInspection) (health : Health) :
    Oracle signature TimedWorld
  | state, .contextError _ => (none, state)
  | state, .lock => ((), state)
  | state, .unlock => ((), state)
  | state, .now => (health.now, { state with clock := health.now })
  | state, .load => (.ok state.world.store.visible, state)
  | state, .commit expectedRevision next =>
    if accepts env state.world.store.visible expectedRevision next then
      (.ok (), { state with world := state.world.commit next true })
    else
      (.error (.sentinel .publicationStateConflict), state)
  | state, .importPublicSnapshot snapshot => (.ok (some (health.root snapshot)), state)
  | state, .inspectPublicSnapshot root => (.ok (contents root), state)
  | state, .pinPublicSnapshot _ => (.ok (), state)
  | state, .publicSnapshotPinned _ => (.ok true, state)
  | state, .sign payload => (.ok (health.sign payload), state)
  | state, .publishSignedRecord prepared =>
    (.ok (), { state with world := state.world.publish prepared })

variable {contents : Cid → SnapshotInspection} {health : Health}

/-- A healthy call is one of the calls that may happen. -/
theorem healthy_follows :
    Follows (timedAnswer env contents) (healthy env contents health)
      fun state => state.clock ≤ health.now where
  answers := by
    intro state request past
    cases request with
    | contextError => exact ⟨⟨rfl, fun _ => rfl⟩, rfl⟩
    | now => exact ⟨rfl, past, rfl⟩
    | load =>
      refine ⟨⟨rfl, ?_⟩, rfl⟩
      rintro _ ⟨⟩
      rfl
    | commit _ next =>
      simp only [healthy]
      split
      · next accepted => exact ⟨.inr ⟨.of_accepts accepted, rfl⟩, rfl⟩
      · exact ⟨.inl ⟨nofun, rfl⟩, rfl⟩
    | inspectPublicSnapshot =>
      refine ⟨rfl, rfl, ?_⟩
      rintro _ ⟨⟩
      rfl
    | _ => exact ⟨rfl, rfl⟩
  keeps := by
    intro _ request past
    cases request with
    | now => exact le_refl _
    | commit =>
      simp only [healthy]
      split <;> exact past
    | _ => exact past

variable {publisher : Publisher} {ctx : Context} {publication : Publication}
variable {snapshot : PublicSnapshot} {state : TimedWorld}

theorem eval_checkContext_bind {β : Type} (next : Unit → Publishing β) :
    (checkContext ctx >>= next).eval (healthy env contents health) state =
      (next ()).eval (healthy env contents health) state :=
  rfl

theorem eval_ask_bind {β : Type} (request : Request) (next : Reply request → Publishing β) :
    (ask request >>= next).eval (healthy env contents health) state =
      (next (healthy env contents health state request).1).eval
        (healthy env contents health) (healthy env contents health state request).2 :=
  rfl

theorem eval_inspectAndPin (version : root.version = 1)
    (inspected : validateImportedSnapshot env root snapshot (contents root) = .ok ()) :
    (inspectAndPin env snapshot (some root)).eval (healthy env contents health)
      state = (.ok root, state) := by
  unfold inspectAndPin
  rw [eval_rejectIf_bind _ (by simp [version]), eval_ask_bind]
  simp only [healthy, Except.mapError, ofExcept_ok, ret_bind, inspected]
  rfl

theorem validateSnapshotRevision_completed {stored : PublicationState}
    (completed : completedPublicationMatches stored snapshot = true) :
    validateSnapshotRevision stored snapshot = .ok () := by
  simp only [completedPublicationMatches, Bool.and_eq_true, beq_iff_eq, bne_iff_ne,
    Option.isNone_iff_eq_none] at completed
  obtain ⟨⟨⟨⟨none, _⟩, revision⟩, identity⟩, digest⟩ := completed
  simp [validateSnapshotRevision, none, revision, identity, digest, bind_eq_ok, reject_eq_ok]

/-- The outcome of a call that repeats the completed publication: the completed
record is checked by the clock. -/
def replayed (env : Platform) (publisher : Publisher) (stored : PublicationState)
    (record : SignedRecord) (root : Cid) (now : Time) : Except Error PublicationReceipt := do
  (validateSignedRecord env record (completedValidation publisher stored root now)).mapError
    (.wrap "validate completed IPNS record freshness")
  return completedReceipt stored

theorem eval_confirmCompleted {stored : PublicationState} (last : stored.lastRecord = some record)
    (canonical : canonicalRootCID env stored.lastRootCID = .ok root)
    (version : root.version = 1)
    (inspected : validateImportedSnapshot env root snapshot (contents root) = .ok ()) :
    (confirmCompleted env publisher stored snapshot).eval (healthy env contents health) state =
      (replayed env publisher stored record root health.now,
        { state with clock := health.now }) := by
  unfold confirmCompleted replayed
  rw [eval_ofExcept_bind _ canonical]
  simp only [last]
  rw [eval_ask_bind]
  simp only [healthy]
  cases validateSignedRecord env record (completedValidation publisher stored root health.now) with
  | error => rfl
  | ok =>
    simp only [Except.mapError, ofExcept_ok, ret_bind]
    rw [eval_bind_ok _ (eval_inspectAndPin version inspected)]
    rfl

theorem eval_publish_completed (valid : publication.validate env = .ok ())
    (built : newPublicSnapshot env publication publisher.signer.name = .ok snapshot)
    (live : ctx ≠ .absent)
    (loads : validateStateForSigner env publisher state.world.store.visible = .ok ())
    (completed : completedPublicationMatches state.world.store.visible snapshot = true)
    (last : state.world.store.visible.lastRecord = some record)
    (canonical : canonicalRootCID env state.world.store.visible.lastRootCID = .ok root)
    (version : root.version = 1)
    (inspected : validateImportedSnapshot env root snapshot (contents root) = .ok ()) :
    ((publish env publisher ctx publication).eval (healthy env contents health)
      state).1 = replayed env publisher state.world.store.visible record root health.now := by
  have locked : (publishLocked env publisher ctx snapshot).eval
      (healthy env contents health) state =
        (replayed env publisher state.world.store.visible record root health.now,
          { state with clock := health.now }) := by
    unfold publishLocked
    rw [eval_checkContext_bind, eval_ask_bind]
    simp only [healthy, Except.mapError, ofExcept_ok, ret_bind]
    rw [eval_ofExcept_bind _ loads,
      eval_ofExcept_bind _ (validateSnapshotRevision_completed completed), if_pos completed]
    exact eval_confirmCompleted last canonical version inspected
  unfold publish
  rw [eval_rejectIf_bind _ (by simp [live]), eval_checkContext_bind,
    eval_ofExcept_bind _ (mapError_eq_ok.mpr valid), eval_ofExcept_bind _ built]
  exact congrArg Prod.fst (eval_between (S := signature) .lock .unlock locked)

end HealthyCalls

/-- A receipt that confirms an earlier one. -/
structure Confirms (earlier later : PublicationReceipt) : Prop where
  publicationID : later.publicationID = earlier.publicationID
  digest : later.digest = earlier.digest
  rootCID : later.rootCID = earlier.rootCID
  ipnsName : later.ipnsName = earlier.ipnsName
  ipnsSequence : earlier.ipnsSequence ≤ later.ipnsSequence

/-- The completed record of a state is fresh by the clock. -/
def StillFresh (policy : RecordPolicy) (state : PublicationState) (now : Time) : Prop :=
  ∀ record, state.lastRecord = some record → Fresh policy record now

/-- After a call that returned a receipt, and after any number of repetitions of
its publication, a healthy repetition at a later time returns a receipt that
confirms the first one iff the completed record is still fresh. -/
theorem republished_iff_fresh {contents : Cid → SnapshotInspection} {publisher : Publisher}
    {ctx again : Context} {publication : Publication} {started done later : TimedWorld}
    {receipt : PublicationReceipt} {health : Health}
    (first : (publish env publisher ctx publication).Ends (timedAnswer env contents)
      started (.ok receipt) done)
    (repeated : (repeatRules env contents publication).Reachable done later)
    (live : again ≠ .absent) (elapsed : later.clock ≤ health.now) :
    (∃ confirmed, ((publish env publisher again publication).eval
        (healthy env contents health) later).1 = .ok confirmed ∧
        Confirms receipt confirmed) ↔
      StillFresh publisher.policy later.world.store.visible health.now := by
  obtain ⟨_, valid, built, returned, settled⟩ := publish_ends first
  obtain ⟨visible, passed⟩ := unmoved_of_repeated (settled.completes built) repeated
  rw [← visible] at returned settled
  obtain ⟨record, _, now, last, past, canonical, version, inspected, validated⟩ :=
    settled.confirmed
  rw [eval_publish_completed valid built live settled.loads settled.completed last canonical
    version inspected]
  have notBefore : now ≤ health.now := le_trans past (le_trans passed elapsed)
  have fresh := validateSignedRecord_later validated notBefore
  have still : StillFresh publisher.policy later.world.store.visible health.now ↔
      Fresh publisher.policy record health.now := by
    simp [StillFresh, last]
  rw [still]
  constructor
  · rintro ⟨_, returns, _⟩
    obtain ⟨_, checked, _⟩ := bind_eq_ok.mp returns
    exact fresh.mp (mapError_eq_ok.mp checked)
  · intro isFresh
    refine ⟨completedReceipt later.world.store.visible, ?_, ?_⟩
    · exact bind_eq_ok.mpr ⟨(), mapError_eq_ok.mpr (fresh.mpr isFresh), rfl⟩
    · rw [returned]
      exact ⟨rfl, rfl, rfl, rfl, UInt64.le_refl _⟩

section SampleDevice

open Trust (samplePlatform sampleInputs sampleDocuments)

def sampleContents (root : Cid) : SnapshotInspection where
  root := some root
  files := sampleDocuments.map fun document =>
    ⟨document.path, document.mediaType, dagEntryFile, document.content⟩
  blocks := [⟨some root, [0]⟩]

def sampleHealth (now : Time) : Health where
  now := now
  root _ := sampleRootCid
  sign _ := [1]

def sampleCall (now : Time) (state : TimedWorld) : Except Error PublicationReceipt × TimedWorld :=
  (publish (samplePlatform sampleInputs) samplePublisher .background (samplePublication 3)).eval
    (healthy (samplePlatform sampleInputs) sampleContents (sampleHealth now)) state

/-- Nothing was published and no time was read. -/
def untouched : TimedWorld := ⟨initialWorld, 0⟩

def publishedOnce : TimedWorld :=
  (sampleCall (5000 * second) untouched).2

theorem sampleCalls :
    (sampleCall (5000 * second) untouched).1.isOk = true ∧ publishedOnce.clock ≤ 5600 * second ∧
      (publishedOnce.world.store.visible.lastRecord.all fun record =>
        decide (Fresh samplePublisher.policy record (5600 * second))) = true ∧
      (sampleCall (5660 * second) publishedOnce).1.isOk = false := by
  decide +kernel

theorem publishedOnce_ends : ∃ receipt,
    (publish (samplePlatform sampleInputs) samplePublisher .background
      (samplePublication 3)).Ends (timedAnswer (samplePlatform sampleInputs) sampleContents)
        untouched (.ok receipt) publishedOnce := by
  have follows : Follows (timedAnswer (samplePlatform sampleInputs) sampleContents)
      (healthy _ sampleContents (sampleHealth (5000 * second)))
        fun state => state.clock ≤ 5000 * second := healthy_follows
  have ended := follows.ends (publish (samplePlatform sampleInputs) samplePublisher .background
    (samplePublication 3)) (show untouched.clock ≤ _ by decide)
  obtain ⟨receipt, returned⟩ := isOk_eq_true.mp sampleCalls.1
  exact ⟨receipt, returned ▸ ended⟩

/-- A repetition after the record has become stale fails, although nothing else
was published and nothing else fails. -/
theorem stale_repetition_refused : ∃ env contents publisher publication started done
    receipt health error,
    (publish env publisher .background publication).Ends (timedAnswer env contents)
        started (.ok receipt) done ∧ done.clock ≤ health.now ∧
      ((publish env publisher .background publication).eval
        (healthy env contents health) done).1 = .error error := by
  obtain ⟨receipt, ended⟩ := publishedOnce_ends
  obtain ⟨_, early, _, refused⟩ := sampleCalls
  obtain ⟨error, failed⟩ := isOk_eq_false.mp refused
  exact ⟨_, _, _, _, _, _, receipt, sampleHealth (5660 * second), error, ended,
    le_trans early (by decide), failed⟩

theorem fresh_repetition_confirmed : ∃ receipt confirmed,
    (sampleCall (5600 * second) publishedOnce).1 = .ok confirmed ∧
      Confirms receipt confirmed := by
  obtain ⟨receipt, ended⟩ := publishedOnce_ends
  obtain ⟨_, early, fresh, _⟩ := sampleCalls
  refine ⟨receipt, ?_⟩
  apply (republished_iff_fresh ended .start (by decide) early).mpr
  intro _ last
  rw [last] at fresh
  exact of_decide_eq_true fresh

end SampleDevice

end Sovereignite.Ipfs
