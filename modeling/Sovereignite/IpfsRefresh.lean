import Sovereignite.IpfsReplay

/-!
# Refreshing and validating a prepared record

A prepared record that waits in the store is signed anew when the clock says
so, and is validated by the clock before it is published.  The two decisions
are complementary except for a clock that went back: neither an issue time
ahead of the clock nor one before that of the last record leads to a refresh,
and both are refused.  A record that was just prepared is published at the same
time of the clock exactly when the clock is not behind the last record and the
revisions of the store are not used up.
-/

namespace Sovereignite.Ipfs

open Effect Program
open Trust (Context)

variable {env : Platform} {publisher : Publisher}

section Times

structure RecordPolicy.Sound (policy : RecordPolicy) : Prop where
  validity : second ≤ policy.validity
  longest : policy.validity ≤ policy.maxValidity
  staleness : second ≤ policy.maxStaleness
  skew : 0 ≤ policy.clockSkew

theorem joinErrors_eq_none {texts : List String} : joinErrors texts = none ↔ texts = [] := by
  cases texts with
  | nil => simp [joinErrors]
  | cons _ rest =>
    cases rest with
    | nil | cons => simp [joinErrors]

theorem RecordPolicy.sound_of_validate {policy : RecordPolicy}
    (valid : policy.validate env = .ok ()) : policy.Sound := by
  unfold RecordPolicy.validate at valid
  split at valid
  · rename_i none
    rw [joinErrors_eq_none, List.map_eq_nil_iff, List.filter_eq_nil_iff] at none
    simp only [RecordPolicy.problems, List.forall_mem_append, List.forall_mem_map,
      (env.mapOrder _).2.mem_iff, List.forall_mem_cons, decide_eq_true_eq, bne_iff_ne,
      ne_eq, not_not, second] at none
    obtain ⟨⟨_, _, _, _, _, _⟩, _, _, _, _⟩ :=
      none
    unfold Duration at *
    constructor
    · change (1000000000 : Int) ≤ _
      omega
    · change (_ : Int) ≤ _
      omega
    · change (1000000000 : Int) ≤ _
      omega
    · change (0 : Int) ≤ _
      omega
  · cases valid

theorem wholeSecond_bounds (now : Time) :
    now - now % second ≤ now ∧ now < now - now % second + second := by
  simp only [second]
  unfold Time Duration at *
  omega

theorem timeSub_le {later earlier : Time} {bound : Duration} (near : later - earlier ≤ bound)
    (positive : 0 ≤ bound) : timeSub later earlier ≤ bound := by
  unfold timeSub
  unfold Time Duration at *
  omega

end Times

section Stored

variable {state : PublicationState} {record : SignedRecord} {rootCID text : String}

theorem verifyStored_eq_ok (verified : verifyStored env publisher record rootCID text = .ok ()) :
    ∃ root, canonicalRootCID env rootCID = .ok root ∧
      verifyRecordBindingAndSignature env record publisher.signer.name root
        publisher.signer.publicKey = .ok () := by
  simpa only [verifyStored, bind_eq_ok, mapError_eq_ok] using verified

theorem validateStateForSigner_parts
    (durable : validateStateForSigner env publisher state = .ok ()) :
    validatePublicationState env state = .ok () ∧
      ∀ pending, state.pending = some pending →
        verifyStored env publisher pending.record pending.rootCID
          "verify pending durable IPNS record" = .ok () := by
  simp only [validateStateForSigner, bind_eq_ok, mapError_eq_ok, Unique.exists_iff,
    PUnit.default_eq_unit] at durable
  obtain ⟨valid, _, verified⟩ := durable
  refine ⟨valid, fun pending found => ?_⟩
  simp only [found] at verified
  split at verified
  all_goals
    obtain ⟨_, _, verified⟩ := bind_eq_ok.mp verified
    exact verified

theorem unsignedPayload_set {payload : Bytes} (formed : record.unsignedPayload env = .ok payload) :
    record.name ≠ "" ∧ record.issuedAt ≠ 0 := by
  simp only [SignedRecord.unsignedPayload, validateCanonicalIPNSName, bind_eq_ok, reject_eq_ok,
    exists_const, canonicalWholeSecond] at formed
  grind

theorem verifyRecordBindingAndSignature_set {expectedName : String} {expectedRoot : Cid}
    {publicKey : Bytes}
    (verified : verifyRecordBindingAndSignature env record expectedName expectedRoot
      publicKey = .ok ()) : record.name ≠ "" ∧ record.issuedAt ≠ 0 := by
  simp only [verifyRecordBindingAndSignature, bind_eq_ok] at verified
  obtain ⟨_, _, _, _, _, _, _, _, _, formed, _⟩ := verified
  exact unsignedPayload_set formed

theorem lastRecord_issued {last : SignedRecord}
    (valid : validatePublicationState env state = .ok ())
    (found : state.lastRecord = some last) : last.issuedAt ≠ 0 := by
  have completed := (validatePublicationState_parts valid).1
  unfold validateCompleted at completed
  split at completed
  · simp [found] at completed
  · simp only [found, bind_eq_ok] at completed
    obtain ⟨_, _, _, _, _, _, _, formed, _⟩ := completed
    exact (unsignedPayload_set formed).2

/-- A time is not before the issue time of the last record. -/
def NotRolledBack (state : PublicationState) (issuedAt : Time) : Prop :=
  ∀ last, state.lastRecord = some last → last.issuedAt ≤ issuedAt

/-- The comparison with the last record, as the validation makes it. -/
theorem previousIssuedAt_iff {root : Cid} {now issuedAt : Time}
    (valid : validatePublicationState env state = .ok ()) :
    ((preparedValidation publisher state root now).previousIssuedAt ≠ 0 →
        (preparedValidation publisher state root now).previousIssuedAt ≤ issuedAt) ↔
      NotRolledBack state issuedAt := by
  unfold preparedValidation NotRolledBack
  cases found : state.lastRecord with
  | none => simp
  | some => simp [lastRecord_issued valid found]

end Stored

section Waiting

/-- Neither of two times of the clock went back behind the record: the last
record is not younger than it, and it is not ahead of the clock. -/
def InStep (policy : RecordPolicy) (state : PublicationState) (record : SignedRecord)
    (now : Time) : Prop :=
  NotRolledBack state record.issuedAt ∧ record.issuedAt ≤ now + policy.clockSkew

variable {state : PublicationState} {pending : PendingPublication} {root : Cid} {now : Time}

/-- The prepared record of a durable state is accepted at a time iff it is fresh
then and no clock went back behind it. -/
theorem validateSignedRecord_pending (checked : publisher.policy.validate env = .ok ())
    (durable : validateStateForSigner env publisher state = .ok ())
    (found : state.pending = some pending)
    (canonical : canonicalRootCID env pending.rootCID = .ok root) :
    validateSignedRecord env pending.record (preparedValidation publisher state root now) = .ok () ↔
      Fresh publisher.policy pending.record now ∧
        InStep publisher.policy state pending.record now := by
  obtain ⟨valid, verifies⟩ := validateStateForSigner_parts durable
  obtain ⟨_, again, verified⟩ := verifyStored_eq_ok (verifies pending found)
  rw [canonical] at again
  cases again
  have named : publisher.signer.name ≠ "" := by
    rw [← (verifyRecordBindingAndSignature_bound verified).1]
    exact (verifyRecordBindingAndSignature_set verified).1
  have above := ((ordered_of_valid valid).prepared pending found).2.1
  rw [validateSignedRecord_eq_ok, previousIssuedAt_iff valid, fresh_iff]
  constructor
  · rintro ⟨_, set, _, _, lifetime, _, ordered, skewed, notStale, notExpired⟩
    exact ⟨⟨set, notExpired, notStale, lifetime⟩, ordered, skewed⟩
  · rintro ⟨⟨set, notExpired, notStale, lifetime⟩, ordered, skewed⟩
    exact ⟨checked, set, named, verified, lifetime, above, ordered, skewed, notStale, notExpired⟩

end Waiting

section Preparing

variable {ctx : Context} {current next : PublicationState} {snapshot : PublicSnapshot}
variable {root : Cid} {now : Time}

theorem createSignedRecord_yields {sequence : UInt64} {record : SignedRecord}
    {history : List (Exchange signature)}
    (yields : (createSignedRecord env publisher ctx root sequence now).Yields history record) :
    now ≠ 0 ∧ publisher.policy.validate env = .ok () ∧ record.sequence = sequence ∧
      record.issuedAt = now - now % second ∧
      record.validUntil = now - now % second + publisher.policy.validity ∧
      verifyRecordBindingAndSignature env record publisher.signer.name root
        publisher.signer.publicKey = .ok () ∧
      timeSub record.validUntil record.issuedAt ≤ publisher.policy.maxValidity := by
  obtain ⟨_, _, _, _, _, yields⟩ := Yields.bind_inv yields
  obtain ⟨_, _, _, _, _, yields⟩ := Yields.bind_inv yields
  obtain ⟨_, _, _, _, _, yields⟩ := Yields.bind_inv yields
  obtain ⟨_, _, _, _, timed, yields⟩ := Yields.bind_inv yields
  obtain ⟨_, _, _, _, checked, yields⟩ := Yields.bind_inv yields
  obtain ⟨_, _, _, _, _, yields⟩ := Yields.bind_inv yields
  obtain ⟨_, _, _, _, _, yields⟩ := Yields.bind_inv yields
  obtain ⟨_, _, _, _, validated, yields⟩ := Yields.bind_inv yields
  cases yields
  have valid := mapError_eq_ok.mp (Yields.ofExcept_inv validated).2
  obtain ⟨_, _, _, verified, lifetime, _⟩ := validateSignedRecord_eq_ok.mp valid
  have set : now ≠ 0 := by simpa using (Yields.rejectIf_inv timed).2
  exact ⟨set, (Yields.ofExcept_inv checked).2, rfl, rfl, rfl, verified, lifetime⟩

/-- What is known of a state that is committed with a prepared record, and the
time it was prepared at. -/
structure Prepares (env : Platform) (publisher : Publisher) (current : PublicationState)
    (snapshot : PublicSnapshot) (root : Cid) (now : Time) (record : SignedRecord) : Prop where
  set : now ≠ 0
  checked : publisher.policy.validate env = .ok ()
  issued : record.issuedAt = now - now % second
  expires : record.validUntil = now - now % second + publisher.policy.validity
  lifetime : timeSub record.validUntil record.issuedAt ≤ publisher.policy.maxValidity
  verified : verifyRecordBindingAndSignature env record publisher.signer.name root
    publisher.signer.publicKey = .ok ()
  stored : validatePublicationState env
    (preparedState env publisher current snapshot root record) = .ok ()

/-- Every state that is committed was prepared at the only time that was read. -/
theorem prepareRecord_commits {history : List (Exchange signature)} {revision : UInt64}
    (makes : (prepareRecord env publisher ctx current snapshot root).Makes history
      (.commit revision next))
    (read : (⟨.now, now⟩ : Exchange signature) ∈ history) :
    ∃ record, next = preparedState env publisher current snapshot root record ∧
      Prepares env publisher current snapshot root now record := by
  obtain ⟨_, makes⟩ := Makes.rejectIf_inv makes
  obtain ⟨_, makes⟩ := Makes.rejectIf_inv makes
  rcases Makes.perform_inv makes with ⟨_, impossible⟩ | ⟨time, rest, rfl, creates⟩
  · cases impossible
  rcases Makes.bind_inv creates with impossible | ⟨record, signing, rest, rfl, created, stores⟩
  · exact ((createSignedRecord_signs publisher ctx root _ time).makes impossible).elim
  have signs := (createSignedRecord_signs publisher ctx root _ time).exchanged created
  obtain ⟨_, stored, commits⟩ := Makes.ofExcept_inv stores
  rcases Makes.perform_inv commits with ⟨rfl, committed⟩ | ⟨reply, rest, rfl, ends⟩
  · cases committed
    -- the clock was read once, before the record was signed
    have same : now = time := by
      simp only [List.append_nil, List.mem_cons] at read
      rcases read with here | signed
      · cases here
        rfl
      · exact (signs _ signed).elim
    subst same
    obtain ⟨set, checked, _, issued, expires, verified, lifetime⟩ :=
      createSignedRecord_yields created
    exact ⟨record, rfl, set, checked, issued, expires, lifetime, verified, stored⟩
  · obtain ⟨_, _, impossible⟩ := Makes.ofExcept_inv ends
    cases impossible

theorem prepareRecord_makes {payload made : Bytes}
    (live : ctx ≠ .absent) (version : root.version = 1)
    (sequences : current.highSequence ≠ maxUint64) (revisions : current.revision ≠ maxUint64)
    (positive : current.highSequence + 1 ≠ 0) (set : now ≠ 0)
    (checked : publisher.policy.validate env = .ok ())
    (formed : (unsignedRecord env publisher root (current.highSequence + 1)
      now).unsignedPayload env = .ok payload)
    (signed : env.verifySignature publisher.signer.publicKey payload made = .ok true)
    (validated : validateSignedRecord env
      { unsignedRecord env publisher root (current.highSequence + 1) now with
        signature := made }
      { expectedName := publisher.signer.name
        expectedRoot := root
        now := now - now % second
        policy := publisher.policy
        publicKey := publisher.signer.publicKey } = .ok ())
    (stored : validatePublicationState env (preparedState env publisher current snapshot
      root { unsignedRecord env publisher root (current.highSequence + 1) now with
        signature := made }) = .ok ()) :
    (prepareRecord env publisher ctx current snapshot root).Makes
      [⟨.now, now⟩, ⟨.contextError ctx, none⟩, ⟨.sign payload, .ok made⟩, ⟨.contextError ctx, none⟩]
      (.commit current.revision (preparedState env publisher current snapshot root
        { unsignedRecord env publisher root (current.highSequence + 1) now with
          signature := made })) := by
  have context : (checkContext ctx).Yields [⟨.contextError ctx, none⟩] () := by
    unfold checkContext
    apply Yields.later
    exact .ret ()
  have signing : (signContext env publisher ctx payload).Yields
      [⟨.contextError ctx, none⟩, ⟨.sign payload, .ok made⟩, ⟨.contextError ctx, none⟩] made := by
    apply Yields.bind context
    apply Yields.later
    apply Yields.bind (.ofExcept rfl)
    apply Yields.bind (.ofExcept (mapError_eq_ok.mpr signed))
    apply Yields.bind (.rejectIf rfl)
    exact Yields.bind context (.ret made)
  have creating : (createSignedRecord env publisher ctx root (current.highSequence + 1) now).Yields
      [⟨.contextError ctx, none⟩, ⟨.sign payload, .ok made⟩, ⟨.contextError ctx, none⟩]
      { unsignedRecord env publisher root (current.highSequence + 1) now with
        signature := made } := by
    apply Yields.bind (.rejectIf (by simpa using live))
    apply Yields.bind (.rejectIf (by simp [version]))
    apply Yields.bind (.rejectIf (by simpa using positive))
    apply Yields.bind (.rejectIf (by simpa using set))
    apply Yields.bind (.ofExcept checked)
    apply Yields.bind (.ofExcept formed)
    apply Yields.bind signing
    exact Yields.bind (.ofExcept (mapError_eq_ok.mpr validated)) (.ret _)
  apply Makes.bind (.rejectIf (by simpa using sequences))
  apply Makes.bind (.rejectIf (by simpa using revisions))
  apply Makes.later
  apply Makes.bind creating
  exact Makes.bind (.ofExcept stored) (.here _ _)

theorem Prepares.canonical {record : SignedRecord}
    (prepares : Prepares env publisher current snapshot root now record) :
    canonicalRootCID env (env.cidString root) = .ok root := by
  have checked := (validatePublicationState_parts prepares.stored).2
  have bound := (verifyRecordBindingAndSignature_bound prepares.verified).2
  simp only [validatePending, preparedState, bind_eq_ok, reject_eq_ok, exists_const,
    Bool.or_eq_false_iff, bne_eq_false_iff_eq, bound] at checked
  obtain ⟨_, _, canonical, ⟨⟨⟨matched, _⟩, _⟩, _⟩, _⟩ := checked
  cases matched
  exact canonical

theorem Prepares.valid_iff {record : SignedRecord}
    (prepares : Prepares env publisher current snapshot root now record) :
    validateSignedRecord env record (preparedValidation publisher
        (preparedState env publisher current snapshot root record) root now) = .ok () ↔
      NotRolledBack current (now - now % second) := by
  have sound := RecordPolicy.sound_of_validate prepares.checked
  obtain ⟨_, _⟩ := wholeSecond_bounds now
  obtain ⟨bound, _⟩ := verifyRecordBindingAndSignature_bound prepares.verified
  have named : publisher.signer.name ≠ "" := by
    rw [← bound]
    exact (verifyRecordBindingAndSignature_set prepares.verified).1
  have above := ((ordered_of_valid prepares.stored).prepared _ rfl).2.1
  have rolled := @previousIssuedAt_iff _ publisher _ root now record.issuedAt prepares.stored
  have notStale : timeSub now record.issuedAt ≤ publisher.policy.maxStaleness := by
    have atLeast := sound.staleness
    rw [prepares.issued]
    simp only [second] at *
    apply timeSub_le
    · unfold Time Duration at *
      omega
    · unfold Duration at *
      omega
  have notExpired : now < record.validUntil := by
    have atLeast := sound.validity
    rw [prepares.expires]
    simp only [second] at *
    unfold Time Duration at *
    omega
  have skewed : record.issuedAt ≤ now + publisher.policy.clockSkew := by
    have notNegative := sound.skew
    rw [prepares.issued]
    unfold Time Duration at *
    omega
  rw [validateSignedRecord_eq_ok, rolled, prepares.issued]
  constructor
  · rintro ⟨_, _, _, _, _, _, ordered, _⟩
    exact ordered
  · intro ordered
    rw [← prepares.issued]
    exact ⟨prepares.checked, prepares.set, named, prepares.verified, prepares.lifetime, above,
      by rw [prepares.issued]; exact ordered, skewed, fun _ => notStale, notExpired⟩

end Preparing

section Publishing

variable {prepared : PublicationState} {pending : PendingPublication}
variable {snapshot : PublicSnapshot} {now : Time}

/-- The prepared record of a state is published when the clock gives this time. -/
def PublishedAt (env : Platform) (publisher : Publisher) (prepared : PublicationState)
    (snapshot : PublicSnapshot) (now : Time) : Prop :=
  ∃ pending, prepared.pending = some pending ∧
    (publishPrepared env publisher prepared snapshot).Makes [⟨.now, now⟩]
      (.publishSignedRecord pending)

theorem publishedAt_iff (found : prepared.pending = some pending) :
    PublishedAt env publisher prepared snapshot now ↔
      pendingPublicationMatches pending snapshot = true ∧ prepared.revision ≠ maxUint64 ∧
        ∃ root, canonicalRootCID env pending.rootCID = .ok root ∧
          validateSignedRecord env pending.record
            (preparedValidation publisher prepared root now) = .ok () := by
  constructor
  · rintro ⟨_, _, makes⟩
    unfold publishPrepared at makes
    rw [found] at makes
    obtain ⟨matched, makes⟩ := Makes.rejectIf_inv makes
    obtain ⟨room, makes⟩ := Makes.rejectIf_inv makes
    obtain ⟨root, canonical, makes⟩ := Makes.ofExcept_inv makes
    rcases Makes.perform_inv makes with ⟨impossible, _⟩ | ⟨time, rest, same, validates⟩
    · cases impossible
    · cases same
      obtain ⟨_, validated, _⟩ := Makes.ofExcept_inv validates
      exact ⟨by simpa using matched, by simpa using room, root, canonical,
        mapError_eq_ok.mp validated⟩
  · rintro ⟨matched, room, _, canonical, validated⟩
    refine ⟨pending, found, ?_⟩
    unfold publishPrepared
    rw [found]
    apply Makes.bind (.rejectIf (by simp [matched]))
    apply Makes.bind (.rejectIf (by simp [room]))
    apply Makes.bind (.ofExcept canonical)
    apply Makes.later
    exact Makes.bind (.ofExcept (mapError_eq_ok.mpr validated)) (.here _ _)

end Publishing

/-- The prepared record of a durable state is refreshed or accepted at a time of
the clock iff it is refreshed or no clock went back behind it; and a record
that is committed as prepared is published at the same time of the clock iff
the clock is not behind the last record and a revision is left. -/
theorem refresh_and_validation_agree_iff (env : Platform) (publisher : Publisher)
    (checked : publisher.policy.validate env = .ok ()) :
    (∀ state pending root now, validateStateForSigner env publisher state = .ok () →
      state.pending = some pending →
      canonicalRootCID env pending.rootCID = .ok root → now ≠ 0 →
      ((recordNeedsRefresh publisher.policy pending.record now = true ∨
          validateSignedRecord env pending.record
            (preparedValidation publisher state root now) = .ok ()) ↔
        recordNeedsRefresh publisher.policy pending.record now = true ∨
          InStep publisher.policy state pending.record now)) ∧
      ∀ ctx current snapshot root now history revision next,
        (prepareRecord env publisher ctx current snapshot root).Makes history
          (.commit revision next) →
        (⟨.now, now⟩ : Exchange signature) ∈ history →
        (PublishedAt env publisher next snapshot now ↔
          NotRolledBack current (now - now % second) ∧ current.revision + 1 ≠ maxUint64) := by
  constructor
  · intro _ pending root now durable found canonical set
    rw [validateSignedRecord_pending checked durable found canonical]
    cases refresh : recordNeedsRefresh publisher.policy pending.record now with
    | true => simp
    | false => simp [Fresh, set, refresh]
  · intro _ _ _ root _ _ _ _ makes read
    obtain ⟨_, rfl, prepares⟩ := prepareRecord_commits makes read
    rw [publishedAt_iff rfl]
    constructor
    · rintro ⟨_, room, _, canonical, validated⟩
      rw [prepares.canonical] at canonical
      cases canonical
      exact ⟨prepares.valid_iff.mp validated, room⟩
    · rintro ⟨ordered, room⟩
      refine ⟨?_, room, root, prepares.canonical, prepares.valid_iff.mpr ordered⟩
      simp [pendingPublicationMatches]

section SteppingBack

open Trust (sampleRoot samplePlatform)

def waitingSnapshot : PublicSnapshot where
  publicationID := String.ofList (List.replicate 64 'a')
  digest := String.ofList (List.replicate 64 'a')
  ipnsName := samplePublisher.signer.name
  stateRevision := 1
  createdAt := 100
  files := []

def waitingRecord (now : Time) : SignedRecord :=
  { unsignedRecord (samplePlatform []) samplePublisher sampleRootCid 1 now with
    signature := [1] }

def waitingState (now : Time) : PublicationState :=
  preparedState (samplePlatform []) samplePublisher emptyPublicationState waitingSnapshot
    sampleRootCid (waitingRecord now)

def waitingPending (now : Time) : PendingPublication where
  publicationID := waitingSnapshot.publicationID
  digest := waitingSnapshot.digest
  trustRevision := waitingSnapshot.stateRevision
  rootCID := (samplePlatform []).cidString sampleRootCid
  record := waitingRecord now

theorem waitingState_checked :
    (samplePublisher.policy.validate (samplePlatform [])).isOk = true ∧
      (validateStateForSigner (samplePlatform []) samplePublisher
        (waitingState (5000 * second))).isOk = true ∧
      canonicalRootCID (samplePlatform []) (waitingPending (5000 * second)).rootCID =
        .ok sampleRootCid ∧
      recordNeedsRefresh samplePublisher.policy (waitingRecord (5000 * second))
        (4000 * second) = false ∧
      (validateSignedRecord (samplePlatform []) (waitingRecord (5000 * second))
        (preparedValidation samplePublisher (waitingState (5000 * second)) sampleRootCid
          (4000 * second))).isOk = false := by
  decide +kernel

/-- A durable prepared record that is neither refreshed nor accepted, because the
clock went back behind its issue time. -/
theorem record_ahead_of_clock_blocked :
    ∃ env publisher state pending root now, publisher.policy.validate env = .ok () ∧
      validateStateForSigner env publisher state = .ok () ∧
      state.pending = some pending ∧
      canonicalRootCID env pending.rootCID = .ok root ∧ now ≠ 0 ∧
      recordNeedsRefresh publisher.policy pending.record now = false ∧
      validateSignedRecord env pending.record
        (preparedValidation publisher state root now) ≠ .ok () := by
  obtain ⟨checked, durable, canonical, waits, refused⟩ := waitingState_checked
  obtain ⟨⟨⟩, valid⟩ := isOk_eq_true.mp checked
  obtain ⟨⟨⟩, stored⟩ := isOk_eq_true.mp durable
  refine ⟨samplePlatform [], samplePublisher, waitingState (5000 * second),
    waitingPending (5000 * second), sampleRootCid, 4000 * second, valid, stored, rfl, canonical,
    by decide, waits, ?_⟩
  obtain ⟨_, failed⟩ := isOk_eq_false.mp refused
  intro accepted
  cases failed.symm.trans accepted

theorem waitingRecord_created :
    ((unsignedRecord (samplePlatform []) samplePublisher sampleRootCid 1
        (5000 * second)).unsignedPayload (samplePlatform [])).isOk = true ∧
      (validateSignedRecord (samplePlatform []) (waitingRecord (5000 * second))
        { expectedName := samplePublisher.signer.name
          expectedRoot := sampleRootCid
          now := 5000 * second - 5000 * second % second
          policy := samplePublisher.policy
          publicKey := samplePublisher.signer.publicKey }).isOk = true ∧
      (validatePublicationState (samplePlatform []) (waitingState (5000 * second))).isOk =
        true := by
  decide +kernel

/-- At the time of its issue the first record is accepted from the store and is
published right after it was prepared. -/
theorem first_record_published :
    (recordNeedsRefresh samplePublisher.policy (waitingRecord (5000 * second))
          (5000 * second) = true ∨
        validateSignedRecord (samplePlatform []) (waitingRecord (5000 * second))
          (preparedValidation samplePublisher (waitingState (5000 * second)) sampleRootCid
            (5000 * second)) = .ok ()) ∧
      PublishedAt (samplePlatform []) samplePublisher (waitingState (5000 * second))
        waitingSnapshot (5000 * second) := by
  obtain ⟨checked, durable, canonical, _, _⟩ := waitingState_checked
  obtain ⟨formed, validated, stored⟩ := waitingRecord_created
  obtain ⟨⟨⟩, valid⟩ := isOk_eq_true.mp checked
  obtain ⟨⟨⟩, kept⟩ := isOk_eq_true.mp durable
  obtain ⟨_, formed⟩ := isOk_eq_true.mp formed
  obtain ⟨⟨⟩, validated⟩ := isOk_eq_true.mp validated
  obtain ⟨⟨⟩, stored⟩ := isOk_eq_true.mp stored
  obtain ⟨waiting, preparing⟩ :=
    refresh_and_validation_agree_iff (samplePlatform []) samplePublisher valid
  constructor
  · apply (waiting _ (waitingPending (5000 * second)) _ _ kept rfl canonical (by decide)).mpr
    right
    refine ⟨?_, by decide⟩
    rintro last ⟨⟩
  · have commits : (prepareRecord (samplePlatform []) samplePublisher .background
        emptyPublicationState waitingSnapshot sampleRootCid).Makes _
        (.commit _ (waitingState (5000 * second))) :=
      prepareRecord_makes (by decide) rfl (by decide) (by decide) (by decide) (by decide)
        valid formed rfl validated stored
    apply (preparing _ _ _ _ _ _ _ _ commits List.mem_cons_self).mpr
    refine ⟨?_, by decide⟩
    rintro _ ⟨⟩

end SteppingBack

end Sovereignite.Ipfs
