import Sovereignite.TrustConsistency
import Sovereignite.TrustExecution
import Sovereignite.TrustRefinement

/-!
# The partition of the serials

Every serial a document has ever handed out is in exactly one of its
collections.  A reservation adds one serial; every other transition moves
serials between collections or leaves them alone.
-/

namespace Sovereignite.Trust

open Effect KeyedRecords
open KeyManager (CertificateRequest)

section Serials

/-- How often a text is the serial of a stored CA certificate. -/
def authorityCount (env : Platform) (encoded : Bytes) (serial : String) : Nat :=
  (activeCASerials env { emptySnapshot with activeCACertificate := encoded }).count serial

theorem count_serials (env : Platform) (snapshot : Snapshot) (serial : String) :
    (serials env snapshot).count serial =
      authorityCount env snapshot.activeCACertificate serial +
        (collected certificateSerial snapshot.certificates).count serial +
        (collected pendingSerial snapshot.pendingCertificates).count serial +
        (collected burnedSerial snapshot.burnedSerials).count serial +
        (collected crossSerial snapshot.federations).count serial +
        (collected replacedSerial snapshot.revocations).count serial := by
  simp only [serials, List.count_append]
  rfl

end Serials

/-- The serials are distinct, and they are the numbers below the next one. -/
structure SerialPartition (env : Platform) (snapshot : Snapshot) : Prop where
  distinct : (serials env snapshot).Nodup
  exactly : ∀ serial, serial ∈ serials env snapshot ↔
    ∃ number, 1 ≤ number ∧ number < snapshot.nextSerial.toNat ∧ serial = number.repr

/-- The texts of the numbers from one up to a bound. -/
def serialsBelow (bound : Nat) : List String :=
  (List.range' 1 (bound - 1)).map Nat.repr

theorem serialsBelow_succ {bound : Nat} (positive : 1 ≤ bound) :
    (serialsBelow (bound + 1)).Perm (bound.repr :: serialsBelow bound) := by
  obtain ⟨number, rfl⟩ : ∃ number, bound = number + 1 := ⟨bound - 1, by omega⟩
  have last : serialsBelow (number + 1 + 1) = serialsBelow (number + 1) ++ [(number + 1).repr] := by
    simp [serialsBelow, List.range'_1_concat, Nat.add_comm]
  rw [last]
  exact List.perm_append_singleton _ _

theorem nodup_serialsBelow (bound : Nat) : (serialsBelow bound).Nodup := by
  refine List.Nodup.map ?_ List.nodup_range'
  intro _ _ equal
  have read := congrArg setString equal
  rw [setString_repr, setString_repr] at read
  simpa using read

theorem mem_serialsBelow {bound : Nat} {serial : String} :
    serial ∈ serialsBelow bound ↔ ∃ number, 1 ≤ number ∧ number < bound ∧ serial = number.repr := by
  simp only [serialsBelow, List.mem_map, List.mem_range'_1]
  constructor
  · rintro ⟨number, ⟨positive, below⟩, rfl⟩
    exact ⟨number, positive, by omega, rfl⟩
  · rintro ⟨number, positive, _, rfl⟩
    exact ⟨number, ⟨positive, by omega⟩, rfl⟩

variable {env : Platform}

theorem serialPartition_of_perm {snapshot : Snapshot}
    (all : (serials env snapshot).Perm (serialsBelow snapshot.nextSerial.toNat)) :
    SerialPartition env snapshot :=
  ⟨all.nodup_iff.mpr (nodup_serialsBelow _), fun _ => all.mem_iff.trans mem_serialsBelow⟩

section Moves

variable {snapshot : Snapshot} {id : String} {pending : PendingCertificate}

theorem lookup_burned_of_pending (distinct : (serials env snapshot).Nodup)
    (found : snapshot.pendingCertificates.lookup id = some pending) :
    snapshot.burnedSerials.lookup pending.serial = none := by
  rw [Option.eq_none_iff_forall_ne_some]
  intro time burned
  have reserved : 0 < (collected pendingSerial snapshot.pendingCertificates).count pending.serial :=
    List.count_pos_iff.mpr (mem_collected.mpr ⟨id, pending, found, rfl⟩)
  have used : 0 < (collected burnedSerial snapshot.burnedSerials).count pending.serial :=
    List.count_pos_iff.mpr (mem_collected.mpr ⟨pending.serial, time, burned, rfl⟩)
  have once := List.nodup_iff_count_le_one.mp distinct pending.serial
  rw [count_serials] at once
  omega

/-- Releasing a reservation takes its serial away. -/
theorem count_pending_of_erase
    (found : snapshot.pendingCertificates.lookup id = some pending) (serial : String) :
    (collected pendingSerial snapshot.pendingCertificates).count serial =
      [pending.serial].count serial +
        (collected pendingSerial (snapshot.pendingCertificates.erase id)).count serial := by
  rw [(collected_erase found).count_eq serial, List.count_append]
  rfl

theorem serials_burn (distinct : (serials env snapshot).Nodup)
    (found : snapshot.pendingCertificates.lookup id = some pending) (now : Time) :
    (serials env
      (burnSerial { snapshot with pendingCertificates := snapshot.pendingCertificates.erase id }
        pending.serial now)).Perm (serials env snapshot) := by
  have burned : collected burnedSerial (snapshot.burnedSerials.insert pending.serial now) =
        [pending.serial] ++ collected burnedSerial snapshot.burnedSerials :=
    collected_insert_new (lookup_burned_of_pending distinct found)
  rw [List.perm_iff_count]
  intro serial
  have released := count_pending_of_erase found serial
  simp only [count_serials, burnSerial, burned, List.count_append]
  omega

/-- What burning one reservation keeps, burning all of them keeps. -/
theorem burnAllPending_induct {property : Snapshot → Prop} {base : Snapshot} {now : Time}
    (burned : ∀ document (entry : Σ _ : String, PendingCertificate), property document →
      document.pendingCertificates.lookup entry.1 = some entry.2 →
        property (burnEntry now document entry))
    (initially : property (nextRevision base)) : property (burnAllPending base now) :=
  foldl_visits_all burned (fun _ _ _ different => AList.lookup_erase_ne different) initially

theorem serials_burnAllPending {base : Snapshot}
    (distinct : (serials env base).Nodup) (now : Time) :
    (serials env (burnAllPending base now)).Perm (serials env base) := by
  let Moved (document : Snapshot) : Prop := (serials env document).Perm (serials env base)
  have burned : ∀ document (entry : Σ _ : String, PendingCertificate), Moved document →
      document.pendingCertificates.lookup entry.1 = some entry.2 →
        Moved (burnEntry now document entry) := by
    intro document entry moved found
    exact (serials_burn (moved.nodup_iff.mpr distinct) found now).trans moved
  have initially : Moved (nextRevision base) := List.Perm.refl _
  exact burnAllPending_induct burned initially

variable {cert : CertificateRecord}

theorem serials_revokeCertificateRecord (found : snapshot.certificates.lookup id = some cert)
    (apart : ∀ revocation, snapshot.revocations.lookup id = some revocation →
      revocation.kind ≠ .cross) (now : Time) :
    (serials env (revokeCertificateRecord snapshot id cert now)).Perm (serials env snapshot) := by
  have revoked : (collected certificateSerial (snapshot.certificates.insert id
      { cert with status := .revoked, revokedAt := now })).Perm
        (collected certificateSerial snapshot.certificates) :=
    collected_replace found rfl
  have entered : (collected replacedSerial (snapshot.revocations.insert id {
      certificateID := id
      serial := cert.serial
      kind := .mtls
      certificateDER := cert.der
      revokedAt := now })).Perm (collected replacedSerial snapshot.revocations) :=
    collected_insert_unread rfl fun stored present => if_neg (apart stored present)
  rw [List.perm_iff_count]
  intro serial
  have sameCertificates := revoked.count_eq serial
  have sameRevocations := entered.count_eq serial
  simp only [count_serials, revokeCertificateRecord]
  omega

/-- No replaced cross-certificate is listed as a certificate. -/
def CrossApart (snapshot : Snapshot) : Prop :=
  ∀ id revocation, snapshot.revocations.lookup id = some revocation →
    revocation.kind = .cross → snapshot.certificates.lookup id = none

theorem Consistent.crossApart (consistent : Consistent snapshot) : CrossApart snapshot := by
  intro id revocation found cross
  cases consistent.revocations id revocation found with
  | leaf _ kind =>
    rw [kind] at cross
    cases cross
  | replaced _ absent => exact absent

theorem Consistent.unlisted {domain : String} {existing : FederationRecord}
    (consistent : Consistent snapshot)
    (present : snapshot.federations.lookup domain = some existing)
    (uncertified : snapshot.certificates.lookup existing.crossCertificateID = none) :
    snapshot.revocations.lookup existing.crossCertificateID = none := by
  rw [Option.eq_none_iff_forall_ne_some]
  intro _ listed
  cases consistent.revocations _ _ listed with
  | leaf _ _ found =>
    rw [uncertified] at found
    cases found
  | replaced _ _ unused => exact unused _ _ present rfl

theorem CrossApart.kind {revocation : RevocationRecord} (apart : CrossApart snapshot)
    (found : snapshot.certificates.lookup id = some cert)
    (listed : snapshot.revocations.lookup id = some revocation) : revocation.kind ≠ .cross := by
  intro cross
  rw [apart id revocation listed cross] at found
  cases found

theorem CrossApart.revokeCertificateRecord (apart : CrossApart snapshot) (now : Time) :
    CrossApart (revokeCertificateRecord snapshot id cert now) := by
  intro other revocation listed cross
  rcases lookup_insert_cases listed with ⟨_, rfl⟩ | ⟨different, before⟩
  · cases cross
  · exact (AList.lookup_insert_ne different).trans (apart other revocation before cross)

theorem serials_revokeRelationship {base : Snapshot} (apart : CrossApart base)
    (relationshipID : String) (relationship : RelationshipRecord) (now : Time) :
    (serials env (revokeRelationship base relationshipID relationship now)).Perm
      (serials env base) := by
  let Unmoved (document : Snapshot) : Prop :=
    (serials env document).Perm (serials env base) ∧ CrossApart document
  have revoked : ∀ document (entry : Σ _ : String, CertificateRecord), Unmoved document →
      document.certificates.lookup entry.1 = some entry.2 →
        Unmoved (revokeBoundCertificate relationshipID now document entry) := by
    intro document entry unmoved found
    unfold revokeBoundCertificate
    split
    · exact unmoved
    · exact ⟨(serials_revokeCertificateRecord found
          (fun revocation listed => unmoved.2.kind found listed) now).trans unmoved.1,
        unmoved.2.revokeCertificateRecord now⟩
  have others : ∀ document (entry : Σ _ : String, CertificateRecord) key, key ≠ entry.1 →
      (revokeBoundCertificate relationshipID now document entry).certificates.lookup key =
        document.certificates.lookup key := by
    intro _ _ _ different
    unfold revokeBoundCertificate
    split
    · rfl
    · exact AList.lookup_insert_ne different
  let start : Snapshot := { nextRevision base with
    relationships := (nextRevision base).relationships.insert relationshipID { relationship with
        phase := .revoked
        generation := relationship.generation + 1
        updatedAt := now } }
  have initially : Unmoved start := ⟨List.Perm.refl _, apart⟩
  have completed : Unmoved
      (start.certificates.entries.foldl (revokeBoundCertificate relationshipID now) start) :=
    foldl_visits_all revoked others initially
  exact completed.1

end Moves

section Transitions

/-- How a transition treats the serials: it keeps them, or it hands out the
next one. -/
inductive SerialsAfter (env : Platform) (base next : Snapshot) : Prop where
  | kept (counter : next.nextSerial = base.nextSerial)
      (moved : (serials env next).Perm (serials env base))
  | issued (room : base.nextSerial ≠ maxUint64) (counter : next.nextSerial = base.nextSerial + 1)
      (added : (serials env next).Perm (base.nextSerial.toNat.repr :: serials env base))

variable {base next applied : Snapshot} {id : String} {pending : PendingCertificate}
variable {now : Time}

/-- Making an issued certificate the active CA moves its serial there. -/
theorem serials_activateCA {identity : DeviceIdentity} {encoded entered : Bytes}
    {cert : Certificate} (found : base.pendingCertificates.lookup id = some pending)
    (parsed : env.parseCertificate encoded = .ok cert)
    (serial : serialText cert = pending.serial) (nonempty : encoded ≠ [])
    (activated : activateCA env identity encoded (releasePending base id) now =
      .ok (applied, entered)) : (serials env applied).Perm (serials env base) := by
  obtain ⟨vacant, _, rfl⟩ := activateCA_eq_ok activated
  have before : base.activeCACertificate = [] := vacant
  have authority : ∀ text, authorityCount env encoded text = [pending.serial].count text := by
    intro text
    have holds : encoded.isEmpty = false := by simpa using nonempty
    simp [authorityCount, activeCASerials, parsedCertificate, holds, parsed, serial,
      Except.toOption]
  rw [List.perm_iff_count]
  intro text
  have released := count_pending_of_erase found text
  have none : authorityCount env [] text = 0 := rfl
  simp only [count_serials, releasePending, nextRevision, before, none, authority]
  omega

theorem serials_activateCertificate {record : CertificateRecord} {entered : Bytes}
    (found : base.pendingCertificates.lookup id = some pending)
    (serial : record.serial = pending.serial)
    (activated : activateCertificate record (releasePending base id) now =
      .ok (applied, entered)) : (serials env applied).Perm (serials env base) := by
  obtain ⟨absent, rfl⟩ := activateCertificate_eq_ok activated
  have added : collected certificateSerial
      (base.certificates.insert record.id { record with issuedAt := now }) =
        [pending.serial] ++ collected certificateSerial base.certificates := by
    rw [← serial]
    exact collected_insert_new absent
  rw [List.perm_iff_count]
  intro text
  have released := count_pending_of_erase found text
  simp only [count_serials, releasePending, nextRevision, added, List.count_append]
  omega

/-- Entering a federation edge moves the serial of its cross-certificate there,
and the serial of a replaced cross-certificate to the revocations. -/
theorem serials_activateFederation {record entered : FederationRecord}
    (found : base.pendingCertificates.lookup id = some pending)
    (serial : record.crossCertificateSerial = pending.serial)
    (activated : activateFederation record (releasePending base id) now = .ok (applied, entered))
    (consistent : Consistent base) (apart : CrossApart applied) :
    (serials env applied).Perm (serials env base) := by
  cases activateFederation_edge activated with
  | fresh absent =>
    have added : collected crossSerial (base.federations.insert record.targetDomain
          { record with updatedAt := now }) =
          [pending.serial] ++ collected crossSerial base.federations := by
      rw [← serial]
      exact collected_insert_new absent
    rw [List.perm_iff_count]
    intro text
    have released := count_pending_of_erase found text
    simp only [count_serials, enterFederation, releasePending, nextRevision, added,
      List.count_append]
    omega
  | renewed existing present =>
    have uncertified : base.certificates.lookup existing.crossCertificateID = none :=
      apart _ (replacedCrossCertificate existing now) (AList.lookup_insert _) rfl
    have unlisted := consistent.unlisted present uncertified
    have exchanged : collected crossSerial (base.federations.insert record.targetDomain
          { record with updatedAt := now, establishedAt := existing.establishedAt }) =
          [pending.serial] ++
            collected crossSerial (base.federations.erase record.targetDomain) := by
      rw [← serial]
      exact collected_insert
    have before : (collected crossSerial base.federations).Perm
        ([existing.crossCertificateSerial] ++
          collected crossSerial (base.federations.erase record.targetDomain)) :=
      collected_erase present
    have retired : collected replacedSerial (base.revocations.insert existing.crossCertificateID
          (replacedCrossCertificate existing now)) =
          [existing.crossCertificateSerial] ++ collected replacedSerial base.revocations :=
      collected_insert_new unlisted
    rw [List.perm_iff_count]
    intro text
    have released := count_pending_of_erase found text
    have current := before.count_eq text
    simp only [List.count_append] at current
    simp only [count_serials, enterFederation, releasePending, nextRevision, exchanged,
      retired, List.count_append]
    omega

theorem Attached.serials_eq {candidate : Snapshot} (attached : Attached env candidate now next) :
    serials env next = serials env candidate := by
  rw [attached.eq]
  rfl

theorem Transition.serials_after {label : CommitLabel}
    (transition : Transition env label base next) (consistent : Consistent base)
    (consistentAfter : Consistent next) (distinct : (serials env base).Nodup) :
    SerialsAfter env base next := by
  cases transition with
  | bindIdentity => exact .kept rfl (List.Perm.refl _)
  | recover now _ _ attached =>
    rw [attached.eq]
    refine .kept ?_ (serials_burnAllPending distinct now)
    rw [burnAllPending_eq]
    rfl
  | adopt _ _ _ _ _ applied attached =>
    rw [attached.eq, (applyAdoption_eq_ok applied).1]
    exact .kept rfl (List.Perm.refl _)
  | revokeTrust _ id relationship now _ _ _ attached =>
    rw [attached.eq]
    refine .kept ?_ (serials_revokeRelationship consistent.crossApart id relationship now)
    rw [revokeRelationship_eq]
    rfl
  | reserve grant operation relationshipID remoteTrustDomain spiffeID key now _ settled available =>
    let pending := pendingCertificate env base grant operation relationshipID
      remoteTrustDomain spiffeID key now
    have added : collected pendingSerial (base.pendingCertificates.insert pending.id pending) =
          [base.nextSerial.toNat.repr] ++ collected pendingSerial base.pendingCertificates :=
      collected_insert_new (lookup_none_of_size settled)
    refine .issued available rfl ?_
    rw [List.perm_iff_count]
    intro text
    rw [← List.singleton_append, List.count_append]
    simp only [count_serials, reserveSerial, recordAppliedGrant, nextRevision]
    rw [added, List.count_append]
    omega
  | finalizeCA _ _ identity encoded _ _ now found _ parsed serial activated attached =>
    have fields := (activateCA_eq_ok activated).2.2
    have bundled : next.bundles.lookup identity.trustDomain =
        some ⟨identity.trustDomain, 1, [encoded], now⟩ := by
      rw [attached.eq, fields]
      exact AList.lookup_insert _
    have nonempty : encoded ≠ [] := consistentAfter.bundles _ _ bundled encoded List.mem_cons_self
    have moved : (serials env next).Perm (serials env base) := by
      rw [attached.serials_eq]
      exact serials_activateCA found parsed serial nonempty activated
    refine .kept ?_ moved
    rw [attached.eq, fields]
    rfl
  | finalizeLeaf _ _ _ _ _ found _ serial _ activated attached =>
    have moved : (serials env next).Perm (serials env base) := by
      rw [attached.serials_eq]
      exact serials_activateCertificate found serial activated
    refine .kept ?_ moved
    rw [attached.eq, (activateCertificate_eq_ok activated).2]
    rfl
  | finalizeCross _ _ _ _ _ found _ serial activated attached =>
    have apart := consistentAfter.crossApart
    rw [attached.eq] at apart
    have moved : (serials env next).Perm (serials env base) := by
      rw [attached.serials_eq]
      exact serials_activateFederation found serial activated consistent apart
    refine .kept ?_ moved
    rw [attached.eq]
    cases activateFederation_edge activated with
    | fresh | renewed => rfl
  | burn _ _ now found attached =>
    rw [attached.eq]
    exact .kept rfl (serials_burn distinct found now)
  | revokeCertificate _ _ _ now _ found _ attached =>
    rw [attached.eq]
    exact .kept rfl (serials_revokeCertificateRecord found
      (fun revocation listed => consistent.crossApart.kind found listed) now)
  | drain => exact .kept rfl (List.Perm.refl _)

end Transitions

section Ledger

variable {log : List Commit}

theorem Recorded.serials_perm (recorded : Recorded env log) :
    1 ≤ (durable log).nextSerial.toNat ∧
      (serials env (durable log)).Perm (serialsBelow (durable log).nextSerial.toNat) := by
  induction recorded with
  | nil => exact ⟨le_refl 1, List.Perm.refl []⟩
  | cons newest recorded accepted transition ih =>
    obtain ⟨positive, all⟩ := ih
    have consistentAfter := (Recorded.cons newest recorded accepted transition).consistent
    have distinct := (serialPartition_of_perm all).distinct
    rw [durable_cons]
    cases transition.serials_after recorded.consistent consistentAfter distinct with
    | kept counter moved =>
      rw [counter]
      exact ⟨positive, moved.trans all⟩
    | issued room counter added =>
      rw [counter, toNat_succ room]
      refine ⟨Nat.le_add_left 1 _, added.trans ?_⟩
      exact (List.Perm.cons _ all).trans (serialsBelow_succ positive).symm

theorem Recorded.nextSerial_mono {older : List Commit} (recorded : Recorded env log)
    (earlier : older <:+ log) :
    (durable older).nextSerial.toNat ≤ (durable log).nextSerial.toNat := by
  induction recorded with
  | nil => rw [List.suffix_nil.mp earlier]
  | cons newest recorded accepted transition ih =>
    rcases List.suffix_cons_iff.mp earlier with equal | within
    · rw [equal]
    · have consistentAfter := (Recorded.cons newest recorded accepted transition).consistent
      have distinct := (serialPartition_of_perm recorded.serials_perm.2).distinct
      have before := ih within
      rw [durable_cons]
      cases transition.serials_after recorded.consistent consistentAfter distinct with
      | kept counter =>
        rw [counter]
        exact before
      | issued room counter =>
        rw [counter, toNat_succ room]
        omega

theorem Transition.nextSerial_of_reserve {base next : Snapshot} {operation : Operation}
    {grant : AuthorizationGrant}
    (transition : Transition env (.reserve operation grant) base next) :
    next.nextSerial.toNat = base.nextSerial.toNat + 1 := by
  cases transition with
  | reserve _ _ _ _ _ _ _ _ _ available => exact toNat_succ available

theorem Recorded.nextSerial_after_reserve {commit : Commit} {older : List Commit}
    {operation : Operation} {grant : AuthorizationGrant}
    (recorded : Recorded env log) (within : commit :: older <:+ log)
    (label : commit.label = .reserve operation grant) :
    (durable older).nextSerial.toNat + 1 ≤ (durable log).nextSerial.toNat := by
  have grown := recorded.nextSerial_mono within
  cases recorded.suffix within with
  | cons _ _ _ transition =>
    rw [label] at transition
    rw [durable_cons, transition.nextSerial_of_reserve] at grown
    exact grown

theorem Recorded.reserve_unique {first second : Commit} {before after : List Commit}
    {firstOperation secondOperation : Operation}
    {firstGrant secondGrant : AuthorizationGrant} (recorded : Recorded env log)
    (firstWithin : first :: before <:+ log) (secondWithin : second :: after <:+ log)
    (firstLabel : first.label = .reserve firstOperation firstGrant)
    (secondLabel : second.label = .reserve secondOperation secondGrant)
    (same : (durable before).nextSerial = (durable after).nextSerial) : first = second := by
  rcases List.suffix_or_suffix_of_suffix firstWithin secondWithin with shorter | longer
  · rcases List.suffix_cons_iff.mp shorter with equal | within
    · exact (List.cons.inj equal).1
    · have grown := (recorded.suffix secondWithin).tail.nextSerial_after_reserve within firstLabel
      rw [same] at grown
      omega
  · rcases List.suffix_cons_iff.mp longer with equal | within
    · exact (List.cons.inj equal).1.symm
    · have grown := (recorded.suffix firstWithin).tail.nextSerial_after_reserve within secondLabel
      rw [same] at grown
      omega

end Ledger

theorem Sound.reserved_unique {world : World} {first second : Caller} {serial : Int}
    (sound : Sound env world) (firstReserved : Reserved first serial world)
    (secondReserved : Reserved second serial world) : first = second := by
  obtain ⟨_, _, _, _, ⟨before, firstWithin, rfl⟩, _⟩ := firstReserved
  obtain ⟨_, _, _, _, ⟨after, secondWithin, rfl⟩, _⟩ := secondReserved
  have same : (durable before).nextSerial = (durable after).nextSerial := by
    rw [← UInt64.toNat_inj]
    omega
  have commits := sound.recorded.reserve_unique firstWithin secondWithin rfl rfl same
  exact congrArg Commit.caller commits

/-- No two requests that reached the key manager carry the same serial. -/
theorem Sound.issued_serials_nodup {world : World} (sound : Sound env world) :
    (world.issued.map fun entry => requestSerial entry.2).Nodup := by
  have callers : world.issued.Pairwise fun first second => first.1 ≠ second.1 :=
    List.pairwise_map.mp sound.issuedOnce
  refine List.pairwise_map.mpr (callers.imp_of_mem ?_)
  intro first second firstMember secondMember different same
  obtain ⟨_, carried, reserved⟩ := sound.issuedReserved first.1 first.2 firstMember
  obtain ⟨_, otherCarried, otherReserved⟩ := sound.issuedReserved second.1 second.2 secondMember
  rw [carried, otherCarried] at same
  cases same
  exact different (sound.reserved_unique reserved otherReserved)

/-- In every run of any number of services on one store the serials of every
durable document are distinct and are exactly the ones handed out, and no
serial is passed to the key manager twice. -/
theorem reachable_serialPartition {configs : Nat → ServiceConfig}
    {state : SystemState signature World Caller Error Unit}
    (reachable : Reachable env configs state) :
    (∀ document, InHistory state.world.log document → SerialPartition env document) ∧
      (state.world.issued.map fun entry => requestSerial entry.2).Nodup := by
  have sound := reachable.sound
  refine ⟨?_, sound.issued_serials_nodup⟩
  rintro _ ⟨_, within, rfl⟩
  exact serialPartition_of_perm (sound.recorded.suffix within).serials_perm.2

/-- A run that burned one serial and used another one. -/
theorem sampleRun_serialPartition : ∃ state,
    Reachable (samplePlatform sampleInputs) (fun _ => sampleConfig) state ∧
      (durable state.world.log).nextSerial = 3 ∧ state.world.issued.length = 2 ∧
      SerialPartition (samplePlatform sampleInputs) (durable state.world.log) ∧
      (state.world.issued.map fun entry => requestSerial entry.2).Nodup := by
  obtain ⟨state, reachable, equal⟩ := sampleWorld_reachable
  obtain ⟨_, issued, counter, _⟩ := sampleWorld_facts
  have partition := reachable_serialPartition reachable
  refine ⟨state, reachable, ?_, ?_, partition.1 _ (InHistory.durable _), partition.2⟩
  · rw [equal]
    exact counter
  · rw [equal]
    exact issued

end Sovereignite.Trust
