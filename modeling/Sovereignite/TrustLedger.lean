import Sovereignite.TrustIssuance

/-!
# The ledger of committed trust documents

The durable side of the trust service is a log of documents.  Each entry is
made by one of a few kinds of transitions from the document before it.  This
module says what each kind does; that the operations make no other commits is
shown elsewhere, and every property of the durable documents is derived from
the kinds of transitions alone.

The newest entry of a log stands first.
-/

namespace Sovereignite.Trust

open Effect

structure Caller where
  service : Nat
  thread : Nat
  deriving DecidableEq

structure Commit where
  caller : Caller
  label : CommitLabel
  next : Snapshot

/-- The newest document of a log. -/
def durable : List Commit → Snapshot
  | [] => emptySnapshot
  | newest :: _ => newest.next

@[simp]
theorem durable_cons (newest : Commit) (older : List Commit) :
    durable (newest :: older) = newest.next :=
  rfl

/-- The certificates of a document whose digests are identifiers. -/
inductive Carries (snapshot : Snapshot) : Bytes → Prop where
  | certificate {id : String} {record : CertificateRecord}
      (found : snapshot.certificates.lookup id = some record) : Carries snapshot record.der
  | cross {domain : String} {record : FederationRecord}
      (found : snapshot.federations.lookup domain = some record) :
      Carries snapshot record.crossCertificate
  | revoked {id : String} {record : RevocationRecord}
      (found : snapshot.revocations.lookup id = some record) :
      Carries snapshot record.certificateDER

section Transitions

variable (env : Platform)

/-- A grant that may be used on a document: it was accepted for the revision
of the document, and its digest is not recorded. -/
structure Authorized (base : Snapshot) (grant : AuthorizationGrant) : Prop where
  accepted : ∃ now lifetime, validateGrant grant base.revision now lifetime = .ok ()
  unused : base.appliedGrants.has (grantDigest env grant.grantID) = false

/-- A document is another one with its outbox replaced by the publication of
that other one. -/
def Attached (candidate : Snapshot) (now : Time) (next : Snapshot) : Prop :=
  ∃ identity documents publication,
    newPublication env identity candidate.revision documents now = .ok publication ∧
      candidate.published.has publication.id = false ∧
      next = { candidate with outbox := AList.singleton publication.id publication }

/-- The commits the service makes, by the label they carry. -/
inductive Transition : CommitLabel → Snapshot → Snapshot → Prop where
  | bindIdentity {base : Snapshot} (identity : DeviceIdentity) (unbound : base.revision = 0) :
      Transition .bindIdentity base { base with identity, revision := 1 }
  | recover {base next : Snapshot} (now : Time)
      (interrupted : base.pendingCertificates.size ≠ 0) (timed : now ≠ 0)
      (attached : Attached env (burnAllPending base now) now next) :
      Transition .recover base next
  | adopt {base adopted next : Snapshot} (grant : AuthorizationGrant)
      (peer : VerifiedMTLSPeer) (relationship : RelationshipRecord) (now : Time)
      (authorized : Authorized env base grant)
      (applied : applyAdoption env (nextRevision base) peer grant now = .ok (adopted, relationship))
      (attached : Attached env (recordAppliedGrant env adopted grant .adopt now) now next) :
      Transition (.adopt grant) base next
  | revokeTrust {base next : Snapshot} (grant : AuthorizationGrant) (id : String)
      (relationship : RelationshipRecord) (now : Time)
      (authorized : Authorized env base grant)
      (found : base.relationships.lookup id = some relationship)
      (standing : relationship.phase ≠ .revoked)
      (attached : Attached env
        (recordAppliedGrant env (revokeRelationship base id relationship now) grant
          .revokeRelationship now) now next) :
      Transition (.revokeTrust grant) base next
  | reserve {base : Snapshot} (grant : AuthorizationGrant) (operation : Operation)
      (relationshipID remoteTrustDomain spiffeID : String) (subjectPublicKeyDER : Bytes)
      (now : Time)
      (authorized : Authorized env base grant)
      (settled : base.pendingCertificates.size = 0)
      (available : base.nextSerial ≠ maxUint64) :
      Transition (.reserve operation grant) base
        (reserveSerial env base
          (pendingCertificate env base grant operation relationshipID
            remoteTrustDomain spiffeID subjectPublicKeyDER now) grant operation now)
  | finalizeCA {base applied next : Snapshot} (id : String) (pending : PendingCertificate)
      (identity : DeviceIdentity) (encoded entered : Bytes) (cert : Certificate)
      (now : Time)
      (found : base.pendingCertificates.lookup id = some pending)
      (intended : pending.operation = .initializeCA)
      (parsed : env.parseCertificate encoded = .ok cert)
      (serial : serialText cert = pending.serial)
      (activated : activateCA env identity encoded (releasePending base id) now =
        .ok (applied, entered))
      (attached : Attached env applied now next) :
      Transition (.finalize id) base next
  | finalizeLeaf {base applied next : Snapshot} (id : String) (pending : PendingCertificate)
      (record : CertificateRecord) (entered : Bytes) (now : Time)
      (found : base.pendingCertificates.lookup id = some pending)
      (intended : pending.operation = .issueMTLSCertificate)
      (serial : record.serial = pending.serial)
      (fresh : record.status = .active)
      (activated : activateCertificate record (releasePending base id) now = .ok (applied, entered))
      (attached : Attached env applied now next) :
      Transition (.finalize id) base next
  | finalizeCross {base applied next : Snapshot} (id : String)
      (pending : PendingCertificate) (record entered : FederationRecord) (now : Time)
      (found : base.pendingCertificates.lookup id = some pending)
      (intended : pending.operation = .federate)
      (serial : record.crossCertificateSerial = pending.serial)
      (activated : activateFederation record (releasePending base id) now = .ok (applied, entered))
      (attached : Attached env applied now next) :
      Transition (.finalize id) base next
  | burn {base next : Snapshot} (id : String) (pending : PendingCertificate) (now : Time)
      (found : base.pendingCertificates.lookup id = some pending)
      (attached : Attached env (burnSerial (releasePending base id) pending.serial now) now next) :
      Transition (.burn id) base next
  | revokeCertificate {base next : Snapshot} (grant : AuthorizationGrant) (id : String)
      (cert : CertificateRecord) (now : Time)
      (authorized : Authorized env base grant)
      (found : base.certificates.lookup id = some cert)
      (standing : cert.status = .active)
      (attached : Attached env
        (recordAppliedGrant env (revokeCertificateRecord (nextRevision base) id cert now) grant
          .revokeCertificate now) now next) :
      Transition (.revokeCertificate grant) base next
  | drain {base : Snapshot} (publication : Publication) (receipt : PublicationReceipt)
      (completedAt : Time)
      (first : firstPublication base.outbox = some publication)
      (accepted : validatePublicationReceipt env receipt publication
        base.lastIPNSSequence = .ok ()) :
      Transition .drain base (completePublication base publication receipt completedAt)

/-- What the compare-and-swap store checks before it replaces a document. -/
structure Accepted (base : Snapshot) (expectedRevision : UInt64) (next : Snapshot) :
    Prop where
  current : base.revision = expectedRevision
  room : expectedRevision ≠ maxUint64
  advances : next.revision = expectedRevision + 1
  valid : validateSnapshot env next = .ok ()

/-- The logs the service can produce. -/
inductive Recorded : List Commit → Prop where
  | nil : Recorded []
  | cons {older : List Commit} (newest : Commit) (recorded : Recorded older)
      (accepted : Accepted env (durable older) (durable older).revision newest.next)
      (transition : Transition env newest.label (durable older) newest.next) :
      Recorded (newest :: older)

end Transitions

variable {env : Platform}

theorem Recorded.tail {newest : Commit} {older : List Commit}
    (recorded : Recorded env (newest :: older)) : Recorded env older := by
  cases recorded with
  | cons _ recorded => exact recorded

theorem Recorded.suffix {older log : List Commit} (recorded : Recorded env log)
    (earlier : older <:+ log) : Recorded env older := by
  induction log with
  | nil =>
    rw [List.suffix_nil.mp earlier]
    exact .nil
  | cons _ _ ih =>
    rcases List.suffix_cons_iff.mp earlier with equal | within
    · rw [equal]
      exact recorded
    · exact ih recorded.tail within

variable {log : List Commit}

/-- The revision of the newest document counts the entries. -/
theorem Recorded.revision (recorded : Recorded env log) :
    (durable log).revision.toNat = log.length := by
  induction recorded with
  | nil => rfl
  | cons _ _ accepted _ ih =>
    rw [durable_cons, accepted.advances, toNat_succ accepted.room, ih, List.length_cons]

/-- A document is durable at some point of a log. -/
def InHistory (log : List Commit) (document : Snapshot) : Prop :=
  ∃ older, older <:+ log ∧ durable older = document

theorem InHistory.durable (log : List Commit) : InHistory log (durable log) :=
  ⟨log, List.suffix_refl log, rfl⟩

theorem InHistory.grow {older log : List Commit} {document : Snapshot}
    (known : InHistory older document) (grows : older <:+ log) : InHistory log document := by
  obtain ⟨earliest, within, equal⟩ := known
  exact ⟨earliest, within.trans grows, equal⟩

theorem InHistory.eq_durable {document : Snapshot} (recorded : Recorded env log)
    (known : InHistory log document) (current : (Trust.durable log).revision = document.revision) :
    document = Trust.durable log := by
  obtain ⟨older, earlier, rfl⟩ := known
  have lengths : older.length = log.length := by
    rw [← recorded.revision, ← (recorded.suffix earlier).revision, current]
  rw [earlier.eq_of_length lengths]

theorem InHistory.unique {first second : Snapshot} (knownFirst : InHistory log first)
    (recorded : Recorded env log) (knownSecond : InHistory log second)
    (same : first.revision = second.revision) : first = second := by
  obtain ⟨left, withinLeft, rfl⟩ := knownFirst
  obtain ⟨right, withinRight, rfl⟩ := knownSecond
  have lengths : left.length = right.length := by
    rw [← (recorded.suffix withinLeft).revision, ← (recorded.suffix withinRight).revision, same]
  rw [(List.suffix_of_suffix_length_le withinLeft withinRight lengths.le).eq_of_length lengths]

end Sovereignite.Trust
