import Sovereignite.TrustSerials

/-!
# What each transition does to a single record

Certificates, relationships, revocations, burned serials and federations, one
record at a time: which transitions can change or add one, and how.
-/

namespace Sovereignite.Trust

open Effect KeyedRecords

variable {env : Platform} {label : CommitLabel} {base next applied : Snapshot}
variable {key : String} {now : Time}

variable {relationship : RelationshipRecord} {cert : CertificateRecord}

section BoundCertificates

/-- Whether revoking a relationship revokes a certificate. -/
def boundTo (relationshipID : String) (cert : CertificateRecord) : Bool :=
  !(cert.relationshipID != relationshipID || cert.status == .revoked)

def CertificateRecord.revoke (cert : CertificateRecord) (now : Time) :
    CertificateRecord :=
  { cert with status := .revoked, revokedAt := now }

def recordsAt (key : String) (snapshot : Snapshot) :
    Option CertificateRecord × Option RevocationRecord :=
  (snapshot.certificates.lookup key, snapshot.revocations.lookup key)

variable {relationshipID : String}

theorem recordsAt_revokeBoundCertificate (snapshot : Snapshot)
    (entry : Σ _ : String, CertificateRecord) (different : entry.1 ≠ key) :
    recordsAt key (revokeBoundCertificate relationshipID now snapshot entry) =
      recordsAt key snapshot := by
  unfold revokeBoundCertificate
  split
  · rfl
  · simp only [recordsAt, revokeCertificateRecord, AList.lookup_insert_ne different.symm]

/-- Revoking a relationship leaves a certificate that is not bound to it, or
that is revoked already, alone. -/
theorem recordsAt_revokeRelationship
    (unbound : ∀ cert, base.certificates.lookup key = some cert →
      boundTo relationshipID cert = false) :
    recordsAt key (revokeRelationship base relationshipID relationship now) =
      recordsAt key base := by
  refine foldl_untouched (fun snapshot entry member => ?_) _
  by_cases same : entry.1 = key
  · subst same
    have found : base.certificates.lookup entry.1 = some entry.2 := mem_entries_iff.mp member
    have kept := unbound entry.2 found
    simp only [boundTo, Bool.not_eq_false'] at kept
    simp only [revokeBoundCertificate, kept, if_true]
  · exact recordsAt_revokeBoundCertificate snapshot entry same

theorem certificate_revokeRelationship (found : base.certificates.lookup key = some cert)
    (bound : boundTo relationshipID cert = true) :
    (revokeRelationship base relationshipID relationship now).certificates.lookup key =
      some (cert.revoke now) := by
  have others : ∀ state (entry : Σ _ : String, CertificateRecord), entry.1 ≠ key →
      recordsAt key (revokeBoundCertificate relationshipID now state entry) =
        recordsAt key state :=
    recordsAt_revokeBoundCertificate
  let start : Snapshot := { nextRevision base with
    relationships := base.relationships.insert relationshipID { relationship with
        phase := .revoked
        generation := relationship.generation + 1
        updatedAt := now } }
  obtain ⟨state, _, equal⟩ := foldl_at_key others base.certificates.nodupKeys
    (mem_entries_iff.mpr found) start
  have revoked : revokeBoundCertificate relationshipID now state ⟨key, cert⟩ =
      revokeCertificateRecord state key cert now := by
    simp only [boundTo, Bool.not_eq_true'] at bound
    simp only [revokeBoundCertificate, bound, Bool.false_eq_true, if_false]
  rw [revoked] at equal
  exact (congrArg Prod.fst equal).trans (AList.lookup_insert _)

end BoundCertificates

section Changes

/-- The records of a document that last, apart from reservations, grants and
publications. -/
structure Records where
  relationships : StringMap RelationshipRecord
  certificates : StringMap CertificateRecord
  revocations : StringMap RevocationRecord
  burnedSerials : StringMap Time
  federations : StringMap FederationRecord
  activeCACertificate : Bytes
  nextSerial : UInt64

def Snapshot.records (snapshot : Snapshot) : Records where
  relationships := snapshot.relationships
  certificates := snapshot.certificates
  revocations := snapshot.revocations
  burnedSerials := snapshot.burnedSerials
  federations := snapshot.federations
  activeCACertificate := snapshot.activeCACertificate
  nextSerial := snapshot.nextSerial

/-- A reservation of a document that a certificate is issued for. -/
structure Fulfils (base : Snapshot) (id : String) (operation : Operation)
    (serial : String) : Prop where
  reserved : ∃ pending, base.pendingCertificates.lookup id = some pending ∧
    pending.operation = operation ∧ pending.serial = serial

/-- The records after a commit with a given label. -/
inductive RecordChange (env : Platform) (base : Snapshot) :
    CommitLabel → Records → Prop where
  | unchanged (label : CommitLabel) (ungranted : label.grant = none) :
      RecordChange env base label base.records
  | reserved (operation : Operation) (grant : AuthorizationGrant) :
      RecordChange env base (.reserve operation grant)
        { base.records with nextSerial := base.nextSerial + 1 }
  | recovered (now : Time) :
      RecordChange env base .recover
        { base.records with burnedSerials := (burnAllPending base now).burnedSerials }
  | burned (id : String) (pending : PendingCertificate) (now : Time)
      (found : base.pendingCertificates.lookup id = some pending) :
      RecordChange env base (.burn id) { base.records with
          burnedSerials := base.burnedSerials.insert pending.serial now }
  | adopted (grant : AuthorizationGrant) (peer : VerifiedMTLSPeer)
      (relationship : RelationshipRecord) (now : Time)
      (authorized : Authorized env base grant)
      (entered : Adoption env (nextRevision base) peer grant now relationship) :
      RecordChange env base (.adopt grant) { base.records with
          relationships := base.relationships.insert relationship.id relationship }
  | trustRevoked (grant : AuthorizationGrant) (id : String)
      (relationship : RelationshipRecord) (now : Time)
      (found : base.relationships.lookup id = some relationship)
      (standing : relationship.phase ≠ .revoked) :
      RecordChange env base (.revokeTrust grant) { base.records with
          relationships := base.relationships.insert id { relationship with
            phase := .revoked
            generation := relationship.generation + 1
            updatedAt := now }
          certificates := (revokeRelationship base id relationship now).certificates
          revocations := (revokeRelationship base id relationship now).revocations }
  | certificateRevoked (grant : AuthorizationGrant) (id : String)
      (cert : CertificateRecord) (now : Time)
      (found : base.certificates.lookup id = some cert)
      (standing : cert.status = .active) :
      RecordChange env base (.revokeCertificate grant) { base.records with
          certificates := base.certificates.insert id (cert.revoke now)
          revocations := (revokeCertificateRecord base id cert now).revocations }
  | authority (id : String) (encoded : Bytes) (cert : Certificate)
      (fulfils : Fulfils base id .initializeCA (serialText cert))
      (parsed : env.parseCertificate encoded = .ok cert)
      (vacant : base.activeCACertificate = []) :
      RecordChange env base (.finalize id) { base.records with activeCACertificate := encoded }
  | leaf (id : String) (record : CertificateRecord)
      (fulfils : Fulfils base id .issueMTLSCertificate record.serial)
      (absent : base.certificates.lookup record.id = none) :
      RecordChange env base (.finalize id)
        { base.records with certificates := base.certificates.insert record.id record }
  | federated (id : String) (record : FederationRecord)
      (fulfils : Fulfils base id .federate record.crossCertificateSerial)
      (absent : base.federations.lookup record.targetDomain = none) :
      RecordChange env base (.finalize id) { base.records with
          federations := base.federations.insert record.targetDomain record }
  | refederated (id : String) (record existing : FederationRecord) (now : Time)
      (fulfils : Fulfils base id .federate record.crossCertificateSerial)
      (present : base.federations.lookup record.targetDomain = some existing) :
      RecordChange env base (.finalize id) { base.records with
          federations := base.federations.insert record.targetDomain record
          revocations := base.revocations.insert existing.crossCertificateID
            (replacedCrossCertificate existing now) }

/-- What a transition does to the records. -/
theorem Transition.records (transition : Transition env label base next) :
    RecordChange env base label next.records := by
  cases transition with
  | bindIdentity => exact .unchanged _ rfl
  | recover now _ _ attached =>
    rw [attached.eq, burnAllPending_eq]
    exact .recovered now
  | adopt grant peer relationship now authorized applied attached =>
    obtain ⟨equal, entered⟩ := applyAdoption_eq_ok applied
    rw [attached.eq, equal]
    exact .adopted grant peer relationship now authorized entered
  | revokeTrust grant id relationship now _ found standing attached =>
    rw [attached.eq, revokeRelationship_eq]
    exact .trustRevoked grant id relationship now found standing
  | reserve grant operation => exact .reserved operation grant
  | finalizeCA id pending _ encoded _ cert _ found intended parsed serial activated attached =>
    obtain ⟨vacant, _, equal⟩ := activateCA_eq_ok activated
    rw [attached.eq, equal]
    exact .authority id encoded cert ⟨pending, found, intended, serial.symm⟩ parsed vacant
  | finalizeLeaf id pending record _ now found intended serial _ activated attached =>
    obtain ⟨absent, equal⟩ := activateCertificate_eq_ok activated
    rw [attached.eq, equal]
    exact .leaf id { record with issuedAt := now } ⟨pending, found, intended, serial.symm⟩ absent
  | finalizeCross id pending _ entered now found intended serial activated attached =>
    rw [attached.eq]
    cases activateFederation_edge activated with
    | fresh absent => exact .federated id _ ⟨pending, found, intended, serial.symm⟩ absent
    | renewed existing present =>
      exact .refederated id _ existing now ⟨pending, found, intended, serial.symm⟩ present
  | burn id pending now found attached =>
    rw [attached.eq]
    exact .burned id pending now found
  | revokeCertificate grant id cert now _ found standing attached =>
    rw [attached.eq]
    exact .certificateRevoked grant id cert now found standing
  | drain => exact .unchanged _ rfl

end Changes

namespace RecordChange

variable {after : Records}

variable (change : RecordChange env base label after)
include change

theorem certificate_kept (found : base.certificates.lookup key = some cert) :
    after.certificates.lookup key = some cert ∨
      (label.grant.isSome = true ∧ cert.status ≠ .revoked ∧
        ∃ now, after.certificates.lookup key = some (cert.revoke now)) := by
  cases change with
  | trustRevoked _ id _ now =>
    by_cases bound : boundTo id cert = true
    · have active : cert.status ≠ .revoked := by
        intro revoked
        simp [boundTo, revoked] at bound
      exact .inr ⟨rfl, active, now, certificate_revokeRelationship found bound⟩
    · have unbound : ∀ stored, base.certificates.lookup key = some stored →
          boundTo id stored = false := by
        intro _ storedFound
        rw [found] at storedFound
        cases storedFound
        simpa using bound
      exact .inl ((congrArg Prod.fst (recordsAt_revokeRelationship unbound)).trans found)
  | certificateRevoked _ id _ now revokedFound standing =>
    by_cases same : key = id
    · subst same
      rw [revokedFound] at found
      cases found
      refine .inr ⟨rfl, ?_, now, AList.lookup_insert _⟩
      rw [standing]
      exact CertificateStatus.noConfusion
    · exact .inl ((AList.lookup_insert_ne same).trans found)
  | leaf id record _ absent =>
    have different : key ≠ record.id := by
      rintro rfl
      rw [absent] at found
      cases found
    exact .inl ((AList.lookup_insert_ne different).trans found)
  | _ => exact .inl found

theorem certificate_added (found : after.certificates.lookup key = some cert)
    (absent : base.certificates.lookup key = none) :
    ∃ id, label = .finalize id ∧ Fulfils base id .issueMTLSCertificate cert.serial := by
  have unstored : base.certificates.lookup key ≠ some cert := by
    rw [absent]
    exact Option.some_ne_none cert |>.symm
  cases change with
  | trustRevoked _ id relationship now =>
    have unbound : ∀ stored, base.certificates.lookup key = some stored →
        boundTo id stored = false := by
      intro _ storedFound
      rw [absent] at storedFound
      cases storedFound
    have same : recordsAt key (revokeRelationship base id relationship now) =
        recordsAt key base := recordsAt_revokeRelationship unbound
    exact absurd ((congrArg Prod.fst same).symm.trans found) unstored
  | certificateRevoked _ _ _ _ revokedFound =>
    rcases lookup_insert_cases found with ⟨same, _⟩ | ⟨_, before⟩
    · rw [same, revokedFound] at absent
      cases absent
    · exact absurd before unstored
  | leaf id _ fulfils =>
    rcases lookup_insert_cases found with ⟨_, rfl⟩ | ⟨_, before⟩
    · exact ⟨id, rfl, fulfils⟩
    · exact absurd before unstored
  | _ => exact absurd found unstored

theorem federation_entered {federation : FederationRecord}
    (found : after.federations.lookup key = some federation)
    (new : base.federations.lookup key ≠ some federation) :
    ∃ id, label = .finalize id ∧ Fulfils base id .federate federation.crossCertificateSerial := by
  cases change with
  | federated id _ fulfils =>
    rcases lookup_insert_cases found with ⟨_, rfl⟩ | ⟨_, before⟩
    · exact ⟨id, rfl, fulfils⟩
    · exact absurd before new
  | refederated id _ _ _ fulfils =>
    rcases lookup_insert_cases found with ⟨_, rfl⟩ | ⟨_, before⟩
    · exact ⟨id, rfl, fulfils⟩
    · exact absurd before new
  | _ => exact absurd found new

theorem authority_entered (new : after.activeCACertificate ≠ base.activeCACertificate) :
    ∃ id cert, label = .finalize id ∧ env.parseCertificate after.activeCACertificate = .ok cert ∧
      Fulfils base id .initializeCA (serialText cert) := by
  cases change with
  | authority id _ cert fulfils parsed =>
    exact ⟨id, cert, rfl, parsed, fulfils⟩
  | _ => exact absurd rfl new

theorem ungranted (none : label.grant = none) :
    after.relationships = base.relationships ∧ after.nextSerial = base.nextSerial := by
  cases change with
  | reserved | adopted | trustRevoked | certificateRevoked => cases none
  | _ => exact ⟨rfl, rfl⟩

theorem relationship_kept
    (consistent : Consistent base) (free : ∀ grant id entered, label = .adopt grant →
      after.relationships.lookup id = some entered → base.relationships.lookup (relationshipID
        env grant.grantID base.identity.peerID entered.principalSPIFFEID) = none)
    (found : base.relationships.lookup key = some relationship) :
    after.relationships.lookup key = some relationship ∨
      (relationship.phase ≠ .revoked ∧
        ∃ changed, after.relationships.lookup key = some changed ∧
          changed.principalSPIFFEID = relationship.principalSPIFFEID) := by
  cases change with
  | adopted grant _ entered _ _ adoption =>
    by_cases same : key = entered.id
    · subst same
      cases adoption with
      | upgraded existing existingFound provisional =>
        have keyed : existing.id = grant.relatedRelationship :=
          consistent.relationships _ _ existingFound
        have stored : base.relationships.lookup existing.id = some relationship := found
        have equal : existing = relationship := by
          rw [keyed] at stored
          exact Option.some.inj (existingFound.symm.trans stored)
        subst equal
        refine .inr ⟨?_, _, AList.lookup_insert _, rfl⟩
        rw [provisional]
        exact RelationshipPhase.noConfusion
      | entered =>
        cases (free grant _ _ rfl (AList.lookup_insert _)).symm.trans found
    · exact .inl ((AList.lookup_insert_ne same).trans found)
  | trustRevoked _ id _ _ revokedFound standing =>
    by_cases same : key = id
    · subst same
      rw [revokedFound] at found
      cases found
      exact .inr ⟨standing, _, AList.lookup_insert _, rfl⟩
    · exact .inl ((AList.lookup_insert_ne same).trans found)
  | _ => exact .inl found

theorem relationship_added
    (consistent : Consistent base) (found : after.relationships.lookup key = some relationship)
    (absent : base.relationships.lookup key = none) :
    ∃ grant, label = .adopt grant ∧ Authorized env base grant ∧
      key = relationshipID env grant.grantID base.identity.peerID
        relationship.principalSPIFFEID := by
  have unstored : base.relationships.lookup key ≠ some relationship := by
    rw [absent]
    exact Option.some_ne_none relationship |>.symm
  cases change with
  | adopted grant _ entered _ authorized adoption =>
    rcases lookup_insert_cases found with ⟨rfl, rfl⟩ | ⟨_, before⟩
    · cases adoption with
      | upgraded existing existingFound =>
        have stored : base.relationships.lookup existing.id = some existing := by
          rw [consistent.relationships _ _ existingFound]
          exact existingFound
        have none : base.relationships.lookup existing.id = none := absent
        rw [none] at stored
        cases stored
      | entered => exact ⟨grant, rfl, authorized, rfl⟩
    · exact absurd before unstored
  | trustRevoked _ _ _ _ revokedFound =>
    rcases lookup_insert_cases found with ⟨same, _⟩ | ⟨_, before⟩
    · rw [same, revokedFound] at absent
      cases absent
    · exact absurd before unstored
  | _ => exact absurd found unstored

theorem revocation_kept {revocation : RevocationRecord} (consistent : Consistent base)
    (apart : ∀ id listed, after.revocations.lookup id = some listed →
      listed.kind = .cross → after.certificates.lookup id = none)
    (found : base.revocations.lookup key = some revocation) :
    after.revocations.lookup key = some revocation := by
  have unlistedLeaf : ∀ cert, base.certificates.lookup key = some cert →
      cert.status = .revoked := by
    intro cert stored
    cases consistent.revocations key revocation found with
    | leaf _ _ listedFound _ revoked =>
      rw [stored] at listedFound
      cases listedFound
      exact revoked
    | replaced _ absent =>
      rw [absent] at stored
      cases stored
  cases change with
  | trustRevoked _ id =>
    have unbound : ∀ cert, base.certificates.lookup key = some cert → boundTo id cert = false := by
      intro cert stored
      simp [boundTo, unlistedLeaf cert stored]
    exact (congrArg Prod.snd (recordsAt_revokeRelationship unbound)).trans found
  | certificateRevoked _ id cert _ certificateFound standing =>
    have different : key ≠ id := by
      rintro rfl
      have revoked := unlistedLeaf cert certificateFound
      rw [standing] at revoked
      cases revoked
    exact (AList.lookup_insert_ne different).trans found
  | refederated _ _ existing now _ present =>
    have uncertified : base.certificates.lookup existing.crossCertificateID = none :=
      apart _ (replacedCrossCertificate existing now) (AList.lookup_insert _) rfl
    have different : key ≠ existing.crossCertificateID := by
      rintro rfl
      rw [consistent.unlisted present uncertified] at found
      cases found
    exact (AList.lookup_insert_ne different).trans found
  | _ => exact found

theorem burned_kept {time : Time}
    (distinct : (serials env base).Nodup) (found : base.burnedSerials.lookup key = some time) :
    after.burnedSerials.lookup key = some time := by
  cases change with
  | recovered now =>
    let Kept (document : Snapshot) : Prop :=
      (serials env document).Perm (serials env base) ∧ document.burnedSerials.lookup key = some time
    have burned : ∀ document (entry : Σ _ : String, PendingCertificate), Kept document →
        document.pendingCertificates.lookup entry.1 = some entry.2 →
          Kept (burnEntry now document entry) := by
      rintro document entry ⟨moved, stored⟩ pendingFound
      have nodup := moved.nodup_iff.mpr distinct
      have different : key ≠ entry.2.serial := by
        rintro rfl
        rw [lookup_burned_of_pending nodup pendingFound] at stored
        cases stored
      exact ⟨(serials_burn nodup pendingFound now).trans moved,
        (AList.lookup_insert_ne different).trans stored⟩
    have others : ∀ document (entry : Σ _ : String, PendingCertificate) id,
        id ≠ entry.1 → (burnEntry now document entry).pendingCertificates.lookup id =
          document.pendingCertificates.lookup id :=
      fun _ _ _ different => AList.lookup_erase_ne different
    have initially : Kept (nextRevision base) := ⟨List.Perm.refl _, found⟩
    have completed : Kept (burnAllPending base now) := foldl_visits_all burned others initially
    exact completed.2
  | burned _ pending _ pendingFound =>
    have different : key ≠ pending.serial := by
      rintro rfl
      rw [lookup_burned_of_pending distinct pendingFound] at found
      cases found
    exact (AList.lookup_insert_ne different).trans found
  | _ => exact found

end RecordChange

end Sovereignite.Trust
