import Sovereignite.CheckedFolds
import Sovereignite.TrustProposals

/-!
# The forms of the records of a trust document

What the checks of a single record accept, as a statement about the record.
Each form names only the parts of the document that the check reads, so that a
record keeps its form in every later document that agrees on those parts.
-/

namespace Sovereignite.Trust

open Effect KeyedRecords

section Serials

def certificateSerial (entry : Σ _ : String, CertificateRecord) : Option String :=
  some entry.2.serial

def pendingSerial (entry : Σ _ : String, PendingCertificate) : Option String :=
  some entry.2.serial

def burnedSerial (entry : Σ _ : String, Time) : Option String :=
  some entry.1

def crossSerial (entry : Σ _ : String, FederationRecord) : Option String :=
  some entry.2.crossCertificateSerial

def replacedSerial (entry : Σ _ : String, RevocationRecord) : Option String :=
  if entry.2.kind = .cross then some entry.2.serial else none

/-- The serials a document holds: those of the active CA, the certificates, the
reservations, the burned serials, the cross-certificates in use and the
replaced cross-certificates. -/
def serials (env : Platform) (snapshot : Snapshot) : List String :=
  activeCASerials env snapshot ++ collected certificateSerial snapshot.certificates ++
    collected pendingSerial snapshot.pendingCertificates ++
    collected burnedSerial snapshot.burnedSerials ++
    collected crossSerial snapshot.federations ++
    collected replacedSerial snapshot.revocations

end Serials

section Forms

variable (env : Platform)

/-- A relationship of the local device under its identifier. -/
@[mk_iff]
structure RelationshipForm (peerID id : String) (relationship : RelationshipRecord) :
    Prop where
  keyed : relationship.id = id
  identified : certificateIDPattern id = true
  target : relationship.targetPeerID = peerID
  principal : ∃ identity, parseDeviceSPIFFEID env relationship.principalSPIFFEID = .ok identity
  fingerprint : certificateIDPattern relationship.principalCertificateHash = true
  role : relationship.role = .owner ∨ relationship.role = .backupAdmin
  phase : relationship.phase = .provisional ∨ relationship.phase = .authorized ∨
    relationship.phase = .revoked
  generation : relationship.generation ≠ 0
  established : relationship.establishedAt ≠ 0
  updated : relationship.establishedAt ≤ relationship.updatedAt

/-- A certificate verifies under the authority certificate of a document. -/
def SignedBy (authority : Bytes) (cert : Certificate) : Prop :=
  authority ≠ [] ∧ ∃ parent, env.parseCertificate authority = .ok parent ∧
    env.checkSignatureFrom cert parent = .ok ()

/-- The profile of a leaf certificate, and the fields its record repeats. -/
@[mk_iff]
structure LeafProfile (spiffeID : String) (record : CertificateRecord)
    (cert : Certificate) : Prop where
  serial : serialText cert = record.serial
  subjectPublicKey : cert.rawSubjectPublicKeyInfo = record.subjectPublicKeyDER
  notBefore : cert.notBefore = record.notBefore
  notAfter : cert.notAfter = record.notAfter
  uris : cert.uris = [some spiffeID]
  leaf : cert.isCA = false
  constraints : cert.basicConstraintsValid = true
  keyUsage : cert.keyUsage = keyUsageDigitalSignature
  clientAuth : containsUsage cert.extKeyUsage .clientAuth = true
  serverAuth : containsUsage cert.extKeyUsage .serverAuth = true

/-- A leaf certificate of the local device under its identifier. -/
@[mk_iff]
structure CertificateForm (spiffeID : String) (authority : Bytes) (id : String)
    (record : CertificateRecord) : Prop where
  keyed : record.id = id
  digest : certificateID env record.der = id
  nonempty : record.der ≠ []
  size : record.der.length ≤ maximumCertificateDERBytes
  serial : validateSerial record.serial = .ok ()
  issued : record.issuedAt ≠ 0
  subject : record.spiffeID = spiffeID
  parsed : ∃ cert, env.parseCertificate record.der = .ok cert ∧
    LeafProfile spiffeID record cert ∧ SignedBy env authority cert
  status : record.status = .active ∨ record.status = .revoked
  revokedAt : record.status = .revoked → record.revokedAt ≠ 0

/-- What a leaf certificate refers to is in the document. -/
@[mk_iff]
structure CertificateLinks (revocations : StringMap RevocationRecord)
    (relationships : StringMap RelationshipRecord) (id : String)
    (record : CertificateRecord) : Prop where
  revocation : record.status = .revoked → revocations.has id = true
  relationship : record.relationshipID ≠ "" → relationships.has record.relationshipID = true

@[mk_iff]
structure PendingForm (id : String) (pending : PendingCertificate) : Prop where
  keyed : pending.id = id
  identified : certificateIDPattern id = true
  grant : certificateIDPattern pending.grantDigest = true
  operation : pending.operation = .initializeCA ∨
    pending.operation = .issueMTLSCertificate ∨ pending.operation = .federate
  serial : validateSerial pending.serial = .ok ()
  created : pending.createdAt ≠ 0
  ordered : pending.notBefore ≤ pending.notAfter
  nonempty : pending.subjectPublicKeyDER ≠ []
  key : ∃ key, env.parsePKIXPublicKey pending.subjectPublicKeyDER = .ok key

@[mk_iff]
structure BurnedForm (serial : String) (time : Time) : Prop where
  serial : validateSerial serial = .ok ()
  timed : time ≠ 0

@[mk_iff]
structure CrossForm (record : FederationRecord) : Prop where
  identified : certificateIDPattern record.crossCertificateID = true
  serial : validateSerial record.crossCertificateSerial = .ok ()

/-- A federation edge of the local domain under its target. -/
@[mk_iff]
structure FederationForm (trustDomain : String) (authority : Bytes) (domain : String)
    (record : FederationRecord) : Prop where
  keyed : record.targetDomain = domain
  source : record.sourceDomain = trustDomain
  apart : record.targetDomain ≠ record.sourceDomain
  target : ∃ name, trustDomainFromIPNS env record.targetDomain = .ok name
  roles : complementaryFederationRoles record.localRole record.remoteRole = true
  generation : record.sourceGeneration ≠ 0
  established : record.establishedAt ≠ 0
  updated : record.establishedAt ≤ record.updatedAt
  remote : ∃ cert, AuthorityEncoding env record.remoteCACertificate cert ∧
    cert.subject.commonName = record.targetDomain
  digest : record.crossCertificateID = certificateID env record.crossCertificate
  cross : ∃ cert, AuthorityEncoding env record.crossCertificate cert ∧
    record.crossCertificateSerial = serialText cert ∧
    cert.subject.commonName = record.targetDomain ∧
    SignedBy env authority cert

/-- A revocation under the identifier of its certificate. -/
@[mk_iff]
structure RevocationForm (authority : Bytes) (id : String) (record : RevocationRecord) :
    Prop where
  keyed : record.certificateID = id
  identified : certificateIDPattern id = true
  timed : record.revokedAt ≠ 0
  nonempty : record.certificateDER ≠ []
  size : record.certificateDER.length ≤ maximumCertificateDERBytes
  digest : certificateID env record.certificateDER = id
  serial : validateSerial record.serial = .ok ()
  kind : record.kind = .mtls ∨ record.kind = .cross
  cross : record.kind = .cross →
    ∃ cert, AuthorityEncoding env record.certificateDER cert ∧ serialText cert = record.serial ∧
      (∃ name, trustDomainFromIPNS env cert.subject.commonName = .ok name) ∧
      SignedBy env authority cert

/-- What a revocation refers to, or must not refer to. -/
@[mk_iff]
structure RevocationLinks (certificates : StringMap CertificateRecord)
    (activeCross : List String) (id : String) (record : RevocationRecord) : Prop where
  leaf : record.kind = .mtls → ∃ cert, certificates.lookup id = some cert ∧
    cert.serial = record.serial ∧ cert.der = record.certificateDER ∧
    cert.status = .revoked ∧ cert.revokedAt = record.revokedAt
  replaced : record.kind = .cross → id ∉ activeCross ∧ certificates.lookup id = none

@[mk_iff]
structure OutboxForm (identity : DeviceIdentity) (revision : UInt64) (id : String)
    (publication : Publication) : Prop where
  keyed : publication.id = id
  past : publication.stateRevision ≤ revision
  valid : validatePublication env publication identity = .ok ()

/-- A completed publication under its digest. -/
@[mk_iff]
structure PublishedForm (id : String) (record : PublishedRecord) : Prop where
  identified : certificateIDPattern id = true
  digest : record.digest = id
  sequence : record.ipnsSequence ≠ 0
  completed : record.completedAt ≠ 0
  root : ∃ cid, env.decodeCid record.rootCID = .ok cid

end Forms

section Relationships

variable {env : Platform}

def activePrincipal (entry : Σ _ : String, RelationshipRecord) : Option String :=
  if entry.2.phase = .revoked then none else some entry.2.principalSPIFFEID

def OwnershipTally.enter (tally : OwnershipTally) (entry : Σ _ : String, RelationshipRecord) :
    OwnershipTally :=
  if entry.2.phase = .revoked then tally
  else {
    activeOwners :=
      if entry.2.role == .owner then tally.activeOwners + 1 else tally.activeOwners
    authorizedOwner := tally.authorizedOwner ||
      (entry.2.role == .owner && entry.2.phase == .authorized)
    activePrincipals := entry.2.principalSPIFFEID :: tally.activePrincipals }

theorem checkRelationship_eq_ok {snapshot : Snapshot} {tally next : OwnershipTally}
    {entry : Σ _ : String, RelationshipRecord} :
    checkRelationship env snapshot tally entry = .ok next ↔
      RelationshipForm env snapshot.identity.peerID entry.1 entry.2 ∧
        (∀ key ∈ (activePrincipal entry).toList, key ∉ tally.activePrincipals) ∧
        next = tally.enter entry := by
  simp only [checkRelationship, bind_eq_ok, reject_eq_ok, mapError_eq_ok, exists_const,
    relationshipForm_iff, activePrincipal, OwnershipTally.enter, pure, Except.pure]
  by_cases revoked : entry.2.phase = .revoked
  · simp only [revoked]
    grind
  · simp only [revoked, beq_iff_eq, if_false, bind_eq_ok, reject_eq_ok, exists_const,
      Option.toList_some, List.mem_singleton, forall_eq, List.contains_eq_mem]
    grind

/-- Who may act on a document: each principal and the owner once, and a backup
administrator only beside an authorized owner. -/
structure Ownership (relationships : StringMap RelationshipRecord) : Prop where
  principal : ∀ first second left right, relationships.lookup first = some left →
    relationships.lookup second = some right → left.phase ≠ .revoked →
    right.phase ≠ .revoked → left.principalSPIFFEID = right.principalSPIFFEID → first = second
  owner : ∀ first second left right, relationships.lookup first = some left →
    relationships.lookup second = some right → left.phase ≠ .revoked →
    right.phase ≠ .revoked → left.role = .owner → right.role = .owner → first = second
  backed : ∀ id relationship, relationships.lookup id = some relationship →
    relationship.role = .backupAdmin → relationship.phase ≠ .revoked →
    ∃ ownerID owner, relationships.lookup ownerID = some owner ∧ owner.role = .owner ∧
      owner.phase = .authorized

/-- A mark for each owner that is not revoked. -/
def activeOwner (entry : Σ _ : String, RelationshipRecord) : Option Unit :=
  if entry.2.role = .owner ∧ entry.2.phase ≠ .revoked then some () else none

theorem activeOwners_foldl {entries : List (Σ _ : String, RelationshipRecord)}
    {tally : OwnershipTally} :
    (entries.foldl OwnershipTally.enter tally).activeOwners =
      tally.activeOwners + (entries.filterMap activeOwner).length := by
  induction entries generalizing tally with
  | nil => simp
  | cons entry _ ih =>
    rw [List.foldl_cons, ih]
    unfold OwnershipTally.enter
    by_cases revoked : entry.2.phase = .revoked
    · simp [revoked, activeOwner]
    · by_cases owner : entry.2.role = .owner
      · simp [revoked, owner, activeOwner]
        omega
      · simp [revoked, owner, activeOwner]

theorem authorizedOwner_foldl {entries : List (Σ _ : String, RelationshipRecord)}
    {tally : OwnershipTally} :
    (entries.foldl OwnershipTally.enter tally).authorizedOwner = true ↔
      tally.authorizedOwner = true ∨
        ∃ entry ∈ entries, entry.2.role = .owner ∧ entry.2.phase = .authorized := by
  induction entries generalizing tally with
  | nil => simp
  | cons entry _ ih =>
    rw [List.foldl_cons, ih]
    unfold OwnershipTally.enter
    by_cases revoked : entry.2.phase = .revoked
    · simp [revoked]
    · simp [revoked, or_assoc]

theorem nodup_marks {marks : List Unit} : marks.Nodup ↔ marks.length ≤ 1 := by
  cases marks with
  | nil => simp
  | cons _ rest =>
    cases rest with
    | nil | cons => simp

theorem nodup_activePrincipals {relationships : StringMap RelationshipRecord} :
    (collected activePrincipal relationships).Nodup ↔
      ∀ first second left right, relationships.lookup first = some left →
        relationships.lookup second = some right → left.phase ≠ .revoked →
        right.phase ≠ .revoked → left.principalSPIFFEID = right.principalSPIFFEID →
        first = second := by
  simp only [nodup_collected, activePrincipal, Option.ite_none_left_eq_some, Option.some.injEq]
  constructor
  · intro once first second left right foundFirst foundSecond standsFirst standsSecond same
    exact once first second left right _ foundFirst foundSecond ⟨standsFirst, rfl⟩
      ⟨standsSecond, same.symm⟩
  · grind

theorem activeOwners_le_one {relationships : StringMap RelationshipRecord} :
    (collected activeOwner relationships).length ≤ 1 ↔
      ∀ first second left right, relationships.lookup first = some left →
        relationships.lookup second = some right → left.phase ≠ .revoked →
        right.phase ≠ .revoked → left.role = .owner → right.role = .owner →
        first = second := by
  simp only [← nodup_marks, nodup_collected, activeOwner, Option.ite_none_right_eq_some]
  constructor
  · intro once first second left right foundFirst foundSecond standsFirst standsSecond
      ownsFirst ownsSecond
    exact once first second left right () foundFirst foundSecond
      ⟨⟨ownsFirst, standsFirst⟩, trivial⟩ ⟨⟨ownsSecond, standsSecond⟩, trivial⟩
  · grind

theorem validateRelationships_eq_ok {snapshot : Snapshot} :
    validateRelationships env snapshot = .ok () ↔
      (∀ id relationship, snapshot.relationships.lookup id = some relationship →
        RelationshipForm env snapshot.identity.peerID id relationship) ∧
        Ownership snapshot.relationships := by
  have folded := @foldEach_keyed Error OwnershipTally (Σ _ : String, RelationshipRecord) String
    (checkRelationship env snapshot) OwnershipTally.enter OwnershipTally.activePrincipals
    (fun entry => (activePrincipal entry).toList)
    (fun entry => RelationshipForm env snapshot.identity.peerID entry.1 entry.2)
    (fun _ _ _ => checkRelationship_eq_ok)
    (fun entry _ => by cases activePrincipal entry <;> simp)
    (fun tally entry key => by
      by_cases revoked : entry.2.phase = .revoked <;>
        simp [activePrincipal, OwnershipTally.enter, revoked, @eq_comm _ key])
  have backed : (snapshot.relationships.values.any fun relationship =>
      relationship.role == .backupAdmin && relationship.phase != .revoked &&
        !(snapshot.relationships.entries.foldl OwnershipTally.enter {}).authorizedOwner) = false ↔
      ∀ id relationship, snapshot.relationships.lookup id = some relationship →
        relationship.role = .backupAdmin → relationship.phase ≠ .revoked →
        ∃ ownerID owner, snapshot.relationships.lookup ownerID = some owner ∧
          owner.role = .owner ∧ owner.phase = .authorized := by
    simp only [List.any_eq_false, StringMap.values, List.forall_mem_map, forall_entries,
      Bool.and_eq_true, beq_iff_eq, bne_iff_ne, Bool.not_eq_true', not_and, Bool.not_eq_false,
      authorizedOwner_foldl, Bool.false_eq_true, false_or, Sigma.exists, mem_entries_iff, and_imp]
  unfold validateRelationships
  simp only [bind_eq_ok, folded, reject_eq_ok, ← List.filterMap_eq_flatMap_toList,
    decide_eq_false_iff_not, Nat.not_lt, Unique.exists_iff, forall_entries]
  constructor
  · rintro ⟨_, ⟨forms, principals, _, rfl⟩, owners, unbacked⟩
    rw [activeOwners_foldl, Nat.zero_add] at owners
    exact ⟨forms, nodup_activePrincipals.mp principals, activeOwners_le_one.mp owners,
      backed.mp unbacked⟩
  · rintro ⟨forms, ownership⟩
    refine ⟨_, ⟨forms, nodup_activePrincipals.mpr ownership.principal, by simp, rfl⟩, ?_,
      backed.mpr ownership.backed⟩
    rw [activeOwners_foldl, Nat.zero_add]
    exact activeOwners_le_one.mpr ownership.owner

end Relationships

section Certificates

variable {env : Platform} {snapshot : Snapshot} {used next : List String}

theorem SignedBy.iff_parsed {authority : Bytes} {cert : Certificate} :
    SignedBy env authority cert ↔
      ∃ parent, parsedCertificate env authority = some parent ∧ authority ≠ [] ∧
        env.checkSignatureFrom cert parent = .ok () := by
  unfold SignedBy parsedCertificate
  cases env.parseCertificate authority <;> simp [Except.toOption]

theorem useSerial_eq_ok {serial text : String} :
    useSerial serial text used = .ok next ↔ serial ∉ used ∧ next = serial :: used := by
  unfold useSerial
  simp only [bind_eq_ok, reject_eq_ok, List.contains_eq_mem, decide_eq_false_iff_not,
    exists_const, pure, Except.pure, Except.ok.injEq]
  exact and_congr_right fun _ => eq_comm

theorem checkCertificate_eq_ok {entry : Σ _ : String, CertificateRecord} :
    checkCertificate env snapshot used entry = .ok next ↔
      (CertificateForm env snapshot.identity.spiffeID snapshot.activeCACertificate entry.1 entry.2 ∧
        CertificateLinks snapshot.revocations snapshot.relationships entry.1 entry.2) ∧
        entry.2.serial ∉ used ∧ next = entry.2.serial :: used := by
  simp only [checkCertificate, bind_eq_ok, reject_eq_ok, annotated, mapError_eq_ok,
    useSerial_eq_ok, exists_const, certificateForm_iff, leafProfile_iff, certificateLinks_iff,
    SignedBy.iff_parsed]
  cases parsedCertificate env snapshot.activeCACertificate with
  | none => simp [failure, bind, Except.bind]
  | some =>
    simp only [bind_eq_ok, reject_eq_ok, mapError_eq_ok, exists_const, pure, Except.pure]
    grind

theorem checkPendingCertificate_eq_ok {entry : Σ _ : String, PendingCertificate} :
    checkPendingCertificate env used entry = .ok next ↔
      PendingForm env entry.1 entry.2 ∧ entry.2.serial ∉ used ∧
        next = entry.2.serial :: used := by
  simp only [checkPendingCertificate, bind_eq_ok, reject_eq_ok, exists_const, useSerial_eq_ok,
    isNone_toOption, pure, Except.pure, pendingForm_iff]
  grind

theorem checkBurnedSerial_eq_ok {entry : Σ _ : String, Time} :
    checkBurnedSerial used entry = .ok next ↔
      BurnedForm entry.1 entry.2 ∧ entry.1 ∉ used ∧ next = entry.1 :: used := by
  simp only [checkBurnedSerial, bind_eq_ok, reject_eq_ok, exists_const, useSerial_eq_ok, pure,
    Except.pure, burnedForm_iff]
  grind

theorem checkFederation_eq_ok {entry : Σ _ : String, FederationRecord} :
    checkFederation env snapshot entry = .ok () ↔
      FederationForm env snapshot.identity.trustDomain snapshot.activeCACertificate
        entry.1 entry.2 := by
  simp only [checkFederation, bind_eq_ok, reject_eq_ok, annotated, mapError_eq_ok,
    Unique.exists_iff, PUnit.default_eq_unit, federationForm_iff, SignedBy.iff_parsed,
    validateCACertificate_eq_ok]
  cases parsedCertificate env snapshot.activeCACertificate with
  | none => simp [failure]
  | some =>
    simp only [bind_eq_ok, reject_eq_ok, mapError_eq_ok, exists_const]
    grind [AuthorityEncoding]

/-- The two keys of a cross-certificate: its serial and its identifier. -/
def crossKeys (entry : Σ _ : String, FederationRecord) : List (String ⊕ String) :=
  if entry.2.crossCertificateSerial = "" then []
  else [.inl entry.2.crossCertificateSerial, .inr entry.2.crossCertificateID]

/-- The keys in use while the federations are checked. -/
def crossUsed (state : List String × List String) : List (String ⊕ String) :=
  state.1.map .inl ++ state.2.map .inr

def enterCross (state : List String × List String) (entry : Σ _ : String, FederationRecord) :
    List String × List String :=
  if entry.2.crossCertificateSerial = "" then state
  else (entry.2.crossCertificateSerial :: state.1, entry.2.crossCertificateID :: state.2)

theorem checkFederationSerial_accepts {before after : List String × List String}
    {entry : Σ _ : String, FederationRecord} :
    checkFederationSerial before entry = .ok after ↔
      (entry.2.crossCertificateSerial ≠ "" → CrossForm entry.2) ∧
        (∀ key ∈ crossKeys entry, key ∉ crossUsed before) ∧ after = enterCross before entry := by
  unfold checkFederationSerial crossKeys crossUsed enterCross
  by_cases absent : entry.2.crossCertificateSerial = ""
  · simp [absent, pure, Except.pure, eq_comm]
  · simp only [absent, bind_eq_ok, reject_eq_ok, beq_iff_eq, if_false, exists_const,
      useSerial_eq_ok, pure, Except.pure, crossForm_iff, List.forall_mem_cons]
    grind

theorem checkMTLSRevocation_eq_ok {key : String} {record : RevocationRecord} :
    checkMTLSRevocation snapshot key record = .ok () ↔
      ∃ cert, snapshot.certificates.lookup key = some cert ∧
        cert.serial = record.serial ∧ cert.der = record.certificateDER ∧
        cert.status = .revoked ∧ cert.revokedAt = record.revokedAt := by
  unfold checkMTLSRevocation
  cases snapshot.certificates.lookup key with
  | none => simp [failure]
  | some => simp [and_assoc]

theorem checkCrossRevocation_eq_ok {activeCross : List String} {key : String}
    {record : RevocationRecord} :
    checkCrossRevocation env snapshot activeCross key record = .ok () ↔
      (key ∉ activeCross ∧ snapshot.certificates.lookup key = none) ∧
        ∃ cert, AuthorityEncoding env record.certificateDER cert ∧ serialText cert = record.serial ∧
          (∃ name, trustDomainFromIPNS env cert.subject.commonName = .ok name) ∧
          SignedBy env snapshot.activeCACertificate cert := by
  simp only [checkCrossRevocation, bind_eq_ok, reject_eq_ok, annotated, mapError_eq_ok,
    Unique.exists_iff, PUnit.default_eq_unit, SignedBy.iff_parsed, validateCACertificate_eq_ok,
    has_eq_false, isNone_toOption]
  cases parsedCertificate env snapshot.activeCACertificate with
  | none => simp [failure]
  | some =>
    simp only [bind_eq_ok, reject_eq_ok, mapError_eq_ok, exists_const]
    grind [AuthorityEncoding]

theorem checkRevocation_eq_ok {activeCross : List String} {entry : Σ _ : String, RevocationRecord} :
    checkRevocation env snapshot activeCross used entry = .ok next ↔
      (RevocationForm env snapshot.activeCACertificate entry.1 entry.2 ∧
        RevocationLinks snapshot.certificates activeCross entry.1 entry.2) ∧
        (∀ key ∈ (replacedSerial entry).toList, key ∉ used) ∧
        next = (replacedSerial entry).toList ++ used := by
  simp only [checkRevocation, bind_eq_ok, reject_eq_ok, Unique.exists_iff, PUnit.default_eq_unit,
    revocationForm_iff, revocationLinks_iff, replacedSerial]
  cases kind : entry.2.kind with
  | mtls =>
    simp only [bind_eq_ok, Unique.exists_iff, PUnit.default_eq_unit, checkMTLSRevocation_eq_ok,
      pure, Except.pure]
    grind
  | cross =>
    simp only [bind_eq_ok, Unique.exists_iff, PUnit.default_eq_unit, checkCrossRevocation_eq_ok,
      useSerial_eq_ok]
    grind
  | uncertain | other => simp [failure]

end Certificates

section Publications

variable {env : Platform}

theorem checkOutboxItem_eq_ok {snapshot : Snapshot} {entry : Σ _ : String, Publication} :
    checkOutboxItem env snapshot entry = .ok () ↔
      OutboxForm env snapshot.identity snapshot.revision entry.1 entry.2 := by
  simp only [checkOutboxItem, bind_eq_ok, reject_eq_ok, mapError_eq_ok, exists_const,
    outboxForm_iff]
  grind

def PublishedTally.enter (tally : PublishedTally) (entry : Σ _ : String, PublishedRecord) :
    PublishedTally :=
  if tally.maximumSequence < entry.2.ipnsSequence then {
    maximumSequence := entry.2.ipnsSequence
    maximumRoot := entry.2.rootCID
    sequences := entry.2.ipnsSequence :: tally.sequences }
  else { tally with sequences := entry.2.ipnsSequence :: tally.sequences }

theorem checkPublished_eq_ok {tally next : PublishedTally} {entry : Σ _ : String, PublishedRecord} :
    checkPublished env tally entry = .ok next ↔
      PublishedForm env entry.1 entry.2 ∧
        (∀ key ∈ [entry.2.ipnsSequence], key ∉ tally.sequences) ∧ next = tally.enter entry := by
  simp only [checkPublished, bind_eq_ok, reject_eq_ok, exists_const, isNone_toOption,
    publishedForm_iff, PublishedTally.enter, pure, Except.pure, List.contains_eq_mem]
  split <;> grind

theorem PublishedTally.foldl_highest {entries : List (Σ _ : String, PublishedRecord)}
    {tally : PublishedTally} :
    let final := entries.foldl PublishedTally.enter tally
    (∀ entry ∈ entries, entry.2.ipnsSequence ≤ final.maximumSequence) ∧
      tally.maximumSequence ≤ final.maximumSequence ∧
      ((final.maximumSequence = tally.maximumSequence ∧ final.maximumRoot = tally.maximumRoot) ∨
        ∃ entry ∈ entries, final.maximumSequence = entry.2.ipnsSequence ∧
          final.maximumRoot = entry.2.rootCID) := by
  induction entries generalizing tally with
  | nil => simp
  | cons entry _ ih =>
    obtain ⟨bounded, least, attained⟩ := @ih (tally.enter entry)
    simp only [List.foldl_cons, List.forall_mem_cons, List.exists_mem_cons_iff]
    by_cases newer : tally.maximumSequence < entry.2.ipnsSequence
    · simp only [PublishedTally.enter, newer, if_true] at bounded least attained ⊢
      refine ⟨⟨least, bounded⟩, UInt64.le_trans (UInt64.le_of_lt newer) least, .inr ?_⟩
      exact attained
    · simp only [PublishedTally.enter, newer, if_false] at bounded least attained ⊢
      refine ⟨⟨UInt64.le_trans (UInt64.not_lt.mp newer) least, bounded⟩, least, ?_⟩
      exact attained.imp_right .inr

/-- The last sequence and root are those of the newest completed publication. -/
inductive LastPublished (published : StringMap PublishedRecord) :
    UInt64 → String → Prop where
  | none (empty : ∀ id, published.lookup id = none) : LastPublished published 0 ""
  | newest (id : String) (record : PublishedRecord) (found : published.lookup id = some record)
      (highest : ∀ other earlier, published.lookup other = some earlier →
        earlier.ipnsSequence ≤ record.ipnsSequence) :
      LastPublished published record.ipnsSequence record.rootCID

theorem lastPublished_iff {published : StringMap PublishedRecord} {sequence : UInt64}
    {root : String}
    (forms : ∀ id record, published.lookup id = some record → PublishedForm env id record)
    (distinct : ∀ first second left right, published.lookup first = some left →
      published.lookup second = some right → left.ipnsSequence = right.ipnsSequence →
      first = second) :
    let tally := published.entries.foldl PublishedTally.enter {}
    (tally.maximumSequence = sequence ∧ tally.maximumRoot = root) ↔
      LastPublished published sequence root := by
  intro tally
  obtain ⟨bounded, _, attained⟩ :=
    @PublishedTally.foldl_highest published.entries ({} : PublishedTally)
  have highest : ∀ id record, published.lookup id = some record →
      record.ipnsSequence ≤ tally.maximumSequence :=
    fun id record found => bounded ⟨id, record⟩ (mem_entries_iff.mpr found)
  rcases attained with ⟨zero, none⟩ | ⟨⟨id, record⟩, member, top, rootTop⟩
  · have empty : ∀ id, published.lookup id = Option.none := by
      intro id
      cases found : published.lookup id with
      | none => rfl
      | some record =>
        have below := highest id record found
        rw [show tally.maximumSequence = 0 from zero] at below
        exact absurd (UInt64.le_zero_iff.mp below) (forms id record found).sequence
    constructor
    · rintro ⟨rfl, rfl⟩
      rw [show tally.maximumSequence = 0 from zero, show tally.maximumRoot = "" from none]
      exact .none empty
    · intro last
      cases last with
      | none => exact ⟨zero, none⟩
      | newest id _ found =>
        rw [empty id] at found
        cases found
  · have found : published.lookup id = some record := mem_entries_iff.mp member
    constructor
    · rintro ⟨rfl, rfl⟩
      rw [show tally.maximumSequence = record.ipnsSequence from top,
        show tally.maximumRoot = record.rootCID from rootTop]
      refine .newest id record found fun other earlier foundOther => ?_
      exact UInt64.le_trans (highest other earlier foundOther) (UInt64.le_of_eq top)
    · intro last
      cases last with
      | none empty =>
        rw [empty id] at found
        cases found
      | newest other newest foundNewest newestHighest =>
        have same : record.ipnsSequence = newest.ipnsSequence :=
          UInt64.le_antisymm (newestHighest id record found)
            (UInt64.le_trans (highest other newest foundNewest) (UInt64.le_of_eq top))
        have key := distinct id other record newest found foundNewest same
        subst key
        cases found.symm.trans foundNewest
        exact ⟨top, rootTop⟩

end Publications

end Sovereignite.Trust
