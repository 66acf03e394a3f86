import Sovereignite.TrustValidation

/-!
# Peers, grants and candidate documents

The parts of the trust service that only compute: who a connection
authenticates, whether a grant may be used, and which document each operation
proposes as the successor of the one it read.
-/

namespace Sovereignite.Trust

open Effect

/-- What the TLS layer reports of a connection. -/
structure ConnectionState where
  handshakeComplete : Bool
  version : Nat
  peerCertificates : List (Option Certificate)
  verifiedChains : List (List (Option Certificate))
  deriving DecidableEq

def versionTLS13 : Nat := 0x0304

structure VerifiedMTLSPeer where
  identity : DeviceIdentity := {}
  certificateDER : Bytes := []
  certificateHash : Bytes := []
  publicKeyHash : Bytes := []
  notBefore : Time := 0
  notAfter : Time := 0
  deriving DecidableEq

/-- Whether some complete chain starts with the leaf. -/
def verifiedLeaf (leaf : Certificate) (chains : List (List (Option Certificate))) : Bool :=
  chains.any fun chain =>
    chain.all Option.isSome &&
      match chain.head? with
      | some (some first) => leaf.raw == first.raw
      | _ => false

def allowsClientAuthentication (cert : Certificate) : Bool :=
  (cert.extKeyUsage.isEmpty && cert.unknownExtKeyUsage.isEmpty) ||
    cert.extKeyUsage.any fun usage => usage == .clientAuth || usage == .any

def verifyMutualTLSPeer (env : Platform) (state : ConnectionState) (now : Time) :
    Except Error VerifiedMTLSPeer := do
  reject (!state.handshakeComplete) (.message "mTLS handshake is incomplete")
  reject (state.version != versionTLS13) (.message "mTLS requires TLS 1.3")
  match state.peerCertificates with
  | some leaf :: _ =>
    reject (!verifiedLeaf leaf state.verifiedChains)
      (.message "mTLS client certificate has no matching verified chain")
    reject (now == 0) (.message "verification time is required")
    reject (decide (now < leaf.notBefore)) (.message "mTLS client certificate is not yet valid")
    reject (decide (leaf.notAfter < now)) (.message "mTLS client certificate is expired")
    reject (!leaf.basicConstraintsValid || leaf.isCA)
      (.message "mTLS peer certificate must be a leaf")
    reject (leaf.keyUsage &&& keyUsageDigitalSignature == 0 ||
        leaf.keyUsage &&& (keyUsageCertSign ||| keyUsageCRLSign) != 0)
      (.message "mTLS client certificate has invalid Key Usage")
    reject (!allowsClientAuthentication leaf)
      (.message "mTLS client certificate does not permit client authentication")
    match leaf.uris with
    | [some uri] =>
      let identity ← (parseDeviceSPIFFEID env uri).mapError (.wrap "mTLS client SPIFFE ID")
      reject (leaf.raw.isEmpty || leaf.rawSubjectPublicKeyInfo.isEmpty)
        (.message "mTLS client certificate is missing canonical DER")
      return {
        identity
        certificateDER := leaf.raw
        certificateHash := env.sha256 leaf.raw
        publicKeyHash := env.sha256 leaf.rawSubjectPublicKeyInfo
        notBefore := leaf.notBefore
        notAfter := leaf.notAfter }
    | _ => failure "mTLS client certificate must contain exactly one URI SAN"
  | _ => failure "mTLS client certificate is required"

structure AuthorizationIntent where
  operation : Operation
  peer : VerifiedMTLSPeer := {}
  localIdentity : DeviceIdentity
  targetPeerID : String := ""
  relationshipID : String := ""
  certificateID : String := ""
  remoteTrustDomain : String := ""
  currentRevision : UInt64
  deriving DecidableEq

def grantIDPattern (text : String) : Bool :=
  matchesClass
    (fun character => (character.isAlphanum && decide (character.toNat < 128)) ||
      character == '_' || character == '-') 16 128 text

def validateGrant (grant : AuthorizationGrant) (expectedRevision : UInt64) (now : Time)
    (maximumLifetime : Duration) : Except Error Unit := do
  reject (!grantIDPattern grant.grantID) (.message "authorization grant ID is invalid")
  reject (grant.expectedRevision != expectedRevision) (.sentinel .staleGeneration)
  reject (grant.expiresAt == 0 || decide (grant.expiresAt ≤ now))
    (.message "authorization grant is expired")
  reject (decide (maximumLifetime ≤ 0) || decide (now + maximumLifetime < grant.expiresAt))
    (.message "authorization grant exceeds the configured lifetime")

def validateCertificateGrant (maximumCertificateLifetime : Duration)
    (grant : AuthorizationGrant) (now : Time) : Except Error Unit := do
  reject (grant.certificateNotBefore == 0 || grant.certificateNotAfter == 0 ||
      decide (grant.certificateNotAfter ≤ grant.certificateNotBefore) ||
      decide (grant.certificateNotAfter ≤ now))
    (.message "certificate grant validity is invalid")
  reject (decide (maximumCertificateLifetime <
      timeSub grant.certificateNotAfter grant.certificateNotBefore))
    (.message "certificate grant exceeds the configured lifetime")

def grantDigestDomain : String :=
  "github.com/sovereignite/sovereignite/trust-authorization-grant/v1\x00"

def relationshipDigestDomain : String :=
  "github.com/sovereignite/sovereignite/trust-relationship/v1\x00"

def uncertainRevocationDigestDomain : String :=
  "github.com/sovereignite/sovereignite/trust-uncertain-revocation/v1\x00"

section Candidates

variable (env : Platform)

def grantDigest (grantID : String) : String :=
  env.hexDigest (bytesOf grantDigestDomain ++ bytesOf grantID)

def relationshipPreimage (grantID peerID principalSPIFFEID : String) : Bytes :=
  bytesOf relationshipDigestDomain ++ writeDigestField (bytesOf grantID) ++
    writeDigestField (bytesOf peerID) ++ writeDigestField (bytesOf principalSPIFFEID)

def relationshipID (grantID peerID principalSPIFFEID : String) : String :=
  env.hexDigest (relationshipPreimage grantID peerID principalSPIFFEID)

def uncertainRevocationID (trustDomain serial : String) : String :=
  env.hexDigest
    (bytesOf uncertainRevocationDigestDomain ++ writeDigestField (bytesOf trustDomain) ++
      writeDigestField (bytesOf serial))

def recordAppliedGrant (snapshot : Snapshot) (grant : AuthorizationGrant)
    (operation : Operation) (now : Time) : Snapshot :=
  let digest := grantDigest env grant.grantID
  { snapshot with
    appliedGrants := snapshot.appliedGrants.insert digest { digest, operation, appliedAt := now } }

def nextRevision (current : Snapshot) : Snapshot :=
  { current with revision := current.revision + 1 }

/-- Whether there is an owner that is not revoked, and one that is authorized. -/
def ownerState (relationships : StringMap RelationshipRecord) : Bool × Bool :=
  let owners := relationships.values.filter fun relationship =>
    relationship.role == .owner && relationship.phase != .revoked
  (!owners.isEmpty, owners.any fun relationship => relationship.phase == .authorized)

/-- Authorize a provisional relationship of the same principal and role. -/
def upgradeRelationship (next : Snapshot) (peer : VerifiedMTLSPeer)
    (grant : AuthorizationGrant) (now : Time) :
    Except Error (Snapshot × RelationshipRecord) :=
  match next.relationships.lookup grant.relatedRelationship with
  | none => failure "provisional authorization transition is invalid"
  | some relationship => do
    reject (relationship.phase != .provisional ||
        relationship.principalSPIFFEID != peer.identity.spiffeID ||
        relationship.role != grant.ownershipRole ||
        grant.relationshipPhase != .authorized)
      (.message "provisional authorization transition is invalid")
    let upgraded := { relationship with
      phase := .authorized
      generation := relationship.generation + 1
      updatedAt := now }
    return ({ next with
      relationships := next.relationships.insert upgraded.id upgraded }, upgraded)

/-- Enter a relationship under the identifier of its grant and principal. -/
def enterRelationship (next : Snapshot) (peer : VerifiedMTLSPeer)
    (grant : AuthorizationGrant) (now : Time) : Snapshot × RelationshipRecord :=
  let id := relationshipID env grant.grantID next.identity.peerID peer.identity.spiffeID
  let relationship : RelationshipRecord := {
    id
    targetPeerID := next.identity.peerID
    principalSPIFFEID := peer.identity.spiffeID
    principalCertificateHash := encodeToString peer.certificateHash
    role := grant.ownershipRole
    phase := grant.relationshipPhase
    generation := 1
    establishedAt := now
    updatedAt := now }
  ({ next with relationships := next.relationships.insert id relationship }, relationship)

def checkNewRelationship (next : Snapshot) (peer : VerifiedMTLSPeer)
    (grant : AuthorizationGrant) : Except Error Unit := do
  reject (next.relationships.values.any fun relationship =>
      relationship.phase != .revoked && relationship.principalSPIFFEID == peer.identity.spiffeID)
    (.message "principal already has an active relationship")
  let (hasActiveOwner, hasAuthorizedOwner) := ownerState next.relationships
  if grant.relationshipPhase == .provisional then
    reject (grant.ownershipRole != .owner || hasActiveOwner)
      (.message "provisional relationship must be the sole owner")
  else if grant.ownershipRole == .owner then
    reject hasActiveOwner (.message "an active owner already exists")
  else
    reject (!hasAuthorizedOwner) (.message "backup administrator requires an authorized owner")

def applyAdoption (next : Snapshot) (peer : VerifiedMTLSPeer) (grant : AuthorizationGrant)
    (now : Time) : Except Error (Snapshot × RelationshipRecord) := do
  reject (grant.ownershipRole != .owner && grant.ownershipRole != .backupAdmin)
    (.message "authorization grant has an invalid ownership role")
  reject (grant.relationshipPhase != .provisional && grant.relationshipPhase != .authorized)
    (.message "authorization grant has an invalid adoption phase")
  if grant.relatedRelationship != "" then
    upgradeRelationship next peer grant now
  else
    checkNewRelationship next peer grant
    return enterRelationship env next peer grant now

/-- The relationship under which a peer may act, if it is authorized with the
recorded certificate. -/
def requireAuthorizedPrincipal (snapshot : Snapshot) (peer : VerifiedMTLSPeer)
    (requireOwner : Bool) : Except Error RelationshipRecord := do
  let candidate := snapshot.relationships.values.find? fun relationship =>
    relationship.principalSPIFFEID == peer.identity.spiffeID && relationship.phase == .authorized
  match candidate with
  | none => .error (.sentinel .notAuthorized)
  | some relationship =>
    reject (relationship.principalCertificateHash != encodeToString peer.certificateHash)
      (.sentinel .notAuthorized)
    reject (requireOwner && relationship.role != .owner) (.sentinel .notAuthorized)
    return relationship

def revokeCertificateRecord (next : Snapshot) (id : String)
    (cert : CertificateRecord) (now : Time) : Snapshot :=
  { next with
    certificates := next.certificates.insert id { cert with status := .revoked, revokedAt := now }
    revocations := next.revocations.insert id {
      certificateID := id
      serial := cert.serial
      kind := .mtls
      certificateDER := cert.der
      revokedAt := now } }

/-- Revoke a certificate if it is bound to the relationship and not revoked. -/
def revokeBoundCertificate (relationshipID : String) (now : Time) (next : Snapshot)
    (entry : Σ _ : String, CertificateRecord) : Snapshot :=
  if entry.2.relationshipID != relationshipID || entry.2.status == .revoked then next
  else revokeCertificateRecord next entry.1 entry.2 now

def revokeRelationship (current : Snapshot) (relationshipID : String)
    (relationship : RelationshipRecord) (now : Time) : Snapshot :=
  let next := nextRevision current
  let revoked := { relationship with
    phase := .revoked
    generation := relationship.generation + 1
    updatedAt := now }
  next.certificates.entries.foldl (revokeBoundCertificate relationshipID now)
    { next with relationships := next.relationships.insert relationshipID revoked }

def pendingCertificate (current : Snapshot) (grant : AuthorizationGrant)
    (operation : Operation) (relationshipID remoteTrustDomain spiffeID : String)
    (subjectPublicKeyDER : Bytes) (now : Time) : PendingCertificate where
  id := grantDigest env grant.grantID
  grantDigest := grantDigest env grant.grantID
  operation := operation
  relationshipID := relationshipID
  remoteTrustDomain := remoteTrustDomain
  spiffeID := spiffeID
  serial := current.nextSerial.toNat.repr
  subjectPublicKeyDER := subjectPublicKeyDER
  notBefore := grant.certificateNotBefore
  notAfter := grant.certificateNotAfter
  createdAt := now

def reserveSerial (current : Snapshot) (pending : PendingCertificate)
    (grant : AuthorizationGrant) (operation : Operation) (now : Time) : Snapshot :=
  let next := nextRevision current
  recordAppliedGrant env { next with
      nextSerial := next.nextSerial + 1
      pendingCertificates := next.pendingCertificates.insert pending.id pending }
    grant operation now

def releasePending (current : Snapshot) (pendingID : String) : Snapshot :=
  let next := nextRevision current
  { next with pendingCertificates := next.pendingCertificates.erase pendingID }

def burnSerial (next : Snapshot) (serial : String) (now : Time) : Snapshot :=
  { next with burnedSerials := next.burnedSerials.insert serial now }

/-- Replace one reservation by the burning of its serial. -/
def burnEntry (now : Time) (document : Snapshot) (entry : Σ _ : String, PendingCertificate) :
    Snapshot :=
  burnSerial { document with pendingCertificates := document.pendingCertificates.erase entry.1 }
    entry.2.serial now

def burnAllPending (current : Snapshot) (now : Time) : Snapshot :=
  let next := nextRevision current
  next.pendingCertificates.entries.foldl (burnEntry now) next

def activateCA (identity : DeviceIdentity) (encoded : Bytes) (next : Snapshot)
    (completedAt : Time) : Except Error (Snapshot × Bytes) := do
  reject (!next.activeCACertificate.isEmpty)
    (.message "device-local CA was initialized concurrently")
  return ({ next with
    activeCACertificate := encoded
    activeCAID := certificateID env encoded
    bundles := next.bundles.insert identity.trustDomain {
      trustDomain := identity.trustDomain
      generation := 1
      caCertificates := [encoded]
      updatedAt := completedAt } }, encoded)

def activateCertificate (record : CertificateRecord) (next : Snapshot)
    (completedAt : Time) : Except Error (Snapshot × Bytes) := do
  reject (next.certificates.has record.id) (.message "issued certificate already exists")
  return ({ next with
    certificates := next.certificates.insert record.id
      { record with issuedAt := completedAt } }, record.der)

/-- The revocation of the cross-certificate a new one replaces. -/
def replacedCrossCertificate (existing : FederationRecord) (completedAt : Time) :
    RevocationRecord where
  certificateID := existing.crossCertificateID
  serial := existing.crossCertificateSerial
  kind := .cross
  certificateDER := existing.crossCertificate
  revokedAt := completedAt

def enterFederation (record : FederationRecord) (next : Snapshot) (completedAt : Time) :
    Snapshot :=
  { next with
    federations := next.federations.insert record.targetDomain record
    bundles := next.bundles.insert record.targetDomain {
      trustDomain := record.targetDomain
      generation := record.sourceGeneration
      caCertificates := [record.remoteCACertificate]
      updatedAt := completedAt } }

/-- Enter a federation edge, revoking the cross-certificate of the edge it
replaces. -/
def activateFederation (record : FederationRecord) (next : Snapshot) (completedAt : Time) :
    Except Error (Snapshot × FederationRecord) := do
  let updated := { record with updatedAt := completedAt }
  match next.federations.lookup record.targetDomain with
  | none => return (enterFederation updated next completedAt, updated)
  | some existing =>
    reject (decide (record.sourceGeneration ≤ existing.sourceGeneration))
      (.sentinel .staleGeneration)
    let retired := { next with
      revocations := next.revocations.insert existing.crossCertificateID
        (replacedCrossCertificate existing completedAt) }
    let renewed := { updated with establishedAt := existing.establishedAt }
    return (enterFederation renewed retired completedAt, renewed)

/-- Drop the completed publication with the lowest sequence. -/
def pruneOldestPublished (records : StringMap PublishedRecord) :
    StringMap PublishedRecord :=
  let oldest := records.entries.foldl (fun (oldest : String × UInt64) entry =>
      if oldest.1 == "" || entry.2.ipnsSequence < oldest.2 then
        (entry.1, entry.2.ipnsSequence)
      else oldest)
    ("", 0)
  if oldest.1 == "" then records else records.erase oldest.1

/-- Move a published item from the outbox to the completed publications. -/
def completePublication (current : Snapshot) (publication : Publication)
    (receipt : PublicationReceipt) (completedAt : Time) : Snapshot :=
  let next := nextRevision current
  let published :=
    if maximumPublishedItems ≤ next.published.size then pruneOldestPublished next.published
    else next.published
  { next with
    outbox := next.outbox.erase publication.id
    published := published.insert publication.id {
      digest := publication.digest
      rootCID := receipt.rootCID
      ipnsSequence := receipt.ipnsSequence
      completedAt }
    lastIPNSSequence := receipt.ipnsSequence
    lastPublishedRoot := receipt.rootCID }

/-- The outbox item of the lowest revision, ties broken by identifier. -/
def firstPublication (outbox : StringMap Publication) : Option Publication :=
  ((outbox.entries.insertionSort fun left right =>
    left.2.stateRevision < right.2.stateRevision ∨
      (left.2.stateRevision = right.2.stateRevision ∧ left.1 ≤ right.1)).head?).map Sigma.snd

end Candidates

section PublicView

structure PublicCertificate where
  id : String
  spiffeID : String
  serial : String
  der : Bytes
  notBefore : Time
  notAfter : Time
  status : CertificateStatus
  deriving DecidableEq

structure PublicRevocation where
  statusID : String
  certificateID : String := ""
  serial : String
  kind : RevocationKind
  certificateDER : Bytes := []
  revokedAt : Time
  deriving DecidableEq

structure PublicFederation where
  sourceDomain : String
  targetDomain : String
  sourceGeneration : UInt64
  remoteCACertificateDER : Bytes
  crossCertificateDER : Bytes
  establishedAt : Time
  deriving DecidableEq

/-- The part of a document that a builder of public documents receives. -/
structure PublicStateView where
  revision : UInt64
  localIdentity : DeviceIdentity
  activeCACertificateDER : Bytes
  certificates : List PublicCertificate
  revocations : List PublicRevocation
  federations : List PublicFederation
  deriving DecidableEq

/-- Add a revocation under an identifier that is not used yet. -/
def addStatus (collected : List PublicRevocation) (revocation : PublicRevocation) :
    Except Error (List PublicRevocation) := do
  reject (collected.any fun earlier => earlier.statusID == revocation.statusID)
    (.message "public revocation status ID is reused")
  return revocation :: collected

def publicStateView (env : Platform) (snapshot : Snapshot) :
    Except Error PublicStateView := do
  let certificates := snapshot.certificates.values.map fun cert =>
    ({ id := cert.id
       spiffeID := cert.spiffeID
       serial := cert.serial
       der := cert.der
       notBefore := cert.notBefore
       notAfter := cert.notAfter
       status := cert.status } : PublicCertificate)
  let revoked := snapshot.revocations.values.map fun revocation =>
    ({ statusID := revocation.certificateID
       certificateID := revocation.certificateID
       serial := revocation.serial
       kind := revocation.kind
       certificateDER := revocation.certificateDER
       revokedAt := revocation.revokedAt } : PublicRevocation)
  let uncertain := snapshot.burnedSerials.entries.map fun entry =>
    ({ statusID := uncertainRevocationID env snapshot.identity.trustDomain entry.1
       serial := entry.1
       kind := .uncertain
       revokedAt := entry.2 } : PublicRevocation)
  let revocations ← foldEach addStatus [] (revoked ++ uncertain)
  let federations := snapshot.federations.values.map fun federation =>
    ({ sourceDomain := federation.sourceDomain
       targetDomain := federation.targetDomain
       sourceGeneration := federation.sourceGeneration
       remoteCACertificateDER := federation.remoteCACertificate
       crossCertificateDER := federation.crossCertificate
       establishedAt := federation.establishedAt } : PublicFederation)
  return {
    revision := snapshot.revision
    localIdentity := snapshot.identity
    activeCACertificateDER := snapshot.activeCACertificate
    certificates := certificates.insertionSort fun left right => left.id ≤ right.id
    revocations := revocations.insertionSort fun left right => left.statusID ≤ right.statusID
    federations := federations.insertionSort fun left right =>
      left.targetDomain ≤ right.targetDomain }

end PublicView

end Sovereignite.Trust
