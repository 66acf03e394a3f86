import Sovereignite.TrustPublicDocument

/-!
# Validation of the durable trust document

Every stored document passes these checks: the store runs them on each
candidate and the service on each document it loads.  Certificates, pending
reservations, burned serials, cross-certificates and revocations are checked
against one growing set of used serials.
-/

namespace Sovereignite.Trust

open Effect

variable (env : Platform)

def certificateID (encoded : Bytes) : String :=
  env.hexDigest encoded

def parsedCertificate (encoded : Bytes) : Option Certificate :=
  (env.parseCertificate encoded).toOption

def serialText (cert : Certificate) : String :=
  cert.serialNumber.repr

def signsCertificates (cert : Certificate) : Bool :=
  cert.basicConstraintsValid && cert.isCA && cert.keyUsage &&& keyUsageCertSign != 0

def validateSerial (serial : String) : Except Error Unit := do
  reject (serial == "") (.message "certificate serial is required")
  let invalid : Error := .message "certificate serial is not canonical positive decimal"
  match setString serial with
  | none => .error invalid
  | some value => reject (decide (value ≤ 0) || value.repr != serial) invalid

def validateCACertificate (encoded : Bytes) : Except Error Unit := do
  reject (encoded.isEmpty || decide (maximumCertificateDERBytes < encoded.length))
    (.message "CA certificate has an invalid size")
  let cert ← (env.parseCertificate encoded).mapError .message
  reject (!signsCertificates cert) (.message "certificate is not a signing CA")

def complementaryFederationRoles (localRole remoteRole : FederationRole) : Bool :=
  (localRole == .hub && remoteRole == .spoke) || (localRole == .spoke && remoteRole == .hub)

def containsUsage (usages : List ExtKeyUsage) (expected : ExtKeyUsage) : Bool :=
  usages.contains expected

def validateSnapshotMaps (snapshot : Snapshot) : Except Error Unit :=
  reject
    (decide (maximumRelationships < snapshot.relationships.size) ||
      decide (maximumCertificates < snapshot.certificates.size) ||
      decide (maximumPendingCertificates < snapshot.pendingCertificates.size) ||
      decide (maximumCertificates < snapshot.burnedSerials.size) ||
      decide (maximumRevocations < snapshot.revocations.size) ||
      decide (maximumFederations < snapshot.federations.size) ||
      decide (maximumBundles < snapshot.bundles.size) ||
      decide (maximumAppliedGrants < snapshot.appliedGrants.size) ||
      decide (maximumOutboxItems < snapshot.outbox.size) ||
      decide (maximumPublishedItems < snapshot.published.size))
    (.message "trust state exceeds a collection bound")

def validateCA (snapshot : Snapshot) : Except Error Unit := do
  let domain := snapshot.identity.trustDomain
  if snapshot.activeCACertificate.isEmpty then
    reject (snapshot.activeCAID != "") (.message "active CA ID exists without a certificate")
    reject (snapshot.bundles.has domain) (.message "local trust bundle exists without an active CA")
  else
    reject (decide (maximumCertificateDERBytes < snapshot.activeCACertificate.length))
      (.message "active CA certificate exceeds 64 KiB")
    let cert ← annotated "parse active CA certificate"
      (env.parseCertificate snapshot.activeCACertificate)
    reject (!signsCertificates cert)
      (.message "active CA certificate is not a certificate authority")
    reject (cert.subject.commonName != domain)
      (.message "active CA certificate is bound to a different trust domain")
    annotated "verify active CA self-signature" (env.checkSignatureFrom cert cert)
    reject (certificateID env snapshot.activeCACertificate != snapshot.activeCAID)
      (.message "active CA certificate ID is inconsistent")
    reject (match snapshot.bundles.lookup domain with
        | none => true
        | some localBundle =>
          localBundle.caCertificates.head? != some snapshot.activeCACertificate)
      (.message "active CA certificate is missing from its domain-keyed bundle")

structure OwnershipTally where
  activeOwners : Nat := 0
  authorizedOwner : Bool := false
  activePrincipals : List String := []

def checkRelationship (snapshot : Snapshot) (tally : OwnershipTally)
    (entry : Σ _ : String, RelationshipRecord) : Except Error OwnershipTally := do
  let relationship := entry.2
  reject (entry.1 != relationship.id || !certificateIDPattern entry.1)
    (.message "relationship key or ID is invalid")
  reject (relationship.targetPeerID != snapshot.identity.peerID)
    (.message "relationship targets an unknown device")
  let _ ← (parseDeviceSPIFFEID env relationship.principalSPIFFEID).mapError
    (.wrap "relationship principal")
  reject (!certificateIDPattern relationship.principalCertificateHash)
    (.message "relationship principal certificate hash is invalid")
  reject (relationship.role != .owner && relationship.role != .backupAdmin)
    (.message "relationship ownership role is invalid")
  reject (relationship.phase != .provisional && relationship.phase != .authorized &&
      relationship.phase != .revoked)
    (.message "relationship phase is invalid")
  reject (relationship.generation == 0 || relationship.establishedAt == 0 ||
      decide (relationship.updatedAt < relationship.establishedAt))
    (.message "relationship generation or timestamps are invalid")
  if relationship.phase == .revoked then
    return tally
  else
    reject (tally.activePrincipals.contains relationship.principalSPIFFEID)
      (.message "principal has multiple active relationships")
    let owner := relationship.role == .owner
    return {
      activeOwners := if owner then tally.activeOwners + 1 else tally.activeOwners
      authorizedOwner :=
        tally.authorizedOwner || (owner && relationship.phase == .authorized)
      activePrincipals := relationship.principalSPIFFEID :: tally.activePrincipals }

def validateRelationships (snapshot : Snapshot) : Except Error Unit := do
  let tally ← foldEach (checkRelationship env snapshot) {} snapshot.relationships.entries
  reject (decide (1 < tally.activeOwners)) (.message "trust state has multiple active owners")
  reject (snapshot.relationships.values.any fun relationship =>
      relationship.role == .backupAdmin && relationship.phase != .revoked && !tally.authorizedOwner)
    (.message "active backup administrator has no authorized owner")

def useSerial (serial text : String) (serials : List String) : Except Error (List String) := do
  reject (serials.contains serial) (.message text)
  return serial :: serials

def checkCertificate (snapshot : Snapshot) (serials : List String)
    (entry : Σ _ : String, CertificateRecord) : Except Error (List String) := do
  let cert := entry.2
  reject (entry.1 != cert.id || certificateID env cert.der != cert.id ||
      cert.der.isEmpty || decide (maximumCertificateDERBytes < cert.der.length))
    (.message "certificate key or ID is inconsistent")
  validateSerial cert.serial
  let used ← useSerial cert.serial "certificate serial is reused" serials
  let parsed ← annotated "parse durable certificate" (env.parseCertificate cert.der)
  reject (serialText parsed != cert.serial ||
      parsed.rawSubjectPublicKeyInfo != cert.subjectPublicKeyDER ||
      parsed.notBefore != cert.notBefore || parsed.notAfter != cert.notAfter ||
      cert.issuedAt == 0)
    (.message "durable certificate metadata is inconsistent")
  reject (cert.spiffeID != snapshot.identity.spiffeID ||
      parsed.uris != [some cert.spiffeID] || parsed.isCA ||
      !parsed.basicConstraintsValid || parsed.keyUsage != keyUsageDigitalSignature ||
      !containsUsage parsed.extKeyUsage .clientAuth ||
      !containsUsage parsed.extKeyUsage .serverAuth)
    (.message "durable mTLS certificate profile is invalid")
  match parsedCertificate env snapshot.activeCACertificate with
  | none => failure "mTLS certificate exists without an active CA"
  | some parent =>
    reject snapshot.activeCACertificate.isEmpty
      (.message "mTLS certificate exists without an active CA")
    annotated "verify durable mTLS certificate" (env.checkSignatureFrom parsed parent)
  reject (cert.status != .active && cert.status != .revoked)
    (.message "certificate status is invalid")
  reject (cert.status == .revoked && cert.revokedAt == 0)
    (.message "revoked certificate has no revocation time")
  reject (cert.status == .revoked && !snapshot.revocations.has entry.1)
    (.message "revoked certificate has no public revocation record")
  reject (cert.relationshipID != "" && !snapshot.relationships.has cert.relationshipID)
    (.message "certificate refers to an unknown relationship")
  return used

def checkPendingCertificate (serials : List String)
    (entry : Σ _ : String, PendingCertificate) : Except Error (List String) := do
  let pending := entry.2
  reject (entry.1 != pending.id || !certificateIDPattern entry.1)
    (.message "pending certificate ID is invalid")
  reject (!certificateIDPattern pending.grantDigest ||
      (pending.operation != .initializeCA && pending.operation != .issueMTLSCertificate &&
        pending.operation != .federate))
    (.message "pending certificate authorization is invalid")
  validateSerial pending.serial
  let used ← useSerial pending.serial "pending certificate serial is reused" serials
  reject (pending.createdAt == 0 || decide (pending.notAfter < pending.notBefore) ||
      pending.subjectPublicKeyDER.isEmpty)
    (.message "pending certificate is invalid")
  reject (env.parsePKIXPublicKey pending.subjectPublicKeyDER).toOption.isNone
    (.message "pending certificate public key is invalid")
  return used

def checkBurnedSerial (serials : List String) (entry : Σ _ : String, Time) :
    Except Error (List String) := do
  validateSerial entry.1
  let used ← useSerial entry.1 "burned certificate serial is reused" serials
  reject (entry.2 == 0) (.message "burned serial has no timestamp")
  return used

/-- Check the current cross-certificate of a federation.  The state is the
used serials and the identifiers of the current cross-certificates. -/
def checkFederationSerial (state : List String × List String)
    (entry : Σ _ : String, FederationRecord) :
    Except Error (List String × List String) := do
  let federation := entry.2
  if federation.crossCertificateSerial == "" then
    return state
  else
    reject (!certificateIDPattern federation.crossCertificateID)
      (.message "federation cross-certificate ID is invalid")
    reject (state.2.contains federation.crossCertificateID)
      (.message "federation cross-certificate is reused")
    validateSerial federation.crossCertificateSerial
    let used ← useSerial federation.crossCertificateSerial
      "federation cross-certificate serial is reused" state.1
    return (used, federation.crossCertificateID :: state.2)

def checkMTLSRevocation (snapshot : Snapshot) (key : String)
    (revocation : RevocationRecord) : Except Error Unit :=
  match snapshot.certificates.lookup key with
  | none => failure "mTLS revocation record is inconsistent"
  | some cert =>
    reject (cert.serial != revocation.serial || cert.der != revocation.certificateDER ||
        cert.status != .revoked || cert.revokedAt != revocation.revokedAt)
      (.message "mTLS revocation record is inconsistent")

def checkCrossRevocation (snapshot : Snapshot) (activeCross : List String) (key : String)
    (revocation : RevocationRecord) : Except Error Unit := do
  reject (activeCross.contains key) (.message "active federation cross-certificate is revoked")
  reject (snapshot.certificates.has key)
    (.message "cross-certificate revocation collides with an mTLS certificate")
  (validateCACertificate env revocation.certificateDER).mapError
    (.wrap "revoked federation cross-certificate")
  let crossCertificate ←
    (env.parseCertificate revocation.certificateDER).mapError .message
  reject (serialText crossCertificate != revocation.serial)
    (.message "revoked federation cross-certificate serial is inconsistent")
  reject (trustDomainFromIPNS env crossCertificate.subject.commonName).toOption.isNone
    (.message "revoked federation cross-certificate domain is invalid")
  match parsedCertificate env snapshot.activeCACertificate with
  | none => failure "revoked federation cross-certificate has no local CA"
  | some localCA =>
    reject snapshot.activeCACertificate.isEmpty
      (.message "revoked federation cross-certificate has no local CA")
    annotated "verify revoked federation cross-certificate"
      (env.checkSignatureFrom crossCertificate localCA)

def checkRevocation (snapshot : Snapshot) (activeCross : List String)
    (serials : List String) (entry : Σ _ : String, RevocationRecord) :
    Except Error (List String) := do
  let revocation := entry.2
  reject (entry.1 != revocation.certificateID || !certificateIDPattern entry.1 ||
      revocation.revokedAt == 0 || revocation.certificateDER.isEmpty ||
      decide (maximumCertificateDERBytes < revocation.certificateDER.length) ||
      certificateID env revocation.certificateDER != entry.1)
    (.message "revocation record identity is inconsistent")
  validateSerial revocation.serial
  match revocation.kind with
  | .mtls =>
    checkMTLSRevocation snapshot entry.1 revocation
    return serials
  | .cross =>
    checkCrossRevocation env snapshot activeCross entry.1 revocation
    useSerial revocation.serial "revoked federation cross-certificate serial is reused" serials
  | _ => failure "revocation kind is invalid"

def activeCASerials (snapshot : Snapshot) : List String :=
  if snapshot.activeCACertificate.isEmpty then []
  else ((parsedCertificate env snapshot.activeCACertificate).map serialText).toList

def validateCertificates (snapshot : Snapshot) : Except Error Unit := do
  let authority := activeCASerials env snapshot
  checkEach validateSerial authority
  let serials ← foldEach (checkCertificate env snapshot) authority snapshot.certificates.entries
  let serials ← foldEach (checkPendingCertificate env) serials snapshot.pendingCertificates.entries
  let serials ← foldEach checkBurnedSerial serials snapshot.burnedSerials.entries
  let (serials, activeCross) ← foldEach checkFederationSerial (serials, [])
    snapshot.federations.entries
  let serials ← foldEach (checkRevocation env snapshot activeCross) serials
    snapshot.revocations.entries
  reject (serials.any fun serial =>
      match setString serial with
      | none => false
      | some value => decide ((snapshot.nextSerial.toNat : Int) ≤ value))
    (.message "next certificate serial does not exceed every reserved serial")

def checkFederation (snapshot : Snapshot) (entry : Σ _ : String, FederationRecord) :
    Except Error Unit := do
  let federation := entry.2
  reject (entry.1 != federation.targetDomain ||
      federation.sourceDomain != snapshot.identity.trustDomain ||
      federation.targetDomain == federation.sourceDomain)
    (.message "federation edge key or direction is invalid")
  let _ ← (trustDomainFromIPNS env federation.targetDomain).mapError
    (.wrap "federation target domain")
  reject (!complementaryFederationRoles federation.localRole federation.remoteRole)
    (.message "federation edge is not explicit hub-and-spoke")
  reject (federation.sourceGeneration == 0 || federation.establishedAt == 0 ||
      decide (federation.updatedAt < federation.establishedAt))
    (.message "federation generation or timestamps are invalid")
  (validateCACertificate env federation.remoteCACertificate).mapError (.wrap "federation remote CA")
  let remoteCA ← (env.parseCertificate federation.remoteCACertificate).mapError .message
  reject (remoteCA.subject.commonName != federation.targetDomain)
    (.message "federation remote CA is bound to a different domain")
  (validateCACertificate env federation.crossCertificate).mapError
    (.wrap "federation cross-certificate")
  let crossCertificate ←
    (env.parseCertificate federation.crossCertificate).mapError .message
  reject (federation.crossCertificateID != certificateID env federation.crossCertificate ||
      federation.crossCertificateSerial != serialText crossCertificate)
    (.message "federation cross-certificate metadata is inconsistent")
  reject (crossCertificate.subject.commonName != federation.targetDomain)
    (.message "federation cross-certificate has the wrong subject domain")
  match parsedCertificate env snapshot.activeCACertificate with
  | none => failure "federation exists without a local CA"
  | some localCA =>
    reject snapshot.activeCACertificate.isEmpty (.message "federation exists without a local CA")
    annotated "verify federation cross-certificate"
      (env.checkSignatureFrom crossCertificate localCA)

def checkBundle (entry : Σ _ : String, TrustBundleRecord) : Except Error Unit := do
  let bundle := entry.2
  reject (entry.1 != bundle.trustDomain) (.message "trust bundle is stored under the wrong domain")
  let _ ← (trustDomainFromIPNS env entry.1).mapError (.wrap "trust bundle domain")
  reject (bundle.generation == 0 || bundle.updatedAt == 0 || bundle.caCertificates.isEmpty ||
      decide (16 < bundle.caCertificates.length))
    (.message "trust bundle generation or certificate count is invalid")
  checkEach (fun encoded => do
    (validateCACertificate env encoded).mapError (.wrap "trust bundle certificate")
    let cert ← (env.parseCertificate encoded).mapError .message
    reject (cert.subject.commonName != entry.1)
      (.message "trust bundle contains a CA for a different domain")) bundle.caCertificates

def validateFederationsAndBundles (snapshot : Snapshot) : Except Error Unit := do
  checkEach (checkFederation env snapshot) snapshot.federations.entries
  checkEach (checkBundle env) snapshot.bundles.entries

def checkAppliedGrant (entry : Σ _ : String, AppliedGrant) : Except Error Unit :=
  reject (entry.1 != entry.2.digest || !certificateIDPattern entry.1 ||
      entry.2.operation == .other "" || entry.2.appliedAt == 0)
    (.message "applied authorization grant is invalid")

def checkOutboxItem (snapshot : Snapshot) (entry : Σ _ : String, Publication) :
    Except Error Unit := do
  reject (entry.1 != entry.2.id) (.message "outbox item is stored under the wrong ID")
  reject (decide (snapshot.revision < entry.2.stateRevision))
    (.message "outbox item refers to a future trust-state revision")
  (validatePublication env entry.2 snapshot.identity).mapError (.wrap "outbox publication")

/-- The completed publications seen so far. -/
structure PublishedTally where
  maximumSequence : UInt64 := 0
  maximumRoot : String := ""
  sequences : List UInt64 := []

def checkPublished (tally : PublishedTally) (entry : Σ _ : String, PublishedRecord) :
    Except Error PublishedTally := do
  let published := entry.2
  reject (!certificateIDPattern entry.1 || published.digest != entry.1 ||
      published.ipnsSequence == 0 || published.completedAt == 0)
    (.message "completed publication record is invalid")
  reject (env.decodeCid published.rootCID).toOption.isNone
    (.message "completed publication root CID is invalid")
  reject (tally.sequences.contains published.ipnsSequence)
    (.message "completed publication reuses an IPNS sequence")
  let sequences := published.ipnsSequence :: tally.sequences
  if tally.maximumSequence < published.ipnsSequence then
    return { maximumSequence := published.ipnsSequence
             maximumRoot := published.rootCID
             sequences }
  else
    return { tally with sequences }

def validateReplayAndPublicationState (snapshot : Snapshot) : Except Error Unit := do
  checkEach checkAppliedGrant snapshot.appliedGrants.entries
  checkEach (checkOutboxItem env snapshot) snapshot.outbox.entries
  let tally ← foldEach (checkPublished env) {} snapshot.published.entries
  reject (tally.maximumSequence != snapshot.lastIPNSSequence)
    (.message "last IPNS sequence does not match completed publications")
  reject (tally.maximumRoot != snapshot.lastPublishedRoot)
    (.message "last published root does not match completed publications")

def isPristine (snapshot : Snapshot) : Bool :=
  snapshot.identity == {} && snapshot.nextSerial == 1 &&
    snapshot.activeCACertificate.isEmpty && snapshot.activeCAID == "" &&
    snapshot.relationships.size == 0 && snapshot.certificates.size == 0 &&
    snapshot.pendingCertificates.size == 0 && snapshot.burnedSerials.size == 0 &&
    snapshot.revocations.size == 0 && snapshot.federations.size == 0 &&
    snapshot.bundles.size == 0 && snapshot.appliedGrants.size == 0 &&
    snapshot.outbox.size == 0 && snapshot.published.size == 0 &&
    snapshot.lastIPNSSequence == 0 && snapshot.lastPublishedRoot == ""

/-- The checks of a document that has been committed at least once. -/
def validateCommitted (snapshot : Snapshot) : Except Error Unit := do
  let identity ← (deriveDeviceIdentity env snapshot.identity.canonicalIPNS
    snapshot.identity.peerID).mapError (.wrap "durable local identity")
  reject (identity != snapshot.identity) (.message "durable local identity fields are inconsistent")
  validateCA env snapshot
  validateRelationships env snapshot
  validateCertificates env snapshot
  validateFederationsAndBundles env snapshot
  validateReplayAndPublicationState env snapshot

def validateSnapshot (snapshot : Snapshot) : Except Error Unit := do
  reject (snapshot.version != stateVersion)
    (.detail (.sentinel .unsupportedStateVersion) s!"{snapshot.version}")
  reject (snapshot.nextSerial == 0) (.message "next certificate serial must be positive")
  validateSnapshotMaps snapshot
  if snapshot.revision == 0 then
    reject (!isPristine snapshot) (.message "revision-zero trust state is not empty")
  else
    validateCommitted env snapshot

end Sovereignite.Trust
