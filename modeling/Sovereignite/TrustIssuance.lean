import Sovereignite.TrustService

/-!
# Issuing certificates and publishing

The three operations that obtain a certificate from the key manager share one
shape: reserve a serial, call the key manager, and then replace the reservation
by the result or burn its serial.  Publishing drains the outbox one item at a
time.
-/

namespace Sovereignite.Trust

open Effect Program
open KeyManager (CertificateRequest roleDeviceRootCA roleDeviceIPNSIdentity)

def profileDeviceCA : String := "sovereignite-device-ca-v1"

def profileMTLSLeaf : String := "sovereignite-mtls-leaf-v1"

def profileCrossCertificate : String := "sovereignite-federation-cross-certificate-v1"

section Certificates

variable (env : Platform) (config : ServiceConfig)

def caPublicKey : Operating PublicKey := do
  rejectIf (!config.hasKeyManager) (.message "TPM-backed certificate key manager is unavailable")
  let reply ← ask (.metadata roleDeviceRootCA)
  let metadata ← ofExcept (reply.mapError (.wrap "load TPM CA public metadata"))
  rejectIf (metadata.role != roleDeviceRootCA ||
      metadata.purpose != .certificateAuthority || metadata.publicKeyDER.isEmpty)
    (.message "TPM CA public metadata has an invalid role or purpose")
  ofExcept (annotated "parse TPM CA public key" (env.parsePKIXPublicKey metadata.publicKeyDER))

def issueAndParse (request : CertificateRequest) (issueText parseText : String) :
    Operating (Bytes × Certificate) := do
  let reply ← ask (.issueCertificate request)
  let encoded ← ofExcept (reply.mapError (.wrap issueText))
  let cert ← ofExcept (annotated parseText (env.parseCertificate encoded))
  return (encoded, cert)

def localCATemplate (identity : DeviceIdentity) (serial : Int) (publicKey : PublicKey)
    (notBefore notAfter : Time) : Certificate where
  serialNumber := serial
  subject := { commonName := identity.trustDomain, organization := ["Sovereignite"] }
  notBefore := notBefore
  notAfter := notAfter
  keyUsage := keyUsageDigitalSignature ||| keyUsageCertSign ||| keyUsageCRLSign
  basicConstraintsValid := true
  isCA := true
  maxPathLen := 1
  publicKey := some publicKey

def checkLocalCA (cert template : Certificate) (publicKey : PublicKey) :
    Except Error Unit := do
  annotated "verify issued local CA self-signature" (env.checkSignatureFrom cert cert)
  reject (cert.serialNumber != template.serialNumber || !cert.isCA || !cert.basicConstraintsValid ||
      cert.keyUsage &&& keyUsageCertSign == 0 ||
      env.subjectString cert.subject != env.subjectString template.subject ||
      !env.samePublicKey cert.publicKey (some publicKey))
    (.message "issued local CA does not match the authorized template")
  reject (decide (cert.notBefore < template.notBefore) ||
      decide (template.notAfter < cert.notAfter))
    (.message "issued local CA validity exceeds its grant")

def issueLocalCA (serial : Int) (notBefore notAfter : Time) : Operating Bytes := do
  let publicKey ← caPublicKey env config
  let template := localCATemplate config.identity serial publicKey notBefore notAfter
  let (encoded, cert) ← issueAndParse env {
    role := roleDeviceRootCA
    profile := profileDeviceCA
    template := some template
    parent := some template
    subjectPublicKey := some publicKey }
    "TPM-backed local CA issuance" "parse issued local CA"
  ofExcept (checkLocalCA env cert template publicKey)
  return encoded

def mtlsLeafTemplate (identity : DeviceIdentity) (serial : Int)
    (notBefore notAfter : Time) : Certificate where
  serialNumber := serial
  subject := { commonName := identity.spiffeID }
  notBefore := notBefore
  notAfter := notAfter
  keyUsage := keyUsageDigitalSignature
  extKeyUsage := [.clientAuth, .serverAuth]
  basicConstraintsValid := true
  isCA := false
  uris := [some identity.spiffeID]
  publicKey := none

def validateIssuedMTLSCertificate (cert parent : Certificate)
    (identity : DeviceIdentity) (serial : Int) (subjectPublicKey : PublicKey)
    (notBefore notAfter : Time) : Except Error Unit := do
  annotated "verify issued mTLS certificate" (env.checkSignatureFrom cert parent)
  reject (cert.serialNumber != serial || cert.isCA || !cert.basicConstraintsValid ||
      cert.keyUsage != keyUsageDigitalSignature ||
      cert.uris != [some identity.spiffeID] ||
      !env.samePublicKey cert.publicKey (some subjectPublicKey))
    (.message "issued mTLS certificate does not match the authorized profile")
  reject (cert.extKeyUsage.length != 2 || !containsUsage cert.extKeyUsage .clientAuth ||
      !containsUsage cert.extKeyUsage .serverAuth ||
      !cert.unknownExtKeyUsage.isEmpty)
    (.message "issued mTLS certificate has invalid Extended Key Usage")
  reject (decide (cert.notBefore < notBefore) || decide (notAfter < cert.notAfter))
    (.message "issued mTLS certificate validity exceeds its grant")

/-- A leaf certificate and its encoding.  The parsed form is returned too, as
the caller parses the encoding once more. -/
def issueMTLSLeaf (parent : Certificate) (serial : Int) (subjectPublicKey : PublicKey)
    (notBefore notAfter : Time) : Operating (Bytes × Certificate) := do
  let _ ← ofExcept (annotated "parse authorized SPIFFE ID" (env.parseUrl config.identity.spiffeID))
  let (encoded, cert) ← issueAndParse env {
    role := roleDeviceRootCA
    profile := profileMTLSLeaf
    template := some (mtlsLeafTemplate config.identity serial notBefore notAfter)
    parent := some parent
    subjectPublicKey := some subjectPublicKey }
    "TPM-backed mTLS certificate issuance" "parse issued mTLS certificate"
  ofExcept (validateIssuedMTLSCertificate env cert parent config.identity serial
    subjectPublicKey notBefore notAfter)
  return (encoded, cert)

def crossCertificateTemplate (remote : Certificate) (serial : Int)
    (notBefore notAfter : Time) : Certificate where
  serialNumber := serial
  subject := remote.subject
  notBefore := notBefore
  notAfter := notAfter
  keyUsage := keyUsageDigitalSignature ||| keyUsageCertSign ||| keyUsageCRLSign
  basicConstraintsValid := true
  isCA := true
  maxPathLen := 0
  maxPathLenZero := true
  subjectKeyId := remote.subjectKeyId
  publicKey := none

def checkCrossCertificate (cert parent remote : Certificate) (serial : Int)
    (notBefore notAfter : Time) : Except Error Unit := do
  annotated "verify issued cross-certificate" (env.checkSignatureFrom cert parent)
  reject (cert.serialNumber != serial || !cert.isCA ||
      !cert.basicConstraintsValid || cert.maxPathLen != 0 ||
      !cert.maxPathLenZero ||
      env.subjectString cert.subject != env.subjectString remote.subject ||
      !env.samePublicKey cert.publicKey remote.publicKey)
    (.message "issued cross-certificate does not match remote CA input")
  reject (decide (cert.notBefore < notBefore) || decide (notAfter < cert.notAfter))
    (.message "issued cross-certificate validity exceeds its grant")

def issueCrossCertificate (parent remote : Certificate) (serial : Int)
    (notBefore notAfter : Time) : Operating Bytes := do
  let (encoded, cert) ← issueAndParse env {
    role := roleDeviceRootCA
    profile := profileCrossCertificate
    template := some (crossCertificateTemplate remote serial notBefore notAfter)
    parent := some parent
    subjectPublicKey := remote.publicKey }
    "TPM-backed cross-certificate issuance" "parse issued cross-certificate"
  ofExcept (checkCrossCertificate env cert parent remote serial notBefore notAfter)
  return encoded

def reservedSerial (pending : PendingCertificate) : Int :=
  (setString pending.serial).getD 0

/-- Call the key manager for a reservation, then replace the reservation by
the result, or burn its serial. -/
def issueReserved {α β : Type} (ctx : Context) (pending : PendingCertificate)
    (issue : Operating α) (apply : α → Snapshot → Time → Except Error (Snapshot × β)) :
    Operating β := do
  match ← issue.attempt with
  | .error error =>
    burnPending env config (withoutCancel ctx) pending.id error bookkeepingAttempts
  | .ok issued =>
    match ← (finalizePending env config (withoutCancel ctx) pending.id (apply issued)
        bookkeepingAttempts).attempt with
    | .ok entered => return entered
    | .error error =>
      burnPending env config (withoutCancel ctx) pending.id error bookkeepingAttempts

def rejectPending (current : Snapshot) : Operating Unit :=
  rejectIf (current.pendingCertificates.size != 0)
    (.message "uncertain certificate issuance requires recovery")

def initializeLocalCA (ctx : Context) : Operating Bytes :=
  withLock .issueMu do
    let (current, now) ← currentState ctx
    rejectPending current
    rejectIf (!current.activeCACertificate.isEmpty)
      (.message "device-local CA is already initialized")
    let grant ← callPolicy env config {
      operation := .initializeCA
      localIdentity := config.identity
      currentRevision := current.revision } current now
    ofExcept (validateCertificateGrant config.maximumCertificateLifetime grant now)
    let publicKey ← caPublicKey env config
    let publicKeyDER ← ofExcept (annotated "marshal TPM CA public key"
      (env.marshalPKIXPublicKey publicKey))
    let pending ← reserveCertificate env config current grant .initializeCA "" ""
      config.identity.spiffeID publicKeyDER now
    issueReserved env config ctx pending
      (issueLocalCA env config (reservedSerial pending) pending.notBefore pending.notAfter)
      (activateCA env config.identity)

def leafRecord (pending : PendingCertificate) (encoded : Bytes)
    (cert : Certificate) : CertificateRecord where
  id := certificateID env encoded
  spiffeID := config.identity.spiffeID
  serial := (reservedSerial pending).repr
  der := encoded
  subjectPublicKeyDER := cert.rawSubjectPublicKeyInfo
  notBefore := cert.notBefore
  notAfter := cert.notAfter
  status := .active
  issuedAt := pending.createdAt

def issueLocalMTLSCertificate (ctx : Context) : Operating Bytes :=
  withLock .issueMu do
    let (current, now) ← currentState ctx
    rejectPending current
    rejectIf current.activeCACertificate.isEmpty (.message "device-local CA is not initialized")
    rejectIf (!config.hasKeyManager) (.message "TPM-backed certificate key manager is unavailable")
    let grant ← callPolicy env config {
      operation := .issueMTLSCertificate
      localIdentity := config.identity
      currentRevision := current.revision } current now
    ofExcept (validateCertificateGrant config.maximumCertificateLifetime grant now)
    let reply ← ask (.metadata roleDeviceIPNSIdentity)
    let metadata ← ofExcept (reply.mapError (.wrap "load local device public key"))
    rejectIf (metadata.role != roleDeviceIPNSIdentity || metadata.purpose != .deviceIPNSIdentity)
      (.message "local device public key has an invalid role or purpose")
    let publicKey ← ofExcept (annotated "parse local device public key"
      (env.parsePKIXPublicKey metadata.publicKeyDER))
    let parent ← ofExcept (annotated "parse active CA"
      (env.parseCertificate current.activeCACertificate))
    let subjectPublicKeyDER ← ofExcept (annotated "marshal local device public key"
      (env.marshalPKIXPublicKey publicKey))
    let pending ← reserveCertificate env config current grant .issueMTLSCertificate
      "" "" config.identity.spiffeID subjectPublicKeyDER now
    issueReserved env config ctx pending
      (issueMTLSLeaf env config parent (reservedSerial pending) publicKey
        pending.notBefore pending.notAfter)
      (fun issued => activateCertificate (leafRecord env config pending issued.1 issued.2))

def federationRecord (remoteTrustDomain : String) (grant : AuthorizationGrant)
    (material : FederationMaterial) (pending : PendingCertificate)
    (crossCertificate : Bytes) (now : Time) : FederationRecord where
  sourceDomain := config.identity.trustDomain
  targetDomain := remoteTrustDomain
  localRole := grant.localFederationRole
  remoteRole := grant.remoteFederationRole
  sourceGeneration := material.sourceGeneration
  remoteCACertificate := material.remoteCACertificateDER
  crossCertificate := crossCertificate
  crossCertificateID := certificateID env crossCertificate
  crossCertificateSerial := pending.serial
  establishedAt := now
  updatedAt := now

def checkFederationMaterial (current : Snapshot) (remoteTrustDomain : String)
    (grant : AuthorizationGrant) (material : FederationMaterial) :
    Except Error Certificate := do
  reject (material.sourceGeneration == 0 ||
      material.sourceGeneration != grant.sourceGeneration) (.sentinel .staleGeneration)
  reject (match current.federations.lookup remoteTrustDomain with
      | none => false
      | some existing => decide (material.sourceGeneration ≤ existing.sourceGeneration))
    (.sentinel .staleGeneration)
  let remoteCA ← annotated "parse remote federation CA"
    (env.parseCertificate material.remoteCACertificateDER)
  validateCACertificate env material.remoteCACertificateDER
  reject (remoteCA.subject.commonName != remoteTrustDomain)
    (.message "remote federation CA is bound to a different trust domain")
  return remoteCA

def federate (ctx : Context) (state : ConnectionState) (remoteTrustDomain : String) :
    Operating FederationRecord :=
  withLock .issueMu do
    let _ ← ofExcept (trustDomainFromIPNS env remoteTrustDomain)
    rejectIf (remoteTrustDomain == config.identity.trustDomain)
      (.message "federation self-edge is prohibited")
    let (peer, current, now) ← authorizedInput env ctx state
    let _ ← ofExcept (requireAuthorizedPrincipal current peer true)
    rejectPending current
    rejectIf current.activeCACertificate.isEmpty (.message "device-local CA is not initialized")
    rejectIf (!config.hasKeyManager) (.message "TPM-backed certificate key manager is unavailable")
    let grant ← callPolicy env config {
      operation := .federate
      peer
      localIdentity := config.identity
      remoteTrustDomain
      currentRevision := current.revision } current now
    rejectIf (!complementaryFederationRoles grant.localFederationRole grant.remoteFederationRole)
      (.message "federation policy did not authorize explicit hub-and-spoke roles")
    ofExcept (validateCertificateGrant config.maximumCertificateLifetime grant now)
    rejectIf (!config.hasFederationMaterial)
      (.message "federation public material provider is unavailable")
    let reply ← ask (.fetch config.identity remoteTrustDomain peer)
    let material ← ofExcept (reply.mapError (.wrap "fetch federation material"))
    let remoteCA ← ofExcept (checkFederationMaterial env current remoteTrustDomain grant material)
    let parent ← ofExcept (annotated "parse local federation CA"
      (env.parseCertificate current.activeCACertificate))
    let remotePublicKeyDER ← ofExcept (annotated "marshal remote federation CA public key"
      (env.marshalKey remoteCA.publicKey))
    let pending ← reserveCertificate env config current grant .federate ""
      remoteTrustDomain config.identity.spiffeID remotePublicKeyDER now
    issueReserved env config ctx pending
      (issueCrossCertificate env parent remoteCA (reservedSerial pending)
        pending.notBefore pending.notAfter)
      (fun crossCertificate => activateFederation
        (federationRecord env config remoteTrustDomain grant material pending crossCertificate now))

end Certificates

section Publishing

variable (env : Platform) (config : ServiceConfig)

/-- Publish the outbox item by item.  The bound on the items stands for the
unbounded loop: a run of the loop is a run under a large enough bound. -/
def drainItems (ctx : Context) : Nat → Operating Unit
  | 0 => .fail (.message "publication is still running")
  | items + 1 => do
    let (current, _) ← currentState ctx
    match firstPublication current.outbox with
    | none => return ()
    | some publication =>
      let reply ← ask (.publish publication)
      let receipt ← ofExcept
        (reply.mapError (.wrap s!"publish public trust state {quoted publication.id}"))
      ofExcept ((validatePublicationReceipt env receipt publication
        current.lastIPNSSequence).mapError (.wrap "validate public trust-state receipt"))
      let completedAt ← ask .now
      commitCandidate env config .drain current.revision
        (completePublication current publication receipt completedAt)
      drainItems ctx items

def drainOutbox (ctx : Context) (items : Nat) : Operating Unit := do
  rejectIf (ctx == .absent) (.message "publication context is required")
  rejectIf (!config.hasPublisher) (.sentinel .publicationUnavailable)
  withLock .publishMu (drainItems env config ctx items)

end Publishing

end Sovereignite.Trust
