import Sovereignite.KeyManagerOperations

/-!
# Certificates of the key manager

A certificate is issued in two operations.  The first checks the request and the
key of the role, and the second signs with that key if it is still the active
one.  The profile policy decides in between, outside the lock.
-/

namespace Sovereignite.KeyManager

open Effect Program
open Trust (Context)

/-- What the first operation passes to the second. -/
structure Issuance where
  operation : CertificateRequest
  template : Certificate
  parent : Certificate
  subjectPublicKey : PublicKey
  metadata : KeyMetadata
  signerPublic : PublicKey

section Requests

variable (env : Platform)

def clonePublicKey (text : String) (key : PublicKey) : Except Error PublicKey :=
  Except.mapError (.wrap text) (do
    let der ← annotated "marshal public key" (env.marshalPKIXPublicKey key)
    annotated "parse public key copy" (env.parsePKIXPublicKey der))

def cloneCertificateRequest (request : CertificateRequest) : Except Error CertificateRequest := do
  let templateKey ← (request.template.bind (·.publicKey)).mapM
    (clonePublicKey env "copy template public key")
  let parentKey ← (request.parent.bind (·.publicKey)).mapM
    (clonePublicKey env "copy parent public key")
  let subjectPublicKey ← request.subjectPublicKey.mapM
    (clonePublicKey env "copy subject public key")
  return { request with
    template := request.template.map ({ · with publicKey := templateKey })
    parent := request.parent.map ({ · with publicKey := parentKey })
    subjectPublicKey }

def checkCertificateRequest (operation : CertificateRequest) (active : KeyMetadata) :
    Except Error Issuance := do
  reject (trimSpace operation.profile == "") (.message "certificate profile is required")
  match operation.template, operation.parent with
  | some template, some parent =>
    match operation.subjectPublicKey with
    | none => .error (.message "certificate subject public key is required")
    | some subjectPublicKey => do
      reject (!parent.basicConstraintsValid || !parent.isCA ||
          parent.keyUsage &&& keyUsageCertSign == 0)
        (.message "certificate parent is not authorized to sign certificates")
      let signerPublic ← (env.parsePKIXPublicKey active.publicKeyDER).mapError
        fun inner => mismatch s!"parse stored signer public key: {inner}"
      let signerPublicDER ← annotated "marshal signer public key"
        (env.marshalPKIXPublicKey signerPublic)
      let parentPublicDER ← annotated "marshal parent public key" (env.marshalKey parent.publicKey)
      reject (signerPublicDER != parentPublicDER)
        (.message "certificate parent does not match the selected TPM CA role")
      return ⟨operation, template, parent, subjectPublicKey, active, signerPublic⟩
  | _, _ => .error (.message "certificate template and parent are required")

/-- The hash of a payload that is signed as it is. -/
def unhashed : HashAlgorithm := .other ""

def signedHash (algorithm : Algorithm) (payload : Bytes) (hashFunc : HashAlgorithm) :
    Except Error HashAlgorithm :=
  let overDigest : Except Error HashAlgorithm := do
    reject (hashFunc != .sha256 || payload.length != 32)
      (.message "certificate signer requires an exact SHA-256 digest")
    return .sha256
  match algorithm with
  | .rsa4096 => overDigest
  | .ecdsaP256 => overDigest
  | .ed25519 => do
    reject (hashFunc != unhashed)
      (.message "Ed25519 certificate signer requires the unhashed TBS certificate")
    return unhashed
  | .other text => .error (.detail (.sentinel .unsupportedCapability)
      (text ++ ": certificate signing algorithm is not allowlisted"))

end Requests

section Operations

variable (env : Platform) (manager : Manager)

def prepareCertificateLocked (ctx : Context) (request : CertificateRequest) :
    Managing Issuance := do
  let snapshot ← openLocked env manager ctx
  let policy ← ofExcept (configuredPolicy manager request.role)
  rejectIf (policy.purpose != .certificateAuthority)
    (.detail (.sentinel .certificatePurposeDenied) (quoted request.role))
  rejectIf (!manager.hasCertificatePolicy) (.sentinel .certificatePolicyUnavailable)
  match snapshot.roles.lookup request.role with
  | none => .fail (notInitialized request.role)
  | some state => do
    verifyMetadataValue env ctx state.active
    let operation ← ofExcept (cloneCertificateRequest env request)
    ofExcept (checkCertificateRequest env operation state.active)

/-- The signer that the X.509 library calls once, with the hash function of its
options. -/
def certificateSignature (ctx : Context) (metadata : KeyMetadata) (payload : Bytes)
    (options : Option HashAlgorithm) : Managing Bytes := do
  checkContext ctx
  let hashFunc ← ofExcept (options.elim
    (.error (.message "certificate signature options are required")) .ok)
  let read ← ask (.readPublic metadata.handle)
  let object ← ofExcept (read.mapError (.both (.sentinel .metadataMismatch)
    "re-read certificate signer"))
  ofExcept (verifyPublicMetadata env metadata object)
  let hash ← ofExcept (signedHash metadata.algorithm payload hashFunc)
  let signed ← ask (.issue (.sign ⟨objectReference metadata, .certificate,
    metadata.template.signingScheme, hash, payload⟩))
  let signature ← ofExcept (signed.mapError (.wrap "TPM certificate signature"))
  rejectIf signature.isEmpty (.message "TPM returned an empty certificate signature")
  return signature

def createCertificate (ctx : Context) (issuance : Issuance) : Managing Bytes := do
  let encoded ← ask (.issue (.encode issuance.template issuance.parent
    issuance.subjectPublicKey issuance.signerPublic))
  let (payload, options) ← ofExcept encoded
  let signature ← certificateSignature env ctx issuance.metadata payload options
  let assembled ← ask (.issue (.assemble payload signature))
  ofExcept assembled

def signCertificateLocked (ctx : Context) (issuance : Issuance) : Managing Bytes := do
  let snapshot ← openLocked env manager ctx
  rejectIf ((snapshot.roles.lookup issuance.operation.role).map RoleState.active !=
      some issuance.metadata)
    (mismatch "certificate signer changed after profile authorization")
  verifyMetadataValue env ctx issuance.metadata
  let certificateDER ← mapError (.wrap "create certificate") (createCertificate env ctx issuance)
  let cert ← ofExcept (annotated "parse created certificate" (env.parseCertificate certificateDER))
  let verified ← ask (.issue (.verify cert issuance.parent.publicKey))
  ofExcept (verified.mapError (.wrap "verify created TPM-signed certificate"))
  return certificateDER

def issueCertificate (ctx : Context) (request : CertificateRequest) : Managing Bytes := do
  let issuance ← withExclusiveOperation ctx (prepareCertificateLocked env manager ctx request)
  let authorizationCopy ← ofExcept (cloneCertificateRequest env issuance.operation)
  let authorized ← ask (.issue (.authorize authorizationCopy))
  ofExcept (authorized.mapError
    (.wrap s!"authorize certificate profile {quoted issuance.operation.profile}"))
  checkContext ctx
  withExclusiveOperation ctx (signCertificateLocked env manager ctx issuance)

end Operations

end Sovereignite.KeyManager
