import Sovereignite.Libp2pTypes

/-!
# The identity key of the TPM

A signing key is known by its handle and its public key; its private part
stays in the TPM.  Before an identity is derived from a key, the key has to
sign a random challenge.
-/

namespace Sovereignite.Libp2p

open Effect
open KeyManager (ObjectReference Public isPersistent)

/-- A public object of the TPM together with the backend that signs for it. -/
structure TPMSigningKeyAdapter where
  publicKey : PubKey
  handle : UInt32
  reference : ObjectReference

/-- A key that signs: the adapter of a TPM object, or any other implementation
with a handle and perhaps a public key. -/
inductive TPMSigningKey where
  | tpm (adapter : TPMSigningKeyAdapter)
  | other (handle : UInt32) (publicKey : Option PubKey)

def TPMSigningKey.handle : TPMSigningKey → UInt32
  | .tpm adapter => adapter.handle
  | .other handle _ => handle

def TPMSigningKey.publicKey : TPMSigningKey → Option PubKey
  | .tpm adapter => some adapter.publicKey
  | .other _ publicKey => publicKey

/-- Sign with the object of an adapter.  The data is the payload of the
request. -/
def TPMSigningKeyAdapter.sign (adapter : TPMSigningKeyAdapter) (data : Bytes) :
    Running Bytes := do
  Program.rejectIf data.isEmpty (.message "signing data is required")
  takeAs "TPM sign" (← ask (.signTPM {
    object := adapter.reference
    purpose := .certificate
    scheme := adapter.reference.template.signingScheme
    hash := .sha256
    payload := data }))

def TPMSigningKey.sign (key : TPMSigningKey) (data : Bytes) : Running Bytes :=
  match key with
  | .tpm adapter => adapter.sign data
  | .other _ _ => do take (← ask (.signData data))

def firstPersistentHandle : UInt32 := 0x81000000

def lastPersistentHandle : UInt32 := 0x81ffffff

def handleText (handle : UInt32) : String :=
  "0x" ++ encodeToString
    ((List.range 4).map fun index => UInt8.ofNat (handle.toNat / 256 ^ (3 - index) % 256))

def validatePersistentHandle (handle : UInt32) : Except Error Unit :=
  reject (decide (handle < firstPersistentHandle) || decide (lastPersistentHandle < handle))
    (.message s!"TPM handle {handleText handle} is not in the persistent handle range")

/-- A private key that signs in the TPM and cannot be exported. -/
structure NonExportablePrivateKey where
  key : TPMSigningKey
  handle : UInt32
  publicKey : PubKey

structure Identity where
  publicIdentity : PublicIdentity
  privateKey : NonExportablePrivateKey

def identityProofDomain : String :=
  "github.com/sovereignite/sovereignite/libp2p-identity-proof/v1\x00"

variable (env : Platform) (lib : Library)

def convertPublicKey : Option PublicKey → Except Error PubKey
  | some (.ecdsa curve x y) =>
    (lib.ecdsaPublicKeyFromPubKey (.ecdsa curve x y)).mapError .message
  | some (.rsa modulus exponent) => do
    let der ← annotated "marshal RSA public key" (env.marshalPKIXPublicKey (.rsa modulus exponent))
    (lib.unmarshalRsaPublicKey der).mapError .message
  | some (.ed25519 _) => failure "unsupported TPM public key type ed25519.PublicKey"
  | some (.other kind) => failure s!"unsupported TPM public key type {kind}"
  | none => failure "unsupported TPM public key type <nil>"

def newTPMSigningKeyAdapter (object : Public) : Except Error TPMSigningKeyAdapter := do
  reject (!isPersistent object.handle)
    (.message s!"TPM handle {hexText object.handle} is not persistent")
  reject object.name.isEmpty (.message "TPM public name is empty")
  let libp2pKey ← convertPublicKey env lib object.publicKey
  return {
    publicKey := libp2pKey
    handle := object.handle
    reference := ⟨object.handle, object.name, object.template⟩ }

/-- Whether the network library accepts a signature.  It hashes the message
once. -/
def verify (key : PubKey) (message signature : Bytes) : Except String Bool :=
  lib.verifyDigest key (env.sha256 message) signature

def newNonExportablePrivateKey (key : TPMSigningKey) : Except Error NonExportablePrivateKey := do
  validatePersistentHandle key.handle
  match key.publicKey with
  | none => failure "TPM signing key has no public key"
  | some publicKey => do
    reject (publicKey.keyType != .rsa && publicKey.keyType != .ecdsa)
      (.message s!"TPM signing key type {publicKey.keyType.text} is not RSA or ECDSA")
    let _ ← annotated "marshal TPM public key" (lib.marshalPublicKey publicKey)
    return ⟨key, key.handle, publicKey⟩

def NonExportablePrivateKey.sign (privateKey : NonExportablePrivateKey) (data : Bytes) :
    Running Bytes :=
  (privateKey.key.sign data).mapError (.wrap "TPM sign")

/-- The message a key has to sign before it is used. -/
def proofChallenge (random : Bytes) : Bytes :=
  bytesOf identityProofDomain ++ random

def proveSigningKey (privateKey : NonExportablePrivateKey) : Running Unit := do
  let random ← takeAs "generate TPM identity proof challenge" (← ask (.random 32))
  let challenge := proofChallenge random
  let signature ← (privateKey.sign challenge).mapError
    (.wrap "prove TPM identity signing capability")
  let valid ← Program.ofExcept (annotated "verify TPM identity proof"
    (verify env lib privateKey.publicKey challenge signature))
  Program.rejectIf (!valid) (.message "TPM signer does not match its advertised public key")
  checkContext

/-- Accept one DNS label: at most 63 lowercase letters, digits and inner
hyphens. -/
def validateHostnameLabel (name : String) : Except Error Unit := do
  reject (byteLength name == 0) (.message "hostname is required")
  reject (decide (63 < byteLength name)) (.message "hostname exceeds the 63-byte DNS label limit")
  match hostnameOffset name.length 0 name.toList with
  | none => .ok ()
  | some index => failure s!"hostname contains an invalid byte at offset {index}"

def derivePublicIdentity (handle : UInt32) (publicKey : PubKey) :
    Except Error PublicIdentity := do
  validatePersistentHandle handle
  let _ ← annotated "marshal public key" (lib.marshalPublicKey publicKey)
  let peerID ← annotated "derive peer ID" (lib.idFromPublicKey publicKey)
  let keyCID := env.peerToCid peerID
  reject (keyCID.version != 1 || keyCID.codec != cidLibp2pKey)
    (.message "derive CIDv1 libp2p-key identifier")
  let name ← annotated "encode libp2p-key CID as base36" (env.encodeCidBase36 keyCID)
  reject (name != name.toLower || hasPrefix name "/ipns/")
    (.message "derived IPNS identifier is not canonical")
  (validateHostnameLabel name).mapError (.wrap "canonical IPNS identifier is not a hostname label")
  return ⟨handle, publicKey, peerID, name⟩

def prepareIdentity (key : TPMSigningKey) : Running Identity := do
  checkContext
  let privateKey ← Program.ofExcept (newNonExportablePrivateKey lib key)
  proveSigningKey env lib privateKey
  let publicIdentity ← Program.ofExcept
    (derivePublicIdentity env lib privateKey.handle privateKey.publicKey)
  return ⟨publicIdentity, privateKey⟩

end Sovereignite.Libp2p
