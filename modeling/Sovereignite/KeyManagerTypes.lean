import Mathlib.Data.List.AList
import Sovereignite.Platform

/-!
# TPM objects and key metadata

The public side of TPM signing keys: handles, templates and public areas, and
the metadata the key manager keeps about the key of each role.  Private data
never leaves the TPM and has no counterpart here.
-/

namespace Sovereignite.KeyManager

open Effect

inductive Sentinel where
  | roleNotConfigured
  | metadataMismatch
  | lifetimeIdentityRotation
  | noHandleAvailable
  | certificatePurposeDenied
  | certificatePolicyUnavailable
  | metadataDurabilityUncertain
  | metadataCounterExhausted
  | metadataRevisionConflict
  | unsupportedCapability
  | handleNotFound
  | handleOccupied
  deriving DecidableEq

abbrev Error := ErrorValue Sentinel

abbrev Handle := UInt32

def persistentHandleFirst : Handle := 0x81000000

def persistentHandleLast : Handle := 0x817fffff

def isPersistent (handle : Handle) : Bool :=
  persistentHandleFirst ≤ handle && handle ≤ persistentHandleLast

inductive Algorithm where
  | rsa4096
  | ecdsaP256
  | ed25519
  | other (text : String)
  deriving DecidableEq

inductive HashAlgorithm where
  | sha256
  | other (text : String)
  deriving DecidableEq

inductive SignatureScheme where
  | rsassaSHA256
  | ecdsaSHA256
  | ed25519
  | other (text : String)
  deriving DecidableEq

structure ObjectAttributes where
  fixedTPM : Bool
  fixedParent : Bool
  sensitiveDataOrigin : Bool
  userWithAuth : Bool
  signEncrypt : Bool
  noDA : Bool
  deriving DecidableEq

structure Template where
  algorithm : Algorithm
  nameHash : HashAlgorithm
  attributes : ObjectAttributes
  rsaBits : Int := 0
  rsaExponent : Int := 0
  curve : String := ""
  signingScheme : SignatureScheme
  deriving DecidableEq

private def signingAttributes : ObjectAttributes where
  fixedTPM := true
  fixedParent := true
  sensitiveDataOrigin := true
  userWithAuth := true
  signEncrypt := true
  noDA := true

/-- No software fallback exists for an algorithm that is not known. -/
def unknownAlgorithm (text : String) : Error :=
  .detail (.sentinel .unsupportedCapability) (text ++ ": unknown key algorithm")

def signingTemplate (algorithm : Algorithm) : Except Error Template :=
  match algorithm with
  | .rsa4096 => .ok {
      algorithm
      nameHash := .sha256
      attributes := signingAttributes
      rsaBits := 4096
      rsaExponent := 65537
      signingScheme := .rsassaSHA256 }
  | .ecdsaP256 => .ok {
      algorithm
      nameHash := .sha256
      attributes := signingAttributes
      curve := "P-256"
      signingScheme := .ecdsaSHA256 }
  | .ed25519 => .ok {
      algorithm
      nameHash := .sha256
      attributes := signingAttributes
      curve := "Ed25519"
      signingScheme := .ed25519 }
  | .other text => .error (unknownAlgorithm text)

structure Public where
  handle : Handle
  name : Bytes
  template : Template
  publicKey : Option PublicKey
  deriving DecidableEq

structure ObjectReference where
  handle : Handle
  name : Bytes
  template : Template
  deriving DecidableEq

inductive SignPurpose where
  | certificate
  | other (text : String)
  deriving DecidableEq

/-- The complete input to a signature of the TPM.  The payload is a SHA-256
digest for RSA and ECDSA templates. -/
structure SignRequest where
  object : ObjectReference
  purpose : SignPurpose
  scheme : SignatureScheme
  hash : HashAlgorithm
  payload : Bytes
  deriving DecidableEq

def validatePublicKey (env : Platform) (template : Template)
    (key : Option PublicKey) : Except Error Unit := do
  let expected ← signingTemplate template.algorithm
  reject (template != expected)
    (.message "TPM public template does not match the required signing template")
  match template.algorithm with
  | .rsa4096 =>
    match key with
    | some (.rsa modulus exponent) =>
      reject (Nat.log2 modulus + 1 != 4096 || exponent != 65537)
        (.message "TPM RSA public key is not RSA-4096 with exponent 65537")
    | _ => .error (.message "TPM public key is not RSA")
  | .ecdsaP256 =>
    match key with
    | some (.ecdsa curve x y) =>
      reject (curve != "P-256" || !env.validP256Point x y)
        (.message "TPM ECDSA public key is not a valid P-256 point")
    | _ => .error (.message "TPM public key is not ECDSA")
  | .ed25519 =>
    match key with
    | some (.ed25519 bytes) =>
      reject (bytes.length != 32) (.message "TPM public key is not Ed25519")
    | _ => .error (.message "TPM public key is not Ed25519")
  | .other text => .error (unknownAlgorithm text)

/-- The PKIX encoding of a public area that matches its template. -/
def canonicalPublicKey (env : Platform) (object : Public) : Except Error Bytes := do
  reject (!isPersistent object.handle)
    (.message s!"TPM handle {hexText object.handle} is not persistent")
  reject object.name.isEmpty (.message "TPM public name is empty")
  validatePublicKey env object.template object.publicKey
  (env.marshalKey object.publicKey).mapError
    fun inner => .wrap "marshal TPM public key" (.message inner)

/-- The responsibility a key serves.  Any text of the right form is a role. -/
abbrev Role := String

def roleDeviceIPNSIdentity : Role := "device-ipns-identity"

def roleDeviceRootCA : Role := "device-root-ca"

inductive KeyPurpose where
  | deviceIPNSIdentity
  | certificateAuthority
  | signing
  | other (text : String)
  deriving DecidableEq

/-- The configuration of one role.  The handles are its own pool, in the order
of use. -/
structure RolePolicy where
  role : Role
  purpose : KeyPurpose
  algorithm : Algorithm
  handles : List Handle
  lifetime : Bool
  rotationInterval : Duration
  deriving DecidableEq

structure KeyMetadata where
  role : Role
  purpose : KeyPurpose
  algorithm : Algorithm
  handle : Handle
  publicName : Bytes
  publicKeyDER : Bytes
  template : Template
  createdAt : Time
  generation : UInt64
  deriving DecidableEq

/-- The key in use by a role and the superseded ones not yet evicted. -/
structure RoleState where
  active : KeyMetadata
  retiring : List KeyMetadata := []
  deriving DecidableEq

abbrev RoleMap (Value : Type) := AList fun _ : Role => Value

structure Snapshot where
  version : Int
  revision : UInt64
  roles : RoleMap RoleState
  pending : RoleMap KeyMetadata
  deriving DecidableEq

def metadataVersion : Int := 1

def emptySnapshot : Snapshot where
  version := metadataVersion
  revision := 0
  roles := ∅
  pending := ∅

/-- A request for one certificate, without any choice of signer or handle. -/
structure CertificateRequest where
  role : Role
  profile : String
  template : Option Certificate
  parent : Option Certificate
  subjectPublicKey : Option PublicKey
  deriving DecidableEq

end Sovereignite.KeyManager
