import Sovereignite.TrustPublicDocument

/-!
# Signed IPNS records

A record binds a sequence number to one immutable root.  It is created for the
whole second of the clock, signed over a domain-separated payload, and checked
against its name, its root, its lifetime and the clock before it is used.
Times are in UTC throughout.
-/

namespace Sovereignite.Ipfs

open Effect

/-- The errors a caller of the publisher can branch on. -/
inductive Sentinel where
  | trustRevisionRollback
  | trustRevisionConflict
  | publicationStateConflict
  | publicationStateDurabilityUncertain
  | publicationPending
  | trust (sentinel : Trust.Sentinel)
  deriving DecidableEq

abbrev Error := ErrorValue Sentinel

/-- An error of the trust package, seen from here. -/
def ofTrust : Trust.Error → Error
  | .sentinel sentinel => .sentinel (.trust sentinel)
  | .message text => .message text
  | .wrap text inner => .wrap text (ofTrust inner)
  | .detail inner text => .detail (ofTrust inner) text
  | .both left text right => .both (ofTrust left) text (ofTrust right)
  | .join left right => .join (ofTrust left) (ofTrust right)

def failure {α : Type} (text : String) : Except Error α :=
  .error (.message text)

def second : Duration := 1000000000

structure RecordPolicy where
  validity : Duration
  maxValidity : Duration
  maxStaleness : Duration
  clockSkew : Duration
  deriving DecidableEq

def RecordPolicy.problems (policy : RecordPolicy) (env : Platform) : List (Bool × String) :=
  [(decide (policy.validity ≤ 0), "record validity must be positive"),
    (decide (policy.maxValidity ≤ 0), "maximum record validity must be positive"),
    (decide (policy.maxStaleness ≤ 0), "maximum record staleness must be positive"),
    (decide (policy.clockSkew < 0), "record clock skew cannot be negative"),
    (decide (policy.maxValidity < policy.validity), "record validity exceeds its maximum")] ++
  (env.mapOrder [("record validity", policy.validity),
    ("maximum record validity", policy.maxValidity),
    ("maximum record staleness", policy.maxStaleness),
    ("record clock skew", policy.clockSkew)]).val.map fun (label, value) =>
      (value % second != 0, label ++ " must be a whole number of seconds")

def joinErrors : List String → Option Error
  | [] => none
  | [text] => some (.message text)
  | text :: rest => some ((ErrorValue.message text : Error).joinOption (joinErrors rest))

def RecordPolicy.validate (policy : RecordPolicy) (env : Platform) : Except Error Unit :=
  match joinErrors (((policy.problems env).filter Prod.fst).map Prod.snd) with
  | none => .ok ()
  | some error => .error error

def signedRecordBoundaryV1 : String := "sovereignite-ipns-boundary-v1"

def recordSignatureDomain : String :=
  "github.com/sovereignite/sovereignite/ipns-record/v1\x00"

structure SignedRecord where
  format : String
  name : String
  value : String
  sequence : UInt64
  issuedAt : Time
  validUntil : Time
  ttl : Duration
  signature : Bytes
  deriving DecidableEq

structure Signer where
  name : String
  publicKey : Bytes
  deriving DecidableEq

structure RecordValidation where
  expectedName : String
  expectedRoot : Cid
  previousSequence : UInt64 := 0
  previousIssuedAt : Time := 0
  now : Time
  policy : RecordPolicy
  publicKey : Bytes
  deriving DecidableEq

def unixSeconds (time : Time) : Int :=
  time / second - 62135596800

def canonicalWholeSecond (value : Time) : Bool :=
  value != 0 && value % second == 0

/-- Eight bytes of a signed value in two's complement. -/
def appendInt64 (destination : Bytes) (value : Int) : Bytes :=
  destination ++ putUint64 (value % 2 ^ 64).toNat

section Records

variable (env : Platform)

def validateCanonicalIPNSName (name : String) : Except Error Unit := do
  reject (name == "") (.message "canonical IPNS name is required")
  let decoded ← annotated "decode canonical IPNS name" (env.decodeCid name)
  reject (decoded.version != 1 || decoded.codec != cidLibp2pKey)
    (.message "IPNS name must be a CIDv1 libp2p-key")
  let canonical ← annotated "encode canonical IPNS name" (env.encodeCidBase36 decoded)
  reject (canonical != name) (.message "IPNS name is not canonical lowercase CIDv1/base36")

def canonicalIdentityForPublicKey (publicKey : Bytes) : Except Error String := do
  let keyCID ← annotated "derive IPNS peer ID" (env.identityOfKey publicKey)
  reject (keyCID.version != 1 || keyCID.codec != cidLibp2pKey)
    (.message "public key did not produce a CIDv1 libp2p-key identity")
  let name ← annotated "encode canonical IPNS name" (env.encodeCidBase36 keyCID)
  validateCanonicalIPNSName env name
  reject ((env.decodeCid name).toOption != some keyCID)
    (.message "canonical IPNS name does not round-trip to its public key")
  return name

def SignedRecord.rootCID (record : SignedRecord) : Except Error Cid := do
  reject (!hasPrefix record.value "/ipfs/") (.message "signed record value is not an /ipfs path")
  let encoded := trimPrefix record.value "/ipfs/"
  reject (encoded == "" || containsText encoded "/")
    (.message "signed record value is not a root CID")
  let root ← annotated "decode signed record root CID" (env.decodeCid encoded)
  reject (root.version != 1 || env.cidString root != encoded)
    (.message "signed record root is not a canonical CIDv1")
  return root

def SignedRecord.unsignedPayload (record : SignedRecord) : Except Error Bytes := do
  reject (record.format != signedRecordBoundaryV1)
    (.message "signed record boundary format is unsupported")
  validateCanonicalIPNSName env record.name
  let _ ← record.rootCID env
  reject (record.sequence == 0) (.message "signed record sequence must be positive")
  reject (!canonicalWholeSecond record.issuedAt || !canonicalWholeSecond record.validUntil)
    (.message "signed record times must be canonical whole UTC seconds")
  reject (decide (record.validUntil ≤ record.issuedAt))
    (.message "signed record expiration must follow its issue time")
  reject (decide (record.ttl ≤ 0) ||
      decide (timeSub record.validUntil record.issuedAt < record.ttl) ||
      record.ttl % second != 0)
    (.message "signed record TTL is invalid")
  let payload := bytesOf recordSignatureDomain ++ writeDigestField (bytesOf record.format) ++
    writeDigestField (bytesOf record.name) ++ writeDigestField (bytesOf record.value) ++
    putUint64 record.sequence.toNat
  return appendInt64 (appendInt64 (appendInt64 payload (unixSeconds record.issuedAt))
    (unixSeconds record.validUntil)) record.ttl

def verifyRecordBindingAndSignature (record : SignedRecord) (expectedName : String)
    (expectedRoot : Cid) (publicKey : Bytes) : Except Error Unit := do
  let derivedName ← canonicalIdentityForPublicKey env publicKey
  reject (record.name != expectedName || record.name != derivedName)
    (.message "IPNS record is bound to the wrong name")
  let root ← record.rootCID env
  reject (root != expectedRoot) (.message "IPNS record is bound to the wrong root CID")
  let payload ← record.unsignedPayload env
  reject record.signature.isEmpty (.message "IPNS record signature is required")
  let valid ← annotated "verify IPNS record signature"
    (env.verifySignature publicKey payload record.signature)
  reject (!valid) (.message "IPNS record signature is invalid")

def validateRecordLifetime (record : SignedRecord) (policy : RecordPolicy) :
    Except Error Unit :=
  reject (decide (policy.maxValidity < timeSub record.validUntil record.issuedAt))
    (.message "IPNS record validity exceeds its maximum")

def validateSignedRecord (record : SignedRecord) (validation : RecordValidation) :
    Except Error Unit := do
  validation.policy.validate env
  reject (validation.now == 0) (.message "record validation time is required")
  reject (validation.expectedName == "") (.message "expected IPNS name is required")
  verifyRecordBindingAndSignature env record validation.expectedName
    validation.expectedRoot validation.publicKey
  validateRecordLifetime record validation.policy
  reject (decide (record.sequence ≤ validation.previousSequence))
    (.message s!"IPNS sequence {record.sequence} does not advance high-water mark {validation.previousSequence}")
  reject (validation.previousIssuedAt != 0 &&
      decide (record.issuedAt < validation.previousIssuedAt))
    (.message "IPNS record issue time rolled back")
  reject (decide (validation.now + validation.policy.clockSkew < record.issuedAt))
    (.message "IPNS record issue time is too far in the future")
  reject (decide (record.issuedAt < validation.now) &&
      decide (validation.policy.maxStaleness < timeSub validation.now record.issuedAt))
    (.message "IPNS record exceeds maximum staleness")
  reject (decide (record.validUntil ≤ validation.now)) (.message "IPNS record is expired")

end Records

end Sovereignite.Ipfs
