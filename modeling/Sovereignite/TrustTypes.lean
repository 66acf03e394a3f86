import Mathlib.Data.List.AList
import Sovereignite.Platform

/-!
# The durable trust document

The records of the trust service and the snapshot that holds them.  Collections
are finite maps from identifiers; counters are unsigned 64-bit values.  An
enumeration that the source keeps as text has one constructor for every other
text, since grants and decoded files can carry any.
-/

namespace Sovereignite.Trust

open Effect

inductive Sentinel where
  | authorizationUnavailable
  | publicationUnavailable
  | publicationSchemaUnavailable
  | revisionConflict
  | stateRollback
  | staleGeneration
  | replay
  | notAuthorized
  | unsupportedStateVersion
  | notExist
  | mismatchedPeerID
  | mismatchedSPIFFEID
  | unknownHandle
  | stalePeerRecordEnvelope
  deriving DecidableEq

abbrev Error := ErrorValue Sentinel

def stateVersion : Int := 1

def maximumRelationships : Nat := 1024

def maximumCertificates : Nat := 4096

def maximumPendingCertificates : Nat := 64

def maximumRevocations : Nat := 4096

def maximumFederations : Nat := 128

def maximumBundles : Nat := 128

def maximumAppliedGrants : Nat := 4096

def maximumOutboxItems : Nat := 256

def maximumPublishedItems : Nat := 4096

def maximumCertificateDERBytes : Nat := 64 * 1024

inductive CertificateStatus where
  | active
  | revoked
  | other (text : String)
  deriving DecidableEq

inductive RevocationKind where
  | mtls
  | cross
  | uncertain
  | other (text : String)
  deriving DecidableEq

inductive Operation where
  | adopt
  | revokeRelationship
  | initializeCA
  | issueMTLSCertificate
  | revokeCertificate
  | federate
  | other (text : String)
  deriving DecidableEq

def Operation.text : Operation → String
  | .adopt => "adopt"
  | .revokeRelationship => "revoke-relationship"
  | .initializeCA => "initialize-ca"
  | .issueMTLSCertificate => "issue-mtls-certificate"
  | .revokeCertificate => "revoke-certificate"
  | .federate => "federate"
  | .other text => text

inductive OwnershipRole where
  | owner
  | backupAdmin
  | other (text : String)
  deriving DecidableEq

inductive RelationshipPhase where
  | provisional
  | authorized
  | revoked
  | other (text : String)
  deriving DecidableEq

inductive FederationRole where
  | hub
  | spoke
  | other (text : String)
  deriving DecidableEq

/-- The binding of a canonical name, its peer ID and its SPIFFE ID. -/
structure DeviceIdentity where
  canonicalIPNS : String := ""
  peerID : String := ""
  trustDomain : String := ""
  spiffeID : String := ""
  deriving DecidableEq

structure RelationshipRecord where
  id : String
  targetPeerID : String
  principalSPIFFEID : String
  principalCertificateHash : String
  role : OwnershipRole
  phase : RelationshipPhase
  generation : UInt64
  establishedAt : Time
  updatedAt : Time
  deriving DecidableEq

structure CertificateRecord where
  id : String
  relationshipID : String := ""
  spiffeID : String
  serial : String
  der : Bytes
  subjectPublicKeyDER : Bytes
  notBefore : Time
  notAfter : Time
  status : CertificateStatus
  issuedAt : Time
  revokedAt : Time := 0
  deriving DecidableEq

/-- A serial reserved before the key manager is called. -/
structure PendingCertificate where
  id : String
  grantDigest : String
  operation : Operation
  relationshipID : String := ""
  remoteTrustDomain : String := ""
  spiffeID : String
  serial : String
  subjectPublicKeyDER : Bytes
  notBefore : Time
  notAfter : Time
  createdAt : Time
  deriving DecidableEq

structure RevocationRecord where
  certificateID : String
  serial : String
  kind : RevocationKind
  certificateDER : Bytes
  revokedAt : Time
  deriving DecidableEq

structure FederationRecord where
  sourceDomain : String
  targetDomain : String
  localRole : FederationRole
  remoteRole : FederationRole
  sourceGeneration : UInt64
  remoteCACertificate : Bytes
  crossCertificate : Bytes
  crossCertificateID : String
  crossCertificateSerial : String
  establishedAt : Time
  updatedAt : Time
  deriving DecidableEq

structure TrustBundleRecord where
  trustDomain : String
  generation : UInt64
  caCertificates : List Bytes
  updatedAt : Time
  deriving DecidableEq

structure AppliedGrant where
  digest : String
  operation : Operation
  appliedAt : Time
  deriving DecidableEq

structure PublishedRecord where
  digest : String
  rootCID : String
  ipnsSequence : UInt64
  completedAt : Time
  deriving DecidableEq

structure PublicDocument where
  path : String
  mediaType : String
  content : Bytes
  deriving DecidableEq

/-- A complete public snapshot waiting to be published. -/
structure Publication where
  id : String
  stateRevision : UInt64
  ipnsName : String
  digest : String
  documents : List PublicDocument
  createdAt : Time
  deriving DecidableEq

abbrev StringMap (Value : Type) := AList fun _ : String => Value

def StringMap.size {Value : Type} (entries : StringMap Value) : Nat :=
  entries.entries.length

def StringMap.values {Value : Type} (entries : StringMap Value) : List Value :=
  entries.entries.map Sigma.snd

def StringMap.has {Value : Type} (entries : StringMap Value) (key : String) : Bool :=
  (entries.lookup key).isSome

structure Snapshot where
  version : Int
  revision : UInt64
  identity : DeviceIdentity
  nextSerial : UInt64
  activeCACertificate : Bytes
  activeCAID : String
  relationships : StringMap RelationshipRecord
  certificates : StringMap CertificateRecord
  pendingCertificates : StringMap PendingCertificate
  burnedSerials : StringMap Time
  revocations : StringMap RevocationRecord
  federations : StringMap FederationRecord
  bundles : StringMap TrustBundleRecord
  appliedGrants : StringMap AppliedGrant
  outbox : StringMap Publication
  published : StringMap PublishedRecord
  lastIPNSSequence : UInt64
  lastPublishedRoot : String
  deriving DecidableEq

def emptySnapshot : Snapshot where
  version := stateVersion
  revision := 0
  identity := {}
  nextSerial := 1
  activeCACertificate := []
  activeCAID := ""
  relationships := ∅
  certificates := ∅
  pendingCertificates := ∅
  burnedSerials := ∅
  revocations := ∅
  federations := ∅
  bundles := ∅
  appliedGrants := ∅
  outbox := ∅
  published := ∅
  lastIPNSSequence := 0
  lastPublishedRoot := ""

/-- What a policy decision authorizes. -/
structure AuthorizationGrant where
  grantID : String
  expectedRevision : UInt64
  expiresAt : Time
  ownershipRole : OwnershipRole
  relationshipPhase : RelationshipPhase
  relatedRelationship : String
  localFederationRole : FederationRole
  remoteFederationRole : FederationRole
  sourceGeneration : UInt64
  certificateNotBefore : Time
  certificateNotAfter : Time
  deriving DecidableEq

end Sovereignite.Trust
