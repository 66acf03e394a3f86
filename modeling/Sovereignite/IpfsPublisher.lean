import Sovereignite.IpfsPublicationState
import Sovereignite.TrustService

/-!
# The publisher

One publication is a transaction over the node, the signing key and the
publication state: import, inspection, pin, signature, the journal entry of
the prepared record, the network, and the journal entry of the completed one.
A prepared record is replayed after a failure.  The request that hands a record
to the node carries the whole prepared publication, so that a specification can
say which trust revision the record stands for; the node receives the record.
-/

namespace Sovereignite.Ipfs

open Effect Program
open Trust (Context Publication PublicationReceipt)

structure Publisher where
  signer : Signer
  policy : RecordPolicy
  deriving DecidableEq

inductive Request where
  | contextError (ctx : Context)
  | lock
  | unlock
  | now
  | load
  | commit (expectedRevision : UInt64) (next : PublicationState)
  | importPublicSnapshot (snapshot : PublicSnapshot)
  | inspectPublicSnapshot (root : Cid)
  | pinPublicSnapshot (root : Cid)
  | publicSnapshotPinned (root : Cid)
  | sign (payload : Bytes)
  | publishSignedRecord (prepared : PendingPublication)

abbrev Reply : Request → Type
  | .contextError _ => Option Error
  | .lock => Unit
  | .unlock => Unit
  | .now => Time
  | .load => Except Error PublicationState
  | .commit _ _ => Except Error Unit
  | .importPublicSnapshot _ => Except Error (Option Cid)
  | .inspectPublicSnapshot _ => Except Error SnapshotInspection
  | .pinPublicSnapshot _ => Except Error Unit
  | .publicSnapshotPinned _ => Except Error Bool
  | .sign _ => Except Error Bytes
  | .publishSignedRecord _ => Except Error Unit

abbrev signature : Signature where
  Request := Request
  Reply := Reply

abbrev Publishing := Program signature Error

def ask (request : Request) : Publishing (Reply request) :=
  .call request .ret

def checkContext (ctx : Context) : Publishing Unit :=
  .call (.contextError ctx) fun
    | none => .ret ()
    | some error => .fail error

section Decisions

variable (env : Platform) (publisher : Publisher)

def verifyStored (record : SignedRecord) (rootCID text : String) : Except Error Unit := do
  let root ← canonicalRootCID env rootCID
  (verifyRecordBindingAndSignature env record publisher.signer.name root
    publisher.signer.publicKey).mapError (.wrap text)

def validateStateForSigner (state : PublicationState) : Except Error Unit := do
  (validatePublicationState env state).mapError (.wrap "validate durable IPFS publication state")
  reject (state.ipnsName != "" && state.ipnsName != publisher.signer.name)
    (.message "durable IPFS publication state belongs to another IPNS identity")
  match state.lastRecord with
  | none => .ok ()
  | some record =>
    verifyStored env publisher record state.lastRootCID "verify last durable IPNS record"
  match state.pending with
  | none => .ok ()
  | some pending =>
    verifyStored env publisher pending.record pending.rootCID "verify pending durable IPNS record"

def recordNeedsRefresh (policy : RecordPolicy) (record : SignedRecord) (now : Time) : Bool :=
  decide (record.validUntil ≤ now) ||
    (decide (record.issuedAt < now) &&
      decide (policy.maxStaleness < timeSub now record.issuedAt)) ||
    decide (policy.maxValidity < timeSub record.validUntil record.issuedAt)

def completedPublicationMatches (state : PublicationState) (snapshot : PublicSnapshot) :
    Bool :=
  state.pending.isNone && state.lastSequence != 0 &&
    state.lastTrustRevision == snapshot.stateRevision &&
    state.lastPublicationID == snapshot.publicationID && state.lastDigest == snapshot.digest

def pendingPublicationMatches (pending : PendingPublication) (snapshot : PublicSnapshot) :
    Bool :=
  pending.trustRevision == snapshot.stateRevision &&
    pending.publicationID == snapshot.publicationID && pending.digest == snapshot.digest

def validateSnapshotRevision (state : PublicationState) (snapshot : PublicSnapshot) :
    Except Error Unit := do
  let revision := snapshot.stateRevision
  reject (decide (revision < state.lastTrustRevision))
    (.detail (.sentinel .trustRevisionRollback)
      s!"input={revision} completed={state.lastTrustRevision}")
  reject (revision == state.lastTrustRevision && state.lastTrustRevision != 0 &&
      (state.lastPublicationID != snapshot.publicationID || state.lastDigest != snapshot.digest))
    (.detail (.sentinel .trustRevisionConflict)
      s!"revision {revision} differs from completed digest")
  match state.pending with
  | none => .ok ()
  | some pending => do
    reject (decide (revision < pending.trustRevision))
      (.detail (.sentinel .trustRevisionRollback)
        s!"input={revision} pending={pending.trustRevision}")
    reject (revision == pending.trustRevision &&
        (pending.publicationID != snapshot.publicationID || pending.digest != snapshot.digest))
      (.detail (.sentinel .trustRevisionConflict)
        s!"revision {revision} differs from pending digest")

def completedReceipt (state : PublicationState) : PublicationReceipt where
  publicationID := state.lastPublicationID
  digest := state.lastDigest
  ipnsName := state.ipnsName
  rootCID := state.lastRootCID
  ipnsSequence := state.lastSequence

def preparedState (current : PublicationState) (snapshot : PublicSnapshot) (root : Cid)
    (record : SignedRecord) : PublicationState :=
  { current with
    revision := current.revision + 1
    ipnsName := publisher.signer.name
    highSequence := current.highSequence + 1
    pending := some {
      publicationID := snapshot.publicationID
      digest := snapshot.digest
      trustRevision := snapshot.stateRevision
      rootCID := env.cidString root
      record } }

def completedState (prepared : PublicationState) (pending : PendingPublication) :
    PublicationState :=
  { prepared with
    revision := prepared.revision + 1
    lastSequence := pending.record.sequence
    lastPublicationID := pending.publicationID
    lastDigest := pending.digest
    lastTrustRevision := pending.trustRevision
    lastRootCID := pending.rootCID
    lastRecord := some pending.record
    pending := none }

end Decisions

section Transaction

variable (env : Platform) (publisher : Publisher)

/-- Sign and check the signature before it is released. -/
def signContext (ctx : Context) (payload : Bytes) : Publishing Bytes := do
  checkContext ctx
  let reply ← ask (.sign payload)
  let signature ← ofExcept (reply.mapError (.wrap "TPM IPNS sign"))
  let valid ← ofExcept (annotated "verify TPM IPNS signature"
    (env.verifySignature publisher.signer.publicKey payload signature))
  rejectIf (!valid) (.message "TPM IPNS signer does not match its advertised public key")
  checkContext ctx
  return signature

def unsignedRecord (root : Cid) (sequence : UInt64) (now : Time) : SignedRecord :=
  let issuedAt := now - now % second
  { format := signedRecordBoundaryV1
    name := publisher.signer.name
    value := "/ipfs/" ++ env.cidString root
    sequence
    issuedAt
    validUntil := issuedAt + publisher.policy.validity
    ttl := publisher.policy.validity
    signature := [] }

def createSignedRecord (ctx : Context) (root : Cid) (sequence : UInt64) (now : Time) :
    Publishing SignedRecord := do
  rejectIf (ctx == .absent) (.message "record signing context is required")
  rejectIf (root.version != 1) (.message "record root must be a CIDv1")
  rejectIf (sequence == 0) (.message "record sequence must be positive")
  rejectIf (now == 0) (.message "record issue time is required")
  ofExcept (publisher.policy.validate env)
  let unsigned := unsignedRecord env publisher root sequence now
  let payload ← ofExcept (unsigned.unsignedPayload env)
  let signature ← signContext env publisher ctx payload
  let record := { unsigned with signature }
  ofExcept ((validateSignedRecord env record {
    expectedName := publisher.signer.name
    expectedRoot := root
    now := unsigned.issuedAt
    policy := publisher.policy
    publicKey := publisher.signer.publicKey }).mapError
      (.wrap "validate newly signed publication record"))
  return record

/-- Inspect and pin a complete snapshot.  An absent root is an undefined one. -/
def inspectAndPin (snapshot : PublicSnapshot) (imported : Option Cid) : Publishing Cid :=
  match imported with
  | none => .fail (.message "kubo import returned an invalid root CID")
  | some root => do
    rejectIf (root.version != 1) (.message "kubo import returned an invalid root CID")
    let inspected ← ask (.inspectPublicSnapshot root)
    let inspection ← ofExcept (inspected.mapError (.wrap "inspect complete reachable public DAG"))
    ofExcept ((validateImportedSnapshot env root snapshot inspection).mapError
      (.wrap "validate complete reachable public DAG"))
    let pin ← ask (.pinPublicSnapshot root)
    ofExcept (pin.mapError (.wrap "pin complete public snapshot"))
    let verified ← ask (.publicSnapshotPinned root)
    let pinned ← ofExcept (verified.mapError (.wrap "verify public snapshot pin"))
    rejectIf (!pinned) (.message "kubo did not retain the complete snapshot pin")
    return root

def prepareRecord (ctx : Context) (current : PublicationState) (snapshot : PublicSnapshot)
    (root : Cid) : Publishing PublicationState := do
  rejectIf (current.highSequence == maxUint64)
    (.message "IPNS sequence high-water mark is exhausted")
  rejectIf (current.revision == maxUint64) (.message "IPFS publication state revision is exhausted")
  let now ← ask .now
  let record ← createSignedRecord env publisher ctx root (current.highSequence + 1) now
  let next := preparedState env publisher current snapshot root record
  ofExcept (validatePublicationState env next)
  let outcome ← ask (.commit current.revision next)
  ofExcept (outcome.mapError (.wrap "durably prepare monotonic IPNS record"))
  return next

/-- What the prepared record is checked against before it is published. -/
def preparedValidation (prepared : PublicationState) (root : Cid) (now : Time) :
    RecordValidation where
  expectedName := publisher.signer.name
  expectedRoot := root
  previousSequence := prepared.lastSequence
  previousIssuedAt := (prepared.lastRecord.map SignedRecord.issuedAt).getD 0
  now := now
  policy := publisher.policy
  publicKey := publisher.signer.publicKey

def publishPrepared (prepared : PublicationState) (snapshot : PublicSnapshot) :
    Publishing PublicationReceipt :=
  match prepared.pending with
  | none => .fail (.message "durably prepared IPNS record does not match publication")
  | some pending => do
    rejectIf (!pendingPublicationMatches pending snapshot)
      (.message "durably prepared IPNS record does not match publication")
    rejectIf (prepared.revision == maxUint64)
      (.message "IPFS publication state revision is exhausted")
    let root ← ofExcept (canonicalRootCID env pending.rootCID)
    let now ← ask .now
    ofExcept ((validateSignedRecord env pending.record
      (preparedValidation publisher prepared root now)).mapError
        (.wrap "validate prepared IPNS record"))
    let published ← ask (.publishSignedRecord pending)
    ofExcept (published.mapError (.wrap "publish pre-signed IPNS record"))
    let completed := completedState prepared pending
    ofExcept (validatePublicationState env completed)
    let outcome ← ask (.commit prepared.revision completed)
    ofExcept (outcome.mapError (.wrap "commit published IPNS record"))
    return completedReceipt completed

/-- What the completed record is checked against before its receipt is
returned again. -/
def completedValidation (state : PublicationState) (root : Cid) (now : Time) :
    RecordValidation where
  expectedName := publisher.signer.name
  expectedRoot := root
  previousSequence := state.lastSequence - 1
  now := now
  policy := publisher.policy
  publicKey := publisher.signer.publicKey

/-- Return the receipt of a completed publication while its record is fresh.  A
checked state with a completed sequence has a record. -/
def confirmCompleted (state : PublicationState) (snapshot : PublicSnapshot) :
    Publishing PublicationReceipt := do
  let root ← ofExcept (canonicalRootCID env state.lastRootCID)
  match state.lastRecord with
  | none => .fail (.message "completed publication record is missing")
  | some record =>
    let now ← ask .now
    ofExcept ((validateSignedRecord env record
      (completedValidation publisher state root now)).mapError
        (.wrap "validate completed IPNS record freshness"))
    let _ ← inspectAndPin env snapshot (some root)
    return completedReceipt state

/-- Replay a prepared record, or a new one in its place when it is stale. -/
def resumePending (ctx : Context) (state : PublicationState) (snapshot : PublicSnapshot)
    (pending : PendingPublication) : Publishing PublicationReceipt := do
  rejectIf (!pendingPublicationMatches pending snapshot) (.sentinel .publicationPending)
  let root ← ofExcept (canonicalRootCID env pending.rootCID)
  let pinned ← inspectAndPin env snapshot (some root)
  let now ← ask .now
  if recordNeedsRefresh publisher.policy pending.record now then
    let prepared ← prepareRecord env publisher ctx state snapshot pinned
    publishPrepared env publisher prepared snapshot
  else
    publishPrepared env publisher state snapshot

def publishNew (ctx : Context) (state : PublicationState) (snapshot : PublicSnapshot) :
    Publishing PublicationReceipt := do
  let reply ← ask (.importPublicSnapshot snapshot)
  let imported ← ofExcept (reply.mapError (.wrap "import complete public snapshot into Kubo"))
  let root ← inspectAndPin env snapshot imported
  let prepared ← prepareRecord env publisher ctx state snapshot root
  publishPrepared env publisher prepared snapshot

def publishLocked (ctx : Context) (snapshot : PublicSnapshot) :
    Publishing PublicationReceipt := do
  checkContext ctx
  let reply ← ask .load
  let state ← ofExcept (reply.mapError (.wrap "load durable IPFS publication state"))
  ofExcept (validateStateForSigner env publisher state)
  ofExcept (validateSnapshotRevision state snapshot)
  if completedPublicationMatches state snapshot then
    confirmCompleted env publisher state snapshot
  else
    match state.pending with
    | some pending => resumePending env publisher ctx state snapshot pending
    | none => publishNew env publisher ctx state snapshot

def publish (ctx : Context) (publication : Publication) :
    Publishing PublicationReceipt := do
  rejectIf (ctx == .absent) (.message "publication context is required")
  checkContext ctx
  ofExcept ((publication.validate env).mapError
    fun inner => .wrap "validate Trust public publication" (ofTrust inner))
  let snapshot ← ofExcept (newPublicSnapshot env publication publisher.signer.name)
  between .lock .unlock (publishLocked env publisher ctx snapshot)

end Transaction

end Sovereignite.Ipfs
