import Sovereignite.EffectProgram
import Sovereignite.KeyManagerTypes
import Sovereignite.TrustCandidates

/-!
# The operations of the trust service

Each operation is a program over the calls the service makes: its mutexes and
its in-memory document, the clock and the context, the store, the policy, the
builder of public documents, the key manager, the provider of federation
material and the publisher.  A commit carries a label that names the step of
the code it is made by; the label is for the specification and no call depends
on it.
-/

namespace Sovereignite.Trust

open Effect

/-- A caller's context: absent, never canceled, or canceled at will. -/
inductive Context where
  | absent
  | background
  | cancellable (id : Nat)
  deriving DecidableEq

inductive Mutex where
  | openMu
  | mu
  | publishMu
  | issueMu
  deriving DecidableEq

/-- The fields of a service that its operations change. -/
structure Memory where
  opened : Bool
  snapshot : Snapshot

/-- The step of the code that makes a commit. -/
inductive CommitLabel where
  | bindIdentity
  | recover
  | adopt (grant : AuthorizationGrant)
  | revokeTrust (grant : AuthorizationGrant)
  | reserve (operation : Operation) (grant : AuthorizationGrant)
  | finalize (pendingID : String)
  | burn (pendingID : String)
  | revokeCertificate (grant : AuthorizationGrant)
  | drain
  deriving DecidableEq

/-- Public remote CA input of a federation. -/
structure FederationMaterial where
  remoteCACertificateDER : Bytes
  sourceGeneration : UInt64
  deriving DecidableEq

inductive Request where
  | contextError (ctx : Context)
  | now
  | lock (mutex : Mutex)
  | unlock (mutex : Mutex)
  | readMemory
  | writeMemory (memory : Memory)
  | load
  | commit (label : CommitLabel) (expectedRevision : UInt64) (next : Snapshot)
  | authorize (intent : AuthorizationIntent)
  | build (view : PublicStateView)
  | metadata (role : KeyManager.Role)
  | issueCertificate (request : KeyManager.CertificateRequest)
  | fetch (localIdentity : DeviceIdentity) (remoteTrustDomain : String) (peer : VerifiedMTLSPeer)
  | publish (publication : Publication)

abbrev Reply : Request → Type
  | .contextError _ => Option Error
  | .now => Time
  | .lock _ => Unit
  | .unlock _ => Unit
  | .readMemory => Memory
  | .writeMemory _ => Unit
  | .load => Except Error Snapshot
  | .commit _ _ _ => Except Error Unit
  | .authorize _ => Except Error AuthorizationGrant
  | .build _ => Except Error (List PublicDocument)
  | .metadata _ => Except Error KeyManager.KeyMetadata
  | .issueCertificate _ => Except Error Bytes
  | .fetch _ _ _ => Except Error FederationMaterial
  | .publish _ => Except Error PublicationReceipt

abbrev signature : Signature where
  Request := Request
  Reply := Reply

abbrev Operating := Program signature Error

/-- The configuration of a service.  A flag says whether a dependency was
supplied. -/
structure ServiceConfig where
  identity : DeviceIdentity
  hasKeyManager : Bool := true
  hasPolicy : Bool := true
  hasFederationMaterial : Bool := true
  hasPublicSnapshotBuilder : Bool := true
  hasPublisher : Bool := true
  maximumGrantLifetime : Duration
  maximumCertificateLifetime : Duration
  deriving DecidableEq

open Program

def ask (request : Request) : Operating (Reply request) :=
  .call request .ret

def checkContext (ctx : Context) : Operating Unit :=
  .call (.contextError ctx) fun
    | none => .ret ()
    | some error => .fail error

def withoutCancel (_ : Context) : Context :=
  .background

def withLock {α : Type} (mutex : Mutex) (body : Operating α) : Operating α :=
  between (.lock mutex) (.unlock mutex) body

/-- A call whose reply is an outcome, its error annotated. -/
def loadDurable (text : String) : Operating Snapshot :=
  .call .load fun reply => ofExcept (reply.mapError (.wrap text))

section Operations

variable (env : Platform) (config : ServiceConfig)

def currentState (ctx : Context) : Operating (Snapshot × Time) := do
  rejectIf (ctx == .absent) (.message "trust operation context is required")
  checkContext ctx
  let now ← ask .now
  rejectIf (now == (0 : Time)) (.message "trust clock returned zero time")
  withLock .mu do
    let memory ← ask .readMemory
    rejectIf (!memory.opened) (.message "trust service is not open")
    return (memory.snapshot, now)

def authorizedInput (ctx : Context) (state : ConnectionState) :
    Operating (VerifiedMTLSPeer × Snapshot × Time) := do
  let (current, now) ← currentState ctx
  let peer ← ofExcept (verifyMutualTLSPeer env state now)
  return (peer, current, now)

def callPolicy (intent : AuthorizationIntent) (current : Snapshot) (now : Time) :
    Operating AuthorizationGrant := do
  rejectIf (!config.hasPolicy) (.sentinel .authorizationUnavailable)
  let decision ← ask (.authorize intent)
  let grant ← ofExcept (decision.mapError (.wrap s!"authorize {intent.operation.text}"))
  ofExcept (validateGrant grant current.revision now config.maximumGrantLifetime)
  rejectIf (current.appliedGrants.has (grantDigest env grant.grantID)) (.sentinel .replay)
  return grant

def attachPublicOutbox (next : Snapshot) (now : Time) : Operating Snapshot := do
  rejectIf (!config.hasPublicSnapshotBuilder) (.sentinel .publicationSchemaUnavailable)
  let view ← ofExcept (publicStateView env next)
  let built ← ask (.build view)
  let documents ← ofExcept (built.mapError (.wrap "build public trust-state snapshot"))
  let publication ← ofExcept (newPublication env config.identity next.revision documents now)
  rejectIf (next.published.has publication.id) (.sentinel .replay)
  return { next with outbox := AList.singleton publication.id publication }

/-- Take over the durable document.  The caller holds the mutex of the memory
it passes. -/
def reloadSnapshotLocked (memory : Memory) : Operating Unit := do
  let reloaded ← loadDurable "reload durable trust state"
  ofExcept ((validateSnapshot env reloaded).mapError
    (.wrap "validate reloaded durable trust state"))
  rejectIf (reloaded.revision == 0 || reloaded.identity != config.identity ||
      decide (reloaded.revision < memory.snapshot.revision))
    (.message "reloaded durable trust state is inconsistent")
  ask (.writeMemory { memory with snapshot := reloaded })

/-- What a failed commit returns, given the outcome of the reload after it. -/
def commitFailure (error : Error) : Except Error Unit → Error
  | .ok () => error
  | .error reloadError =>
    if error.is .revisionConflict then .join error reloadError else error

def commitCandidate (label : CommitLabel) (expectedRevision : UInt64) (next : Snapshot) :
    Operating Unit :=
  withLock .mu do
    let memory ← ask .readMemory
    rejectIf (!memory.opened) (.message "trust service is not open")
    if memory.snapshot.revision != expectedRevision then
      let reloaded ← (reloadSnapshotLocked env config memory).attempt
      .fail (ErrorValue.joinOption (.sentinel .revisionConflict) (errorOf reloaded))
    else
      match ← ask (.commit label expectedRevision next) with
      | .ok () => ask (.writeMemory { memory with snapshot := next })
      | .error error =>
        let reloaded ← (reloadSnapshotLocked env config memory).attempt
        .fail (commitFailure error reloaded)

inductive OpenStep where
  | retry (snapshot : Snapshot)
  | proceed (snapshot : Snapshot)

/-- Go on from a commit of `Open`: with the committed document, or with the
reloaded one after a lost race. -/
def afterOpenCommit (next : Snapshot) (text reloadText : String) :
    Except Error Unit → Operating OpenStep
  | .ok () => .ret (.proceed next)
  | .error error => do
    rejectIf (!error.is .revisionConflict) (.wrap text error)
    let snapshot ← loadDurable reloadText
    return .retry snapshot

def bindIdentity (snapshot : Snapshot) : Operating OpenStep :=
  if snapshot.revision == 0 then do
    let next := { snapshot with identity := config.identity, revision := 1 }
    let outcome ← ask (.commit .bindIdentity 0 next)
    afterOpenCommit next "initialize trust state" "reload initialized trust state" outcome
  else do
    rejectIf (snapshot.identity != config.identity)
      (.message "durable trust identity does not match configured identity")
    return .proceed snapshot

def burnInterrupted (snapshot : Snapshot) : Operating OpenStep :=
  if snapshot.pendingCertificates.size == 0 then .ret (.proceed snapshot)
  else do
    let now ← ask .now
    rejectIf (now == (0 : Time))
      (.message "trust clock returned zero time during issuance recovery")
    let next ← (attachPublicOutbox env config (burnAllPending snapshot now) now).mapError
      (.wrap "publish uncertain certificate serials")
    let outcome ← ask (.commit .recover snapshot.revision next)
    afterOpenCommit next "burn uncertain certificate serials" "reload recovered trust state" outcome

/-- The attempts of `Open`, each from the document it last loaded. -/
def openAttempts (ctx : Context) : Nat → Snapshot → Operating Unit
  | 0, _ => .fail (.sentinel .revisionConflict)
  | attempts + 1, snapshot => do
    checkContext ctx
    ofExcept ((validateSnapshot env snapshot).mapError (.wrap "validate loaded trust state"))
    match ← bindIdentity config snapshot with
    | .retry reloaded => openAttempts ctx attempts reloaded
    | .proceed bound =>
      match ← burnInterrupted env config bound with
      | .retry reloaded => openAttempts ctx attempts reloaded
      | .proceed recovered =>
        withLock .mu (ask (.writeMemory { opened := true, snapshot := recovered }))

def openService (ctx : Context) : Operating Unit := do
  rejectIf (ctx == .absent) (.message "trust open context is required")
  checkContext ctx
  withLock .openMu do
    let memory ← withLock .mu (ask .readMemory)
    if memory.opened then
      return ()
    else
      let snapshot ← loadDurable "load trust state"
      openAttempts env config ctx 8 snapshot

def adoptDevice (ctx : Context) (state : ConnectionState) (targetPeerID : String) :
    Operating RelationshipRecord := do
  let (peer, current, now) ← authorizedInput env ctx state
  rejectIf (targetPeerID != config.identity.peerID)
    (.message "adoption target is not the local device")
  let grant ← callPolicy env config {
    operation := .adopt
    peer
    localIdentity := config.identity
    targetPeerID
    currentRevision := current.revision } current now
  let (adopted, relationship) ←
    ofExcept (applyAdoption env (nextRevision current) peer grant now)
  let next ← attachPublicOutbox env config (recordAppliedGrant env adopted grant .adopt now) now
  commitCandidate env config (.adopt grant) current.revision next
  return relationship

def revokeTrust (ctx : Context) (state : ConnectionState) (relationshipID : String) :
    Operating Unit := do
  let (peer, current, now) ← authorizedInput env ctx state
  rejectIf (!certificateIDPattern relationshipID) (.message "relationship ID is invalid")
  let _ ← ofExcept (requireAuthorizedPrincipal current peer true)
  match current.relationships.lookup relationshipID with
  | none => .fail (.sentinel .notAuthorized)
  | some relationship =>
    rejectIf (relationship.phase == .revoked) (.sentinel .notAuthorized)
    let grant ← callPolicy env config {
      operation := .revokeRelationship
      peer
      localIdentity := config.identity
      relationshipID
      currentRevision := current.revision } current now
    let next ← attachPublicOutbox env config
      (recordAppliedGrant env (revokeRelationship current relationshipID relationship now) grant
        .revokeRelationship now) now
    commitCandidate env config (.revokeTrust grant) current.revision next

def revokeCertificate (ctx : Context) (state : ConnectionState) (certificateID : String) :
    Operating Unit := do
  let (peer, current, now) ← authorizedInput env ctx state
  let _ ← ofExcept (requireAuthorizedPrincipal current peer true)
  match current.certificates.lookup certificateID with
  | none => .fail (.sentinel .notAuthorized)
  | some cert =>
    rejectIf (cert.status != .active) (.sentinel .notAuthorized)
    let grant ← callPolicy env config {
      operation := .revokeCertificate
      peer
      localIdentity := config.identity
      certificateID
      currentRevision := current.revision } current now
    let next ← attachPublicOutbox env config
      (recordAppliedGrant env
        (revokeCertificateRecord (nextRevision current) certificateID cert now) grant
        .revokeCertificate now) now
    commitCandidate env config (.revokeCertificate grant) current.revision next

def reserveCertificate (current : Snapshot) (grant : AuthorizationGrant)
    (operation : Operation) (relationshipID remoteTrustDomain spiffeID : String)
    (subjectPublicKeyDER : Bytes) (now : Time) : Operating PendingCertificate := do
  rejectIf (current.nextSerial == maxUint64) (.message "certificate serial space is exhausted")
  let pending := pendingCertificate env current grant operation relationshipID
    remoteTrustDomain spiffeID subjectPublicKeyDER now
  commitCandidate env config (.reserve operation grant) current.revision
    (reserveSerial env current pending grant operation now)
  return pending

/-- One attempt to replace a reservation by what it was made for.  The value
is the outcome of the commit; every other failure ends the operation. -/
def finalizeAttempt {β : Type} (ctx : Context) (pendingID : String)
    (apply : Snapshot → Time → Except Error (Snapshot × β)) :
    Operating (Except Error β) := do
  let (current, now) ← currentState ctx
  rejectIf (!current.pendingCertificates.has pendingID)
    (.message "reserved certificate intent is unavailable")
  let (applied, entered) ← ofExcept (apply (releasePending current pendingID) now)
  let next ← attachPublicOutbox env config applied now
  let outcome ←
    (commitCandidate env config (.finalize pendingID) current.revision next).attempt
  return outcome.map fun () => entered

/-- Replace a reservation, again after every lost race. -/
def finalizePending {β : Type} (ctx : Context) (pendingID : String)
    (apply : Snapshot → Time → Except Error (Snapshot × β)) : Nat → Operating β
  | 0 => .fail (.sentinel .revisionConflict)
  | attempts + 1 => do
    match ← finalizeAttempt env config ctx pendingID apply with
    | .ok entered => return entered
    | .error error =>
      rejectIf (!error.is .revisionConflict) error
      finalizePending ctx pendingID apply attempts

/-- Burn the serial of a reservation after a failure, again after every lost
race.  The operation fails in every case. -/
def burnPending {α : Type} (ctx : Context) (pendingID : String) (operationErr : Error) :
    Nat → Operating α
  | 0 => .fail (.join operationErr (.sentinel .revisionConflict))
  | attempts + 1 => do
    let (current, now) ← (currentState ctx).mapError (.join operationErr)
    match current.pendingCertificates.lookup pendingID with
    | none => .fail operationErr
    | some pending =>
      let next ← (attachPublicOutbox env config
        (burnSerial (releasePending current pendingID) pending.serial now) now).mapError
        (.join operationErr)
      match ← (commitCandidate env config (.burn pendingID) current.revision next).attempt with
      | .ok () => .fail operationErr
      | .error error =>
        rejectIf (!error.is .revisionConflict) (.join operationErr error)
        burnPending ctx pendingID operationErr attempts

def bookkeepingAttempts : Nat := 8

end Operations

end Sovereignite.Trust
