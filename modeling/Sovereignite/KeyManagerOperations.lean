import Sovereignite.KeyManagerPolicy
import Sovereignite.TrustService

/-!
# Operations of the key manager

An operation runs alone: it holds the lock of the metadata directory, loads the
metadata, finishes what an earlier operation left open, and then does its own
work.  The snapshot that the manager keeps in memory lives for one operation
and is passed along here; after an error it is not read again.

The creation of a persistent object is two requests with the preparation
between them.  That is the contract of the backend: it prepares once, after the
object is generated and before it is persisted, and not preparing is failing.
-/

namespace Sovereignite.KeyManager

open Effect Program
open Trust (Context)

/-- The calls that make a certificate: of the profile policy, of the X.509 library
before and after the signature, and of the TPM for the signature. -/
inductive Issuing where
  | authorize (request : CertificateRequest)
  | encode (template parent : Certificate) (subjectPublicKey signerPublic : PublicKey)
  | sign (request : SignRequest)
  | assemble (payload signature : Bytes)
  | verify (cert : Certificate) (parentPublicKey : Option PublicKey)

abbrev Issuing.Reply : Issuing → Type
  | .authorize _ => Except Error Unit
  | .encode _ _ _ _ => Except Error (Bytes × Option HashAlgorithm)
  | .sign _ => Except Error Bytes
  | .assemble _ _ => Except Error Bytes
  | .verify _ _ => Except Error Unit

inductive Request where
  | contextError (ctx : Context)
  | acquire (ctx : Context)
  | release
  | now
  | load
  | save (next : Snapshot)
  | supports (algorithm : Algorithm)
  | readPublic (handle : Handle)
  | generate (handle : Handle) (template : Template)
  | persist (handle : Handle) (candidate : Public)
  | evictPersistent (reference : ObjectReference)
  | issue (request : Issuing)

abbrev Reply : Request → Type
  | .contextError _ => Option Error
  | .acquire _ => Except Error Unit
  | .release => Unit
  | .now => Time
  | .load => Except Error Snapshot
  | .save _ => Except Error Unit
  | .supports _ => Except Error Unit
  | .readPublic _ => Except Error Public
  | .generate _ _ => Except Error Public
  | .persist _ _ => Except Error Public
  | .evictPersistent _ => Except Error Unit
  | .issue request => request.Reply

abbrev signature : Signature where
  Request := Request
  Reply := Reply

abbrev Managing := Program signature Error

def ask (request : Request) : Managing (Reply request) :=
  .call request .ret

def checkContext (ctx : Context) : Managing Unit :=
  .call (.contextError ctx) fun
    | none => .ret ()
    | some error => .fail error

section Decisions

variable (env : Platform)

def verifyPublicMetadata (metadata : KeyMetadata) (object : Public) : Except Error Unit := do
  reject (object.handle != metadata.handle)
    (mismatch s!"role {quoted metadata.role} returned handle {hexText object.handle}, expected {hexText metadata.handle}")
  reject (object.template != metadata.template)
    (mismatch s!"role {quoted metadata.role} TPM template changed")
  reject (object.name != metadata.publicName)
    (mismatch s!"role {quoted metadata.role} TPM public name changed")
  let publicDER ← (canonicalPublicKey env object).mapError
    fun _ => mismatch s!"role {quoted metadata.role} invalid TPM public key"
  reject (publicDER != metadata.publicKeyDER)
    (mismatch s!"role {quoted metadata.role} TPM public key changed")

@[irreducible]
def requireRevisionCapacity (snapshot : Snapshot) (steps : UInt64) : Except Error Unit :=
  reject (decide (maxUint64 - snapshot.revision < steps))
    (.detail (.sentinel .metadataCounterExhausted)
      s!"revision {snapshot.revision} cannot advance by {steps}")

def incrementRevision (snapshot : Snapshot) : Except Error Snapshot := do
  reject (snapshot.revision == maxUint64)
    (.detail (.sentinel .metadataCounterExhausted) s!"revision {snapshot.revision}")
  return { snapshot with revision := snapshot.revision + 1 }

def objectReference (metadata : KeyMetadata) : ObjectReference where
  handle := metadata.handle
  name := metadata.publicName
  template := metadata.template

/-- Record a creation before the object is persisted. -/
def withPending (snapshot : Snapshot) (metadata : KeyMetadata) : Snapshot :=
  { snapshot with pending := snapshot.pending.insert metadata.role metadata }

/-- Drop a creation that did not happen. -/
def withoutPending (snapshot : Snapshot) (role : Role) : Snapshot :=
  { snapshot with pending := snapshot.pending.erase role }

/-- Make a created key the active one; the key it replaces is to be retired. -/
def activate (snapshot : Snapshot) (role : Role) (metadata : KeyMetadata) : Snapshot :=
  let retiring := match snapshot.roles.lookup role with
    | none => []
    | some state => state.retiring ++ [state.active]
  { snapshot with
    roles := snapshot.roles.insert role { active := metadata, retiring }
    pending := snapshot.pending.erase role }

def withoutRetiring (snapshot : Snapshot) (role : Role) (state : RoleState) : Snapshot :=
  { snapshot with roles := snapshot.roles.insert role { state with retiring := [] } }

def preparedMetadata (policy : RolePolicy) (handle : Handle) (template : Template)
    (createdAt : Time) (generation : UInt64) (candidate : Public)
    (publicDER : Bytes) : KeyMetadata where
  role := policy.role
  purpose := policy.purpose
  algorithm := policy.algorithm
  handle := handle
  publicName := candidate.name
  publicKeyDER := publicDER
  template := template
  createdAt := createdAt
  generation := generation

end Decisions

section Operations

variable (env : Platform) (manager : Manager)

/-- The annotation of a failed save, which may have become visible. -/
def notSaved (text : String) (error : Error) : Error :=
  .wrap s!"{text} (committed={error.is .metadataDurabilityUncertain})" error

/-- Save a snapshot, which is then the one in memory. -/
def persistSnapshot (next : Snapshot) : Managing Snapshot := do
  let saved ← ask (.save next)
  ofExcept saved
  return next

def verifyMetadataValue (ctx : Context) (metadata : KeyMetadata) : Managing Unit := do
  checkContext ctx
  let read ← ask (.readPublic metadata.handle)
  let object ← ofExcept (read.mapError (.both (.sentinel .metadataMismatch)
    s!"read handle {hexText metadata.handle} for role {quoted metadata.role}"))
  ofExcept (verifyPublicMetadata env metadata object)

def notFound : Except Error Public → Bool
  | .ok _ => false
  | .error error => error.is .handleNotFound

/-- Adopt or drop the pending creation of a role.  The flag says whether a
creation was met. -/
def reconcilePendingRole (ctx : Context) (progress : Snapshot × Bool) (role : Role) :
    Managing (Snapshot × Bool) :=
  match progress.1.pending.lookup role with
  | none => .ret progress
  | some metadata => do
    checkContext ctx
    let read ← ask (.readPublic metadata.handle)
    if notFound read then
      return (withoutPending progress.1 role, true)
    let object ← ofExcept (read.mapError (.wrap
      s!"read pending handle {hexText metadata.handle} for role {quoted role}"))
    ofExcept ((verifyPublicMetadata env metadata object).mapError
      (.wrap "refuse to adopt mismatched pending handle"))
    return (activate progress.1 role metadata, true)

def reconcilePending (ctx : Context) (snapshot : Snapshot) : Managing Snapshot :=
  if snapshot.pending.entries.isEmpty then
    .ret snapshot
  else do
    ofExcept (requireRevisionCapacity snapshot 1)
    let (next, changed) ← forEach (reconcilePendingRole env ctx) (snapshot, false) manager.order
    if !changed then
      return snapshot
    let next ← ofExcept (incrementRevision next)
    mapError (.wrap "persist pending-creation recovery") (persistSnapshot next)

/-- Evict one superseded key.  Every key that is met counts as a change. -/
def evictRetiring (ctx : Context) (role : Role) (_ : Unit) (metadata : KeyMetadata) :
    Managing Unit := do
  checkContext ctx
  let read ← ask (.readPublic metadata.handle)
  if notFound read then
    return ()
  let object ← ofExcept (read.mapError (.wrap
    s!"read retiring handle {hexText metadata.handle} for role {quoted role}"))
  ofExcept ((verifyPublicMetadata env metadata object).mapError
    (.wrap "refuse to evict mismatched retiring handle"))
  let evicted ← ask (.evictPersistent (objectReference metadata))
  ofExcept (evicted.mapError (.wrap
    s!"evict retiring handle {hexText metadata.handle} for role {quoted role}"))

/-- Evict the superseded keys of a role. -/
def reconcileRetiringRole (ctx : Context) (progress : Snapshot × Bool) (role : Role) :
    Managing (Snapshot × Bool) :=
  match progress.1.roles.lookup role with
  | none => .ret progress
  | some state =>
    if state.retiring.isEmpty then
      .ret progress
    else do
      forEach (evictRetiring env ctx role) () state.retiring
      return (withoutRetiring progress.1 role state, true)

def hasRetiring (snapshot : Snapshot) : Bool :=
  snapshot.roles.entries.any fun entry => !entry.2.retiring.isEmpty

def reconcileRetiring (ctx : Context) (snapshot : Snapshot) : Managing Snapshot := do
  ofExcept (if hasRetiring snapshot then requireRevisionCapacity snapshot 1 else .ok ())
  let (next, changed) ← forEach (reconcileRetiringRole env ctx) (snapshot, false) manager.order
  if !changed then
    return snapshot
  let next ← ofExcept (incrementRevision next)
  mapError (.wrap "persist retired-handle cleanup") (persistSnapshot next)

def verifyRetiring (role : Role) (_ : Unit) (metadata : KeyMetadata) : Managing Unit := do
  let read ← ask (.readPublic metadata.handle)
  if notFound read then
    return ()
  let object ← ofExcept (read.mapError (.wrap
    s!"read retiring TPM handle {hexText metadata.handle} for role {quoted role}"))
  ofExcept (verifyPublicMetadata env metadata object)

def verifyRole (ctx : Context) (snapshot : Snapshot) (_ : Unit) (role : Role) :
    Managing Unit :=
  match snapshot.roles.lookup role with
  | none => .ret ()
  | some state => do
    verifyMetadataValue env ctx state.active
    forEach (verifyRetiring env role) () state.retiring

/-- Load the metadata, check it and finish what was left open. -/
def openLocked (ctx : Context) : Managing Snapshot := do
  checkContext ctx
  let loaded ← ask .load
  let snapshot ← ofExcept (loaded.mapError (.wrap "load key metadata"))
  ofExcept (validateSnapshot manager snapshot)
  forEach (verifyRole env ctx snapshot) () manager.order
  let snapshot ← reconcilePending env manager ctx snapshot
  reconcileRetiring env manager ctx snapshot

/-- The check of an operation that finds the metadata in memory. -/
def ensureLoaded (ctx : Context) (snapshot : Snapshot) : Managing Snapshot := do
  checkContext ctx
  let snapshot ← reconcilePending env manager ctx snapshot
  reconcileRetiring env manager ctx snapshot

/-- The pool entry of the first key of a role; an accepted pool has one. -/
def initialHandle (policy : RolePolicy) : Managing Handle :=
  match policy.handles with
  | [] => .fail (.message s!"role {quoted policy.role} has no persistent handles")
  | handle :: _ => do
    let read ← ask (.readPublic handle)
    if notFound read then
      return handle
    let _ ← ofExcept (read.mapError (.wrap
      s!"inspect initial handle {hexText handle} for role {quoted policy.role}"))
    .fail (.detail (.sentinel .handleOccupied)
      s!"initial handle {hexText handle} for role {quoted policy.role}")

/-- The first pool entry that is neither recorded nor occupied. -/
def rotationHandle (policy : RolePolicy) (recorded : List Handle) (occupied : Bool) :
    List Handle → Managing Handle
  | [] =>
    let none : Error := .detail (.sentinel .noHandleAvailable) (quoted policy.role)
    .fail (if occupied then .join none (.sentinel .handleOccupied) else none)
  | handle :: rest =>
    if recorded.contains handle then
      rotationHandle policy recorded occupied rest
    else do
      let read ← ask (.readPublic handle)
      if notFound read then
        return handle
      let _ ← ofExcept (read.mapError (.wrap
        s!"inspect rotation handle {hexText handle} for role {quoted policy.role}"))
      rotationHandle policy recorded true rest

/-- Remove an object that was created and does not fit its record. -/
def evictCreatedPublic (expectedHandle : Handle) (expectedTemplate : Template)
    (object : Public) : Managing Unit := do
  rejectIf (object.handle != expectedHandle || object.template != expectedTemplate ||
      object.name.isEmpty)
    (.message "created TPM object could not be safely identified for rollback")
  let evicted ← ask (.evictPersistent ⟨object.handle, object.name, object.template⟩)
  match evicted with
  | .ok () => return ()
  | .error error =>
    rejectIf (!error.is .handleNotFound)
      (.wrap s!"evict invalid created handle {hexText object.handle}" error)

/-- Fail after removing a created object; a failure to remove it is joined. -/
def rollBackCreation {α : Type} (handle : Handle) (template : Template) (object : Public)
    (error : Error) : Managing α := do
  let cleanup ← (evictCreatedPublic handle template object).attempt
  .fail (error.joinOption (errorOf cleanup))

def prepareCreation (policy : RolePolicy) (handle : Handle) (template : Template)
    (createdAt : Time) (generation : UInt64) (snapshot : Snapshot) (candidate : Public) :
    Managing (KeyMetadata × Snapshot) := do
  rejectIf (candidate.handle != handle || candidate.template != template)
    (mismatch s!"TPM preparation for role {quoted policy.role} returned unexpected handle or template")
  let publicDER ← ofExcept ((canonicalPublicKey env candidate).mapError
    (.wrap s!"validate prepared TPM public key for role {quoted policy.role}"))
  let metadata := preparedMetadata policy handle template createdAt generation candidate publicDER
  rejectIf (snapshot.pending.lookup policy.role).isSome
    (mismatch s!"role {quoted policy.role} already has a pending creation")
  let next ← ofExcept (incrementRevision (withPending snapshot metadata))
  let saved ← mapError (notSaved s!"record creation intent for role {quoted policy.role}")
    (persistSnapshot next)
  return (metadata, saved)

def createPersistent (handle : Handle) (template : Template) {α : Type}
    (prepare : Public → Managing α) : Managing (α × Public) := do
  let generated ← ask (.generate handle template)
  let candidate ← ofExcept generated
  let prepared ← prepare candidate
  let persisted ← ask (.persist handle candidate)
  let object ← ofExcept persisted
  return (prepared, object)

def createMetadata (ctx : Context) (policy : RolePolicy) (handle : Handle)
    (generation : UInt64) (snapshot : Snapshot) : Managing (KeyMetadata × Snapshot) := do
  checkContext ctx
  let supported ← ask (.supports policy.algorithm)
  ofExcept (supported.mapError (.wrap s!"TPM capability check for role {quoted policy.role}"))
  let template ← ofExcept (signingTemplate policy.algorithm)
  let createdAt ← ask .now
  rejectIf (createdAt == 0) (.message "clock returned a zero creation time")
  let ((metadata, snapshot), object) ←
    mapError (.wrap s!"create persistent TPM key for role {quoted policy.role}")
      (createPersistent handle template
        (prepareCreation env policy handle template createdAt generation snapshot))
  match verifyPublicMetadata env metadata object with
  | .error error => rollBackCreation handle template object error
  | .ok () => do
    let read ← ask (.readPublic handle)
    match read with
    | .error error =>
      rollBackCreation handle template object
        (.wrap s!"re-read created TPM key for role {quoted policy.role}" error)
    | .ok persisted =>
      match verifyPublicMetadata env metadata persisted with
      | .error error => rollBackCreation handle template object error
      | .ok () => return (metadata, snapshot)

def configuredPolicy (role : Role) : Except Error RolePolicy :=
  match manager.policy role with
  | none => .error (.detail (.sentinel .roleNotConfigured) (quoted role))
  | some policy => .ok policy

def notInitialized (role : Role) : Error :=
  .message s!"key role {quoted role} has not been initialized"

def ensureRoleLocked (ctx : Context) (role : Role) : Managing KeyMetadata := do
  let snapshot ← openLocked env manager ctx
  let policy ← ofExcept (configuredPolicy manager role)
  match snapshot.roles.lookup role with
  | some state => do
    verifyMetadataValue env ctx state.active
    return state.active
  | none => do
    let handle ← initialHandle policy
    ofExcept (requireRevisionCapacity snapshot 2)
    let (metadata, snapshot) ← createMetadata env ctx policy handle 1 snapshot
    let next ← ofExcept (incrementRevision (activate snapshot role metadata))
    let _ ← mapError (notSaved s!"activate newly created role {quoted role}") (persistSnapshot next)
    return metadata

def rotateLocked (ctx : Context) (role : Role) (snapshot : Snapshot) :
    Managing KeyMetadata := do
  let policy ← ofExcept (configuredPolicy manager role)
  rejectIf (policy.permanent role) (.sentinel .lifetimeIdentityRotation)
  match snapshot.roles.lookup role with
  | none => .fail (notInitialized role)
  | some state => do
    verifyMetadataValue env ctx state.active
    rejectIf (state.active.generation == maxUint64)
      (.detail (.sentinel .metadataCounterExhausted) s!"role {quoted role} generation")
    ofExcept (requireRevisionCapacity snapshot 3)
    let handle ← rotationHandle policy
      (state.active.handle :: state.retiring.map KeyMetadata.handle) false policy.handles
    let (metadata, snapshot) ← createMetadata env ctx policy handle
      (state.active.generation + 1) snapshot
    let next ← ofExcept (incrementRevision (activate snapshot role metadata))
    let snapshot ← mapError
      (notSaved s!"activate rotated role {quoted role} at handle {hexText metadata.handle}")
      (persistSnapshot next)
    let _ ← mapError
      (.wrap s!"role {quoted role} activated at handle {hexText metadata.handle} but retirement is incomplete")
      (reconcileRetiring env manager ctx snapshot)
    return metadata

def metadataLocked (ctx : Context) (role : Role) : Managing KeyMetadata := do
  let snapshot ← openLocked env manager ctx
  match snapshot.roles.lookup role with
  | none => do
    let _ ← ofExcept (configuredPolicy manager role)
    .fail (notInitialized role)
  | some state => do
    verifyMetadataValue env ctx state.active
    return state.active

def isDue (policy : RolePolicy) (state : RoleState) (now : Time) : Bool :=
  decide (state.active.createdAt + policy.rotationInterval ≤ now)

def rotateIfDueLocked (ctx : Context) (role : Role) (now : Time) :
    Managing (Option KeyMetadata) := do
  let snapshot ← openLocked env manager ctx
  let policy ← ofExcept (configuredPolicy manager role)
  rejectIf (policy.permanent role) (.sentinel .lifetimeIdentityRotation)
  match snapshot.roles.lookup role with
  | none => return none
  | some state =>
    if !isDue policy state now then
      return none
    else do
      let snapshot ← ensureLoaded env manager ctx snapshot
      let metadata ← rotateLocked env manager ctx role snapshot
      return some metadata

def dueRolesLocked (ctx : Context) (now : Time) : Managing (List Role) := do
  let snapshot ← openLocked env manager ctx
  return manager.policies.filterMap fun policy =>
    if policy.permanent policy.role || decide (policy.rotationInterval ≤ 0) then
      none
    else
      match snapshot.roles.lookup policy.role with
      | none => none
      | some state => if isDue policy state now then some policy.role else none

def withExclusiveOperation {α : Type} (ctx : Context) (operation : Managing α) :
    Managing α := do
  let acquired ← ask (.acquire ctx)
  ofExcept acquired
  let outcome ← operation.attempt
  let _ ← ask .release
  ofExcept outcome

def openManager (ctx : Context) : Managing Unit :=
  withExclusiveOperation ctx (openLocked env manager ctx >>= fun _ => .ret ())

def ensureRole (ctx : Context) (role : Role) : Managing KeyMetadata :=
  withExclusiveOperation ctx (ensureRoleLocked env manager ctx role)

def metadata (ctx : Context) (role : Role) : Managing KeyMetadata :=
  withExclusiveOperation ctx (metadataLocked env manager ctx role)

def publicSnapshot (ctx : Context) : Managing Snapshot :=
  withExclusiveOperation ctx (openLocked env manager ctx)

def rotate (ctx : Context) (role : Role) : Managing KeyMetadata :=
  withExclusiveOperation ctx (openLocked env manager ctx >>= rotateLocked env manager ctx role)

def rotateIfDue (ctx : Context) (role : Role) (now : Time) : Managing (Option KeyMetadata) :=
  withExclusiveOperation ctx (rotateIfDueLocked env manager ctx role now)

/-- Evict what an earlier rotation left behind.  The metadata is loaded first,
which evicts it already. -/
def reconcileRetiringKeys (ctx : Context) : Managing Unit :=
  withExclusiveOperation ctx (do
    let snapshot ← openLocked env manager ctx
    let _ ← reconcileRetiring env manager ctx snapshot
    return ())

def dueRoles (ctx : Context) (now : Time) : Managing (List Role) :=
  withExclusiveOperation ctx (dueRolesLocked env manager ctx now)

end Operations

end Sovereignite.KeyManager
