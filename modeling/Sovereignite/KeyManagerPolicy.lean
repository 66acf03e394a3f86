import Sovereignite.KeyManagerTypes
import Sovereignite.KeyedRecords

/-!
# Role policies and the metadata they allow

A manager is configured with one policy for each role.  The handles of a role
are its own.  Metadata is checked against the policies before it is used: each
recorded handle belongs to the pool of its role and is recorded once.
-/

namespace Sovereignite.KeyManager

open Effect

def failure {α : Type} (text : String) : Except Error α :=
  .error (.message text)

def mismatch (text : String) : Error :=
  .detail (.sentinel .metadataMismatch) text

section Policies

def isRoleCharacter (character : Char) : Bool :=
  character.isLower || character.isDigit

def rolePattern (role : Role) : Bool :=
  matchesClass (fun character => isRoleCharacter character || character == '-') 1 64 role &&
    role.toList.head?.any isRoleCharacter && role.toList.getLast?.any isRoleCharacter

/-- Check one handle of a policy.  The state is the handles of the policy so
far. -/
def checkHandle (earlier : List RolePolicy) (policy : RolePolicy) (seen : List Handle)
    (handle : Handle) : Except Error (List Handle) := do
  reject (!isPersistent handle)
    (.message s!"role {quoted policy.role} handle {hexText handle} is outside the persistent range")
  reject (seen.contains handle)
    (.message s!"role {quoted policy.role} repeats handle {hexText handle}")
  match earlier.find? fun other => other.handles.contains handle with
  | some owner =>
    failure s!"persistent handle {hexText handle} is shared by roles {quoted owner.role} and {quoted policy.role}"
  | none => return handle :: seen

def checkPurpose (policy : RolePolicy) : Except Error Unit :=
  match policy.purpose with
  | .deviceIPNSIdentity => do
    reject (policy.role != roleDeviceIPNSIdentity)
      (.message s!"lifetime identity purpose must use role {quoted roleDeviceIPNSIdentity}")
    reject (!policy.lifetime || policy.rotationInterval != 0)
      (.message s!"role {quoted policy.role} must be lifetime and have no rotation interval")
    reject (policy.handles.length != 1)
      (.message s!"lifetime role {quoted policy.role} requires exactly one persistent handle")
  | .certificateAuthority => do
    reject (policy.role == roleDeviceIPNSIdentity)
      (.message s!"role {quoted policy.role} cannot be a certificate-authority role")
    reject policy.lifetime
      (.message s!"certificate-authority role {quoted policy.role} cannot be lifetime")
    reject (decide (policy.rotationInterval ≤ 0))
      (.message s!"certificate-authority role {quoted policy.role} requires a positive rotation interval")
    reject (decide (policy.handles.length < 2))
      (.message s!"rotatable role {quoted policy.role} requires at least two separated handles")
  | .signing => do
    reject (policy.role == roleDeviceIPNSIdentity)
      (.message s!"role {quoted policy.role} cannot use signing purpose")
    reject (!policy.lifetime || policy.rotationInterval != 0)
      (.message s!"signing role {quoted policy.role} must be lifetime with no rotation")
    reject (policy.handles.length != 1)
      (.message s!"signing role {quoted policy.role} requires exactly one persistent handle")
  | .other text =>
    failure s!"role {quoted policy.role} has unsupported purpose {quoted text}"

def checkPolicy (earlier : List RolePolicy) (policy : RolePolicy) :
    Except Error (List RolePolicy) := do
  reject (!rolePattern policy.role) (.message s!"invalid key role {quoted policy.role}")
  reject (earlier.any fun other => other.role == policy.role)
    (.message s!"duplicate key role {quoted policy.role}")
  let _ ← (signingTemplate policy.algorithm).mapError
    (.wrap s!"role {quoted policy.role} algorithm")
  reject policy.handles.isEmpty (.message s!"role {quoted policy.role} has no persistent handles")
  let _ ← foldEach (checkHandle earlier policy) [] policy.handles
  checkPurpose policy
  return earlier ++ [policy]

def validatePolicies (policies : List RolePolicy) : Except Error Unit := do
  reject policies.isEmpty (.message "at least one key role policy is required")
  let _ ← foldEach checkPolicy [] policies

end Policies

structure Manager where
  policies : List RolePolicy
  accepted : validatePolicies policies = .ok ()
  hasCertificatePolicy : Bool := true

namespace Manager

variable (manager : Manager)

def policy (role : Role) : Option RolePolicy :=
  manager.policies.find? fun policy => policy.role == role

def order : List Role :=
  manager.policies.map RolePolicy.role

def Pool (role : Role) (handle : Handle) : Prop :=
  ∃ policy, manager.policy role = some policy ∧ handle ∈ policy.handles

end Manager

/-- A role that keeps its first key. -/
def RolePolicy.permanent (policy : RolePolicy) (role : Role) : Bool :=
  policy.lifetime || policy.purpose == .deviceIPNSIdentity || role == roleDeviceIPNSIdentity

section Metadata

/-- Maps are always present here. -/
def validateSnapshotEnvelope (snapshot : Snapshot) : Except Error Unit :=
  reject (snapshot.version != metadataVersion)
    (.message s!"unsupported metadata version {snapshot.version}, expected {metadataVersion}")

/-- Check a key against the policy of its role.  The text of a template error,
which an accepted policy excludes, is left out. -/
def validateMetadataForPolicy (mapRole : Role) (policy : RolePolicy)
    (metadata : KeyMetadata) : Except Error Unit := do
  reject (metadata.role != mapRole || metadata.role != policy.role)
    (mismatch s!"metadata role {quoted metadata.role} does not match map role {quoted mapRole}")
  reject (metadata.purpose != policy.purpose || metadata.algorithm != policy.algorithm)
    (mismatch s!"role {quoted mapRole} purpose or algorithm changed")
  reject (!policy.handles.contains metadata.handle)
    (mismatch s!"handle {hexText metadata.handle} is not assigned to role {quoted mapRole}")
  let expectedTemplate ← (signingTemplate policy.algorithm).mapError
    fun _ => mismatch s!"role {quoted mapRole} template"
  reject (metadata.template != expectedTemplate)
    (mismatch s!"role {quoted mapRole} stored template changed")
  reject (metadata.generation == 0 || metadata.createdAt == 0 ||
      metadata.publicName.isEmpty || metadata.publicKeyDER.isEmpty)
    (mismatch s!"role {quoted mapRole} public metadata is incomplete")

/-- The handles met so far and the roles they belong to. -/
abbrev SeenHandles := List (Handle × Role)

def SeenHandles.owner (seen : SeenHandles) (handle : Handle) : Option Role :=
  (seen.find? fun entry => entry.1 == handle).map Prod.snd

/-- Check a key of a role.  Only superseded keys are compared with the active
one. -/
def checkRecordedKey (role : Role) (policy : RolePolicy) (active : KeyMetadata)
    (superseded : Bool) (seen : SeenHandles) (metadata : KeyMetadata) :
    Except Error SeenHandles := do
  validateMetadataForPolicy role policy metadata
  reject (superseded && decide (active.generation ≤ metadata.generation))
    (mismatch s!"retiring generation {metadata.generation} is not older than active generation {active.generation} for role {quoted role}")
  match seen.owner metadata.handle with
  | some owner =>
    .error (mismatch
      s!"handle {hexText metadata.handle} is recorded for both {quoted owner} and {quoted role}")
  | none => return (metadata.handle, role) :: seen

def checkRoleState (manager : Manager) (seen : SeenHandles) (role : Role)
    (state : RoleState) : Except Error SeenHandles :=
  match manager.policy role with
  | none => .error (.detail (.sentinel .roleNotConfigured) s!"in metadata: {quoted role}")
  | some policy => do
    reject (policy.permanent role && (state.active.generation != 1 || !state.retiring.isEmpty))
      (mismatch s!"lifetime role {quoted role} has rotated state")
    let seen ← checkRecordedKey role policy state.active false seen state.active
    foldEach (checkRecordedKey role policy state.active true) seen state.retiring

/-- The generation that follows the active one, or the first. -/
def expectedGeneration (role : Role) : Option RoleState → Except Error UInt64
  | none => .ok 1
  | some state => do
    reject (state.active.generation == maxUint64)
      (.detail (.sentinel .metadataCounterExhausted)
        s!"active generation is exhausted for pending role {quoted role}")
    return state.active.generation + 1

def checkPendingKey (manager : Manager) (snapshot : Snapshot) (seen : SeenHandles)
    (role : Role) (metadata : KeyMetadata) : Except Error SeenHandles :=
  match manager.policy role with
  | none =>
    .error (.detail (.sentinel .roleNotConfigured) s!"in pending metadata: {quoted role}")
  | some policy => do
    validateMetadataForPolicy role policy metadata
    reject (policy.permanent role &&
        ((snapshot.roles.lookup role).isSome || metadata.generation != 1))
      (mismatch s!"lifetime role {quoted role} has a replacement creation intent")
    let expected ← expectedGeneration role (snapshot.roles.lookup role)
    reject (metadata.generation != expected)
      (mismatch s!"pending generation {metadata.generation} for role {quoted role}, expected {expected}")
    match seen.owner metadata.handle with
    | some owner =>
      .error (mismatch
        s!"pending handle {hexText metadata.handle} for role {quoted role} is already recorded for {quoted owner}")
    | none => return (metadata.handle, role) :: seen

/-- Check metadata against the policies.  The entries are visited in the order
of the maps, which decides only which of several errors is met first. -/
def validateSnapshot (manager : Manager) (snapshot : Snapshot) : Except Error Unit := do
  validateSnapshotEnvelope snapshot
  let seen ← foldEach (fun seen entry => checkRoleState manager seen entry.1 entry.2) []
    snapshot.roles.entries
  let _ ← foldEach (fun seen entry => checkPendingKey manager snapshot seen entry.1 entry.2)
    seen snapshot.pending.entries

end Metadata

end Sovereignite.KeyManager
