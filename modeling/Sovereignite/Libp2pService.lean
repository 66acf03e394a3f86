import Sovereignite.Libp2pState

/-!
# Initializing the identity and starting its service

Both entry points prepare the identity from a key, settle the identity file
and only then set the host name.  The service does so while it holds a running
host and a lease in the runtime root, and afterwards publishes the endpoint of
its readiness listener there.
-/

namespace Sovereignite.Libp2p

open Effect

section Hostname

def setValidatedHostname (name : String) : Running Unit := do
  Program.ofExcept (validateHostnameLabel name)
  checkContext
  takeAs "set hostname" (← ask (.setHostname name))

end Hostname

section Lease

def checkLocked (directory name : String) (file : Nat) : Running Unit := do
  let lockedInfo ← takeAs "stat locked identity service file" (← ask (.stat file))
  let lockedPathInfo ← takeAs "reinspect locked identity service path"
    (← ask (.lstat directory name))
  Program.rejectIf
    (lockedPathInfo.isSymlink || !lockedPathInfo.isRegular ||
      lockedInfo.identity != lockedPathInfo.identity)
    (.message "identity service lock changed while acquiring ownership")
  requireEffectiveUserOwner name lockedInfo
  Program.rejectIf (lockedInfo.perm != 0o600)
    (.message s!"locked identity service permissions are {octalText lockedInfo.perm}, want 600")

/-- Unlock a file that did not pass its check. -/
def verifyLocked (directory name : String) (file : Nat) : Running Unit := do
  match ← (checkLocked directory name file).attempt with
  | .ok () => return ()
  | .error error => do
    let unlocked ← ask (.flock file false)
    .fail (error.joinOption (errorOf unlocked))

def lockError (error : Error) : Error :=
  if error.is .wouldBlock then .sentinel .serviceAlreadyRunning
  else .wrap "lock identity service runtime" error

def lockOpened (directory name : String) (file : Nat) : Running Unit := do
  let fileInfo ← takeAs "stat opened identity service lock" (← ask (.stat file))
  let pathInfo ← takeAs "stat identity service lock path" (← ask (.lstat directory name))
  Program.rejectIf
    (!fileInfo.isRegular || pathInfo.isSymlink || fileInfo.identity != pathInfo.identity)
    (.message "identity service lock changed while opening")
  requireEffectiveUserOwner name fileInfo
  Program.rejectIf (fileInfo.perm != 0o600)
    (.message s!"identity service lock permissions are {octalText fileInfo.perm}, want 600")
  let locked ← ask (.flock file true)
  Program.ofExcept (locked.mapError lockError)
  verifyLocked directory name file

/-- Look at a lock file before it is opened. -/
def inspectLock (directory name : String) : Running Unit := do
  match ← ask (.lstat directory name) with
  | .ok info =>
    Program.rejectIf (info.isSymlink || !info.isRegular)
      (.message "identity service lock is not a regular file")
  | .error error =>
    Program.rejectIf (!error.is .notExist) (.wrap "inspect identity service lock" error)

def closeFileQuietly (file : Nat) : Running Unit := do
  let _ ← ask (.close file)
  return ()

/-- The open lock file of the only service in a runtime root. -/
def acquireRuntimeLease (directory name : String) : Running Nat := do
  inspectLock directory name
  let file ← takeAs "open identity service lock" (← ask (.openOrCreate directory name))
  onError (lockOpened directory name file) (closeFileQuietly file)
  return file

def closeLease (file : Nat) : Running Unit := do
  let _ ← ask (.flock file false)
  closeFileQuietly file

end Lease

section Endpoint

def minimumHighPort : Nat := 1024

private def isUUIDCharacter (index : Nat) (character : Char) : Bool :=
  if index == 8 || index == 13 || index == 18 || index == 23 then character == '-'
  else character.isDigit || ('a' ≤ character && character ≤ 'f')

@[irreducible]
def isCanonicalUUID (value : String) : Bool :=
  byteLength value == 36 &&
    (value.toList.zipIdx.all fun (character, index) => isUUIDCharacter index character)

def currentBootID : Running String := do
  let content ← takeAs "read system boot ID" (← ask .readBootID)
  let bootID := trimSpace content
  Program.rejectIf (!isCanonicalUUID bootID) (.message "system boot ID is not a canonical UUID")
  return bootID

def newInstanceNonce : Running String := do
  let random ← takeAs "generate process instance nonce" (← ask (.random 16))
  return encodeToString random

/-- Take a published endpoint back before an error is returned. -/
def withdrawEndpoint (directory : String) (encoded : Bytes) (info : Option FileInfo)
    (error : Error) : Running Unit := do
  let cleaned ←
    (removeIfOwnedFileMatches directory endpointRecordFilename encoded info).attempt
  .fail (error.joinOption (errorOf cleaned))

/-- Check what was published. -/
def verifyEndpoint (directory : String) (encoded : Bytes) (info : FileInfo) :
    Running Unit := do
  (requireOwnedRegularFile directory endpointRecordFilename info 0o600
    encoded.length).mapError (.wrap "verify published identity endpoint")
  (requireRootStillAtPath directory).mapError (.wrap "verify published identity runtime root")

/-- Check what was published, or take it back. -/
def confirmEndpoint (directory : String) (encoded : Bytes) (info : FileInfo) :
    Running Unit := do
  match ← (verifyEndpoint directory encoded info).attempt with
  | .ok () => return ()
  | .error error => withdrawEndpoint directory encoded (some info) error

def publishEndpoint (directory : String) (encoded : Bytes) : Running Unit := do
  match ← (atomicReplaceTracked directory endpointRecordFilename encoded 0o600).attempt with
  | .error error =>
    withdrawEndpoint directory encoded none (.wrap "publish identity endpoint" error)
  | .ok (info, .error error) =>
    withdrawEndpoint directory encoded (some info) (.wrap "publish identity endpoint" error)
  | .ok (info, .ok ()) => confirmEndpoint directory encoded info

end Endpoint

variable (env : Platform) (lib : Library)

def activateIdentity (config : Config) (identity : Identity) : Running Unit := do
  Program.ofExcept config.validate
  checkContext
  let record ← Program.ofExcept (newIdentityRecord lib identity.publicIdentity)
  ensureIdentityState lib config record
  setValidatedHostname identity.publicIdentity.name

def initializeIdentity (config : Config) (key : TPMSigningKey) : Running Identity := do
  Program.ofExcept config.validate
  checkContext
  let identity ← prepareIdentity env lib key
  activateIdentity lib config identity
  return identity

def refuseHost (error : Error) (closing : String) : Running Unit := do
  let closed ← ask .closeHost
  .fail ((ErrorValue.join (.sentinel .hostUnavailable) error).joinOption
    (errorOf (closed.mapError (.wrap closing))))

def launchHost (identity : PublicIdentity) : Running Unit := do
  match (show Launch from ← ask (.launch identity)) with
  | ⟨some _, some error⟩ =>
    refuseHost (.wrap "launch real libp2p host" error) "close partially launched libp2p host"
  | ⟨none, some error⟩ =>
    .fail (.join (.sentinel .hostUnavailable) (.wrap "launch real libp2p host" error))
  | ⟨none, none⟩ =>
    .fail (.join (.sentinel .hostUnavailable) (.message "host launcher returned no running host"))
  | ⟨some host, none⟩ =>
    if host != identity.peerID then
      refuseHost (.message "running libp2p host identity does not match the TPM identity")
        "close identity-mismatched libp2p host"
    else
      return ()

def readinessAddress (address : String) : Except Error (String × Nat) := do
  let (host, port) ← annotated "parse readiness listener address" (lib.parseAddrPort address)
  reject (host != "127.0.0.1" || decide (port < minimumHighPort))
    (.message "readiness listener is not a high IPv4 loopback endpoint")
  return (host, port)

/-- Publish the endpoint of an open listener. -/
def announce (directory address name : String) : Running Unit := do
  let (host, port) ← Program.ofExcept (readinessAddress lib address)
  let bootID ← currentBootID
  let instanceNonce ← newInstanceNonce
  let pid : Int ← ask .processID
  let encoded ← Program.ofExcept (annotated "encode identity endpoint record"
    (lib.marshalEndpoint {
      version := 1
      service := "identity"
      bootID
      instanceNonce
      pid
      network := "tcp4"
      address := host
      port
      expectedIdentity := name }))
  publishEndpoint directory (encoded ++ [10])

def closeListenerQuietly : Running Unit := do
  let _ ← ask .closeListener
  return ()

def startLeased (config : Config) (identity : Identity) (directory : String) :
    Running Unit := do
  activateIdentity lib config identity
  let address ← takeAs "bind identity readiness listener" (← ask .listen)
  onError (announce lib directory address identity.publicIdentity.name) closeListenerQuietly

/-- Take the lease of an open runtime root and go on. -/
def startAnchored (config : Config) (identity : Identity) (directory : String) :
    Running Unit := do
  let lease ← acquireRuntimeLease directory runtimeLockFilename
  onError (startLeased lib config identity directory) (closeLease lease)

/-- Open the runtime root and go on. -/
def startHosted (config : Config) (identity : Identity) : Running Unit := do
  let runtimeRoot := clean config.runtimeRoot
  (openPrivateDirectory runtimeRoot).mapError (.wrap "create identity runtime root")
  onError (startAnchored lib config identity runtimeRoot) (closeQuietly runtimeRoot)

def closeHostQuietly : Running Unit := do
  let _ ← ask .closeHost
  return ()

def start (config : Config) (key : TPMSigningKey) : Running Identity := do
  Program.ofExcept config.validate
  checkContext
  let identity ← prepareIdentity env lib key
  launchHost identity.publicIdentity
  onError (startHosted lib config identity) closeHostQuietly
  return identity

end Sovereignite.Libp2p
