import Sovereignite.Libp2pSigning

/-!
# The identity file

The identity is written once: a new record goes to a temporary file, which is
then linked under the final name, and a link never replaces a file.  Whoever
finds the name taken reads the record there and compares it with its own.
-/

namespace Sovereignite.Libp2p

open Effect

def identityStateVersion : Int := 1

def maxIdentityStateSize : Nat := 64 * 1024

section Directories

def fileOwner (info : FileInfo) : Except Error Nat :=
  match info.owner with
  | some owner => .ok owner
  | none => failure "file ownership metadata is unavailable"

def requireTrustedDirectoryOwner (path : String) (info : FileInfo) : Running Unit := do
  let owner ← takeAs s!"inspect metadata path owner {quoted path}" (fileOwner info)
  let effectiveUser : Nat ← ask .effectiveUser
  Program.rejectIf (owner != 0 && owner != effectiveUser)
    (.message s!"metadata path component {quoted path} is owned by untrusted uid {owner}")
  Program.rejectIf (info.perm &&& 0o22 != 0 && (owner != 0 || !info.isSticky))
    (.message s!"metadata path component {quoted path} is group- or world-writable")

def requireEffectiveUserOwner (path : String) (info : FileInfo) : Running Unit := do
  let owner ← takeAs s!"inspect metadata owner {quoted path}" (fileOwner info)
  let effectiveUser : Nat ← ask .effectiveUser
  Program.rejectIf (owner != effectiveUser)
    (.message (s!"metadata path {quoted path} is owned by uid {owner}, " ++
      s!"want effective uid {effectiveUser}"))

def requireRootStillAtPath (path : String) : Running Unit := do
  let anchoredInfo ← takeAs "inspect anchored metadata root" (← ask (.statDirectory path))
  let pathInfo ← takeAs "reinspect metadata root path" (← ask (.lstatPath path))
  Program.rejectIf
    (!pathInfo.isDir || pathInfo.isSymlink || !anchoredInfo.isDir ||
      pathInfo.identity != anchoredInfo.identity)
    (.message "metadata root path no longer identifies its anchored directory")
  requireEffectiveUserOwner path anchoredInfo
  Program.rejectIf (anchoredInfo.perm != 0o700)
    (.message (s!"metadata root permissions are {octalText anchoredInfo.perm}, " ++
      "want 700; refusing to change an existing directory"))

/-- Make a directory that did not exist, or that another process makes at the
same time. -/
def makeComponent (parent path : String) : Running Unit := do
  let parentInfo ←
    takeAs s!"inspect trusted parent for metadata path component {quoted path}"
      (← ask (.statDirectory parent))
  requireTrustedDirectoryOwner (parentPath path) parentInfo
  match ← ask (.makeDirectory path) with
  | .ok () => return ()
  | .error error =>
    Program.rejectIf (!error.is .exist)
      (.wrap s!"create anchored metadata path component {quoted path}" error)

def openComponent (parent path : String) : Running Unit := do
  match ← ask (.openDirectory path) with
  | .ok () => return ()
  | .error error =>
    if error.is .notExist then do
      makeComponent parent path
      takeAs s!"anchor metadata path component {quoted path}" (← ask (.openDirectory path))
    else
      .fail (.wrap s!"anchor metadata path component {quoted path}" error)

/-- Check an opened directory and close its parent. -/
def inspectComponent (parent path : String) : Running Unit := do
  let anchoredInfo ← takeAs s!"inspect anchored metadata path component {quoted path}"
    (← ask (.statDirectory path))
  let pathInfo ← takeAs s!"reinspect metadata path component {quoted path}"
    (← ask (.lstatPath path))
  Program.rejectIf
    (pathInfo.isSymlink || !pathInfo.isDir || pathInfo.identity != anchoredInfo.identity)
    (.message s!"metadata path component {quoted path} changed while anchoring")
  requireTrustedDirectoryOwner path anchoredInfo
  takeAs s!"close parent of metadata path component {quoted path}" (← ask (.closeDirectory parent))

def closeQuietly (path : String) : Running Unit := do
  let _ ← ask (.closeDirectory path)
  return ()

/-- Go down one directory.  An error closes whatever is open. -/
def anchorComponent (parent path : String) : Running Unit :=
  onError (do
    openComponent parent path
    onError (inspectComponent parent path) (closeQuietly path)) (closeQuietly parent)

def anchorPath : String → List String → Running Unit
  | path, [] => onError (requireRootStillAtPath path) (closeQuietly path)
  | path, element :: rest => do
    anchorComponent path (joinPath path element)
    anchorPath (joinPath path element) rest

/-- Open a directory that only its owner can use, making what does not exist on
the way to it. -/
def openPrivateDirectory (path : String) : Running Unit := do
  takeAs "open filesystem root" (← ask (.openDirectory "/"))
  onError (do
    let rootInfo ← takeAs "inspect anchored filesystem root" (← ask (.statDirectory "/"))
    requireTrustedDirectoryOwner "/" rootInfo) (closeQuietly "/")
  anchorPath "/" (cleanElements path)

end Directories

section Files

/-- Create a file under a random name that is not taken. -/
def createTemporaryFile (directory start : String) : Nat → Running (Nat × String)
  | 0 => .fail (.message "could not allocate a unique temporary filename")
  | attempts + 1 => do
    let random ← takeAs "generate temporary filename" (← ask (.random 16))
    let name := start ++ encodeToString random
    match ← ask (.createExclusive directory name) with
    | .ok file => return (file, name)
    | .error error =>
      if error.is .exist then createTemporaryFile directory start attempts
      else .fail error

/-- Close and remove a temporary file after its use, whatever the outcome. -/
def discarding {α : Type} (directory name : String) (file : Nat) (body : Running α) :
    Running α := do
  let outcome ← body.attempt
  let _ ← ask (.close file)
  let _ ← ask (.remove directory name)
  Program.ofExcept outcome

def fillTemporary (file : Nat) (content : Bytes) (mode : Nat) : Running Unit := do
  take (← ask (.chmod file mode))
  take (← ask (.write file content))
  take (← ask (.sync file))

/-- Link a complete temporary file under a name.  A taken name is no error. -/
def linkTemporary (directory temporaryName name : String) : Running Bool := do
  match ← ask (.link directory temporaryName name) with
  | .error error => if error.is .exist then return false else .fail error
  | .ok () => do
    take (← ask (.syncDirectory directory))
    take (← ask (.remove directory temporaryName))
    take (← ask (.syncDirectory directory))
    return true

def atomicCreate (directory name : String) (content : Bytes) (mode : Nat) :
    Running Bool := do
  let (temporary, temporaryName) ← createTemporaryFile directory ".identity-" 128
  discarding directory temporaryName temporary do
    fillTemporary temporary content mode
    take (← ask (.close temporary))
    linkTemporary directory temporaryName name

/-- Replace a file.  The description of the new file is known even when the
last step fails. -/
def replaceTemporary (directory temporaryName name : String) (temporary : Nat)
    (content : Bytes) (mode : Nat) : Running (FileInfo × Except Error Unit) := do
  fillTemporary temporary content mode
  let publishedInfo ← take (← ask (.stat temporary))
  take (← ask (.close temporary))
  take (← ask (.rename directory temporaryName name))
  let synced ← ask (.syncDirectory directory)
  return (publishedInfo, synced)

def atomicReplaceTracked (directory name : String) (content : Bytes) (mode : Nat) :
    Running (FileInfo × Except Error Unit) := do
  let (temporary, temporaryName) ← createTemporaryFile directory ".endpoint-" 128
  discarding directory temporaryName temporary
    (replaceTemporary directory temporaryName name temporary content mode)

def removeIfSame (directory name : String) (openedInfo : FileInfo) : Running Unit := do
  match ← ask (.lstat directory name) with
  | .error error => Program.rejectIf (!error.is .notExist) error
  | .ok pathInfo =>
    if pathInfo.identity != openedInfo.identity then
      return ()
    else
      match ← ask (.remove directory name) with
      | .ok () => take (← ask (.syncDirectory directory))
      | .error error =>
        if error.is .notExist then take (← ask (.syncDirectory directory))
        else .fail error

def removeIfContent (directory name : String) (file : Nat) (expected : Bytes)
    (expectedInfo : FileInfo) : Running Unit := do
  let openedInfo ← take (← ask (.stat file))
  if openedInfo.identity != expectedInfo.identity then
    return ()
  else do
    let content ← take (← ask (.read file (expected.length + 1)))
    if content != expected then return () else removeIfSame directory name openedInfo

/-- Remove a file only if it is the one that was published. -/
def removeIfOwnedFileMatches (directory name : String) (expected : Bytes)
    (expectedInfo : Option FileInfo) : Running Unit := do
  match ← ask (.lstat directory name), expectedInfo with
  | .error error, _ => Program.rejectIf (!error.is .notExist) error
  | .ok _, none => return ()
  | .ok info, some published =>
    if info.identity != published.identity || !info.isRegular || info.size != expected.length then
      return ()
    else do
      let file ← take (← ask (.openFile directory name))
      let outcome ← (removeIfContent directory name file expected published).attempt
      let _ ← ask (.close file)
      Program.ofExcept outcome

def requireOwnedRegularFile (directory name : String) (expectedInfo : FileInfo)
    (mode size : Nat) : Running Unit := do
  let info ← take (← ask (.lstat directory name))
  Program.rejectIf (info.identity != expectedInfo.identity) (.message "published file was replaced")
  Program.rejectIf (!info.isRegular || info.perm != mode)
    (.message "published file is not an owner-only regular file")
  Program.rejectIf (info.size != size) (.message "published file has an unexpected size")
  requireEffectiveUserOwner name info

end Files

section Records

variable (lib : Library)

def newIdentityRecord (identity : PublicIdentity) : Except Error IdentityRecord := do
  let publicKey ← annotated "marshal public identity" (lib.marshalPublicKey identity.publicKey)
  return {
    version := identityStateVersion
    tpmHandle := handleText identity.tpmHandle
    publicKey := encodeBase64 publicKey
    peerID := identity.peerID
    name := identity.name }

def checkTrailing : JsonTrailing → Except Error Unit
  | .endOfInput => .ok ()
  | .value => failure "identity state contains trailing data"
  | .malformed text => .error (.wrap "decode trailing identity state" (.message text))

def parseRecord (content : Bytes) : Except Error IdentityRecord := do
  let (record, trailing) ← annotated "decode identity state" (lib.decodeRecord content)
  checkTrailing trailing
  reject (record.version != identityStateVersion)
    (.detail (.sentinel .unsupportedIdentityVersion) s!"{record.version}")
  return record

def checkIdentityFile (name : String) (info : FileInfo) : Running Unit := do
  Program.rejectIf (!info.isRegular) (.message "identity state is not a regular file")
  requireEffectiveUserOwner name info
  Program.rejectIf (info.perm != 0o600)
    (.message s!"identity state permissions are {octalText info.perm}, want 600")
  Program.rejectIf (info.size == 0 || decide (maxIdentityStateSize < info.size))
    (.message "identity state has an invalid size")

def readOpened (name : String) (info : FileInfo) (file : Nat) : Running IdentityRecord := do
  let openedInfo ← takeAs "inspect opened identity state" (← ask (.stat file))
  Program.rejectIf (info.identity != openedInfo.identity)
    (.message "identity state changed while opening")
  requireEffectiveUserOwner name openedInfo
  Program.rejectIf (!openedInfo.isRegular || openedInfo.perm != 0o600)
    (.message "opened identity state is not an owner-only regular file")
  Program.rejectIf (openedInfo.size == 0 || decide (maxIdentityStateSize < openedInfo.size))
    (.message "opened identity state has an invalid size")
  let content ← takeAs "decode identity state" (← ask (.read file (maxIdentityStateSize + 1)))
  Program.ofExcept (parseRecord lib content)

def readIdentityRecord (directory name : String) : Running IdentityRecord := do
  let info ← take (← ask (.lstat directory name))
  checkIdentityFile name info
  let file ← takeAs "open identity state" (← ask (.openFile directory name))
  let outcome ← (readOpened lib name info file).attempt
  let _ ← ask (.close file)
  Program.ofExcept outcome

def compareIdentityRecords (persisted expected : IdentityRecord) : Except Error Unit := do
  reject (persisted.version != expected.version)
    (.detail (.sentinel .unsupportedIdentityVersion) s!"{persisted.version}")
  reject (persisted.tpmHandle != expected.tpmHandle)
    (.detail (.sentinel .identityMismatch) "TPM handle changed")
  reject (persisted.publicKey != expected.publicKey)
    (.detail (.sentinel .identityMismatch) "public key changed")
  reject (persisted.peerID != expected.peerID)
    (.detail (.sentinel .identityMismatch) "peer ID changed")
  reject (persisted.name != expected.name)
    (.detail (.sentinel .identityMismatch) "canonical name changed")

def compareWithPersisted (directory : String) (expected : IdentityRecord) : Running Unit := do
  let persisted ← readIdentityRecord lib directory identityStateFilename
  Program.ofExcept (compareIdentityRecords persisted expected)

def encodeRecord (record : IdentityRecord) : Except Error Bytes := do
  let encoded ← annotated "encode identity state" (lib.marshalRecord record)
  return encoded ++ [10]

/-- Write the record, or compare it with the one another process wrote. -/
def createIdentityState (directory : String) (expected : IdentityRecord) :
    Running Unit := do
  let encoded ← Program.ofExcept (encodeRecord lib expected)
  let created ← (atomicCreate directory identityStateFilename encoded 0o600).mapError
    (.wrap "persist identity state")
  if created then return () else compareWithPersisted lib directory expected

/-- Compare the record with the one in place, or write it. -/
def settleIdentityState (directory : String) (expected : IdentityRecord) :
    Running Unit := do
  match ← (readIdentityRecord lib directory identityStateFilename).attempt with
  | .ok persisted => Program.ofExcept (compareIdentityRecords persisted expected)
  | .error error =>
    if error.is .notExist then createIdentityState lib directory expected
    else .fail error

/-- Check a directory once more and close it. -/
def releaseDirectory (path : String) : Running Unit := do
  let checked ← (requireRootStillAtPath path).attempt
  let closed ← ask (.closeDirectory path)
  Program.ofExcept (joinErrors checked closed)

def ensureIdentityState (config : Config) (expected : IdentityRecord) : Running Unit := do
  let stateRoot := clean config.stateRoot
  (openPrivateDirectory stateRoot).mapError (.wrap "create identity state root")
  deferred (settleIdentityState lib stateRoot expected) (releaseDirectory stateRoot)

end Records

end Sovereignite.Libp2p
