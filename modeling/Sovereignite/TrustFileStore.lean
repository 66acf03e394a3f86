import Sovereignite.EffectProgram
import Sovereignite.TrustValidation

/-!
# The file store of the trust service

The store keeps the state and a revision anchor in two files of one directory.
The anchor holds the revision and the digest of the state it was written for.
A load accepts the state of the anchor, or its direct successor, for which it
then writes the anchor that an interrupted commit did not write.

The file system is the environment of these programs.  A request to replace a
file stands for everything up to the rename and fails without effect; the
directory is synced by a request of its own.  Permission and ownership checks
are failures of the requests they belong to.  Three requests have no effect on
the files; they mark points of a run of which the specification speaks.
-/

namespace Sovereignite.Trust.FileStore

open Effect

def maximumStateBytes : Nat := 4 * 2 ^ 20

def maximumAnchorBytes : Nat := 512

def anchorVersion : Int := 1

structure RevisionAnchor where
  version : Int
  revision : UInt64
  stateSHA256 : String
  deriving DecidableEq

def zeroAnchor : RevisionAnchor where
  version := anchorVersion
  revision := 0
  stateSHA256 := ""

/-- The JSON encoding of the two files.  Decoding reads one value, refuses
fields it does not know, and reports what follows the value. -/
structure Codec where
  marshalSnapshot : Snapshot → Except String Bytes
  decodeSnapshot : Bytes → Except String (Snapshot × JsonTrailing)
  marshalAnchor : RevisionAnchor → Except String Bytes
  decodeAnchor : Bytes → Except String (RevisionAnchor × JsonTrailing)

/-- What the store does to its directory. -/
inductive Alteration where
  | replaceState (encoded : Bytes)
  | replaceAnchor (encoded : Bytes)
  | syncDirectory

inductive Request where
  | acquireLock
  | releaseLock
  | readState
  | readAnchor
  | alter (alteration : Alteration)
  | commitStarts (current next : Snapshot)
  | loaded (outcome : Except Error Snapshot)
  | committed (next : Snapshot)

/-- Files that do not exist are read as `none`. -/
def Reply : Request → Type
  | .acquireLock => Except String Unit
  | .releaseLock => Unit
  | .readState => Except String (Option Bytes)
  | .readAnchor => Except String (Option Bytes)
  | .alter _ => Except String Unit
  | .commitStarts _ _ => Unit
  | .loaded _ => Unit
  | .committed _ => Unit

def signature : Signature := ⟨Request, Reply⟩

abbrev Storing (α : Type) := Program signature Error α

def ask (request : Request) : Storing (Reply request) :=
  Program.perform (S := signature) request

def fileResult {α : Type} (outcome : Except String α) : Storing α :=
  Program.ofExcept (outcome.mapError .message)

def alter (alteration : Alteration) : Storing Unit := do
  fileResult (← ask (.alter alteration))

def soleValue {α : Type} (description : String)
    (decoded : Except String (α × JsonTrailing)) : Except Error α :=
  match decoded with
  | .error text => .error (.wrap s!"decode {description}" (.message text))
  | .ok (value, .endOfInput) => .ok value
  | .ok (_, .value) => .error (.message s!"{description} contains multiple JSON values")
  | .ok (_, .malformed text) =>
    .error (.wrap s!"decode trailing {description}" (.message text))

variable (env : Platform) (codec : Codec)

def stateDigest (encoded : Bytes) : String :=
  env.hexDigest encoded

def parseState (encoded : Bytes) : Except Error Snapshot := do
  reject (encoded.isEmpty || decide (maximumStateBytes < encoded.length))
    (.message "trust state has an invalid size")
  let snapshot ← soleValue "trust state" (codec.decodeSnapshot encoded)
  validateSnapshot env snapshot
  return snapshot

def parseAnchor (encoded : Bytes) : Except Error RevisionAnchor := do
  reject (encoded.isEmpty || decide (maximumAnchorBytes < encoded.length))
    (.message "trust state revision anchor has an invalid size")
  let anchor ← soleValue "trust state revision anchor" (codec.decodeAnchor encoded)
  reject (anchor.version != anchorVersion)
    (.message "trust state revision anchor version is unsupported")
  reject (anchor.revision == 0 && anchor.stateSHA256 != "")
    (.message "revision-zero trust state anchor has a digest")
  reject (anchor.revision != 0 && !certificateIDPattern anchor.stateSHA256)
    (.message "trust state revision anchor digest is invalid")
  return anchor

def readAnchorLocked : Storing RevisionAnchor := do
  match ← fileResult (← ask .readAnchor) with
  | none => .fail (.sentinel .notExist)
  | some encoded => Program.ofExcept (parseAnchor codec encoded)

/-- Whether an anchor may be written over the one in place. -/
def checkSuccession (anchor : RevisionAnchor) : Except Error RevisionAnchor → Except Error Unit
  | .ok existing => do
    reject (decide (anchor.revision < existing.revision)) (.sentinel .stateRollback)
    reject (existing.revision != maxUint64 && decide (existing.revision + 1 < anchor.revision))
      (.sentinel .stateRollback)
    reject (anchor.revision == existing.revision && anchor.stateSHA256 != existing.stateSHA256)
      (.sentinel .stateRollback)
  | .error error => reject (!error.is .notExist) error

def encodeAnchor (anchor : RevisionAnchor) : Except Error Bytes := do
  let marshaled ← (codec.marshalAnchor anchor).mapError
    fun text => .wrap "encode trust state revision anchor" (.message text)
  let encoded := marshaled ++ [10]
  reject (decide (maximumAnchorBytes < encoded.length))
    (.message "encoded trust state revision anchor exceeds its size limit")
  return encoded

def wellFormed (anchor : RevisionAnchor) : Bool :=
  anchor.version == anchorVersion && !(anchor.revision == 0 && anchor.stateSHA256 != "") &&
    !(anchor.revision != 0 && !certificateIDPattern anchor.stateSHA256)

def writeAnchorLocked (anchor : RevisionAnchor) : Storing Unit := do
  Program.rejectIf (!wellFormed anchor) (.message "trust state revision anchor is invalid")
  let existing ← (readAnchorLocked codec).attempt
  Program.ofExcept (checkSuccession anchor existing)
  let encoded ← Program.ofExcept (encodeAnchor codec anchor)
  alter (.replaceAnchor encoded)
  alter .syncDirectory

/-- How the revision of the state stands to the anchor: the anchor has to be
repaired or not, or the state was rolled back. -/
def needsRepair (snapshot : Snapshot) (digest : String) (anchor : RevisionAnchor) :
    Except Error Bool :=
  if snapshot.revision < anchor.revision then
    .error (.detail (.sentinel .stateRollback)
      s!"state revision {snapshot.revision} predates anchor revision {anchor.revision}")
  else if snapshot.revision == anchor.revision then
    if digest != anchor.stateSHA256 then
      .error (.detail (.sentinel .stateRollback) "state digest differs from revision anchor")
    else
      .ok false
  else if snapshot.revision != anchor.revision + 1 then
    .error (.detail (.sentinel .stateRollback)
      (s!"state revision {snapshot.revision} is not the single recoverable successor " ++
        s!"of anchor revision {anchor.revision}"))
  else
    .ok true

/-- Without a state file the anchor is missing too, or it is that of an empty
store. -/
def settleMissing : Except Error RevisionAnchor → Storing Unit
  | .error error =>
    if error.is .notExist then writeAnchorLocked codec zeroAnchor else .fail error
  | .ok anchor =>
    Program.rejectIf (anchor.revision != 0 || anchor.stateSHA256 != "") (.sentinel .stateRollback)

def readMissing : Storing Snapshot := do
  let anchor ← (readAnchorLocked codec).attempt
  settleMissing codec anchor
  return emptySnapshot

def describeMissing (error : Error) : Error :=
  if error.is .notExist then
    .detail (.sentinel .stateRollback) "revision anchor is missing"
  else
    error

/-- Write the anchor of a state whose commit did not come that far. -/
def repairAnchor (snapshot : Snapshot) (digest : String) (repair : Bool) : Storing Unit :=
  if repair then
    (writeAnchorLocked codec ⟨anchorVersion, snapshot.revision, digest⟩).mapError
      (.wrap "repair trust state revision anchor")
  else
    .ret ()

def readPresent (encoded : Bytes) : Storing Snapshot := do
  let snapshot ← Program.ofExcept (parseState env codec encoded)
  let anchor ← (readAnchorLocked codec).mapError describeMissing
  let digest := stateDigest env encoded
  let repair ← Program.ofExcept (needsRepair snapshot digest anchor)
  repairAnchor codec snapshot digest repair
  return snapshot

def readLocked : Storing Snapshot := do
  match ← fileResult (← ask .readState) with
  | none => readMissing codec
  | some encoded => readPresent env codec encoded

/-- The lock is released whatever the outcome is. -/
def locked {α : Type} (body : Storing α) : Storing α := do
  fileResult (← ask .acquireLock)
  let outcome ← body.attempt
  let _ ← ask .releaseLock
  Program.ofExcept outcome

def load : Storing Snapshot :=
  locked (readLocked env codec)

def encodeState (next : Snapshot) : Except Error Bytes := do
  let marshaled ← (codec.marshalSnapshot next).mapError
    fun text => .wrap "encode trust state" (.message text)
  let encoded := marshaled ++ [10]
  reject (decide (maximumStateBytes < encoded.length))
    (.message s!"encoded trust state is {encoded.length} bytes, limit is {maximumStateBytes}")
  return encoded

/-- What a commit checks before it takes the lock. -/
def checkNext (expectedRevision : UInt64) (next : Snapshot) : Except Error Unit := do
  reject (expectedRevision == maxUint64 || next.revision != expectedRevision + 1)
    (.message "trust state commit must advance the revision by one")
  (validateSnapshot env next).mapError (.wrap "validate next trust state")

def commitLocked (expectedRevision : UInt64) (next : Snapshot) : Storing Unit := do
  let current ← readLocked env codec
  Program.rejectIf (current.revision != expectedRevision)
    (.detail (.sentinel .revisionConflict)
      s!"durable revision is {current.revision}, expected {expectedRevision}")
  let _ ← ask (.commitStarts current next)
  let encoded ← Program.ofExcept (encodeState codec next)
  alter (.replaceState encoded)
  alter .syncDirectory
  writeAnchorLocked codec ⟨anchorVersion, next.revision, stateDigest env encoded⟩

def commit (expectedRevision : UInt64) (next : Snapshot) : Storing Unit := do
  Program.ofExcept (checkNext env expectedRevision next)
  locked (commitLocked env codec expectedRevision next)

end Sovereignite.Trust.FileStore
