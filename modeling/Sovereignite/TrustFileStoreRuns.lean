import Sovereignite.EffectOutcomes
import Sovereignite.RecoverableCell
import Sovereignite.TrustFileStore

/-!
# Runs of the file store

The lock lets loads and commits of cooperating processes run one after the
other, each up to its end or to a crash.  The disk is the pair of files with
the pairs that a power loss may bring back: it keeps some first part of the
renames since the last successful directory sync.  Every file operation may
fail.  In runs with tampering an adversary may, before any request and between
calls, put an earlier content into the state file or delete it.
-/

namespace Sovereignite.Trust.FileStore

open Effect

/-- The contents of the two files, where they exist. -/
structure Disk where
  state : Option Bytes
  anchor : Option Bytes
  deriving DecidableEq

/-- What callers learned.  A load is recorded with the snapshots before and
after the last commit that was started and not settled since. -/
inductive Observation where
  | loaded (outcome : Except Error Snapshot) (before after : Snapshot)
  | committed (next : Snapshot)

/-- The disk, every content the state file had, the snapshots before and after
the last commit, and what callers learned, newest first. -/
structure World where
  disk : RecoverableCell Disk
  contents : List Bytes
  before : Snapshot
  after : Snapshot
  observed : List Observation

/-- The snapshot a caller learned to be in the store. -/
def Observation.seen : Observation → Option Snapshot
  | .loaded (.ok snapshot) _ _ => some snapshot
  | .loaded (.error _) _ _ => none
  | .committed next => some next

def initialWorld : World where
  disk := ⟨⟨none, none⟩, []⟩
  contents := []
  before := emptySnapshot
  after := emptySnapshot
  observed := []

namespace World

def replaceState (world : World) (encoded : Bytes) : World :=
  { world with
    disk := world.disk.write { world.disk.visible with state := some encoded } false
    contents := encoded :: world.contents }

def replaceAnchor (world : World) (encoded : Bytes) : World :=
  { world with
    disk := world.disk.write { world.disk.visible with anchor := some encoded } false }

def sync (world : World) : World :=
  { world with disk := ⟨world.disk.visible, []⟩ }

def alter (world : World) : Alteration → World
  | .replaceState encoded => world.replaceState encoded
  | .replaceAnchor encoded => world.replaceAnchor encoded
  | .syncDirectory => world.sync

def start (world : World) (current next : Snapshot) : World :=
  { world with before := current, after := next }

/-- The world after a caller learned something.  A snapshot that was learned
settles the commits before it. -/
def learn (world : World) (observation : Observation) : World :=
  { world with
    observed := observation :: world.observed
    before := observation.seen.getD world.before
    after := observation.seen.getD world.after }

end World

/-- How the file system may answer a request, and the world after it.  A sync
that reports an error may have happened or not. -/
def diskAnswer (world : World) : (request : Request) → Reply request → World → Prop
  | .acquireLock, _, after => after = world
  | .releaseLock, _, after => after = world
  | .readState, reply, after =>
    after = world ∧ ∀ found, reply = .ok found → found = world.disk.visible.state
  | .readAnchor, reply, after =>
    after = world ∧ ∀ found, reply = .ok found → found = world.disk.visible.anchor
  | .alter alteration, reply, after =>
    (reply ≠ .ok () ∧ after = world) ∨
      ((reply = .ok () ∨ alteration = .syncDirectory) ∧ after = world.alter alteration)
  | .commitStarts current next, _, after => after = world.start current next
  | .loaded outcome, _, after =>
    after = world.learn (.loaded outcome world.before world.after)
  | .committed next, _, after => after = world.learn (.committed next)

/-- An adversary puts an earlier content into the state file or deletes it. -/
def Tampered (before after : World) : Prop :=
  ∃ state durable, (∀ encoded, state = some encoded → encoded ∈ before.contents) ∧
    after = { before with
      disk := before.disk.write { before.disk.visible with state := state } durable }

/-- Any number of interventions of the adversary, if there is one. -/
def Interference (tampering : Bool) : World → World → Prop :=
  Relation.ReflTransGen fun before after => tampering = true ∧ Tampered before after

/-- The adversary may act before a request is answered. -/
def answer (tampering : Bool) (world : World) (request : Request) (reply : Reply request)
    (after : World) : Prop :=
  ∃ current, Interference tampering world current ∧ diskAnswer current request reply after

/-- A power loss takes back some of the newest renames. -/
def PowerLoss (before after : World) : Prop :=
  before.disk.PowerLoss after.disk ∧ after = { before with disk := after.disk }

/-- The maps of a document have no order.  Their entries are listed by key, as
they are encoded. -/
structure Canonical (document : Snapshot) : Prop where
  relationships : document.relationships.keys.Pairwise (· < ·)
  certificates : document.certificates.keys.Pairwise (· < ·)
  pendingCertificates : document.pendingCertificates.keys.Pairwise (· < ·)
  burnedSerials : document.burnedSerials.keys.Pairwise (· < ·)
  revocations : document.revocations.keys.Pairwise (· < ·)
  federations : document.federations.keys.Pairwise (· < ·)
  bundles : document.bundles.keys.Pairwise (· < ·)
  appliedGrants : document.appliedGrants.keys.Pairwise (· < ·)
  outbox : document.outbox.keys.Pairwise (· < ·)
  published : document.published.keys.Pairwise (· < ·)

section Calls

variable (env : Platform) (codec : Codec)

def loadCall : Storing Unit := do
  let outcome ← (load env codec).attempt
  let _ ← ask (.loaded outcome)
  return ()

def commitCall (expectedRevision : UInt64) (next : Snapshot) : Storing Unit := do
  commit env codec expectedRevision next
  let _ ← ask (.committed next)
  return ()

/-- Runs with or without an adversary whose calls are made in worlds with a
condition. -/
def runRules (condition : World → Prop) (tampering : Bool) :
    SequenceRules signature World Error Unit where
  answer := answer tampering
  offered world program := condition world ∧
    (program = loadCall env codec ∨
      ∃ expectedRevision next, Canonical next ∧
        program = commitCall env codec expectedRevision next)
  disturb before after := PowerLoss before after ∨ Interference tampering before after

end Calls

/-- The anchor is that of an empty store, or no power loss can bring another
anchor back. -/
def AnchorCovered (codec : Codec) (world : World) : Prop :=
  (∃ encoded, world.disk.visible.anchor = some encoded ∧
      parseAnchor codec encoded = .ok zeroAnchor) ∨
    world.disk.Always fun disk => disk.anchor = world.disk.visible.anchor

/-- A load returned the snapshot before or after the last commit, and found no
rollback. -/
def ReturnsCommitted : Observation → Prop
  | .loaded outcome before after =>
    (∀ snapshot, outcome = .ok snapshot → snapshot = before ∨ snapshot = after) ∧
      ∀ error, outcome = .error error → error.is .stateRollback = false
  | .committed _ => True

/-- Of two observations, the later one is not a load that goes back behind the
earlier one or that differs from it at the same revision. -/
def NotBehind (later earlier : Observation) : Prop :=
  ∀ outcome before after loaded seen, later = .loaded outcome before after →
    outcome = .ok loaded → earlier.seen = some seen →
      ¬ loaded.revision < seen.revision ∧ (loaded.revision = seen.revision → loaded = seen)

/-- No load goes back behind what callers learned before it. -/
def NeverRegresses (world : World) : Prop :=
  world.observed.Pairwise NotBehind

/-- No two contents of the state file have the same digest. -/
def CollisionFree (env : Platform) (world : World) : Prop :=
  ∀ first ∈ world.contents, ∀ second ∈ world.contents,
    env.sha256 first = env.sha256 second → first = second

end Sovereignite.Trust.FileStore
