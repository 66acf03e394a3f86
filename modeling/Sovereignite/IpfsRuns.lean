import Sovereignite.EffectSequence
import Sovereignite.EffectTriples
import Sovereignite.IpfsPublisher
import Sovereignite.RecoverableCell

/-!
# Runs of one publisher

The mutex of the publisher and the rule of one process at a time let calls run
one after the other, each up to its end or to a crash.  The node, the clock and
the signing key answer as they like.  A commit may fail with or without effect;
one that did not report success is visible, and a power loss may undo it until
a later commit reports success.
-/

namespace Sovereignite.Ipfs

open Effect
open Trust (Context Publication)

/-- What happened, as far as the specification speaks of it. -/
inductive Event where
  | committed (next : PublicationState) (succeeded : Bool)
  | powerLoss (restored : PublicationState)
  | published (prepared : PendingPublication)

/-- The publication store and what happened so far, newest first. -/
structure World where
  store : RecoverableCell PublicationState
  history : List Event

def handed : List Event → List PendingPublication
  | [] => []
  | .published prepared :: earlier => prepared :: handed earlier
  | .committed _ _ :: earlier => handed earlier
  | .powerLoss _ :: earlier => handed earlier

def World.commit (world : World) (next : PublicationState) (succeeded : Bool) : World where
  store := world.store.write next succeeded
  history := .committed next succeeded :: world.history

def World.publish (world : World) (prepared : PendingPublication) : World :=
  { world with history := .published prepared :: world.history }

structure Accepted (env : Platform) (current : PublicationState)
    (expectedRevision : UInt64) (next : PublicationState) : Prop where
  room : expectedRevision ≠ maxUint64
  advances : next.revision = expectedRevision + 1
  valid : validatePublicationState env next = .ok ()
  current : current.revision = expectedRevision

def answer (env : Platform) (world : World) : (request : Request) → Reply request → World → Prop
  | .contextError ctx, reply, after =>
    after = world ∧ (ctx = .background → reply = none)
  | .load, reply, after =>
    after = world ∧ ∀ state, reply = .ok state → state = world.store.visible
  | .commit expectedRevision next, reply, after =>
    (reply ≠ .ok () ∧ after = world) ∨
      (Accepted env world.store.visible expectedRevision next ∧
        after = world.commit next reply.isOk)
  | .publishSignedRecord prepared, _, after => after = world.publish prepared
  | .lock, _, after => after = world
  | .unlock, _, after => after = world
  | .now, _, after => after = world
  | .importPublicSnapshot _, _, after => after = world
  | .inspectPublicSnapshot _, _, after => after = world
  | .pinPublicSnapshot _, _, after => after = world
  | .publicSnapshotPinned _, _, after => after = world
  | .sign _, _, after => after = world

def publishCall (env : Platform) (publisher : Publisher) (ctx : Context)
    (publication : Publication) : Publishing Unit :=
  publish env publisher ctx publication >>= fun _ => .ret ()

def initialWorld : World where
  store := ⟨emptyPublicationState, []⟩
  history := []

/-- Runs of publishers, one at a time, in which visible commits survive. -/
def crashRules (env : Platform) : SequenceRules signature World Error Unit where
  answer := answer env
  offered _ program := ∃ publisher ctx publication,
    program = publishCall env publisher ctx publication
  disturb _ _ := False

/-- A power loss takes back some of the newest commits. -/
def PowerLoss (before after : World) : Prop :=
  before.store.PowerLoss after.store ∧
    after.history = .powerLoss after.store.visible :: before.history

/-- Runs with power losses, whose calls satisfy a condition on the state they
start in. -/
def powerLossRules (env : Platform) (condition : World → Publication → Prop) :
    SequenceRules signature World Error Unit where
  answer := answer env
  offered world program := ∃ publisher ctx publication, condition world publication ∧
    program = publishCall env publisher ctx publication
  disturb := PowerLoss

end Sovereignite.Ipfs
