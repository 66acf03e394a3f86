import Sovereignite.EffectSystem
import Sovereignite.EffectTriples
import Sovereignite.TrustLedger

/-!
# Runs of trust services on one store

Any number of service instances share a store; each instance has its own
mutexes and its own copy of the document.  Operations of all instances run
interleaved, the policy, the builder, the key manager and the publisher answer
as they like, and the store may fail before or after it wrote.  A crash stops
all operations of some instances.
-/

namespace Sovereignite.Trust

open Effect
open KeyManager (CertificateRequest)

/-- The store's log, the requests that reached the key manager, and the memory
and the mutexes of each instance. -/
structure World where
  log : List Commit
  issued : List (Caller × CertificateRequest)
  memory : Nat → Memory
  owner : Nat → Mutex → Option Caller

/-- The world after a mutex of an instance was taken or freed. -/
def World.setOwner (world : World) (service : Nat) (mutex : Mutex)
    (holder : Option Caller) : World :=
  { world with
    owner := fun other held =>
      if other = service ∧ held = mutex then holder else world.owner other held }

def requestSerial (request : CertificateRequest) : Option Int :=
  request.template.map Certificate.serialNumber

variable (env : Platform)

/-- How a call of an operation may be answered, and the world after it. -/
def answer (caller : Caller) (world : World) : (request : Request) → Reply request → World → Prop
  | .contextError ctx, reply, after =>
    after = world ∧ (ctx = .background → reply = none)
  | .now, _, after => after = world
  | .lock mutex, _, after =>
    world.owner caller.service mutex = none ∧
      after = world.setOwner caller.service mutex (some caller)
  | .unlock mutex, _, after =>
    after = world.setOwner caller.service mutex none
  | .readMemory, reply, after => reply = world.memory caller.service ∧ after = world
  | .writeMemory memory, _, after =>
    after = { world with memory := Function.update world.memory caller.service memory }
  | .load, reply, after =>
    after = world ∧ ∀ document, reply = .ok document → document = durable world.log
  | .commit label expectedRevision next, reply, after =>
    (reply ≠ .ok () ∧ after = world) ∨
      (Accepted env (durable world.log) expectedRevision next ∧
        after = { world with log := ⟨caller, label, next⟩ :: world.log })
  | .authorize _, _, after => after = world
  | .build _, _, after => after = world
  | .metadata _, _, after => after = world
  | .issueCertificate request, _, after =>
    after = { world with issued := (caller, request) :: world.issued }
  | .fetch _ _ _, _, after => after = world
  | .publish _, _, after => after = world

inductive Offered (config : ServiceConfig) : Operating Unit → Prop where
  | openService (ctx : Context) : Offered config (openService env config ctx)
  | adoptDevice (ctx : Context) (state : ConnectionState) (targetPeerID : String) :
      Offered config (adoptDevice env config ctx state targetPeerID >>= fun _ => .ret ())
  | revokeTrust (ctx : Context) (state : ConnectionState) (relationshipID : String) :
      Offered config (revokeTrust env config ctx state relationshipID)
  | initializeLocalCA (ctx : Context) :
      Offered config (initializeLocalCA env config ctx >>= fun _ => .ret ())
  | issueLocalMTLSCertificate (ctx : Context) :
      Offered config (issueLocalMTLSCertificate env config ctx >>= fun _ => .ret ())
  | federate (ctx : Context) (state : ConnectionState) (remoteTrustDomain : String) :
      Offered config (federate env config ctx state remoteTrustDomain >>= fun _ => .ret ())
  | revokeCertificate (ctx : Context) (state : ConnectionState) (certificateID : String) :
      Offered config (revokeCertificate env config ctx state certificateID)
  | drainOutbox (ctx : Context) (items : Nat) : Offered config (drainOutbox env config ctx items)

/-- A crash stops whole instances and loses nothing that was stored. -/
def crash (stopped : Caller → Prop) (before after : World) : Prop :=
  after = before ∧
    ∀ service, (∀ thread, stopped ⟨service, thread⟩) ∨ ∀ thread, ¬ stopped ⟨service, thread⟩

def rules (config : Nat → ServiceConfig) : SystemRules signature World Caller Error Unit where
  answer := answer env
  offered := fun caller program => Offered env (config caller.service) program
  crash := crash

/-- A store without commits and instances that are not open. -/
def initialWorld : World where
  log := []
  issued := []
  memory := fun _ => ⟨false, emptySnapshot⟩
  owner := fun _ _ => none

abbrev Reachable (config : Nat → ServiceConfig)
    (state : SystemState signature World Caller Error Unit) : Prop :=
  (rules env config).Reachable initialWorld state

end Sovereignite.Trust
