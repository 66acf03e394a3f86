import Sovereignite.KeyManagerRuns
import Sovereignite.TrustExecution

/-!
# Executing the key manager

An environment fixes the clock, the objects the TPM generates and what a save
reports.  The worlds computed with it are worlds of the runs.
-/

namespace Sovereignite.KeyManager

open Effect
open Trust (Context)

/-- The parts outside the manager, as functions.  Saves, creations and evictions
take effect; with an error a save reports it although it did. -/
structure Environment where
  time : Time
  save : Snapshot → Except Error Unit
  generate : Handle → Template → Except Error Public

def accepts (current next : Snapshot) : Bool :=
  (validateSnapshotEnvelope next).isOk && current.revision != maxUint64 &&
    next.revision == current.revision + 1

theorem Accepted.of_accepts {current next : Snapshot}
    (accepted : accepts current next = true) : Accepted current next := by
  simp only [accepts, Bool.and_eq_true, beq_iff_eq, bne_iff_ne, ne_eq] at accepted
  refine ⟨?_, accepted.1.2, accepted.2⟩
  cases outcome : validateSnapshotEnvelope next with
  | ok => rfl
  | error =>
    rw [outcome] at accepted
    cases accepted.1.1

def respond (environment : Environment) : Responder signature World
  | world, .contextError _ => some (none, world)
  | world, .acquire _ => some (.ok (), world)
  | world, .release => some ((), world)
  | world, .now => some (environment.time, world)
  | world, .load => some (.ok world.store.visible, world)
  | world, .save next =>
    if accepts world.store.visible next then
      some (environment.save next, world.save next (environment.save next).isOk)
    else
      some (.error (.sentinel .metadataRevisionConflict), world)
  | world, .supports _ => some (.ok (), world)
  | world, .readPublic handle =>
    match world.objects handle with
    | some object => some (.ok object, world)
    | none => some (.error (.sentinel .handleNotFound), world)
  | world, .generate handle template => some (environment.generate handle template, world)
  | world, .persist handle candidate => some (.ok candidate, world.persist handle candidate)
  | world, .evictPersistent reference => some (.ok (), world.evict reference.handle)
  | _, .issue _ => none

theorem answer_of_respond {environment : Environment} {world : World} {request : Request}
    {reply : Reply request} {after : World}
    (responded : respond environment world request = some (reply, after)) :
    answer world request reply after := by
  cases request with
  | contextError =>
    cases responded
    exact ⟨rfl, fun _ => rfl⟩
  | load =>
    cases responded
    refine ⟨rfl, ?_⟩
    rintro _ ⟨⟩
    rfl
  | save next =>
    simp only [respond] at responded
    split at responded
    · next accepted =>
        cases responded
        exact .inr ⟨.of_accepts accepted, rfl⟩
    · cases responded
      exact .inl ⟨nofun, rfl⟩
  | readPublic =>
    simp only [respond] at responded
    split at responded
    · next _ present =>
        cases responded
        refine ⟨rfl, ?_, ?_⟩
        · rintro _ ⟨⟩
          exact present
        · rintro ⟨⟩
    · next absent =>
        cases responded
        refine ⟨rfl, ?_, fun _ => absent⟩
        rintro _ ⟨⟩
  | persist =>
    cases responded
    exact .inr rfl
  | evictPersistent =>
    cases responded
    exact .inr rfl
  | issue => cases responded
  | _ =>
    cases responded
    rfl

def execute (environment : Environment) (operation : Managing Unit) (world : World) : World :=
  (operation.advance (respond environment) 1000 world).1

variable {env : Platform} {manager : Manager} {objects : Handle → Option Public}
variable {world : World}

theorem leaves_execute (environment : Environment) (operation : Managing Unit)
    (world : World) : operation.Leaves answer world (execute environment operation world) := by
  let rules : SequenceRules signature World Error Unit := ⟨answer, fun _ _ => True, Eq⟩
  have answers : rules.Answers (respond environment) id :=
    fun _ _ _ _ responded => answer_of_respond responded
  exact SequenceRules.leaves_advance answers 1000 world operation

theorem crashRules_execute
    (reached : (crashRules env manager).Reachable (initialWorld objects) world)
    (environment : Environment) {operation : Managing Unit}
    (offered : Operation env manager operation) :
    (crashRules env manager).Reachable (initialWorld objects)
      (execute environment operation world) :=
  .operated operation reached offered (leaves_execute environment operation world)

theorem powerLossRules_execute {condition : World → Prop}
    (reached : (powerLossRules env manager condition).Reachable (initialWorld objects) world)
    (environment : Environment) {operation : Managing Unit}
    (offered : Operation env manager operation) (met : condition world) :
    (powerLossRules env manager condition).Reachable (initialWorld objects)
      (execute environment operation world) :=
  .operated operation reached ⟨met, offered⟩ (leaves_execute environment operation world)

section SampleDevice

open Trust (samplePlatform sampleInputs)

def samplePolicies : List RolePolicy :=
  [{ role := roleDeviceRootCA
     purpose := .certificateAuthority
     algorithm := .ecdsaP256
     handles := [0x81000000, 0x81000001]
     lifetime := false
     rotationInterval := 1000 }]

def sampleManager : Manager where
  policies := samplePolicies
  accepted := by decide +kernel

def sampleObject (handle : Handle) (template : Template) : Public where
  handle := handle
  name := [1, UInt8.ofNat handle.toNat]
  template := template
  publicKey := some (.ecdsa "P-256" (7 + handle.toNat % 256) (7 + handle.toNat % 256))

/-- Everything works, except that saves may report what they please. -/
def sampleEnvironment (time : Time) (save : Snapshot → Except Error Unit) : Environment where
  time := time
  save := save
  generate handle template := .ok (sampleObject handle template)

def saved (_ : Snapshot) : Except Error Unit := .ok ()

def sampleEnsure : Managing Unit :=
  ensureRole (samplePlatform sampleInputs) sampleManager .background roleDeviceRootCA >>=
    fun _ => .ret ()

def sampleRotate : Managing Unit :=
  rotate (samplePlatform sampleInputs) sampleManager .background roleDeviceRootCA >>=
    fun _ => .ret ()

def sampleOpen : Managing Unit :=
  openManager (samplePlatform sampleInputs) sampleManager .background

end SampleDevice

end Sovereignite.KeyManager
