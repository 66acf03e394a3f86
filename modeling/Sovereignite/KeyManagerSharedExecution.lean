import Sovereignite.KeyManagerExecution
import Sovereignite.KeyManagerShared

/-!
# Executing processes over the shared store

The processes of these runs take turns: each one runs a whole operation, with
calls that all work.  The worlds computed here are worlds of the system.
-/

namespace Sovereignite.KeyManager.Shared

open Effect
open Trust (Context)

variable {env : Platform} {setting : Setting} {manager : Manager}

/-- Answer a call of a process.  The clock reads a given time, or stays when that
time has passed. -/
def respond (process : Process) (time : Time) : Responder signature World
  | world, .contextError _ => some (none, world)
  | world, .acquire _ =>
    if world.holder = none then
      some (.ok (), { world with holder := some process })
    else
      none
  | world, .release => some ((), { world with holder := none })
  | world, .now => some (max world.clock time, { world with clock := max world.clock time })
  | world, .load => some (.ok world.visible, world)
  | world, .save next =>
    if accepts world.visible next then
      some (.ok (), { world with saved := next :: world.saved })
    else
      some (.error (.sentinel .metadataRevisionConflict), world)
  | world, .supports _ => some (.ok (), world)
  | world, .readPublic handle =>
    match world.objects handle with
    | some object => some (.ok object, world)
    | none => some (.error (.sentinel .handleNotFound), world)
  | world, .generate handle template => some (.ok (sampleObject handle template), world)
  | world, .persist handle candidate =>
    some (.ok candidate,
      { world with objects := Function.update world.objects handle (some candidate) })
  | world, .evictPersistent reference =>
    some (.ok (), { world with objects := Function.update world.objects reference.handle none })
  | _, .issue _ => none

theorem answers_respond (forward : ∀ clock time, setting.reads clock (max clock time))
    (process : Process) (time : Time) :
    (rules env setting manager).Answers process (respond process time) id := by
  intro world request reply after responded
  change answer setting process world request reply after
  cases request with
  | contextError =>
    cases responded
    exact ⟨rfl, fun _ => rfl⟩
  | acquire =>
    simp only [respond] at responded
    split at responded
    · next unheld =>
        cases responded
        exact .inr ⟨rfl, unheld, rfl⟩
    · cases responded
  | now =>
    cases responded
    exact ⟨forward world.clock time, rfl⟩
  | load =>
    cases responded
    refine ⟨rfl, ?_⟩
    rintro _ ⟨⟩
    rfl
  | save next =>
    simp only [respond] at responded
    split at responded
    · next accepted =>
        cases responded
        exact .inr ⟨.of_accepts accepted, rfl⟩
    · cases responded
      exact .inl ⟨by rintro ⟨⟩, rfl⟩
  | readPublic =>
    simp only [respond] at responded
    split at responded
    · next _ present =>
        cases responded
        refine ⟨rfl, ?_, by rintro ⟨⟩⟩
        rintro _ ⟨⟩
        exact present
    · next absent =>
        cases responded
        exact ⟨rfl, by rintro _ ⟨⟩, fun _ => absent⟩
  | persist =>
    cases responded
    exact .inr rfl
  | evictPersistent =>
    cases responded
    exact .inr rfl
  | issue => cases responded
  | _ =>
    cases responded
    rfl

def interrupt (process : Process) (time : Time) (steps : Nat) (operation : Managing Unit)
    (world : World) : World :=
  (operation.advance (respond process time) steps world).1

def execute (process : Process) (time : Time) (operation : Managing Unit) (world : World) : World :=
  interrupt process time 1000 operation world

/-- A world that processes below a number come to. -/
abbrev Attained (env : Platform) (setting : Setting) (manager : Manager) (world : World)
    (names : Process) : Prop :=
  (rules env setting manager).Attainable (initialWorld (fun _ => none) 0) (· < names) world

theorem attained_initial (env : Platform) (setting : Setting) (manager : Manager)
    (names : Process) :
    Attained env setting manager (initialWorld (fun _ => none) 0) names := by
  obtain ⟨state, reached, same, idle⟩ := SystemRules.Attainable.initial
  exact ⟨state, reached, same, fun name _ => idle name id⟩

variable {world : World}

theorem Attained.interrupt {names : Process} {operation : Managing Unit}
    (forward : ∀ clock time, setting.reads clock (max clock time))
    (attained : Attained env setting manager world names)
    (offered : Offered env setting manager operation) (time : Time) (steps : Nat) :
    Attained env setting manager (interrupt names time steps operation world) (names + 1) := by
  have operated : (rules env setting manager).Attainable (initialWorld (fun _ => none) 0)
      (fun other => other = names ∨ other < names)
      (Shared.interrupt names time steps operation world) :=
    @SystemRules.Attainable.operate _ _ _ _ _ _ _ id _ _ operation world (· < names) names
      attained (answers_respond forward names time) (lt_irrefl names) offered steps
  obtain ⟨state, reached, same, idle⟩ := operated
  refine ⟨state, reached, same, fun name unused => idle name ?_⟩
  rintro (rfl | earlier)
  · exact unused (Nat.lt_succ_self _)
  · exact unused (Nat.lt_succ_of_lt earlier)

theorem Attained.execute {names : Process} {operation : Managing Unit}
    (forward : ∀ clock time, setting.reads clock (max clock time))
    (attained : Attained env setting manager world names)
    (offered : Offered env setting manager operation) (time : Time) :
    Attained env setting manager (execute names time operation world) (names + 1) :=
  attained.interrupt forward offered time 1000

theorem Attained.crash {names process : Process}
    (attained : Attained env setting manager world names) (held : world.holder = some process)
    (started : process < names) :
    Attained env setting manager { world with holder := none } names := by
  obtain ⟨_, reached, rfl, idle⟩ := attained
  refine ⟨_, reached.tail (.crash (· < names) _ (.inl ⟨⟨process, held, started⟩, rfl⟩)), rfl, ?_⟩
  intro name unused
  simpa [unused] using idle name unused

section SampleDevice

/-- A lifetime identity and a root certificate authority. -/
def devicePolicies : List RolePolicy :=
  { role := roleDeviceIPNSIdentity
    purpose := .deviceIPNSIdentity
    algorithm := .ecdsaP256
    handles := [0x81000010]
    lifetime := true
    rotationInterval := 0 } :: samplePolicies

def deviceManager : Manager where
  policies := devicePolicies
  accepted := by decide +kernel

end SampleDevice

end Sovereignite.KeyManager.Shared
