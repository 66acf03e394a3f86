import Sovereignite.TrustRefinement

/-!
# Runs with a clock and an honest key manager

The system of all instances again, with two assumptions on what lies outside:
the clock never goes back, and the key manager keeps the name and the key
usage of the templates it signs.  In every state of such a run, each commit an
operation waits for is one of the listed proposals.
-/

namespace Sovereignite.Trust

open Effect

/-- A world and the latest reading of its clock. -/
structure TimedWorld where
  world : World
  clock : Time

section Rules

variable (env : Platform)

/-- The clock shows no earlier time than before. -/
def Ticks : (request : Request) → Reply request → Time → Time → Prop
  | .now, reading, before, after => before ≤ reading ∧ after = reading
  | _, _, before, after => after = before

def timedAnswer (caller : Caller) (before : TimedWorld) (request : Request)
    (reply : Reply request) (after : TimedWorld) : Prop :=
  answer env caller before.world request reply after.world ∧ Honest env request reply ∧
    Ticks request reply before.clock after.clock

def timedRules (configs : Nat → ServiceConfig) :
    SystemRules signature TimedWorld Caller Error Unit where
  answer := timedAnswer env
  offered := fun caller program => Offered env (configs caller.service) program
  crash := fun stopped before after =>
    crash stopped before.world after.world ∧ after.clock = before.clock

/-- The states the system can come to with such a clock and key manager. -/
abbrev TimedReachable (configs : Nat → ServiceConfig) (start : Time)
    (state : SystemState signature TimedWorld Caller Error Unit) : Prop :=
  (timedRules env configs).Reachable ⟨initialWorld, start⟩ state

end Rules

variable {env : Platform} {configs : Nat → ServiceConfig} {start : Time}
variable {state : SystemState signature TimedWorld Caller Error Unit}

/-- A run with a clock is a run. -/
theorem TimedReachable.untimed (reached : TimedReachable env configs start state) :
    Reachable env configs ⟨state.world.world, state.slots⟩ := by
  refine SystemRules.Reachable.map TimedWorld.world ?_ ?_ ?_ reached
  · intro caller before _ _ after answered
    exact answered.1
  · intro _ _ offered
    exact offered
  · intro _ _ _ crashed
    exact crashed.1

theorem TimedReachable.recorded (reached : TimedReachable env configs start state) :
    Recorded env state.world.world.log :=
  reached.untimed.sound.recorded

theorem timedRules_followed (env : Platform) (configs : Nat → ServiceConfig) :
    (timedRules env configs).Followed
      (fun timed => Sound env timed.world ∧ Bound configs timed.world)
      (fun caller timed => Unissued caller timed.world) Issues
      (fun caller timed =>
        admissible env (configs caller.service) caller timed.world.log True)
      (fun caller timed =>
        permitted env (configs caller.service) caller timed.world.log True)
      (fun caller timed => entitled caller timed.world.log) where
  plain _ _ _ allowed := permitted_not_issues allowed
  offered _ _ _ valid offered := proposes_offered valid.1.recorded offered
  answered _ _ _ _ _ valid made answered :=
    answered_admissible valid.1 valid.2 made (fun _ => answered.2.1) answered.1
  fresh _ _ _ _ _ _ answered apart unissued := unissued.kept answered.1 apart
  lasting _ _ _ _ _ _ _ _ answered given := admissible_grow (answer_frame answered.1).1 given
  crashed stopped before after crashed := by
    cases before
    cases after
    obtain ⟨⟨same, _⟩, clock⟩ := crashed
    cases same
    cases clock
    rfl

theorem TimedReachable.proposed (reached : TimedReachable env configs start state)
    {caller : Caller} {label : CommitLabel} {expectedRevision : UInt64} {next : Snapshot}
    {rest : Except Error Unit → Operating Unit}
    (waiting : state.slots caller = .running (.call (.commit label expectedRevision next) rest)) :
    ∃ base contribution, base.revision = expectedRevision ∧
      Proposed env (configs caller.service) caller state.world.world.log True label base
        contribution next := by
  obtain ⟨valid, _, running⟩ := SystemRules.Reachable.follows
    (timedRules_followed env configs) sound_initialWorld unissued_initialWorld reached
  obtain ⟨_, _, offered, leads, _⟩ := running caller _ waiting
  have once := (Program.RestrictedOnce.leads (fun _ => permitted_not_issues)
    (proposes_offered valid.1.recorded offered) leads).1
  rcases once with ⟨proposed, _⟩ | ⟨granted, _⟩
  · exact proposed
  · exact granted.elim

end Sovereignite.Trust
