import Sovereignite.EffectSafety
import Mathlib.Logic.Function.Basic
import Mathlib.Logic.Relation

/-!
# Systems of concurrent programs

Programs run side by side over one world.  A step starts a program under an
unused name, answers the request a running program is waiting for, or stops a
set of programs at once, which may also lose a part of the world.  Nothing is
assumed about the order of the steps.

The invariant of the world holds in every reachable state when every program
that may be started is safe and each program owes every other one what that
one relies on.
-/

namespace Effect

/-- A program that is not started yet, waiting for a reply, or over. -/
inductive Slot (S : Signature) (ε α : Type) where
  | idle
  | running (program : Program S ε α)
  | ended

/-- The world and the programs, each under its own name. -/
structure SystemState (S : Signature) (World Name ε α : Type) where
  world : World
  slots : Name → Slot S ε α

/-- How a system moves: the answers given to each program, the programs that
may be started, and what stopping some programs does to the world. -/
structure SystemRules (S : Signature) (World Name ε α : Type) where
  answer : Name → World → (request : S.Request) → S.Reply request → World → Prop
  offered : Name → Program S ε α → Prop
  crash : (Name → Prop) → World → World → Prop

namespace SystemRules

variable {S : Signature} {World Name ε α : Type}

open Classical in
inductive Step (rules : SystemRules S World Name ε α) :
    SystemState S World Name ε α → SystemState S World Name ε α → Prop where
  | start {state : SystemState S World Name ε α} (name : Name)
      (program : Program S ε α) (unused : state.slots name = .idle)
      (offered : rules.offered name program) :
      Step rules state ⟨state.world, Function.update state.slots name (.running program)⟩
  | reply {state : SystemState S World Name ε α} (name : Name)
      (request : S.Request) (next : S.Reply request → Program S ε α)
      (value : S.Reply request) (after : World)
      (waiting : state.slots name = .running (.call request next))
      (answered : rules.answer name state.world request value after) :
      Step rules state ⟨after, Function.update state.slots name (.running (next value))⟩
  | crash {state : SystemState S World Name ε α} (stopped : Name → Prop)
      (after : World) (crashed : rules.crash stopped state.world after) :
      Step rules state ⟨after, fun name => if stopped name then .ended else state.slots name⟩

def initial (world : World) : SystemState S World Name ε α :=
  ⟨world, fun _ => .idle⟩

def Reachable (rules : SystemRules S World Name ε α) (world : World)
    (state : SystemState S World Name ε α) : Prop :=
  Relation.ReflTransGen rules.Step (initial world) state

end SystemRules

namespace SystemRules

variable {S : Signature} {World Coarse Name ε α : Type}

/-- A run of a system is one of any system with the same programs whose answers and
crashes allow at least as much on a view of the worlds. -/
theorem Reachable.map {rules : SystemRules S World Name ε α}
    {coarse : SystemRules S Coarse Name ε α} (view : World → Coarse)
    (answers : ∀ name before request reply after, rules.answer name before request reply after →
      coarse.answer name (view before) request reply (view after))
    (offers : ∀ name program, rules.offered name program → coarse.offered name program)
    (crashes : ∀ stopped before after, rules.crash stopped before after →
      coarse.crash stopped (view before) (view after))
    {start : World} {state : SystemState S World Name ε α} (reached : rules.Reachable start state) :
    coarse.Reachable (view start) ⟨view state.world, state.slots⟩ := by
  induction reached with
  | refl => exact .refl
  | tail _ step ih =>
    refine ih.tail ?_
    cases step with
    | start name program unused offered => exact .start name program unused (offers _ _ offered)
    | reply name request next value _ waiting answered =>
      exact .reply name request next value _ waiting (answers _ _ _ _ _ answered)
    | crash stopped _ crashed => exact .crash stopped _ (crashes _ _ _ crashed)

end SystemRules

/-- The invariant of a system and what each program may assume of the steps
of the others.  `fresh` is what is known of a name that was never used. -/
structure Discipline (World Name : Type) where
  valid : World → Prop
  rely : Name → World → World → Prop
  fresh : Name → World → Prop

namespace Discipline

variable {S : Signature} {World Name ε α : Type}

/-- The contract of one program: it owes each other program what that one
relies on. -/
def contract (discipline : Discipline World Name)
    (rules : SystemRules S World Name ε α) (name : Name) : Contract S World where
  answer := rules.answer name
  valid := discipline.valid
  rely := discipline.rely name
  guarantee := fun before after =>
    ∀ other, other ≠ name → discipline.rely other before after

/-- A discipline that the programs of a system keep to. -/
structure Kept (discipline : Discipline World Name)
    (rules : SystemRules S World Name ε α) : Prop where
  refl : ∀ name world, discipline.rely name world world
  trans : ∀ name first second third, discipline.rely name first second →
    discipline.rely name second third → discipline.rely name first third
  freshStable : ∀ name before after, discipline.rely name before after →
    discipline.fresh name before → discipline.fresh name after
  offeredSafe : ∀ name program world, rules.offered name program →
    discipline.valid world → discipline.fresh name world →
      Safe (discipline.contract rules name) (fun _ _ => True) program world
  crashValid : ∀ stopped before after, discipline.valid before →
    rules.crash stopped before after → discipline.valid after
  crashRely : ∀ stopped before after name, rules.crash stopped before after →
    ¬ stopped name → discipline.rely name before after

/-- The world is valid and every program can go on safely. -/
structure Holds (discipline : Discipline World Name)
    (rules : SystemRules S World Name ε α)
    (state : SystemState S World Name ε α) : Prop where
  world : discipline.valid state.world
  idle : ∀ name, state.slots name = .idle → discipline.fresh name state.world
  running : ∀ name program, state.slots name = .running program →
    Safe (discipline.contract rules name) (fun _ _ => True) program state.world

variable {discipline : Discipline World Name} {rules : SystemRules S World Name ε α}

private theorem Holds.after {state : SystemState S World Name ε α}
    (kept : discipline.Kept rules) (holds : discipline.Holds rules state)
    {name : Name} {program : Program S ε α} {after : World}
    (relied : discipline.rely name state.world after)
    (running : state.slots name = .running program) :
    Safe (discipline.contract rules name) (fun _ _ => True) program after :=
  Safe.later (kept.trans name) (fun _ _ _ _ _ => trivial) relied
    (holds.running name program running)

theorem Holds.step {state next : SystemState S World Name ε α}
    (kept : discipline.Kept rules) (holds : discipline.Holds rules state)
    (step : rules.Step state next) : discipline.Holds rules next := by
  classical
  cases step with
  | start name program unused offered =>
    refine ⟨holds.world, ?_, ?_⟩
    · intro other idle
      by_cases same : other = name
      · subst other
        simp at idle
      · simp only [Function.update_of_ne same] at idle
        exact holds.idle other idle
    · intro other running found
      by_cases same : other = name
      · subst other
        simp only [Function.update_self, Slot.running.injEq] at found
        subst running
        exact kept.offeredSafe name program state.world offered holds.world (holds.idle name unused)
      · simp only [Function.update_of_ne same] at found
        exact holds.running other running found
  | reply name _ _ value after waiting answered =>
    obtain ⟨valid, owed, safe⟩ := holds.running name _ waiting state.world
      holds.world (kept.refl name state.world) value after answered
    refine ⟨valid, ?_, ?_⟩
    · intro other idle
      by_cases same : other = name
      · subst other
        simp at idle
      · simp only [Function.update_of_ne same] at idle
        exact kept.freshStable other _ _ (owed other same) (holds.idle other idle)
    · intro other running found
      by_cases same : other = name
      · subst other
        simp only [Function.update_self, Slot.running.injEq] at found
        subst running
        exact safe
      · simp only [Function.update_of_ne same] at found
        exact holds.after kept (owed other same) found
  | crash stopped after crashed =>
    refine ⟨kept.crashValid stopped _ _ holds.world crashed, ?_, ?_⟩
    · intro name idle
      by_cases dead : stopped name
      · simp [dead] at idle
      · simp only [dead, if_false] at idle
        exact kept.freshStable name _ _
          (kept.crashRely stopped _ _ name crashed dead) (holds.idle name idle)
    · intro name _ found
      by_cases dead : stopped name
      · simp [dead] at found
      · simp only [dead, if_false] at found
        exact holds.after kept (kept.crashRely stopped _ _ name crashed dead) found

theorem Holds.step_relied {state next : SystemState S World Name ε α}
    (kept : discipline.Kept rules) (holds : discipline.Holds rules state)
    (step : rules.Step state next) :
    (∃ name, ∀ other, other ≠ name → discipline.rely other state.world next.world) ∨
      ∃ stopped, rules.crash stopped state.world next.world := by
  cases step with
  | start name => exact .inl ⟨name, fun other _ => kept.refl other state.world⟩
  | reply name _ _ value after waiting answered =>
    obtain ⟨_, owed, _⟩ := holds.running name _ waiting state.world
      holds.world (kept.refl name state.world) value after answered
    exact .inl ⟨name, owed⟩
  | crash stopped _ crashed => exact .inr ⟨stopped, crashed⟩

theorem Holds.reachable {world : World} {state : SystemState S World Name ε α}
    (kept : discipline.Kept rules) (valid : discipline.valid world)
    (fresh : ∀ name, discipline.fresh name world)
    (reached : rules.Reachable world state) : discipline.Holds rules state := by
  induction reached with
  | refl =>
    refine ⟨valid, fun name _ => fresh name, ?_⟩
    intro _ _ found
    cases found
  | tail _ step ih => exact ih.step kept step

end Discipline

end Effect
