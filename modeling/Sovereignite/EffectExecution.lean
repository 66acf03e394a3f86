import Sovereignite.EffectSystem

/-!
# Executing programs against a responder

A responder answers every request from a state of its own.  Where its answers
are answers of a system, the state it leaves behind is a world the system can
come to; so a run can be computed instead of being built step by step.
-/

namespace Effect

/-- Answers a request from a state, or leaves it waiting. -/
abbrev Responder (S : Signature) (State : Type) :=
  State → (request : S.Request) → Option (S.Reply request × State)

variable {S : Signature} {State World Name ε α : Type}

/-- Answer at most a number of requests of a program. -/
def Program.advance (respond : Responder S State) :
    Nat → State → Program S ε α → State × Program S ε α
  | steps + 1, state, .call request next =>
    match respond state request with
    | none => (state, .call request next)
    | some (reply, after) => Program.advance respond steps after (next reply)
  | 0, state, program => (state, program)
  | _ + 1, state, .ret value => (state, .ret value)
  | _ + 1, state, .fail error => (state, .fail error)

def Responder.leaving (respond : Responder S State) (left : S.Request → Bool) :
    Responder S State :=
  fun state request => if left request then none else respond state request

def Program.failure : Program S ε α → Option ε
  | .fail error => some error
  | .ret _ => none
  | .call _ _ => none

open Classical in
private theorem Slot.running_update {slots : Name → Slot S ε α} {name : Name}
    (program : Program S ε α) :
    Function.update slots name (.running program) name = .running program :=
  Function.update_self name _ slots

namespace SystemRules

def Answers (rules : SystemRules S World Name ε α) (name : Name)
    (respond : Responder S State) (view : State → World) : Prop :=
  ∀ state request reply after, respond state request = some (reply, after) →
    rules.answer name (view state) request reply (view after)

variable {respond : Responder S State} {view : State → World}

theorem Answers.leaving {rules : SystemRules S World Name ε α} {name : Name}
    (answers : rules.Answers name respond view) (left : S.Request → Bool) :
    rules.Answers name (respond.leaving left) view := by
  intro state request reply after responded
  unfold Responder.leaving at responded
  split at responded
  · cases responded
  · exact answers state request reply after responded

/-- A world the system can come to with only some names used. -/
def Attainable (rules : SystemRules S World Name ε α) (start : World)
    (used : Name → Prop) (world : World) : Prop :=
  ∃ state, rules.Reachable start state ∧ state.world = world ∧
    ∀ name, ¬ used name → state.slots name = .idle

variable {rules : SystemRules S World Name ε α} {start : World}

theorem Attainable.initial : rules.Attainable start (fun _ => False) start :=
  ⟨SystemRules.initial start, Relation.ReflTransGen.refl, rfl, fun _ _ => rfl⟩

variable {program : Program S ε α} {state : State}

theorem reachable_advance {name : Name} (answers : rules.Answers name respond view) (steps : Nat)
    {system : SystemState S World Name ε α} (reached : rules.Reachable start system)
    (world : system.world = view state) (running : system.slots name = .running program) :
    ∃ later, rules.Reachable start later ∧
      later.world = view (program.advance respond steps state).1 ∧
      later.slots name = .running (program.advance respond steps state).2 ∧
      ∀ other, other ≠ name → later.slots other = system.slots other := by
  classical
  induction steps generalizing system state program with
  | zero => cases program <;> exact ⟨system, reached, world, running, fun _ _ => rfl⟩
  | succ _ ih =>
    cases program with
    | ret | fail => exact ⟨system, reached, world, running, fun _ _ => rfl⟩
    | call request next =>
      unfold Program.advance
      cases answered : respond state request with
      | none => exact ⟨system, reached, world, running, fun _ _ => rfl⟩
      | some outcome =>
        obtain ⟨reply, after⟩ := outcome
        have answer := answers state request reply after answered
        rw [← world] at answer
        have step := Step.reply name request next reply (view after) running answer
        obtain ⟨later, laterReached, laterWorld, waits, others⟩ :=
          ih (reached.tail step) rfl (Slot.running_update (next reply))
        refine ⟨later, laterReached, laterWorld, waits, fun other different => ?_⟩
        rw [others other different]
        simp [different]

theorem reachable_start {name : Name} (answers : rules.Answers name respond view) (steps : Nat)
    {system : SystemState S World Name ε α} (reached : rules.Reachable start system)
    (world : system.world = view state) (idle : system.slots name = .idle)
    (offered : rules.offered name program) :
    ∃ later, rules.Reachable start later ∧
      later.world = view (program.advance respond steps state).1 ∧
      later.slots name = .running (program.advance respond steps state).2 ∧
      ∀ other, other ≠ name → later.slots other = system.slots other := by
  classical
  have started := reached.tail (Step.start name program idle offered)
  obtain ⟨later, laterReached, laterWorld, waits, others⟩ :=
    reachable_advance answers steps started world (Slot.running_update program)
  refine ⟨later, laterReached, laterWorld, waits, fun other different => ?_⟩
  rw [others other different]
  simp [different]

theorem Attainable.operate {used : Name → Prop} {name : Name}
    (attainable : rules.Attainable start used (view state))
    (answers : rules.Answers name respond view) (unused : ¬ used name)
    (offered : rules.offered name program) (steps : Nat) :
    rules.Attainable start (fun other => other = name ∨ used other)
      (view (program.advance respond steps state).1) := by
  obtain ⟨_, reached, world, idle⟩ := attainable
  obtain ⟨later, laterReached, laterWorld, _, others⟩ :=
    reachable_start answers steps reached world (idle name unused) offered
  refine ⟨later, laterReached, laterWorld, fun other notUsed => ?_⟩
  rw [not_or] at notUsed
  rw [others other notUsed.1]
  exact idle other notUsed.2

theorem Attainable.crash {used stopped : Name → Prop} {before after : World}
    (attainable : rules.Attainable start used before) (crashed : rules.crash stopped before after) :
    rules.Attainable start (fun name => stopped name ∨ used name) after := by
  obtain ⟨_, reached, world, idle⟩ := attainable
  rw [← world] at crashed
  refine ⟨_, reached.tail (Step.crash stopped after crashed), rfl, fun name notUsed => ?_⟩
  rw [not_or] at notUsed
  simp only [if_neg notUsed.1]
  exact idle name notUsed.2

end SystemRules

end Effect
