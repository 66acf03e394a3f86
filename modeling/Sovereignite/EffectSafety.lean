import Sovereignite.EffectProgram

/-!
# Safety of a program among others

Other programs may change the world between any two requests of a program, as
far as the relation the program relies on allows.  A program is safe when each
of its requests, answered in any world it may then find, keeps the invariant
of the world and what the other programs rely on.  The postcondition is
stated of the world right after the last request.

With equality as the relation relied on, this is the logic of one program that
runs alone and may be stopped by a crash between any two requests: the
invariant then holds at every point of the run.
-/

namespace Effect

/-- How requests are answered, the invariant of the world, what a program may
assume of the steps of others and what it owes them. -/
structure Contract (S : Signature) (World : Type) where
  answer : World → (request : S.Request) → S.Reply request → World → Prop
  valid : World → Prop
  rely : World → World → Prop
  guarantee : World → World → Prop

/-- Every request keeps the invariant and the guarantee, whatever the others
did before it, and the outcome satisfies the postcondition. -/
def Safe {S : Signature} {World ε α : Type} (contract : Contract S World)
    (post : Except ε α → World → Prop) : Program S ε α → World → Prop
  | .ret value, world => post (.ok value) world
  | .fail error, world => post (.error error) world
  | .call request next, world =>
    ∀ current, contract.valid current → contract.rely world current →
      ∀ reply after, contract.answer current request reply after →
        contract.valid after ∧ contract.guarantee current after ∧
          Safe contract post (next reply) after

namespace Safe

variable {S : Signature} {World ε ε' α β : Type}
variable {contract : Contract S World}

@[simp]
theorem ret {post : Except ε α → World → Prop} {value : α} {world : World} :
    Safe contract post (.ret value) world ↔ post (.ok value) world :=
  Iff.rfl

@[simp]
theorem fail {post : Except ε α → World → Prop} {error : ε} {world : World} :
    Safe contract post (.fail error) world ↔ post (.error error) world :=
  Iff.rfl

variable {program : Program S ε α}

theorem weaken {first second : Except ε α → World → Prop}
    (implies : ∀ outcome world, first outcome world → second outcome world) {world : World}
    (safe : Safe contract first program world) : Safe contract second program world := by
  induction program generalizing world with
  | ret | fail => exact implies _ _ safe
  | call _ _ ih =>
    intro current valid relied reply after answered
    obtain ⟨kept, owed, rest⟩ := safe current valid relied reply after answered
    exact ⟨kept, owed, ih reply rest⟩

/-- The rule of composition.  The second program starts in the world the first
one left, and an error of the first one is the outcome of both. -/
theorem bind {post : Except ε β → World → Prop} {next : α → Program S ε β} {world : World}
    (safe : Safe contract (fun outcome current => match outcome with
        | .ok value => Safe contract post (next value) current
        | .error error => post (.error error) current) program world) :
    Safe contract post (program >>= next) world := by
  induction program generalizing world with
  | ret | fail => exact safe
  | call _ _ ih =>
    intro current valid relied reply after answered
    obtain ⟨kept, owed, remaining⟩ := safe current valid relied reply after answered
    exact ⟨kept, owed, ih reply remaining⟩

theorem attempt {post : Except ε' (Except ε α) → World → Prop} {world : World}
    (safe : Safe contract (fun outcome current => post (.ok outcome) current)
      program world) : Safe contract post program.attempt world := by
  induction program generalizing world with
  | ret | fail => exact safe
  | call _ _ ih =>
    intro current valid relied reply after answered
    obtain ⟨kept, owed, rest⟩ := safe current valid relied reply after answered
    exact ⟨kept, owed, ih reply rest⟩

theorem mapError {post : Except ε' α → World → Prop} {annotate : ε → ε'} {world : World}
    (safe : Safe contract (fun outcome current => post (outcome.mapError annotate) current)
      program world) : Safe contract post (program.mapError annotate) world := by
  refine bind (attempt (weaken ?_ safe))
  intro outcome _ holds
  cases outcome with
  | ok | error => exact holds

theorem ofExcept {post : Except ε α → World → Prop} {outcome : Except ε α}
    {world : World} (holds : post outcome world) :
    Safe contract post (Program.ofExcept outcome) world := by
  cases outcome with
  | ok | error => exact holds

theorem rejectIf {post : Except ε Unit → World → Prop} {test : Bool} {error : ε} {world : World}
    (passed : test = false → post (.ok ()) world)
    (rejected : test = true → post (.error error) world) :
    Safe contract post (Program.rejectIf test error) world := by
  cases test with
  | false => exact passed rfl
  | true => exact rejected rfl

theorem later {post : Except ε α → World → Prop}
    (trans : ∀ first second third, contract.rely first second →
      contract.rely second third → contract.rely first third)
    (stable : ∀ outcome first second, contract.rely first second →
      post outcome first → post outcome second) {world current : World}
    (relied : contract.rely world current) (safe : Safe contract post program world) :
    Safe contract post program current := by
  cases program with
  | ret | fail => exact stable _ _ _ relied safe
  | call =>
    intro found valid reliedLater reply after answered
    exact safe found valid (trans _ _ _ relied reliedLater) reply after answered

end Safe

end Effect
