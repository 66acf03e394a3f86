import Sovereignite.EffectSequence

/-!
# Evaluating programs

An oracle answers every request at once.  A program is a finite tree, so with
an oracle it comes to one outcome in one state, which its equations compute.
Where the answers of the oracle are answers of a system, the evaluation is one
of the runs of the system.
-/

namespace Effect

abbrev Oracle (S : Signature) (State : Type) :=
  State → (request : S.Request) → S.Reply request × State

variable {S : Signature} {State World Name ε ε' α β : Type}

namespace Program

/-- The outcome of a program and the state it leaves. -/
def eval (oracle : Oracle S State) : Program S ε α → State → Except ε α × State
  | .ret value, state => (.ok value, state)
  | .fail error, state => (.error error, state)
  | .call request next, state =>
    (next (oracle state request).1).eval oracle (oracle state request).2

variable {oracle : Oracle S State} {state after : State}

@[simp]
theorem eval_ret (value : α) : (ret value : Program S ε α).eval oracle state = (.ok value, state) :=
  rfl

@[simp]
theorem eval_fail (error : ε) :
    (fail error : Program S ε α).eval oracle state = (.error error, state) :=
  rfl

theorem eval_call (request : S.Request) (next : S.Reply request → Program S ε α) :
    (call request next).eval oracle state =
      (next (oracle state request).1).eval oracle (oracle state request).2 :=
  rfl

@[simp]
theorem ofExcept_ok (value : α) : (ofExcept (.ok value) : Program S ε α) = .ret value := rfl

@[simp]
theorem ofExcept_error (error : ε) : (ofExcept (.error error) : Program S ε α) = .fail error := rfl

@[simp]
theorem eval_ofExcept (outcome : Except ε α) :
    (ofExcept outcome : Program S ε α).eval oracle state = (outcome, state) := by
  cases outcome <;> rfl

theorem eval_bind_ok {first : Program S ε α} {value : α} (next : α → Program S ε β)
    (ended : first.eval oracle state = (.ok value, after)) :
    (first >>= next).eval oracle state = (next value).eval oracle after := by
  induction first generalizing state with
  | ret =>
    cases ended
    rfl
  | fail => cases ended
  | call _ _ ih => exact ih _ ended

@[simp]
theorem eval_attempt (program : Program S ε α) :
    (program.attempt : Program S ε' (Except ε α)).eval oracle state =
      (.ok (program.eval oracle state).1, (program.eval oracle state).2) := by
  induction program generalizing state with
  | ret | fail => rfl
  | call _ _ ih => exact ih _

@[simp]
theorem eval_attempt_bind (program : Program S ε α) (next : Except ε α → Program S ε' β) :
    (program.attempt >>= next).eval oracle state =
      (next (program.eval oracle state).1).eval oracle (program.eval oracle state).2 :=
  eval_bind_ok next (eval_attempt program)

theorem eval_ofExcept_bind {outcome : Except ε α} {value : α} (next : α → Program S ε β)
    (computed : outcome = .ok value) :
    ((ofExcept outcome : Program S ε α) >>= next).eval oracle state =
      (next value).eval oracle state := by
  rw [computed]
  rfl

theorem eval_rejectIf_bind {test : Bool} {error : ε} (next : Unit → Program S ε β)
    (passed : test = false) :
    ((rejectIf test error : Program S ε Unit) >>= next).eval oracle state =
      (next ()).eval oracle state := by
  rw [passed]
  rfl

theorem eval_between (first last : S.Request) {body : Program S ε α} {outcome : Except ε α}
    (ended : body.eval oracle (oracle state first).2 = (outcome, after)) :
    (between first last body).eval oracle state = (outcome, (oracle after last).2) := by
  unfold between
  rw [eval_call, eval_attempt_bind, ended, eval_call, eval_ofExcept]

/-- The answers of an oracle are answers of a system as long as an invariant
holds, which they keep. -/
structure Follows (answer : World → (request : S.Request) → S.Reply request → World → Prop)
    (oracle : Oracle S World) (valid : World → Prop) : Prop where
  answers : ∀ world request, valid world →
    answer world request (oracle world request).1 (oracle world request).2
  keeps : ∀ world request, valid world → valid (oracle world request).2

/-- The evaluation of a program is one of its executions. -/
theorem Follows.ends {answer : World → (request : S.Request) → S.Reply request → World → Prop}
    {oracle : Oracle S World} {valid : World → Prop} (follows : Follows answer oracle valid)
    (program : Program S ε α) {world : World} (holds : valid world) :
    program.Ends answer world (program.eval oracle world).1 (program.eval oracle world).2 := by
  induction program generalizing world with
  | ret value => exact .ret value world
  | fail error => exact .fail error world
  | call request rest ih =>
    exact .answered request rest _ (follows.answers world request holds)
      (ih _ (follows.keeps world request holds))

end Program

end Effect
