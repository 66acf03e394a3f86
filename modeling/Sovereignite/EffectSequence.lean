import Sovereignite.EffectExecution

/-!
# One program after another

Programs that exclude each other run one at a time.  Each may be stopped
between any two of its requests, and between programs something outside may
disturb the world.  An invariant that every program keeps at each of its
requests holds in every world the runs come to.
-/

namespace Effect

variable {S : Signature} {State World ε α : Type}

/-- The worlds a program can leave behind, whether it ends or is stopped. -/
inductive Program.Leaves (answer : World → (request : S.Request) → S.Reply request → World → Prop) :
    Program S ε α → World → World → Prop where
  | stopped (program : Program S ε α) (world : World) : Leaves answer program world world
  | answered (request : S.Request) (next : S.Reply request → Program S ε α)
      (reply : S.Reply request) {world middle after : World}
      (given : answer world request reply middle)
      (rest : Leaves answer (next reply) middle after) :
      Leaves answer (.call request next) world after

/-- The outcomes a program can end with, and the worlds it then leaves. -/
inductive Program.Ends (answer : World → (request : S.Request) → S.Reply request → World → Prop) :
    Program S ε α → World → Except ε α → World → Prop where
  | ret (value : α) (world : World) : Ends answer (.ret value) world (.ok value) world
  | fail (error : ε) (world : World) : Ends answer (.fail error) world (.error error) world
  | answered (request : S.Request) (next : S.Reply request → Program S ε α)
      (reply : S.Reply request) {world middle after : World} {outcome : Except ε α}
      (given : answer world request reply middle)
      (rest : Ends answer (next reply) middle outcome after) :
      Ends answer (.call request next) world outcome after

variable {program : Program S ε α}

namespace Program.Ends

variable {ε' β : Type}
variable {answer : World → (request : S.Request) → S.Reply request → World → Prop}

variable {world after : World}

/-- The outcome of a composition is an error of the first program, or an outcome
of the second one after a value of the first. -/
theorem bind_inv {first : Program S ε α} {next : α → Program S ε β} {outcome : Except ε β}
    (ended : (first >>= next).Ends answer world outcome after) :
    (∃ error, first.Ends answer world (.error error) after ∧ outcome = .error error) ∨
      ∃ value middle, first.Ends answer world (.ok value) middle ∧
        (next value).Ends answer middle outcome after := by
  induction first generalizing world with
  | ret value => exact .inr ⟨value, world, .ret value world, ended⟩
  | fail error =>
    cases ended
    exact .inl ⟨error, .fail error _, rfl⟩
  | call request rest ih =>
    cases ended with
    | answered _ _ reply given remaining =>
      rcases ih reply remaining with ⟨error, failed, same⟩ | ⟨value, middle, first, second⟩
      · exact .inl ⟨error, .answered request rest reply given failed, same⟩
      · exact .inr ⟨value, middle, .answered request rest reply given first, second⟩

theorem bind_ok {first : Program S ε α} {next : α → Program S ε β} {value : β} :
    (first >>= next).Ends answer world (.ok value) after ↔
      ∃ between middle, first.Ends answer world (.ok between) middle ∧
        (next between).Ends answer middle (.ok value) after := by
  constructor
  · intro ended
    rcases bind_inv ended with ⟨error, _, impossible⟩ | found
    · cases impossible
    · exact found
  · rintro ⟨_, _, ran, rest⟩
    induction first generalizing world with
    | ret =>
      cases ran
      exact rest
    | fail => cases ran
    | call _ _ ih =>
      cases ran with
      | answered _ _ reply given remaining => exact .answered _ _ reply given (ih reply remaining)

theorem attempt_inv {outcome : Except ε' (Except ε α)}
    (ended : (program.attempt : Program S ε' (Except ε α)).Ends answer world outcome after) :
    ∃ inner, program.Ends answer world inner after ∧ outcome = .ok inner := by
  induction program generalizing world with
  | ret value =>
    cases ended
    exact ⟨.ok value, .ret value _, rfl⟩
  | fail error =>
    cases ended
    exact ⟨.error error, .fail error _, rfl⟩
  | call request rest ih =>
    cases ended with
    | answered _ _ reply given remaining =>
      obtain ⟨inner, found, same⟩ := ih reply remaining
      exact ⟨inner, .answered request rest reply given found, same⟩

theorem mapError_ok {annotate : ε → ε'} {value : α}
    (ended : (program.mapError annotate).Ends answer world (.ok value) after) :
    program.Ends answer world (.ok value) after := by
  obtain ⟨inner, _, attempted, rest⟩ := bind_ok.mp ended
  obtain ⟨_, found, same⟩ := attempt_inv attempted
  cases same
  cases inner with
  | ok =>
    cases rest
    exact found
  | error => cases rest

theorem ofExcept_inv {outcome final : Except ε α}
    (ended : (ofExcept outcome : Program S ε α).Ends answer world final after) :
    final = outcome ∧ after = world := by
  cases outcome with
  | ok =>
    cases ended
    exact ⟨rfl, rfl⟩
  | error =>
    cases ended
    exact ⟨rfl, rfl⟩

theorem perform_ok {request : S.Request} {reply : S.Reply request} :
    (perform request : Program S ε (S.Reply request)).Ends answer world (.ok reply) after ↔
      answer world request reply after := by
  constructor
  · intro ended
    cases ended with
    | answered _ _ _ given rest =>
      cases rest
      exact given
  · exact fun given => .answered _ _ reply given (.ret reply _)

@[simp]
theorem ret_ok {value result : α} :
    (Program.ret value : Program S ε α).Ends answer world (.ok result) after ↔
      value = result ∧ world = after := by
  constructor
  · rintro ⟨⟩
    exact ⟨rfl, rfl⟩
  · rintro ⟨rfl, rfl⟩
    exact .ret value world

@[simp]
theorem ofExcept_ok {outcome : Except ε α} {value : α} :
    (ofExcept outcome : Program S ε α).Ends answer world (.ok value) after ↔
      outcome = .ok value ∧ world = after := by
  cases outcome with
  | ok => simp [ofExcept]
  | error =>
    simp only [reduceCtorEq, false_and, iff_false]
    nofun

@[simp]
theorem rejectIf_ok {test : Bool} {error : ε} {value : Unit} :
    (rejectIf test error : Program S ε Unit).Ends answer world (.ok value) after ↔
      test = false ∧ world = after := by
  cases test with
  | false => simp [rejectIf]
  | true =>
    simp only [reduceCtorEq, false_and, iff_false]
    nofun

variable {outcome : Except ε α}

theorem between_inv {first last : S.Request} {body : Program S ε α}
    (ended : (between first last body).Ends answer world outcome after) :
    ∃ opened opening closed closing, answer world first opening opened ∧
      body.Ends answer opened outcome closed ∧ answer closed last closing after := by
  cases ended with
  | answered _ _ opening given rest =>
    rcases bind_inv rest with ⟨error, failed, _⟩ | ⟨inner, middle, ran, rest⟩
    · obtain ⟨_, _, impossible⟩ := attempt_inv failed
      cases impossible
    · obtain ⟨_, ran, same⟩ := attempt_inv ran
      cases same
      cases rest with
      | answered _ _ closing freed rest =>
        obtain ⟨rfl, rfl⟩ := ofExcept_inv rest
        exact ⟨_, opening, middle, closing, given, ran, freed⟩

theorem relates (relation : World → World → Prop) (refl : ∀ world, relation world world)
    (trans : ∀ first second third, relation first second → relation second third →
      relation first third)
    (respects : ∀ world request reply after, answer world request reply after →
      relation world after) (ended : program.Ends answer world outcome after) :
    relation world after := by
  induction ended with
  | ret _ world => exact refl world
  | fail _ world => exact refl world
  | answered _ _ _ given _ ih => exact trans _ _ _ (respects _ _ _ _ given) ih

end Program.Ends

/-- The answers to requests, the programs that may be started in a world, and
what happens to the world between programs. -/
structure SequenceRules (S : Signature) (World ε α : Type) where
  answer : World → (request : S.Request) → S.Reply request → World → Prop
  offered : World → Program S ε α → Prop
  disturb : World → World → Prop

namespace SequenceRules

/-- The worlds that runs of programs can come to. -/
inductive Reachable (rules : SequenceRules S World ε α) (start : World) : World → Prop where
  | start : Reachable rules start start
  | operated {before after : World} (program : Program S ε α)
      (reached : Reachable rules start before) (offered : rules.offered before program)
      (left : program.Leaves rules.answer before after) : Reachable rules start after
  | disturbed {before after : World} (reached : Reachable rules start before)
      (disturbance : rules.disturb before after) : Reachable rules start after

def contract (rules : SequenceRules S World ε α) (valid : World → Prop) : Contract S World where
  answer := rules.answer
  valid := valid
  rely := Eq
  guarantee := fun _ _ => True

variable {rules : SequenceRules S World ε α} {valid : World → Prop} {start : World}

theorem valid_of_leaves {before after : World} {post : Except ε α → World → Prop}
    (holds : valid before) (safe : Safe (rules.contract valid) post program before)
    (left : program.Leaves rules.answer before after) : valid after := by
  induction left with
  | stopped => exact holds
  | answered _ _ reply given _ ih =>
    obtain ⟨kept, _, remaining⟩ := safe _ holds rfl reply _ given
    exact ih kept remaining

theorem Reachable.invariant {world : World} (reached : rules.Reachable start world)
    (initially : valid start)
    (safe : ∀ world program, valid world → rules.offered world program →
      Safe (rules.contract valid) (fun _ _ => True) program world)
    (disturbed : ∀ before after, valid before → rules.disturb before after → valid after) :
    valid world := by
  induction reached with
  | start => exact initially
  | operated program _ offered left ih => exact valid_of_leaves ih (safe _ program ih offered) left
  | disturbed _ disturbance ih => exact disturbed _ _ ih disturbance

def Answers (rules : SequenceRules S World ε α) (respond : Responder S State)
    (view : State → World) : Prop :=
  ∀ state request reply after, respond state request = some (reply, after) →
    rules.answer (view state) request reply (view after)

theorem leaves_advance {respond : Responder S State} {view : State → World}
    (answers : rules.Answers respond view) (steps : Nat) (state : State) (program : Program S ε α) :
    program.Leaves rules.answer (view state) (view (program.advance respond steps state).1) := by
  induction steps generalizing state program with
  | zero => cases program <;> exact .stopped _ _
  | succ _ ih =>
    cases program with
    | ret | fail => exact .stopped _ _
    | call request next =>
      unfold Program.advance
      cases answered : respond state request with
      | none => exact .stopped _ _
      | some outcome =>
        obtain ⟨reply, after⟩ := outcome
        exact .answered request next reply (answers _ _ _ _ answered) (ih after _)

end SequenceRules

end Effect
