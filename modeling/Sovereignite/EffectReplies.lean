import Sovereignite.EffectSystem

/-!
# What a program asks for, given the replies it had

Each reply a program got was given in some earlier world.  Where a fact about a
reply lasts, it still holds in the world of now; so a program among others can
be followed as if it ran alone, with replies that are only known to satisfy
these facts.  Of a program followed in this way we ask which requests it makes.
-/

namespace Effect

variable {S : Signature} {World Name ε ε' α β : Type}

/-- A program that is left of another one after some admissible replies, and whether
one of the requests on the way was a special one. -/
inductive Program.Leads (admissible : (request : S.Request) → S.Reply request → Prop)
    (special : S.Request → Prop) (origin : Program S ε α) : Bool → Program S ε α → Prop where
  | start : Leads admissible special origin false origin
  | replied {spent : Bool} {request : S.Request} {next : S.Reply request → Program S ε α}
      (reply : S.Reply request)
      (before : Leads admissible special origin spent (.call request next))
      (given : admissible request reply) (plain : ¬ special request) :
      Leads admissible special origin spent (next reply)
  | spent {spent : Bool} {request : S.Request} {next : S.Reply request → Program S ε α}
      (reply : S.Reply request)
      (before : Leads admissible special origin spent (.call request next))
      (given : admissible request reply) (chosen : special request) :
      Leads admissible special origin true (next reply)

variable {special : S.Request → Prop}

theorem Program.Leads.mono {admissible wider : (request : S.Request) → S.Reply request → Prop}
    {origin program : Program S ε α} {spent : Bool}
    (implies : ∀ request reply, admissible request reply → wider request reply)
    (leads : origin.Leads admissible special spent program) :
    origin.Leads wider special spent program := by
  induction leads with
  | start => exact .start
  | replied reply _ given plain ih => exact .replied reply ih (implies _ reply given) plain
  | spent reply _ given chosen ih => exact .spent reply ih (implies _ reply given) chosen

/-- As long as the replies are admissible, every request is an allowed one, and a
value satisfies the postcondition. -/
def Program.Restricted (admissible : (request : S.Request) → S.Reply request → Prop)
    (allowed : S.Request → Prop) (post : α → Prop) : Program S ε α → Prop
  | .ret value => post value
  | .fail _ => True
  | .call request next => allowed request ∧
      ∀ reply, admissible request reply → (next reply).Restricted admissible allowed post

variable {program : Program S ε α} {next : α → Program S ε β} {middle : α → Prop}

namespace Program.Restricted

variable {admissible : (request : S.Request) → S.Reply request → Prop}
variable {allowed : S.Request → Prop} {post : α → Prop}

theorem weaken {weaker : α → Prop} (implies : ∀ value, post value → weaker value)
    (restricted : program.Restricted admissible allowed post) :
    program.Restricted admissible allowed weaker := by
  induction program with
  | ret value => exact implies value restricted
  | fail => trivial
  | call _ _ ih =>
    exact ⟨restricted.1, fun reply given => ih reply (restricted.2 reply given)⟩

theorem bind {post : β → Prop} (first : program.Restricted admissible allowed middle)
    (second : ∀ value, middle value → (next value).Restricted admissible allowed post) :
    (program >>= next).Restricted admissible allowed post := by
  induction program with
  | ret value => exact second value first
  | fail => trivial
  | call _ _ ih => exact ⟨first.1, fun reply given => ih reply (first.2 reply given)⟩

theorem attempt (restricted : program.Restricted admissible allowed post) :
    (program.attempt : Program S ε' (Except ε α)).Restricted admissible allowed
      fun outcome => ∀ value, outcome = .ok value → post value := by
  induction program with
  | ret =>
    rintro _ ⟨⟩
    exact restricted
  | fail => rintro _ ⟨⟩
  | call _ _ ih =>
    exact ⟨restricted.1, fun reply given => ih reply (restricted.2 reply given)⟩

theorem mapError {annotate : ε → ε'} (restricted : program.Restricted admissible allowed post) :
    (program.mapError annotate).Restricted admissible allowed post := by
  refine bind (attempt restricted) fun outcome holds => ?_
  cases outcome with
  | ok value => exact holds value rfl
  | error => trivial

theorem ofExcept {outcome : Except ε α} :
    (Program.ofExcept outcome : Program S ε α).Restricted admissible allowed
      fun value => outcome = .ok value := by
  cases outcome with
  | ok => exact rfl
  | error => trivial

theorem rejectIf {test : Bool} {error : ε} :
    (Program.rejectIf test error : Program S ε Unit).Restricted admissible allowed
      fun _ => test = false := by
  cases test with
  | false => exact rfl
  | true => trivial

theorem check {test : Bool} {error : ε} {next : Unit → Program S ε α}
    (rest : test = false → (next ()).Restricted admissible allowed post) :
    (Program.rejectIf test error >>= next).Restricted admissible allowed post :=
  bind rejectIf fun _ => rest

theorem take {outcome : Except ε α} {post : β → Prop}
    (rest : ∀ value, outcome = .ok value → (next value).Restricted admissible allowed post) :
    (Program.ofExcept outcome >>= next).Restricted admissible allowed post :=
  bind ofExcept rest

theorem between {first last : S.Request} {body : Program S ε α} (opened : allowed first)
    (closed : allowed last) (restricted : body.Restricted admissible allowed post) :
    (Program.between first last body).Restricted admissible allowed post := by
  refine ⟨opened, fun _ _ => bind (attempt restricted) fun outcome holds => ⟨closed, ?_⟩⟩
  intro _ _
  cases outcome with
  | ok value => exact holds value rfl
  | error => trivial

end Program.Restricted

/-- As long as the replies are admissible, every request is an allowed one, except that
one request in all may be an entitled one. -/
def Program.RestrictedOnce (admissible : (request : S.Request) → S.Reply request → Prop)
    (allowed entitled : S.Request → Prop) (post : α → Prop) : Program S ε α → Prop
  | .ret value => post value
  | .fail _ => True
  | .call request next =>
    (allowed request ∧ ∀ reply, admissible request reply →
      (next reply).RestrictedOnce admissible allowed entitled post) ∨
    (entitled request ∧ ∀ reply, admissible request reply →
      (next reply).Restricted admissible allowed post)

namespace Program.RestrictedOnce

variable {admissible : (request : S.Request) → S.Reply request → Prop}
variable {allowed entitled : S.Request → Prop} {post : α → Prop}

theorem of_restricted (restricted : program.Restricted admissible allowed post) :
    program.RestrictedOnce admissible allowed entitled post := by
  induction program with
  | ret => exact restricted
  | fail => trivial
  | call _ _ ih =>
    exact .inl ⟨restricted.1, fun reply given => ih reply (restricted.2 reply given)⟩

/-- The entitled request is one of the second program. -/
theorem bind {post : β → Prop} (first : program.Restricted admissible allowed middle)
    (second : ∀ value, middle value →
      (next value).RestrictedOnce admissible allowed entitled post) :
    (program >>= next).RestrictedOnce admissible allowed entitled post := by
  induction program with
  | ret value => exact second value first
  | fail => trivial
  | call _ _ ih => exact .inl ⟨first.1, fun reply given => ih reply (first.2 reply given)⟩

theorem check {test : Bool} {error : ε} {next : Unit → Program S ε α}
    (rest : test = false → (next ()).RestrictedOnce admissible allowed entitled post) :
    (Program.rejectIf test error >>= next).RestrictedOnce admissible allowed entitled post :=
  bind Restricted.rejectIf fun _ => rest

theorem take {outcome : Except ε α} {post : β → Prop}
    (rest : ∀ value, outcome = .ok value →
      (next value).RestrictedOnce admissible allowed entitled post) :
    (Program.ofExcept outcome >>= next).RestrictedOnce admissible allowed entitled post :=
  bind Restricted.ofExcept rest

/-- The entitled request is one of the first program. -/
theorem bindLast {post : β → Prop}
    (first : program.RestrictedOnce admissible allowed entitled middle)
    (second : ∀ value, middle value → (next value).Restricted admissible allowed post) :
    (program >>= next).RestrictedOnce admissible allowed entitled post := by
  induction program with
  | ret value => exact of_restricted (second value first)
  | fail => trivial
  | call _ _ ih =>
    rcases first with ⟨permitted, once⟩ | ⟨granted, restricted⟩
    · exact .inl ⟨permitted, fun reply given => ih reply (once reply given)⟩
    · exact .inr ⟨granted, fun reply given => (restricted reply given).bind second⟩

theorem attempt (once : program.RestrictedOnce admissible allowed entitled post) :
    (program.attempt : Program S ε' (Except ε α)).RestrictedOnce admissible allowed entitled
      fun outcome => ∀ value, outcome = .ok value → post value := by
  induction program with
  | ret =>
    rintro _ ⟨⟩
    exact once
  | fail => rintro _ ⟨⟩
  | call _ _ ih =>
    rcases once with ⟨permitted, once⟩ | ⟨granted, restricted⟩
    · exact .inl ⟨permitted, fun reply given => ih reply (once reply given)⟩
    · exact .inr ⟨granted, fun reply given => (restricted reply given).attempt⟩

theorem between {first last : S.Request} {body : Program S ε α} (opened : allowed first)
    (closed : allowed last) (once : body.RestrictedOnce admissible allowed entitled post) :
    (Program.between first last body).RestrictedOnce admissible allowed entitled post := by
  refine .inl ⟨opened, fun _ _ => bindLast (attempt once) fun outcome holds => ⟨closed, ?_⟩⟩
  intro _ _
  cases outcome with
  | ok value => exact holds value rfl
  | error => trivial

/-- What is left of such a program; once the entitled request was made, only allowed
ones are left. -/
theorem leads {origin program : Program S ε α} {spent : Bool}
    (plain : ∀ request, allowed request → ¬ special request)
    (once : origin.RestrictedOnce admissible allowed entitled post)
    (reached : origin.Leads admissible special spent program) :
    program.RestrictedOnce admissible allowed entitled post ∧
      (spent = true → program.Restricted admissible allowed post) := by
  induction reached with
  | start => exact ⟨once, nofun⟩
  | replied reply _ given _ ih =>
    obtain ⟨once, restricted⟩ := ih
    have later := fun made => (restricted made).2 reply given
    rcases once with ⟨_, once⟩ | ⟨_, once⟩
    · exact ⟨once reply given, later⟩
    · exact ⟨of_restricted (once reply given), later⟩
  | spent reply _ given chosen ih =>
    rcases ih.1 with ⟨permitted, _⟩ | ⟨_, restricted⟩
    · exact absurd chosen (plain _ permitted)
    · exact ⟨of_restricted (restricted reply given), fun _ => restricted reply given⟩

end Program.RestrictedOnce

namespace SystemRules

variable {rules : SystemRules S World Name ε α} {start : World}

/-- What a system must satisfy for its programs to be followed. -/
structure Followed (rules : SystemRules S World Name ε α) (valid : World → Prop)
    (fresh : Name → World → Prop) (special : S.Request → Prop)
    (admissible : Name → World → (request : S.Request) → S.Reply request → Prop)
    (allowed entitled : Name → World → S.Request → Prop) : Prop where
  plain : ∀ name world request, allowed name world request → ¬ special request
  offered : ∀ name program world, valid world → rules.offered name program →
    program.RestrictedOnce (admissible name world) (allowed name world) (entitled name world)
      fun _ => True
  answered : ∀ name request reply before after, valid before →
    allowed name before request ∨ (entitled name before request ∧ fresh name before) →
    rules.answer name before request reply after →
    valid after ∧ admissible name after request reply
  fresh : ∀ name other request reply before after,
    rules.answer name before request reply after → other ≠ name ∨ ¬ special request →
    fresh other before → fresh other after
  lasting : ∀ name other request made reply given before after,
    rules.answer other before made given after →
    admissible name before request reply → admissible name after request reply
  crashed : ∀ stopped before after, rules.crash stopped before after → after = before

/-- In every reachable state of a system whose programs keep to their requests, the
invariant that these requests keep holds, and every program that runs is left of
one that was offered, after replies that are admissible now. -/
theorem Reachable.follows {valid : World → Prop} {fresh : Name → World → Prop}
    {admissible : Name → World → (request : S.Request) → S.Reply request → Prop}
    {allowed entitled : Name → World → S.Request → Prop}
    (followed : rules.Followed valid fresh special admissible allowed entitled)
    (initially : valid start) (unused : ∀ name, fresh name start)
    {state : SystemState S World Name ε α} (reached : rules.Reachable start state) :
    valid state.world ∧ (∀ name, state.slots name = .idle → fresh name state.world) ∧
      ∀ name program, state.slots name = .running program →
        ∃ origin spent, rules.offered name origin ∧
          origin.Leads (admissible name state.world) special spent program ∧
          (spent = false → fresh name state.world) := by
  classical
  induction reached with
  | refl => exact ⟨initially, fun name _ => unused name, fun _ _ running => nomatch running⟩
  | @tail before after _ step ih =>
    obtain ⟨holds, idle, running⟩ := ih
    cases step with
    | start name program free offered =>
      refine ⟨holds, fun other waits => ?_, fun other found runs => ?_⟩
      · by_cases same : other = name
        · simp [same] at waits
        · simp only [Function.update_of_ne same] at waits
          exact idle other waits
      · by_cases same : other = name
        · subst same
          simp only [Function.update_self, Slot.running.injEq] at runs
          subst runs
          exact ⟨program, false, offered, .start, fun _ => idle other free⟩
        · simp only [Function.update_of_ne same] at runs
          exact running other found runs
    | reply name request _ value world waiting given =>
      obtain ⟨origin, spent, offered, leads, unspent⟩ := running name _ waiting
      obtain ⟨once, restricted⟩ := Program.RestrictedOnce.leads (followed.plain name before.world)
        (followed.offered name origin _ holds offered) leads
      have made : allowed name before.world request ∨
          (entitled name before.world request ∧ fresh name before.world) := by
        cases spent with
        | true => exact .inl (restricted rfl).1
        | false => exact once.imp And.left fun granted => ⟨granted.1, unspent rfl⟩
      obtain ⟨kept, admitted⟩ := followed.answered _ _ _ _ _ holds made given
      have later := leads.mono fun request reply =>
        followed.lasting name name _ _ reply _ _ _ given
      refine ⟨kept, fun other waits => ?_, fun other found runs => ?_⟩
      · by_cases same : other = name
        · simp [same] at waits
        · simp only [Function.update_of_ne same] at waits
          exact followed.fresh _ _ _ _ _ _ given (.inl same) (idle other waits)
      · by_cases same : other = name
        · subst same
          simp only [Function.update_self, Slot.running.injEq] at runs
          subst runs
          by_cases chosen : special request
          · exact ⟨origin, true, offered, .spent value later admitted chosen, nofun⟩
          · exact ⟨origin, spent, offered, .replied value later admitted chosen, fun clean =>
              followed.fresh _ _ _ _ _ _ given (.inr chosen) (unspent clean)⟩
        · simp only [Function.update_of_ne same] at runs
          obtain ⟨origin, spent, offered, leads, unspent⟩ := running other found runs
          exact ⟨origin, spent, offered,
            leads.mono fun request reply => followed.lasting other name _ _ reply _ _ _ given,
            fun clean => followed.fresh _ _ _ _ _ _ given (.inl same) (unspent clean)⟩
    | crash stopped _ lost =>
      obtain rfl := followed.crashed _ _ _ lost
      refine ⟨holds, fun name waits => ?_, fun name found runs => ?_⟩
      · by_cases dead : stopped name
        · simp [dead] at waits
        · simp only [dead, if_false] at waits
          exact idle name waits
      · by_cases dead : stopped name
        · simp [dead] at runs
        · simp only [dead, if_false] at runs
          exact running name found runs

end SystemRules

end Effect
