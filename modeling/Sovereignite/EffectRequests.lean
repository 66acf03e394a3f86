import Sovereignite.EffectSequence
import Sovereignite.EffectTriples

/-!
# Programs that make only some requests

What a program can do to the world is bounded by the requests it makes.  A
fact that survives each of some requests survives every program made of them.
-/

namespace Effect

variable {S : Signature} {World ε ε' α β : Type}

/-- Every request of a program is an allowed one, whatever the replies are. -/
def Program.Only (allowed : S.Request → Prop) : Program S ε α → Prop
  | .ret _ => True
  | .fail _ => True
  | .call request next => allowed request ∧ ∀ reply, (next reply).Only allowed

variable {program : Program S ε α} {next : α → Program S ε β} {outcome : Except ε α} {test : Bool}
variable {error : ε}

namespace Program.Only

variable {allowed : S.Request → Prop}

theorem perform {request : S.Request} (permitted : allowed request) :
    (Program.perform request : Program S ε (S.Reply request)).Only allowed :=
  ⟨permitted, fun _ => trivial⟩

theorem ofExcept : (Program.ofExcept outcome : Program S ε α).Only allowed := by
  cases outcome <;> trivial

theorem rejectIf : (Program.rejectIf test error : Program S ε Unit).Only allowed := by
  cases test <;> trivial

theorem bind (first : program.Only allowed) (second : ∀ value, (next value).Only allowed) :
    (program >>= next).Only allowed := by
  induction program with
  | ret value => exact second value
  | fail => trivial
  | call _ _ ih => exact ⟨first.1, fun reply => ih reply (first.2 reply)⟩

theorem attempt (only : program.Only allowed) :
    (program.attempt : Program S ε' (Except ε α)).Only allowed := by
  induction program with
  | ret | fail => trivial
  | call _ _ ih => exact ⟨only.1, fun reply => ih reply (only.2 reply)⟩

theorem mapError {annotate : ε → ε'} (only : program.Only allowed) :
    (program.mapError annotate).Only allowed := by
  refine bind (attempt only) fun outcome => ?_
  cases outcome <;> trivial

theorem mono {wider : S.Request → Prop} (implies : ∀ request, allowed request → wider request)
    (only : program.Only allowed) : program.Only wider := by
  induction program with
  | ret | fail => trivial
  | call request _ ih => exact ⟨implies request only.1, fun reply => ih reply (only.2 reply)⟩

theorem forEach {State : Type} {step : State → α → Program S ε State}
    (each : ∀ state element, (step state element).Only allowed) (state : State)
    (elements : List α) : (Program.forEach step state elements).Only allowed := by
  induction elements generalizing state with
  | nil => trivial
  | cons element _ ih => exact bind (each state element) ih

theorem unchanged {answer : World → (request : S.Request) → S.Reply request → World → Prop}
    {view : World → β} (leaves : ∀ world request reply after, allowed request →
      answer world request reply after → view after = view world) {world after : World}
    (only : program.Only allowed) (ended : program.Ends answer world outcome after) :
    view after = view world := by
  induction ended with
  | ret | fail => rfl
  | answered _ _ reply given _ ih =>
    exact (ih (only.2 reply)).trans (leaves _ _ _ _ only.1 given)

end Program.Only

/-- A request together with the reply to it. -/
abbrev Exchange (S : Signature) := (request : S.Request) × S.Reply request

/-- After these exchanges the program makes this request. -/
inductive Program.Makes : Program S ε α → List (Exchange S) → S.Request → Prop where
  | here (request : S.Request) (next : S.Reply request → Program S ε α) :
      Makes (.call request next) [] request
  | later (request : S.Request) (next : S.Reply request → Program S ε α)
      (reply : S.Reply request) {history : List (Exchange S)} {made : S.Request}
      (rest : Makes (next reply) history made) :
      Makes (.call request next) (⟨request, reply⟩ :: history) made

/-- After these exchanges the program ends with this value. -/
inductive Program.Yields : Program S ε α → List (Exchange S) → α → Prop where
  | ret (value : α) : Yields (.ret value) [] value
  | later (request : S.Request) (next : S.Reply request → Program S ε α)
      (reply : S.Reply request) {history : List (Exchange S)} {value : α}
      (rest : Yields (next reply) history value) :
      Yields (.call request next) (⟨request, reply⟩ :: history) value

namespace Program

variable {history : List (Exchange S)} {made : S.Request}

/-- A request of a composition is one of the first program, or one of the
second after a value of the first. -/
theorem Makes.bind_inv (makes : (program >>= next).Makes history made) :
    program.Makes history made ∨
      ∃ value first rest, history = first ++ rest ∧ program.Yields first value ∧
        (next value).Makes rest made := by
  induction program generalizing history with
  | ret value => exact .inr ⟨value, [], history, rfl, .ret value, makes⟩
  | fail => cases makes
  | call request rest ih =>
    cases makes with
    | here => exact .inl (.here _ rest)
    | later _ _ reply remaining =>
      rcases ih reply remaining with found | ⟨value, first, last, rfl, yields, found⟩
      · exact .inl (.later request rest reply found)
      · exact .inr ⟨value, _, last, rfl, .later request rest reply yields, found⟩

variable {value : α}

theorem Makes.bind {first : List (Exchange S)} (yields : program.Yields first value)
    (makes : (next value).Makes history made) :
    (program >>= next).Makes (first ++ history) made := by
  induction yields with
  | ret => exact makes
  | later request _ reply _ ih => exact .later request _ reply (ih makes)

theorem Makes.rejectIf_inv {next : Unit → Program S ε α}
    (makes : (rejectIf test error >>= next).Makes history made) :
    test = false ∧ (next ()).Makes history made := by
  cases test with
  | false => exact ⟨rfl, makes⟩
  | true => cases makes

theorem Makes.ofExcept_inv (makes : (ofExcept outcome >>= next).Makes history made) :
    ∃ value, outcome = .ok value ∧ (next value).Makes history made := by
  cases outcome with
  | ok value => exact ⟨value, rfl, makes⟩
  | error => cases makes

theorem Makes.perform_inv {request : S.Request} {next : S.Reply request → Program S ε α}
    (makes : (perform request >>= next).Makes history made) :
    (history = [] ∧ made = request) ∨
      ∃ reply rest, history = ⟨request, reply⟩ :: rest ∧ (next reply).Makes rest made := by
  cases makes with
  | here => exact .inl ⟨rfl, rfl⟩
  | later _ _ reply rest => exact .inr ⟨reply, _, rfl, rest⟩

theorem Yields.bind {middle : α} {value : β} {first : List (Exchange S)}
    (yields : program.Yields first middle) (rest : (next middle).Yields history value) :
    (program >>= next).Yields (first ++ history) value := by
  induction yields with
  | ret => exact rest
  | later request _ reply _ ih => exact .later request _ reply (ih rest)

theorem Yields.rejectIf (passed : test = false) :
    (Program.rejectIf test error : Program S ε Unit).Yields [] () := by
  rw [passed]
  exact .ret ()

theorem Yields.ofExcept (succeeded : outcome = .ok value) :
    (Program.ofExcept outcome : Program S ε α).Yields [] value := by
  rw [succeeded]
  exact .ret value

theorem Yields.bind_inv {value : β} (yields : (program >>= next).Yields history value) :
    ∃ middle first rest, history = first ++ rest ∧ program.Yields first middle ∧
      (next middle).Yields rest value := by
  induction program generalizing history with
  | ret middle => exact ⟨middle, [], history, rfl, .ret middle, yields⟩
  | fail => cases yields
  | call request rest ih =>
    cases yields with
    | later _ _ reply remaining =>
      obtain ⟨middle, _, last, rfl, found, others⟩ := ih reply remaining
      exact ⟨middle, _, last, rfl, .later request rest reply found, others⟩

theorem Yields.ofExcept_inv
    (yields : (Program.ofExcept outcome : Program S ε α).Yields history value) :
    history = [] ∧ outcome = .ok value := by
  cases outcome with
  | ok =>
    cases yields
    exact ⟨rfl, rfl⟩
  | error => cases yields

theorem Yields.rejectIf_inv {value : Unit}
    (yields : (Program.rejectIf test error : Program S ε Unit).Yields history value) :
    history = [] ∧ test = false := by
  cases test with
  | false =>
    cases yields
    exact ⟨rfl, rfl⟩
  | true => cases yields

theorem Only.makes {allowed : S.Request → Prop} (only : program.Only allowed)
    (makes : program.Makes history made) : allowed made := by
  induction makes with
  | here => exact only.1
  | later _ _ reply _ ih => exact ih (only.2 reply)

theorem Only.exchanged {allowed : S.Request → Prop} (only : program.Only allowed)
    (yields : program.Yields history value) :
    ∀ exchange ∈ history, allowed exchange.1 := by
  induction yields with
  | ret => simp
  | later _ _ reply _ ih =>
    intro exchange member
    rcases List.mem_cons.mp member with here | later
    · subst here
      exact only.1
    · exact ih (only.2 reply) exchange later

end Program

theorem Ensures.only {contract : Contract S World} {relation : World → World → Prop}
    [IsPreorder World relation] {allowed : S.Request → Prop} {fact : World → Prop}
    (kept : ∀ request, allowed request →
      Ensures contract relation fact
        (Program.perform request : Program S ε (S.Reply request)) fun _ => fact)
    (only : program.Only allowed) : Ensures contract relation fact program fun _ => fact := by
  induction program with
  | ret => exact .ret fun _ _ known => known
  | fail => exact .fail
  | call request _ ih =>
    exact .sequence (kept request only.1) fun reply => ih reply (only.2 reply)

end Effect
