import Sovereignite.EffectSequence

/-!
# Programs that end with a value

A program succeeds when every way of answering its requests leads to a value.
What a triple says of the values can be added afterwards, so that success is
proved with the facts that the triples of the parts already bring.
-/

namespace Effect

variable {S : Signature} {World ε ε' α β State : Type}

/-- However the requests are answered, the program ends with a value that
satisfies the postcondition. -/
def Program.Succeeds (answer : World → (request : S.Request) → S.Reply request → World → Prop)
    (post : α → World → Prop) : Program S ε α → World → Prop
  | .ret value, world => post value world
  | .fail _, _ => False
  | .call request next, world =>
    ∀ reply after, answer world request reply after → (next reply).Succeeds answer post after

namespace Program.Succeeds

variable {answer : World → (request : S.Request) → S.Reply request → World → Prop}
variable {post : α → World → Prop} {world : World}

variable {program : Program S ε α}

theorem weaken {weaker : α → World → Prop}
    (implies : ∀ value after, post value after → weaker value after)
    (succeeds : program.Succeeds answer post world) : program.Succeeds answer weaker world := by
  induction program generalizing world with
  | ret value => exact implies value world succeeds
  | fail => exact succeeds.elim
  | call _ _ ih =>
    intro reply after answered
    exact ih reply (succeeds reply after answered)

theorem bind {post : β → World → Prop} {next : α → Program S ε β}
    (succeeds : program.Succeeds answer (fun value after => (next value).Succeeds answer post after)
      world) : (program >>= next).Succeeds answer post world := by
  induction program generalizing world with
  | ret => exact succeeds
  | fail => exact succeeds.elim
  | call _ _ ih =>
    intro reply after answered
    exact ih reply (succeeds reply after answered)

theorem attempt {post : Except ε α → World → Prop}
    (succeeds : program.Succeeds answer (fun value after => post (.ok value) after) world) :
    (program.attempt : Program S ε' (Except ε α)).Succeeds answer post world := by
  induction program generalizing world with
  | ret => exact succeeds
  | fail => exact succeeds.elim
  | call _ _ ih =>
    intro reply after answered
    exact ih reply (succeeds reply after answered)

theorem mapError {annotate : ε → ε'} (succeeds : program.Succeeds answer post world) :
    (program.mapError annotate).Succeeds answer post world :=
  bind (attempt succeeds)

/-- What is known of every value of a program that runs among others holds of its
values when it runs alone. -/
theorem withSafe {contract : Contract S World} {known : Except ε α → World → Prop}
    (refines : ∀ world request reply after, answer world request reply after →
      contract.answer world request reply after) (refl : ∀ world, contract.rely world world)
    (valid : contract.valid world) (safe : Safe contract known program world)
    (succeeds : program.Succeeds answer post world) :
    program.Succeeds answer
      (fun value after => post value after ∧ contract.valid after ∧ known (.ok value) after)
      world := by
  induction program generalizing world with
  | ret => exact ⟨succeeds, valid, safe⟩
  | fail => exact succeeds.elim
  | call request _ ih =>
    intro reply after answered
    obtain ⟨kept, _, rest⟩ := safe world valid (refl world) reply after
      (refines world request reply after answered)
    exact ih reply kept rest (succeeds reply after answered)

theorem ends {after : World} {outcome : Except ε α} (succeeds : program.Succeeds answer post world)
    (ended : program.Ends answer world outcome after) :
    ∃ value, outcome = .ok value ∧ post value after := by
  induction ended with
  | ret value => exact ⟨value, rfl, succeeds⟩
  | fail => exact succeeds.elim
  | answered _ _ reply given _ ih => exact ih (succeeds reply _ given)

end Program.Succeeds

theorem Program.exists_ends
    {answer : World → (request : S.Request) → S.Reply request → World → Prop}
    (total : ∀ world request, ∃ reply after, answer world request reply after)
    (program : Program S ε α) (world : World) :
    ∃ outcome after, program.Ends answer world outcome after := by
  induction program generalizing world with
  | ret value => exact ⟨.ok value, world, .ret value world⟩
  | fail error => exact ⟨.error error, world, .fail error world⟩
  | call request next ih =>
    obtain ⟨reply, middle, answered⟩ := total world request
    obtain ⟨outcome, after, ended⟩ := ih reply middle
    exact ⟨outcome, after, .answered request next reply answered ended⟩

def Program.value : Program S ε α → Option α
  | .ret value => some value
  | .fail _ => none
  | .call _ _ => none

theorem Program.ends_of_advance
    {answer : World → (request : S.Request) → S.Reply request → World → Prop}
    {respond : Responder S World}
    (answers : ∀ world request reply after, respond world request = some (reply, after) →
      answer world request reply after)
    {value : α} (steps : Nat) (program : Program S ε α) (world : World)
    (ended : (program.advance respond steps world).2.value = some value) :
    program.Ends answer world (.ok value) (program.advance respond steps world).1 := by
  induction steps generalizing program world with
  | zero =>
    cases program with
    | ret =>
      cases ended
      exact .ret value world
    | fail | call => cases ended
  | succ _ ih =>
    cases program with
    | ret =>
      cases ended
      exact .ret value world
    | fail => cases ended
    | call request next =>
      unfold Program.advance at ended ⊢
      cases answered : respond world request with
      | none =>
        rw [answered] at ended
        cases ended
      | some outcome =>
        obtain ⟨reply, after⟩ := outcome
        rw [answered] at ended
        exact .answered request next reply (answers _ _ _ _ answered) (ih _ after ended)

end Effect
