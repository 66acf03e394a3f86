import Sovereignite.EffectSequence
import Sovereignite.EffectTriples

/-!
# Triples that speak of errors

A program that runs alone ends with a value or with an error, and sometimes it
matters which errors it can end with, or that it ends without one.  The
postcondition of these triples is about the outcome.
-/

namespace Effect

variable {S : Signature} {World ε ε' α β : Type}

/-- From a valid world with the precondition the program keeps the invariant
at each of its requests, and its outcome satisfies the postcondition. -/
def Concludes (contract : Contract S World) (pre : World → Prop)
    (program : Program S ε α) (post : Except ε α → World → Prop) : Prop :=
  ∀ world, contract.valid world → pre world →
    Safe contract (fun outcome after => contract.valid after ∧ post outcome after) program world

/-- A contract of a program that runs alone. -/
structure Contract.Alone (contract : Contract S World) : Prop where
  rely : contract.rely = Eq
  guarantee : ∀ before after, contract.guarantee before after

theorem SequenceRules.contract_alone (rules : SequenceRules S World ε α)
    (valid : World → Prop) : (rules.contract valid).Alone :=
  ⟨rfl, fun _ _ => trivial⟩

namespace Concludes

variable {contract : Contract S World} {pre : World → Prop}

variable {program : Program S ε α}

/-- Weaken the postcondition, with the invariant at hand. -/
theorem weaken {first second : Except ε α → World → Prop}
    (implies : ∀ outcome world, contract.valid world → first outcome world →
      second outcome world) (concluded : Concludes contract pre program first) :
    Concludes contract pre program second := by
  intro world valid known
  refine Safe.weaken ?_ (concluded world valid known)
  rintro outcome after ⟨kept, holds⟩
  exact ⟨kept, implies outcome after kept holds⟩

variable {post : Except ε α → World → Prop}

/-- Strengthen the precondition, with the invariant at hand. -/
theorem strengthen {stronger : World → Prop}
    (implies : ∀ world, contract.valid world → stronger world → pre world)
    (concluded : Concludes contract pre program post) : Concludes contract stronger program post :=
  fun world valid known => concluded world valid (implies world valid known)

theorem assume {fact : Prop} (concluded : fact → Concludes contract pre program post) :
    Concludes contract (fun world => fact ∧ pre world) program post :=
  fun world valid known => concluded known.1 world valid known.2

theorem ret {value : α} (holds : ∀ world, contract.valid world → pre world → post (.ok value) world)
    : Concludes contract pre (.ret value : Program S ε α) post :=
  fun world valid known => ⟨valid, holds world valid known⟩

theorem fail {error : ε}
    (holds : ∀ world, contract.valid world → pre world → post (.error error) world) :
    Concludes contract pre (.fail error : Program S ε α) post :=
  fun world valid known => ⟨valid, holds world valid known⟩

theorem bind {next : α → Program S ε β} {middle : Except ε α → World → Prop}
    {post : Except ε β → World → Prop} (first : Concludes contract pre program middle)
    (failed : ∀ error world, middle (.error error) world → post (.error error) world)
    (second : ∀ value, Concludes contract (middle (.ok value)) (next value) post) :
    Concludes contract pre (program >>= next) post := by
  intro world valid known
  refine Safe.bind (Safe.weaken ?_ (first world valid known))
  rintro outcome after ⟨kept, holds⟩
  cases outcome with
  | ok value => exact second value after kept holds
  | error error => exact ⟨kept, failed error after holds⟩

variable {outcome : Except ε α}

theorem ofExcept (holds : ∀ world, contract.valid world → pre world → post outcome world) :
    Concludes contract pre (Program.ofExcept outcome) post := by
  cases outcome with
  | ok => exact ret holds
  | error => exact fail holds

theorem bindExcept {next : α → Program S ε β} {post : Except ε β → World → Prop}
    (failed : ∀ error, outcome = .error error → ∀ world, contract.valid world →
      pre world → post (.error error) world)
    (second : ∀ value, outcome = .ok value → Concludes contract pre (next value) post) :
    Concludes contract pre (Program.ofExcept outcome >>= next) post := by
  cases outcome with
  | ok value => exact second value rfl
  | error error => exact fail (failed error rfl)

theorem bindRejectIf {test : Bool} {error : ε} {next : Unit → Program S ε β}
    {post : Except ε β → World → Prop}
    (rejected : test = true → ∀ world, contract.valid world → pre world → post (.error error) world)
    (passed : test = false → Concludes contract pre (next ()) post) :
    Concludes contract pre (Program.rejectIf test error >>= next) post := by
  cases test with
  | false => exact passed rfl
  | true => exact fail (rejected rfl)

theorem bindAttempt {next : Except ε α → Program S ε' β} {middle : Except ε α → World → Prop}
    {post : Except ε' β → World → Prop} (first : Concludes contract pre program middle)
    (second : ∀ outcome, Concludes contract (middle outcome) (next outcome) post) :
    Concludes contract pre (program.attempt >>= next) post := by
  intro world valid known
  refine Safe.bind (Safe.attempt (Safe.weaken ?_ (first world valid known)))
  rintro outcome after ⟨kept, holds⟩
  exact second outcome after kept holds

theorem mapError {post : Except ε' α → World → Prop} {annotate : ε → ε'}
    (concluded : Concludes contract pre program fun outcome world =>
      post (outcome.mapError annotate) world) :
    Concludes contract pre (program.mapError annotate) post :=
  fun world valid known => Safe.mapError (concluded world valid known)

theorem call (alone : contract.Alone) {request : S.Request} {next : S.Reply request → Program S ε α}
    {middle : S.Reply request → World → Prop}
    (answered : ∀ world reply after, contract.valid world → pre world →
      contract.answer world request reply after →
      contract.valid after ∧ middle reply after)
    (second : ∀ reply, Concludes contract (middle reply) (next reply) post) :
    Concludes contract pre (.call request next) post := by
  intro world valid known _ _ same reply after given
  rw [alone.rely] at same
  subst same
  obtain ⟨kept, learned⟩ := answered world reply after valid known given
  exact ⟨kept, alone.guarantee world after, second reply after kept learned⟩

theorem ends (alone : contract.Alone) {world after : World}
    (concluded : Concludes contract pre program post) (valid : contract.valid world)
    (known : pre world) (ended : program.Ends contract.answer world outcome after) :
    post outcome after := by
  have safe := concluded world valid known
  clear concluded known
  induction ended with
  | ret | fail => exact safe.2
  | answered _ _ reply given _ ih =>
    obtain ⟨kept, _, remaining⟩ := safe _ valid (alone.rely ▸ rfl) reply _ given
    exact ih kept remaining

theorem safe {world : World} (concluded : Concludes contract pre program post)
    (valid : contract.valid world) (known : pre world) :
    Safe contract (fun _ _ => True) program world :=
  Safe.weaken (fun _ _ _ => trivial) (concluded world valid known)

end Concludes

end Effect
