import Mathlib.Order.Defs.Unbundled
import Sovereignite.EffectSafety

/-!
# Triples with facts that last

A program that runs among others can rely on a fact it once learned only if
the steps of the others and its own leave the fact true.  A triple names a
relation that every step respects.  Its precondition is kept up by that
relation, so that it is still there after the program, whatever the outcome;
what a value brings in addition is the postcondition.
-/

namespace Effect

variable {S : Signature} {World ε ε' α β : Type}

/-- A fact that a relation between worlds keeps. -/
def Lasting (relation : World → World → Prop) (fact : World → Prop) : Prop :=
  ∀ before after, relation before after → fact before → fact after

theorem Lasting.and {relation : World → World → Prop} {first second : World → Prop}
    (left : Lasting relation first) (right : Lasting relation second) :
    Lasting relation fun world => first world ∧ second world := by
  intro before after related holds
  exact ⟨left before after related holds.1, right before after related holds.2⟩

variable {fact : Prop}

theorem Lasting.pure {relation : World → World → Prop} : Lasting relation fun _ => fact :=
  fun _ _ _ holds => holds

theorem Lasting.eq {fact : World → Prop} : Lasting Eq fact := by
  rintro _ _ rfl holds
  exact holds

def Anywhere (_ _ : World) : Prop :=
  True

instance : IsPreorder World Anywhere where
  refl _ := trivial
  trans _ _ _ _ _ := trivial

/-- From a world with the precondition the program is safe, every world it
leaves is related to the first one, and a value satisfies the postcondition. -/
def Ensures (contract : Contract S World) (relation : World → World → Prop)
    (pre : World → Prop) (program : Program S ε α) (post : α → World → Prop) : Prop :=
  ∀ world, contract.valid world → pre world →
    Safe contract
      (fun outcome after => contract.valid after ∧ relation world after ∧
        ∀ value, outcome = .ok value → post value after) program world

namespace Ensures

variable {contract : Contract S World} {relation : World → World → Prop}
variable {pre : World → Prop}

variable {program : Program S ε α}

theorem weaken {first second : α → World → Prop}
    (implies : ∀ value world, first value world → second value world)
    (ensured : Ensures contract relation pre program first) :
    Ensures contract relation pre program second := by
  intro world valid holds
  refine Safe.weaken ?_ (ensured world valid holds)
  rintro _ after ⟨kept, related, post⟩
  exact ⟨kept, related, fun value equal => implies value after (post value equal)⟩

variable {post : α → World → Prop}

theorem relax {coarser : World → World → Prop}
    (implies : ∀ before after, relation before after → coarser before after)
    (ensured : Ensures contract relation pre program post) :
    Ensures contract coarser pre program post := by
  intro world valid holds
  refine Safe.weaken ?_ (ensured world valid holds)
  rintro _ after ⟨kept, related, values⟩
  exact ⟨kept, implies world after related, values⟩

theorem strengthen {stronger : World → Prop} (implies : ∀ world, stronger world → pre world)
    (ensured : Ensures contract relation pre program post) :
    Ensures contract relation stronger program post :=
  fun world valid holds => ensured world valid (implies world holds)

theorem assume (ensured : fact → Ensures contract relation pre program post) :
    Ensures contract relation (fun world => pre world ∧ fact) program post :=
  fun world valid holds => ensured holds.2 world valid holds.1

/-- Name what the precondition says there is. -/
theorem choose {ι : Type} {pre : ι → World → Prop}
    (ensured : ∀ index, Ensures contract relation (pre index) program post) :
    Ensures contract relation (fun world => ∃ index, pre index world) program post := by
  rintro world valid ⟨index, known⟩
  exact ensured index world valid known

theorem attempt (ensured : Ensures contract relation pre program post) :
    Ensures contract relation pre (program.attempt : Program S ε' (Except ε α))
      (fun outcome world => ∀ value, outcome = .ok value → post value world) := by
  intro world valid known
  refine Safe.attempt (Safe.weaken ?_ (ensured world valid known))
  rintro _ _ ⟨kept, related, values⟩
  refine ⟨kept, related, ?_⟩
  rintro _ ⟨⟩
  exact values

theorem mapError {annotate : ε → ε'} (ensured : Ensures contract relation pre program post) :
    Ensures contract relation pre (program.mapError annotate) post := by
  intro world valid known
  refine Safe.mapError (Safe.weaken ?_ (ensured world valid known))
  rintro outcome _ ⟨kept, related, values⟩
  refine ⟨kept, related, ?_⟩
  cases outcome with
  | ok value =>
    rintro _ ⟨⟩
    exact values value rfl
  | error => rintro _ ⟨⟩

theorem frame {fact : World → Prop} (lasting : Lasting relation fact)
    (implies : ∀ world, pre world → fact world)
    (ensured : Ensures contract relation pre program post) :
    Ensures contract relation pre program (fun value world => fact world ∧ post value world) := by
  intro world valid known
  refine Safe.weaken ?_ (ensured world valid known)
  rintro _ after ⟨kept, related, values⟩
  exact ⟨kept, related, fun value equal =>
    ⟨lasting world after related (implies world known), values value equal⟩⟩

/-- Use a fact that follows from the invariant and the precondition. -/
theorem derive (implies : ∀ world, contract.valid world → pre world → fact)
    (ensured : fact → Ensures contract relation pre program post) :
    Ensures contract relation pre program post :=
  fun world valid known => ensured (implies world valid known) world valid known

theorem safe {world : World} (ensured : Ensures contract relation pre program post)
    (valid : contract.valid world) (known : pre world) :
    Safe contract (fun _ _ => True) program world :=
  Safe.weaken (fun _ _ _ => trivial) (ensured world valid known)

variable [IsPreorder World relation]

theorem ret {value : α} (holds : ∀ world, contract.valid world → pre world → post value world) :
    Ensures contract relation pre (.ret value : Program S ε α) post := by
  intro world valid known
  refine ⟨valid, refl_of relation world, ?_⟩
  rintro _ ⟨⟩
  exact holds world valid known

theorem fail {error : ε} : Ensures contract relation pre (.fail error : Program S ε α) post := by
  intro world valid _
  refine ⟨valid, refl_of relation world, ?_⟩
  rintro _ ⟨⟩

variable {next : α → Program S ε β} {middle : α → World → Prop}

/-- Composition with a first program that respects a finer relation.  Facts
that only the finer relation keeps are still there for the second program. -/
theorem bindFiner {finer : World → World → Prop} {post : β → World → Prop}
    (implies : ∀ before after, finer before after → relation before after)
    (lasting : Lasting finer pre) (first : Ensures contract finer pre program middle)
    (second : ∀ value,
      Ensures contract relation (fun world => pre world ∧ middle value world)
        (next value) post) : Ensures contract relation pre (program >>= next) post := by
  intro world valid known
  refine Safe.bind (Safe.weaken ?_ (first world valid known))
  rintro outcome after ⟨kept, related, values⟩
  cases outcome with
  | ok value =>
    have learned : pre after ∧ middle value after :=
      ⟨lasting world after related known, values value rfl⟩
    refine Safe.weaken ?_ (second value after kept learned)
    rintro _ _ ⟨keptLast, relatedLast, valuesLast⟩
    exact ⟨keptLast, trans_of relation (implies _ _ related) relatedLast, valuesLast⟩
  | error =>
    refine ⟨kept, implies _ _ related, ?_⟩
    rintro _ ⟨⟩

theorem sequence {post : β → World → Prop} (first : Ensures contract relation pre program middle)
    (second : ∀ value, Ensures contract relation (middle value) (next value) post) :
    Ensures contract relation pre (program >>= next) post := by
  intro world valid known
  refine Safe.bind (Safe.weaken ?_ (first world valid known))
  rintro outcome after ⟨kept, related, values⟩
  cases outcome with
  | ok value =>
    refine Safe.weaken ?_ (second value after kept (values value rfl))
    rintro _ _ ⟨keptLast, relatedLast, valuesLast⟩
    exact ⟨keptLast, trans_of relation related relatedLast, valuesLast⟩
  | error =>
    refine ⟨kept, related, ?_⟩
    rintro _ ⟨⟩

theorem bind {post : β → World → Prop} (lasting : Lasting relation pre)
    (first : Ensures contract relation pre program middle) (second : ∀ value,
      Ensures contract relation (fun world => pre world ∧ middle value world)
        (next value) post) : Ensures contract relation pre (program >>= next) post :=
  sequence (frame lasting (fun _ known => known) first) second

theorem bindPure {fact : α → Prop} {post : β → World → Prop} (lasting : Lasting relation pre)
    (first : Ensures contract relation pre program fun value _ => fact value)
    (second : ∀ value, fact value → Ensures contract relation pre (next value) post) :
    Ensures contract relation pre (program >>= next) post :=
  bind lasting first fun value => assume (second value)

theorem bindQuiet {post : β → World → Prop} (first : Ensures contract Eq pre program middle)
    (second : ∀ value,
      Ensures contract relation (fun world => pre world ∧ middle value world)
        (next value) post) : Ensures contract relation pre (program >>= next) post := by
  refine bindFiner ?_ Lasting.eq first second
  rintro before _ rfl
  exact refl_of relation before

/-- Composition with a first program that leaves the world as it is and brings
a fact that is not about the world. -/
theorem bindQuietPure {fact : α → Prop} {post : β → World → Prop}
    (first : Ensures contract Eq pre program fun value _ => fact value)
    (second : ∀ value, fact value → Ensures contract relation pre (next value) post) :
    Ensures contract relation pre (program >>= next) post :=
  bindQuiet first fun value => assume (second value)

theorem ofExcept {outcome : Except ε α} :
    Ensures contract relation pre (Program.ofExcept outcome : Program S ε α)
      (fun value _ => outcome = .ok value) := by
  cases outcome with
  | ok => exact ret fun _ _ _ => rfl
  | error => exact fail

theorem rejectIf {test : Bool} {error : ε} :
    Ensures contract relation pre (Program.rejectIf test error : Program S ε Unit)
      (fun _ _ => test = false) := by
  cases test with
  | false => exact ret fun _ _ _ => rfl
  | true => exact fail

/-- What follows a check that passed. -/
theorem check {test : Bool} {error : ε} {next : Unit → Program S ε β} {post : β → World → Prop}
    (second : test = false → Ensures contract relation pre (next ()) post) :
    Ensures contract relation pre (Program.rejectIf test error >>= next) post :=
  bindQuietPure rejectIf fun _ => second

/-- What follows an outcome that was a value. -/
theorem take {outcome : Except ε α} {post : β → World → Prop}
    (second : ∀ value, outcome = .ok value → Ensures contract relation pre (next value) post) :
    Ensures contract relation pre (Program.ofExcept outcome >>= next) post :=
  bindQuietPure ofExcept second

theorem call {request : S.Request} {next : S.Reply request → Program S ε α}
    {middle : S.Reply request → World → Prop} (lasting : Lasting relation pre)
    (first : Ensures contract relation pre
      (Program.perform request : Program S ε (S.Reply request)) middle) (second : ∀ reply,
      Ensures contract relation (fun world => pre world ∧ middle reply world)
        (next reply) post) : Ensures contract relation pre (.call request next) post :=
  bind lasting first second

theorem forEach {State : Type} {step : State → α → Program S ε State}
    {invariant : State → World → Prop}
    (kept : ∀ state element,
      Ensures contract relation (invariant state) (step state element) invariant)
    (state : State) (elements : List α) :
    Ensures contract relation (invariant state) (Program.forEach step state elements)
      invariant := by
  induction elements generalizing state with
  | nil => exact ret fun _ _ known => known
  | cons element _ ih => exact sequence (kept state element) ih

/-- The rule of a loop that settles something for each of its elements: a step
settles it for its element and unsettles nothing. -/
theorem forEachSettled {State : Type} {step : State → α → Program S ε State}
    {invariant : State → World → Prop} {settled : α → State → Prop}
    (kept : ∀ state element, Ensures contract relation (invariant state) (step state element)
      fun next world => invariant next world ∧ settled element next ∧
        ∀ other, settled other state → settled other next)
    (state : State) (elements : List α) :
    Ensures contract relation (invariant state) (Program.forEach step state elements)
      fun final world => invariant final world ∧ (∀ element ∈ elements, settled element final) ∧
        ∀ other, settled other state → settled other final := by
  induction elements generalizing state with
  | nil => exact ret fun _ _ known => ⟨known, by rintro _ ⟨⟩, fun _ before => before⟩
  | cons element _ ih =>
    refine sequence (kept state element) fun next => ?_
    intro world valid known
    obtain ⟨held, here, earlier⟩ := known
    refine weaken ?_ (ih next) world valid held
    rintro _ _ ⟨heldLast, others, later⟩
    refine ⟨heldLast, ?_, fun other before => later other (earlier other before)⟩
    intro visited member
    rcases List.mem_cons.mp member with rfl | inRest
    · exact later visited here
    · exact others visited inRest

/-- A program between two requests brings what it brings alone, as long as
that lasts.  The first request may respect a finer relation. -/
theorem between {finer : World → World → Prop} {first last : S.Request} {body : Program S ε α}
    (implies : ∀ before after, finer before after → relation before after)
    (lasting : Lasting finer pre) (lastingPost : ∀ value, Lasting relation (post value))
    (opened : Ensures contract finer pre
      (Program.perform first : Program S ε (S.Reply first)) fun _ _ => True)
    (closed : Ensures contract relation (fun _ => True)
      (Program.perform last : Program S ε (S.Reply last)) fun _ _ => True)
    (ensured : Ensures contract relation pre body post) :
    Ensures contract relation pre (Program.between first last body) post := by
  refine bindFiner implies lasting opened fun _ => strengthen (fun _ holds => holds.1) ?_
  refine sequence (attempt ensured) fun outcome => ?_
  have lastingOutcome :
      Lasting relation fun world => ∀ value, outcome = .ok value → post value world := by
    intro before after related holds value equal
    exact lastingPost value before after related (holds value equal)
  refine call lastingOutcome (strengthen (fun _ _ => trivial) closed) fun _ => ?_
  cases outcome with
  | ok value => exact ret fun world _ holds => holds.1 value rfl
  | error => exact fail

end Ensures

end Effect
