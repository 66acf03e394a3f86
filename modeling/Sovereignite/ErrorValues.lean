import Mathlib.Init

/-!
# Error values with sentinels

An error is a sentinel, a plain text, an annotation of other errors, or
several errors joined.  Asking whether an error is a given sentinel looks
through every annotation and every joined member, so a caller can branch on
the cause of a failure without knowing how often it was annotated on the way.
-/

namespace Effect

/-- An error over a type of sentinels.  The annotations differ in where the
text stands: before the inner error, after it, or between two of them. -/
inductive ErrorValue (Sentinel : Type) where
  | sentinel (cause : Sentinel)
  | message (text : String)
  | wrap (text : String) (inner : ErrorValue Sentinel)
  | detail (inner : ErrorValue Sentinel) (text : String)
  | both (left : ErrorValue Sentinel) (text : String) (right : ErrorValue Sentinel)
  | join (left right : ErrorValue Sentinel)
  deriving DecidableEq

namespace ErrorValue

variable {Sentinel : Type} [DecidableEq Sentinel]

def is (target : Sentinel) : ErrorValue Sentinel → Bool
  | .sentinel cause => decide (cause = target)
  | .message _ => false
  | .wrap _ inner => inner.is target
  | .detail inner _ => inner.is target
  | .both left _ right => left.is target || right.is target
  | .join left right => left.is target || right.is target

def text (name : Sentinel → String) : ErrorValue Sentinel → String
  | .sentinel cause => name cause
  | .message text => text
  | .wrap text inner => text ++ ": " ++ inner.text name
  | .detail inner text => inner.text name ++ ": " ++ text
  | .both left text right => left.text name ++ ": " ++ text ++ ": " ++ right.text name
  | .join left right => left.text name ++ "\n" ++ right.text name

def joinOption (error : ErrorValue Sentinel) : Option (ErrorValue Sentinel) → ErrorValue Sentinel
  | none => error
  | some other => .join error other

end ErrorValue

def errorOf {ε α : Type} : Except ε α → Option ε
  | .ok _ => none
  | .error error => some error

/-- The error of a library, with a text before it. -/
def annotated {Sentinel α : Type} (text : String) (outcome : Except String α) :
    Except (ErrorValue Sentinel) α :=
  outcome.mapError fun inner => .wrap text (.message inner)

/-- Fail with an error when a test succeeds. -/
def reject {ε : Type} (test : Bool) (error : ε) : Except ε Unit :=
  if test then .error error else .ok ()

/-- Run a check on every element of a list and stop at the first error. -/
def checkEach {ε α : Type} (check : α → Except ε Unit) : List α → Except ε Unit
  | [] => .ok ()
  | element :: rest => do
    check element
    checkEach check rest

def foldEach {ε σ α : Type} (step : σ → α → Except ε σ) : σ → List α → Except ε σ
  | state, [] => .ok state
  | state, element :: rest => do
    let next ← step state element
    foldEach step next rest

section Outcomes

variable {ε σ α β : Type}

theorem bind_eq_ok {first : Except ε α} {next : α → Except ε β} {value : β} :
    (first >>= next) = .ok value ↔ ∃ middle, first = .ok middle ∧ next middle = .ok value := by
  cases first with
  | ok middle =>
    constructor
    · intro equal
      exact ⟨middle, rfl, equal⟩
    · rintro ⟨_, ⟨⟩, equal⟩
      exact equal
  | error =>
    constructor
    · intro equal
      cases equal
    · rintro ⟨_, equal, _⟩
      cases equal

theorem isOk_eq_true {outcome : Except ε α} :
    outcome.isOk = true ↔ ∃ value, outcome = .ok value := by
  cases outcome <;> simp [Except.isOk, Except.toBool]

theorem isOk_eq_false {outcome : Except ε α} :
    outcome.isOk = false ↔ ∃ error, outcome = .error error := by
  cases outcome <;> simp [Except.isOk, Except.toBool]

theorem isNone_toOption {outcome : Except ε α} :
    outcome.toOption.isNone = false ↔ ∃ value, outcome = .ok value := by
  cases outcome <;> simp [Except.toOption]

@[simp]
theorem reject_eq_ok {test : Bool} {error : ε} {value : Unit} :
    reject test error = .ok value ↔ test = false := by
  cases test <;> simp [reject]

theorem mapError_eq_ok {annotate : ε → β} {outcome : Except ε α} {value : α} :
    outcome.mapError annotate = .ok value ↔ outcome = .ok value := by
  cases outcome with
  | ok =>
    constructor
    · rintro ⟨⟩
      rfl
    · rintro ⟨⟩
      rfl
  | error => exact ⟨nofun, nofun⟩

/-- Every error of a computation has a property. -/
def FailsWith (property : ε → Prop) (outcome : Except ε α) : Prop :=
  ∀ error, outcome = .error error → property error

theorem FailsWith.ok {property : ε → Prop} {value : α} :
    FailsWith property (.ok value : Except ε α) := by
  rintro _ ⟨⟩

theorem FailsWith.error {property : ε → Prop} {error : ε} (holds : property error) :
    FailsWith property (.error error : Except ε α) := by
  rintro _ ⟨⟩
  exact holds

theorem FailsWith.bind {property : ε → Prop} {first : Except ε α} {next : α → Except ε β}
    (left : FailsWith property first) (right : ∀ value, FailsWith property (next value)) :
    FailsWith property (first >>= next) := by
  cases first with
  | ok value => exact right value
  | error error => exact .error (left error rfl)

theorem FailsWith.reject {property : ε → Prop} {test : Bool} {error : ε}
    (holds : property error) : FailsWith property (reject test error) := by
  cases test with
  | true => exact .error holds
  | false => exact .ok

theorem checkEach_eq_ok {check : α → Except ε Unit} {elements : List α} :
    checkEach check elements = .ok () ↔ ∀ element ∈ elements, check element = .ok () := by
  induction elements with
  | nil => simp [checkEach]
  | cons _ _ ih =>
    simp only [checkEach, bind_eq_ok, List.forall_mem_cons, ih]
    constructor
    · rintro ⟨⟨⟩, passed, others⟩
      exact ⟨passed, others⟩
    · rintro ⟨passed, others⟩
      exact ⟨(), passed, others⟩

theorem foldEach_invariant {step : σ → α → Except ε σ} {invariant : σ → Prop}
    (preserved : ∀ state element next, invariant state →
      step state element = .ok next → invariant next)
    {elements : List α} {start finish : σ} (holds : invariant start)
    (folded : foldEach step start elements = .ok finish) : invariant finish := by
  induction elements generalizing start with
  | nil =>
    cases folded
    exact holds
  | cons element _ ih =>
    obtain ⟨next, stepped, remaining⟩ := bind_eq_ok.mp folded
    exact ih (preserved start element next holds stepped) remaining

/-- Each element of a finished fold was accepted in a state with the invariant,
and the fold went on from there. -/
theorem foldEach_accepted_keeping {step : σ → α → Except ε σ} {invariant : σ → Prop}
    (preserved : ∀ state element next, invariant state →
      step state element = .ok next → invariant next)
    {elements : List α} {element : α} {start finish : σ} (holds : invariant start)
    (folded : foldEach step start elements = .ok finish) (member : element ∈ elements) :
    ∃ before after rest, invariant before ∧ step before element = .ok after ∧
      foldEach step after rest = .ok finish := by
  induction elements generalizing start with
  | nil => cases member
  | cons first rest ih =>
    obtain ⟨next, stepped, remaining⟩ := bind_eq_ok.mp folded
    rcases List.mem_cons.mp member with same | later
    · subst same
      exact ⟨start, next, rest, holds, stepped, remaining⟩
    · exact ih (preserved start first next holds stepped) remaining later

theorem foldEach_accepted {step : σ → α → Except ε σ} {elements : List α} {element : α}
    {start finish : σ} (folded : foldEach step start elements = .ok finish)
    (member : element ∈ elements) :
    ∃ before after rest, step before element = .ok after ∧
      foldEach step after rest = .ok finish := by
  obtain ⟨before, after, rest, _, accepted⟩ :=
    foldEach_accepted_keeping (fun _ _ _ _ _ => trivial) trivial folded member
  exact ⟨before, after, rest, accepted⟩

end Outcomes

end Effect
