import Sovereignite.ErrorValues

/-!
# Programs that call on an environment

A program is a finite tree of requests to an environment.  Between two
requests it only computes, so a run of several programs is determined by the
order in which their requests are answered and by the answers.  A program ends
with a value or with an error, and an error skips the rest of a sequence.
-/

namespace Effect

/-- The requests of a program and the type of the reply to each. -/
structure Signature where
  Request : Type
  Reply : Request → Type

/-- A program over a signature, ending with a value or an error. -/
inductive Program (S : Signature) (ε α : Type) : Type where
  | ret (value : α)
  | fail (error : ε)
  | call (request : S.Request) (next : S.Reply request → Program S ε α)

namespace Program

variable {S : Signature} {State ε ε' α β γ : Type}

/-- Sequential composition.  An error of the first program is final. -/
def bind : Program S ε α → (α → Program S ε β) → Program S ε β
  | .ret value, next => next value
  | .fail error, _ => .fail error
  | .call request rest, next => .call request fun reply => (rest reply).bind next

instance : Monad (Program S ε) where
  pure := .ret
  bind := Program.bind

@[simp]
theorem pure_eq (value : α) : (pure value : Program S ε α) = .ret value := rfl

@[simp]
theorem ret_bind (value : α) (next : α → Program S ε β) :
    (Program.ret value >>= next) = next value :=
  rfl

@[simp]
theorem fail_bind (error : ε) (next : α → Program S ε β) :
    (Program.fail error >>= next) = .fail error :=
  rfl

@[simp]
theorem call_bind (request : S.Request)
    (rest : S.Reply request → Program S ε α) (next : α → Program S ε β) :
    (Program.call request rest >>= next) = .call request fun reply => rest reply >>= next :=
  rfl

/-- Make one request and return its reply. -/
def perform (request : S.Request) : Program S ε (S.Reply request) :=
  .call request .ret

/-- End with the value or the error of a pure computation. -/
def ofExcept : Except ε α → Program S ε α
  | .ok value => .ret value
  | .error error => .fail error

instance : MonadLift (Except ε) (Program S ε) where
  monadLift := ofExcept

/-- Fail with an error when a test succeeds. -/
def rejectIf (test : Bool) (error : ε) : Program S ε Unit :=
  if test then .fail error else .ret ()

/-- Run a program and return its outcome as a value. -/
def attempt : Program S ε α → Program S ε' (Except ε α)
  | .ret value => .ret (.ok value)
  | .fail error => .ret (.error error)
  | .call request rest => .call request fun reply => (rest reply).attempt

/-- Annotate the error of a program. -/
def mapError (annotate : ε → ε') (program : Program S ε α) : Program S ε' α :=
  program.attempt >>= fun
    | .ok value => .ret value
    | .error error => .fail (annotate error)

/-- Run a program between two requests, the second of which is made whatever
the outcome of the program is. -/
def between (first last : S.Request) (body : Program S ε α) : Program S ε α :=
  .call first fun _ =>
    body.attempt >>= fun outcome =>
      .call last fun _ => ofExcept outcome

/-- Thread a state through a list of programs. -/
def forEach (step : State → α → Program S ε State) : State → List α → Program S ε State
  | state, [] => .ret state
  | state, element :: rest => step state element >>= fun next => forEach step next rest

end Program

end Effect
