import Sovereignite.EffectRequests

/-!
# Programs inside programs

A program over one signature is used inside one over a larger signature, whose
requests include its own.
-/

namespace Effect

variable {S T : Signature} {ε α : Type}

/-- The requests of one signature among those of another. -/
structure Inclusion (S T : Signature) where
  request : S.Request → T.Request
  reply : (inner : S.Request) → T.Reply (request inner) → S.Reply inner

/-- A program over the larger signature. -/
def Program.embed (inclusion : Inclusion S T) : Program S ε α → Program T ε α
  | .ret value => .ret value
  | .fail error => .fail error
  | .call request next =>
    .call (inclusion.request request) fun reply =>
      (next (inclusion.reply request reply)).embed inclusion

section Composition

variable {β : Type} (inclusion : Inclusion S T)

@[simp]
theorem Program.embed_bind (program : Program S ε α) (next : α → Program S ε β) :
    (program >>= next).embed inclusion =
      program.embed inclusion >>= fun value => (next value).embed inclusion := by
  induction program with
  | ret | fail => rfl
  | call _ _ ih =>
    simp only [call_bind, embed]
    congr 1
    funext reply
    exact ih _

@[simp]
theorem Program.embed_pure (value : α) :
    (pure value : Program S ε α).embed inclusion = pure value := rfl

@[simp]
theorem Program.embed_ofExcept (outcome : Except ε α) :
    (ofExcept outcome : Program S ε α).embed inclusion = ofExcept outcome := by
  cases outcome <;> rfl

@[simp]
theorem Program.embed_rejectIf (test : Bool) (error : ε) :
    (rejectIf test error : Program S ε Unit).embed inclusion = rejectIf test error := by
  cases test <;> rfl

end Composition

theorem Program.embed_only (inclusion : Inclusion S T) (program : Program S ε α) :
    (program.embed inclusion).Only fun request => ∃ inner, request = inclusion.request inner := by
  induction program with
  | ret | fail => trivial
  | call request _ ih => exact ⟨⟨request, rfl⟩, fun reply => ih _⟩

end Effect
