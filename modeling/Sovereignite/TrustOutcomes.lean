import Sovereignite.EffectSuccess
import Sovereignite.TrustRuns

/-!
# What an operation did that ran alone

An operation that returned a value passed every check on its way.  For each
shared step of the operations this module says what is known of the world and
of the value when the step ended with one, while nobody else made a call.
-/

namespace Sovereignite.Trust

open Effect Program

variable {env : Platform} {config : ServiceConfig} {caller : Caller}
variable {before after : World}

theorem World.setOwner_restore {world : World} {service : Nat} {mutex : Mutex}
    {holder : Option Caller} (free : world.owner service mutex = none) :
    (world.setOwner service mutex holder).setOwner service mutex none = world := by
  cases world with
  | mk =>
    simp only [World.setOwner, World.mk.injEq, true_and]
    funext other held
    by_cases same : other = service ∧ held = mutex
    · simp only [same, and_self, if_true]
      exact free.symm
    · simp only [same, if_false]

theorem Memory.eq_of_opened {memory : Memory} (opened : memory.opened = true) :
    memory = ⟨true, memory.snapshot⟩ := by
  rw [← opened]

section Steps

variable {ctx : Context}

theorem ask_ends {request : Request} {reply : Reply request} :
    Ends (α := no_index (Reply request)) (answer env caller) (ask request) before (.ok reply)
      after ↔ answer env caller before request reply after :=
  Ends.perform_ok

theorem checkContext_ends {value : Unit}
    (ended : (checkContext ctx).Ends (answer env caller) before (.ok value) after) :
    before = after := by
  cases ended with
  | answered _ _ reply given rest =>
    obtain ⟨rfl, _⟩ := given
    cases reply with
    | none =>
      cases rest
      rfl
    | some => cases rest

theorem withLock_ends {α : Type} {mutex : Mutex} {body : Operating α} {outcome : Except Error α}
    (ended : (withLock mutex body).Ends (answer env caller) before outcome after) :
    before.owner caller.service mutex = none ∧ ∃ middle,
      body.Ends (answer env caller) (before.setOwner caller.service mutex (some caller))
        outcome middle ∧
      after = middle.setOwner caller.service mutex none := by
  obtain ⟨_, _, closed, _, ⟨free, rfl⟩, ran, freed⟩ := Program.Ends.between_inv ended
  exact ⟨free, closed, ran, freed⟩

variable {current : Snapshot} {now : Time}

/-- The document an operation works on is the one in the memory of its instance. -/
theorem currentState_ends
    (ended : (currentState ctx).Ends (answer env caller) before (.ok (current, now)) after) :
    before.memory caller.service = ⟨true, current⟩ ∧ now ≠ 0 ∧ before = after := by
  simp only [currentState, Ends.bind_ok, Ends.rejectIf_ok, ask_ends] at ended
  obtain ⟨_, _, ⟨_, rfl⟩, _, _, checked, _, _, ⟨⟩, _, _, ⟨nonzero, rfl⟩, locked⟩ := ended
  cases checkContext_ends checked
  obtain ⟨free, _, ran, rfl⟩ := withLock_ends locked
  simp only [Ends.bind_ok, Ends.rejectIf_ok, ask_ends] at ran
  obtain ⟨memory, _, ⟨rfl, rfl⟩, _, _, ⟨serving, rfl⟩, returns⟩ := ran
  cases returns
  have isOpen : (before.memory caller.service).opened = true := by
    simpa [World.setOwner] using serving
  exact ⟨Memory.eq_of_opened isOpen, by simpa using nonzero, (World.setOwner_restore free).symm⟩

theorem authorizedInput_ends {state : ConnectionState} {peer : VerifiedMTLSPeer}
    (ended : (authorizedInput env ctx state).Ends (answer env caller) before
      (.ok (peer, current, now)) after) :
    before.memory caller.service = ⟨true, current⟩ ∧ now ≠ 0 ∧
      verifyMutualTLSPeer env state now = .ok peer ∧ before = after := by
  simp only [authorizedInput, Ends.bind_ok, Ends.ofExcept_ok] at ended
  obtain ⟨⟨_, _⟩, _, first, _, _, ⟨accepted, rfl⟩, returns⟩ := ended
  obtain ⟨serving, timed, rfl⟩ := currentState_ends first
  cases returns
  exact ⟨serving, timed, accepted, rfl⟩

theorem callPolicy_ends {intent : AuthorizationIntent} {grant : AuthorizationGrant}
    (ended : (callPolicy env config intent current now).Ends (answer env caller) before
      (.ok grant) after) :
    validateGrant grant current.revision now config.maximumGrantLifetime = .ok () ∧
      current.appliedGrants.has (grantDigest env grant.grantID) = false ∧
      before = after := by
  simp only [callPolicy, Ends.bind_ok, Ends.rejectIf_ok, Ends.ofExcept_ok, ask_ends] at ended
  obtain ⟨_, _, ⟨_, rfl⟩, _, _, ⟨⟩, _, _, ⟨_, rfl⟩, _, _, ⟨accepted, rfl⟩, _, _, ⟨unused, rfl⟩,
    returns⟩ := ended
  cases returns
  exact ⟨accepted, unused, rfl⟩

theorem attachPublicOutbox_ends {next attached : Snapshot}
    (ended : (attachPublicOutbox env config next now).Ends (answer env caller) before
      (.ok attached) after) :
    (∃ documents publication,
      newPublication env config.identity next.revision documents now = .ok publication ∧
        next.published.has publication.id = false ∧
        attached = { next with outbox := AList.singleton publication.id publication }) ∧
      before = after := by
  simp only [attachPublicOutbox, Ends.bind_ok, Ends.rejectIf_ok, Ends.ofExcept_ok, ask_ends]
    at ended
  obtain ⟨_, _, ⟨_, rfl⟩, _, _, ⟨_, rfl⟩, _, _, ⟨⟩, documents, _, ⟨_, rfl⟩, publication, _,
    ⟨made, rfl⟩, _, _, ⟨unpublished, rfl⟩, returns⟩ := ended
  cases returns
  exact ⟨⟨documents, publication, made, unpublished, rfl⟩, rfl⟩

/-- The world after a commit that an operation knows to have succeeded. -/
def World.committed (world : World) (caller : Caller) (label : CommitLabel) (next : Snapshot) :
    World :=
  { world with
    log := ⟨caller, label, next⟩ :: world.log
    memory := Function.update world.memory caller.service ⟨true, next⟩ }

theorem commitCandidate_ends {label : CommitLabel} {expectedRevision : UInt64} {next : Snapshot}
    {value : Unit}
    (ended : (commitCandidate env config label expectedRevision next).Ends
      (answer env caller) before (.ok value) after) :
    Accepted env (durable before.log) expectedRevision next ∧
      after = before.committed caller label next := by
  obtain ⟨free, _, ran, rfl⟩ := withLock_ends ended
  simp only [Ends.bind_ok, Ends.rejectIf_ok, ask_ends] at ran
  obtain ⟨memory, _, ⟨rfl, rfl⟩, _, _, ⟨serving, rfl⟩, commits⟩ := ran
  have isOpen : (before.memory caller.service).opened = true := by
    simpa [World.setOwner] using serving
  split at commits
  · obtain ⟨_, _, _, failed⟩ := Ends.bind_ok.mp commits
    cases failed
  · obtain ⟨reply, _, stored, writes⟩ := Ends.bind_ok.mp commits
    cases reply with
    | error =>
      obtain ⟨_, _, _, failed⟩ := Ends.bind_ok.mp writes
      cases failed
    | ok =>
      rcases ask_ends.mp stored with ⟨failed, _⟩ | ⟨accepted, rfl⟩
      · exact absurd rfl failed
      · cases ask_ends.mp writes
        have restored := @World.setOwner_restore before caller.service .mu (some caller) free
        have owners := congrArg World.owner restored
        simp only [World.setOwner] at owners
        refine ⟨accepted, ?_⟩
        simp only [World.committed, World.setOwner, owners, isOpen]

end Steps

end Sovereignite.Trust
