import Sovereignite.EffectRequests
import Sovereignite.TrustExecution
import Sovereignite.TrustRefinement

/-!
# The memory of a service instance

An instance changes its copy of the document only inside its mutex, and `Open`
writes it only while no other `Open` of the instance runs.  So a copy that an
operation read inside the mutex is still the one it replaces, and the revision
of the copy never goes back.
-/

namespace Sovereignite.Trust

open Effect Program

variable {memory : Memory} {before after : World}

section Discipline

/-- What an operation may assume of the others: the copies of all instances go
forward, nobody takes a mutex from it or gives it one, and the copy of its own
instance stands still while it holds the mutex of the copy, or holds the mutex
of `Open` and the instance is not open. -/
structure Forward (caller : Caller) (before after : World) : Prop where
  revision : ∀ service,
    (before.memory service).snapshot.revision ≤ (after.memory service).snapshot.revision
  owner : ∀ mutex, before.owner caller.service mutex = some caller ↔
    after.owner caller.service mutex = some caller
  held : before.owner caller.service .mu = some caller →
    after.memory caller.service = before.memory caller.service
  opening : before.owner caller.service .openMu = some caller →
    (before.memory caller.service).opened = false →
    after.memory caller.service = before.memory caller.service

/-- The copy of an instance that is not open is empty. -/
def Pristine (world : World) : Prop :=
  ∀ service, (world.memory service).opened = false → (world.memory service).snapshot = emptySnapshot

/-- An operation gives back every mutex it takes. -/
def Balanced (caller : Caller) (before after : World) : Prop :=
  ∀ mutex, before.owner caller.service mutex = some caller ↔
    after.owner caller.service mutex = some caller

/-- The mutexes an operation holds. -/
def Holds (caller : Caller) (held : Mutex → Prop) (world : World) : Prop :=
  ∀ mutex, world.owner caller.service mutex = some caller ↔ held mutex

/-- An operation holds some mutexes, and its instance has a given copy. -/
def HoldsCopy (caller : Caller) (held : Mutex → Prop) (memory : Memory) (world : World) :
    Prop :=
  Holds caller held world ∧ world.memory caller.service = memory

def taking (held : Mutex → Prop) (mutex : Mutex) : Mutex → Prop :=
  fun other => other = mutex ∨ held other

def noMutex : Mutex → Prop :=
  fun _ => False

instance (caller : Caller) : IsPreorder World (Forward caller) where
  refl _ := ⟨fun _ => UInt64.le_refl _, fun _ => Iff.rfl, fun _ => rfl, fun _ _ => rfl⟩
  trans _ _ _ before after := by
    refine ⟨fun service => UInt64.le_trans (before.revision service) (after.revision service),
      fun mutex => (before.owner mutex).trans (after.owner mutex), ?_, ?_⟩
    · intro held
      rw [after.held ((before.owner .mu).mp held), before.held held]
    · intro held closed
      have same := before.opening held closed
      rw [after.opening ((before.owner .openMu).mp held) (by rw [same]; exact closed), same]

instance (caller : Caller) : IsPreorder World (Balanced caller) where
  refl _ := fun _ => Iff.rfl
  trans _ _ _ before after := fun mutex => (before mutex).trans (after mutex)

theorem Holds.lasting {caller : Caller} {held : Mutex → Prop} :
    Lasting (Balanced caller) (Holds caller held) :=
  fun _ _ balanced holds mutex => (balanced mutex).symm.trans (holds mutex)

theorem HoldsCopy.forward {caller : Caller} {held : Mutex → Prop} (inside : held .mu)
    (forward : Forward caller before after) (known : HoldsCopy caller held memory before) :
    HoldsCopy caller held memory after :=
  ⟨Holds.lasting before after forward.owner known.1,
    (forward.held ((known.1 .mu).mpr inside)).trans known.2⟩

theorem HoldsCopy.forward_of_closed {caller : Caller} {held : Mutex → Prop} (inside : held .openMu)
    (closed : memory.opened = false) (forward : Forward caller before after)
    (known : HoldsCopy caller held memory before) : HoldsCopy caller held memory after := by
  refine ⟨Holds.lasting before after forward.owner known.1, ?_⟩
  rw [forward.opening ((known.1 .openMu).mpr inside) (by rw [known.2]; exact closed), known.2]

end Discipline

variable {mutex : Mutex} {request : Request}

section Calls

variable (env : Platform) (caller : Caller)

/-- What an operation may assume and owes, as far as the copies go. -/
abbrev memoryContract : Contract signature World where
  answer := answer env caller
  valid := Pristine
  rely := Forward caller
  guarantee before after := ∀ other, other ≠ caller → Forward other before after

/-- A triple of an operation that gives back every mutex it takes. -/
abbrev Guards {α : Type} (pre : World → Prop) (program : Operating α)
    (post : α → World → Prop) : Prop :=
  Ensures (memoryContract env caller) (Balanced caller) pre program post

/-- A program that may run while its operation holds some mutexes. -/
abbrev Stays {α : Type} (held : Mutex → Prop) (program : Operating α) : Prop :=
  Guards env caller (Holds caller held) program fun _ _ => True

variable {env caller} {held : Mutex → Prop}

/-- The requests that touch neither a mutex nor a copy. -/
def Quiet : Request → Prop
  | .lock _ => False
  | .unlock _ => False
  | .writeMemory _ => False
  | _ => True

theorem Quiet.unchanged (quiet : Quiet request) {world after : World} {reply : Reply request}
    (answered : answer env caller world request reply after) :
    after.memory = world.memory ∧ after.owner = world.owner := by
  cases request with
  | lock | unlock | writeMemory => exact quiet.elim
  | contextError => rw [answered.1]; exact ⟨rfl, rfl⟩
  | readMemory => rw [answered.2]; exact ⟨rfl, rfl⟩
  | load => rw [answered.1]; exact ⟨rfl, rfl⟩
  | commit =>
    rcases answered with ⟨_, rfl⟩ | ⟨_, rfl⟩ <;> exact ⟨rfl, rfl⟩
  | now | authorize | build | metadata | issueCertificate => cases answered; exact ⟨rfl, rfl⟩
  | fetch | publish => cases answered; exact ⟨rfl, rfl⟩

/-- Only the mutexes and the copies matter. -/
theorem Forward.of_eq (memory : after.memory = before.memory) (owner : after.owner = before.owner) :
    Forward caller before after := by
  refine ⟨fun service => ?_, fun mutex => ?_, fun _ => ?_, fun _ _ => ?_⟩
  · rw [memory]
    exact UInt64.le_refl _
  · rw [owner]
  · rw [memory]
  · rw [memory]

/-- A quiet request keeps every fact that the steps of the others keep and that
is about mutexes and copies alone. -/
theorem guards_quiet {fact : World → Prop} (quiet : Quiet request)
    (stable : ∀ before after, Forward caller before after → fact before → fact after) :
    Guards env caller fact (ask request) fun _ => fact := by
  intro _ _ known current pristine relied _ after answered
  obtain ⟨memory, owner⟩ := quiet.unchanged answered
  have forward : ∀ other, Forward other current after := fun _ => .of_eq memory owner
  have pristineAfter : Pristine after := by
    intro service closed
    rw [memory] at closed ⊢
    exact pristine service closed
  refine ⟨pristineAfter, fun other _ => forward other, pristineAfter, ?_, ?_⟩
  · exact trans_of (Balanced caller) relied.owner (forward caller).owner
  · rintro _ ⟨⟩
    exact stable _ _ (trans_of (Forward caller) relied (forward caller)) known

theorem guards_readMemory :
    Guards env caller (Holds caller held) (ask .readMemory) fun memory world =>
      HoldsCopy caller held memory world ∧
        (memory.opened = false → memory.snapshot = emptySnapshot) := by
  intro _ _ known _ pristine relied _ _ answered
  obtain ⟨rfl, rfl⟩ := answered
  refine ⟨pristine, fun other _ => refl_of (Forward other) _, pristine, relied.owner, ?_⟩
  rintro _ ⟨⟩
  exact ⟨⟨Holds.lasting _ _ relied.owner known, rfl⟩, fun closed => pristine _ closed⟩

/-- Inside the mutex a copy may be replaced by one that is not older, if the
instance is open or the operation holds the mutex of `Open` too. -/
theorem guards_writeMemory {document : Snapshot} (inside : held .mu)
    (opening : memory.opened = false → held .openMu)
    (forward : memory.snapshot.revision ≤ document.revision) :
    Guards env caller (HoldsCopy caller held memory)
      (ask (.writeMemory ⟨true, document⟩)) fun _ _ => True := by
  intro _ _ known current pristine relied _ _ answered
  cases answered
  have now := known.forward inside relied
  have holder := (now.1 .mu).mpr inside
  have pristineAfter : Pristine { current with
        memory := Function.update current.memory caller.service ⟨true, document⟩ } := by
    intro service closed
    by_cases same : service = caller.service
    · subst same
      simp at closed
    · simp only [Function.update_of_ne same] at closed ⊢
      exact pristine service closed
  refine ⟨pristineAfter, ?_, pristineAfter, relied.owner, fun _ _ => trivial⟩
  · intro other different
    have elsewhere : ∀ mutex, current.owner other.service mutex = some other →
        current.owner caller.service mutex = some caller → other.service ≠ caller.service := by
      intro mutex first second same
      rw [same, second] at first
      exact different (Option.some.inj first).symm
    refine ⟨?_, fun _ => Iff.rfl, ?_, ?_⟩
    · intro service
      by_cases same : service = caller.service
      · subst same
        simp only [Function.update_self]
        rw [now.2]
        exact forward
      · simp only [Function.update_of_ne same]
        exact UInt64.le_refl _
    · intro first
      exact Function.update_of_ne (elsewhere .mu first holder) _ _
    · intro first closed
      by_cases same : other.service = caller.service
      · -- the instance is not open, so this operation holds the mutex of `Open`
        rw [same, now.2] at closed
        exact absurd same (elsewhere .openMu first ((now.1 .openMu).mpr (opening closed)))
      · exact Function.update_of_ne same _ _

variable {world : World}

/-- A mutex may change hands without touching what another operation holds. -/
theorem forward_setOwner {other : Caller} {service : Nat} {holder : Option Caller}
    (before : world.owner service mutex ≠ some other) (after : holder ≠ some other) :
    Forward other world (world.setOwner service mutex holder) := by
  refine ⟨fun _ => UInt64.le_refl _, fun taken => ?_, fun _ => rfl, fun _ _ => rfl⟩
  by_cases same : other.service = service ∧ taken = mutex
  · obtain ⟨rfl, rfl⟩ := same
    simp [World.setOwner, before, after]
  · simp [World.setOwner, same]

theorem holds_setOwner_taken (holds : Holds caller held world) :
    Holds caller (taking held mutex) (world.setOwner caller.service mutex (some caller)) := by
  intro other
  by_cases same : other = mutex
  · simp [World.setOwner, taking, same]
  · simp [World.setOwner, taking, same, holds other]

theorem holds_setOwner_freed (free : ¬ held mutex) (holds : Holds caller (taking held mutex) world)
    : Holds caller held (world.setOwner caller.service mutex none) := by
  intro other
  by_cases same : other = mutex
  · simp [World.setOwner, same, free]
  · simp [World.setOwner, same, holds other, taking]

/-- A program under a mutex.  It starts from what is known when the mutex is
taken, and leaves what is known when the mutex is given back. -/
theorem guards_withLock {α : Type} {body : Operating α} {fact entry : World → Prop}
    {inner post : α → World → Prop} (free : ¬ held mutex)
    (known : ∀ world, fact world → Holds caller held world)
    (stable : ∀ before after, Forward caller before after → fact before → fact after)
    (entered : ∀ world after, fact world → after.memory = world.memory →
      Holds caller (taking held mutex) after → entry after)
    (ensured : Guards env caller entry body inner)
    (left : ∀ value before middle after, inner value before →
      Holds caller (taking held mutex) before → Forward caller before middle →
      after.memory = middle.memory → Holds caller held after → post value after) :
    Guards env caller fact (withLock mutex body) post := by
  intro world _ holds current pristine relied _ _ answered
  obtain ⟨unowned, rfl⟩ := answered
  have here := stable _ _ relied holds
  have taken : Holds caller (taking held mutex)
      (current.setOwner caller.service mutex (some caller)) :=
    holds_setOwner_taken (known current here)
  refine ⟨pristine, fun other different => forward_setOwner (by simp [unowned])
    (by simpa using different.symm), ?_⟩
  refine Safe.bind (Safe.attempt (Safe.weaken ?_
    (ensured _ pristine (entered current _ here rfl taken))))
  rintro outcome inside ⟨_, balanced, values⟩
  have takenInside := Holds.lasting _ _ balanced taken
  intro last pristineLast reliedLast _ _ freed
  cases freed
  have takenLast := Holds.lasting _ _ reliedLast.owner takenInside
  have owned : last.owner caller.service mutex = some caller := (takenLast mutex).mpr (.inl rfl)
  have freedHolds := holds_setOwner_freed free takenLast
  have balancedAll : Balanced caller world (last.setOwner caller.service mutex none) :=
    fun other => (known world holds other).trans (freedHolds other).symm
  refine ⟨pristineLast, fun other different => forward_setOwner
    (by simpa [owned] using different.symm) (by simp), ?_⟩
  cases outcome with
  | ok value =>
    refine ⟨pristineLast, balancedAll, ?_⟩
    rintro _ ⟨⟩
    exact left value inside last _ (values value rfl) takenInside reliedLast rfl freedHolds
  | error =>
    refine ⟨pristineLast, balancedAll, ?_⟩
    rintro _ ⟨⟩

end Calls

section Operations

variable {env : Platform} {caller : Caller} {config : ServiceConfig}
variable {held : Mutex → Prop} {α β : Type}

variable {program : Operating α}

theorem Stays.bind {next : α → Operating β} (first : Stays env caller held program)
    (second : ∀ value, Stays env caller held (next value)) :
    Stays env caller held (program >>= next) :=
  Ensures.bind Holds.lasting first fun value =>
    Ensures.strengthen (fun _ known => known.1) (second value)

theorem Stays.attempt (stays : Stays env caller held program) :
    Stays env caller held (program.attempt : Operating (Except Error α)) :=
  Ensures.weaken (fun _ _ _ => trivial) (Ensures.attempt stays)

theorem Stays.ret {value : α} : Stays env caller held (.ret value : Operating α) :=
  Ensures.ret fun _ _ _ => trivial

theorem Stays.rejectIf {test : Bool} {error : Error} :
    Stays env caller held (Program.rejectIf test error) :=
  Ensures.weaken (fun _ _ _ => trivial) Ensures.rejectIf

theorem Stays.ofExcept {outcome : Except Error α} :
    Stays env caller held (Program.ofExcept outcome) :=
  Ensures.weaken (fun _ _ _ => trivial) Ensures.ofExcept

/-- A program of quiet requests keeps what the steps of the others keep. -/
theorem guards_only {fact : World → Prop}
    (stable : ∀ before after, Forward caller before after → fact before → fact after)
    (only : program.Only Quiet) : Guards env caller fact program fun _ => fact :=
  Ensures.only (fun _ quiet => guards_quiet quiet stable) only

theorem Stays.only (only : program.Only Quiet) : Stays env caller held program :=
  Ensures.weaken (fun _ _ _ => trivial)
    (guards_only (fun _ _ forward known => Holds.lasting _ _ forward.owner known) only)

theorem Stays.withLock {body : Operating α} (free : ¬ held mutex)
    (stays : Stays env caller (taking held mutex) body) :
    Stays env caller held (withLock mutex body) :=
  guards_withLock free (fun _ known => known)
    (fun _ _ forward known => Holds.lasting _ _ forward.owner known)
    (fun _ _ _ _ taken => taken) stays fun _ _ _ _ _ _ _ _ _ => trivial

variable {ctx : Context} {next : Snapshot} {current : Snapshot} {now : Time}

section Quiet

theorem checkContext_quiet : (checkContext ctx).Only Quiet := by
  refine ⟨trivial, fun reply => ?_⟩
  cases reply <;> trivial

theorem loadDurable_quiet {text : String} : (loadDurable text).Only Quiet :=
  ⟨trivial, fun _ => .ofExcept⟩

theorem ask_quiet (quiet : Quiet request) : (ask request).Only Quiet := ⟨quiet, fun _ => trivial⟩

theorem callPolicy_quiet {intent : AuthorizationIntent} :
    (callPolicy env config intent current now).Only Quiet := by
  unfold callPolicy
  refine .bind .rejectIf fun _ => .bind (ask_quiet trivial) fun _ => ?_
  exact .bind .ofExcept fun _ => .bind .ofExcept fun _ => .bind .rejectIf fun _ => trivial

theorem attachPublicOutbox_quiet : (attachPublicOutbox env config next now).Only Quiet := by
  unfold attachPublicOutbox
  refine .bind .rejectIf fun _ => .bind .ofExcept fun _ => .bind (ask_quiet trivial) fun _ => ?_
  exact .bind .ofExcept fun _ => .bind .ofExcept fun _ => .bind .rejectIf fun _ => trivial

theorem afterOpenCommit_quiet {text reloadText : String} {outcome : Except Error Unit} :
    (afterOpenCommit next text reloadText outcome).Only Quiet := by
  cases outcome with
  | ok => trivial
  | error => exact .bind .rejectIf fun _ => .bind loadDurable_quiet fun _ => trivial

theorem bindIdentity_quiet {snapshot : Snapshot} : (bindIdentity config snapshot).Only Quiet := by
  unfold bindIdentity
  split
  · exact .bind (ask_quiet trivial) fun _ => afterOpenCommit_quiet
  · exact .bind .rejectIf fun _ => trivial

theorem burnInterrupted_quiet {snapshot : Snapshot} :
    (burnInterrupted env config snapshot).Only Quiet := by
  unfold burnInterrupted
  split
  · trivial
  · refine .bind (ask_quiet trivial) fun _ => .bind .rejectIf fun _ => ?_
    refine .bind (.mapError attachPublicOutbox_quiet) fun _ => ?_
    exact .bind (ask_quiet trivial) fun _ => afterOpenCommit_quiet

theorem caPublicKey_quiet : (caPublicKey env config).Only Quiet := by
  unfold caPublicKey
  refine .bind .rejectIf fun _ => .bind (ask_quiet trivial) fun _ => ?_
  exact .bind .ofExcept fun _ => .bind .rejectIf fun _ => .ofExcept

theorem issueAndParse_quiet {request : KeyManager.CertificateRequest}
    {issueText parseText : String} :
    (issueAndParse env request issueText parseText).Only Quiet := by
  unfold issueAndParse
  refine .bind (ask_quiet trivial) fun _ => ?_
  exact .bind .ofExcept fun _ => .bind .ofExcept fun _ => trivial

variable {notBefore notAfter : Time} {serial : Int}

theorem issueLocalCA_quiet : (issueLocalCA env config serial notBefore notAfter).Only Quiet := by
  unfold issueLocalCA
  refine .bind caPublicKey_quiet fun _ => .bind issueAndParse_quiet fun _ => ?_
  exact .bind .ofExcept fun _ => trivial

theorem issueMTLSLeaf_quiet {parent : Certificate} {key : PublicKey} :
    (issueMTLSLeaf env config parent serial key notBefore notAfter).Only Quiet := by
  unfold issueMTLSLeaf
  refine .bind .ofExcept fun _ => .bind issueAndParse_quiet fun _ => ?_
  exact .bind .ofExcept fun _ => trivial

theorem issueCrossCertificate_quiet {parent remote : Certificate} :
    (issueCrossCertificate env parent remote serial notBefore notAfter).Only Quiet := by
  unfold issueCrossCertificate
  refine .bind issueAndParse_quiet fun _ => ?_
  exact .bind .ofExcept fun _ => trivial

end Quiet

theorem stays_currentState (free : ¬ held .mu) : Stays env caller held (currentState ctx) := by
  unfold currentState
  refine .bind .rejectIf fun _ => .bind (.only checkContext_quiet) fun _ => ?_
  refine .bind (.only (ask_quiet trivial)) fun _ => .bind .rejectIf fun _ => ?_
  refine .withLock free (.bind (.only (ask_quiet trivial)) fun _ => ?_)
  exact .bind .rejectIf fun _ => .ret

variable {state : ConnectionState}

theorem stays_authorizedInput (free : ¬ held .mu) :
    Stays env caller held (authorizedInput env ctx state) := by
  unfold authorizedInput
  exact .bind (stays_currentState free) fun _ => .bind .ofExcept fun _ => .ret

theorem guards_reload (inside : held .mu) (opened : memory.opened = true) :
    Guards env caller (HoldsCopy caller held memory)
      (reloadSnapshotLocked env config memory) fun _ _ => True := by
  have stable : ∀ before after, Forward caller before after →
      HoldsCopy caller held memory before → HoldsCopy caller held memory after :=
    fun _ _ forward known => known.forward inside forward
  unfold reloadSnapshotLocked
  refine .sequence (guards_only stable loadDurable_quiet) fun reloaded => ?_
  refine .sequence (guards_only stable .ofExcept) fun _ => ?_
  cases test : (reloaded.revision == 0 || reloaded.identity != config.identity ||
      decide (reloaded.revision < memory.snapshot.revision)) with
  | true => exact .fail
  | false =>
    simp only [Bool.or_eq_false_iff, decide_eq_false_iff_not, UInt64.not_lt] at test
    have written : Guards env caller (HoldsCopy caller held memory)
        (ask (.writeMemory ⟨true, reloaded⟩)) fun _ _ => True :=
      guards_writeMemory inside (fun closed => by simp [opened] at closed) test.2
    rw [← opened] at written
    exact written

theorem guards_commit {label : CommitLabel} {expectedRevision : UInt64} (inside : held .mu) :
    Guards env caller (HoldsCopy caller held memory)
      (ask (.commit label expectedRevision next)) fun reply world =>
        HoldsCopy caller held memory world ∧
          (reply = .ok () → expectedRevision ≤ next.revision) := by
  intro _ _ known current pristine relied _ after answered
  have here := known.forward inside relied
  have forward : ∀ other, Forward other current after := fun _ =>
    let ⟨memory, owner⟩ :=
      (show Quiet (.commit label expectedRevision next) from trivial).unchanged answered
    .of_eq memory owner
  have pristineAfter : Pristine after := by
    rcases answered with ⟨_, rfl⟩ | ⟨_, rfl⟩ <;> exact pristine
  refine ⟨pristineAfter, fun other _ => forward other, pristineAfter,
    trans_of (Balanced caller) relied.owner (forward caller).owner, ?_⟩
  rintro _ ⟨⟩
  refine ⟨here.forward inside (forward caller), fun succeeded => ?_⟩
  rcases answered with ⟨failed, _⟩ | ⟨accepted, _⟩
  · exact absurd succeeded failed
  · rw [UInt64.le_iff_toNat_le, accepted.advances, toNat_succ accepted.room]
    omega

theorem stays_commitCandidate {label : CommitLabel} {expectedRevision : UInt64} (free : ¬ held .mu)
    : Stays env caller held (commitCandidate env config label expectedRevision next) := by
  unfold commitCandidate
  refine .withLock free ?_
  have inside : taking held .mu .mu := .inl rfl
  refine .sequence guards_readMemory fun memory => ?_
  refine .strengthen (fun _ known => known.1) ?_
  cases opened : memory.opened with
  | false => exact .fail
  | true =>
    have reloads : ∀ {rest : Except Error Unit → Error},
        Guards env caller (HoldsCopy caller (taking held .mu) memory)
          ((reloadSnapshotLocked env config memory).attempt >>= fun reloaded =>
            (.fail (rest reloaded) : Operating Unit)) fun _ _ => True := by
      intro rest
      refine .sequence (.weaken (fun _ _ _ => trivial)
        (.attempt (guards_reload inside opened))) fun reloaded => ?_
      exact .fail
    change Guards env caller (HoldsCopy caller (taking held .mu) memory)
      (if memory.snapshot.revision != expectedRevision then _ else _) fun _ _ => True
    split
    · exact reloads
    · next same =>
        have current : memory.snapshot.revision = expectedRevision := by simpa using same
        refine .sequence (guards_commit inside) fun reply => ?_
        cases reply with
        | error => exact .strengthen (fun _ known => known.1) reloads
        | ok =>
          refine .strengthen (fun _ known => ⟨known.1, known.2 rfl⟩) (.assume fun advances => ?_)
          have written : Guards env caller (HoldsCopy caller (taking held .mu) memory)
              (ask (.writeMemory ⟨true, next⟩)) fun _ _ => True :=
            guards_writeMemory inside (fun closed => by simp [opened] at closed)
              (current ▸ advances)
          exact written

theorem guards_openAttempts (free : ¬ held .mu) (inside : held .openMu)
    (closed : memory.opened = false) (empty : memory.snapshot = emptySnapshot) (attempts : Nat)
    (snapshot : Snapshot) :
    Guards env caller (HoldsCopy caller held memory)
      (openAttempts env config ctx attempts snapshot) fun _ _ => True := by
  have stable : ∀ before after, Forward caller before after →
      HoldsCopy caller held memory before → HoldsCopy caller held memory after :=
    fun _ _ forward known => known.forward_of_closed inside closed forward
  induction attempts generalizing snapshot with
  | zero => exact .fail
  | succ _ ih =>
    refine .sequence (guards_only stable checkContext_quiet) fun _ => ?_
    refine .sequence (guards_only stable .ofExcept) fun _ => ?_
    refine .sequence (guards_only stable bindIdentity_quiet) fun bound => ?_
    cases bound with
    | retry reloaded => exact ih reloaded
    | proceed document =>
      refine .sequence (guards_only stable burnInterrupted_quiet) fun recovered => ?_
      cases recovered with
      | retry reloaded => exact ih reloaded
      | proceed document =>
        have written : Guards env caller (HoldsCopy caller (taking held .mu) memory)
            (ask (.writeMemory ⟨true, document⟩)) fun _ _ => True := by
          refine guards_writeMemory (.inl rfl) (fun _ => .inr inside) ?_
          rw [empty]
          exact UInt64.zero_le
        refine guards_withLock free (fun _ known => known.1) stable ?_ written
          fun _ _ _ _ _ _ _ _ _ => trivial
        intro _ _ known same taken
        exact ⟨taken, by rw [same]; exact known.2⟩

theorem stays_openService : Stays env caller noMutex (openService env config ctx) := by
  unfold openService
  refine .bind .rejectIf fun _ => .bind (.only checkContext_quiet) fun _ => ?_
  refine .withLock id ?_
  have free : ¬ taking noMutex .openMu .mu := by simp [taking, noMutex]
  have inside : taking noMutex .openMu .openMu := .inl rfl
  have read : Guards env caller (Holds caller (taking noMutex .openMu))
      (withLock .mu (ask .readMemory)) fun memory world =>
        HoldsCopy caller (taking noMutex .openMu) memory world ∧
          (memory.opened = false → memory.snapshot = emptySnapshot) := by
    refine guards_withLock free (fun _ known => known)
      (fun _ _ forward known => Holds.lasting _ _ forward.owner known)
      (fun _ _ _ _ taken => taken) guards_readMemory ?_
    intro memory _ _ _ known _ forward same holds
    refine ⟨⟨holds, ?_⟩, known.2⟩
    rw [same]
    exact (known.1.forward (.inl rfl) forward).2
  refine .sequence read fun memory => .assume fun empty => ?_
  cases closed : memory.opened with
  | true => exact .ret fun _ _ _ => trivial
  | false =>
    refine .sequence (guards_only
      (fun _ _ forward known => known.forward_of_closed inside closed forward)
      loadDurable_quiet) fun snapshot => ?_
    exact guards_openAttempts free inside closed (empty closed) 8 snapshot

theorem stays_adoptDevice {targetPeerID : String} :
    Stays env caller noMutex (adoptDevice env config ctx state targetPeerID) := by
  unfold adoptDevice
  refine .bind (stays_authorizedInput id) fun _ => .bind .rejectIf fun _ => ?_
  refine .bind (.only callPolicy_quiet) fun _ => .bind .ofExcept fun _ => ?_
  refine .bind (.only attachPublicOutbox_quiet) fun _ => ?_
  exact .bind (stays_commitCandidate id) fun _ => .ret

theorem stays_revokeTrust {relationshipID : String} :
    Stays env caller noMutex (revokeTrust env config ctx state relationshipID) := by
  unfold revokeTrust
  refine .bind (stays_authorizedInput id) fun _ => .bind .rejectIf fun _ => ?_
  refine .bind .ofExcept fun _ => ?_
  split
  · exact .fail
  · refine .bind .rejectIf fun _ => .bind (.only callPolicy_quiet) fun _ => ?_
    exact .bind (.only attachPublicOutbox_quiet) fun _ => stays_commitCandidate id

variable {id : String}

theorem stays_revokeCertificate :
    Stays env caller noMutex (revokeCertificate env config ctx state id) := by
  unfold revokeCertificate
  refine .bind (stays_authorizedInput (fun held => held)) fun _ => .bind .ofExcept fun _ => ?_
  split
  · exact .fail
  · refine .bind .rejectIf fun _ => .bind (.only callPolicy_quiet) fun _ => ?_
    exact .bind (.only attachPublicOutbox_quiet) fun _ => stays_commitCandidate fun held => held

theorem stays_reserveCertificate {grant : AuthorizationGrant} {operation : Operation}
    {relationshipID remoteTrustDomain spiffeID : String} {key : Bytes} (free : ¬ held .mu) :
    Stays env caller held (reserveCertificate env config current grant operation
      relationshipID remoteTrustDomain spiffeID key now) := by
  unfold reserveCertificate
  exact .bind .rejectIf fun _ => .bind (stays_commitCandidate free) fun _ => .ret

theorem stays_finalizePending {apply : Snapshot → Time → Except Error (Snapshot × β)}
    (free : ¬ held .mu) (attempts : Nat) :
    Stays env caller held (finalizePending env config ctx id apply attempts) := by
  have attempted : Stays env caller held (finalizeAttempt env config ctx id apply) := by
    unfold finalizeAttempt
    refine .bind (stays_currentState free) fun _ => .bind .rejectIf fun _ => ?_
    refine .bind .ofExcept fun _ => .bind (.only attachPublicOutbox_quiet) fun _ => ?_
    exact .bind (.attempt (stays_commitCandidate free)) fun _ => .ret
  induction attempts with
  | zero => exact .fail
  | succ _ ih =>
    refine .bind attempted fun outcome => ?_
    cases outcome with
    | ok => exact .ret
    | error => exact .bind .rejectIf fun _ => ih

theorem stays_burnPending {error : Error} (free : ¬ held .mu) (attempts : Nat) :
    Stays env caller held (burnPending env config ctx id error attempts : Operating α) := by
  induction attempts with
  | zero => exact .fail
  | succ _ ih =>
    refine .bind (.mapError (stays_currentState free)) fun ⟨current, now⟩ => ?_
    dsimp only
    split
    · exact .fail
    · refine .bind (.mapError (Stays.only attachPublicOutbox_quiet)) fun _ => ?_
      refine .bind (.attempt (stays_commitCandidate free)) fun outcome => ?_
      cases outcome with
      | ok => exact .fail
      | error => exact .bind .rejectIf fun _ => ih

theorem stays_reserveThenIssue {grant : AuthorizationGrant} {operation : Operation}
    {relationshipID remoteTrustDomain spiffeID : String} {key : Bytes}
    {issue : PendingCertificate → Operating α}
    {apply : PendingCertificate → α → Snapshot → Time → Except Error (Snapshot × β)}
    (free : ¬ held .mu) (issued : ∀ pending, (issue pending).Only Quiet) :
    Stays env caller held
      (reserveCertificate env config current grant operation relationshipID
          remoteTrustDomain spiffeID key now >>= fun pending =>
        issueReserved env config ctx pending (issue pending) (apply pending)) := by
  refine .bind (stays_reserveCertificate free) fun pending => ?_
  unfold issueReserved
  refine .bind (.attempt (.only (issued pending))) fun outcome => ?_
  cases outcome with
  | error => exact stays_burnPending free bookkeepingAttempts
  | ok =>
    refine .bind (.attempt (stays_finalizePending free bookkeepingAttempts)) fun outcome => ?_
    cases outcome with
    | ok => exact .ret
    | error => exact stays_burnPending free bookkeepingAttempts

theorem issuing_free : ¬ taking noMutex .issueMu .mu := by
  simp [taking, noMutex]

theorem stays_initializeLocalCA : Stays env caller noMutex (initializeLocalCA env config ctx) := by
  unfold initializeLocalCA
  refine .withLock id (.bind (stays_currentState issuing_free) fun _ => ?_)
  refine .bind .rejectIf fun _ => .bind .rejectIf fun _ => ?_
  refine .bind (.only callPolicy_quiet) fun _ => .bind .ofExcept fun _ => ?_
  refine .bind (.only caPublicKey_quiet) fun _ => .bind .ofExcept fun _ => ?_
  exact stays_reserveThenIssue issuing_free fun _ => issueLocalCA_quiet

theorem stays_issueLocalMTLSCertificate :
    Stays env caller noMutex (issueLocalMTLSCertificate env config ctx) := by
  unfold issueLocalMTLSCertificate
  refine .withLock id (.bind (stays_currentState issuing_free) fun _ => ?_)
  refine .bind .rejectIf fun _ => .bind .rejectIf fun _ => .bind .rejectIf fun _ => ?_
  refine .bind (.only callPolicy_quiet) fun _ => .bind .ofExcept fun _ => ?_
  refine .bind (.only (ask_quiet trivial)) fun _ => .bind .ofExcept fun _ => ?_
  refine .bind .rejectIf fun _ => .bind .ofExcept fun _ => .bind .ofExcept fun _ => ?_
  refine .bind .ofExcept fun _ => ?_
  exact stays_reserveThenIssue issuing_free fun _ => issueMTLSLeaf_quiet

theorem stays_federate {remoteTrustDomain : String} :
    Stays env caller noMutex (federate env config ctx state remoteTrustDomain) := by
  unfold federate
  refine .withLock id (.bind .ofExcept fun _ => .bind .rejectIf fun _ => ?_)
  refine .bind (stays_authorizedInput issuing_free) fun _ => .bind .ofExcept fun _ => ?_
  refine .bind .rejectIf fun _ => .bind .rejectIf fun _ => .bind .rejectIf fun _ => ?_
  refine .bind (.only callPolicy_quiet) fun _ => .bind .rejectIf fun _ => ?_
  refine .bind .ofExcept fun _ => .bind .rejectIf fun _ => ?_
  refine .bind (.only (ask_quiet trivial)) fun _ => .bind .ofExcept fun _ => ?_
  refine .bind .ofExcept fun _ => .bind .ofExcept fun _ => .bind .ofExcept fun _ => ?_
  exact stays_reserveThenIssue issuing_free fun _ => issueCrossCertificate_quiet

theorem stays_drainItems (free : ¬ held .mu) (items : Nat) :
    Stays env caller held (drainItems env config ctx items) := by
  induction items with
  | zero => exact .fail
  | succ _ ih =>
    refine .bind (stays_currentState free) fun ⟨current, now⟩ => ?_
    dsimp only
    split
    · exact .ret
    · refine .bind (.only (ask_quiet trivial)) fun _ => .bind .ofExcept fun _ => ?_
      refine .bind .ofExcept fun _ => .bind (.only (ask_quiet trivial)) fun _ => ?_
      exact .bind (stays_commitCandidate free) fun _ => ih

theorem stays_drainOutbox {items : Nat} :
    Stays env caller noMutex (drainOutbox env config ctx items) := by
  unfold drainOutbox
  refine .bind .rejectIf fun _ => .bind .rejectIf fun _ => .withLock id ?_
  exact stays_drainItems (by simp [taking, noMutex]) items

theorem offered_stays {program : Operating Unit} (offered : Offered env config program) :
    Stays env caller noMutex program := by
  cases offered with
  | openService => exact stays_openService
  | adoptDevice => exact .bind stays_adoptDevice fun _ => .ret
  | revokeTrust => exact stays_revokeTrust
  | initializeLocalCA => exact .bind stays_initializeLocalCA fun _ => .ret
  | issueLocalMTLSCertificate => exact .bind stays_issueLocalMTLSCertificate fun _ => .ret
  | federate => exact .bind stays_federate fun _ => .ret
  | revokeCertificate => exact stays_revokeCertificate
  | drainOutbox => exact stays_drainOutbox

end Operations

section System

variable {env : Platform} {configs : Nat → ServiceConfig}

def memoryDiscipline : Discipline World Caller where
  valid := Pristine
  rely := Forward
  fresh caller := Holds caller noMutex

theorem memoryDiscipline_kept (env : Platform) (configs : Nat → ServiceConfig) :
    memoryDiscipline.Kept (rules env configs) where
  refl caller world := refl_of (Forward caller) world
  trans caller _ _ _ first second := trans_of (Forward caller) first second
  freshStable _ _ _ forward known := Holds.lasting _ _ forward.owner known
  offeredSafe _ _ _ offered pristine fresh := (offered_stays offered).safe pristine fresh
  crashValid _ _ _ pristine crashed := by
    rw [crashed.1]
    exact pristine
  crashRely _ before _ caller crashed _ := by
    rw [crashed.1]
    exact refl_of (Forward caller) before

theorem Reachable.guarded {state : SystemState signature World Caller Error Unit}
    (reachable : Reachable env configs state) :
    memoryDiscipline.Holds (rules env configs) state := by
  refine Discipline.Holds.reachable (memoryDiscipline_kept env configs) ?_ ?_ reachable
  · intro _ _
    rfl
  · intro _ _
    simp [initialWorld, noMutex]

theorem exists_other (caller : Caller) : ∃ other, other ≠ caller := by
  refine ⟨⟨caller.service, caller.thread + 1⟩, fun same => ?_⟩
  simpa using congrArg Caller.thread same

theorem memory_forward {state next : SystemState signature World Caller Error Unit}
    (guarded : memoryDiscipline.Holds (rules env configs) state)
    (step : (rules env configs).Step state next) (service : Nat) :
    (state.world.memory service).snapshot.revision ≤
      (next.world.memory service).snapshot.revision := by
  rcases guarded.step_relied (memoryDiscipline_kept env configs) step with
    ⟨caller, relied⟩ | ⟨stopped, crashed⟩
  · -- an operation under another name relies on the copies going forward
    obtain ⟨other, different⟩ := exists_other caller
    exact (relied other different).revision service
  · rw [crashed.1]
    exact UInt64.le_refl _

theorem log_grows {state next : SystemState signature World Caller Error Unit}
    (step : (rules env configs).Step state next) : state.world.log <:+ next.world.log := by
  cases step with
  | start => exact List.suffix_refl _
  | reply _ _ _ _ _ _ answered => exact (answer_frame answered).1
  | crash _ _ crashed => rw [crashed.1]

def durableAt (log : List Commit) (revision : Nat) : Snapshot :=
  durable (log.drop (log.length - revision))

theorem durableAt_length {older log : List Commit} (earlier : older <:+ log) :
    durableAt log older.length = durable older :=
  congrArg durable (List.suffix_iff_eq_drop.mp earlier).symm

theorem InHistory.eq_durableAt {log : List Commit} {document : Snapshot}
    (recorded : Recorded env log) (known : InHistory log document) :
    document.revision.toNat ≤ log.length ∧ document = durableAt log document.revision.toNat := by
  obtain ⟨_, earlier, rfl⟩ := known
  rw [(recorded.suffix earlier).revision]
  exact ⟨earlier.length_le, (durableAt_length earlier).symm⟩

theorem Recorded.transitionAt {log : List Commit} (recorded : Recorded env log)
    {revision : Nat} (below : revision < log.length) :
    ∃ commit ∈ log, commit.next = durableAt log (revision + 1) ∧
      commit.next.revision.toNat = revision + 1 ∧
      Transition env commit.label (durableAt log revision) commit.next := by
  have earlier : log.drop (log.length - (revision + 1)) <:+ log := List.drop_suffix _ _
  have length : (log.drop (log.length - (revision + 1))).length = revision + 1 := by
    rw [List.length_drop]
    omega
  have newest := durableAt_length earlier
  rw [length] at newest
  have recordedThere := recorded.suffix earlier
  cases shape : log.drop (log.length - (revision + 1)) with
  | nil =>
    rw [shape] at length
    cases length
  | cons commit older =>
    rw [shape] at earlier recordedThere newest length
    have olderLength : older.length = revision := by simpa using length
    have before := durableAt_length ((List.suffix_cons commit older).trans earlier)
    rw [olderLength] at before
    cases recordedThere with
    | cons _ recordedOlder accepted transition =>
      refine ⟨commit, earlier.subset List.mem_cons_self, newest.symm, ?_, before ▸ transition⟩
      rw [accepted.advances, toNat_succ accepted.room, recordedOlder.revision, olderLength]

/-- No update is lost.  The durable documents of a run only grow in number;
each is made by one transition from the one before it; and the copy of each
instance is the durable document of its revision, which never goes back. -/
theorem updates_never_lost {earlier later : SystemState signature World Caller Error Unit}
    (reachable : Reachable env configs earlier)
    (continued : Relation.ReflTransGen (rules env configs).Step earlier later) :
    earlier.world.log <:+ later.world.log ∧
      (∀ revision < later.world.log.length,
        ∃ commit ∈ later.world.log, commit.next = durableAt later.world.log (revision + 1) ∧
          commit.next.revision.toNat = revision + 1 ∧
          Transition env commit.label (durableAt later.world.log revision) commit.next) ∧
      ∀ service,
        (later.world.memory service).snapshot =
            durableAt later.world.log (later.world.memory service).snapshot.revision.toNat ∧
          (earlier.world.memory service).snapshot.revision ≤
            (later.world.memory service).snapshot.revision := by
  have reachableLater : Reachable env configs later := reachable.trans continued
  have recorded := reachableLater.sound.recorded
  have known : ∀ service, InHistory later.world.log (later.world.memory service).snapshot := by
    intro service
    cases opened : (later.world.memory service).opened with
    | true => exact reachableLater.sound.memory service opened
    | false =>
      rw [reachableLater.guarded.world service opened]
      exact ⟨[], List.nil_suffix, rfl⟩
  refine ⟨?_, fun revision below => recorded.transitionAt below, fun service =>
    ⟨((known service).eq_durableAt recorded).2, ?_⟩⟩
  · clear known recorded reachableLater
    induction continued with
    | refl => exact List.suffix_refl _
    | tail _ step ih =>
      exact ih.trans (log_grows step)
  · clear known recorded reachableLater
    induction continued with
    | refl => exact UInt64.le_refl _
    | tail before step ih =>
      exact UInt64.le_trans ih
        (memory_forward (Reachable.guarded (reachable.trans before)) step service)

/-- A run with five durable documents. -/
theorem sampleRun_updates_never_lost : ∃ state,
    Reachable (samplePlatform sampleInputs) (fun _ => sampleConfig) state ∧
      state.world.log.length = 5 ∧
      ∀ service, (state.world.memory service).snapshot =
        durableAt state.world.log (state.world.memory service).snapshot.revision.toNat := by
  obtain ⟨state, reachable, equal⟩ := sampleWorld_reachable
  have kept := updates_never_lost .refl reachable
  refine ⟨state, reachable, ?_, fun service => (kept.2.2 service).1⟩
  rw [equal]
  exact sampleWorld_facts.1

end System

end Sovereignite.Trust
