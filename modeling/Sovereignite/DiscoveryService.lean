import Sovereignite.ErrorValues

/-!
# Discovery registrations

The discovery service registers with two broadcasters, mDNS first and BLE
second, and removes both registrations when it stops.  A ledger keeps what the
broadcasters returned and how each stop of a registration ended.  Calls are
serialised by a lock; within a call the state is starting or stopping.
-/

namespace Sovereignite.Discovery

open Effect

inductive Sentinel where
  | alreadyRunning
  deriving DecidableEq

abbrev Error := ErrorValue Sentinel

inductive State where
  | stopped
  | starting
  | running
  | stopping
  deriving DecidableEq

inductive Broadcaster where
  | mdns
  | ble
  deriving DecidableEq

/-- A registration, numbered by the length of the ledger when it was returned. -/
structure Registration where
  broadcaster : Broadcaster
  number : Nat
  deriving DecidableEq

inductive Event where
  | returned (registration : Registration) (error : Option Error)
  | stopped (registration : Registration) (error : Option Error)
  deriving DecidableEq

structure Service where
  state : State := .stopped
  mdnsHandle : Option Registration := none
  bleHandle : Option Registration := none
  ledger : List Event := []

/-- What a broadcaster returns: perhaps a registration and perhaps an error. -/
structure Started where
  registered : Bool
  error : Option Error

/-- What a start meets: whether it has a context, the errors of the context at
each check, the outcomes of the broadcasters and of the stops of a rollback. -/
structure StartAnswers where
  hasContext : Bool
  canceled : Option Error
  canceledLocked : Option Error
  encoded : Option Error
  mdns : Started
  canceledMDNS : Option Error
  ble : Started
  canceledBLE : Option Error
  stopBLE : Option Error
  stopMDNS : Option Error

structure StopAnswers where
  hasContext : Bool
  stopBLE : Option Error
  stopMDNS : Option Error

namespace Service

def setState (service : Service) (state : State) : Service :=
  { service with state }

def record (service : Service) (event : Event) : Service :=
  { service with ledger := event :: service.ledger }

def nextRegistration (service : Service) (broadcaster : Broadcaster) : Registration :=
  ⟨broadcaster, service.ledger.length⟩

/-- Call a broadcaster.  A registration counts also when an error comes with it. -/
def broadcast (service : Service) (broadcaster : Broadcaster) (started : Started) : Service :=
  if started.registered then
    service.record (.returned (service.nextRegistration broadcaster) started.error)
  else
    service

def joinErrors (errors : List (Option Error)) : Option Error :=
  (errors.filterMap id).foldr (fun error rest => some (ErrorValue.joinOption error rest)) none

def wrapError (operation : String) (error : Option Error) : Option Error :=
  error.map (.wrap operation)

def startBLE (answers : StartAnswers) (mdnsHandle : Registration) (service : Service) :
    Service × Option Error :=
  let stopMDNS (service : Service) := service.record (.stopped mdnsHandle answers.stopMDNS)
  let bleHandle := service.nextRegistration .ble
  let service := service.broadcast .ble answers.ble
  let partialError := wrapError "stop partial mDNS broadcast" answers.stopMDNS
  match answers.ble.error with
  | some error =>
    ((stopMDNS service).setState .stopped,
      joinErrors [some (.wrap "start BLE broadcast" error), partialError])
  | none =>
    if !answers.ble.registered then
      ((stopMDNS service).setState .stopped,
        joinErrors [some (.message
          "start BLE broadcast: broadcaster returned no registration"), partialError])
    else
      match answers.canceledBLE with
      | some error =>
        ((stopMDNS (service.record (.stopped bleHandle answers.stopBLE))).setState .stopped,
          joinErrors [some error, wrapError "stop canceled BLE broadcast" answers.stopBLE,
            wrapError "stop canceled mDNS broadcast" answers.stopMDNS])
      | none =>
        ({ service with
            mdnsHandle := some mdnsHandle
            bleHandle := some bleHandle
            state := .running }, none)

def startMDNS (answers : StartAnswers) (service : Service) : Service × Option Error :=
  match answers.encoded with
  | some error => (service.setState .stopped, some (.wrap "encode discovery record" error))
  | none =>
    let mdnsHandle := service.nextRegistration .mdns
    let service := service.broadcast .mdns answers.mdns
    match answers.mdns.error with
    | some error => (service.setState .stopped, some (.wrap "start mDNS broadcast" error))
    | none =>
      if !answers.mdns.registered then
        (service.setState .stopped,
          some (.message "start mDNS broadcast: broadcaster returned no registration"))
      else
        match answers.canceledMDNS with
        | some error =>
          ((service.record (.stopped mdnsHandle answers.stopMDNS)).setState .stopped,
            joinErrors [some error, wrapError "stop canceled mDNS broadcast" answers.stopMDNS])
        | none => startBLE answers mdnsHandle service

/-- Register with both broadcasters and roll a partial start back. -/
def start (answers : StartAnswers) (service : Service) : Service × Option Error :=
  if !answers.hasContext then
    (service, some (.message "discovery start context is required"))
  else if let some error := answers.canceled then (service, some error)
  else if let some error := answers.canceledLocked then (service, some error)
  else if service.state != .stopped then (service, some (.sentinel .alreadyRunning))
  else startMDNS answers (service.setState .starting)

def stopHandle (handle : Option Registration) (answer : Option Error) (service : Service) :
    Service :=
  match handle with
  | none => service
  | some registration => service.record (.stopped registration answer)

def stop (answers : StopAnswers) (service : Service) : Service × Option Error :=
  if !answers.hasContext then
    (service, some (.message "discovery stop context is required"))
  else if service.state == .stopped then (service, none)
  else
    let stopping := service.setState .stopping
    let stopped := stopHandle service.mdnsHandle answers.stopMDNS
      (stopHandle service.bleHandle answers.stopBLE stopping)
    ({ stopped with bleHandle := none, mdnsHandle := none, state := .stopped },
      joinErrors [service.bleHandle.bind fun _ =>
          wrapError "stop BLE broadcast" answers.stopBLE,
        service.mdnsHandle.bind fun _ =>
          wrapError "stop mDNS broadcast" answers.stopMDNS])

end Service

inductive Call where
  | start (answers : StartAnswers)
  | stop (answers : StopAnswers)

def Service.call (service : Service) : Call → Service
  | .start answers => (service.start answers).1
  | .stop answers => (service.stop answers).1

def run (service : Service) (calls : List Call) : Service :=
  calls.foldl Service.call service

/-- The services a run passes through, the one it starts from included. -/
def passed (service : Service) (calls : List Call) : List Service :=
  calls.scanl Service.call service

/-- A registration was returned and none of its stops succeeded. -/
def Live (ledger : List Event) (registration : Registration) : Prop :=
  (∃ error, .returned registration error ∈ ledger) ∧ .stopped registration none ∉ ledger

/-- The state tells which registrations are left. -/
structure Matches (service : Service) : Prop where
  stopped : service.state = .stopped → ∀ registration, ¬ Live service.ledger registration
  running : service.state = .running ↔ ∃ mdns ble,
    service.mdnsHandle = some mdns ∧ mdns.broadcaster = .mdns ∧ Live service.ledger mdns ∧
      service.bleHandle = some ble ∧ ble.broadcaster = .ble ∧ Live service.ledger ble

def Event.error : Event → Option Error
  | .returned _ error => error
  | .stopped _ error => error

def Event.registration : Event → Registration
  | .returned registration _ => registration
  | .stopped registration _ => registration

/-- Every stop succeeded and no registration came with an error. -/
def Faultless (ledger : List Event) : Prop :=
  ∀ event ∈ ledger, event.error = none

section Ledger

variable {ledger : List Event} {registration other : Registration} {error : Option Error}

/-- The registrations of a ledger are numbered by positions in it. -/
def Numbered (ledger : List Event) : Prop :=
  ∀ event ∈ ledger, event.registration.number < ledger.length

theorem live_returned (fresh : .stopped registration none ∉ ledger) :
    Live (.returned registration error :: ledger) other ↔
      other = registration ∨ Live ledger other := by
  simp only [Live, List.mem_cons, Event.returned.injEq, reduceCtorEq, false_or]
  grind

theorem live_stopped :
    Live (.stopped registration error :: ledger) other ↔
      Live ledger other ∧ (error = none → other ≠ registration) := by
  simp only [Live, List.mem_cons, Event.stopped.injEq, reduceCtorEq, false_or]
  grind

theorem Numbered.fresh (numbered : Numbered ledger) (broadcaster : Broadcaster) :
    .stopped ⟨broadcaster, ledger.length⟩ none ∉ ledger := by
  intro member
  exact absurd (numbered _ member) (Nat.lt_irrefl _)

theorem Numbered.cons {event : Event} (numbered : Numbered ledger)
    (bound : event.registration.number ≤ ledger.length) : Numbered (event :: ledger) := by
  simp only [Numbered, List.forall_mem_cons, List.length_cons]
  exact ⟨Nat.lt_succ_of_le bound, fun event member => Nat.lt_succ_of_lt (numbered event member)⟩

end Ledger

/-- Between the calls of a faultless run: nothing is left, or the two
registrations that the service holds. -/
structure Settled (service : Service) : Prop where
  numbered : Numbered service.ledger
  left : (service.state = .stopped ∧ ∀ registration, ¬ Live service.ledger registration) ∨
    service.state = .running ∧ ∃ mdns ble, service.mdnsHandle = some mdns ∧
      service.bleHandle = some ble ∧ mdns.broadcaster = .mdns ∧ ble.broadcaster = .ble ∧
      ∀ registration, Live service.ledger registration ↔ registration = mdns ∨ registration = ble

/-- A fault was recorded and a registration is left behind. -/
structure Leaked (service : Service) : Prop where
  faulty : ¬ Faultless service.ledger
  state : service.state = .stopped
  live : ∃ registration, Live service.ledger registration

/-- A call settles again and adds no fault, or it leaks. -/
def Outcome (before : List Event) (service : Service) : Prop :=
  Settled service ∧ (Faultless before → Faultless service.ledger) ∨ Leaked service

theorem Faultless.cons {ledger : List Event} {event : Event} :
    Faultless (event :: ledger) ↔ event.error = none ∧ Faultless ledger :=
  List.forall_mem_cons

section Outcomes

variable {service after : Service} {event : Event} {ledger : List Event} {mdns ble : Registration}
  {stopMDNS stopBLE : Option Error}

theorem Outcome.of_cons (sound : event.error = none) (outcome : Outcome (event :: ledger) after) :
    Outcome ledger after :=
  outcome.imp_left fun settled =>
    ⟨settled.1, fun faultless => settled.2 (Faultless.cons.mpr ⟨sound, faultless⟩)⟩

theorem outcome_stop_one (numbered : Numbered ledger) (bound : mdns.number < ledger.length)
    (only : ∀ registration, Live ledger registration ↔ registration = mdns)
    (recorded : after.ledger = .stopped mdns stopMDNS :: ledger)
    (state : after.state = .stopped) : Outcome ledger after := by
  cases stopMDNS with
  | none =>
    refine .inl ⟨⟨?_, .inl ⟨state, ?_⟩⟩, ?_⟩
    · rw [recorded]
      exact numbered.cons (Nat.le_of_lt bound)
    · intro registration
      rw [recorded, live_stopped, only]
      simp
    · intro faultless
      rw [recorded, Faultless.cons]
      exact ⟨rfl, faultless⟩
  | some =>
    refine .inr ⟨?_, state, mdns, ?_⟩
    · rw [recorded, Faultless.cons]
      rintro ⟨failed, _⟩
      cases failed
    · rw [recorded, live_stopped, only]
      simp

theorem outcome_stop_both (numbered : Numbered ledger) (apart : mdns ≠ ble)
    (mdnsBound : mdns.number < ledger.length) (bleBound : ble.number < ledger.length)
    (only : ∀ registration, Live ledger registration ↔ registration = mdns ∨ registration = ble)
    (recorded : after.ledger = .stopped mdns stopMDNS :: .stopped ble stopBLE :: ledger)
    (state : after.state = .stopped) : Outcome ledger after := by
  cases stopBLE with
  | none =>
    have renumbered : Numbered (.stopped ble none :: ledger) :=
      numbered.cons (Nat.le_of_lt bleBound)
    refine .of_cons rfl (outcome_stop_one renumbered (Nat.lt_succ_of_lt mdnsBound) ?_ recorded
      state)
    intro registration
    rw [live_stopped, only]
    grind
  | some =>
    refine .inr ⟨?_, state, ble, ?_⟩
    · rw [recorded, Faultless.cons, Faultless.cons]
      rintro ⟨_, failed, _⟩
      cases failed
    · rw [recorded, live_stopped, live_stopped, only]
      simp [apart.symm]

theorem startBLE_outcome (answers : StartAnswers) (numbered : Numbered service.ledger)
    (named : mdns.broadcaster = .mdns) (bound : mdns.number < service.ledger.length)
    (only : ∀ registration, Live service.ledger registration ↔ registration = mdns) :
    Outcome service.ledger (service.startBLE answers mdns).1 := by
  have returned : ∀ error other, Live (.returned ⟨.ble, service.ledger.length⟩ error ::
      service.ledger) other ↔ other = mdns ∨ other = ⟨.ble, service.ledger.length⟩ := by
    intro error _
    rw [live_returned (numbered.fresh .ble), only, or_comm]
  have renumbered : Numbered (.returned ⟨.ble, service.ledger.length⟩ none ::
      service.ledger) := numbered.cons (Nat.le_refl _)
  have apart : mdns ≠ ⟨.ble, service.ledger.length⟩ := by
    rintro rfl
    cases named
  unfold Service.startBLE Service.broadcast
  cases answers.ble.registered with
  | false => cases answers.ble.error <;> exact outcome_stop_one numbered bound only rfl rfl
  | true =>
    cases answers.ble.error with
    | some error =>
      -- the registration that came with the error is dropped
      refine .inr ⟨fun faultless => ?_, rfl, ⟨.ble, service.ledger.length⟩, ?_⟩
      · cases (Faultless.cons.mp (Faultless.cons.mp faultless).2).1
      · exact live_stopped.mpr ⟨(returned _ _).mpr (.inr rfl), fun _ => apart.symm⟩
    | none =>
      have sound : (Event.returned ⟨.ble, service.ledger.length⟩ none).error = none := rfl
      refine .of_cons sound ?_
      cases answers.canceledBLE with
      | some =>
        exact outcome_stop_both renumbered apart (Nat.lt_succ_of_lt bound) (Nat.lt_succ_self _)
          (returned none) rfl rfl
      | none =>
        exact .inl ⟨⟨renumbered, .inr ⟨rfl, mdns, _, rfl, rfl, named, rfl, returned none⟩⟩, id⟩

theorem startMDNS_outcome (answers : StartAnswers) (numbered : Numbered service.ledger)
    (none_left : ∀ registration, ¬ Live service.ledger registration) :
    Outcome service.ledger (service.startMDNS answers).1 := by
  have returned : ∀ error other, Live (.returned ⟨.mdns, service.ledger.length⟩ error ::
      service.ledger) other ↔ other = ⟨.mdns, service.ledger.length⟩ := by
    intro error _
    rw [live_returned (numbered.fresh .mdns)]
    simp [none_left]
  have idle : Outcome service.ledger (service.setState .stopped) :=
    .inl ⟨⟨numbered, .inl ⟨rfl, none_left⟩⟩, id⟩
  unfold Service.startMDNS Service.broadcast
  cases answers.encoded with
  | some => exact idle
  | none =>
    cases answers.mdns.registered with
    | false => cases answers.mdns.error <;> exact idle
    | true =>
      cases answers.mdns.error with
      | some =>
        refine .inr ⟨fun faultless => ?_, rfl, _, (returned _ _).mpr rfl⟩
        cases (Faultless.cons.mp faultless).1
      | none =>
        have renumbered : Numbered (.returned ⟨.mdns, service.ledger.length⟩ none ::
            service.ledger) := numbered.cons (Nat.le_refl _)
        have sound : (Event.returned ⟨.mdns, service.ledger.length⟩ none).error = none := rfl
        refine .of_cons sound ?_
        cases answers.canceledMDNS with
        | some =>
          exact outcome_stop_one renumbered (Nat.lt_succ_self _) (returned none) rfl rfl
        | none => exact startBLE_outcome answers renumbered rfl (Nat.lt_succ_self _) (returned none)

theorem Settled.call (settled : Settled service) (call : Call) :
    Outcome service.ledger (service.call call) := by
  have unchanged : Outcome service.ledger service := .inl ⟨settled, id⟩
  cases call with
  | start answers =>
    simp only [Service.call, Service.start]
    split
    · exact unchanged
    · split
      · exact unchanged
      · split
        · exact unchanged
        · split
          · exact unchanged
          next idle =>
            rcases settled.left with ⟨_, none_left⟩ | ⟨running, _⟩
            · exact startMDNS_outcome answers settled.numbered none_left
            · simp [running] at idle
  | stop =>
    simp only [Service.call, Service.stop]
    split
    · exact unchanged
    · split
      · exact unchanged
      next active =>
        rcases settled.left with
          ⟨stopped, _⟩ | ⟨_, mdns, ble, mdnsHeld, bleHeld, named, other, only⟩
        · simp [stopped] at active
        · have bound : ∀ registration, Live service.ledger registration →
              registration.number < service.ledger.length := by
            rintro _ ⟨⟨_, member⟩, _⟩
            exact settled.numbered _ member
          have apart : mdns ≠ ble := by
            rintro rfl
            rw [named] at other
            cases other
          rw [mdnsHeld, bleHeld]
          exact outcome_stop_both settled.numbered apart (bound _ ((only _).mpr (.inl rfl)))
            (bound _ ((only _).mpr (.inr rfl))) only rfl rfl

theorem Settled.matches (settled : Settled service) : Matches service := by
  rcases settled.left with ⟨stopped, none_left⟩ | ⟨running, mdns, ble, held⟩
  · refine ⟨fun _ => none_left, ?_⟩
    rw [stopped]
    simp [none_left]
  · obtain ⟨mdnsHeld, bleHeld, named, other, only⟩ := held
    refine ⟨?_, fun _ => ?_, fun _ => running⟩
    · rw [running]
      nofun
    · exact ⟨mdns, ble, mdnsHeld, named, (only _).mpr (.inl rfl), bleHeld, other,
        (only _).mpr (.inr rfl)⟩

theorem Leaked.not_matches (leaked : Leaked service) : ¬ Matches service := by
  intro holds
  obtain ⟨registration, live⟩ := leaked.live
  exact holds.stopped leaked.state registration live

end Outcomes

theorem ledger_suffix (service : Service) (call : Call) :
    service.ledger <:+ (service.call call).ledger := by
  cases call with
  | start =>
    simp only [Service.call, Service.start, Service.startMDNS, Service.startBLE, Service.broadcast]
    repeat' split
    all_goals simp [Service.record, Service.setState, List.suffix_cons_iff]
  | stop =>
    simp only [Service.call, Service.stop, Service.stopHandle]
    repeat' split
    all_goals simp [Service.record, Service.setState, List.suffix_cons_iff]

theorem Faultless.of_run {service : Service} {calls : List Call}
    (faultless : Faultless (run service calls).ledger) : Faultless service.ledger := by
  induction calls generalizing service with
  | nil => exact faultless
  | cons call _ ih =>
    intro event member
    exact ih faultless event ((ledger_suffix service call).mem member)

theorem passed_match_iff {service : Service} (settled : Settled service)
    (faultless : Faultless service.ledger) (calls : List Call) :
    (∀ reached ∈ passed service calls, Matches reached) ↔ Faultless (run service calls).ledger := by
  induction calls generalizing service with
  | nil => simp [passed, run, settled.matches, faultless]
  | cons call rest ih =>
    rw [passed, List.scanl_cons, List.forall_mem_cons]
    rcases settled.call call with ⟨resettled, kept⟩ | leaked
    · exact (and_iff_right settled.matches).trans (ih resettled (kept faultless))
    · constructor
      · rintro ⟨_, later⟩
        exact absurd (later _ (by cases rest <;> simp)) leaked.not_matches
      · intro clean
        have rested : Faultless (run (service.call call) rest).ledger := clean
        exact absurd rested.of_run leaked.faulty

/-- The state matches the registrations after every call of a run exactly when
every stop the run made succeeded and no registration came with an error. -/
theorem state_matches_iff (calls : List Call) :
    (∀ reached ∈ passed {} calls, Matches reached) ↔ Faultless (run {} calls).ledger := by
  have numbered : Numbered [] := by simp [Numbered]
  have faultless : Faultless [] := by simp [Faultless]
  refine passed_match_iff ⟨numbered, .inl ⟨rfl, ?_⟩⟩ faultless calls
  simp [Live]

def granted : StartAnswers where
  hasContext := true
  canceled := none
  canceledLocked := none
  encoded := none
  mdns := ⟨true, none⟩
  canceledMDNS := none
  ble := ⟨true, none⟩
  canceledBLE := none
  stopBLE := none
  stopMDNS := none

/-- A stop that times out leaves its registration behind. -/
theorem timed_out_stop_leaks : ¬ ∀ calls, ∀ reached ∈ passed {} calls, Matches reached := by
  intro always
  have reached := always [.start granted, .stop ⟨true, none, some (.message "timeout")⟩] _
    (List.mem_cons_of_mem _ (List.mem_cons_of_mem _ List.mem_cons_self))
  refine reached.stopped rfl ⟨.mdns, 0⟩ ⟨⟨none, ?_⟩, ?_⟩
  · decide
  · decide

end Sovereignite.Discovery
