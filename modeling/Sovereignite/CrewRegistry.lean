import Sovereignite.CrewRunOnce
import Sovereignite.EffectRequests

/-!
# The registry of runners and the status of crews

The registry is kept in memory and the status of a crew in the cluster.  A
reconcile that finds a crew not ready leaves its old runner in the registry,
and a restart leaves the registry empty while the stored status says ready.
The two agree as long as neither happens, and as long as the reconciles of one
crew and of its runs do not overlap where they use the registry.
-/

namespace Sovereignite.Shipcrew

open Effect Program

section Fleet

/-- A reconcile, in one process of the controller. -/
structure Name where
  process : Nat
  operation : Nat
  deriving DecidableEq

/-- A runner and the reconcile that built it. -/
abbrev Registered := RunnerEntry × Name

/-- An execution of a run: its crew, the reconcile that built the runner, and the
last reconcile of the crew with whether it left the crew ready. -/
structure Invocation where
  crew : ObjectKey
  builder : Name
  last : Option (Name × Bool)

/-- The cluster and one process of the controller.  A crew that is not there is
not ready.  A reconcile uses the entry of a crew from the time it registers a
runner until it writes the status, or from the time it looks a runner up until
it executes or fails the run. -/
structure Fleet where
  process : Nat
  ready : ObjectKey → Bool
  registry : ObjectKey → Option Registered
  concluded : ObjectKey → Option (Name × Bool)
  user : ObjectKey → Option Name
  lookups : Name → Option (ObjectKey × Option Registered)
  invocations : List Invocation
  failures : List (ObjectKey × Bool)

namespace Fleet

def initial : Fleet where
  process := 0
  ready _ := false
  registry _ := none
  concluded _ := none
  user _ := none
  lookups _ := none
  invocations := []
  failures := []

def setUser (fleet : Fleet) (key : ObjectKey) (name : Option Name) : Fleet :=
  { fleet with user := Function.update fleet.user key name }

/-- A reconcile stops using the entry of a crew. -/
def release (fleet : Fleet) (key : ObjectKey) (name : Name) : Fleet :=
  if fleet.user key = some name then fleet.setUser key none else fleet

/-- A reconcile of a crew has come to its end. -/
def conclude (fleet : Fleet) (key : ObjectKey) (name : Name) : Fleet :=
  { fleet with
    concluded := Function.update fleet.concluded key (some (name, fleet.ready key)) }

def setReady (fleet : Fleet) (key : ObjectKey) (value : Bool) : Fleet :=
  { fleet with ready := Function.update fleet.ready key value }

def setRegistry (fleet : Fleet) (key : ObjectKey) (entry : Option Registered) : Fleet :=
  { fleet with registry := Function.update fleet.registry key entry }

def restart (fleet : Fleet) : Fleet :=
  { fleet with
    process := fleet.process + 1
    registry := fun _ => none
    user := fun _ => none }

/-- A run is executed with the runner that was looked up. -/
def invoke (fleet : Fleet) (name : Name) : Fleet :=
  match fleet.lookups name with
  | some (key, some (_, builder)) =>
    { fleet with
      invocations := ⟨key, builder, fleet.concluded key⟩ :: fleet.invocations }.release key name
  | _ => fleet

/-- A run is failed.  It is recorded if no runner was found, with the stored
status of the crew. -/
def failed (fleet : Fleet) (name : Name) (moved : Bool) : Fleet :=
  match fleet.lookups name with
  | some (key, none) =>
    { fleet with
      failures := if moved then (key, fleet.ready key) :: fleet.failures
        else fleet.failures }.release key name
  | _ => fleet

end Fleet

/-- How a request of a reconcile is answered.  What is not about the registry and
the status of crews is answered in any way. -/
def fleetAnswer (name : Name) (fleet : Fleet) : (request : Request) → Reply request → Fleet → Prop
  | .getCrew key, reply, after => after = fleet ∧ ∀ crew, reply = .ok crew → crew.key = key
  | .updateCrew crew, reply, after =>
    ∃ stored : Bool, (reply.isOk = true → stored = true) ∧
      after = ((if stored then fleet.setReady crew.key crew.status.ready
        else fleet).conclude crew.key name).release crew.key name
  | .updateCrewRun run, reply, after =>
    if run.status.phase = .failed then
      ∃ moved : Bool, (reply.isOk = true → moved = true) ∧ after = fleet.failed name moved
    else after = fleet
  | .registryGet key, reply, after =>
    reply = (fleet.registry key).map Prod.fst ∧ after = { fleet with
        lookups := Function.update fleet.lookups name
          (some (key, fleet.registry key)) }.setUser key (some name)
  | .registrySet key entry, _, after =>
    after = (fleet.setRegistry key (some (entry, name))).setUser key (some name)
  | .registryDelete key, _, after =>
    after = (fleet.setRegistry key none).conclude key name
  | .run _ _ _ _ _ _, _, after => after = fleet.invoke name
  | _, _, after => after = fleet

structure Condition where
  step : Fleet → (request : Request) → Reply request → Prop
  restart : Fleet → Prop

def Condition.none : Condition where
  step _ _ _ := True
  restart _ := True

/-- The registry entry of a crew is used by one reconcile at a time; the status of
a crew is written as ready without a failure, and as not ready only if it has
no runner; a runner is removed only from a crew that is not stored as ready; and
the controller is restarted only while no crew is. -/
def Condition.agreeing : Condition where
  step fleet
    | .registryGet key, _ => fleet.user key = Option.none
    | .registrySet key _, _ => fleet.user key = Option.none
    | .registryDelete key, _ => fleet.user key = Option.none ∧ fleet.ready key = false
    | .updateCrew crew, reply =>
      if crew.status.ready then reply.isOk = true else fleet.registry crew.key = Option.none
    | _, _ => True
  restart fleet := ∀ key, fleet.ready key = false

/-- Reconciles of crews, of runs and of backends side by side, users who change or
delete crews, and restarts. -/
def fleetRules (kit : Toolkit) (condition : Condition) :
    SystemRules signature Fleet Name Error Unit where
  answer name fleet request reply after :=
    name.process = fleet.process ∧ condition.step fleet request reply ∧
      fleetAnswer name fleet request reply after
  offered _ program := ∃ key, program = reconcileCrew kit key ∨
    program = reconcileCrewRun kit key ∨ program = reconcileModelBackend kit key
  crash stopped before after :=
    (stopped = (fun name => name.process = before.process) ∧ condition.restart before ∧
        after = before.restart) ∨
      (stopped = (fun _ => False) ∧ ∃ key, after = before.setReady key false)

end Fleet

section Agreement

/-- The registry has the runner of the last reconcile of a crew, which left it
ready, or it has none and the crew is not stored as ready. -/
structure InAgreement (fleet : Fleet) (key : ObjectKey) : Prop where
  built : ∀ entry builder, fleet.registry key = some (entry, builder) →
    fleet.concluded key = some (builder, true)
  missing : fleet.registry key = none → fleet.ready key = false

/-- A reconcile has registered its runner and not yet written the status. -/
def Registering (fleet : Fleet) (key : ObjectKey) (name : Name) : Prop :=
  fleet.user key = some name ∧ ∃ entry, fleet.registry key = some (entry, name)

/-- Every execution used the runner of the last reconcile of its crew, which left
the crew ready, and no run failed for a missing runner of a ready crew. -/
structure Followed (fleet : Fleet) : Prop where
  invocations : ∀ invocation ∈ fleet.invocations, invocation.last = some (invocation.builder, true)
  failures : ∀ failure ∈ fleet.failures, failure.2 = false

structure FleetValid (fleet : Fleet) : Prop where
  entries : ∀ key, InAgreement fleet key ∨ ∃ name, Registering fleet key name
  followed : Followed fleet

structure Relies (name : Name) (before after : Fleet) : Prop where
  process : before.process ≤ after.process
  lookups : after.lookups name = before.lookups name
  unused : ∀ key, after.user key = some name → before.user key = some name
  held : after.process = before.process → ∀ key, before.user key = some name →
    after.user key = some name ∧ after.registry key = before.registry key ∧
      (after.ready key = true → before.ready key = true) ∧
      (before.registry key ≠ none → after.concluded key = before.concluded key)

theorem Relies.refl (name : Name) (fleet : Fleet) : Relies name fleet fleet where
  process := le_refl _
  lookups := rfl
  unused _ used := used
  held _ _ used := ⟨used, rfl, id, fun _ => rfl⟩

theorem Relies.trans {name : Name} {first second third : Fleet}
    (left : Relies name first second) (right : Relies name second third) :
    Relies name first third where
  process := le_trans left.process right.process
  lookups := right.lookups.trans left.lookups
  unused key used := left.unused key (right.unused key used)
  held := by
    intro _ key used
    have upper := right.process
    have lower := left.process
    obtain ⟨usedSecond, registrySecond, readySecond, concludedSecond⟩ :=
      left.held (by omega) key used
    obtain ⟨usedThird, registryThird, readyThird, concludedThird⟩ :=
      right.held (by omega) key usedSecond
    refine ⟨usedThird, registryThird.trans registrySecond,
      fun ready => readySecond (readyThird ready), ?_⟩
    intro present
    rw [concludedThird (by rw [registrySecond]; exact present), concludedSecond present]

def fleetDiscipline : Discipline Fleet Name where
  valid := FleetValid
  rely := Relies
  fresh name fleet := fleet.lookups name = none

/-- An entry that a reconcile uses stays in agreement. -/
theorem InAgreement.lasts {name : Name} {before after : Fleet} {key : ObjectKey}
    (agrees : InAgreement before key) (relied : Relies name before after)
    (same : after.process = before.process) (used : before.user key = some name) :
    InAgreement after key := by
  obtain ⟨_, registry, ready, concluded⟩ := relied.held same key used
  constructor
  · intro entry builder found
    rw [registry] at found
    rw [concluded (by rw [found]; simp)]
    exact agrees.built entry builder found
  · intro none
    rw [registry] at none
    by_contra isReady
    have before := ready (by simpa using isReady)
    rw [agrees.missing none] at before
    cases before

end Agreement

section Changes

variable {key : ObjectKey} {before after fleet : Fleet} {name other : Name}

/-- Only what belongs to one crew was changed. -/
structure ChangesOnly (key : ObjectKey) (before after : Fleet) : Prop where
  process : after.process = before.process
  user : ∀ elsewhere, elsewhere ≠ key → after.user elsewhere = before.user elsewhere
  registry : ∀ elsewhere, elsewhere ≠ key → after.registry elsewhere = before.registry elsewhere
  ready : ∀ elsewhere, elsewhere ≠ key → after.ready elsewhere = before.ready elsewhere
  concluded : ∀ elsewhere, elsewhere ≠ key → after.concluded elsewhere = before.concluded elsewhere

/-- A reconcile that does not use the entry of a crew is not disturbed. -/
theorem ChangesOnly.relies (changes : ChangesOnly key before after)
    (lookups : after.lookups other = before.lookups other)
    (notBefore : before.user key ≠ some other) (notAfter : after.user key ≠ some other) :
    Relies other before after where
  process := le_of_eq changes.process.symm
  lookups := lookups
  unused := by
    intro elsewhere used
    by_cases same : elsewhere = key
    · rw [same] at used
      exact absurd used notAfter
    · rw [← changes.user elsewhere same]
      exact used
  held := by
    intro _ elsewhere used
    by_cases same : elsewhere = key
    · rw [same] at used
      exact absurd used notBefore
    · rw [changes.user elsewhere same, changes.registry elsewhere same,
        changes.ready elsewhere same, changes.concluded elsewhere same]
      exact ⟨used, rfl, id, fun _ => rfl⟩

theorem InAgreement.of_same (agrees : InAgreement before key)
    (registry : after.registry key = before.registry key)
    (concluded : after.concluded key = before.concluded key)
    (ready : after.ready key = before.ready key) : InAgreement after key := by
  constructor
  · intro entry builder found
    rw [registry] at found
    rw [concluded]
    exact agrees.built entry builder found
  · intro none
    rw [registry] at none
    rw [ready]
    exact agrees.missing none

theorem ChangesOnly.entries (changes : ChangesOnly key before after)
    (entries : ∀ key, InAgreement before key ∨ ∃ name, Registering before key name)
    (here : InAgreement after key ∨ ∃ name, Registering after key name) :
    ∀ key, InAgreement after key ∨ ∃ name, Registering after key name := by
  intro elsewhere
  by_cases same : elsewhere = key
  · rw [same]
    exact here
  · rcases entries elsewhere with agrees | ⟨name, used, entry, registered⟩
    · exact .inl (agrees.of_same (changes.registry elsewhere same)
        (changes.concluded elsewhere same) (changes.ready elsewhere same))
    · right
      exact ⟨name, (changes.user elsewhere same).trans used, entry,
        (changes.registry elsewhere same).trans registered⟩

/-- The entry of a crew that no reconcile uses is in agreement. -/
theorem FleetValid.agrees (valid : FleetValid fleet) (free : fleet.user key = none) :
    InAgreement fleet key := by
  rcases valid.entries key with agrees | ⟨name, used, _⟩
  · exact agrees
  · rw [free] at used
    cases used

theorem changesOnly_release : ChangesOnly key fleet (fleet.release key name) := by
  unfold Fleet.release
  split
  · constructor <;> simp +contextual [Fleet.setUser]
  · constructor <;> simp

theorem ChangesOnly.trans {middle : Fleet} (first : ChangesOnly key before middle)
    (second : ChangesOnly key middle after) : ChangesOnly key before after where
  process := second.process.trans first.process
  user elsewhere different :=
    (second.user elsewhere different).trans (first.user elsewhere different)
  registry elsewhere different :=
    (second.registry elsewhere different).trans (first.registry elsewhere different)
  ready elsewhere different :=
    (second.ready elsewhere different).trans (first.ready elsewhere different)
  concluded elsewhere different :=
    (second.concluded elsewhere different).trans (first.concluded elsewhere different)

@[simp]
theorem release_registry : (fleet.release key name).registry = fleet.registry := by
  unfold Fleet.release
  split <;> rfl

@[simp]
theorem release_ready : (fleet.release key name).ready = fleet.ready := by
  unfold Fleet.release
  split <;> rfl

@[simp]
theorem release_concluded : (fleet.release key name).concluded = fleet.concluded := by
  unfold Fleet.release
  split <;> rfl

@[simp]
theorem release_lookups : (fleet.release key name).lookups = fleet.lookups := by
  unfold Fleet.release
  split <;> rfl

@[simp]
theorem release_invocations : (fleet.release key name).invocations = fleet.invocations := by
  unfold Fleet.release
  split <;> rfl

@[simp]
theorem release_failures : (fleet.release key name).failures = fleet.failures := by
  unfold Fleet.release
  split <;> rfl

theorem release_user_of_used (used : fleet.user key = some name) :
    (fleet.release key name).user key = none := by
  unfold Fleet.release
  rw [if_pos used]
  simp [Fleet.setUser]

theorem release_user_of_other (unused : fleet.user key ≠ some name) :
    fleet.release key name = fleet := by
  unfold Fleet.release
  rw [if_neg unused]

theorem ChangesOnly.valid_release (changes : ChangesOnly key before fleet)
    (entries : ∀ key, InAgreement before key ∨ ∃ name, Registering before key name)
    (followed : Followed fleet) (agrees : InAgreement fleet key) :
    FleetValid (fleet.release key name) where
  entries := (changes.trans changesOnly_release).entries entries
    (.inl (agrees.of_same (by simp) (by simp) (by simp)))
  followed := ⟨by simpa using followed.invocations, by simpa using followed.failures⟩

/-- No other reconcile is disturbed by it. -/
theorem ChangesOnly.relies_release (changes : ChangesOnly key before fleet)
    (lookups : fleet.lookups = before.lookups) (user : fleet.user key = before.user key)
    (used : before.user key = some name) (different : other ≠ name) :
    Relies other before (fleet.release key name) := by
  apply (changes.trans changesOnly_release).relies
  · rw [release_lookups, lookups]
  · rw [used]
    simp only [ne_eq, Option.some.injEq]
    exact fun same => different same.symm
  · rw [release_user_of_used (user.trans used)]
    simp

end Changes

variable {run : CrewRun} {entry : RunnerEntry} {found : Registered} {crew : Crew}

section Steps

variable (kit : Toolkit) (name : Name)

abbrev fleetContract : Contract signature Fleet :=
  fleetDiscipline.contract (fleetRules kit .agreeing) name

/-- A triple of a reconcile among the others. -/
abbrev Reconciles {α : Type} (pre : Fleet → Prop) (program : Running α)
    (post : α → Fleet → Prop) : Prop :=
  Ensures (fleetContract kit name) Anywhere pre program post

variable {kit name} {key : ObjectKey}

theorem ensures_request {request : Request} {pre : Fleet → Prop}
    {post : Reply request → Fleet → Prop}
    (lasts : ∀ before after, Relies name before after → after.process = name.process →
      pre before → pre after)
    (step : ∀ fleet reply after, FleetValid fleet → pre fleet → fleet.process = name.process →
      Condition.agreeing.step fleet request reply → fleetAnswer name fleet request reply after →
        FleetValid after ∧ (∀ other, other ≠ name → Relies other fleet after) ∧
          post reply after) : Reconciles kit name pre (ask request) post := by
  rintro _ _ known current valid relied reply after ⟨living, permitted, answered⟩
  obtain ⟨kept, owed, learned⟩ :=
    step current reply after valid (lasts _ _ relied living.symm known) living.symm permitted
      answered
  refine ⟨kept, owed, kept, trivial, ?_⟩
  rintro _ ⟨⟩
  exact learned

/-- The requests that neither read nor write what the reconciles agree on. -/
def Neutral : Request → Prop
  | .getModelBackend _ => True
  | .getSecret _ => True
  | .getCrewRun _ => True
  | .updateModelBackend _ => True
  | _ => False

theorem ensures_neutral {α : Type} {program : Running α} (only : program.Only Neutral) :
    Reconciles kit name (fun _ => True) program fun _ _ => True := by
  refine Ensures.only ?_ only
  intro request neutral
  apply ensures_request (fun _ _ _ _ _ => trivial)
  intro fleet _ after valid _ _ _ answered
  have same : after = fleet := by
    cases request with
    | getModelBackend | getSecret | getCrewRun | updateModelBackend => exact answered
    | _ => exact neutral.elim
  rw [same]
  exact ⟨valid, fun other _ => Relies.refl other fleet, trivial⟩

theorem ask_getCrew :
    Reconciles kit name (fun _ => True) (ask (.getCrew key))
      fun reply _ => ∀ crew, reply = .ok crew → crew.key = key := by
  apply ensures_request (fun _ _ _ _ _ => trivial)
  rintro _ _ _ valid _ _ _ ⟨rfl, keyed⟩
  exact ⟨valid, fun other _ => Relies.refl other _, keyed⟩

theorem ask_registryDelete :
    Reconciles kit name (fun _ => True) (ask (.registryDelete key)) fun _ _ => True := by
  apply ensures_request (fun _ _ _ _ _ => trivial)
  rintro fleet _ _ valid _ _ ⟨free, notReady⟩ rfl
  have changes : ChangesOnly key fleet ((fleet.setRegistry key none).conclude key name) := by
    constructor <;> simp +contextual [Fleet.setRegistry, Fleet.conclude]
  refine ⟨⟨changes.entries valid.entries ?_, valid.followed.invocations,
    valid.followed.failures⟩, ?_, trivial⟩
  · left
    constructor
    · intro _ _ found
      simp [Fleet.setRegistry, Fleet.conclude] at found
    · intro _
      exact notReady
  · intro other _
    apply changes.relies rfl
    · rw [free]
      simp
    · change fleet.user key ≠ some other
      rw [free]
      simp

def HasRegistered (name : Name) (key : ObjectKey) (fleet : Fleet) : Prop :=
  fleet.process = name.process ∧ Registering fleet key name

theorem hasRegistered_lasts (before after : Fleet) (relied : Relies name before after)
    (living : after.process = name.process) (known : HasRegistered name key before) :
    HasRegistered name key after := by
  obtain ⟨alive, used, entry, registered⟩ := known
  obtain ⟨stillUsed, registry, _⟩ := relied.held (living.trans alive.symm) key used
  exact ⟨living, stillUsed, entry, registry.trans registered⟩

theorem ask_registrySet :
    Reconciles kit name (fun _ => True)
      (ask (.registrySet key entry)) fun _ => HasRegistered name key := by
  apply ensures_request (fun _ _ _ _ _ => trivial)
  rintro fleet _ _ valid _ living free rfl
  have changes : ChangesOnly key fleet
      ((fleet.setRegistry key (some (entry, name))).setUser key (some name)) := by
    constructor <;> simp +contextual [Fleet.setRegistry, Fleet.setUser]
  have registering : Registering
      ((fleet.setRegistry key (some (entry, name))).setUser key (some name)) key name := by
    refine ⟨?_, entry, ?_⟩ <;> simp [Fleet.setRegistry, Fleet.setUser]
  refine ⟨⟨changes.entries valid.entries (.inr ⟨name, registering⟩),
    valid.followed.invocations, valid.followed.failures⟩, ?_, living, registering⟩
  intro _ different
  apply changes.relies rfl
  · rw [show fleet.user key = none from free]
    simp
  · rw [registering.1]
    simp only [ne_eq, Option.some.injEq]
    exact fun same => different same.symm

theorem ask_writeReady (keyed : crew.key = key) (ready : crew.status.ready = true) :
    Reconciles kit name (HasRegistered name key) (ask (.updateCrew crew)) fun _ _ => True := by
  subst keyed
  apply ensures_request hasRegistered_lasts
  rintro fleet reply _ valid ⟨_, used, _, registered⟩ _ permitted ⟨_, applied, rfl⟩
  have succeeded : reply.isOk = true := by simpa [Condition.agreeing, ready] using permitted
  rw [applied succeeded, ready]
  have changes : ChangesOnly crew.key fleet
      ((fleet.setReady crew.key true).conclude crew.key name) := by
    constructor <;> simp +contextual [Fleet.setReady, Fleet.conclude]
  have agrees : InAgreement ((fleet.setReady crew.key true).conclude crew.key name) crew.key := by
    constructor
    · intro _ _ present
      cases registered.symm.trans present
      simp [Fleet.setReady, Fleet.conclude]
    · intro none
      cases registered.symm.trans none
  refine ⟨changes.valid_release valid.entries
    ⟨valid.followed.invocations, valid.followed.failures⟩ agrees, ?_, trivial⟩
  intro _ different
  exact changes.relies_release rfl rfl used different

theorem ask_writeNotReady (notReady : crew.status.ready = false) :
    Reconciles kit name (fun _ => True) (ask (.updateCrew crew)) fun _ _ => True := by
  apply ensures_request (fun _ _ _ _ _ => trivial)
  rintro fleet _ after valid _ _ permitted ⟨stored, _, rfl⟩
  have missing : fleet.registry crew.key = none := by
    simpa [Condition.agreeing, notReady] using permitted
  have agrees : InAgreement fleet crew.key := by
    rcases valid.entries crew.key with agrees | ⟨_, _, entry, registered⟩
    · exact agrees
    · rw [missing] at registered
      cases registered
  have wasNotReady := agrees.missing missing
  -- whether the update was stored or not, the crew is not ready before and after
  have written : (if stored then fleet.setReady crew.key crew.status.ready else fleet) = fleet := by
    split
    · unfold Fleet.setReady
      rw [notReady, ← wasNotReady, Function.update_eq_self]
    · rfl
  rw [written]
  have changes : ChangesOnly crew.key fleet (fleet.conclude crew.key name) := by
    constructor <;> simp +contextual [Fleet.conclude]
  have still : InAgreement (fleet.conclude crew.key name) crew.key := by
    constructor
    · intro entry _ found
      cases missing.symm.trans found
    · intro _
      exact wasNotReady
  refine ⟨changes.valid_release valid.entries
    ⟨valid.followed.invocations, valid.followed.failures⟩ still, ?_, trivial⟩
  intro _ different
  by_cases used : fleet.user crew.key = some name
  · exact changes.relies_release rfl rfl used different
  · -- a run that found no runner may be using the entry; it relies on no last reconcile
    rw [release_user_of_other (show (fleet.conclude crew.key name).user crew.key ≠ some name
      from used)]
    refine ⟨le_refl _, rfl, fun _ used => used, ?_⟩
    intro _ elsewhere held
    refine ⟨held, rfl, id, ?_⟩
    intro present
    have apart : elsewhere ≠ crew.key := by
      rintro rfl
      exact present missing
    exact changes.concluded elsewhere apart

/-- A reconcile has looked a runner up in the living process. -/
structure HasLookedUp (name : Name) (key : ObjectKey) (found : Option Registered)
    (fleet : Fleet) : Prop where
  living : fleet.process = name.process
  used : fleet.user key = some name
  lookup : fleet.lookups name = some (key, found)
  registry : fleet.registry key = found
  agrees : InAgreement fleet key

theorem hasLookedUp_lasts {found : Option Registered} (before after : Fleet)
    (relied : Relies name before after) (living : after.process = name.process)
    (known : HasLookedUp name key found before) : HasLookedUp name key found after := by
  have same := living.trans known.living.symm
  obtain ⟨used, registry, _⟩ := relied.held same key known.used
  exact ⟨living, used, relied.lookups.trans known.lookup, registry.trans known.registry,
    known.agrees.lasts relied same known.used⟩

theorem ask_registryGet :
    Reconciles kit name (fun _ => True) (ask (.registryGet key))
      fun reply fleet => ∃ found, reply = found.map Prod.fst ∧
        HasLookedUp name key found fleet := by
  apply ensures_request (fun _ _ _ _ _ => trivial)
  rintro fleet _ _ valid _ living free ⟨replied, rfl⟩
  have agrees := valid.agrees free
  have changes : ChangesOnly key fleet ({ fleet with
      lookups := Function.update fleet.lookups name
        (some (key, fleet.registry key)) }.setUser key (some name)) := by
    constructor <;> simp +contextual [Fleet.setUser]
  have still : InAgreement ({ fleet with
      lookups := Function.update fleet.lookups name
        (some (key, fleet.registry key)) }.setUser key (some name)) key :=
    agrees.of_same rfl rfl rfl
  refine ⟨⟨changes.entries valid.entries (.inl still), valid.followed.invocations,
    valid.followed.failures⟩, ?_, fleet.registry key, replied, ?_⟩
  · intro _ different
    apply changes.relies
    · simp [Fleet.setUser, different]
    · rw [show fleet.user key = none from free]
      simp
    · simp only [Fleet.setUser, Function.update_self, ne_eq, Option.some.injEq]
      exact fun same => different same.symm
  · exact ⟨living, by simp [Fleet.setUser], by simp [Fleet.setUser], rfl, still⟩

theorem ask_invoke {runKey : ObjectKey} {userID sessionID : String} {message : Content}
    {config : RunConfig} :
    Reconciles kit name (HasLookedUp name key (some found))
      (ask (.run runKey entry userID sessionID message config))
      fun _ fleet => fleet.lookups name = some (key, some found) := by
  apply ensures_request hasLookedUp_lasts
  rintro fleet _ _ valid known _ _ rfl
  obtain ⟨runner, builder⟩ := found
  simp only [Fleet.invoke, known.lookup]
  have last := known.agrees.built runner builder known.registry
  have changes : ChangesOnly key fleet { fleet with
      invocations := ⟨key, builder, fleet.concluded key⟩ :: fleet.invocations } := by
    constructor <;> simp
  refine ⟨changes.valid_release valid.entries ?_ (known.agrees.of_same rfl rfl rfl), ?_, ?_⟩
  · constructor
    · intro invocation member
      rcases List.mem_cons.mp member with rfl | earlier
      · exact last
      · exact valid.followed.invocations invocation earlier
    · exact valid.followed.failures
  · intro _ different
    exact changes.relies_release rfl rfl known.used different
  · rw [release_lookups]
    exact known.lookup

theorem ask_failMissing (fails : run.status.phase = .failed) :
    Reconciles kit name (HasLookedUp name key none) (ask (.updateCrewRun run)) fun _ _ => True := by
  apply ensures_request hasLookedUp_lasts
  rintro fleet _ _ valid known _ _ answered
  simp only [fleetAnswer, if_pos fails] at answered
  obtain ⟨moved, _, rfl⟩ := answered
  simp only [Fleet.failed, known.lookup]
  have notReady := known.agrees.missing known.registry
  have changes : ChangesOnly key fleet { fleet with
      failures := if moved then (key, fleet.ready key) :: fleet.failures else fleet.failures } := by
    constructor <;> simp
  refine ⟨changes.valid_release valid.entries ?_ (known.agrees.of_same rfl rfl rfl), ?_, trivial⟩
  · refine ⟨valid.followed.invocations, ?_⟩
    intro failure member
    cases moved with
    | false => exact valid.followed.failures failure member
    | true =>
      rcases List.mem_cons.mp member with rfl | earlier
      · exact notReady
      · exact valid.followed.failures failure earlier
  · intro _ different
    exact changes.relies_release rfl rfl known.used different

theorem ask_updateExecuted :
    Reconciles kit name (fun fleet => fleet.lookups name = some (key, some found))
      (ask (.updateCrewRun run)) fun _ _ => True := by
  apply ensures_request
  · intro _ after relied _ known
    exact relied.lookups.trans known
  · intro fleet _ after valid known _ _ answered
    have same : after = fleet := by
      simp only [fleetAnswer] at answered
      split at answered
      · obtain ⟨_, _, rfl⟩ := answered
        simp [Fleet.failed, known]
      · exact answered
    rw [same]
    exact ⟨valid, fun other _ => Relies.refl other fleet, trivial⟩

theorem ask_updateRun (continues : run.status.phase ≠ .failed) :
    Reconciles kit name (fun _ => True) (ask (.updateCrewRun run)) fun _ _ => True := by
  apply ensures_request (fun _ _ _ _ _ => trivial)
  intro fleet _ _ valid _ _ _ answered
  simp only [fleetAnswer, if_neg continues] at answered
  rw [answered]
  exact ⟨valid, fun other _ => Relies.refl other fleet, trivial⟩

end Steps

section Reconciles

variable {kit : Toolkit} {name : Name} {key : ObjectKey}

theorem ignoreNotFound_ensures (error : Error) :
    Reconciles kit name (fun _ => True) (ignoreNotFound error) fun _ _ => True := by
  unfold ignoreNotFound
  split
  · exact Ensures.ret fun _ _ _ => trivial
  · exact Ensures.fail

theorem secretValue_only {ref : Option SecretKeyRef} {namespaceName : String}
    {unread : SecretKeyRef → Error → Error} {missing : SecretKeyRef → Error} :
    (secretValue ref namespaceName unread missing).Only Neutral := by
  cases ref with
  | none => trivial
  | some ref =>
    apply Only.bind (Only.perform trivial); intro reply
    apply Only.bind Only.ofExcept; intro secret
    cases secret.lookup ref.key <;> trivial

theorem resolveModel_only (crew : Crew) (ref : String) :
    (resolveModel kit crew ref).Only Neutral := by
  apply Only.bind (Only.perform trivial); intro reply
  apply Only.bind Only.ofExcept; intro mb
  apply Only.bind Only.rejectIf; intro ready
  apply Only.bind secretValue_only; intro apiKey
  exact Only.ofExcept

theorem resolveMember_only (crew : Crew) (defaultModel : Llm)
    (models : Except String (List (String × Llm))) (m : CrewMember) :
    (resolveMember kit crew defaultModel models m).Only Neutral := by
  unfold resolveMember
  cases models with
  | error => trivial
  | ok =>
    dsimp only
    split
    · trivial
    · apply Only.bind (Only.attempt (resolveModel_only crew m.modelRef)); intro outcome
      cases outcome <;> trivial

theorem resolveModels_only (crew : Crew) : (resolveModels kit crew).Only Neutral := by
  apply Only.bind (Only.attempt (resolveModel_only crew crew.spec.modelRef)); intro outcome
  cases outcome with
  | error => trivial
  | ok defaultModel => exact Only.forEach (resolveMember_only crew defaultModel) _ _

theorem setNotReady_ensures (crew : Crew) (msg : String) :
    Reconciles kit name (fun _ => True) (setNotReady crew msg) fun _ _ => True := by
  apply Ensures.sequence (ask_writeNotReady rfl)
  intro reply
  exact Ensures.fail

theorem setReady_ensures (keyed : crew.key = key) (entry : RunnerEntry) :
    Reconciles kit name (fun _ => True) (setReady crew entry key) fun _ _ => True := by
  apply Ensures.sequence ask_registrySet
  intro registered
  apply Ensures.sequence (ask_writeReady (by exact keyed) rfl)
  intro reply
  apply Ensures.sequence Ensures.ofExcept
  intro version
  exact Ensures.ret fun _ _ _ => trivial

theorem reconcileCrew_ensures :
    Reconciles kit name (fun _ => True) (reconcileCrew kit key) fun _ _ => True := by
  apply Ensures.sequence ask_getCrew
  intro reply
  cases reply with
  | error error =>
    apply Ensures.sequence (ask_registryDelete.strengthen fun _ _ => trivial)
    intro deleted
    exact ignoreNotFound_ensures error
  | ok crew =>
    apply Ensures.derive (fun _ _ keyed => keyed crew rfl)
    intro keyed
    apply Ensures.strengthen (fun _ _ => trivial)
    apply Ensures.sequence (ensures_neutral (resolveModels_only crew))
    intro models
    cases models with
    | error msg => exact setNotReady_ensures crew msg
    | ok memberModels =>
      dsimp only
      cases buildEntry kit crew memberModels with
      | error msg => exact setNotReady_ensures crew msg
      | ok entry => exact setReady_ensures keyed entry

theorem executeRun_follows :
    Reconciles kit name (HasLookedUp name key (some found))
      (executeRun kit run entry) fun _ _ => True := by
  apply Ensures.sequence ask_invoke
  intro items
  cases collectEvents kit items with
  | error =>
    apply Ensures.sequence ask_updateExecuted
    intro reply
    exact Ensures.fail
  | ok =>
    apply Ensures.sequence ask_updateExecuted
    intro reply
    apply Ensures.sequence Ensures.ofExcept
    intro version
    exact Ensures.ret fun _ _ _ => trivial

theorem reconcileCrewRun_follows :
    Reconciles kit name (fun _ => True) (reconcileCrewRun kit key) fun _ _ => True := by
  have reads : (ask (.getCrewRun key)).Only Neutral := Only.perform trivial
  apply Ensures.sequence (ensures_neutral reads)
  intro reply
  cases reply with
  | error error => exact ignoreNotFound_ensures error
  | ok =>
    dsimp only
    split
    · exact Ensures.ret fun _ _ _ => trivial
    · apply Ensures.sequence (ask_updateRun (by simp [CrewRun.withPhase]))
      intro outcome
      cases outcome with
      | error => exact Ensures.fail
      | ok =>
        apply Ensures.sequence (ask_registryGet.strengthen fun _ _ => trivial)
        intro looked
        apply Ensures.choose
        intro registered
        cases registered with
        | none =>
          apply Ensures.derive (fun _ _ known => known.1)
          rintro rfl
          apply Ensures.strengthen (fun _ known => known.2)
          apply Ensures.sequence (ask_failMissing rfl)
          intro reply
          exact Ensures.fail
        | some =>
          apply Ensures.derive (fun _ _ known => known.1)
          rintro rfl
          exact executeRun_follows.strengthen fun _ known => known.2

theorem reconcileModelBackend_only : (reconcileModelBackend kit key).Only Neutral := by
  apply Only.bind (Only.perform trivial); intro reply
  cases reply with
  | error error =>
    change (ignoreNotFound error).Only Neutral
    unfold ignoreNotFound
    split <;> trivial
  | ok mb =>
    apply Only.bind secretValue_only; intro apiKey
    cases buildModel kit mb apiKey with
    | error =>
      apply Only.bind (Only.perform trivial); intro updated
      trivial
    | ok =>
      apply Only.bind (Only.perform trivial); intro updated
      apply Only.bind Only.ofExcept; intro version
      trivial

theorem fleetDiscipline_kept : fleetDiscipline.Kept (fleetRules kit .agreeing) where
  refl := Relies.refl
  trans _ _ _ _ := Relies.trans
  freshStable _ _ _ relied fresh := relied.lookups.trans fresh
  offeredSafe := by
    rintro name _ _ ⟨key, rfl | rfl | rfl⟩ valid _
    · exact reconcileCrew_ensures.safe valid trivial
    · exact reconcileCrewRun_follows.safe valid trivial
    · exact (ensures_neutral reconcileModelBackend_only).safe valid trivial
  crashValid := by
    rintro stopped before after valid (⟨_, notReady, rfl⟩ | ⟨_, key, rfl⟩)
    · refine ⟨fun key => .inl ⟨?_, fun _ => notReady key⟩, valid.followed.invocations,
        valid.followed.failures⟩
      intro _ _ found
      cases found
    · have changes : ChangesOnly key before (before.setReady key false) := by
        constructor <;> simp +contextual [Fleet.setReady]
      refine ⟨changes.entries valid.entries ?_, valid.followed.invocations, valid.followed.failures⟩
      rcases valid.entries key with agrees | registering
      · left
        exact ⟨agrees.built, fun _ => by simp [Fleet.setReady]⟩
      · exact .inr registering
  crashRely := by
    rintro _ _ _ _ (⟨rfl, _, rfl⟩ | ⟨_, key, rfl⟩) _
    · refine ⟨Nat.le_succ _, rfl, ?_, ?_⟩
      · intro key used
        cases used
      · intro same
        exact absurd same (Nat.succ_ne_self _)
    · refine ⟨le_refl _, rfl, fun _ used => used, ?_⟩
      intro _ elsewhere used
      refine ⟨used, rfl, ?_, fun _ => rfl⟩
      by_cases here : elsewhere = key
      · simp [Fleet.setReady, here]
      · simp [Fleet.setReady, here]

end Reconciles

/-- In every run whose steps meet the condition, each execution uses the runner of
the last reconcile of its crew, which left the crew ready, and no run fails for
a missing runner while its crew is stored as ready. -/
theorem registry_follows_crews (kit : Toolkit) {state : SystemState signature Fleet Name Error Unit}
    (reached : (fleetRules kit .agreeing).Reachable Fleet.initial state) :
    Followed state.world := by
  have valid : FleetValid Fleet.initial := by
    refine ⟨fun key => .inl ⟨?_, fun _ => rfl⟩, ?_, ?_⟩
    · intro _ _ found
      cases found
    · intro _ member
      cases member
    · intro _ member
      cases member
  have holds := Discipline.Holds.reachable fleetDiscipline_kept valid (fun _ => rfl) reached
  exact holds.world.followed

section Departures

/-- A cluster with one crew, its backend and one run of it, where every update
succeeds. -/
def fleetReply (crew : Crew) (name : Name) (fleet : Fleet) :
    (request : Request) → Reply request × Fleet
  | .getModelBackend key =>
    (if key = sampleBackend.key then .ok sampleBackend else .error (.sentinel .notFound), fleet)
  | .getSecret _ => (.error (.sentinel .notFound), fleet)
  | .getCrew key =>
    (if crew.key = key then .ok crew else .error (.sentinel .notFound), fleet)
  | .getCrewRun _ => (.ok sampleRun, fleet)
  | .updateModelBackend mb => (.ok (mb.version + 1), fleet)
  | .updateCrew updated =>
    (.ok (updated.version + 1),
      ((fleet.setReady updated.key updated.status.ready).conclude updated.key name).release
        updated.key name)
  | .updateCrewRun run =>
    (.ok (run.version + 1),
      if run.status.phase = .failed then fleet.failed name true else fleet)
  | .registryGet key =>
    ((fleet.registry key).map Prod.fst, { fleet with
      lookups := Function.update fleet.lookups name
        (some (key, fleet.registry key)) }.setUser key (some name))
  | .registrySet key entry =>
    ((), (fleet.setRegistry key (some (entry, name))).setUser key (some name))
  | .registryDelete key => ((), (fleet.setRegistry key none).conclude key name)
  | .run _ _ _ _ _ _ => ([], fleet.invoke name)

theorem fleetReply_answers (crew : Crew) (name : Name) (fleet : Fleet) (request : Request) :
    fleetAnswer name fleet request (fleetReply crew name fleet request).1
      (fleetReply crew name fleet request).2 := by
  cases request with
  | getCrew key =>
    refine ⟨rfl, ?_⟩
    intro found replied
    change (if crew.key = key then (.ok crew : Except Error Crew)
      else .error (.sentinel .notFound)) = .ok found at replied
    split at replied
    · cases replied
      assumption
    · cases replied
  | updateCrew => exact ⟨true, fun _ => rfl, rfl⟩
  | updateCrewRun =>
    simp only [fleetAnswer, fleetReply]
    split
    · exact ⟨true, fun _ => rfl, rfl⟩
    · rfl
  | registryGet => exact ⟨rfl, rfl⟩
  | _ => rfl

/-- The requests of a living process that meet the condition are answered. -/
def fleetRespond (crew : Crew) (permits : Fleet → Request → Bool) (name : Name) :
    Responder signature Fleet :=
  fun fleet request =>
    if name.process = fleet.process ∧ permits fleet request = true then
      some (fleetReply crew name fleet request)
    else none

theorem fleetRespond_answers {condition : Condition} {permits : Fleet → Request → Bool}
    (crew : Crew) (name : Name)
    (permitted : ∀ fleet request, permits fleet request = true →
      condition.step fleet request (fleetReply crew name fleet request).1) :
    (fleetRules permissive condition).Answers name (fleetRespond crew permits name) id := by
  intro fleet request _ _ responded
  unfold fleetRespond at responded
  split at responded
  · rename_i alive
    have answered := fleetReply_answers crew name fleet request
    have meets := permitted fleet request alive.2
    rw [Option.some.inj responded] at answered meets
    exact ⟨alive.1, meets, answered⟩
  · cases responded

def reconciled (permits : Fleet → Request → Bool) (members : List CrewMember) (name : Name)
    (program : Running Unit) (fleet : Fleet) : Fleet :=
  (program.advance (fleetRespond (sampleCrew members) permits name) 20 fleet).1

theorem attainable_reconciled {condition : Condition} {permits : Fleet → Request → Bool}
    {used : Name → Prop} {fleet : Fleet} {program : Running Unit}
    (permitted : ∀ crew name fleet request, permits fleet request = true →
      condition.step fleet request (fleetReply crew name fleet request).1)
    (members : List CrewMember) (name : Name)
    (attainable : (fleetRules permissive condition).Attainable Fleet.initial used fleet)
    (unused : ¬ used name)
    (offered : ∃ key, program = reconcileCrew permissive key ∨
      program = reconcileCrewRun permissive key ∨
      program = reconcileModelBackend permissive key) :
    (fleetRules permissive condition).Attainable Fleet.initial
      (fun other => other = name ∨ used other)
      (reconciled permits members name program fleet) := by
  have start : (fleetRules permissive condition).Attainable Fleet.initial used (id fleet) :=
    attainable
  exact start.operate (fleetRespond_answers _ name (permitted _ name)) unused offered 20

def anything (_ : Fleet) (_ : Request) : Bool := true

/-- A crew with a mate is reconciled and left ready. -/
def readied : Fleet :=
  reconciled anything [mate] ⟨0, 0⟩ (reconcileCrew permissive sampleKey) Fleet.initial

/-- The crew is changed to a skipper without a mate, and a run of it is executed. -/
def executedStale : Fleet :=
  reconciled anything [skipper] ⟨0, 2⟩ (reconcileCrewRun permissive sampleRun.key)
    (reconciled anything [skipper] ⟨0, 1⟩ (reconcileCrew permissive sampleKey) readied)

/-- The controller is restarted, and a run of the crew comes before the crew. -/
def failedReady : Fleet :=
  reconciled anything [mate] ⟨1, 0⟩ (reconcileCrewRun permissive sampleRun.key) readied.restart

/-- A run is executed with the runner of an earlier reconcile although the last one
left the crew not ready, and after a restart a run fails for a missing runner
although its crew is stored as ready. -/
theorem registry_departs_from_crews :
    (∃ state, (fleetRules permissive .none).Reachable Fleet.initial state ∧
      ∃ invocation ∈ state.world.invocations,
        invocation.builder = ⟨0, 0⟩ ∧ invocation.last = some (⟨0, 1⟩, false)) ∧
    ∃ state, (fleetRules permissive .none).Reachable Fleet.initial state ∧
      ∃ failure ∈ state.world.failures, failure = (sampleKey, true) := by
  have permitted : ∀ crew name fleet request, anything fleet request = true →
      Condition.none.step fleet request (fleetReply crew name fleet request).1 :=
    fun _ _ _ _ _ => trivial
  have ready := attainable_reconciled permitted [mate] ⟨0, 0⟩ .initial
    (fun impossible => impossible) ⟨sampleKey, .inl rfl⟩
  constructor
  · have changed := attainable_reconciled permitted [skipper] ⟨0, 1⟩ ready (by simp)
      ⟨sampleKey, .inl rfl⟩
    obtain ⟨state, reached, world, _⟩ := attainable_reconciled permitted [skipper] ⟨0, 2⟩ changed
      (by simp) ⟨sampleRun.key, .inr (.inl rfl)⟩
    refine ⟨state, reached, ⟨sampleKey, ⟨0, 0⟩, some (⟨0, 1⟩, false)⟩, ?_, rfl, rfl⟩
    rw [world]
    change _ ∈ executedStale.invocations
    have executed : executedStale.invocations =
        [⟨sampleKey, ⟨0, 0⟩, some (⟨0, 1⟩, false)⟩] := by rfl
    rw [executed]
    exact List.mem_singleton_self _
  · have restarted := ready.crash (.inl ⟨rfl, trivial, rfl⟩)
    obtain ⟨state, reached, world, _⟩ := attainable_reconciled permitted [mate] ⟨1, 0⟩
      restarted (by decide +kernel) ⟨sampleRun.key, .inr (.inl rfl)⟩
    refine ⟨state, reached, (sampleKey, true), ?_, rfl⟩
    rw [world]
    change _ ∈ failedReady.failures
    have failed : failedReady.failures = [(sampleKey, true)] := by rfl
    rw [failed]
    exact List.mem_singleton_self _

def permitsAgreeing (fleet : Fleet) : Request → Bool
  | .registryGet key => (fleet.user key).isNone
  | .registrySet key _ => (fleet.user key).isNone
  | .registryDelete key => (fleet.user key).isNone && !fleet.ready key
  | .updateCrew crew => crew.status.ready || (fleet.registry crew.key).isNone
  | _ => true

theorem permitsAgreeing_permitted (crew : Crew) (name : Name) (fleet : Fleet)
    (request : Request) (permits : permitsAgreeing fleet request = true) :
    Condition.agreeing.step fleet request (fleetReply crew name fleet request).1 := by
  cases request with
  | registryGet | registrySet => simpa [permitsAgreeing, Condition.agreeing] using permits
  | registryDelete => simpa [permitsAgreeing, Condition.agreeing] using permits
  | updateCrew =>
    simp only [permitsAgreeing, Bool.or_eq_true, Option.isNone_iff_eq_none] at permits
    simp only [Condition.agreeing]
    split
    · rfl
    · rename_i notReady
      exact permits.resolve_left notReady
  | _ => trivial

/-- A crew is reconciled and a run of it is executed with its runner. -/
def executedCurrent : Fleet :=
  reconciled permitsAgreeing [mate] ⟨0, 1⟩ (reconcileCrewRun permissive sampleRun.key)
    (reconciled permitsAgreeing [mate] ⟨0, 0⟩ (reconcileCrew permissive sampleKey) Fleet.initial)

theorem run_of_ready_crew_executed :
    ∃ state, (fleetRules permissive .agreeing).Reachable Fleet.initial state ∧
      state.world.invocations = [⟨sampleKey, ⟨0, 0⟩, some (⟨0, 0⟩, true)⟩] ∧
      Followed state.world := by
  have ready := attainable_reconciled permitsAgreeing_permitted [mate] ⟨0, 0⟩ .initial
    (fun impossible => impossible) ⟨sampleKey, .inl rfl⟩
  obtain ⟨state, reached, world, _⟩ := attainable_reconciled permitsAgreeing_permitted [mate]
    ⟨0, 1⟩ ready (by simp) ⟨sampleRun.key, .inr (.inl rfl)⟩
  refine ⟨state, reached, ?_, registry_follows_crews permissive reached⟩
  rw [world]
  change executedCurrent.invocations = _
  rfl

end Departures

end Sovereignite.Shipcrew
