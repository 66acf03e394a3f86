import Sovereignite.KeyManagerCustody
import Sovereignite.KeyManagerScheduler

/-!
# Managers that share one metadata store

Any number of processes run operations of the key manager and of its scheduler
over one metadata store and one TPM.  The store is exclusive: an operation goes
on only while no other process is inside one.  The requests of the processes
interleave in any order; a crash stops some processes between two requests and
frees the store if one of them was inside.  A save may fail with or without
effect and a visible save survives; a call of the TPM may fail, and creating or
evicting an object may fail after it took effect.
-/

namespace Sovereignite.KeyManager.Shared

open Effect
open Trust (Context)

abbrev Process := Nat

/-- The visible snapshots so far, newest first, the objects of the TPM, the
process inside the store and the last reading of the clock. -/
structure World where
  saved : List Snapshot
  objects : Handle → Option Public
  holder : Option Process
  clock : Time

def World.visible (world : World) : Snapshot :=
  world.saved.headD emptySnapshot

/-- How a call of a process may be answered, and the world after it. -/
def answer (setting : Setting) (process : Process) (world : World) :
    (request : Request) → Reply request → World → Prop
  | .contextError ctx, reply, after =>
    after = world ∧ (ctx = .background → reply = none)
  | .acquire _, reply, after =>
    (reply ≠ .ok () ∧ after = world) ∨
      (reply = .ok () ∧ world.holder = none ∧ after = { world with holder := some process })
  | .release, _, after => after = { world with holder := none }
  | .now, reply, after =>
    setting.reads world.clock reply ∧ after = { world with clock := reply }
  | .load, reply, after =>
    after = world ∧ ∀ snapshot, reply = .ok snapshot → snapshot = world.visible
  | .save next, reply, after =>
    (reply ≠ .ok () ∧ after = world) ∨
      (Accepted world.visible next ∧ after = { world with saved := next :: world.saved })
  | .supports _, _, after => after = world
  | .readPublic handle, reply, after =>
    after = world ∧ (∀ object, reply = .ok object → world.objects handle = some object) ∧
      (notFound reply = true → world.objects handle = none)
  | .generate _ _, _, after => after = world
  | .persist handle candidate, reply, after =>
    (errorOf reply ≠ none ∧ after = world) ∨
      after = { world with objects := Function.update world.objects handle (some candidate) }
  | .evictPersistent reference, reply, after =>
    (reply ≠ .ok () ∧ after = world) ∨
      after = { world with objects := Function.update world.objects reference.handle none }
  | .issue _, _, after => after = world

theorem unchanged_of_reading {setting : Setting} {process : Process} {request : Request}
    (reading : Reading request) {world after : World} {reply : Reply request}
    (answered : answer setting process world request reply after) : after = world := by
  cases request with
  | contextError | readPublic => exact answered.1
  | issue => exact answered
  | _ => exact reading.elim

inductive Offered (env : Platform) (setting : Setting) (manager : Manager) :
    Managing Unit → Prop where
  | openManager (ctx : Context) : Offered env setting manager (openManager env manager ctx)
  | ensureRole (ctx : Context) (role : Role) :
      Offered env setting manager (ensureRole env manager ctx role >>= fun _ => .ret ())
  | rotate (asked : setting.rotates) (ctx : Context) (role : Role) :
      Offered env setting manager (rotate env manager ctx role >>= fun _ => .ret ())
  | metadata (ctx : Context) (role : Role) :
      Offered env setting manager (metadata env manager ctx role >>= fun _ => .ret ())
  | publicSnapshot (ctx : Context) :
      Offered env setting manager (publicSnapshot env manager ctx >>= fun _ => .ret ())
  | reconcileRetiringKeys (ctx : Context) :
      Offered env setting manager (reconcileRetiringKeys env manager ctx)
  | issueCertificate (ctx : Context) (request : CertificateRequest) :
      Offered env setting manager (issueCertificate env manager ctx request >>= fun _ => .ret ())
  | runOnce (ctx : Context) :
      Offered env setting manager (runOnce env manager ctx >>= fun _ => .ret ())

def crash (stopped : Process → Prop) (before after : World) : Prop :=
  ((∃ process, before.holder = some process ∧ stopped process) ∧
      after = { before with holder := none }) ∨
    ((∀ process, before.holder = some process → ¬ stopped process) ∧ after = before)

def rules (env : Platform) (setting : Setting) (manager : Manager) :
    SystemRules signature World Process Error Unit where
  answer := answer setting
  offered _ program := Offered env setting manager program
  crash := crash

def initialWorld (objects : Handle → Option Public) (clock : Time) : World where
  saved := [emptySnapshot]
  objects := objects
  holder := none
  clock := clock

/-- One snapshot replaced another one, role by role. -/
def Replaced (setting : Setting) (manager : Manager) (newer older : Snapshot) : Prop :=
  ∀ role, Advance setting manager role (older.entry role) (newer.entry role)

/-- A record with superseded keys, or one that has them once its intent is
adopted. -/
def Retires (entry : RoleEntry) : Prop :=
  ∃ state, entry.state = some state ∧ (state.retiring ≠ [] ∨ entry.pending ≠ none)

/-- A revision can advance as often as finishing what was left open takes. -/
structure Roomy (revision : Nat) (entries : Role → RoleEntry) : Prop where
  pending : ∀ role, (entries role).pending ≠ none → revision + 1 ≤ maxUint64.toNat
  retiring : ∀ role, Retires (entries role) → revision + 1 ≤ maxUint64.toNat
  both : ∀ role other, (entries role).pending ≠ none → Retires (entries other) →
    revision + 2 ≤ maxUint64.toNat

/-- No creation was left open. -/
def Closed (entries : Role → RoleEntry) : Prop :=
  ∀ role, (entries role).pending = none

/-- No superseded key was left. -/
def Retired (entries : Role → RoleEntry) : Prop :=
  ∀ role state, (entries role).state = some state → state.retiring = []

/-- The objects of every pool are accounted for, and what was left open can be
finished. -/
structure Consistent (env : Platform) (setting : Setting) (manager : Manager)
    (snapshot : Snapshot) (objects : Handle → Option Public) : Prop where
  version : snapshot.version = metadataVersion
  room : Roomy snapshot.revision.toNat snapshot.entry
  roles : ∀ role, RoleValid env setting manager role (snapshot.entry role) objects

/-- The visible snapshot is consistent with the TPM, every snapshot that was
visible is accepted when it is loaded, and each one replaced the one before
it. -/
structure Valid (env : Platform) (setting : Setting) (manager : Manager)
    (world : World) : Prop where
  consistent : Consistent env setting manager world.visible world.objects
  accepted : ∀ snapshot ∈ world.saved, WellFormed manager snapshot
  history : world.saved.IsChain fun newer older =>
    Accepted older newer ∧ Replaced setting manager newer older

/-- What a process may assume of the steps of the others: time goes on, and
while it is inside the store nothing else changes. -/
structure Relies (setting : Setting) (process : Process) (before after : World) : Prop where
  clock : setting.reads before.clock after.clock
  mine : before.holder = some process →
    after.holder = some process ∧ after.saved = before.saved ∧ after.objects = before.objects
  theirs : before.holder ≠ some process → after.holder ≠ some process

def discipline (env : Platform) (setting : Setting) (manager : Manager) :
    Discipline World Process where
  valid := Valid env setting manager
  rely := Relies setting
  fresh process world := world.holder ≠ some process

section Relations

variable {setting : Setting} {process : Process}

instance : IsPreorder World (Relies setting process) where
  refl _ := ⟨setting.refl _, fun held => ⟨held, rfl, rfl⟩, fun free => free⟩
  trans _ _ _ before after := by
    refine ⟨setting.trans _ _ _ before.clock after.clock, ?_,
      fun free => after.theirs (before.theirs free)⟩
    intro held
    obtain ⟨middle, saved, objects⟩ := before.mine held
    obtain ⟨last, savedLast, objectsLast⟩ := after.mine middle
    exact ⟨last, savedLast.trans saved, objectsLast.trans objects⟩

/-- The steps of an operation inside the store. -/
structure Inside (setting : Setting) (process : Process) (before after : World) : Prop where
  clock : setting.reads before.clock after.clock
  held : before.holder = some process → after.holder = some process

instance : IsPreorder World (Inside setting process) where
  refl _ := ⟨setting.refl _, fun held => held⟩
  trans _ _ _ before after :=
    ⟨setting.trans _ _ _ before.clock after.clock, fun held => after.held (before.held held)⟩

/-- Whole operations, from outside the store to outside the store. -/
structure Outside (setting : Setting) (process : Process) (before after : World) : Prop where
  clock : setting.reads before.clock after.clock
  free : before.holder ≠ some process → after.holder ≠ some process

instance : IsPreorder World (Outside setting process) where
  refl _ := ⟨setting.refl _, fun free => free⟩
  trans _ _ _ before after :=
    ⟨setting.trans _ _ _ before.clock after.clock, fun free => after.free (before.free free)⟩

theorem Relies.inside {before after : World} (relied : Relies setting process before after) :
    Inside setting process before after :=
  ⟨relied.clock, fun held => (relied.mine held).1⟩

theorem Relies.outside {before after : World} (relied : Relies setting process before after) :
    Outside setting process before after :=
  ⟨relied.clock, relied.theirs⟩

abbrev Fact := Snapshot → (Handle → Option Public) → Prop

/-- What a process inside the store knows, some time after a reading of the
clock. -/
structure Locked (setting : Setting) (process : Process) (since : Time) (fact : Fact)
    (world : World) : Prop where
  holder : world.holder = some process
  clock : setting.reads since world.clock
  known : fact world.visible world.objects

variable {since : Time}

theorem Locked.lasting {fact : Fact} :
    Lasting (Relies setting process) (Locked setting process since fact) := by
  intro before after relied locked
  obtain ⟨holder, saved, objects⟩ := relied.mine locked.holder
  have visible : after.visible = before.visible := by
    unfold World.visible
    rw [saved]
  refine ⟨holder, setting.trans _ _ _ locked.clock relied.clock, ?_⟩
  rw [visible, objects]
  exact locked.known

theorem Locked.imp {first second : Fact} {world : World}
    (implies : ∀ snapshot objects, first snapshot objects → second snapshot objects)
    (locked : Locked setting process since first world) :
    Locked setting process since second world :=
  ⟨locked.holder, locked.clock, implies _ _ locked.known⟩

/-- A process outside the store, some time after a reading of the clock. -/
structure Free (setting : Setting) (process : Process) (since : Time) (world : World) : Prop where
  holder : world.holder ≠ some process
  clock : setting.reads since world.clock

theorem Free.lasting : Lasting (Outside setting process) (Free setting process since) := by
  intro _ _ outside free
  exact ⟨outside.free free.holder, setting.trans _ _ _ free.clock outside.clock⟩

/-- What a process inside the store does is nothing the others rely on. -/
theorem relies_of_holder {before after : World} {other : Process}
    (held : before.holder = some process) (different : other ≠ process)
    (clock : setting.reads before.clock after.clock)
    (holder : after.holder = some process ∨ after.holder = none) :
    Relies setting other before after := by
  refine ⟨clock, ?_, ?_⟩
  · intro otherHeld
    rw [held] at otherHeld
    exact absurd (Option.some.inj otherHeld).symm different
  · intro _ otherHolds
    rcases holder with kept | freed
    · rw [kept] at otherHolds
      exact different (Option.some.inj otherHolds).symm
    · rw [freed] at otherHolds
      cases otherHolds

end Relations

section Room

variable {setting : Setting} {manager : Manager} {revision : Nat} {before after : Role → RoleEntry}

theorem not_retires {entries : Role → RoleEntry} (closed : Closed entries)
    (retired : Retired entries) (role : Role) : ¬ Retires (entries role) := by
  rintro ⟨state, present, superseded | intended⟩
  · exact superseded (retired role state present)
  · exact intended (closed role)

theorem Roomy.settled {entries : Role → RoleEntry} (closed : Closed entries)
    (retired : Retired entries) : Roomy revision entries where
  pending role intended := absurd (closed role) intended
  retiring role retires := absurd retires (not_retires closed retired role)
  both role _ intended := absurd (closed role) intended

theorem retires_of_advance {role : Role} {before after : RoleEntry}
    (advance : Advance setting manager role before after) (closed : after.pending = none)
    (retires : Retires after) : Retires before := by
  obtain ⟨state, present, superseded | intended⟩ := retires
  · cases advance with
    | same => exact ⟨state, present, .inl superseded⟩
    | intended => cases closed
    | dropped => exact ⟨state, present, .inl superseded⟩
    | activated _ previous =>
      cases previous with
      | none =>
        cases present
        exact absurd rfl superseded
      | some recorded => exact ⟨recorded, rfl, .inr (by simp)⟩
    | forgotten =>
      cases present
      exact absurd rfl superseded
  · exact absurd closed intended

theorem Roomy.close (room : Roomy revision before) {role : Role}
    (unfinished : (before role).pending ≠ none) (closed : Closed after)
    (advances : ∀ role, Advance setting manager role (before role) (after role)) :
    Roomy (revision + 1) after where
  pending role intended := absurd (closed role) intended
  retiring other retires := by
    have space := room.both role other unfinished
      (retires_of_advance (advances other) (closed other) retires)
    omega
  both role _ intended := absurd (closed role) intended

theorem Roomy.intend {role : Role} (closed : Closed before) (retired : Retired before)
    (first : revision + 2 ≤ maxUint64.toNat)
    (replacing : (before role).state ≠ none → revision + 3 ≤ maxUint64.toNat)
    (same : (after role).state = (before role).state)
    (others : ∀ other, other ≠ role → after other = before other) : Roomy (revision + 1) after := by
  have retires : ∀ other, Retires (after other) → revision + 3 ≤ maxUint64.toNat := by
    intro other held
    by_cases here : other = role
    · subst here
      obtain ⟨_, present, _⟩ := held
      apply replacing
      rw [← same, present]
      simp
    · rw [others other here] at held
      exact absurd held (not_retires closed retired other)
  refine ⟨fun _ _ => by omega, ?_, ?_⟩
  · intro other held
    have space := retires other held
    omega
  · intro _ other _ held
    have space := retires other held
    omega

end Room

section Validity

variable {env : Platform} {setting : Setting} {manager : Manager} {world : World}

theorem valid_initial {objects : Handle → Option Public} {clock : Time}
    (untouched : ∀ role handle, manager.Pool role handle → setting.tracked handle →
      objects handle = none) :
    Valid env setting manager (initialWorld objects clock) where
  consistent :=
    ⟨rfl, .settled (fun _ => rfl) (by rintro _ _ ⟨⟩), fun role => roleValid_empty (untouched role)⟩
  accepted snapshot member := by
    cases List.mem_singleton.mp member
    exact ⟨rfl, fun role => ⟨by rintro _ ⟨⟩, by rintro _ ⟨⟩⟩⟩
  history := List.isChain_singleton _

theorem Consistent.wellFormed {snapshot : Snapshot} {objects : Handle → Option Public}
    (consistent : Consistent env setting manager snapshot objects) :
    WellFormed manager snapshot :=
  ⟨consistent.version, fun role => (consistent.roles role).accepted⟩

theorem Valid.save (valid : Valid env setting manager world) {next : Snapshot}
    (consistent : Consistent env setting manager next world.objects)
    (replaces : Accepted world.visible next ∧ Replaced setting manager next world.visible) :
    Valid env setting manager { world with saved := next :: world.saved } where
  consistent := consistent
  accepted := by
    intro snapshot member
    rcases List.mem_cons.mp member with rfl | earlier
    · exact consistent.wellFormed
    · exact valid.accepted snapshot earlier
  history := by
    have history := valid.history
    unfold World.visible at replaces
    cases saved : world.saved with
    | nil => exact List.isChain_singleton _
    | cons =>
      rw [saved] at replaces history
      exact List.isChain_cons_cons.mpr ⟨replaces, history⟩

theorem Valid.withObjects (valid : Valid env setting manager world)
    {objects : Handle → Option Public}
    (consistent : Consistent env setting manager world.visible objects) :
    Valid env setting manager { world with objects } :=
  ⟨consistent, valid.accepted, valid.history⟩

theorem Valid.withHolder (valid : Valid env setting manager world)
    (holder : Option Process) : Valid env setting manager { world with holder } :=
  ⟨valid.consistent, valid.accepted, valid.history⟩

theorem Valid.withClock (valid : Valid env setting manager world) (clock : Time) :
    Valid env setting manager { world with clock } :=
  ⟨valid.consistent, valid.accepted, valid.history⟩

section Objects

variable {snapshot : Snapshot} {objects : Handle → Option Public} {role : Role}

theorem Consistent.evict (consistent : Consistent env setting manager snapshot objects)
    {handle : Handle} (pool : manager.Pool role handle)
    (unused : ∀ state, (snapshot.entry role).state = some state → state.active.handle ≠ handle) :
    Consistent env setting manager snapshot (Function.update objects handle none) := by
  refine ⟨consistent.version, consistent.room, fun other => (consistent.roles other).evict ?_⟩
  intro state present same
  have otherPool := (consistent.roles other).active_pool present
  rw [same] at otherPool
  have sameRole := Manager.pool_role otherPool pool
  subst sameRole
  exact unused state present same

theorem Consistent.persist (consistent : Consistent env setting manager snapshot objects)
    {metadata : KeyMetadata} {object : Public}
    (intended : (snapshot.entry role).pending = some metadata)
    (verified : Verifies env metadata object) :
    Consistent env setting manager snapshot
      (Function.update objects metadata.handle (some object)) := by
  refine ⟨consistent.version, consistent.room, fun other => ?_⟩
  have pool : manager.Pool role metadata.handle := by
    obtain ⟨policy, configured, accepted⟩ := (consistent.roles role).accepted.pending _ intended
    exact ⟨policy, configured, accepted.fits.handle⟩
  by_cases same : other = role
  · subst same
    have valid := consistent.roles other
    have shape : snapshot.entry other = ⟨(snapshot.entry other).state, some metadata⟩ := by
      rw [← intended]
    rw [shape] at valid ⊢
    exact valid.persist verified
  · apply (consistent.roles other).elsewhere
    intro otherPool
    exact same (Manager.pool_role otherPool pool)

end Objects

end Validity

end Sovereignite.KeyManager.Shared
