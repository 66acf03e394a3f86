import Sovereignite.KeyManagerSeparation

/-!
# What every operation keeps up

Some snapshots are watched: the visible one, or all that a power loss may
restore.  The active keys of the watched snapshots are in the TPM, and an
eviction is asked for only at handles that no watched snapshot lists as active.
Every operation keeps that up, if the keys it finds to be retired are not
active in a watched snapshot.
-/

namespace Sovereignite.KeyManager

open Effect
open Trust (Context)

structure Scope where
  snapshots : RecoverableCell Snapshot → List Snapshot
  visible : ∀ cell : RecoverableCell Snapshot, cell.visible ∈ snapshots cell
  write : ∀ (cell : RecoverableCell Snapshot) next durable,
    snapshots (cell.write next durable) ⊆ next :: snapshots cell
  settled : ∀ (cell : RecoverableCell Snapshot) next, snapshots (cell.write next true) ⊆ [next]

/-- No watched snapshot lists a handle as active. -/
def Spare (scope : Scope) (handle : Handle) (world : World) : Prop :=
  ∀ snapshot ∈ scope.snapshots world.store, ¬ snapshot.ActiveAt handle

/-- The active keys are in the TPM, and evictions spare them. -/
structure Sound (env : Platform) (scope : Scope) (world : World) : Prop where
  held : ∀ snapshot ∈ scope.snapshots world.store, ActiveHeld env world.objects snapshot
  evictions : ∀ eviction ∈ world.evictions,
    ∀ snapshot ∈ scope.snapshots eviction.store, ¬ snapshot.ActiveAt eviction.handle

section Steps

variable {env : Platform} {scope : Scope} {world : World}

variable (sound : Sound env scope world)
include sound

theorem Sound.visible : ActiveHeld env world.objects world.store.visible :=
  sound.held _ (scope.visible world.store)

theorem Sound.save {next : Snapshot} (held : ActiveHeld env world.objects next) (succeeded : Bool) :
    Sound env scope (world.save next succeeded) where
  held := by
    intro snapshot member
    rcases List.mem_cons.mp (scope.write world.store next succeeded member) with rfl | older
    · exact held
    · exact sound.held snapshot older
  evictions := sound.evictions

variable {handle : Handle}

/-- A handle without an object is spare. -/
theorem Sound.spare (free : world.objects handle = none) : Spare scope handle world :=
  fun snapshot member => (sound.held snapshot member).not_activeAt free

theorem Sound.persist (free : world.objects handle = none) (object : Public) :
    Sound env scope (world.persist handle object) where
  held snapshot member := (sound.held snapshot member).update (sound.spare free snapshot member) _
  evictions := sound.evictions

theorem Sound.target (spare : Spare scope handle world) :
    Sound env scope (world.target handle) where
  held := sound.held
  evictions := List.forall_mem_cons.mpr ⟨spare, sound.evictions⟩

theorem Sound.evict (spare : Spare scope handle world) : Sound env scope (world.evict handle) where
  held snapshot member := (sound.held snapshot member).update (spare snapshot member) _
  evictions := (sound.target spare).evictions

end Steps

/-- Steps that leave the metadata. -/
def SameStore (before after : World) : Prop :=
  after.store = before.store

instance : IsPreorder World SameStore where
  refl _ := rfl
  trans _ _ _ first second := Eq.trans second first

/-- Steps that leave the TPM. -/
def SameObjects (before after : World) : Prop :=
  after.objects = before.objects

instance : IsPreorder World SameObjects where
  refl _ := rfl
  trans _ _ _ first second := Eq.trans second first

/-- The keys that a snapshot lists to be retired are spare. -/
def Retirable (scope : Scope) (snapshot : Snapshot) (world : World) : Prop :=
  ∀ role state, snapshot.roles.lookup role = some state →
    ∀ old ∈ state.retiring, Spare scope old.handle world

/-- The snapshot in memory is the visible one, and its superseded keys may be
evicted. -/
structure Current (manager : Manager) (scope : Scope) (snapshot : Snapshot)
    (world : World) : Prop where
  visible : world.store.visible = snapshot
  separated : Separated manager snapshot
  retirable : Retirable scope snapshot world

abbrev alone (env : Platform) (scope : Scope) : Contract signature World where
  answer := answer
  valid := Sound env scope
  rely := Eq
  guarantee _ _ := True

variable {env : Platform} {manager : Manager} {scope : Scope}

theorem Current.lasting {snapshot : Snapshot} :
    Lasting SameStore (Current manager scope snapshot) := by
  intro _ _ same current
  refine ⟨?_, current.separated, ?_⟩
  · rw [same]
    exact current.visible
  · intro role state found old member watched inside
    rw [same] at inside
    exact current.retirable role state found old member watched inside

section Requests

variable {pre : World → Prop}

theorem ask_quiet (request : Request)
    (unchanged : ∀ world reply after, answer world request reply after → after = world) :
    Ensures (alone env scope) Eq pre (ask request) fun _ _ => True := by
  rintro _ sound _ _ _ rfl _ _ answered
  rcases unchanged _ _ _ answered with rfl
  exact ⟨sound, trivial, sound, rfl, fun _ _ => trivial⟩

theorem ask_load : Ensures (alone env scope) Eq pre (ask .load) fun reply world =>
      ∀ snapshot, reply = .ok snapshot → world.store.visible = snapshot := by
  rintro _ sound _ _ _ rfl _ _ ⟨rfl, loaded⟩
  refine ⟨sound, trivial, sound, rfl, ?_⟩
  rintro _ ⟨⟩ snapshot equal
  exact (loaded snapshot equal).symm

theorem ask_readPublic (handle : Handle) :
    Ensures (alone env scope) Eq pre (ask (.readPublic handle)) fun reply world =>
      (∀ object, reply = .ok object → world.objects handle = some object) ∧
        (notFound reply = true → world.objects handle = none) := by
  rintro _ sound _ _ _ rfl _ _ ⟨rfl, facts⟩
  refine ⟨sound, trivial, sound, rfl, ?_⟩
  rintro _ ⟨⟩
  exact facts

theorem quiet_of_reads {α : Type} {program : Managing α} (reads : program.Only Reading) :
    Ensures (alone env scope) Eq pre program fun _ _ => True :=
  .strengthen (fun _ _ => trivial) (Ensures.only (fun request reading =>
    ask_quiet request fun _ _ _ answered => unchanged_of_reading reading answered) reads)

theorem checkContext_quiet (ctx : Context) :
    Ensures (alone env scope) Eq pre (checkContext ctx) fun _ _ => True :=
  quiet_of_reads (checkContext_reads ctx)

theorem verifyMetadataValue_quiet (ctx : Context) (metadata : KeyMetadata) :
    Ensures (alone env scope) Eq pre (verifyMetadataValue env ctx metadata) fun _ _ => True :=
  quiet_of_reads (verifyMetadataValue_reads ctx metadata)

theorem persistSnapshot_current {next : Snapshot} (separated : Separated manager next)
    (held : ∀ world, Sound env scope world → pre world → ActiveHeld env world.objects next) :
    Ensures (alone env scope) SameObjects pre (persistSnapshot next)
      fun saved world => saved = next ∧ Current manager scope saved world := by
  rintro world sound known _ _ rfl reply _ (⟨failed, rfl⟩ | ⟨_, rfl⟩)
  · refine ⟨sound, trivial, ?_⟩
    cases reply with
    | ok => exact absurd rfl failed
    | error => exact ⟨sound, rfl, fun _ equal => nomatch equal⟩
  · have kept := sound.save (held _ sound known) reply.isOk
    refine ⟨kept, trivial, ?_⟩
    cases reply with
    | error => exact ⟨kept, rfl, fun _ equal => nomatch equal⟩
    | ok =>
      refine ⟨kept, rfl, ?_⟩
      rintro _ ⟨⟩
      refine ⟨rfl, rfl, separated, ?_⟩
      intro _ _ found _ member _ inside
      rcases List.mem_singleton.mp (scope.settled world.store next inside) with rfl
      exact separated.not_activeAt_retiring found member

theorem ask_evict (reference : ObjectReference)
    (spare : ∀ world, pre world → Spare scope reference.handle world) :
    Ensures (alone env scope) SameStore pre (ask (.evictPersistent reference)) fun _ _ => True := by
  rintro _ sound known _ _ rfl _ _ (⟨_, rfl⟩ | rfl)
  · have kept := sound.target (spare _ known)
    exact ⟨kept, trivial, kept, rfl, fun _ _ => trivial⟩
  · have kept := sound.evict (spare _ known)
    exact ⟨kept, trivial, kept, rfl, fun _ _ => trivial⟩

end Requests

end Sovereignite.KeyManager
