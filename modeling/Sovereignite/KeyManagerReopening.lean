import Sovereignite.EffectSuccess
import Sovereignite.KeyManagerHistory

/-!
# Reopening the key manager

The pools of the roles were free at the start.  Then every occupied handle of a
pool is listed exactly once in the visible metadata, at every point of every
run.  Whatever was left open, a manager whose calls all work can be opened:
it ends without an error, and then every role occupies the handle of its key in
use and no other one.
-/

namespace Sovereignite.KeyManager

open Effect KeyedRecords
open Trust (Context)

/-- The handles that metadata lists, with the roles they are listed for: those of
the keys in use and of the superseded ones, and those of the intended ones. -/
def Snapshot.listing (snapshot : Snapshot) : List (Role × Handle) :=
  (snapshot.roles.entries.flatMap fun entry =>
    entry.2.keys.map fun key => (entry.1, key.handle)) ++
  snapshot.pending.entries.map fun entry => (entry.1, entry.2.handle)

variable {metadata : KeyMetadata} {handle : Handle}

section Listing

variable {manager : Manager} {snapshot : Snapshot} {role : Role}

theorem mem_listing_of_key {key : KeyMetadata} (member : key ∈ (snapshot.entry role).keys) :
    (role, key.handle) ∈ snapshot.listing := by
  rcases List.mem_append.mp member with inState | inPending
  · apply List.mem_append_left
    cases present : snapshot.roles.lookup role with
    | none => simp [Snapshot.entry, present] at inState
    | some state =>
      have inKeys : key ∈ state.keys := by simpa [Snapshot.entry, present] using inState
      rw [List.mem_flatMap]
      exact ⟨⟨role, state⟩, mem_entries_iff.mpr present, List.mem_map.mpr ⟨key, inKeys, rfl⟩⟩
  · apply List.mem_append_right
    have present : snapshot.pending.lookup role = some key := by
      simpa [Snapshot.entry] using inPending
    exact List.mem_map.mpr ⟨⟨role, key⟩, mem_entries_iff.mpr present, rfl⟩

theorem nodup_listing (wellFormed : WellFormed manager snapshot) :
    (snapshot.listing.map Prod.snd).Nodup := by
  have handles : snapshot.listing.map Prod.snd =
      (snapshot.roles.entries.flatMap fun entry => entry.2.keys.map KeyMetadata.handle) ++
        snapshot.pending.entries.flatMap fun entry => [entry.2.handle] := by
    simp [Snapshot.listing, List.map_flatMap, Function.comp_def, ← List.map_eq_flatMap]
  rw [handles]
  exact wellFormed.nodup_handles

theorem nodup_entry_keys {entry : RoleEntry} (accepted : EntryOk manager role entry) :
    (entry.keys.map KeyMetadata.handle).Nodup := by
  cases present : entry.state with
  | none => cases intended : entry.pending <;> simp [RoleEntry.keys, present, intended]
  | some state =>
    obtain ⟨_, _, recorded⟩ := accepted.state state present
    cases intended : entry.pending with
    | none => simpa [RoleEntry.keys, present, intended] using recorded.once
    | some metadata =>
      obtain ⟨_, _, facts⟩ := accepted.pending metadata intended
      have unrecorded := facts.unrecorded state present
      simp only [RoleEntry.keys, present, intended, Option.map_some, Option.getD_some,
        Option.toList_some, List.map_append, List.map_cons, List.map_nil, List.nodup_append]
      refine ⟨recorded.once, List.nodup_singleton _, ?_⟩
      intro _ inKeys _ inPending same
      rw [List.mem_singleton.mp inPending] at same
      exact unrecorded (same ▸ inKeys)

end Listing

namespace Shared

/-- Every handle is tracked, readings of the clock are arbitrary and rotations
may be asked for. -/
abbrev tracking : Setting :=
  unrestricted fun _ => True

variable {env : Platform} {manager : Manager} {process : Process} {since : Time}
variable {fact : Fact} {snapshot : Snapshot} {objects : Handle → Option Public} {role : Role}

theorem verifies_of_key {entry : RoleEntry} {key : KeyMetadata} {object : Public}
    (valid : RoleValid env tracking manager role entry objects)
    (member : key ∈ entry.keys) (pool : manager.Pool role key.handle)
    (present : objects key.handle = some object) : Verifies env key object := by
  obtain ⟨listed, inKeys, same, verified⟩ := valid.listed key.handle pool trivial object present
  have equal := List.inj_on_of_nodup_map (nodup_entry_keys valid.accepted) inKeys member same
  rw [← equal]
  exact verified

theorem Consistent.listed_once (consistent : Consistent env tracking manager snapshot objects)
    (pool : manager.Pool role handle) (occupied : objects handle ≠ none) :
    (snapshot.listing.map Prod.snd).count handle = 1 ∧ (role, handle) ∈ snapshot.listing := by
  obtain ⟨object, present⟩ := Option.ne_none_iff_exists'.mp occupied
  obtain ⟨_, member, rfl, _⟩ := (consistent.roles role).listed handle pool trivial object present
  have listed := mem_listing_of_key member
  refine ⟨?_, listed⟩
  exact List.count_eq_one_of_mem (nodup_listing consistent.wellFormed)
    (List.mem_map.mpr ⟨_, listed, rfl⟩)

theorem Consistent.occupied_iff (consistent : Consistent env tracking manager snapshot objects)
    (settled : Settled snapshot) (pool : manager.Pool role handle) :
    objects handle ≠ none ↔
      ∃ state, snapshot.roles.lookup role = some state ∧ state.active.handle = handle := by
  have valid := consistent.roles role
  constructor
  · intro occupied
    obtain ⟨object, present⟩ := Option.ne_none_iff_exists'.mp occupied
    obtain ⟨key, member, rfl, _⟩ := valid.listed handle pool trivial object present
    have closed := settled.closed role
    rcases List.mem_append.mp member with inState | inPending
    · cases found : (snapshot.entry role).state with
      | none => simp [found] at inState
      | some state =>
        have only := settled.retired role state found
        have inKeys : key ∈ state.keys := by simpa [found] using inState
        rw [RoleState.keys, only] at inKeys
        exact ⟨state, found, by rw [List.mem_singleton.mp inKeys]⟩
    · simp [closed] at inPending
  · rintro ⟨state, found, rfl⟩
    obtain ⟨_, present, _⟩ := valid.active state found
    rw [present]
    simp

theorem Consistent.occupies_one (consistent : Consistent env tracking manager snapshot objects)
    (settled : Settled snapshot) (recorded : snapshot.roles.lookup role ≠ none) :
    ∃! handle, manager.Pool role handle ∧ objects handle ≠ none := by
  obtain ⟨state, found⟩ := Option.ne_none_iff_exists'.mp recorded
  have pool := (consistent.roles role).active_pool found
  refine ⟨_, ⟨pool, (consistent.occupied_iff settled pool).mpr ⟨state, found, rfl⟩⟩, ?_⟩
  rintro _ ⟨otherPool, occupied⟩
  obtain ⟨_, again, rfl⟩ := (consistent.occupied_iff settled otherPool).mp occupied
  cases found.symm.trans again
  rfl

/-- A role that was given a key stays recorded. -/
theorem recorded_of_history {saved : List Snapshot}
    (history : saved.IsChain (Replaced tracking manager)) (member : snapshot ∈ saved)
    (recorded : snapshot.roles.lookup role ≠ none) :
    (saved.headD emptySnapshot).roles.lookup role ≠ none := by
  induction saved with
  | nil => cases member
  | cons _ older ih =>
    rcases List.mem_cons.mp member with rfl | earlier
    · exact recorded
    · cases older with
      | nil => cases earlier
      | cons =>
        obtain ⟨replaced, chain⟩ := List.isChain_cons_cons.mp history
        obtain ⟨_, present⟩ := Option.ne_none_iff_exists'.mp (ih chain earlier)
        obtain ⟨_, found, _⟩ := active_of_advance (replaced role) present
        exact ne_of_eq_of_ne found nofun

/-- Every call works.  The store refuses a save only for its content, and only a
process that finds the store free enters it. -/
def works (process : Process) (world : World) : (request : Request) → Reply request → World → Prop
  | .contextError _, reply, after => reply = none ∧ after = world
  | .acquire _, reply, after =>
    (world.holder = none ∧ reply = .ok () ∧ after = { world with holder := some process }) ∨
      (world.holder ≠ none ∧ reply ≠ .ok () ∧ after = world)
  | .release, _, after => after = { world with holder := none }
  | .now, reply, after => after = { world with clock := reply }
  | .load, reply, after => reply = .ok world.visible ∧ after = world
  | .save next, reply, after =>
    (Accepted world.visible next ∧ reply = .ok () ∧
        after = { world with saved := next :: world.saved }) ∨
      (¬ Accepted world.visible next ∧ reply ≠ .ok () ∧ after = world)
  | .supports _, reply, after => reply = .ok () ∧ after = world
  | .readPublic handle, reply, after =>
    after = world ∧ match world.objects handle with
      | some object => reply = .ok object
      | none => notFound reply = true
  | .generate _ _, reply, after => errorOf reply = none ∧ after = world
  | .persist handle candidate, reply, after =>
    reply = .ok candidate ∧
      after = { world with objects := Function.update world.objects handle (some candidate) }
  | .evictPersistent reference, reply, after =>
    reply = .ok () ∧
      after = { world with objects := Function.update world.objects reference.handle none }
  | .issue _, _, after => after = world

theorem answer_of_works {world after : World} {request : Request} {reply : Reply request}
    (worked : works process world request reply after) :
    answer tracking process world request reply after := by
  cases request with
  | contextError => exact ⟨worked.2, fun _ => worked.1⟩
  | acquire =>
    rcases worked with ⟨free, succeeded, same⟩ | ⟨_, failed, same⟩
    · exact .inr ⟨succeeded, free, same⟩
    · exact .inl ⟨failed, same⟩
  | release => exact worked
  | now => exact ⟨trivial, worked⟩
  | load =>
    obtain ⟨rfl, same⟩ := worked
    refine ⟨same, ?_⟩
    rintro _ ⟨⟩
    rfl
  | save =>
    rcases worked with ⟨accepted, _, same⟩ | ⟨_, failed, same⟩
    · exact .inr ⟨accepted, same⟩
    · exact .inl ⟨failed, same⟩
  | supports => exact worked.2
  | readPublic handle =>
    obtain ⟨same, read⟩ := worked
    refine ⟨same, ?_, ?_⟩
    · rintro _ rfl
      cases present : world.objects handle with
      | none =>
        rw [present] at read
        cases read
      | some =>
        rw [present] at read
        cases read
        rfl
    · intro missing
      cases present : world.objects handle with
      | none => rfl
      | some =>
        rw [present] at read
        dsimp only at read
        rw [read] at missing
        cases missing
  | generate => exact worked.2
  | persist | evictPersistent => exact .inr worked.2
  | issue => exact worked

theorem saved_of_works (world : World) (request : Request) (reply : Reply request) (after : World)
    (worked : works process world request reply after) : world.saved <:+ after.saved := by
  cases request with
  | acquire => obtain ⟨_, _, rfl⟩ | ⟨_, _, rfl⟩ := worked <;> exact List.suffix_rfl
  | save =>
    obtain ⟨_, _, rfl⟩ | ⟨_, _, rfl⟩ := worked
    · exact List.suffix_cons ..
    · exact List.suffix_rfl
  | readPublic => exact worked.1 ▸ List.suffix_rfl
  | release | now | issue request => exact worked ▸ List.suffix_rfl
  | _ => exact worked.2 ▸ List.suffix_rfl

theorem works_total (world : World) (request : Request) :
    ∃ reply after, works process world request reply after := by
  cases request with
  | contextError => exact ⟨none, world, rfl, rfl⟩
  | acquire =>
    by_cases free : world.holder = none
    · exact ⟨.ok (), _, .inl ⟨free, rfl, rfl⟩⟩
    · exact ⟨.error (.message "held"), world, .inr ⟨free, by rintro ⟨⟩, rfl⟩⟩
  | release => exact ⟨(), _, rfl⟩
  | now => exact ⟨world.clock, _, rfl⟩
  | load => exact ⟨.ok world.visible, world, rfl, rfl⟩
  | save next =>
    by_cases accepted : Accepted world.visible next
    · exact ⟨.ok (), _, .inl ⟨accepted, rfl, rfl⟩⟩
    · exact ⟨.error (.message "refused"), world, .inr ⟨accepted, by rintro ⟨⟩, rfl⟩⟩
  | supports => exact ⟨.ok (), world, rfl, rfl⟩
  | readPublic handle =>
    cases present : world.objects handle with
    | none =>
      refine ⟨.error (.sentinel .handleNotFound), world, rfl, ?_⟩
      rw [present]
      rfl
    | some object =>
      refine ⟨.ok object, world, rfl, ?_⟩
      rw [present]
  | generate handle template => exact ⟨.ok (sampleObject handle template), world, rfl, rfl⟩
  | persist _ candidate => exact ⟨.ok candidate, _, rfl, rfl⟩
  | evictPersistent => exact ⟨.ok (), _, rfl, rfl⟩
  | issue request => cases request <;> exact ⟨.error (.message "refused"), world, rfl⟩

/-- A program inside the store ends without an error when its calls work. -/
def Finishes {α : Type} (env : Platform) (manager : Manager) (process : Process)
    (since : Time) (fact : Fact) (program : Managing α) : Prop :=
  ∀ world, Valid env tracking manager world → Locked tracking process since fact world →
    program.Succeeds (works process) (fun _ _ => True) world

namespace Finishes

variable {α β : Type} {program : Managing α}

theorem ret (value : α) : Finishes env manager process since fact (.ret value) :=
  fun _ _ _ => trivial

theorem of {weaker : Fact}
    (implies : ∀ snapshot objects, Consistent env tracking manager snapshot objects →
      fact snapshot objects → weaker snapshot objects)
    (finishes : Finishes env manager process since weaker program) :
    Finishes env manager process since fact program := by
  intro world valid locked
  exact finishes world valid
    ⟨locked.holder, locked.clock, implies _ _ valid.consistent locked.known⟩

/-- Use a fact that is about neither the metadata nor the TPM. -/
theorem assume (learned : Prop)
    (implies : ∀ snapshot objects, Consistent env tracking manager snapshot objects →
      fact snapshot objects → learned)
    (finishes : learned → Finishes env manager process since fact program) :
    Finishes env manager process since fact program := by
  intro world valid locked
  exact finishes (implies _ _ valid.consistent locked.known) world valid locked

theorem bind {next : α → Managing β} {middle : α → Fact}
    (within : Within env tracking manager process since fact program middle)
    (first : Finishes env manager process since fact program)
    (second : ∀ value, Finishes env manager process since (middle value) (next value)) :
    Finishes env manager process since fact (program >>= next) := by
  intro world valid locked
  have succeeds := @Program.Succeeds.withSafe _ _ _ _ _ _ _ _
    (contract env tracking manager process) _
    (fun _ _ _ _ worked => answer_of_works worked) (refl_of (Relies tracking process)) valid
    (within world valid locked) (first world valid locked)
  apply Program.Succeeds.bind
  apply succeeds.weaken
  rintro value after ⟨_, validAfter, _, _, brought⟩
  exact second value after validAfter (brought value rfl)

theorem check {outcome : Except Error α} (succeeded : ∃ value, outcome = .ok value) :
    Finishes env manager process since fact (Program.ofExcept outcome) := by
  obtain ⟨value, rfl⟩ := succeeded
  exact ret value

theorem mapError {annotate : Error → Error}
    (finishes : Finishes env manager process since fact program) :
    Finishes env manager process since fact (Program.mapError annotate program) :=
  fun world valid locked => Program.Succeeds.mapError (finishes world valid locked)

/-- A pure computation that succeeds and what follows it. -/
theorem bindCheck {outcome : Except Error α} {next : α → Managing β}
    (succeeded : ∃ value, outcome = .ok value)
    (second : ∀ value, outcome = .ok value → Finishes env manager process since fact (next value)) :
    Finishes env manager process since fact (Program.ofExcept outcome >>= next) := by
  obtain ⟨value, rfl⟩ := succeeded
  exact second value rfl

theorem checkContext (ctx : Context) :
    Finishes env manager process since fact (KeyManager.checkContext ctx) := by
  rintro _ _ _ _ _ ⟨rfl, _⟩
  trivial

theorem read (handle : Handle) {next : Except Error Public → Managing β}
    (free : ∀ reply, notFound reply = true → Finishes env manager process since
      (fun visible objects => fact visible objects ∧ objects handle = none) (next reply))
    (occupied : ∀ object, Finishes env manager process since
      (fun visible objects => fact visible objects ∧ objects handle = some object)
      (next (.ok object))) :
    Finishes env manager process since fact (KeyManager.ask (.readPublic handle) >>= next) := by
  rintro _ valid locked reply after ⟨rfl, answered⟩
  cases present : after.objects handle with
  | none =>
    rw [present] at answered
    exact free reply answered after valid ⟨locked.holder, locked.clock, locked.known, present⟩
  | some object =>
    rw [present] at answered
    cases answered
    exact occupied object after valid ⟨locked.holder, locked.clock, locked.known, present⟩

theorem forEach {State : Type} {step : State → α → Managing State} {invariant : State → Fact}
    (kept : ∀ state element, Within env tracking manager process since (invariant state)
      (step state element) invariant)
    (finishes : ∀ state element,
      Finishes env manager process since (invariant state) (step state element))
    (state : State) (elements : List α) :
    Finishes env manager process since (invariant state) (Program.forEach step state elements) := by
  induction elements generalizing state with
  | nil => exact ret state
  | cons element _ ih => exact bind (kept state element) (finishes state element) ih

theorem persistSnapshot {next : Snapshot}
    (accepted : ∀ visible objects, Consistent env tracking manager visible objects →
      fact visible objects → Accepted visible next) :
    Finishes env manager process since fact (KeyManager.persistSnapshot next) := by
  intro _ valid locked _ _ answered
  have allowed := accepted _ _ valid.consistent locked.known
  rcases answered with ⟨_, rfl, _⟩ | ⟨refused, _⟩
  · trivial
  · exact absurd allowed refused

end Finishes

variable (ctx : Context)

section Loading

theorem verifyMetadataValue_finishes
    (held : ∀ visible objects, Consistent env tracking manager visible objects →
      fact visible objects → Holds env objects metadata) :
    Finishes env manager process since fact (verifyMetadataValue env ctx metadata) := by
  apply Finishes.bind (checkContext_within ctx) (.checkContext ctx)
  intro _
  apply Finishes.read
  · intro _ _
    apply Finishes.assume False _ False.elim
    rintro visible objects consistent ⟨known, free⟩
    obtain ⟨object, present, _⟩ := held visible objects consistent known
    rw [free] at present
    cases present
  · intro object
    apply Finishes.assume (Verifies env metadata object)
    · rintro visible objects consistent ⟨known, present⟩
      obtain ⟨_, found, verified⟩ := held visible objects consistent known
      rw [present] at found
      cases found
      exact verified
    · intro verified
      exact Finishes.check ⟨(), verifies_iff.mp verified⟩

theorem verifies_of_recorded {object : Public}
    (consistent : Consistent env tracking manager snapshot objects)
    (member : metadata ∈ (snapshot.entry role).keys)
    (present : objects metadata.handle = some object) : Verifies env metadata object := by
  have valid := consistent.roles role
  apply verifies_of_key valid member _ present
  rcases List.mem_append.mp member with inState | inPending
  · cases found : (snapshot.entry role).state with
    | none => simp [found] at inState
    | some state =>
      have inKeys : metadata ∈ state.keys := by simpa [found] using inState
      exact consistent.wellFormed.pool_of_state found (List.mem_map_of_mem inKeys)
  · have intended : (snapshot.entry role).pending = some metadata := by simpa using inPending
    exact consistent.wellFormed.pool_of_pending intended

theorem verifyRetiring_finishes (member : metadata ∈ (snapshot.entry role).keys) :
    Finishes env manager process since (fun visible _ => visible = snapshot)
      (verifyRetiring env role () metadata) := by
  apply Finishes.read
  · intro _ missing
    simp only [missing, if_true]
    exact .ret ()
  · intro object
    apply Finishes.assume (Verifies env metadata object)
    · rintro _ _ consistent ⟨rfl, present⟩
      exact verifies_of_recorded consistent member present
    · intro verified
      exact Finishes.check ⟨(), verifies_iff.mp verified⟩

theorem verifyRole_finishes (role : Role) :
    Finishes env manager process since (fun visible _ => visible = snapshot)
      (verifyRole env ctx snapshot () role) := by
  unfold verifyRole
  cases present : snapshot.roles.lookup role with
  | none => exact .ret ()
  | some state =>
    apply Finishes.bind (verifyMetadataValue_within ctx state.active)
    · apply verifyMetadataValue_finishes
      rintro _ _ consistent rfl
      exact (consistent.roles role).active state present
    · intro _
      have members : ∀ old ∈ state.retiring, old ∈ (snapshot.entry role).keys := by
        intro old member
        apply List.mem_append_left
        have shape : (snapshot.entry role).state = some state := present
        rw [shape]
        exact List.mem_cons_of_mem _ member
      generalize state.retiring = superseded at members
      induction superseded with
      | nil => exact .ret ()
      | cons old _ ih =>
        apply Finishes.bind (within_of_reads (verifyRetiring_reads role old))
        · exact verifyRetiring_finishes (members old List.mem_cons_self)
        · intro _
          exact ih fun key member => members key (List.mem_cons_of_mem _ member)

end Loading

section Reconciling

theorem increment_of_room (room : snapshot.revision.toNat + 1 ≤ maxUint64.toNat) :
    ∃ next, incrementRevision snapshot = .ok next := by
  refine ⟨_, bind_eq_ok.mpr ⟨(), reject_eq_ok.mpr ?_, rfl⟩⟩
  rw [beq_eq_false_iff_ne]
  intro largest
  rw [largest] at room
  omega

theorem accepted_of_increment {draft next : Snapshot}
    (consistent : Consistent env tracking manager snapshot objects)
    (version : draft.version = snapshot.version) (revision : draft.revision = snapshot.revision)
    (incremented : incrementRevision draft = .ok next) : Accepted snapshot next := by
  obtain ⟨_, room, incremented⟩ := bind_eq_ok.mp incremented
  rw [reject_eq_ok, beq_eq_false_iff_ne] at room
  cases incremented
  refine ⟨?_, revision ▸ room, by rw [← revision]⟩
  apply reject_eq_ok.mpr
  dsimp only
  rw [version, consistent.version]
  exact bne_self_eq_false _

theorem reconcilePendingRole_finishes (progress : Snapshot × Bool) (role : Role) :
    Finishes env manager process since
      (fun visible objects => visible = snapshot ∧
        Resolving env tracking manager snapshot progress objects)
      (reconcilePendingRole env ctx progress role) := by
  unfold reconcilePendingRole
  cases intended : progress.1.pending.lookup role with
  | none => exact .ret progress
  | some metadata =>
    apply Finishes.bind (checkContext_within ctx) (.checkContext ctx)
    intro _
    apply Finishes.read
    · intro _ missing
      simp only [missing, if_true]
      exact .ret _
    · intro object
      apply Finishes.assume (Verifies env metadata object)
      · rintro _ _ _ ⟨⟨rfl, resolving⟩, present⟩
        have valid := resolving.roles role
        have shape := entry_of_pending intended
        have member : metadata ∈ (progress.1.entry role).keys := by
          rw [shape]
          exact List.mem_append_right _ (by simp)
        obtain ⟨policy, configured, accepted⟩ := valid.accepted.pending metadata (by rw [shape])
        exact verifies_of_key valid member ⟨policy, configured, accepted.fits.handle⟩ present
      · intro verified
        have checked := verifies_iff.mp verified
        have passed : ∃ value, (verifyPublicMetadata env metadata object).mapError
            (ErrorValue.wrap "refuse to adopt mismatched pending handle") = .ok value :=
          ⟨(), mapError_eq_ok.mpr checked⟩
        apply Finishes.bindCheck passed
        intro _ _
        exact .ret _

theorem reconcilePending_finishes :
    Finishes env manager process since (fun visible _ => visible = snapshot)
      (reconcilePending env manager ctx snapshot) := by
  unfold reconcilePending
  split
  · exact .ret snapshot
  · next unfinished =>
      apply Finishes.assume (snapshot.revision.toNat + 1 ≤ maxUint64.toNat)
      · rintro visible objects consistent rfl
        obtain ⟨⟨role, metadata⟩, _, whole⟩ := List.exists_cons_of_ne_nil
          (mt List.isEmpty_iff.mpr unfinished)
        have present : visible.pending.lookup role = some metadata :=
          mem_entries_iff.mp (by rw [whole]; exact List.mem_cons_self)
        apply consistent.room.pending role
        rw [Snapshot.entry, present]
        simp
      intro room
      apply Finishes.bindCheck ⟨(), requireRevisionCapacity_eq_ok.mpr room⟩
      intro _ _
      apply Finishes.bind (within_of ?_ (within_forEach
        (reconcilePendingRole_resolving ctx snapshot) (snapshot, false) manager.order))
      · apply Finishes.of ?_ (Finishes.forEach (fun progress role => within_weaken
          (fun _ _ _ known => known.1) (reconcilePendingRole_resolving ctx snapshot progress role))
          (fun progress role => reconcilePendingRole_finishes ctx progress role)
          (snapshot, false) manager.order)
        rintro visible objects consistent rfl
        exact ⟨rfl, .start consistent⟩
      · rintro ⟨draft, changed⟩
        cases changed with
        | false => exact .ret snapshot
        | true =>
          apply Finishes.assume
            (draft.version = snapshot.version ∧ draft.revision = snapshot.revision)
          · rintro visible objects consistent ⟨⟨rfl, resolving⟩, _⟩
            exact ⟨resolving.version, resolving.revision⟩
          rintro ⟨version, revision⟩
          apply Finishes.bindCheck (increment_of_room (revision ▸ room))
          intro _ incremented
          apply Finishes.mapError
          apply Finishes.persistSnapshot
          rintro visible objects consistent ⟨⟨rfl, _⟩, _⟩
          exact accepted_of_increment consistent version revision incremented
      · rintro _ _ consistent rfl
        exact ⟨rfl, .start consistent⟩

section Evicting

variable {policy : RolePolicy} {state : RoleState}

theorem evictRetiring_finishes {old : KeyMetadata}
    (present : (snapshot.entry role).state = some state) (member : old ∈ state.retiring)
    (sees : ∀ visible objects, fact visible objects → visible = snapshot) :
    Finishes env manager process since fact (evictRetiring env ctx role () old) := by
  apply Finishes.bind (checkContext_within ctx) (.checkContext ctx)
  intro _
  apply Finishes.read
  · intro reply missing
    simp only [missing, if_true]
    exact .ret ()
  · intro object
    apply Finishes.assume (Verifies env old object)
    · rintro visible objects consistent ⟨known, stored⟩
      have same := sees visible objects known
      subst same
      have inKeys : old ∈ (visible.entry role).keys := by
        apply List.mem_append_left
        rw [present]
        exact List.mem_cons_of_mem _ member
      exact verifies_of_recorded consistent inKeys stored
    · intro verified
      have passed : ∃ value, (verifyPublicMetadata env old object).mapError
          (ErrorValue.wrap "refuse to evict mismatched retiring handle") = .ok value :=
        ⟨(), mapError_eq_ok.mpr (verifies_iff.mp verified)⟩
      apply Finishes.bindCheck passed
      rintro _ _ _ _ _ _ _ ⟨rfl, _⟩
      trivial

theorem evictEach_finishes {superseded : List KeyMetadata}
    (configured : manager.policy role = some policy) (recorded : Recorded role policy state)
    (present : (snapshot.entry role).state = some state)
    (members : ∀ old ∈ superseded, old ∈ state.retiring)
    (evictable : Evictable fact) (sees : ∀ visible objects, fact visible objects →
      visible = snapshot) :
    Finishes env manager process since fact
      (Program.forEach (evictRetiring env ctx role) () superseded) := by
  induction superseded generalizing fact with
  | nil => exact .ret ()
  | cons old _ ih =>
    have here := members old List.mem_cons_self
    apply Finishes.bind (evictRetiring_within ctx configured recorded present here evictable sees)
      (evictRetiring_finishes ctx present here sees)
    intro _
    exact ih (fun key member => members key (List.mem_cons_of_mem _ member))
      (evictable.and_free _) fun visible objects known => sees visible objects known.1

theorem reconcileRetiringRole_finishes (progress : Snapshot × Bool) (role : Role) :
    Finishes env manager process since
      (fun visible objects => visible = snapshot ∧ Trimming snapshot progress objects)
      (reconcileRetiringRole env ctx progress role) := by
  unfold reconcileRetiringRole
  cases present : progress.1.roles.lookup role with
  | none => exact .ret progress
  | some state =>
    dsimp only
    split
    · exact .ret progress
    · next nonempty =>
        have superseded : state.retiring ≠ [] := by
          intro empty
          simp [empty] at nonempty
        apply Finishes.assume (∃ policy, manager.policy role = some policy ∧
          Recorded role policy state ∧ (snapshot.entry role).state = some state)
        · rintro _ _ consistent ⟨rfl, trimming⟩
          exact trimming.recorded consistent present superseded
        · rintro ⟨_, configured, facts, here⟩
          apply Finishes.bind (evictEach_within ctx configured facts here (fun _ member => member)
              (evictable_trimming snapshot progress) fun _ _ known => known.1)
            (evictEach_finishes ctx configured facts here (fun _ member => member)
              (evictable_trimming snapshot progress) fun _ _ known => known.1)
          intro _
          exact .ret _

end Evicting

theorem Consistent.room_to_retire (consistent : Consistent env tracking manager snapshot objects)
    (superseded : ¬ Retired snapshot.entry) : snapshot.revision.toNat + 1 ≤ maxUint64.toNat := by
  simp only [Retired, not_forall] at superseded
  obtain ⟨role, state, present, some⟩ := superseded
  exact consistent.room.retiring role ⟨state, present, .inl some⟩

theorem not_retired_of_hasRetiring (found : hasRetiring snapshot = true) :
    ¬ Retired snapshot.entry := by
  intro retired
  obtain ⟨⟨role, state⟩, member, superseded⟩ := List.any_eq_true.mp found
  have present := mem_entries_iff.mp member
  have none := retired role state present
  simp [none] at superseded

theorem reconcileRetiring_finishes :
    Finishes env manager process since (fun visible _ => visible = snapshot)
      (reconcileRetiring env manager ctx snapshot) := by
  apply Finishes.assume (¬ Retired snapshot.entry → snapshot.revision.toNat + 1 ≤ maxUint64.toNat)
  · rintro visible objects consistent rfl
    exact consistent.room_to_retire
  intro room
  have passed : ∃ value, (if hasRetiring snapshot then requireRevisionCapacity snapshot 1
      else .ok ()) = Except.ok value := by
    refine ⟨(), ?_⟩
    split
    · next found =>
        exact requireRevisionCapacity_eq_ok.mpr (room (not_retired_of_hasRetiring found))
    · rfl
  apply Finishes.bindCheck passed
  intro _ _
  apply Finishes.bind (within_of ?_ (within_forEach
    (reconcileRetiringRole_trimming ctx snapshot) (snapshot, false) manager.order))
  · apply Finishes.of ?_ (Finishes.forEach (fun progress role => within_weaken
      (fun _ _ _ known => known.1) (reconcileRetiringRole_trimming ctx snapshot progress role))
      (fun progress role => reconcileRetiringRole_finishes ctx progress role)
      (snapshot, false) manager.order)
    rintro visible objects _ rfl
    exact ⟨rfl, .start visible objects⟩
  · rintro ⟨draft, changed⟩
    cases changed with
    | false => exact .ret snapshot
    | true =>
      apply Finishes.assume (draft.version = snapshot.version ∧
        draft.revision = snapshot.revision ∧ ¬ Retired snapshot.entry)
      · rintro visible objects consistent ⟨⟨rfl, trimming⟩, _⟩
        exact ⟨trimming.version, trimming.revision, trimming.met rfl⟩
      rintro ⟨version, revision, superseded⟩
      apply Finishes.bindCheck (increment_of_room (revision ▸ room superseded))
      intro _ incremented
      apply Finishes.mapError
      apply Finishes.persistSnapshot
      rintro visible objects consistent ⟨⟨rfl, _⟩, _⟩
      exact accepted_of_increment consistent version revision incremented
  · rintro visible objects _ rfl
    exact ⟨rfl, .start visible objects⟩

end Reconciling

section Opening

theorem openLocked_finishes :
    Finishes env manager process since (fun _ _ => True) (openLocked env manager ctx) := by
  apply Finishes.bind (checkContext_within ctx) (.checkContext ctx)
  intro _
  -- what is loaded is the visible metadata, which is accepted
  rintro _ valid locked _ after ⟨rfl, rfl⟩
  have accepted := validateSnapshot_eq_ok.mpr valid.consistent.wellFormed
  have rest : Finishes env manager process since (fun visible _ => visible = after.visible) (do
        Program.ofExcept (validateSnapshot manager after.visible)
        Program.forEach (verifyRole env ctx after.visible) () manager.order
        let snapshot ← reconcilePending env manager ctx after.visible
        reconcileRetiring env manager ctx snapshot) := by
    apply Finishes.bindCheck ⟨(), accepted⟩
    intro _ _
    apply Finishes.bind
      (within_of_reads (.forEach (fun _ => verifyRole_reads ctx after.visible) () manager.order))
      (Finishes.forEach (fun _ role => within_of_reads (verifyRole_reads ctx after.visible role))
        (fun _ role => verifyRole_finishes ctx role) () manager.order)
    intro _
    apply Finishes.bind (reconcilePending_within ctx after.visible) (reconcilePending_finishes ctx)
    intro middle
    exact .of (fun _ _ _ known => known.1.1) (reconcileRetiring_finishes ctx)
  exact rest after valid ⟨locked.holder, locked.clock, rfl⟩

theorem openManager_succeeds {world : World}
    (valid : Valid env tracking manager world) (free : world.holder = none) :
    (openManager env manager ctx).Succeeds (works process)
      (fun _ after => Valid env tracking manager after ∧ Settled after.visible) world := by
  intro _ _ acquired
  rcases acquired with ⟨_, rfl, rfl⟩ | ⟨held, _⟩
  · have inside := valid.withHolder (some process)
    have locked : Locked tracking process world.clock (fun _ _ => True)
        { world with holder := some process } := ⟨rfl, trivial, trivial⟩
    have opened := @Program.Succeeds.withSafe _ _ _ _ _ _ _ _
      (contract env tracking manager process) _
      (fun _ _ _ _ worked => answer_of_works worked) (refl_of (Relies tracking process)) inside
      (openLocked_within ctx _ inside locked) (openLocked_finishes ctx _ inside locked)
    change Program.Succeeds (works process) _
      ((openLocked env manager ctx >>= fun _ => .ret ()).attempt >>= fun outcome =>
        ask .release >>= fun _ => Program.ofExcept outcome) _
    apply Program.Succeeds.bind
    apply Program.Succeeds.attempt
    apply Program.Succeeds.bind
    apply opened.weaken
    rintro snapshot last ⟨_, validLast, _, _, brought⟩ _ _ rfl
    obtain ⟨same, settled⟩ := (brought snapshot rfl).known
    refine ⟨validLast.withHolder none, ?_⟩
    change Settled last.visible
    rw [same]
    exact settled
  · exact absurd free held

/-- In every run that starts with free pools, at every point, each occupied handle
of a pool is listed exactly once in the visible metadata, for the role of the
pool.  When the store is then free, opening the manager with calls that all work
comes to an end; it always ends without an error, with no superseded and no
intended key, and each role that was ever given a key occupies the handle of its
key in use and no other one, while the other roles occupy none. -/
theorem handles_listed_once_and_reopened {objects : Handle → Option Public} {clock : Time}
    {state : SystemState signature World Process Error Unit} (encodes : EncodesKeys env)
    (untouched : ∀ role handle, manager.Pool role handle → objects handle = none)
    (reached : (rules env tracking manager).Reachable (initialWorld objects clock) state) :
    (∀ role handle, manager.Pool role handle → state.world.objects handle ≠ none →
      (state.world.visible.listing.map Prod.snd).count handle = 1 ∧
        (role, handle) ∈ state.world.visible.listing) ∧
    (state.world.holder = none → ∀ process ctx,
      (∃ outcome after, (openManager env manager ctx).Ends (works process) state.world
        outcome after) ∧
      ∀ outcome after, (openManager env manager ctx).Ends (works process) state.world
          outcome after →
        outcome = .ok () ∧ after.visible.pending.entries = [] ∧
        (∀ role recorded, after.visible.roles.lookup role = some recorded →
          recorded.retiring = []) ∧
        (∀ role handle, manager.Pool role handle → (after.objects handle ≠ none ↔
          ∃ recorded, after.visible.roles.lookup role = some recorded ∧
            recorded.active.handle = handle)) ∧
        ∀ snapshot ∈ after.visible :: state.world.saved, ∀ role,
          snapshot.roles.lookup role ≠ none →
            ∃! handle, manager.Pool role handle ∧ after.objects handle ≠ none) := by
  have valid := valid_of_reachable encodes (fun role handle pool _ => untouched role handle pool)
    reached
  refine ⟨fun role handle pool occupied => valid.consistent.listed_once pool occupied, ?_⟩
  intro free _ ctx
  refine ⟨Program.exists_ends works_total _ _, ?_⟩
  intro _ after ended
  obtain ⟨_, rfl, validAfter, settled⟩ := (openManager_succeeds ctx valid free).ends ended
  refine ⟨rfl, ?_, settled.retired, ?_, ?_⟩
  · rw [List.eq_nil_iff_forall_not_mem]
    rintro ⟨role, _⟩ member
    have intended := mem_entries_iff.mp member
    cases intended.symm.trans (settled.closed role)
  · intro role _ pool
    exact validAfter.consistent.occupied_iff settled pool
  · have kept : state.world.saved <:+ after.saved :=
      ended.relates (fun before after => before.saved <:+ after.saved) (fun _ => List.suffix_rfl)
        (fun _ _ _ => List.IsSuffix.trans) saved_of_works
    intro _ member _ recorded
    refine validAfter.consistent.occupies_one settled ?_
    rcases List.mem_cons.mp member with rfl | earlier
    · exact recorded
    · exact recorded_of_history (validAfter.history.imp fun _ _ => And.right)
        (kept.subset earlier) recorded

section Room

variable {setting : Setting} {clock : Time}
variable {state : SystemState signature World Process Error Unit} (encodes : EncodesKeys env)
variable (untouched : ∀ role handle, manager.Pool role handle → setting.tracked handle →
  objects handle = none)
variable (reached : (rules env setting manager).Reachable (initialWorld objects clock) state)

include encodes untouched reached

end Room

end Opening

section SampleDevice

open Trust (samplePlatform sampleInputs)

/-- The authority gets a key, and its rotation crashes when the object of the next
key is persisted. -/
def interruptedDevice : World :=
  { interrupt 1 70 14 (rotate (samplePlatform sampleInputs) deviceManager .background
        roleDeviceRootCA >>= fun _ => .ret ())
      (execute 0 60 (ensureRole (samplePlatform sampleInputs) deviceManager .background
          roleDeviceRootCA >>= fun _ => .ret ())
        (initialWorld (fun _ => none) 0)) with holder := none }

theorem interruptedDevice_attained :
    Attained (samplePlatform sampleInputs) tracking deviceManager interruptedDevice 2 := by
  have forward : ∀ clock time, tracking.reads clock (max clock time) := fun _ _ => trivial
  have created := (attained_initial (samplePlatform sampleInputs) tracking
    deviceManager 0).execute forward
    (.ensureRole .background roleDeviceRootCA) 60
  have rotating := created.interrupt forward (.rotate trivial .background roleDeviceRootCA) 70 14
  have held : (interrupt 1 70 14 (rotate (samplePlatform sampleInputs) deviceManager .background
        roleDeviceRootCA >>= fun _ => .ret ())
      (execute 0 60 (ensureRole (samplePlatform sampleInputs) deviceManager .background
          roleDeviceRootCA >>= fun _ => .ret ())
        (initialWorld (fun _ => none) 0))).holder = some 1 := by decide +kernel
  exact rotating.crash held (by decide)

/-- Both handles of the authority are occupied, one of them by the object of an
intent, and reopening leaves one. -/
theorem interruptedDevice_listed_and_reopened :
    (interruptedDevice.holder = none ∧
      interruptedDevice.visible.listing = [(roleDeviceRootCA, 0x81000000),
        (roleDeviceRootCA, 0x81000001)] ∧
      (interruptedDevice.objects 0x81000001).isSome = true) ∧
    (∀ role handle, deviceManager.Pool role handle → interruptedDevice.objects handle ≠ none →
      (interruptedDevice.visible.listing.map Prod.snd).count handle = 1 ∧
        (role, handle) ∈ interruptedDevice.visible.listing) ∧
    ∀ process ctx outcome after,
      (openManager (samplePlatform sampleInputs) deviceManager ctx).Ends (works process)
          interruptedDevice outcome after →
        outcome = .ok () ∧ after.visible.pending.entries = [] ∧
          ∃! handle, deviceManager.Pool roleDeviceRootCA handle ∧ after.objects handle ≠ none := by
  obtain ⟨_, reached, same, _⟩ := interruptedDevice_attained
  have both := handles_listed_once_and_reopened samplePlatform_encodesKeys
    (fun _ _ _ => rfl) reached
  rw [same] at both
  refine ⟨⟨rfl, by decide +kernel, by decide +kernel⟩, both.1, ?_⟩
  intro process ctx outcome after ended
  obtain ⟨succeeded, closed, _, _, one⟩ := (both.2 rfl process ctx).2 outcome after ended
  have given : interruptedDevice.saved.any
      (fun snapshot => (snapshot.roles.lookup roleDeviceRootCA).isSome) = true := by decide +kernel
  obtain ⟨snapshot, member, recorded⟩ := List.any_eq_true.mp given
  exact ⟨succeeded, closed, one snapshot (.tail _ member) _ (Option.isSome_iff_ne_none.mp recorded)⟩

theorem accepts_of_accepted {current next : Snapshot} (accepted : Accepted current next) :
    accepts current next = true := by
  simp [accepts, accepted.envelope, accepted.room, accepted.advances, Except.isOk, Except.toBool]

/-- The calls of these runs work. -/
theorem works_respond (time : Time) (world : World) (request : Request) (reply : Reply request)
    (after : World) (responded : respond process time world request = some (reply, after)) :
    works process world request reply after := by
  cases request with
  | acquire =>
    simp only [respond] at responded
    split at responded
    · next free =>
        cases responded
        exact .inl ⟨free, rfl, rfl⟩
    · cases responded
  | save next =>
    simp only [respond] at responded
    split at responded
    · next accepted =>
        cases responded
        exact .inl ⟨.of_accepts accepted, rfl, rfl⟩
    · next refused =>
        cases responded
        exact .inr ⟨fun accepted => refused (accepts_of_accepted accepted), by rintro ⟨⟩, rfl⟩
  | readPublic =>
    simp only [respond] at responded
    split at responded
    · next _ present =>
        cases responded
        refine ⟨rfl, ?_⟩
        rw [present]
    · next absent =>
        cases responded
        refine ⟨rfl, ?_⟩
        rw [absent]
        rfl
  | release =>
    cases responded
    rfl
  | now =>
    cases responded
    rfl
  | issue => cases responded
  | _ =>
    cases responded
    exact ⟨rfl, rfl⟩

/-- A manager may be opened before any role was given a key, and then a configured
role occupies no handle at all. -/
theorem reopened_role_without_handle :
    ∃ state, (rules (samplePlatform sampleInputs) tracking deviceManager).Reachable
        (initialWorld (fun _ => none) 0) state ∧
      ∃ after, (openManager (samplePlatform sampleInputs) deviceManager .background).Ends (works 0)
          state.world (.ok ()) after ∧
        ¬ ∀ role policy, deviceManager.policy role = some policy →
          ∃! handle, handle ∈ policy.handles ∧ after.objects handle ≠ none := by
  refine ⟨SystemRules.initial (initialWorld (fun _ => none) 0), .refl, ?_⟩
  refine ⟨_, Program.ends_of_advance (works_respond 0) 1000 _ _ (by decide +kernel), ?_⟩
  intro occupied
  obtain ⟨_, ⟨member, present⟩, _⟩ := occupied roleDeviceIPNSIdentity _ rfl
  rw [List.mem_singleton.mp member] at present
  exact present (by decide +kernel)

end SampleDevice

end Shared

end Sovereignite.KeyManager
