import Sovereignite.KeyManagerOperationSafety
import Sovereignite.KeyManagerShared

/-!
# Opening the shared store

A process inside the store keeps the world valid while it finishes what another
process, or one that crashed, left open: each intended key is adopted or
dropped, and superseded keys are evicted and then forgotten.
-/

namespace Sovereignite.KeyManager.Shared

open Effect
open Trust (Context)

abbrev contract (env : Platform) (setting : Setting) (manager : Manager)
    (process : Process) : Contract signature World where
  answer := answer setting process
  valid := Valid env setting manager
  rely := Relies setting process
  guarantee before after := ∀ other, other ≠ process → Relies setting other before after

/-- Inside the store a program leads from one fact to another. -/
abbrev Within {α : Type} (env : Platform) (setting : Setting) (manager : Manager)
    (process : Process) (since : Time) (fact : Fact) (program : Managing α)
    (post : α → Fact) : Prop :=
  Ensures (contract env setting manager process) (Inside setting process)
    (Locked setting process since fact) program
    fun value => Locked setting process since (post value)

variable {env : Platform} {setting : Setting} {manager : Manager} {process : Process}
variable {since : Time} {fact : Fact} (ctx : Context)

section Facts

variable {α : Type} {program : Managing α} {post : α → Fact}

theorem within_of {weaker : Fact}
    (implies : ∀ snapshot objects, Consistent env setting manager snapshot objects →
      fact snapshot objects → weaker snapshot objects)
    (within : Within env setting manager process since weaker program post) :
    Within env setting manager process since fact program post := by
  intro world valid locked
  exact within world valid ⟨locked.holder, locked.clock, implies _ _ valid.consistent locked.known⟩

theorem within_assume {pure : Prop}
    (implies : ∀ snapshot objects, Consistent env setting manager snapshot objects →
      fact snapshot objects → pure)
    (within : pure → Within env setting manager process since fact program post) :
    Within env setting manager process since fact program post :=
  .derive (fun _ valid locked => implies _ _ valid.consistent locked.known) within

theorem within_ret {value : α}
    (holds : ∀ snapshot objects, Consistent env setting manager snapshot objects →
      fact snapshot objects → post value snapshot objects) :
    Within env setting manager process since fact (.ret value) post :=
  .ret fun _ valid locked =>
    ⟨locked.holder, locked.clock, holds _ _ valid.consistent locked.known⟩

theorem within_weaken {stronger : α → Fact}
    (implies : ∀ value snapshot objects, stronger value snapshot objects →
      post value snapshot objects)
    (within : Within env setting manager process since fact program stronger) :
    Within env setting manager process since fact program post :=
  .weaken (fun value _ locked => locked.imp (implies value)) within

theorem within_check {outcome : Except Error α} :
    Within env setting manager process since fact (Program.ofExcept outcome)
      fun value snapshot objects => fact snapshot objects ∧ outcome = .ok value := by
  cases outcome with
  | ok => exact within_ret fun _ _ _ known => ⟨known, rfl⟩
  | error => exact .fail

theorem within_rejectIf {test : Bool} {error : Error} :
    Within env setting manager process since fact (Program.rejectIf test error) fun _ => fact := by
  cases test with
  | false => exact within_ret fun _ _ _ known => known
  | true => exact .fail

theorem within_forEach {State : Type} {step : State → α → Managing State}
    {invariant : State → Fact} {settled : α → State → Prop}
    (kept : ∀ state element, Within env setting manager process since (invariant state)
      (step state element) fun next visible objects => invariant next visible objects ∧
        settled element next ∧ ∀ other, settled other state → settled other next)
    (state : State) (elements : List α) :
    Within env setting manager process since (invariant state)
      (Program.forEach step state elements) fun final visible objects =>
        invariant final visible objects ∧ ∀ element ∈ elements, settled element final := by
  have step : ∀ state element, Ensures (contract env setting manager process)
      (Inside setting process) (Locked setting process since (invariant state)) (step state element)
      fun next world => Locked setting process since (invariant next) world ∧
        settled element next ∧ ∀ other, settled other state → settled other next := by
    intro state element
    refine .weaken ?_ (kept state element)
    intro _ world locked
    exact ⟨locked.imp fun _ _ holds => holds.1, locked.known.2⟩
  refine .weaken ?_ (Ensures.forEachSettled step state elements)
  intro _ _ known
  exact known.1.imp fun _ _ holds => ⟨holds, known.2.1⟩

end Facts

section Requests

theorem ask_quiet {request : Request} {learned : Reply request → Fact}
    (unchanged : ∀ world reply after, answer setting process world request reply after →
      after = world ∧ learned reply world.visible world.objects) :
    Within env setting manager process since fact (ask request)
      fun reply snapshot objects => fact snapshot objects ∧ learned reply snapshot objects := by
  intro _ _ locked current valid relied reply after answered
  obtain ⟨rfl, facts⟩ := unchanged current reply after answered
  have now := Locked.lasting _ _ relied locked
  refine ⟨valid, fun other _ => refl_of (Relies setting other) _, valid, relied.inside, ?_⟩
  rintro _ ⟨⟩
  exact ⟨now.holder, now.clock, now.known, facts⟩

theorem ask_unchanged (request : Request)
    (unchanged : ∀ world reply after, answer setting process world request reply after →
      after = world) :
    Within env setting manager process since fact (ask request) fun _ => fact :=
  within_weaken (fun _ _ _ known => known.1) (@ask_quiet _ _ _ _ _ _ _ (fun _ _ _ => True)
    fun world reply after answered => ⟨unchanged world reply after answered, trivial⟩)

theorem within_of_reads {α : Type} {program : Managing α} (reads : program.Only Reading) :
    Within env setting manager process since fact program fun _ => fact :=
  Ensures.only (fun request reading => ask_unchanged request fun _ _ _ answered =>
    unchanged_of_reading reading answered) reads

theorem checkContext_within :
    Within env setting manager process since fact (checkContext ctx) fun _ => fact :=
  within_of_reads (checkContext_reads ctx)

theorem verifyMetadataValue_within (metadata : KeyMetadata) :
    Within env setting manager process since fact
      (verifyMetadataValue env ctx metadata) fun _ => fact :=
  within_of_reads (verifyMetadataValue_reads ctx metadata)

theorem ask_load :
    Within env setting manager process since fact (ask .load) fun reply visible objects =>
      fact visible objects ∧ ∀ snapshot, reply = .ok snapshot → snapshot = visible :=
  ask_quiet fun _ _ _ answered => answered

theorem ask_readPublic (handle : Handle) :
    Within env setting manager process since fact (ask (.readPublic handle))
      fun reply visible objects => fact visible objects ∧
        (∀ object, reply = .ok object → objects handle = some object) ∧
        (notFound reply = true → objects handle = none) :=
  ask_quiet fun _ _ _ answered => answered

theorem ask_inside {request : Request} {post : Reply request → Fact}
    (changed : ∀ world reply after, Valid env setting manager world →
      fact world.visible world.objects → answer setting process world request reply after →
      Valid env setting manager after ∧ after.holder = world.holder ∧
        after.clock = world.clock ∧ post reply after.visible after.objects) :
    Within env setting manager process since fact (ask request) post := by
  intro _ _ locked current valid relied reply after answered
  have now := Locked.lasting _ _ relied locked
  obtain ⟨kept, holder, clock, facts⟩ := changed current reply after valid now.known answered
  have held : after.holder = some process := holder.trans now.holder
  have reads : setting.reads current.clock after.clock := by
    rw [clock]
    exact setting.refl _
  refine ⟨kept, ?_, kept, ?_, ?_⟩
  · intro _ different
    exact relies_of_holder now.holder different reads (.inl held)
  · exact ⟨setting.trans _ _ _ relied.clock reads, fun _ => held⟩
  · rintro _ ⟨⟩
    exact ⟨held, setting.trans _ _ _ now.clock reads, facts⟩

theorem persistSnapshot_within {next : Snapshot}
    (consistent : ∀ visible objects, Consistent env setting manager visible objects →
      fact visible objects → Consistent env setting manager next objects)
    (advances : ∀ visible objects, Consistent env setting manager visible objects →
      fact visible objects → Replaced setting manager next visible) :
    Within env setting manager process since fact (persistSnapshot next)
      fun saved visible objects => (saved = next ∧ visible = next) ∧
        ∃ older, fact older objects := by
  have saved : Within env setting manager process since fact (ask (.save next))
      fun reply visible objects =>
        reply = .ok () → visible = next ∧ ∃ older, fact older objects := by
    apply ask_inside
    rintro _ reply _ valid known (⟨failed, rfl⟩ | ⟨accepted, rfl⟩)
    · exact ⟨valid, rfl, rfl, fun succeeded => absurd succeeded failed⟩
    · refine ⟨valid.save (consistent _ _ valid.consistent known)
        ⟨accepted, advances _ _ valid.consistent known⟩, rfl, rfl, fun _ => ⟨rfl, _, known⟩⟩
  refine .sequence saved fun reply => ?_
  cases reply with
  | error => exact .fail
  | ok => exact within_ret fun _ _ _ known => ⟨⟨rfl, (known rfl).1⟩, (known rfl).2⟩

end Requests

variable {objects : Handle → Option Public} {progress : Snapshot × Bool}

section Pending

/-- Some intents of a snapshot are adopted or dropped.  The flag says whether
one was met. -/
structure Resolving (env : Platform) (setting : Setting) (manager : Manager)
    (snapshot : Snapshot) (progress : Snapshot × Bool) (objects : Handle → Option Public) :
    Prop where
  version : progress.1.version = snapshot.version
  revision : progress.1.revision = snapshot.revision
  roles : ∀ role, RoleValid env setting manager role (progress.1.entry role) objects
  advances : Replaced setting manager progress.1 snapshot
  untouched : ∀ role, (progress.1.entry role).pending ≠ none →
    progress.1.entry role = snapshot.entry role
  unchanged : progress.2 = false → progress.1 = snapshot
  met : progress.2 = true → ∃ role, (snapshot.entry role).pending ≠ none

theorem Resolving.start {snapshot : Snapshot}
    (consistent : Consistent env setting manager snapshot objects) :
    Resolving env setting manager snapshot (snapshot, false) objects where
  version := rfl
  revision := rfl
  roles := consistent.roles
  advances role := .same _
  untouched _ _ := rfl
  unchanged _ := rfl
  met := by rintro ⟨⟩

/-- The intent of one role is closed. -/
theorem Resolving.step {snapshot next : Snapshot} {role : Role} {after : RoleEntry}
    (resolving : Resolving env setting manager snapshot progress objects)
    (intended : (progress.1.entry role).pending ≠ none)
    (version : next.version = progress.1.version) (revision : next.revision = progress.1.revision)
    (entries : ∀ other, next.entry other = if other = role then after else progress.1.entry other)
    (closed : after.pending = none) (valid : RoleValid env setting manager role after objects)
    (advance : Advance setting manager role (progress.1.entry role) after) :
    Resolving env setting manager snapshot (next, true) objects where
  version := version.trans resolving.version
  revision := revision.trans resolving.revision
  roles other := by
    rw [entries other]
    split
    · next same => exact same ▸ valid
    · exact resolving.roles other
  advances other := by
    rw [entries other]
    split
    · next same =>
        subst same
        rw [← resolving.untouched other intended]
        exact advance
    · exact resolving.advances other
  untouched other pending := by
    rw [entries other] at pending ⊢
    split at pending
    · exact absurd closed pending
    · next different =>
        rw [if_neg different]
        exact resolving.untouched other pending
  unchanged := by rintro ⟨⟩
  met _ := by
    rw [resolving.untouched role intended] at intended
    exact ⟨role, intended⟩

/-- Closing the intent of one role leaves those of the others closed. -/
theorem closed_of_entries {before next : Snapshot} {role : Role} {after : RoleEntry}
    (entries : ∀ other, next.entry other = if other = role then after else before.entry other)
    (closed : after.pending = none) :
    (next.entry role).pending = none ∧
      ∀ other, (before.entry other).pending = none → (next.entry other).pending = none := by
  refine ⟨by rw [entries, if_pos rfl, closed], fun other before => ?_⟩
  rw [entries]
  split
  · exact closed
  · exact before

theorem entry_of_pending {snapshot : Snapshot} {role : Role} {metadata : KeyMetadata}
    (intended : snapshot.pending.lookup role = some metadata) :
    snapshot.entry role = ⟨snapshot.roles.lookup role, some metadata⟩ := by
  rw [Snapshot.entry, intended]

/-- What an adopted intent does to the record of its role. -/
theorem advance_activated {role : Role} {state : Option RoleState} {metadata : KeyMetadata}
    (valid : RoleValid env setting manager role ⟨state, some metadata⟩ objects) :
    Advance setting manager role ⟨state, some metadata⟩ ⟨some (promote state metadata), none⟩ := by
  obtain ⟨policy, configured, accepted⟩ := valid.accepted.pending metadata rfl
  apply Advance.activated policy state metadata configured accepted
  intro recorded present
  exact valid.timely policy recorded metadata configured present rfl

theorem reconcilePendingRole_resolving (snapshot : Snapshot)
    (progress : Snapshot × Bool) (role : Role) :
    Within env setting manager process since
      (fun visible objects => visible = snapshot ∧
        Resolving env setting manager snapshot progress objects)
      (reconcilePendingRole env ctx progress role)
      fun next visible objects => (visible = snapshot ∧
        Resolving env setting manager snapshot next objects) ∧
        (next.1.entry role).pending = none ∧
        ∀ other, (progress.1.entry other).pending = none → (next.1.entry other).pending = none := by
  unfold reconcilePendingRole
  cases intended : progress.1.pending.lookup role with
  | none => exact within_ret fun _ _ _ known => ⟨known, intended, fun _ closed => closed⟩
  | some metadata =>
    have shape := entry_of_pending intended
    have unfinished : (progress.1.entry role).pending ≠ none := by simp [shape]
    refine .sequence (checkContext_within ctx) fun _ => ?_
    refine .sequence (ask_readPublic metadata.handle) fun read => ?_
    cases missing : notFound read with
    | true =>
      refine within_ret fun visible objects _ known => ?_
      obtain ⟨⟨same, resolving⟩, _, free⟩ := known
      have valid := resolving.roles role
      have advance : Advance setting manager role (progress.1.entry role)
          ⟨progress.1.roles.lookup role, none⟩ := by
        rw [shape]
        exact .dropped _ _
      rw [shape] at valid
      have entries := entry_withoutPending progress.1 role
      exact ⟨⟨same, resolving.step unfinished rfl rfl entries rfl (valid.drop (free missing))
        advance⟩, closed_of_entries entries rfl⟩
    | false =>
      refine .take fun object accepted => ?_
      have found := mapError_eq_ok.mp accepted
      refine .take fun _ verified => ?_
      refine within_ret fun visible objects _ known => ?_
      obtain ⟨⟨same, resolving⟩, present, _⟩ := known
      have valid := resolving.roles role
      rw [shape] at valid
      have created : Holds env objects metadata :=
        ⟨object, present object found, verifies_iff.mpr (mapError_eq_ok.mp verified)⟩
      have advance := advance_activated valid
      rw [← shape] at advance
      have entries := entry_activate progress.1 role metadata
      exact ⟨⟨same, resolving.step unfinished rfl rfl entries rfl (valid.activate created)
        advance⟩, closed_of_entries entries rfl⟩

theorem mem_order_of_policy {role : Role} {policy : RolePolicy}
    (configured : manager.policy role = some policy) : role ∈ manager.order := by
  have member := List.mem_of_find?_eq_some configured
  have named := List.find?_some configured
  rw [beq_iff_eq] at named
  exact List.mem_map.mpr ⟨policy, member, named⟩

theorem Resolving.closed {snapshot : Snapshot}
    (resolving : Resolving env setting manager snapshot progress objects)
    (visited : ∀ role ∈ manager.order, (progress.1.entry role).pending = none) :
    Closed progress.1.entry := by
  intro role
  cases intended : (progress.1.entry role).pending with
  | none => rfl
  | some metadata =>
    obtain ⟨_, configured, _⟩ := (resolving.roles role).accepted.pending metadata intended
    rw [← intended]
    exact visited role (mem_order_of_policy configured)

theorem incrementRevision_spec {snapshot next : Snapshot}
    (incremented : incrementRevision snapshot = .ok next) :
    next.version = snapshot.version ∧ next.entry = snapshot.entry ∧
      next.revision.toNat = snapshot.revision.toNat + 1 := by
  obtain ⟨_, room, incremented⟩ := bind_eq_ok.mp incremented
  rw [reject_eq_ok, beq_eq_false_iff_ne] at room
  cases incremented
  exact ⟨rfl, rfl, toNat_succ room⟩

theorem Resolving.consistent {snapshot draft next : Snapshot}
    (before : Consistent env setting manager snapshot objects)
    (resolving : Resolving env setting manager snapshot (draft, true) objects)
    (closed : Closed draft.entry) (incremented : incrementRevision draft = .ok next) :
    Consistent env setting manager next objects := by
  obtain ⟨version, entries, revision⟩ := incrementRevision_spec incremented
  obtain ⟨_, unfinished⟩ := resolving.met rfl
  refine ⟨?_, ?_, ?_⟩
  · rw [version, resolving.version]
    exact before.version
  · rw [entries, revision, resolving.revision]
    exact before.room.close unfinished closed resolving.advances
  · rw [entries]
    exact resolving.roles

theorem reconcilePending_within (snapshot : Snapshot) :
    Within env setting manager process since (fun visible _ => visible = snapshot)
      (reconcilePending env manager ctx snapshot)
      fun result visible _ => (visible = result ∧ Closed result.entry) ∧
        (Closed snapshot.entry → result = snapshot) := by
  unfold reconcilePending
  split
  · next empty =>
      refine within_ret fun visible _ _ same => ⟨⟨same, ?_⟩, fun _ => rfl⟩
      intro role
      exact KeyedRecords.lookup_eq_none_of_entries (List.isEmpty_iff.mp empty)
  · next unfinished =>
      have found : ¬ Closed snapshot.entry := by
        intro closed
        apply unfinished
        rw [List.isEmpty_iff, List.eq_nil_iff_forall_not_mem]
        rintro ⟨role, _⟩ member
        have present := KeyedRecords.mem_entries_iff.mp member
        have absent := closed role
        rw [Snapshot.entry, present] at absent
        cases absent
      refine .take fun _ _ => ?_
      refine .sequence (within_of ?_ (within_forEach
        (reconcilePendingRole_resolving ctx snapshot) (snapshot, false) manager.order)) ?_
      · rintro visible objects consistent rfl
        exact ⟨rfl, .start consistent⟩
      rintro ⟨_, changed⟩
      cases changed with
      | false =>
        refine within_ret fun visible objects _ known => ?_
        obtain ⟨⟨_, resolving⟩, visited⟩ := known
        have closed := resolving.closed visited
        rw [resolving.unchanged rfl] at closed
        exact absurd closed found
      | true =>
        refine .take fun next incremented => ?_
        refine within_weaken ?_ (.mapError (persistSnapshot_within ?_ ?_))
        · rintro _ visible objects ⟨⟨rfl, rfl⟩, _, ⟨_, resolving⟩, visited⟩
          refine ⟨⟨rfl, ?_⟩, fun closed => absurd closed found⟩
          rw [(incrementRevision_spec incremented).2.1]
          exact resolving.closed visited
        · rintro visible objects consistent ⟨⟨rfl, resolving⟩, visited⟩
          exact resolving.consistent consistent (resolving.closed visited) incremented
        · rintro _ _ _ ⟨⟨rfl, resolving⟩, _⟩
          intro role
          rw [(incrementRevision_spec incremented).2.1]
          exact resolving.advances role

end Pending

section Retiring

/-- A fact that evictions leave true. -/
def Evictable (fact : Fact) : Prop :=
  ∀ visible objects handle, fact visible objects →
    fact visible (Function.update objects handle none)

theorem update_free {handle evicted : Handle} (free : objects handle = none) :
    Function.update objects evicted none handle = none := by
  by_cases same : handle = evicted
  · rw [same, Function.update_self]
  · rw [Function.update_of_ne same]
    exact free

theorem Evictable.and_free (evictable : Evictable fact) (handle : Handle) :
    Evictable fun visible objects => fact visible objects ∧ objects handle = none :=
  fun _ _ evicted known => ⟨evictable _ _ evicted known.1, update_free known.2⟩

theorem ask_evict (reference : ObjectReference) (role : Role) (evictable : Evictable fact)
    (pool : manager.Pool role reference.handle)
    (unused : ∀ visible objects, fact visible objects → ∀ state,
      (visible.entry role).state = some state → state.active.handle ≠ reference.handle) :
    Within env setting manager process since fact (ask (.evictPersistent reference))
      fun reply visible objects => fact visible objects ∧
        (reply = .ok () → objects reference.handle = none) := by
  apply ask_inside
  rintro world _ _ valid known (⟨failed, rfl⟩ | rfl)
  · exact ⟨valid, rfl, rfl, known, fun succeeded => absurd succeeded failed⟩
  · refine ⟨valid.withObjects (valid.consistent.evict pool (unused _ _ known)), rfl, rfl, ?_, ?_⟩
    · exact evictable _ _ _ known
    · exact fun _ => Function.update_self reference.handle none world.objects

theorem active_ne_retiring {role : Role} {policy : RolePolicy} {state : RoleState}
    (recorded : Recorded role policy state) {old : KeyMetadata} (member : old ∈ state.retiring) :
    state.active.handle ≠ old.handle := by
  intro same
  have once := recorded.once
  simp only [RoleState.keys, List.map_cons, List.nodup_cons] at once
  exact once.1 (same ▸ List.mem_map_of_mem member)

section Evicting

variable {snapshot : Snapshot} {role : Role} {policy : RolePolicy} {state : RoleState}

theorem evictRetiring_within {old : KeyMetadata}
    (configured : manager.policy role = some policy) (recorded : Recorded role policy state)
    (present : (snapshot.entry role).state = some state) (member : old ∈ state.retiring)
    (evictable : Evictable fact) (sees : ∀ visible objects, fact visible objects →
      visible = snapshot) :
    Within env setting manager process since fact (evictRetiring env ctx role () old)
      fun _ visible objects => fact visible objects ∧ objects old.handle = none := by
  refine .sequence (checkContext_within ctx) fun _ => ?_
  refine .sequence (ask_readPublic old.handle) fun read => ?_
  cases missing : notFound read with
  | true => exact within_ret fun _ _ _ known => ⟨known.1, known.2.2 missing⟩
  | false =>
    refine .take fun object _ => ?_
    refine .take fun _ _ => ?_
    have pool : manager.Pool role (objectReference old).handle :=
      recorded.pool configured (List.mem_map_of_mem (List.mem_cons_of_mem _ member))
    have unused : ∀ visible objects, fact visible objects → ∀ other,
        (visible.entry role).state = some other →
        other.active.handle ≠ (objectReference old).handle := by
      intro visible objects known _ here
      rw [sees visible objects known, present] at here
      cases here
      exact active_ne_retiring recorded member
    refine .sequence (within_of (fun _ _ _ known => known.1)
      (ask_evict (objectReference old) role evictable pool unused)) fun evicted => ?_
    refine within_weaken ?_ within_check
    rintro _ _ _ ⟨⟨known, free⟩, accepted⟩
    exact ⟨known, free (mapError_eq_ok.mp accepted)⟩

theorem evictEach_within {superseded : List KeyMetadata}
    (configured : manager.policy role = some policy) (recorded : Recorded role policy state)
    (present : (snapshot.entry role).state = some state)
    (members : ∀ old ∈ superseded, old ∈ state.retiring)
    (evictable : Evictable fact) (sees : ∀ visible objects, fact visible objects →
      visible = snapshot) :
    Within env setting manager process since fact
      (Program.forEach (evictRetiring env ctx role) () superseded)
      fun _ visible objects => fact visible objects ∧
        ∀ old ∈ superseded, objects old.handle = none := by
  induction superseded generalizing fact with
  | nil => exact within_ret fun _ _ _ known => ⟨known, by rintro _ ⟨⟩⟩
  | cons old _ ih =>
    refine .sequence (evictRetiring_within ctx configured recorded present
      (members old List.mem_cons_self) evictable sees) fun _ => ?_
    refine within_weaken ?_ (ih (fun key member => members key (List.mem_cons_of_mem _ member))
      (evictable.and_free _) fun visible objects known => sees visible objects known.1)
    rintro _ _ _ ⟨⟨known, free⟩, others⟩
    exact ⟨known, List.forall_mem_cons.mpr ⟨free, others⟩⟩

end Evicting

/-- Superseded keys of some roles of a snapshot are forgotten; their handles are
free.  The flag says whether such a role was met. -/
structure Trimming (snapshot : Snapshot) (progress : Snapshot × Bool)
    (objects : Handle → Option Public) : Prop where
  version : progress.1.version = snapshot.version
  revision : progress.1.revision = snapshot.revision
  entries : ∀ role, progress.1.entry role = snapshot.entry role ∨
    ∃ state pending, snapshot.entry role = ⟨some state, pending⟩ ∧
      progress.1.entry role = ⟨some { state with retiring := [] }, pending⟩ ∧
      ∀ old ∈ state.retiring, objects old.handle = none
  unchanged : progress.2 = false → progress.1 = snapshot
  met : progress.2 = true → ¬ Retired snapshot.entry

theorem Trimming.start (snapshot : Snapshot) (objects : Handle → Option Public) :
    Trimming snapshot (snapshot, false) objects :=
  ⟨rfl, rfl, fun _ => .inl rfl, fun _ => rfl, by rintro ⟨⟩⟩

theorem evictable_trimming (snapshot : Snapshot) (progress : Snapshot × Bool) :
    Evictable fun visible objects => visible = snapshot ∧ Trimming snapshot progress objects := by
  rintro _ _ _ ⟨same, trimming⟩
  refine ⟨same, trimming.version, trimming.revision, ?_, trimming.unchanged, trimming.met⟩
  intro role
  rcases trimming.entries role with equal | ⟨state, pending, before, after, free⟩
  · exact .inl equal
  · exact .inr ⟨state, pending, before, after, fun old member => update_free (free old member)⟩

/-- A role that still has superseded keys was not visited. -/
theorem Trimming.untouched {snapshot : Snapshot} (trimming : Trimming snapshot progress objects)
    {role : Role} {state : RoleState} (present : progress.1.roles.lookup role = some state)
    (superseded : state.retiring ≠ []) : progress.1.entry role = snapshot.entry role := by
  rcases trimming.entries role with equal | ⟨recorded, pending, _, after, _⟩
  · exact equal
  · have same : progress.1.roles.lookup role = some { recorded with retiring := [] } :=
      congrArg RoleEntry.state after
    rw [present] at same
    cases same
    exact absurd rfl superseded

theorem Trimming.recorded {snapshot : Snapshot} (trimming : Trimming snapshot progress objects)
    (consistent : Consistent env setting manager snapshot objects) {role : Role}
    {state : RoleState} (present : progress.1.roles.lookup role = some state)
    (superseded : state.retiring ≠ []) :
    ∃ policy, manager.policy role = some policy ∧ Recorded role policy state ∧
      (snapshot.entry role).state = some state := by
  have here : (snapshot.entry role).state = some state := by
    rw [← trimming.untouched present superseded]
    exact present
  obtain ⟨policy, configured, facts⟩ := (consistent.roles role).accepted.state state here
  exact ⟨policy, configured, facts, here⟩

theorem Trimming.step {snapshot : Snapshot} (trimming : Trimming snapshot progress objects)
    {role : Role} {state : RoleState} (present : progress.1.roles.lookup role = some state)
    (superseded : state.retiring ≠ []) (free : ∀ old ∈ state.retiring, objects old.handle = none) :
    Trimming snapshot (withoutRetiring progress.1 role state, true) objects where
  version := trimming.version
  revision := trimming.revision
  entries other := by
    rw [entry_withoutRetiring]
    split
    · next same =>
        subst same
        have untouched := trimming.untouched present superseded
        refine .inr ⟨state, (progress.1.entry other).pending, ?_, rfl, free⟩
        rw [← untouched, Snapshot.entry, present]
    · exact trimming.entries other
  unchanged := by rintro ⟨⟩
  met _ retired := by
    have untouched := trimming.untouched present superseded
    apply superseded
    apply retired role state
    rw [← untouched]
    exact present

theorem reconcileRetiringRole_trimming (snapshot : Snapshot)
    (progress : Snapshot × Bool) (role : Role) :
    Within env setting manager process since
      (fun visible objects => visible = snapshot ∧ Trimming snapshot progress objects)
      (reconcileRetiringRole env ctx progress role)
      fun next visible objects => (visible = snapshot ∧ Trimming snapshot next objects) ∧
        (∀ state, (next.1.entry role).state = some state → state.retiring = []) ∧
        ∀ other, (∀ state, (progress.1.entry other).state = some state → state.retiring = []) →
          ∀ state, (next.1.entry other).state = some state → state.retiring = [] := by
  unfold reconcileRetiringRole
  cases present : progress.1.roles.lookup role with
  | none =>
    refine within_ret fun _ _ _ known => ⟨known, ?_, fun _ before => before⟩
    intro state found
    cases present.symm.trans found
  | some state =>
    dsimp only
    split
    · next empty =>
        refine within_ret fun _ _ _ known => ⟨known, ?_, fun _ before => before⟩
        intro other found
        cases present.symm.trans found
        exact List.isEmpty_iff.mp empty
    · next nonempty =>
        have superseded : state.retiring ≠ [] := by
          intro empty
          simp [empty] at nonempty
        refine within_assume (fun visible objects consistent known => ?_)
          fun (recorded : ∃ policy, manager.policy role = some policy ∧
            Recorded role policy state ∧ (snapshot.entry role).state = some state) => ?_
        · obtain ⟨rfl, trimming⟩ := known
          exact trimming.recorded consistent present superseded
        obtain ⟨_, configured, facts, here⟩ := recorded
        refine .sequence (evictEach_within ctx configured facts here (fun _ member => member)
          (evictable_trimming snapshot progress) fun _ _ known => known.1) fun _ => ?_
        refine within_ret fun visible objects _ known => ?_
        obtain ⟨⟨same, trimming⟩, free⟩ := known
        have trimmed : ∀ other, (withoutRetiring progress.1 role state).entry other =
            if other = role then
              ⟨some { state with retiring := [] }, (progress.1.entry other).pending⟩
            else progress.1.entry other := entry_withoutRetiring progress.1 role state
        refine ⟨⟨same, trimming.step present superseded free⟩, ?_, ?_⟩
        · intro other found
          rw [trimmed role, if_pos rfl] at found
          cases found
          rfl
        · intro other before kept found
          rw [trimmed other] at found
          split at found
          · cases found
            rfl
          · exact before kept found

/-- Every superseded key is forgotten once the configured roles were visited. -/
theorem Trimming.retired {snapshot : Snapshot} (trimming : Trimming snapshot progress objects)
    (consistent : Consistent env setting manager snapshot objects)
    (visited : ∀ role ∈ manager.order, ∀ state,
      (progress.1.entry role).state = some state → state.retiring = []) :
    Retired progress.1.entry := by
  intro role state present
  rcases trimming.entries role with equal | ⟨recorded, pending, _, after, _⟩
  · have before := equal ▸ present
    obtain ⟨_, configured, _⟩ := (consistent.roles role).accepted.state state before
    exact visited role (mem_order_of_policy configured) state present
  · rw [after] at present
    cases present
    rfl

theorem Trimming.closed {snapshot : Snapshot} (trimming : Trimming snapshot progress objects)
    (closed : Closed snapshot.entry) : Closed progress.1.entry := by
  intro role
  have before := closed role
  rcases trimming.entries role with equal | ⟨recorded, pending, same, after, _⟩
  · rw [equal]
    exact before
  · rw [same] at before
    rw [after]
    exact before

theorem Trimming.advances {snapshot : Snapshot} (trimming : Trimming snapshot progress objects) :
    Replaced setting manager progress.1 snapshot := by
  intro role
  rcases trimming.entries role with equal | ⟨recorded, pending, before, after, _⟩
  · rw [equal]
    exact .same _
  · rw [before, after]
    exact .forgotten recorded pending

/-- A snapshot without superseded keys may be saved. -/
theorem Trimming.consistent {snapshot draft next : Snapshot}
    (before : Consistent env setting manager snapshot objects)
    (trimming : Trimming snapshot (draft, true) objects) (closed : Closed draft.entry)
    (retired : Retired draft.entry) (incremented : incrementRevision draft = .ok next) :
    Consistent env setting manager next objects := by
  obtain ⟨version, entries, _⟩ := incrementRevision_spec incremented
  refine ⟨?_, ?_, ?_⟩
  · rw [version, trimming.version]
    exact before.version
  · rw [entries]
    exact .settled closed retired
  · rw [entries]
    intro role
    have valid := before.roles role
    rcases trimming.entries role with equal | ⟨recorded, pending, same, after, free⟩
    · dsimp only at equal
      rw [equal]
      exact valid
    · rw [same] at valid
      dsimp only at after
      rw [after]
      exact valid.forget free

/-- Nothing was left open. -/
structure Settled (snapshot : Snapshot) : Prop where
  closed : Closed snapshot.entry
  retired : Retired snapshot.entry

theorem reconcileRetiring_within (snapshot : Snapshot) (closed : Closed snapshot.entry) :
    Within env setting manager process since (fun visible _ => visible = snapshot)
      (reconcileRetiring env manager ctx snapshot)
      fun result visible _ => (visible = result ∧ Settled result) ∧
        (Retired snapshot.entry → result = snapshot) := by
  refine .take fun _ _ => ?_
  refine .sequence (within_of ?_ (within_forEach
    (reconcileRetiringRole_trimming ctx snapshot) (snapshot, false) manager.order)) ?_
  · rintro visible objects _ rfl
    exact ⟨rfl, .start visible objects⟩
  rintro ⟨draft, changed⟩
  cases changed with
  | false =>
    refine within_ret fun visible objects consistent known => ?_
    obtain ⟨⟨rfl, trimming⟩, visited⟩ := known
    have retired := trimming.retired consistent visited
    rw [trimming.unchanged rfl] at retired
    exact ⟨⟨rfl, closed, retired⟩, fun _ => rfl⟩
  | true =>
    refine .take fun next incremented => ?_
    refine within_assume (fun visible objects consistent known => ?_)
      fun (facts : Retired draft.entry ∧ Closed draft.entry ∧ ¬ Retired snapshot.entry) => ?_
    · obtain ⟨⟨rfl, trimming⟩, visited⟩ := known
      exact ⟨trimming.retired consistent visited, trimming.closed closed, trimming.met rfl⟩
    obtain ⟨retired, closedNext, found⟩ := facts
    have entries := (incrementRevision_spec incremented).2.1
    refine within_weaken ?_ (.mapError (persistSnapshot_within ?_ ?_))
    · rintro _ visible objects ⟨⟨rfl, rfl⟩, _⟩
      refine ⟨⟨rfl, ?_, ?_⟩, fun before => absurd before found⟩
      · rw [entries]
        exact closedNext
      · rw [entries]
        exact retired
    · rintro visible objects consistent ⟨⟨rfl, trimming⟩, _⟩
      exact trimming.consistent consistent closedNext retired incremented
    · rintro _ _ _ ⟨⟨rfl, trimming⟩, _⟩
      intro role
      rw [entries]
      exact trimming.advances role

end Retiring

section Opening

/-- Finish what was left open. -/
theorem reconcile_within (snapshot : Snapshot) :
    Within env setting manager process since (fun visible _ => visible = snapshot)
      (reconcilePending env manager ctx snapshot >>= reconcileRetiring env manager ctx)
      fun result visible _ => (visible = result ∧ Settled result) ∧
        (Settled snapshot → result = snapshot) := by
  refine .sequence (reconcilePending_within ctx snapshot) fun middle => ?_
  refine within_assume (fun _ _ _ known => ⟨known.1.2, known.2⟩)
    fun (facts : Closed middle.entry ∧ (Closed snapshot.entry → middle = snapshot)) => ?_
  refine within_weaken ?_ (within_of (fun _ _ _ known => known.1.1)
    (reconcileRetiring_within ctx middle facts.1))
  rintro _ _ _ ⟨settled, same⟩
  refine ⟨settled, fun before => ?_⟩
  have unchanged := facts.2 before.closed
  rw [← unchanged]
  apply same
  rw [unchanged]
  exact before.retired

theorem openLocked_within :
    Within env setting manager process since fact (openLocked env manager ctx)
      fun snapshot visible _ => visible = snapshot ∧ Settled snapshot := by
  refine .sequence (checkContext_within ctx) fun _ => ?_
  refine .sequence ask_load fun loaded => ?_
  refine .take fun snapshot accepted => ?_
  have found := mapError_eq_ok.mp accepted
  refine .take fun _ _ => ?_
  refine .sequence (within_of_reads (.forEach (fun _ => verifyRole_reads ctx snapshot) ()
    manager.order)) fun _ => ?_
  exact within_weaken (fun _ _ _ known => known.1)
    (within_of (fun _ _ _ known => (known.2 snapshot found).symm) (reconcile_within ctx snapshot))

theorem ensureLoaded_within {snapshot : Snapshot} (settled : Settled snapshot) :
    Within env setting manager process since (fun visible _ => visible = snapshot)
      (ensureLoaded env manager ctx snapshot)
      fun result visible _ => visible = snapshot ∧ result = snapshot := by
  refine .sequence (checkContext_within ctx) fun _ => ?_
  refine within_weaken ?_ (reconcile_within ctx snapshot)
  rintro _ _ _ ⟨⟨same, _⟩, unchanged⟩
  have equal := unchanged settled
  exact ⟨same.trans equal, equal⟩

end Opening

end Sovereignite.KeyManager.Shared
