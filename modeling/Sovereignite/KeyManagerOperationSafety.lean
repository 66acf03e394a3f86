import Sovereignite.KeyManagerLifecycle
import Sovereignite.KeyManagerUpkeep

/-!
# The operations keep up the active keys

Operation by operation: loading and finishing what was left open, creating and
activating a key, and retiring superseded ones.
-/

namespace Sovereignite.KeyManager

open Effect
open Trust (Context)

variable {env : Platform} {manager : Manager} {scope : Scope}

variable (ctx : Context)

section Pending

/-- A snapshot on the way, separated and with its active keys in the TPM. -/
def Ready (env : Platform) (manager : Manager) (progress : Snapshot × Bool)
    (world : World) : Prop :=
  Separated manager progress.1 ∧ ActiveHeld env world.objects progress.1

theorem reconcilePendingRole_ready (progress : Snapshot × Bool) (role : Role) :
    Ensures (alone env scope) Eq (Ready env manager progress)
      (reconcilePendingRole env ctx progress role) (Ready env manager) := by
  unfold reconcilePendingRole
  cases pending : progress.1.pending.lookup role with
  | none => exact .ret fun _ _ known => known
  | some metadata =>
    refine .bindQuietPure (checkContext_quiet ctx) fun _ _ => ?_
    refine .bindQuiet (ask_readPublic metadata.handle) fun read => ?_
    cases notFound read with
    | true =>
      refine .ret fun world _ known => ?_
      exact ⟨known.1.1.withoutPending role, known.1.2⟩
    | false =>
      refine .take fun object accepted => ?_
      have found := mapError_eq_ok.mp accepted
      refine .take fun _ verified => ?_
      refine .ret fun world _ known => ?_
      have created := held_of_verify (known.2.1 object found) (mapError_eq_ok.mp verified)
      exact ⟨known.1.1.activate (known.1.1.pending role metadata pending),
        known.1.2.activate role created⟩

variable {snapshot next : Snapshot}

theorem incrementRevision_maps (incremented : incrementRevision snapshot = .ok next) :
    next.roles = snapshot.roles ∧ next.pending = snapshot.pending := by
  obtain ⟨_, _, incremented⟩ := bind_eq_ok.mp incremented
  cases incremented
  exact ⟨rfl, rfl⟩

theorem Separated.increment (separated : Separated manager snapshot)
    (incremented : incrementRevision snapshot = .ok next) : Separated manager next := by
  obtain ⟨roles, pending⟩ := incrementRevision_maps incremented
  refine separated.withPendings roles ?_
  rw [pending]
  exact separated.pending

theorem ActiveHeld.of_roles_eq {objects : Handle → Option Public}
    (held : ActiveHeld env objects snapshot) (roles : next.roles = snapshot.roles) :
    ActiveHeld env objects next := by
  unfold ActiveHeld
  rw [roles]
  exact held

theorem saveNext_current {pre : World → Prop} (annotate : Error → Error)
    (incremented : incrementRevision snapshot = .ok next)
    (ready : ∀ world, Sound env scope world → pre world →
      Separated manager snapshot ∧ ActiveHeld env world.objects snapshot) :
    Ensures (alone env scope) SameObjects pre (Program.mapError annotate (persistSnapshot next))
      fun saved world => saved = next ∧ Current manager scope saved world := by
  refine .mapError ?_
  intro world sound known
  refine persistSnapshot_current ((ready world sound known).1.increment incremented) ?_ world
    sound known
  intro other otherSound otherKnown
  exact (ready other otherSound otherKnown).2.of_roles_eq (incrementRevision_maps incremented).1

theorem reconcilePending_current (snapshot : Snapshot) :
    Ensures (alone env scope) Anywhere (Current manager scope snapshot)
      (reconcilePending env manager ctx snapshot) (Current manager scope) := by
  unfold reconcilePending
  split
  · exact .ret fun _ _ known => known
  · refine .take fun _ _ => ?_
    have reconciled : Ensures (alone env scope) Eq (Current manager scope snapshot)
        (Program.forEach (reconcilePendingRole env ctx) (snapshot, false) manager.order)
        (Ready env manager) := by
      intro world sound current
      refine Ensures.forEach (reconcilePendingRole_ready ctx) (snapshot, false) manager.order
        world sound ⟨current.separated, ?_⟩
      rw [← current.visible]
      exact sound.visible
    refine .bindQuiet reconciled ?_
    rintro ⟨_, changed⟩
    cases changed with
    | false => exact .ret fun _ _ known => known.1
    | true =>
      refine .take fun raised incremented => ?_
      refine .relax (fun _ _ _ => trivial)
        (.weaken ?_ (saveNext_current _ incremented fun _ _ known => known.2))
      exact fun _ _ saved => saved.2

end Pending

section Retiring

theorem evictRetiring_spare (role : Role) (metadata : KeyMetadata) :
    Ensures (alone env scope) SameStore (Spare scope metadata.handle)
      (evictRetiring env ctx role () metadata) fun _ _ => True := by
  refine .bindQuietPure (checkContext_quiet ctx) fun _ _ => ?_
  refine .bindQuiet (ask_readPublic metadata.handle) fun read => ?_
  cases notFound read with
  | true => exact .ret fun _ _ _ => trivial
  | false =>
    refine .take fun object _ => ?_
    refine .take fun _ _ => ?_
    refine .sequence (ask_evict (objectReference metadata) fun world known => known.1)
      fun evicted => ?_
    exact .weaken (fun _ _ _ => trivial) .ofExcept

theorem evictEach_spare (role : Role) (superseded : List KeyMetadata) :
    Ensures (alone env scope) SameStore
      (fun world => ∀ old ∈ superseded, Spare scope old.handle world)
      (Program.forEach (evictRetiring env ctx role) () superseded) fun _ _ => True := by
  induction superseded with
  | nil => exact .ret fun _ _ _ => trivial
  | cons old rest ih =>
    have lasting : Lasting SameStore fun world =>
        ∀ other ∈ old :: rest, Spare scope other.handle world := by
      intro _ _ same spare other member watched inside
      rw [same] at inside
      exact spare other member watched inside
    refine .bind lasting (.strengthen ?_ (evictRetiring_spare ctx role old))
      fun _ => .strengthen ?_ ih
    · exact fun world known => known old List.mem_cons_self
    · exact fun world known other member => known.1 other (List.mem_cons_of_mem _ member)

theorem reconcileRetiringRole_current (snapshot : Snapshot)
    (progress : Snapshot × Bool) (role : Role) :
    Ensures (alone env scope) SameStore
      (fun world => Current manager scope snapshot world ∧ Trims snapshot progress.1)
      (reconcileRetiringRole env ctx progress role)
      fun reached world => Current manager scope snapshot world ∧ Trims snapshot reached.1 := by
  refine .assume fun trims => ?_
  unfold reconcileRetiringRole
  cases found : progress.1.roles.lookup role with
  | none => exact .ret fun _ _ known => ⟨known, trims⟩
  | some state =>
    dsimp only
    split
    · exact .ret fun _ _ known => ⟨known, trims⟩
    · obtain ⟨previous, recorded, _, fewer⟩ := trims.roles role state found
      refine .bind Current.lasting (.strengthen ?_
        (evictEach_spare ctx role state.retiring)) fun _ => .ret ?_
      · intro world known old member
        exact known.retirable role previous recorded old (fewer member)
      · intro _ _ known
        exact ⟨known.1, trims.withoutRetiring found⟩

theorem reconcileRetiring_current (snapshot : Snapshot) :
    Ensures (alone env scope) Anywhere (Current manager scope snapshot)
      (reconcileRetiring env manager ctx snapshot) (Current manager scope) := by
  refine .take fun _ _ => ?_
  have retired : Ensures (alone env scope) SameStore (Current manager scope snapshot)
      (Program.forEach (reconcileRetiringRole env ctx) (snapshot, false) manager.order)
      fun reached world => Current manager scope snapshot world ∧ Trims snapshot reached.1 :=
    .strengthen (fun _ known => ⟨known, .refl snapshot⟩)
      (Ensures.forEach (reconcileRetiringRole_current ctx snapshot) (snapshot, false) manager.order)
  refine .sequence (.relax (fun _ _ _ => trivial) retired) ?_
  rintro ⟨next, changed⟩
  cases changed with
  | false => exact .ret fun _ _ known => known.1
  | true =>
    refine .assume fun trims => ?_
    refine .take fun raised incremented => ?_
    have ready : ∀ world, Sound env scope world → Current manager scope snapshot world →
        Separated manager next ∧ ActiveHeld env world.objects next := by
      intro _ sound current
      refine ⟨trims.separated current.separated, trims.activeHeld ?_⟩
      rw [← current.visible]
      exact sound.visible
    refine .relax (fun _ _ _ => trivial) (.weaken ?_ (saveNext_current _ incremented ready))
    exact fun _ _ saved => saved.2

end Retiring

section Opening

/-- An operation may start: what valid metadata lists to be retired is spare. -/
def Startable (manager : Manager) (scope : Scope) (world : World) : Prop :=
  Separated manager world.store.visible → Retirable scope world.store.visible world

theorem openLocked_current :
    Ensures (alone env scope) Anywhere (Startable manager scope)
      (openLocked env manager ctx) (Current manager scope) := by
  refine .bindQuietPure (checkContext_quiet ctx) fun _ _ => ?_
  refine .bindQuiet ask_load fun loaded => ?_
  refine .take fun snapshot accepted => ?_
  have found := mapError_eq_ok.mp accepted
  refine .take fun _ valid => ?_
  have separated := (validateSnapshot_eq_ok.mp valid).separated
  refine .bindQuietPure (quiet_of_reads (.forEach (fun _ => verifyRole_reads ctx snapshot) ()
    manager.order)) fun _ _ => ?_
  have current : Ensures (alone env scope) Anywhere (Current manager scope snapshot)
      (reconcilePending env manager ctx snapshot >>=
        reconcileRetiring env manager ctx) (Current manager scope) :=
    .sequence (reconcilePending_current ctx snapshot) (reconcileRetiring_current ctx)
  refine .strengthen ?_ current
  rintro _ ⟨startable, visible⟩
  have same := visible snapshot found
  refine ⟨same, separated, ?_⟩
  have retirable := startable (same ▸ separated)
  rw [same] at retirable
  exact retirable

theorem ensureLoaded_current (snapshot : Snapshot) :
    Ensures (alone env scope) Anywhere (Current manager scope snapshot)
      (ensureLoaded env manager ctx snapshot) (Current manager scope) := by
  refine .bindQuietPure (checkContext_quiet ctx) fun _ _ => ?_
  exact .sequence (reconcilePending_current ctx snapshot) (reconcileRetiring_current ctx)

end Opening

variable {role : Role}

section Creating

theorem initialHandle_free {pre : World → Prop} (policy : RolePolicy) :
    Ensures (alone env scope) Eq pre (initialHandle policy) fun handle world =>
      handle ∈ policy.handles ∧ world.objects handle = none := by
  unfold initialHandle
  cases policy.handles with
  | nil => exact .fail
  | cons handle =>
    refine .bindQuiet (ask_readPublic handle) fun read => ?_
    cases notFound read with
    | true => refine .ret fun world _ known => ⟨List.mem_cons_self, known.2.2 rfl⟩
    | false =>
      refine .take fun _ _ => ?_
      exact .fail

theorem rotationHandle_free {pre : World → Prop} (policy : RolePolicy)
    (recorded handles : List Handle) (occupied : Bool) :
    Ensures (alone env scope) Eq pre (rotationHandle policy recorded occupied handles)
      fun handle world => (handle ∈ handles ∧ handle ∉ recorded) ∧ world.objects handle = none := by
  induction handles generalizing occupied with
  | nil => exact .fail
  | cons first rest ih =>
    have later : ∀ occupied, Ensures (alone env scope) Eq pre
        (rotationHandle policy recorded occupied rest) fun handle world =>
          (handle ∈ first :: rest ∧ handle ∉ recorded) ∧ world.objects handle = none := by
      intro occupied
      refine .weaken ?_ (ih occupied)
      intro _ world found
      exact ⟨⟨List.mem_cons_of_mem _ found.1.1, found.1.2⟩, found.2⟩
    unfold rotationHandle
    split
    · exact later occupied
    · next unrecorded =>
        refine .bindQuiet (ask_readPublic first) fun read => ?_
        cases notFound read with
        | true =>
          refine .ret fun world _ known => ?_
          exact ⟨⟨List.mem_cons_self, by simpa using unrecorded⟩, known.2.2 rfl⟩
        | false =>
          refine .take fun _ _ => ?_
          exact .strengthen (fun _ known => known.1) (later true)

theorem ask_persist (handle : Handle) (candidate : Public) :
    Ensures (alone env scope) SameStore (fun world => world.objects handle = none)
      (ask (.persist handle candidate)) fun _ world => Spare scope handle world := by
  rintro _ sound free _ _ rfl _ _ (⟨_, rfl⟩ | rfl)
  · exact ⟨sound, trivial, sound, rfl, fun _ _ => sound.spare free⟩
  · have kept := sound.persist free candidate
    exact ⟨kept, trivial, kept, rfl, fun _ _ => sound.spare free⟩

theorem evictCreatedPublic_spare (handle : Handle) (template : Template) (object : Public) :
    Ensures (alone env scope) SameStore (Spare scope handle)
      (evictCreatedPublic handle template object) fun _ _ => True := by
  refine .check fun identified => ?_
  simp only [Bool.or_eq_false_iff, bne_eq_false_iff_eq] at identified
  have same : object.handle = handle := identified.1.1
  refine .sequence (ask_evict _ fun world spare => ?_) fun evicted => ?_
  · rw [same]
    exact spare
  · cases evicted with
    | ok => exact .ret fun _ _ _ => trivial
    | error => exact .weaken (fun _ _ _ => trivial) .rejectIf

theorem rollBackCreation_spare {α : Type} {post : α → World → Prop} (handle : Handle)
    (template : Template) (object : Public) (error : Error) :
    Ensures (alone env scope) Anywhere (Spare scope handle)
      (rollBackCreation handle template object error) post := by
  have removed : Ensures (alone env scope) SameStore (Spare scope handle)
      ((evictCreatedPublic handle template object).attempt : Managing (Except Error Unit))
      fun outcome _ => ∀ value, outcome = .ok value → True :=
    .attempt (evictCreatedPublic_spare handle template object)
  exact .sequence (.relax (fun _ _ _ => trivial) removed) fun _ => .fail

/-- A creation is recorded and the handle is still free. -/
structure Prepared (manager : Manager) (scope : Scope) (role : Role) (handle : Handle)
    (prepared : KeyMetadata × Snapshot) (world : World) : Prop where
  current : Current manager scope prepared.2 world
  fresh : Fresh manager prepared.2 role handle
  handle : prepared.1.handle = handle

theorem Prepared.lasting {handle : Handle} {prepared : KeyMetadata × Snapshot} :
    Lasting SameStore (Prepared manager scope role handle prepared) := by
  intro before after same holds
  exact ⟨Current.lasting before after same holds.current, holds.fresh, holds.handle⟩

theorem prepareCreation_prepared (policy : RolePolicy) (handle : Handle)
    (template : Template) (createdAt : Time) (generation : UInt64) (snapshot : Snapshot)
    (candidate : Public) (fresh : Fresh manager snapshot policy.role handle) :
    Ensures (alone env scope) SameObjects
      (fun world => Current manager scope snapshot world ∧ world.objects handle = none)
      (prepareCreation env policy handle template createdAt generation snapshot candidate)
      fun prepared world => Prepared manager scope policy.role handle prepared world ∧
        world.objects handle = none := by
  refine .check fun _ => ?_
  refine .take fun publicDER _ => ?_
  refine .check fun _ => ?_
  refine .take fun next incremented => ?_
  have ready : ∀ world, Sound env scope world →
      Current manager scope snapshot world ∧ world.objects handle = none →
      Separated manager (withPending snapshot
          (preparedMetadata policy handle template createdAt generation candidate publicDER)) ∧
        ActiveHeld env world.objects (withPending snapshot
          (preparedMetadata policy handle template createdAt generation candidate publicDER)) := by
    rintro world sound ⟨current, _⟩
    refine ⟨current.separated.withPending fresh, ?_⟩
    have held := sound.visible
    rw [current.visible] at held
    exact held
  have free : Lasting SameObjects fun world : World => world.objects handle = none := by
    intro _ _ same absent
    rw [same]
    exact absent
  refine .sequence (.frame free (fun _ known => known.2)
    (saveNext_current _ incremented ready)) fun saved => ?_
  refine .ret fun world _ known => ?_
  obtain ⟨absent, rfl, current⟩ := known
  exact ⟨⟨current, fresh.of_roles_eq (incrementRevision_maps incremented).1, rfl⟩, absent⟩

theorem createPersistent_prepared (policy : RolePolicy) (handle : Handle)
    (template : Template) (createdAt : Time) (generation : UInt64) (snapshot : Snapshot)
    (fresh : Fresh manager snapshot policy.role handle) :
    Ensures (alone env scope) Anywhere
      (fun world => Current manager scope snapshot world ∧ world.objects handle = none)
      (createPersistent handle template
        (prepareCreation env policy handle template createdAt generation snapshot))
      fun created world => Prepared manager scope policy.role handle created.1 world ∧
        Spare scope handle world := by
  refine .bindQuietPure (ask_quiet _ fun _ _ _ answered => answered) fun generated _ => ?_
  refine .take fun candidate _ => ?_
  refine .sequence (.relax (fun _ _ _ => trivial)
    (prepareCreation_prepared policy handle template createdAt generation snapshot candidate
      fresh)) fun prepared => ?_
  have persisted : Ensures (alone env scope) SameStore
      (fun world => Prepared manager scope policy.role handle prepared world ∧
        world.objects handle = none)
      (ask (.persist handle candidate))
      fun _ world => Prepared manager scope policy.role handle prepared world ∧
        Spare scope handle world :=
    .frame Prepared.lasting (fun _ known => known.1)
      (.strengthen (fun _ known => known.2) (ask_persist handle candidate))
  refine .sequence (.relax (fun _ _ _ => trivial) persisted) fun reply => ?_
  refine .take fun object _ => ?_
  exact .ret fun _ _ known => known

/-- A key was created: it is in the TPM and recorded as pending. -/
structure Created (env : Platform) (manager : Manager) (scope : Scope) (role : Role)
    (created : KeyMetadata × Snapshot) (world : World) : Prop where
  current : Current manager scope created.2 world
  fresh : Fresh manager created.2 role created.1.handle
  held : Held env world.objects created.1

theorem createMetadata_created (policy : RolePolicy) (handle : Handle)
    (generation : UInt64) (snapshot : Snapshot)
    (fresh : Fresh manager snapshot policy.role handle) :
    Ensures (alone env scope) Anywhere
      (fun world => Current manager scope snapshot world ∧ world.objects handle = none)
      (createMetadata env ctx policy handle generation snapshot)
      (Created env manager scope policy.role) := by
  refine .bindQuietPure (checkContext_quiet ctx) fun _ _ => ?_
  refine .bindQuietPure (ask_quiet _ fun _ _ _ answered => answered) fun supported _ => ?_
  refine .take fun _ _ => ?_
  refine .take fun template _ => ?_
  refine .bindQuietPure (ask_quiet _ fun _ _ _ answered => answered) fun createdAt _ => ?_
  refine .check fun _ => ?_
  refine .sequence (.mapError (createPersistent_prepared policy handle template createdAt
    generation snapshot fresh)) ?_
  rintro ⟨⟨metadata, _⟩, object⟩
  dsimp only
  cases verifyPublicMetadata env metadata object with
  | error => exact .strengthen (fun _ known => known.2) (rollBackCreation_spare _ _ _ _)
  | ok value =>
    refine .bindQuiet (ask_readPublic handle) fun read => ?_
    cases read with
    | error => exact .strengthen (fun _ known => known.1.2) (rollBackCreation_spare _ _ _ _)
    | ok persisted =>
      cases verified : verifyPublicMetadata env metadata persisted with
      | error =>
        dsimp only
        rw [verified]
        exact .strengthen (fun _ known => known.1.2) (rollBackCreation_spare _ _ _ _)
      | ok =>
        dsimp only
        rw [verified]
        refine .ret fun world _ known => ?_
        obtain ⟨⟨⟨current, freshSaved, same⟩, _⟩, present, _⟩ := known
        dsimp only at current freshSaved same
        refine ⟨current, ?_, held_of_verify ?_ verified⟩
        · dsimp only
          rw [same]
          exact freshSaved
        · rw [same]
          exact present persisted rfl

/-- Saving the activation of a created key. -/
theorem activation_current {created : KeyMetadata × Snapshot} {next : Snapshot}
    (annotate : Error → Error)
    (incremented : incrementRevision (activate created.2 role created.1) = .ok next) :
    Ensures (alone env scope) Anywhere (Created env manager scope role created)
      (Program.mapError annotate (persistSnapshot next)) (Current manager scope) := by
  have ready : ∀ world, Sound env scope world → Created env manager scope role created world →
      Separated manager (activate created.2 role created.1) ∧
        ActiveHeld env world.objects (activate created.2 role created.1) := by
    intro _ sound known
    have held := sound.visible
    rw [known.current.visible] at held
    exact ⟨known.current.separated.activate known.fresh, held.activate role known.held⟩
  refine .relax (fun _ _ _ => trivial) (.weaken ?_ (saveNext_current _ incremented ready))
  exact fun _ _ saved => saved.2

end Creating

section Operations

theorem role_of_configuredPolicy {policy : RolePolicy}
    (configured : configuredPolicy manager role = .ok policy) :
    manager.policy role = some policy ∧ policy.role = role := by
  unfold configuredPolicy at configured
  cases found : manager.policy role with
  | none =>
    rw [found] at configured
    cases configured
  | some =>
    rw [found] at configured
    cases configured
    have named := List.find?_some found
    exact ⟨rfl, by simpa using named⟩

theorem ensureRoleLocked_safe (role : Role) :
    Ensures (alone env scope) Anywhere (Startable manager scope)
      (ensureRoleLocked env manager ctx role) fun _ _ => True := by
  refine .sequence (openLocked_current ctx) fun snapshot => ?_
  refine .take fun policy configured => ?_
  obtain ⟨found, rfl⟩ := role_of_configuredPolicy configured
  cases recorded : snapshot.roles.lookup policy.role with
  | some state =>
    refine .bindQuietPure (verifyMetadataValue_quiet ctx state.active) fun _ _ => ?_
    exact .ret fun _ _ _ => trivial
  | none =>
    refine .bindQuiet (initialHandle_free policy) fun handle => ?_
    refine .take fun _ _ => ?_
    have created : Ensures (alone env scope) Anywhere
        (fun world => Current manager scope snapshot world ∧
          handle ∈ policy.handles ∧ world.objects handle = none)
        (createMetadata env ctx policy handle 1 snapshot)
        (Created env manager scope policy.role) := by
      intro world sound known
      have fresh : Fresh manager snapshot policy.role handle := by
        refine ⟨⟨policy, found, known.2.1⟩, ?_, ?_⟩
        · intro state present
          cases recorded.symm.trans present
        · intro _ present
          cases recorded.symm.trans present
      exact createMetadata_created ctx policy handle 1 snapshot fresh world sound
        ⟨known.1, known.2.2⟩
    refine .sequence created fun result => ?_
    refine .take fun next incremented => ?_
    refine .sequence (activation_current _ incremented) fun _ => ?_
    exact .ret fun _ _ _ => trivial

theorem rotateLocked_safe (role : Role) (snapshot : Snapshot) :
    Ensures (alone env scope) Anywhere (Current manager scope snapshot)
      (rotateLocked env manager ctx role snapshot) fun _ _ => True := by
  refine .take fun policy configured => ?_
  obtain ⟨found, rfl⟩ := role_of_configuredPolicy configured
  refine .check fun _ => ?_
  cases recorded : snapshot.roles.lookup policy.role with
  | none => exact .fail
  | some state =>
    refine .bindQuietPure (verifyMetadataValue_quiet ctx state.active) fun _ _ => ?_
    refine .check fun _ => ?_
    refine .take fun _ _ => ?_
    refine .bindQuiet (rotationHandle_free policy _ policy.handles false) fun handle => ?_
    have created : Ensures (alone env scope) Anywhere
        (fun world => Current manager scope snapshot world ∧ (handle ∈ policy.handles ∧
            handle ∉ state.active.handle :: state.retiring.map KeyMetadata.handle) ∧
          world.objects handle = none)
        (createMetadata env ctx policy handle (state.active.generation + 1) snapshot)
        (Created env manager scope policy.role) := by
      rintro world sound ⟨current, ⟨inPool, unrecorded⟩, free⟩
      have fresh : Fresh manager snapshot policy.role handle := by
        refine ⟨⟨policy, found, inPool⟩, ?_, ?_⟩
        · rintro other present rfl
          cases Option.some.inj (recorded.symm.trans present)
          exact unrecorded List.mem_cons_self
        · rintro _ present _ member rfl
          cases Option.some.inj (recorded.symm.trans present)
          exact unrecorded (List.mem_cons_of_mem _ (List.mem_map_of_mem member))
      exact createMetadata_created ctx policy handle _ snapshot fresh world sound ⟨current, free⟩
    refine .sequence created fun result => ?_
    refine .take fun next incremented => ?_
    refine .sequence (activation_current _ incremented) fun saved => ?_
    refine .sequence (.mapError (reconcileRetiring_current ctx saved)) fun _ => ?_
    exact .ret fun _ _ _ => trivial

theorem metadataLocked_safe (role : Role) :
    Ensures (alone env scope) Anywhere (Startable manager scope)
      (metadataLocked env manager ctx role) fun _ _ => True := by
  refine .sequence (openLocked_current ctx) fun snapshot => ?_
  cases snapshot.roles.lookup role with
  | none => exact .take fun _ _ => .fail
  | some state =>
    refine .bindQuietPure (verifyMetadataValue_quiet ctx state.active) fun _ _ => ?_
    exact .ret fun _ _ _ => trivial

theorem prepareCertificateLocked_safe (request : CertificateRequest) :
    Ensures (alone env scope) Anywhere (Startable manager scope)
      (prepareCertificateLocked env manager ctx request) fun _ _ => True := by
  refine .sequence (openLocked_current ctx) fun snapshot => ?_
  refine .take fun _ _ => .check fun _ => .check fun _ => ?_
  cases snapshot.roles.lookup request.role with
  | none => exact .fail
  | some state =>
    refine .bindQuietPure (verifyMetadataValue_quiet ctx state.active) fun _ _ => ?_
    exact .take fun _ _ => .weaken (fun _ _ _ => trivial) .ofExcept

theorem signCertificateLocked_safe (issuance : Issuance) :
    Ensures (alone env scope) Anywhere (Startable manager scope)
      (signCertificateLocked env manager ctx issuance) fun _ _ => True := by
  refine .sequence (openLocked_current ctx) fun snapshot => ?_
  refine .check fun _ => ?_
  refine .bindQuietPure (verifyMetadataValue_quiet ctx issuance.metadata) fun _ _ => ?_
  refine .bindQuietPure (quiet_of_reads (.mapError (createCertificate_reads ctx issuance)))
    fun der _ => ?_
  refine .take fun cert _ => ?_
  refine .bindQuietPure (ask_quiet _ fun _ _ _ answered => answered) fun verified _ => ?_
  exact .take fun _ _ => .ret fun _ _ _ => trivial

theorem rotateIfDueLocked_safe (role : Role) (now : Time) :
    Ensures (alone env scope) Anywhere (Startable manager scope)
      (rotateIfDueLocked env manager ctx role now) fun _ _ => True := by
  refine .sequence (openLocked_current ctx) fun snapshot => ?_
  refine .take fun policy _ => ?_
  refine .check fun _ => ?_
  cases snapshot.roles.lookup role with
  | none => exact .ret fun _ _ _ => trivial
  | some =>
    dsimp only
    split
    · exact .ret fun _ _ _ => trivial
    · refine .sequence (ensureLoaded_current ctx snapshot) fun loaded => ?_
      refine .sequence (rotateLocked_safe ctx role loaded) fun _ => ?_
      exact .ret fun _ _ _ => trivial

theorem withExclusiveOperation_safe {α : Type} {operation : Managing α} {post : α → World → Prop}
    (safe : Ensures (alone env scope) Anywhere (Startable manager scope) operation post) :
    Ensures (alone env scope) Anywhere (Startable manager scope)
      (withExclusiveOperation ctx operation) fun _ _ => True := by
  refine .bindQuietPure (ask_quiet _ fun _ _ _ answered => answered) fun _ _ => ?_
  refine .take fun _ _ => ?_
  refine .sequence (.attempt safe) fun outcome => ?_
  refine .bindQuietPure (ask_quiet _ fun _ _ _ answered => answered) fun _ _ => ?_
  exact .weaken (fun _ _ _ => trivial) .ofExcept

theorem returning_safe {α β : Type} {program : Managing α} {post : α → World → Prop}
    {pre : World → Prop} (value : α → β)
    (safe : Ensures (alone env scope) Anywhere pre program post) :
    Ensures (alone env scope) Anywhere pre (program >>= fun result => .ret (value result))
      fun _ _ => True :=
  .sequence safe fun _ => .ret fun _ _ _ => trivial

theorem exclusively_safe {α : Type} {operation : Managing α} {post : α → World → Prop}
    (safe : Ensures (alone env scope) Anywhere (Startable manager scope) operation post) :
    Ensures (alone env scope) Anywhere (Startable manager scope)
      (withExclusiveOperation ctx operation >>= fun _ => .ret ()) fun _ _ => True :=
  returning_safe _ (withExclusiveOperation_safe ctx safe)

/-- Every operation keeps up the active keys. -/
theorem Operation.safe {program : Managing Unit} (operation : Operation env manager program) :
    Ensures (alone env scope) Anywhere (Startable manager scope) program fun _ _ => True := by
  cases operation with
  | openManager ctx =>
    exact withExclusiveOperation_safe ctx (returning_safe _ (openLocked_current ctx))
  | ensureRole ctx role => exact exclusively_safe ctx (ensureRoleLocked_safe ctx role)
  | rotate ctx role =>
    exact exclusively_safe ctx (.sequence (openLocked_current ctx) (rotateLocked_safe ctx role))
  | rotateIfDue ctx role now => exact exclusively_safe ctx (rotateIfDueLocked_safe ctx role now)
  | metadata ctx role => exact exclusively_safe ctx (metadataLocked_safe ctx role)
  | publicSnapshot ctx => exact exclusively_safe ctx (openLocked_current ctx)
  | dueRoles ctx => exact exclusively_safe ctx (returning_safe _ (openLocked_current ctx))
  | prepareCertificate ctx request =>
    exact exclusively_safe ctx (prepareCertificateLocked_safe ctx request)
  | signCertificate ctx issuance =>
    exact exclusively_safe ctx (signCertificateLocked_safe ctx issuance)
  | reconcileRetiringKeys ctx =>
    exact withExclusiveOperation_safe ctx (.sequence (openLocked_current ctx) fun snapshot =>
      returning_safe _ (reconcileRetiring_current ctx snapshot))

end Operations

end Sovereignite.KeyManager
