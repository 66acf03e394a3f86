import Sovereignite.KeyManagerSharedUpkeep

/-!
# Operations on the shared store

A key is created in three steps: the intent is saved, the object is persisted
and read back, and the intent is saved as the key in use.  Every operation, and
every run of a scheduler, keeps the world valid at each of its requests, and
owes the processes outside the store nothing but the time.
-/

namespace Sovereignite.KeyManager.Shared

open Effect
open Trust (Context)

variable {env : Platform} {setting : Setting} {manager : Manager} {process : Process}
variable {since : Time} {fact : Fact} (ctx : Context)

/-- The encoding of a public key is never empty. -/
def EncodesKeys (env : Platform) : Prop :=
  ∀ key der, env.marshalPKIXPublicKey key = .ok der → der ≠ []

variable {role : Role}

section Planning

/-- What is known when a key is about to be created. -/
structure Plan (setting : Setting) (manager : Manager) (since : Time) (policy : RolePolicy)
    (handle : Handle) (generation : UInt64) (snapshot : Snapshot) : Prop where
  configured : manager.policy policy.role = some policy
  pool : handle ∈ policy.handles
  permanent : policy.permanent policy.role = true → (snapshot.entry policy.role).state = none
  next : expectedGeneration policy.role (snapshot.entry policy.role).state = .ok generation
  unrecorded : ∀ recorded, (snapshot.entry policy.role).state = some recorded →
    handle ∉ recorded.keys.map KeyMetadata.handle
  follows : ∀ recorded, (snapshot.entry policy.role).state = some recorded →
    ∀ later, setting.reads since later → setting.follows policy recorded.active later
  settled : Settled snapshot
  first : snapshot.revision.toNat + 2 ≤ maxUint64.toNat
  replacing : (snapshot.entry policy.role).state ≠ none →
    snapshot.revision.toNat + 3 ≤ maxUint64.toNat

variable {policy : RolePolicy} {handle : Handle} {generation : UInt64} {snapshot : Snapshot}
variable {template : Template} {createdAt : Time} {candidate : Public} {publicDER : Bytes}

theorem generation_ne_zero {state : Option RoleState}
    (expected : expectedGeneration role state = .ok generation) : generation ≠ 0 := by
  cases state with
  | none =>
    cases expected
    decide
  | some =>
    have above := generation_lt expected
    rintro rfl
    have zero : (0 : UInt64).toNat = 0 := rfl
    omega

theorem canonicalPublicKey_nonempty (encodes : EncodesKeys env)
    (encoded : canonicalPublicKey env candidate = .ok publicDER) :
    candidate.name.isEmpty = false ∧ publicDER ≠ [] := by
  obtain ⟨_, _, encoded⟩ := bind_eq_ok.mp encoded
  obtain ⟨_, named, encoded⟩ := bind_eq_ok.mp encoded
  obtain ⟨_, _, encoded⟩ := bind_eq_ok.mp encoded
  have marshalled := mapError_eq_ok.mp encoded
  refine ⟨reject_eq_ok.mp named, ?_⟩
  cases key : candidate.publicKey with
  | none =>
    rw [key] at marshalled
    cases marshalled
  | some key' =>
    rw [key] at marshalled
    exact encodes key' publicDER marshalled

theorem Plan.fits (plan : Plan setting manager since policy handle generation snapshot)
    (encodes : EncodesKeys env) (templated : signingTemplate policy.algorithm = .ok template)
    (nonzero : createdAt ≠ 0) (encoded : canonicalPublicKey env candidate = .ok publicDER) :
    Fits policy.role policy
      (preparedMetadata policy handle template createdAt generation candidate publicDER) := by
  obtain ⟨named, nonempty⟩ := canonicalPublicKey_nonempty encodes encoded
  have positive := generation_ne_zero plan.next
  rw [fits_iff]
  refine bind_eq_ok.mpr ⟨(), reject_eq_ok.mpr (by simp [preparedMetadata]), ?_⟩
  refine bind_eq_ok.mpr ⟨(), reject_eq_ok.mpr (by simp [preparedMetadata]), ?_⟩
  refine bind_eq_ok.mpr ⟨(), reject_eq_ok.mpr (by simp [preparedMetadata, plan.pool]), ?_⟩
  refine bind_eq_ok.mpr ⟨template, mapError_eq_ok.mpr templated, ?_⟩
  refine bind_eq_ok.mpr ⟨(), reject_eq_ok.mpr (by simp [preparedMetadata]), ?_⟩
  apply reject_eq_ok.mpr
  simp only [preparedMetadata, Bool.or_eq_false_iff, beq_eq_false_iff_ne]
  exact ⟨⟨⟨positive, nonzero⟩, named⟩, by simp [nonempty]⟩

theorem Plan.intended (plan : Plan setting manager since policy handle generation snapshot)
    (encodes : EncodesKeys env) (templated : signingTemplate policy.algorithm = .ok template)
    (nonzero : createdAt ≠ 0) (encoded : canonicalPublicKey env candidate = .ok publicDER) :
    Intended policy.role policy (snapshot.entry policy.role).state
      (preparedMetadata policy handle template createdAt generation candidate publicDER) :=
  ⟨plan.fits encodes templated nonzero encoded, plan.permanent, plan.next, plan.unrecorded⟩

theorem verifies_prepared (at_ : candidate.handle = handle) (shaped : candidate.template = template)
    (encoded : canonicalPublicKey env candidate = .ok publicDER) :
    Verifies env (preparedMetadata policy handle template createdAt generation candidate publicDER)
      candidate := by
  rw [verifies_iff]
  refine bind_eq_ok.mpr ⟨(), reject_eq_ok.mpr (by simp [preparedMetadata, at_]), ?_⟩
  refine bind_eq_ok.mpr ⟨(), reject_eq_ok.mpr (by simp [preparedMetadata, shaped]), ?_⟩
  refine bind_eq_ok.mpr ⟨(), reject_eq_ok.mpr (by simp [preparedMetadata]), ?_⟩
  refine bind_eq_ok.mpr ⟨publicDER, mapError_eq_ok.mpr encoded, ?_⟩
  exact reject_eq_ok.mpr (by simp [preparedMetadata])

end Planning

section Creating

variable {policy : RolePolicy} {handle : Handle} {generation : UInt64} {snapshot : Snapshot}

theorem ask_now :
    Within env setting manager process since fact (ask .now) fun reply visible objects =>
      fact visible objects ∧ setting.reads since reply := by
  rintro _ _ locked _ valid relied reply _ ⟨reads, rfl⟩
  have now := Locked.lasting _ _ relied locked
  have read := setting.trans _ _ _ now.clock reads
  refine ⟨valid.withClock reply, ?_, valid.withClock reply, ?_, ?_⟩
  · intro _ different
    exact relies_of_holder now.holder different reads (.inl now.holder)
  · exact ⟨setting.trans _ _ _ relied.clock reads, fun _ => now.holder⟩
  · rintro _ ⟨⟩
    exact ⟨now.holder, read, now.known, read⟩

/-- One creation is intended and no other one. -/
structure Intent (snapshot : Snapshot) (role : Role) (metadata : KeyMetadata) : Prop where
  pending : (snapshot.entry role).pending = some metadata
  others : ∀ other, other ≠ role → (snapshot.entry other).pending = none

variable {metadata : KeyMetadata} {saved : Snapshot}

theorem ask_persist {candidate : Public} (intent : Intent saved role metadata)
    (placed : metadata.handle = handle) (verified : Verifies env metadata candidate) :
    Within env setting manager process since (fun visible _ => visible = saved)
      (ask (.persist handle candidate)) fun _ visible _ => visible = saved := by
  apply ask_inside
  rintro _ _ _ valid rfl (⟨_, rfl⟩ | rfl)
  · exact ⟨valid, rfl, rfl, rfl⟩
  · rw [← placed]
    exact ⟨valid.withObjects (valid.consistent.persist intent.pending verified), rfl, rfl, rfl⟩

section Persisting

variable {template : Template} {createdAt : Time}
variable (plan : Plan setting manager since policy handle generation snapshot)
variable (encodes : EncodesKeys env) (templated : signingTemplate policy.algorithm = .ok template)
variable (nonzero : createdAt ≠ 0) (timed : setting.reads since createdAt)

include plan encodes templated nonzero timed

/-- An intent is saved before its object is persisted. -/
theorem prepareCreation_within {candidate : Public} :
    Within env setting manager process since (fun visible _ => visible = snapshot)
      (prepareCreation env policy handle template createdAt generation snapshot candidate)
      fun prepared visible _ => visible = prepared.2 ∧
        Intent prepared.2 policy.role prepared.1 ∧ prepared.1.handle = handle ∧
        Verifies env prepared.1 candidate := by
  refine .check fun identified => ?_
  simp only [Bool.or_eq_false_iff, bne_eq_false_iff_eq] at identified
  refine .take fun publicDER accepted => ?_
  have encoded := mapError_eq_ok.mp accepted
  refine .check fun _ => ?_
  refine .take fun next incremented => ?_
  obtain ⟨version, entries, revision⟩ := incrementRevision_spec incremented
  generalize equal : preparedMetadata policy handle template createdAt generation candidate
    publicDER = metadata at *
  have intended : Intended policy.role policy (snapshot.entry policy.role).state metadata := by
    rw [← equal]
    exact plan.intended encodes templated nonzero encoded
  have named : metadata.role = policy.role := by
    rw [← equal]
    rfl
  have stamped : metadata.createdAt = createdAt := by
    rw [← equal]
    rfl
  have placed : metadata.handle = handle := by
    rw [← equal]
    rfl
  have here : next.entry policy.role = ⟨(snapshot.entry policy.role).state, some metadata⟩ := by
    rw [entries, entry_withPending, if_pos named.symm]
  have elsewhere : ∀ other, other ≠ policy.role → next.entry other = snapshot.entry other := by
    intro other different
    rw [entries, entry_withPending, if_neg (named ▸ different)]
  have before : snapshot.entry policy.role = ⟨(snapshot.entry policy.role).state, none⟩ := by
    rw [← plan.settled.closed policy.role]
  refine .sequence (.mapError (persistSnapshot_within ?_ ?_)) fun saved => ?_
  · rintro visible objects consistent rfl
    refine ⟨version.trans consistent.version, ?_, fun other => ?_⟩
    · rw [revision]
      exact .intend plan.settled.closed plan.settled.retired plan.first plan.replacing
        (by rw [here]) elsewhere
    · by_cases same : other = policy.role
      · have valid := consistent.roles policy.role
        rw [before] at valid
        rw [same, here]
        refine valid.intend plan.configured intended ?_
        intro recorded present
        rw [stamped]
        exact plan.follows recorded present createdAt timed
      · rw [elsewhere other same]
        exact consistent.roles other
  · rintro visible objects _ rfl other
    by_cases same : other = policy.role
    · rw [same, here, before]
      exact .intended _ _
    · rw [elsewhere other same]
      exact .same _
  · refine within_ret fun visible objects _ known => ?_
    obtain ⟨⟨rfl, rfl⟩, _⟩ := known
    refine ⟨rfl, ⟨?_, ?_⟩, placed, ?_⟩
    · dsimp only
      rw [here]
    · intro other different
      dsimp only
      rw [elsewhere other different]
      exact plan.settled.closed other
    · rw [← equal]
      exact verifies_prepared identified.1 identified.2 encoded

theorem createPersistent_within :
    Within env setting manager process since (fun visible _ => visible = snapshot)
      (createPersistent handle template
        (prepareCreation env policy handle template createdAt generation snapshot))
      fun created visible _ => visible = created.1.2 ∧
        Intent created.1.2 policy.role created.1.1 ∧ created.1.1.handle = handle := by
  refine .sequence (ask_unchanged (.generate handle template) fun _ _ _ answered => answered)
    fun generated => ?_
  refine .take fun candidate _ => ?_
  refine .sequence (prepareCreation_within plan encodes templated nonzero timed) fun prepared => ?_
  refine within_assume (fun _ _ _ known => known.2) fun facts => ?_
  refine .sequence (within_of (fun _ _ _ known => known.1)
    (ask_persist facts.1 facts.2.1 facts.2.2)) fun reply => ?_
  refine .take fun object _ => ?_
  exact within_ret fun _ _ _ same => ⟨same, facts.1, facts.2.1⟩

end Persisting

theorem evictCreatedPublic_within (template : Template) (object : Public)
    (intent : Intent saved role metadata) (placed : metadata.handle = handle) :
    Within env setting manager process since (fun visible _ => visible = saved)
      (evictCreatedPublic handle template object) fun _ visible _ => visible = saved := by
  refine .check fun identified => ?_
  simp only [Bool.or_eq_false_iff, bne_eq_false_iff_eq] at identified
  have same : object.handle = metadata.handle := identified.1.1.trans placed.symm
  refine within_assume (fun visible objects consistent known => ?_)
    fun (facts : manager.Pool role metadata.handle ∧ ∀ state,
      (saved.entry role).state = some state → state.active.handle ≠ metadata.handle) => ?_
  · subst known
    obtain ⟨policy, configured, accepted⟩ :=
      (consistent.roles role).accepted.pending metadata intent.pending
    refine ⟨⟨policy, configured, accepted.fits.handle⟩, ?_⟩
    intro state present equal
    apply accepted.unrecorded state present
    rw [← equal]
    exact List.mem_cons_self
  have evicted : Within env setting manager process since (fun visible _ => visible = saved)
      (ask (.evictPersistent ⟨object.handle, object.name, object.template⟩))
      fun _ visible _ => visible = saved := by
    refine within_weaken (fun _ _ _ known => known.1) (ask_evict _ role ?_ ?_ ?_)
    · exact fun _ _ _ known => known
    · dsimp only
      rw [same]
      exact facts.1
    · rintro _ _ rfl state present
      dsimp only
      rw [same]
      exact facts.2 state present
  refine .sequence evicted fun reply => ?_
  cases reply with
  | ok => exact within_ret fun _ _ _ known => known
  | error => exact within_rejectIf

theorem rollBackCreation_within {α : Type} {post : α → Fact} (template : Template) (object : Public)
    (error : Error) (intent : Intent saved role metadata) (placed : metadata.handle = handle) :
    Within env setting manager process since (fun visible _ => visible = saved)
      (rollBackCreation handle template object error) post :=
  .sequence (.attempt (evictCreatedPublic_within template object intent placed)) fun _ => .fail

theorem createMetadata_within (plan : Plan setting manager since policy handle generation snapshot)
    (encodes : EncodesKeys env) :
    Within env setting manager process since (fun visible _ => visible = snapshot)
      (createMetadata env ctx policy handle generation snapshot)
      fun created visible objects => visible = created.2 ∧
        Intent created.2 policy.role created.1 ∧ Holds env objects created.1 := by
  refine .sequence (checkContext_within ctx) fun _ => ?_
  refine .sequence (ask_unchanged (.supports policy.algorithm) fun _ _ _ answered => answered)
    fun supported => ?_
  refine .take fun _ _ => ?_
  refine .take fun template templated => ?_
  refine .sequence ask_now fun createdAt => ?_
  refine within_assume (fun _ _ _ known => known.2) fun timed => ?_
  refine .check fun nonzero => ?_
  rw [beq_eq_false_iff_ne] at nonzero
  refine .sequence (.mapError (within_of (fun _ _ _ known => known.1)
    (createPersistent_within plan encodes templated nonzero timed))) ?_
  rintro ⟨⟨metadata, _⟩, object⟩
  dsimp only
  refine within_assume (fun _ _ _ known => known.2) fun facts => ?_
  obtain ⟨intent, placed⟩ := facts
  refine within_of (fun _ _ _ known => known.1) ?_
  cases verifyPublicMetadata env metadata object with
  | error => exact rollBackCreation_within _ _ _ intent placed
  | ok value =>
    refine .sequence (ask_readPublic handle) fun read => ?_
    cases read with
    | error =>
      exact within_of (fun _ _ _ known => known.1) (rollBackCreation_within _ _ _ intent placed)
    | ok persisted =>
      cases verified : verifyPublicMetadata env metadata persisted with
      | error =>
        dsimp only
        rw [verified]
        exact within_of (fun _ _ _ known => known.1) (rollBackCreation_within _ _ _ intent placed)
      | ok =>
        dsimp only
        rw [verified]
        refine within_ret fun visible objects _ known => ⟨known.1, intent, persisted, ?_, ?_⟩
        · rw [placed]
          exact known.2.1 persisted rfl
        · exact verifies_iff.mpr verified

theorem activation_within {saved next : Snapshot} (annotate : Error → Error)
    (intent : Intent saved role metadata)
    (incremented : incrementRevision (activate saved role metadata) = .ok next) :
    Within env setting manager process since
      (fun visible objects => visible = saved ∧ Holds env objects metadata)
      (Program.mapError annotate (persistSnapshot next))
      fun result visible _ => visible = result ∧ Closed result.entry := by
  obtain ⟨version, entries, revision⟩ := incrementRevision_spec incremented
  have shape : saved.entry role = ⟨(saved.entry role).state, some metadata⟩ := by
    rw [← intent.pending]
  have here : next.entry role = ⟨some (promote (saved.entry role).state metadata), none⟩ := by
    rw [entries, entry_activate, if_pos rfl]
  have elsewhere : ∀ other, other ≠ role → next.entry other = saved.entry other := by
    intro other different
    rw [entries, entry_activate, if_neg different]
  have closed : Closed next.entry := by
    intro other
    by_cases same : other = role
    · rw [same, here]
    · rw [elsewhere other same]
      exact intent.others other same
  have advances : ∀ objects, Consistent env setting manager saved objects →
      Replaced setting manager next saved := by
    intro objects consistent other
    by_cases same : other = role
    · have valid := consistent.roles role
      rw [shape] at valid
      rw [same, here, shape]
      exact advance_activated valid
    · rw [elsewhere other same]
      exact .same _
  refine within_weaken ?_ (.mapError (persistSnapshot_within ?_ ?_))
  · rintro _ visible objects ⟨⟨rfl, rfl⟩, _⟩
    exact ⟨rfl, closed⟩
  · rintro visible objects consistent ⟨rfl, created⟩
    refine ⟨version.trans consistent.version, ?_, fun other => ?_⟩
    · rw [revision]
      have unfinished : (visible.entry role).pending ≠ none := by simp [intent.pending]
      exact consistent.room.close unfinished closed (advances objects consistent)
    · by_cases same : other = role
      · have valid := consistent.roles role
        rw [shape] at valid
        rw [same, here]
        exact valid.activate created
      · rw [elsewhere other same]
        exact consistent.roles other
  · rintro _ objects consistent ⟨rfl, _⟩
    exact advances objects consistent

end Creating

section Operations

theorem initialHandle_within (policy : RolePolicy) :
    Within env setting manager process since fact (initialHandle policy)
      fun handle visible objects => fact visible objects ∧ handle ∈ policy.handles := by
  unfold initialHandle
  cases policy.handles with
  | nil => exact .fail
  | cons handle =>
    refine .sequence (ask_readPublic handle) fun read => ?_
    cases notFound read with
    | true => exact within_ret fun _ _ _ known => ⟨known.1, List.mem_cons_self⟩
    | false => exact .take fun _ _ => .fail

theorem rotationHandle_within (policy : RolePolicy) (recorded handles : List Handle)
    (occupied : Bool) :
    Within env setting manager process since fact (rotationHandle policy recorded occupied handles)
      fun handle visible objects => fact visible objects ∧ handle ∈ handles ∧
        handle ∉ recorded := by
  induction handles generalizing occupied with
  | nil => exact .fail
  | cons first rest ih =>
    have later : ∀ occupied, Within env setting manager process since fact
        (rotationHandle policy recorded occupied rest)
        fun handle visible objects => fact visible objects ∧ handle ∈ first :: rest ∧
          handle ∉ recorded := by
      intro occupied
      refine within_weaken ?_ (ih occupied)
      intro _ _ _ found
      exact ⟨found.1, List.mem_cons_of_mem _ found.2.1, found.2.2⟩
    unfold rotationHandle
    split
    · exact later occupied
    · next unrecorded =>
        refine .sequence (ask_readPublic first) fun read => ?_
        cases notFound read with
        | true =>
          refine within_ret fun _ _ _ known => ⟨known.1, List.mem_cons_self, ?_⟩
          simpa using unrecorded
        | false =>
          refine .take fun _ _ => ?_
          exact within_of (fun _ _ _ known => known.1) (later true)

theorem requireRevisionCapacity_eq_ok {snapshot : Snapshot} {steps : UInt64} :
    requireRevisionCapacity snapshot steps = .ok () ↔
      snapshot.revision.toNat + steps.toNat ≤ maxUint64.toNat := by
  have largest : maxUint64.toNat = 2 ^ 64 - 1 := rfl
  have below := UInt64.toNat_lt snapshot.revision
  have whole : snapshot.revision ≤ maxUint64 := by
    rw [UInt64.le_iff_toNat_le]
    omega
  rw [requireRevisionCapacity, reject_eq_ok, decide_eq_false_iff_not, UInt64.lt_iff_toNat_lt,
    not_lt, UInt64.toNat_sub_of_le _ _ whole]
  omega

theorem ensureRoleLocked_within (role : Role) (encodes : EncodesKeys env) :
    Within env setting manager process since fact
      (ensureRoleLocked env manager ctx role) fun _ _ _ => True := by
  refine .sequence (openLocked_within ctx) fun snapshot => ?_
  refine within_assume (fun _ _ _ known => known.2) fun settled => ?_
  refine within_of (fun _ _ _ known => known.1) ?_
  refine .take fun policy accepted => ?_
  obtain ⟨configured, rfl⟩ := role_of_configuredPolicy accepted
  cases present : snapshot.roles.lookup policy.role with
  | some state =>
    refine .sequence (verifyMetadataValue_within ctx state.active) fun _ => ?_
    exact within_ret fun _ _ _ _ => trivial
  | none =>
    refine .sequence (initialHandle_within policy) fun handle => ?_
    refine within_assume (fun _ _ _ known => known.2) fun pool => ?_
    refine .take fun _ granted => ?_
    have absent : (snapshot.entry policy.role).state = none := present
    have plan : Plan setting manager since policy handle 1 snapshot := by
      refine ⟨configured, pool, fun _ => absent, ?_, ?_, ?_, settled,
        requireRevisionCapacity_eq_ok.mp granted, ?_⟩
      · rw [absent]
        rfl
      · intro recorded found
        cases absent.symm.trans found
      · intro _ found
        cases absent.symm.trans found
      · intro found
        exact absurd absent found
    refine .sequence (within_of (fun _ _ _ known => known.1)
      (createMetadata_within ctx plan encodes)) ?_
    rintro ⟨_, _⟩
    refine .take fun next incremented => ?_
    refine within_assume (fun _ _ _ known => known.2.1) fun intent => ?_
    refine .sequence (within_of (fun _ _ _ known => ⟨known.1, known.2.2⟩)
      (activation_within _ intent incremented)) fun _ => ?_
    exact within_ret fun _ _ _ _ => trivial

/-- A role may be rotated from a reading of the clock on. -/
def Rotatable (setting : Setting) (manager : Manager) (since : Time) (role : Role)
    (snapshot : Snapshot) : Prop :=
  ∀ policy state, manager.policy role = some policy → snapshot.roles.lookup role = some state →
    ∀ later, setting.reads since later → setting.follows policy state.active later

theorem rotateLocked_within (role : Role) {snapshot : Snapshot}
    (encodes : EncodesKeys env) (settled : Settled snapshot)
    (rotatable : Rotatable setting manager since role snapshot) :
    Within env setting manager process since (fun visible _ => visible = snapshot)
      (rotateLocked env manager ctx role snapshot) fun _ _ _ => True := by
  refine .take fun policy accepted => ?_
  obtain ⟨configured, rfl⟩ := role_of_configuredPolicy accepted
  refine .check fun movable => ?_
  cases present : snapshot.roles.lookup policy.role with
  | none => exact .fail
  | some state =>
    have here : (snapshot.entry policy.role).state = some state := present
    refine .sequence (verifyMetadataValue_within ctx state.active) fun _ => ?_
    refine .check fun below => ?_
    refine .take fun _ granted => ?_
    refine .sequence (rotationHandle_within policy _ policy.handles false) fun handle => ?_
    refine within_assume (fun _ _ _ known => known.2) fun chosen => ?_
    have space := requireRevisionCapacity_eq_ok.mp granted
    have three : (3 : UInt64).toNat = 3 := rfl
    have plan : Plan setting manager since policy handle (state.active.generation + 1)
        snapshot := by
      refine ⟨configured, chosen.1, ?_, ?_, ?_, ?_, settled, by omega, fun _ => by omega⟩
      · intro permanent
        rw [movable] at permanent
        cases permanent
      · rw [here]
        exact bind_eq_ok.mpr ⟨(), reject_eq_ok.mpr below, rfl⟩
      · intro recorded found
        cases here.symm.trans found
        exact chosen.2
      · intro _ found
        cases here.symm.trans found
        exact rotatable policy state configured present
    refine .sequence (within_of (fun _ _ _ known => known.1)
      (createMetadata_within ctx plan encodes)) ?_
    rintro ⟨_, _⟩
    refine .take fun next incremented => ?_
    refine within_assume (fun _ _ _ known => known.2.1) fun intent => ?_
    refine .sequence (within_of (fun _ _ _ known => ⟨known.1, known.2.2⟩)
      (activation_within _ intent incremented)) fun result => ?_
    refine within_assume (fun _ _ _ known => known.2) fun closed => ?_
    refine .sequence (.mapError (within_of (fun _ _ _ known => known.1)
      (reconcileRetiring_within ctx result closed))) fun _ => ?_
    exact within_ret fun _ _ _ _ => trivial

theorem metadataLocked_within (role : Role) :
    Within env setting manager process since fact (metadataLocked env manager ctx role)
      fun _ _ _ => True := by
  refine .sequence (openLocked_within ctx) fun snapshot => ?_
  cases snapshot.roles.lookup role with
  | none => exact .take fun _ _ => .fail
  | some state =>
    refine .sequence (verifyMetadataValue_within ctx state.active) fun _ => ?_
    exact within_ret fun _ _ _ _ => trivial

theorem prepareCertificateLocked_within (request : CertificateRequest) :
    Within env setting manager process since fact
      (prepareCertificateLocked env manager ctx request) fun _ _ _ => True := by
  refine .sequence (openLocked_within ctx) fun snapshot => ?_
  refine .take fun _ _ => .check fun _ => .check fun _ => ?_
  cases snapshot.roles.lookup request.role with
  | none => exact .fail
  | some state =>
    refine .sequence (verifyMetadataValue_within ctx state.active) fun _ => ?_
    exact .take fun _ _ => within_weaken (fun _ _ _ _ => trivial) within_check

theorem signCertificateLocked_within (issuance : Issuance) :
    Within env setting manager process since fact
      (signCertificateLocked env manager ctx issuance) fun _ _ _ => True := by
  refine .sequence (openLocked_within ctx) fun snapshot => .check fun _ => ?_
  refine .sequence (verifyMetadataValue_within ctx issuance.metadata) fun _ => ?_
  refine .sequence (within_of_reads (.mapError (createCertificate_reads ctx issuance)))
    fun der => ?_
  refine .take fun cert _ => ?_
  refine .sequence (ask_unchanged _ fun _ _ _ answered => answered) fun verified => ?_
  exact .take fun _ _ => within_ret fun _ _ _ _ => trivial

theorem rotateIfDueLocked_within (role : Role) (now : Time) (encodes : EncodesKeys env) :
    Within env setting manager process now fact
      (rotateIfDueLocked env manager ctx role now) fun _ _ _ => True := by
  refine .sequence (openLocked_within ctx) fun snapshot => ?_
  refine within_assume (fun _ _ _ known => known.2) fun settled => ?_
  refine within_of (fun _ _ _ known => known.1) ?_
  refine .take fun policy accepted => ?_
  obtain ⟨configured, rfl⟩ := role_of_configuredPolicy accepted
  refine .check fun _ => ?_
  cases present : snapshot.roles.lookup policy.role with
  | none => exact within_ret fun _ _ _ _ => trivial
  | some state =>
    dsimp only
    split
    · exact within_ret fun _ _ _ _ => trivial
    · next due =>
        have reached : state.active.createdAt + policy.rotationInterval ≤ now := by
          simpa [isDue] using due
        have rotatable : Rotatable setting manager now policy.role snapshot := by
          intro _ _ otherConfigured found later reads
          cases configured.symm.trans otherConfigured
          cases present.symm.trans found
          exact setting.due policy _ now later reached reads
        refine .sequence (ensureLoaded_within ctx settled) fun loaded => ?_
        refine within_assume (fun _ _ _ known => known.2) fun same => ?_
        subst same
        refine .sequence (within_of (fun _ _ _ known => known.1)
          (rotateLocked_within ctx policy.role encodes settled rotatable)) fun _ => ?_
        exact within_ret fun _ _ _ _ => trivial

theorem dueRolesLocked_within (now : Time) :
    Within env setting manager process since fact (dueRolesLocked env manager ctx now)
      fun _ _ _ => True :=
  .sequence (openLocked_within ctx) fun _ => within_ret fun _ _ _ _ => trivial

end Operations

section Exclusion

/-- An operation enters the store, works inside, and leaves. -/
theorem withExclusiveOperation_outside {α : Type} {operation : Managing α} {post : α → Fact}
    (within : Within env setting manager process since (fun _ _ => True) operation post) :
    Ensures (contract env setting manager process) (Outside setting process)
      (Free setting process since) (withExclusiveOperation ctx operation) fun _ _ => True := by
  intro _ _ free _ valid relied reply _ answered
  rcases answered with ⟨failed, rfl⟩ | ⟨rfl, unheld, rfl⟩
  · refine ⟨valid, fun other _ => refl_of (Relies setting other) _, ?_⟩
    cases reply with
    | ok => exact absurd rfl failed
    | error => exact ⟨valid, relied.outside, fun _ _ => trivial⟩
  · have inside := valid.withHolder (some process)
    refine ⟨inside, ?_, ?_⟩
    · intro other different
      refine ⟨setting.refl _, ?_, ?_⟩
      · intro held
        rw [unheld] at held
        cases held
      · intro _ held
        exact different (Option.some.inj held).symm
    · have clock := setting.trans _ _ _ free.clock relied.clock
      change Safe _ _ (operation.attempt >>= fun outcome =>
        ask .release >>= fun _ => Program.ofExcept outcome) _
      refine Safe.bind (Safe.attempt (Safe.weaken ?_ (within _ inside ⟨rfl, clock, trivial⟩)))
      rintro _ _ ⟨_, worked, _⟩ _ foundValid reliedLast _ _ rfl
      have held := (reliedLast.mine (worked.held rfl)).1
      have left := foundValid.withHolder none
      refine ⟨left, ?_, ?_⟩
      · intro _ different
        exact relies_of_holder held different (setting.refl _) (.inr rfl)
      · have reads := setting.trans _ _ _ relied.clock
          (setting.trans _ _ _ worked.clock reliedLast.clock)
        refine Safe.ofExcept ⟨left, ⟨reads, ?_⟩, fun _ _ => trivial⟩
        intro _ stillHeld
        cases stillHeld

theorem dropping {α : Type} {program : Managing α} {pre : World → Prop} {post : α → World → Prop}
    (ensured : Ensures (contract env setting manager process) (Outside setting process) pre
      program post) :
    Ensures (contract env setting manager process) (Outside setting process) pre
      (program >>= fun _ => .ret ()) fun _ _ => True :=
  .sequence ensured fun _ => .ret fun _ _ _ => trivial

theorem ask_outside (request : Request)
    (unchanged : ∀ world reply after, answer setting process world request reply after →
      after = world) :
    Ensures (contract env setting manager process) (Outside setting process)
      (Free setting process since) (ask request) fun _ => Free setting process since := by
  intro _ _ free _ valid relied _ _ answered
  rcases unchanged _ _ _ answered with rfl
  refine ⟨valid, fun other _ => refl_of (Relies setting other) _, valid, relied.outside, ?_⟩
  intro _ _
  exact Free.lasting _ _ relied.outside free

theorem ask_now_outside :
    Ensures (contract env setting manager process) (Outside setting process)
      (Free setting process since) (ask .now) fun now => Free setting process now := by
  rintro _ _ free _ valid relied reply _ ⟨reads, rfl⟩
  have outside := relied.theirs free.holder
  refine ⟨valid.withClock reply, ?_, valid.withClock reply, ?_, ?_⟩
  · intro _ _
    exact ⟨reads, fun held => ⟨held, rfl, rfl⟩, fun free => free⟩
  · exact ⟨setting.trans _ _ _ relied.clock reads, fun _ => outside⟩
  · rintro _ ⟨⟩
    exact ⟨outside, setting.refl _⟩

theorem rotateDueRoles_outside (now : Time) (encodes : EncodesKeys env)
    (report : RotationReport) (roles : List Role) :
    Ensures (contract env setting manager process) (Outside setting process)
      (Free setting process now) (rotateDueRoles env manager ctx now report roles)
      fun _ _ => True := by
  induction roles generalizing report with
  | nil => exact .ret fun _ _ _ => trivial
  | cons role _ ih =>
    refine .sequence (ask_outside (.contextError ctx) fun _ _ _ answered => answered.1)
      fun done => ?_
    cases done with
    | some => exact .ret fun _ _ _ => trivial
    | none =>
      refine .sequence (.frame Free.lasting (fun _ free => free) (.attempt
        (withExclusiveOperation_outside ctx (rotateIfDueLocked_within ctx role now encodes))))
        fun outcome => .strengthen (fun _ known => known.1) ?_
      cases outcome with
      | error => exact ih _
      | ok result =>
        cases result with
        | none | some => exact ih _

theorem checkContext_outside :
    Ensures (contract env setting manager process) (Outside setting process)
      (Free setting process since) (checkContext ctx) fun _ => Free setting process since := by
  refine .sequence (ask_outside (.contextError ctx) fun _ _ _ answered => answered.1) fun done => ?_
  cases done with
  | some => exact .fail
  | none => exact .ret fun _ _ free => free

theorem issueCertificate_outside (request : CertificateRequest) :
    Ensures (contract env setting manager process) (Outside setting process)
      (Free setting process since) (issueCertificate env manager ctx request)
      fun _ _ => True := by
  refine .sequence (.frame Free.lasting (fun _ free => free) (withExclusiveOperation_outside ctx
    (prepareCertificateLocked_within ctx request))) fun issuance => ?_
  refine .strengthen (fun _ known => known.1) (.take fun authorizationCopy _ => ?_)
  refine .sequence (ask_outside _ fun _ _ _ answered => answered) fun authorized => ?_
  refine .take fun _ _ => .sequence (checkContext_outside ctx) fun _ => ?_
  exact withExclusiveOperation_outside ctx (signCertificateLocked_within ctx issuance)

theorem runOnce_outside (encodes : EncodesKeys env) :
    Ensures (contract env setting manager process) (Outside setting process)
      (Free setting process since) (runOnce env manager ctx) fun _ _ => True := by
  refine .sequence (checkContext_outside ctx) fun _ => ?_
  refine .sequence ask_now_outside fun now => ?_
  refine .sequence (.frame Free.lasting (fun _ free => free)
    (withExclusiveOperation_outside ctx (dueRolesLocked_within ctx now))) fun roles => ?_
  exact .strengthen (fun _ known => known.1) (rotateDueRoles_outside ctx now encodes {} roles)

/-- Every operation that is offered keeps the world valid. -/
theorem Offered.outside {program : Managing Unit} (encodes : EncodesKeys env)
    (offered : Offered env setting manager program) :
    Ensures (contract env setting manager process) (Outside setting process)
      (Free setting process since) program fun _ _ => True := by
  cases offered with
  | openManager ctx =>
    have opened : Within env setting manager process since (fun _ _ => True)
        (openLocked env manager ctx >>= fun _ => .ret ()) fun _ _ _ => True :=
      .sequence (openLocked_within ctx) fun _ => within_ret fun _ _ _ _ => trivial
    exact withExclusiveOperation_outside ctx opened
  | ensureRole ctx role =>
    exact dropping (withExclusiveOperation_outside ctx (ensureRoleLocked_within ctx role encodes))
  | rotate asked ctx role =>
    have rotated : ∀ snapshot, Within env setting manager process since
        (fun visible _ => visible = snapshot ∧ Settled snapshot)
        (rotateLocked env manager ctx role snapshot) fun _ _ _ => True := by
      intro snapshot
      refine within_assume (fun _ _ _ known => known.2) fun settled => ?_
      refine within_of (fun _ _ _ known => known.1)
        (rotateLocked_within ctx role encodes settled ?_)
      intro policy state _ _ later _
      exact setting.anytime asked policy state.active later
    exact dropping (withExclusiveOperation_outside ctx (.sequence (openLocked_within ctx) rotated))
  | metadata ctx role =>
    exact dropping (withExclusiveOperation_outside ctx (metadataLocked_within ctx role))
  | publicSnapshot ctx =>
    exact dropping (withExclusiveOperation_outside ctx (openLocked_within ctx))
  | reconcileRetiringKeys ctx =>
    have retired : ∀ snapshot, Within env setting manager process since
        (fun visible _ => visible = snapshot ∧ Settled snapshot)
        (reconcileRetiring env manager ctx snapshot >>= fun _ => .ret ())
        fun _ _ _ => True := by
      intro snapshot
      refine within_assume (fun _ _ _ known => known.2) fun settled => ?_
      refine .sequence (within_of (fun _ _ _ known => known.1)
        (reconcileRetiring_within ctx snapshot settled.closed)) fun _ => ?_
      exact within_ret fun _ _ _ _ => trivial
    exact withExclusiveOperation_outside ctx (.sequence (openLocked_within ctx) retired)
  | issueCertificate ctx request => exact dropping (issueCertificate_outside ctx request)
  | runOnce ctx => exact dropping (runOnce_outside ctx encodes)

theorem discipline_kept (encodes : EncodesKeys env) :
    (discipline env setting manager).Kept (rules env setting manager) where
  refl name := refl_of (Relies setting name)
  trans name _ _ _ := trans_of (Relies setting name)
  freshStable _ _ _ relied := relied.theirs
  offeredSafe name program world offered valid fresh :=
    (offered.outside encodes).safe valid ⟨fresh, setting.refl world.clock⟩
  crashValid stopped before after valid crashed := by
    rcases crashed with ⟨_, rfl⟩ | ⟨_, rfl⟩
    · exact valid.withHolder none
    · exact valid
  crashRely stopped before after name crashed alive := by
    rcases crashed with ⟨⟨holder, held, dead⟩, rfl⟩ | ⟨_, rfl⟩
    · refine relies_of_holder held ?_ (setting.refl _) (.inr rfl)
      rintro rfl
      exact alive dead
    · exact refl_of (Relies setting name) _

theorem valid_of_reachable {objects : Handle → Option Public} {clock : Time}
    {state : SystemState signature World Process Error Unit} (encodes : EncodesKeys env)
    (untouched : ∀ role handle, manager.Pool role handle → setting.tracked handle →
      objects handle = none)
    (reached : (rules env setting manager).Reachable (initialWorld objects clock) state) :
    Valid env setting manager state.world :=
  (Discipline.Holds.reachable (discipline_kept encodes) (valid_initial untouched)
    (fun _ held => by cases held) reached).world

end Exclusion

end Sovereignite.KeyManager.Shared
