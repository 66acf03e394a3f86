import Sovereignite.TrustRecordForms

/-!
# What validation accepts

A committed document passes validation exactly when its collections are within
their bounds and it is well formed: every record has its form, the records
agree with each other, no serial is used twice, and the last publication is the
newest completed one.  Each part is stated on its own, so that a candidate can
be shown to pass by looking at the parts that an operation changed.
-/

namespace Sovereignite.Trust

open Effect KeyedRecords

section Definition

variable (env : Platform)

/-- The authority of a document: none at all, or a self-signed certificate of
the local domain that heads the bundle of that domain. -/
@[mk_iff]
inductive AuthorityForm (domain : String) (encoded : Bytes) (id : String)
    (bundles : StringMap TrustBundleRecord) : Prop where
  | absent (missing : encoded = []) (unnamed : id = "") (unbundled : bundles.lookup domain = none) :
      AuthorityForm domain encoded id bundles
  | present (cert : Certificate) (form : AuthorityEncoding env encoded cert)
      (named : cert.subject.commonName = domain)
      (selfSigned : env.checkSignatureFrom cert cert = .ok ())
      (identified : certificateID env encoded = id)
      (bundle : TrustBundleRecord) (found : bundles.lookup domain = some bundle)
      (heads : bundle.caCertificates.head? = some encoded) :
      AuthorityForm domain encoded id bundles

/-- A document that passes validation if its collections are within bounds. -/
structure WellFormed (snapshot : Snapshot) : Prop where
  version : snapshot.version = stateVersion
  positive : snapshot.nextSerial ≠ 0
  committed : snapshot.revision ≠ 0
  identity : deriveDeviceIdentity env snapshot.identity.canonicalIPNS
    snapshot.identity.peerID = .ok snapshot.identity
  authority : AuthorityForm env snapshot.identity.trustDomain
    snapshot.activeCACertificate snapshot.activeCAID snapshot.bundles
  relationships : ∀ id record, snapshot.relationships.lookup id = some record →
    RelationshipForm env snapshot.identity.peerID id record
  ownership : Ownership snapshot.relationships
  certificates : ∀ id record, snapshot.certificates.lookup id = some record →
    CertificateForm env snapshot.identity.spiffeID snapshot.activeCACertificate id record
  certificateLinks : ∀ id record, snapshot.certificates.lookup id = some record →
    CertificateLinks snapshot.revocations snapshot.relationships id record
  pending : ∀ id record, snapshot.pendingCertificates.lookup id = some record →
    PendingForm env id record
  burned : ∀ serial time, snapshot.burnedSerials.lookup serial = some time → BurnedForm serial time
  federations : ∀ domain record, snapshot.federations.lookup domain = some record →
    FederationForm env snapshot.identity.trustDomain snapshot.activeCACertificate domain record
  cross : ∀ domain record, snapshot.federations.lookup domain = some record → CrossForm record
  crossOnce : ∀ first second left right, snapshot.federations.lookup first = some left →
    snapshot.federations.lookup second = some right →
    left.crossCertificateID = right.crossCertificateID → first = second
  revocations : ∀ id record, snapshot.revocations.lookup id = some record →
    RevocationForm env snapshot.activeCACertificate id record
  revocationLeaves : ∀ id record, snapshot.revocations.lookup id = some record →
    record.kind = .mtls → ∃ cert, snapshot.certificates.lookup id = some cert ∧
      cert.serial = record.serial ∧ cert.der = record.certificateDER ∧
      cert.status = .revoked ∧ cert.revokedAt = record.revokedAt
  revocationsReplaced : ∀ id record, snapshot.revocations.lookup id = some record →
    record.kind = .cross → snapshot.certificates.lookup id = none ∧
      ∀ domain federation, snapshot.federations.lookup domain = some federation →
        federation.crossCertificateID ≠ id
  authoritySerial : ∀ serial ∈ activeCASerials env snapshot, validateSerial serial = .ok ()
  serialsOnce : (serials env snapshot).Nodup
  serialsBelow : ∀ serial ∈ serials env snapshot, ∀ value, setString serial = some value →
    value < (snapshot.nextSerial.toNat : Int)
  bundles : ∀ domain record, snapshot.bundles.lookup domain = some record →
    checkBundle env ⟨domain, record⟩ = .ok ()
  appliedGrants : ∀ digest record, snapshot.appliedGrants.lookup digest = some record →
    checkAppliedGrant ⟨digest, record⟩ = .ok ()
  outbox : ∀ id publication, snapshot.outbox.lookup id = some publication →
    OutboxForm env snapshot.identity snapshot.revision id publication
  published : ∀ id record, snapshot.published.lookup id = some record → PublishedForm env id record
  publishedOnce : ∀ first second left right, snapshot.published.lookup first = some left →
    snapshot.published.lookup second = some right →
    left.ipnsSequence = right.ipnsSequence → first = second
  lastPublished : LastPublished snapshot.published snapshot.lastIPNSSequence
    snapshot.lastPublishedRoot

end Definition

variable {env : Platform} {snapshot : Snapshot}

theorem validateCA_eq_ok :
    validateCA env snapshot = .ok () ↔
      AuthorityForm env snapshot.identity.trustDomain snapshot.activeCACertificate
        snapshot.activeCAID snapshot.bundles := by
  unfold validateCA
  dsimp only
  rw [authorityForm_iff]
  cases empty : snapshot.activeCACertificate with
  | nil =>
    simp only [List.isEmpty_nil, if_true, bind_eq_ok, reject_eq_ok, bne_eq_false_iff_eq,
      has_eq_false, Unique.exists_iff]
    grind [AuthorityEncoding.nonempty]
  | cons =>
    simp only [List.isEmpty_cons, Bool.false_eq_true, if_false, bind_eq_ok, reject_eq_ok,
      annotated, mapError_eq_ok, bne_eq_false_iff_eq, Bool.not_eq_false', decide_eq_false_iff_not,
      Nat.not_lt, Unique.exists_iff, PUnit.default_eq_unit]
    cases snapshot.bundles.lookup snapshot.identity.trustDomain <;> grind [AuthorityEncoding]

section Serials

/-- Keys without repetition that are not in use yet. -/
def Fresh (start keys : List String) : Prop :=
  keys.Nodup ∧ ∀ key ∈ keys, key ∉ start

theorem nodup_append_iff_fresh {start keys : List String} :
    (start ++ keys).Nodup ↔ start.Nodup ∧ Fresh start keys := by
  rw [List.nodup_append, Fresh]
  grind

theorem Fresh.congr {start other keys : List String} (same : ∀ key, key ∈ start ↔ key ∈ other) :
    Fresh start keys ↔ Fresh other keys := by
  simp only [Fresh, same]

theorem foldEach_serials {Value : Type} {records : StringMap Value}
    {step : List String → (Σ _ : String, Value) → Except Error (List String)}
    {read : (Σ _ : String, Value) → Option String}
    {good : (Σ _ : String, Value) → Prop} {rest restOf : List String → Prop}
    (accepts : ∀ used entry next, step used entry = .ok next ↔
      good entry ∧ (∀ key ∈ (read entry).toList, key ∉ used) ∧
        next = (read entry).toList ++ used)
    (continues : ∀ finish serials, (∀ key, key ∈ finish ↔ key ∈ serials) →
      (rest finish ↔ restOf serials))
    (start serials : List String) (same : ∀ key, key ∈ start ↔ key ∈ serials) :
    (∃ finish, foldEach step start records.entries = .ok finish ∧ rest finish) ↔
      (∀ key value, records.lookup key = some value → good ⟨key, value⟩) ∧
        Fresh serials (collected read records) ∧
        restOf (serials ++ collected read records) := by
  have collects : ∀ (used : List String) (entry : Σ _ : String, Value) key,
      key ∈ (read entry).toList ++ used ↔ key ∈ (read entry).toList ∨ key ∈ used :=
    fun used entry key => List.mem_append
  have folded := fun finish => @foldEach_keyed Error (List String) (Σ _ : String, Value) String
    step (fun used entry => (read entry).toList ++ used) id (fun entry => (read entry).toList)
    good accepts (fun entry _ => by cases read entry <;> simp) collects records.entries start
    finish
  have members := fun key => @mem_used_foldl (List String) (Σ _ : String, Value) String
    (fun used entry => (read entry).toList ++ used) id (fun entry => (read entry).toList) collects
    records.entries start key
  simp only [folded, ← List.filterMap_eq_flatMap_toList, forall_entries, id]
  simp only [← List.filterMap_eq_flatMap_toList, id] at members
  have finished := continues
    (records.entries.foldl (fun used entry => (read entry).toList ++ used) start)
    (serials ++ collected read records) fun key => by
      rw [members, same, List.mem_append, or_comm]
      rfl
  have fresh : Fresh start (collected read records) ↔ Fresh serials (collected read records) :=
    Fresh.congr same
  constructor
  · rintro ⟨_, ⟨goods, distinct, apart, rfl⟩, remaining⟩
    exact ⟨goods, fresh.mp ⟨distinct, apart⟩, finished.mp remaining⟩
  · rintro ⟨goods, freshKeys, remaining⟩
    exact ⟨_, ⟨goods, (fresh.mpr freshKeys).1, (fresh.mpr freshKeys).2, rfl⟩,
      finished.mpr remaining⟩

theorem nodup_pairs {α β γ : Type} {left : α → β} {right : α → γ} {elements : List α} :
    (elements.flatMap fun element => [Sum.inl (left element), Sum.inr (right element)]).Nodup ↔
      (elements.map left).Nodup ∧ (elements.map right).Nodup := by
  induction elements with
  | nil => simp
  | cons _ _ ih =>
    simp only [List.flatMap_cons, List.cons_append, List.nil_append, List.nodup_cons, ih,
      List.map_cons, List.mem_cons, List.mem_flatMap, List.mem_map]
    simp only [List.not_mem_nil, or_false, reduceCtorEq, Sum.inl.injEq, Sum.inr.injEq, false_or,
      eq_comm]
    tauto

def crossID (entry : Σ _ : String, FederationRecord) : Option String :=
  some entry.2.crossCertificateID

/-- The walk through the federations, and what follows it. -/
theorem foldEach_cross {federations : StringMap FederationRecord}
    {rest : List String × List String → Prop} {restOf : List String → Prop}
    (named : ∀ domain record, federations.lookup domain = some record →
      record.crossCertificateSerial ≠ "")
    (continues : ∀ finish serials, (∀ key, key ∈ finish.1 ↔ key ∈ serials) →
      (∀ id, id ∈ finish.2 ↔ id ∈ collected crossID federations) →
      (rest finish ↔ restOf serials))
    (start serials : List String) (same : ∀ key, key ∈ start ↔ key ∈ serials) :
    (∃ finish, foldEach checkFederationSerial (start, []) federations.entries = .ok finish ∧
        rest finish) ↔
      (∀ domain record, federations.lookup domain = some record → CrossForm record) ∧
        (collected crossID federations).Nodup ∧
        Fresh serials (collected crossSerial federations) ∧
        restOf (serials ++ collected crossSerial federations) := by
  have collects : ∀ (state : List String × List String) entry key,
      key ∈ crossUsed (enterCross state entry) ↔ key ∈ crossKeys entry ∨ key ∈ crossUsed state := by
    intro state entry key
    unfold crossUsed enterCross crossKeys
    by_cases absent : entry.2.crossCertificateSerial = "" <;> cases key <;> simp [absent, eq_comm]
  have folded := fun finish => @foldEach_keyed Error (List String × List String)
    (Σ _ : String, FederationRecord) (String ⊕ String) checkFederationSerial enterCross crossUsed
    crossKeys (fun entry => entry.2.crossCertificateSerial ≠ "" → CrossForm entry.2)
    (fun _ _ _ => checkFederationSerial_accepts)
    (fun entry _ => by unfold crossKeys; split <;> simp) collects federations.entries (start, [])
    finish
  have members := fun key => @mem_used_foldl (List String × List String)
    (Σ _ : String, FederationRecord) (String ⊕ String) enterCross crossUsed crossKeys collects
    federations.entries (start, []) key
  have keys : federations.entries.flatMap crossKeys = federations.entries.flatMap fun entry =>
      [.inl entry.2.crossCertificateSerial, .inr entry.2.crossCertificateID] := by
    refine List.flatMap_congr fun entry member => ?_
    simp [crossKeys, named entry.1 entry.2 (mem_entries_iff.mp member)]
  have serialList : collected crossSerial federations =
      federations.entries.map fun entry => entry.2.crossCertificateSerial :=
    congrFun List.filterMap_eq_map federations.entries
  have idList : collected crossID federations =
      federations.entries.map fun entry => entry.2.crossCertificateID :=
    congrFun List.filterMap_eq_map federations.entries
  have distinct : (federations.entries.flatMap crossKeys).Nodup ↔
      (collected crossSerial federations).Nodup ∧ (collected crossID federations).Nodup := by
    rw [keys, nodup_pairs, serialList, idList]
  have apart : (∀ key ∈ federations.entries.flatMap crossKeys, key ∉ crossUsed (start, [])) ↔
      ∀ serial ∈ collected crossSerial federations, serial ∉ start := by
    rw [keys, serialList]
    simp [crossUsed]
    grind
  have serialsUsed : ∀ (state : List String × List String) key,
      .inl key ∈ crossUsed state ↔ key ∈ state.1 := by
    simp [crossUsed]
  have idsUsed : ∀ (state : List String × List String) key,
      .inr key ∈ crossUsed state ↔ key ∈ state.2 := by
    simp [crossUsed]
  have finished := continues (federations.entries.foldl enterCross (start, []))
    (serials ++ collected crossSerial federations)
    (fun key => by
      rw [← serialsUsed, members, keys, serialsUsed, same, List.mem_append, serialList, or_comm]
      simp [eq_comm])
    (fun id => by
      rw [← idsUsed, members, keys, idsUsed, idList]
      simp [eq_comm])
  have fresh : Fresh start (collected crossSerial federations) ↔
      Fresh serials (collected crossSerial federations) := Fresh.congr same
  simp only [folded, distinct, apart, forall_entries]
  constructor
  · rintro ⟨_, ⟨forms, ⟨serialsOnce, idsOnce⟩, unused, rfl⟩, remaining⟩
    exact ⟨fun domain record found => forms domain record found (named domain record found),
      idsOnce, fresh.mp ⟨serialsOnce, unused⟩, finished.mp remaining⟩
  · rintro ⟨forms, idsOnce, freshSerials, remaining⟩
    obtain ⟨serialsOnce, unused⟩ := fresh.mpr freshSerials
    exact ⟨_, ⟨fun domain record found _ => forms domain record found, ⟨serialsOnce, idsOnce⟩,
      unused, rfl⟩, finished.mpr remaining⟩

def exceedsNext (snapshot : Snapshot) (used : List String) : Bool :=
  used.any fun serial =>
    match setString serial with
    | none => false
    | some value => decide ((snapshot.nextSerial.toNat : Int) ≤ value)

def BelowNext (snapshot : Snapshot) (serials : List String) : Prop :=
  ∀ serial ∈ serials, ∀ value, setString serial = some value →
    value < (snapshot.nextSerial.toNat : Int)

theorem exceedsNext_eq_false {used serials : List String}
    (same : ∀ key, key ∈ used ↔ key ∈ serials) :
    exceedsNext snapshot used = false ↔ BelowNext snapshot serials := by
  rw [exceedsNext, BelowNext, List.any_eq_false]
  simp only [same]
  refine forall_congr' fun serial => forall_congr' fun _ => ?_
  cases setString serial with
  | none | some => simp

def RevocationsLinked (env : Platform) (snapshot : Snapshot) : Prop :=
  ∀ id record, snapshot.revocations.lookup id = some record →
    RevocationForm env snapshot.activeCACertificate id record ∧
      RevocationLinks snapshot.certificates (collected crossID snapshot.federations) id record

theorem revocations_walk {activeCross : List String}
    (ids : ∀ id, id ∈ activeCross ↔ id ∈ collected crossID snapshot.federations)
    (start serials : List String) (same : ∀ key, key ∈ start ↔ key ∈ serials) :
    (∃ finish, foldEach (checkRevocation env snapshot activeCross) start
        snapshot.revocations.entries = .ok finish ∧ exceedsNext snapshot finish = false) ↔
      RevocationsLinked env snapshot ∧
        Fresh serials (collected replacedSerial snapshot.revocations) ∧
        BelowNext snapshot (serials ++ collected replacedSerial snapshot.revocations) := by
  have walked := @foldEach_serials RevocationRecord snapshot.revocations
    (checkRevocation env snapshot activeCross) replacedSerial
    (fun entry => RevocationForm env snapshot.activeCACertificate entry.1 entry.2 ∧
      RevocationLinks snapshot.certificates activeCross entry.1 entry.2)
    (fun finish => exceedsNext snapshot finish = false) (BelowNext snapshot)
    (fun _ _ _ => checkRevocation_eq_ok) (fun _ _ => exceedsNext_eq_false) start serials same
  simpa only [RevocationsLinked, revocationLinks_iff, ids] using walked

theorem federations_walk
    (named : ∀ domain record, snapshot.federations.lookup domain = some record →
      record.crossCertificateSerial ≠ "")
    (start serials : List String) (same : ∀ key, key ∈ start ↔ key ∈ serials) :
    (∃ crossed, foldEach checkFederationSerial (start, []) snapshot.federations.entries =
        .ok crossed ∧
        ∃ finish, foldEach (checkRevocation env snapshot crossed.2) crossed.1
          snapshot.revocations.entries = .ok finish ∧ exceedsNext snapshot finish = false) ↔
      (∀ domain record, snapshot.federations.lookup domain = some record → CrossForm record) ∧
        (collected crossID snapshot.federations).Nodup ∧
        Fresh serials (collected crossSerial snapshot.federations) ∧
        RevocationsLinked env snapshot ∧
        Fresh (serials ++ collected crossSerial snapshot.federations)
          (collected replacedSerial snapshot.revocations) ∧
        BelowNext snapshot (serials ++ collected crossSerial snapshot.federations ++
          collected replacedSerial snapshot.revocations) :=
  foldEach_cross named (fun finish serials sameSerials sameIDs =>
      revocations_walk sameIDs finish.1 serials sameSerials) start serials same

theorem validateCertificates_eq_ok
    (named : ∀ domain record, snapshot.federations.lookup domain = some record →
      record.crossCertificateSerial ≠ "") :
    validateCertificates env snapshot = .ok () ↔
      (∀ serial ∈ activeCASerials env snapshot, validateSerial serial = .ok ()) ∧
      (∀ id record, snapshot.certificates.lookup id = some record →
        CertificateForm env snapshot.identity.spiffeID snapshot.activeCACertificate id
          record ∧ CertificateLinks snapshot.revocations snapshot.relationships id record) ∧
      (∀ id record, snapshot.pendingCertificates.lookup id = some record →
        PendingForm env id record) ∧
      (∀ serial time, snapshot.burnedSerials.lookup serial = some time → BurnedForm serial time) ∧
      (∀ domain record, snapshot.federations.lookup domain = some record → CrossForm record) ∧
      (collected crossID snapshot.federations).Nodup ∧
      RevocationsLinked env snapshot ∧
      (serials env snapshot).Nodup ∧ BelowNext snapshot (serials env snapshot) := by
  have burnedWalk := fun start serials same =>
    @foldEach_serials Time snapshot.burnedSerials checkBurnedSerial burnedSerial
      (fun entry => BurnedForm entry.1 entry.2) _ _ (fun _ _ _ => by
        rw [checkBurnedSerial_eq_ok]
        simp [burnedSerial]) (@federations_walk env snapshot named) start serials same
  have pendingWalk := fun start serials same =>
    @foldEach_serials PendingCertificate snapshot.pendingCertificates
      (checkPendingCertificate env) pendingSerial
      (fun entry => PendingForm env entry.1 entry.2) _ _ (fun _ _ _ => by
        rw [checkPendingCertificate_eq_ok]
        simp [pendingSerial]) burnedWalk start serials same
  have walked := @foldEach_serials CertificateRecord snapshot.certificates
    (checkCertificate env snapshot) certificateSerial
    (fun entry => CertificateForm env snapshot.identity.spiffeID
        snapshot.activeCACertificate entry.1 entry.2 ∧
      CertificateLinks snapshot.revocations snapshot.relationships entry.1 entry.2) _ _
    (fun _ _ _ => by
      rw [checkCertificate_eq_ok]
      simp [certificateSerial]) pendingWalk (activeCASerials env snapshot)
    (activeCASerials env snapshot) fun _ => Iff.rfl
  have authorityOnce : (activeCASerials env snapshot).Nodup := by
    unfold activeCASerials
    split
    · simp
    · cases parsedCertificate env snapshot.activeCACertificate <;> simp
  unfold validateCertificates
  simp only [bind_eq_ok, reject_eq_ok, Unique.exists_iff, PUnit.default_eq_unit, checkEach_eq_ok]
  refine (and_congr_right' walked).trans ?_
  simp only [serials, nodup_append_iff_fresh, authorityOnce, true_and]
  tauto

end Serials

section Whole

theorem validateFederationsAndBundles_eq_ok :
    validateFederationsAndBundles env snapshot = .ok () ↔
      (∀ domain record, snapshot.federations.lookup domain = some record →
        FederationForm env snapshot.identity.trustDomain snapshot.activeCACertificate domain
          record) ∧
      ∀ domain record, snapshot.bundles.lookup domain = some record →
        checkBundle env ⟨domain, record⟩ = .ok () := by
  unfold validateFederationsAndBundles
  rw [bind_eq_ok]
  simp only [Unique.exists_iff, PUnit.default_eq_unit, checkEach_eq_ok, forall_entries,
    checkFederation_eq_ok]

theorem nodup_sequences {published : StringMap PublishedRecord} :
    (published.entries.flatMap fun entry => [entry.2.ipnsSequence]).Nodup ↔
      ∀ first second left right, published.lookup first = some left →
        published.lookup second = some right → left.ipnsSequence = right.ipnsSequence →
        first = second := by
  have listed : (published.entries.flatMap fun entry => [entry.2.ipnsSequence]) =
      collected (fun entry => some entry.2.ipnsSequence) published := by
    rw [collected, List.filterMap_eq_flatMap_toList]
    rfl
  rw [listed, nodup_collected_some]

theorem validateReplayAndPublicationState_eq_ok :
    validateReplayAndPublicationState env snapshot = .ok () ↔
      (∀ digest record, snapshot.appliedGrants.lookup digest = some record →
        checkAppliedGrant ⟨digest, record⟩ = .ok ()) ∧
      (∀ id publication, snapshot.outbox.lookup id = some publication →
        OutboxForm env snapshot.identity snapshot.revision id publication) ∧
      (∀ id record, snapshot.published.lookup id = some record → PublishedForm env id record) ∧
      (∀ first second left right, snapshot.published.lookup first = some left →
        snapshot.published.lookup second = some right →
        left.ipnsSequence = right.ipnsSequence → first = second) ∧
      LastPublished snapshot.published snapshot.lastIPNSSequence snapshot.lastPublishedRoot := by
  have folded := fun finish => @foldEach_keyed Error PublishedTally (Σ _ : String, PublishedRecord)
    UInt64 (checkPublished env) PublishedTally.enter PublishedTally.sequences
    (fun entry => [entry.2.ipnsSequence]) (fun entry => PublishedForm env entry.1 entry.2)
    (fun _ _ _ => checkPublished_eq_ok) (fun _ _ => by simp)
    (fun tally entry key => by unfold PublishedTally.enter; split <;> simp)
    snapshot.published.entries {} finish
  unfold validateReplayAndPublicationState
  simp only [bind_eq_ok, Unique.exists_iff, PUnit.default_eq_unit, checkEach_eq_ok, forall_entries,
    checkOutboxItem_eq_ok, folded, reject_eq_ok, bne_eq_false_iff_eq, nodup_sequences]
  constructor
  · rintro ⟨grants, outbox, _, ⟨forms, once, _, rfl⟩, sequence, root⟩
    exact ⟨grants, outbox, forms, once, (lastPublished_iff forms once).mp ⟨sequence, root⟩⟩
  · rintro ⟨grants, outbox, forms, once, last⟩
    obtain ⟨sequence, root⟩ := (lastPublished_iff forms once).mpr last
    exact ⟨grants, outbox, _, ⟨forms, once, by simp, rfl⟩, sequence, root⟩

theorem FederationForm.named {trustDomain domain : String} {authority : Bytes}
    {record : FederationRecord}
    (form : FederationForm env trustDomain authority domain record) :
    record.crossCertificateSerial ≠ "" := by
  obtain ⟨cert, _, serial, _⟩ := form.cross
  rw [serial]
  exact repr_ne_empty cert.serialNumber

theorem validateSnapshot_eq_ok (committed : snapshot.revision ≠ 0) :
    validateSnapshot env snapshot = .ok () ↔
      validateSnapshotMaps snapshot = .ok () ∧ WellFormed env snapshot := by
  unfold validateSnapshot validateCommitted
  simp only [bind_eq_ok, reject_eq_ok, mapError_eq_ok, bne_eq_false_iff_eq, beq_eq_false_iff_ne,
    beq_iff_eq, committed, if_false, Unique.exists_iff, PUnit.default_eq_unit, validateCA_eq_ok,
    validateRelationships_eq_ok, validateFederationsAndBundles_eq_ok,
    validateReplayAndPublicationState_eq_ok]
  constructor
  · rintro ⟨version, positive, bounds, _, identity, same, authority, ⟨relationships, ownership⟩,
      checked, ⟨federations, bundles⟩, grants, outbox, published, publishedOnce, last⟩
    rw [same] at identity
    obtain ⟨authoritySerial, certificates, pending, burned, cross, crossOnce, revocations, once,
      below⟩ := (validateCertificates_eq_ok fun domain record found =>
        (federations domain record found).named).mp checked
    refine ⟨bounds, ?_⟩
    exact {
      version, positive, committed, identity, authority, relationships, ownership
      certificates := fun id record found => (certificates id record found).1
      certificateLinks := fun id record found => (certificates id record found).2
      pending, burned, federations, cross
      crossOnce := nodup_collected_some.mp crossOnce
      revocations := fun id record found => (revocations id record found).1
      revocationLeaves := fun id record found => (revocations id record found).2.leaf
      revocationsReplaced := fun id record found kind => by
        obtain ⟨inactive, apart⟩ := (revocations id record found).2.replaced kind
        refine ⟨apart, fun domain federation foundFederation same => inactive ?_⟩
        exact mem_collected.mpr ⟨domain, federation, foundFederation, congrArg some same⟩
      authoritySerial
      serialsOnce := once
      serialsBelow := below
      bundles
      appliedGrants := grants
      outbox, published, publishedOnce
      lastPublished := last }
  · rintro ⟨bounds, form⟩
    have checked := (validateCertificates_eq_ok fun domain record found =>
      (form.federations domain record found).named).mpr
      ⟨form.authoritySerial, fun id record found =>
          ⟨form.certificates id record found, form.certificateLinks id record found⟩,
        form.pending, form.burned, form.cross, nodup_collected_some.mpr form.crossOnce,
        fun id record found => ⟨form.revocations id record found,
          form.revocationLeaves id record found, fun kind => ?_⟩,
        form.serialsOnce, form.serialsBelow⟩
    · exact ⟨form.version, form.positive, bounds, snapshot.identity, form.identity, rfl,
        form.authority, ⟨form.relationships, form.ownership⟩, checked,
        ⟨form.federations, form.bundles⟩, form.appliedGrants, form.outbox, form.published,
        form.publishedOnce, form.lastPublished⟩
    · obtain ⟨apart, inactive⟩ := form.revocationsReplaced id record found kind
      refine ⟨fun listed => ?_, apart⟩
      obtain ⟨domain, federation, foundFederation, same⟩ := mem_collected.mp listed
      exact inactive domain federation foundFederation (Option.some.inj same)

end Whole

end Sovereignite.Trust
