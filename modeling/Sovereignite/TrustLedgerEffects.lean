import Sovereignite.KeyedRecords
import Sovereignite.TrustLedger

/-!
# What each transition changes

Inversion lemmas for the candidate documents: which fields an operation
replaces, and by what.  Everything else is unchanged.
-/

namespace Sovereignite.Trust

open Effect KeyedRecords

variable {env : Platform}

variable {key : String}

theorem has_eq_false {Value : Type} {records : StringMap Value} :
    records.has key = false ↔ records.lookup key = none := by
  simp [StringMap.has]

theorem has_eq_true {Value : Type} {records : StringMap Value} :
    records.has key = true ↔ ∃ value, records.lookup key = some value := by
  rw [StringMap.has, Option.isSome_iff_exists]

theorem lookup_none_of_size {Value : Type} {records : StringMap Value} (empty : records.size = 0) :
    records.lookup key = none :=
  KeyedRecords.lookup_eq_none_of_entries (List.length_eq_zero_iff.mp empty)

variable {now : Time}

theorem Attached.eq {candidate next : Snapshot} (attached : Attached env candidate now next) :
    next = { candidate with outbox := next.outbox } := by
  obtain ⟨_, _, _, _, _, rfl⟩ := attached
  rfl

/-- What the rules of ownership ask of a new relationship. -/
@[mk_iff]
structure Admissible (relationships : StringMap RelationshipRecord) (peer : VerifiedMTLSPeer)
    (grant : AuthorizationGrant) : Prop where
  principal : ∀ id relationship, relationships.lookup id = some relationship →
    relationship.principalSPIFFEID = peer.identity.spiffeID → relationship.phase = .revoked
  owner : grant.ownershipRole = .owner → ∀ id relationship,
    relationships.lookup id = some relationship → relationship.role = .owner →
    relationship.phase = .revoked
  provisional : grant.relationshipPhase = .provisional → grant.ownershipRole = .owner
  backed : grant.ownershipRole ≠ .owner → ∃ id relationship,
    relationships.lookup id = some relationship ∧ relationship.role = .owner ∧
      relationship.phase = .authorized

theorem ownerState_active {relationships : StringMap RelationshipRecord} :
    (ownerState relationships).1 = false ↔
      ∀ id relationship, relationships.lookup id = some relationship →
        relationship.role = .owner → relationship.phase = .revoked := by
  simp only [ownerState, StringMap.values, Bool.not_eq_false', List.isEmpty_iff,
    List.filter_eq_nil_iff, List.forall_mem_map, forall_entries, Bool.and_eq_true, beq_iff_eq,
    bne_iff_ne, not_and, not_not]

theorem ownerState_authorized {relationships : StringMap RelationshipRecord} :
    (ownerState relationships).2 = true ↔
      ∃ id relationship, relationships.lookup id = some relationship ∧
        relationship.role = .owner ∧ relationship.phase = .authorized := by
  simp only [ownerState, StringMap.values, List.any_eq_true, List.mem_filter, List.mem_map,
    Bool.and_eq_true, beq_iff_eq, bne_iff_ne]
  constructor
  · rintro ⟨_, ⟨⟨⟨id, relationship⟩, member, rfl⟩, owner, _⟩, authorized⟩
    exact ⟨id, relationship, mem_entries_iff.mp member, owner, authorized⟩
  · rintro ⟨id, relationship, found, owner, authorized⟩
    refine ⟨relationship, ⟨⟨⟨id, relationship⟩, mem_entries_iff.mpr found, rfl⟩, owner, ?_⟩,
      authorized⟩
    rw [authorized]
    decide

theorem checkNewRelationship_eq_ok {next : Snapshot} {peer : VerifiedMTLSPeer}
    {grant : AuthorizationGrant} :
    checkNewRelationship next peer grant = .ok () ↔ Admissible next.relationships peer grant := by
  simp only [checkNewRelationship, bind_eq_ok, reject_eq_ok, Unique.exists_iff, StringMap.values,
    List.any_eq_false, List.forall_mem_map, forall_entries, Bool.and_eq_true, bne_iff_ne,
    beq_iff_eq, admissible_iff]
  by_cases provisional : grant.relationshipPhase = .provisional
  · simp only [provisional, if_true, reject_eq_ok, Bool.or_eq_false_iff, bne_eq_false_iff_eq,
      ownerState_active]
    grind
  · by_cases owner : grant.ownershipRole = .owner
    · simp only [provisional, owner, if_true, if_false, reject_eq_ok, ownerState_active]
      grind
    · simp only [provisional, owner, if_false, reject_eq_ok, Bool.not_eq_false',
        ownerState_authorized]
      grind

/-- A provisional relationship after its authorization. -/
def RelationshipRecord.authorize (relationship : RelationshipRecord) (now : Time) :
    RelationshipRecord :=
  { relationship with
    phase := .authorized
    generation := relationship.generation + 1
    updatedAt := now }

/-- The relationship an adoption enters. -/
inductive Adoption (env : Platform) (base : Snapshot) (peer : VerifiedMTLSPeer)
    (grant : AuthorizationGrant) (now : Time) : RelationshipRecord → Prop where
  | upgraded (relationship : RelationshipRecord)
      (found : base.relationships.lookup grant.relatedRelationship = some relationship)
      (provisional : relationship.phase = .provisional)
      (principal : relationship.principalSPIFFEID = peer.identity.spiffeID) :
      Adoption env base peer grant now (relationship.authorize now)
  | entered (admissible : Admissible base.relationships peer grant)
      (role : grant.ownershipRole = .owner ∨ grant.ownershipRole = .backupAdmin)
      (phase : grant.relationshipPhase = .provisional ∨ grant.relationshipPhase = .authorized) :
      Adoption env base peer grant now (enterRelationship env base peer grant now).2

/-- An adoption that is applied passed all rules and enters one relationship. -/
theorem applyAdoption_eq_ok {base adopted : Snapshot} {peer : VerifiedMTLSPeer}
    {grant : AuthorizationGrant} {relationship : RelationshipRecord}
    (applied : applyAdoption env base peer grant now = .ok (adopted, relationship)) :
    adopted = { base with
      relationships := base.relationships.insert relationship.id relationship } ∧
      Adoption env base peer grant now relationship := by
  obtain ⟨_, role, applied⟩ := bind_eq_ok.mp applied
  obtain ⟨_, phase, applied⟩ := bind_eq_ok.mp applied
  simp only [reject_eq_ok, Bool.and_eq_false_iff, bne_eq_false_iff_eq] at role phase
  split at applied
  · unfold upgradeRelationship at applied
    split at applied
    · cases applied
    · next existing found =>
        obtain ⟨_, passed, applied⟩ := bind_eq_ok.mp applied
        simp only [reject_eq_ok, Bool.or_eq_false_iff, bne_eq_false_iff_eq] at passed
        cases applied
        exact ⟨rfl, .upgraded existing found passed.1.1.1 passed.1.1.2⟩
  · obtain ⟨_, checked, applied⟩ := bind_eq_ok.mp applied
    cases applied
    exact ⟨rfl, .entered (checkNewRelationship_eq_ok.mp checked) role phase⟩

theorem foldl_revokeBoundCertificate_eq (id : String) (now : Time)
    (entries : List (Σ _ : String, CertificateRecord)) (start : Snapshot) :
    entries.foldl (revokeBoundCertificate id now) start = { start with
        certificates := (entries.foldl (revokeBoundCertificate id now) start).certificates
        revocations := (entries.foldl (revokeBoundCertificate id now) start).revocations } := by
  induction entries generalizing start with
  | nil => rfl
  | cons _ _ ih =>
    rw [List.foldl_cons, ih]
    unfold revokeBoundCertificate
    split <;> rfl

theorem revokeRelationship_eq (base : Snapshot) (id : String)
    (relationship : RelationshipRecord) (now : Time) :
    revokeRelationship base id relationship now = { nextRevision base with
        relationships := base.relationships.insert id { relationship with
          phase := .revoked
          generation := relationship.generation + 1
          updatedAt := now }
        certificates := (revokeRelationship base id relationship now).certificates
        revocations := (revokeRelationship base id relationship now).revocations } := by
  unfold revokeRelationship
  rw [foldl_revokeBoundCertificate_eq]
  rfl

theorem foldl_burnEntry_eq (now : Time)
    (entries : List (Σ _ : String, PendingCertificate)) (start : Snapshot) :
    entries.foldl (burnEntry now) start = { start with
        pendingCertificates := (entries.foldl (burnEntry now) start).pendingCertificates
        burnedSerials := (entries.foldl (burnEntry now) start).burnedSerials } := by
  induction entries generalizing start with
  | nil => rfl
  | cons _ _ ih =>
    rw [List.foldl_cons, ih]
    rfl

theorem burnAllPending_eq_foldl (base : Snapshot) (now : Time) :
    burnAllPending base now =
      base.pendingCertificates.entries.foldl (burnEntry now) (nextRevision base) :=
  rfl

theorem burnAllPending_eq (base : Snapshot) (now : Time) :
    burnAllPending base now = { nextRevision base with
        pendingCertificates := (burnAllPending base now).pendingCertificates
        burnedSerials := (burnAllPending base now).burnedSerials } := by
  rw [burnAllPending_eq_foldl, foldl_burnEntry_eq]

/-- Burning only takes reservations away. -/
theorem lookup_pending_of_foldl_burnEntry {entries : List (Σ _ : String, PendingCertificate)}
    (start : Snapshot) {id : String} {pending : PendingCertificate}
    (present : (entries.foldl (burnEntry now) start).pendingCertificates.lookup id =
      some pending) : start.pendingCertificates.lookup id = some pending := by
  induction entries generalizing start with
  | nil => exact present
  | cons _ _ ih => exact (KeyedRecords.lookup_of_erase (ih _ present)).2

variable {next applied : Snapshot}

theorem activateCA_eq_ok {identity : DeviceIdentity} {encoded entered : Bytes}
    (activated : activateCA env identity encoded next now = .ok (applied, entered)) :
    next.activeCACertificate = [] ∧ entered = encoded ∧ applied = { next with
        activeCACertificate := encoded
        activeCAID := certificateID env encoded
        bundles := next.bundles.insert identity.trustDomain {
          trustDomain := identity.trustDomain
          generation := 1
          caCertificates := [encoded]
          updatedAt := now } } := by
  obtain ⟨_, passed, activated⟩ := bind_eq_ok.mp activated
  cases activated
  refine ⟨?_, rfl, rfl⟩
  simpa using passed

theorem activateCertificate_eq_ok {record : CertificateRecord} {entered : Bytes}
    (activated : activateCertificate record next now = .ok (applied, entered)) :
    next.certificates.lookup record.id = none ∧ applied = { next with
        certificates := next.certificates.insert record.id { record with issuedAt := now } } := by
  obtain ⟨_, passed, activated⟩ := bind_eq_ok.mp activated
  cases activated
  exact ⟨has_eq_false.mp (by simpa using passed), rfl⟩

/-- How an edge is entered: as a new one, or in place of the one to the same domain,
whose beginning it keeps and whose cross-certificate is revoked. -/
inductive Edge (next : Snapshot) (record : FederationRecord) (now : Time) :
    FederationRecord → Snapshot → Prop where
  | fresh (absent : next.federations.lookup record.targetDomain = none) :
      Edge next record now { record with updatedAt := now }
        (enterFederation { record with updatedAt := now } next now)
  | renewed (existing : FederationRecord)
      (present : next.federations.lookup record.targetDomain = some existing)
      (newer : existing.sourceGeneration < record.sourceGeneration) :
      Edge next record now { record with updatedAt := now, establishedAt := existing.establishedAt }
        (enterFederation { record with updatedAt := now, establishedAt := existing.establishedAt }
          { next with
            revocations := next.revocations.insert existing.crossCertificateID
              (replacedCrossCertificate existing now) } now)

theorem activateFederation_edge {record entered : FederationRecord}
    (activated : activateFederation record next now = .ok (applied, entered)) :
    Edge next record now entered applied := by
  unfold activateFederation at activated
  dsimp only at activated
  split at activated
  · next absent =>
      cases activated
      exact .fresh absent
  · next existing found =>
      obtain ⟨_, newer, activated⟩ := bind_eq_ok.mp activated
      cases activated
      exact .renewed existing found (by simpa using newer)

/-- Every commit advances the revision, and only the first one changes the identity. -/
theorem Transition.frame {label : CommitLabel} {base next : Snapshot}
    (transition : Transition env label base next) :
    next.revision = base.revision + 1 ∧
      (label ≠ .bindIdentity → next.identity = base.identity) := by
  cases transition with
  | bindIdentity _ unbound => exact ⟨by rw [unbound]; rfl, fun other => absurd rfl other⟩
  | recover _ _ _ attached =>
    rw [attached.eq, burnAllPending_eq]
    exact ⟨rfl, fun _ => rfl⟩
  | adopt _ _ _ _ _ applied attached =>
    rw [attached.eq, (applyAdoption_eq_ok applied).1]
    exact ⟨rfl, fun _ => rfl⟩
  | revokeTrust _ _ _ _ _ _ _ attached =>
    rw [attached.eq, revokeRelationship_eq]
    exact ⟨rfl, fun _ => rfl⟩
  | finalizeCA _ _ _ _ _ _ _ _ _ _ _ activated attached =>
    rw [attached.eq, (activateCA_eq_ok activated).2.2]
    exact ⟨rfl, fun _ => rfl⟩
  | finalizeLeaf _ _ _ _ _ _ _ _ _ activated attached =>
    rw [attached.eq, (activateCertificate_eq_ok activated).2]
    exact ⟨rfl, fun _ => rfl⟩
  | finalizeCross _ _ _ _ _ _ _ _ activated attached =>
    rw [attached.eq]
    cases activateFederation_edge activated with
    | fresh | renewed => exact ⟨rfl, fun _ => rfl⟩
  | burn _ _ _ _ attached =>
    rw [attached.eq]
    exact ⟨rfl, fun _ => rfl⟩
  | revokeCertificate _ _ _ _ _ _ _ attached =>
    rw [attached.eq]
    exact ⟨rfl, fun _ => rfl⟩
  | reserve | drain => exact ⟨rfl, fun _ => rfl⟩

end Sovereignite.Trust
