import Sovereignite.TrustLedgerEffects

/-!
# Grants and reservations along the ledger

Recorded grants are never forgotten, and a reservation is entered under the
digest of a grant that was not recorded before.  So a reservation is the only
one ever stored under its identifier.
-/

namespace Sovereignite.Trust

open Effect KeyedRecords

/-- The grant a commit uses and the operation it is recorded for. -/
def CommitLabel.grant : CommitLabel → Option (AuthorizationGrant × Operation)
  | .adopt grant => some (grant, .adopt)
  | .revokeTrust grant => some (grant, .revokeRelationship)
  | .reserve operation grant => some (grant, operation)
  | .revokeCertificate grant => some (grant, .revokeCertificate)
  | .bindIdentity => none
  | .recover => none
  | .finalize _ => none
  | .burn _ => none
  | .drain => none

variable {env : Platform}

/-- A commit records the grant of its label, and nothing when it has none. -/
inductive GrantsAfter (env : Platform) (base next : Snapshot) :
    Option (AuthorizationGrant × Operation) → Prop where
  | unchanged (equal : next.appliedGrants = base.appliedGrants) : GrantsAfter env base next none
  | recorded (grant : AuthorizationGrant) (operation : Operation) (now : Time)
      (authorized : Authorized env base grant)
      (equal : next.appliedGrants =
        base.appliedGrants.insert (grantDigest env grant.grantID)
          { digest := grantDigest env grant.grantID, operation, appliedAt := now }) :
      GrantsAfter env base next (some (grant, operation))

variable {base next : Snapshot} {label : CommitLabel}

theorem Transition.grants (transition : Transition env label base next) :
    GrantsAfter env base next label.grant := by
  cases transition with
  | bindIdentity => exact .unchanged rfl
  | recover _ _ _ attached =>
    refine .unchanged ?_
    rw [attached.eq, burnAllPending_eq]
    rfl
  | adopt grant _ _ now authorized applied attached =>
    refine .recorded grant .adopt now authorized ?_
    rw [attached.eq, (applyAdoption_eq_ok applied).1]
    rfl
  | revokeTrust grant _ _ now authorized _ _ attached =>
    refine .recorded grant .revokeRelationship now authorized ?_
    rw [attached.eq, revokeRelationship_eq]
    rfl
  | reserve grant operation _ _ _ _ now authorized =>
    exact .recorded grant operation now authorized rfl
  | finalizeCA _ _ _ _ _ _ _ _ _ _ _ activated attached =>
    refine .unchanged ?_
    rw [attached.eq, (activateCA_eq_ok activated).2.2]
    rfl
  | finalizeLeaf _ _ _ _ _ _ _ _ _ activated attached =>
    refine .unchanged ?_
    rw [attached.eq, (activateCertificate_eq_ok activated).2]
    rfl
  | finalizeCross _ _ _ _ _ _ _ _ activated attached =>
    refine .unchanged ?_
    rw [attached.eq]
    cases activateFederation_edge activated with
    | fresh | renewed => rfl
  | burn _ _ _ _ attached =>
    refine .unchanged ?_
    rw [attached.eq]
    rfl
  | revokeCertificate grant _ _ now authorized _ _ attached =>
    refine .recorded grant .revokeCertificate now authorized ?_
    rw [attached.eq]
    rfl
  | drain => exact .unchanged rfl

/-- The reservation a commit enters. -/
structure Reservation (env : Platform) (base next : Snapshot) (operation : Operation)
    (grant : AuthorizationGrant) (pending : PendingCertificate) : Prop where
  entered : next.pendingCertificates = base.pendingCertificates.insert pending.id pending
  identified : pending.id = grantDigest env grant.grantID
  digest : pending.grantDigest = grantDigest env grant.grantID
  intended : pending.operation = operation
  serial : pending.serial = base.nextSerial.toNat.repr

/-- A commit enters a reservation under its grant, or only takes reservations
away. -/
theorem Transition.pending (transition : Transition env label base next) :
    (∃ operation grant pending, label = .reserve operation grant ∧
      Reservation env base next operation grant pending) ∨
    ∀ id pending, next.pendingCertificates.lookup id = some pending →
      base.pendingCertificates.lookup id = some pending := by
  cases transition with
  | bindIdentity => exact .inr fun _ _ present => present
  | recover _ _ _ attached =>
    refine .inr fun id pending present => ?_
    rw [attached.eq] at present
    exact lookup_pending_of_foldl_burnEntry (nextRevision base) present
  | adopt _ _ _ _ _ applied attached =>
    refine .inr fun id pending present => ?_
    rw [attached.eq, (applyAdoption_eq_ok applied).1] at present
    exact present
  | revokeTrust _ id _ _ _ _ _ attached =>
    refine .inr fun id pending present => ?_
    rw [attached.eq, revokeRelationship_eq] at present
    exact present
  | reserve grant operation =>
    exact .inl ⟨operation, grant, _, rfl, rfl, rfl, rfl, rfl, rfl⟩
  | finalizeCA _ _ _ _ _ _ _ _ _ _ _ activated attached =>
    refine .inr fun other kept present => ?_
    rw [attached.eq, (activateCA_eq_ok activated).2.2] at present
    exact (lookup_of_erase present).2
  | finalizeLeaf _ _ _ _ _ _ _ _ _ activated attached =>
    refine .inr fun other kept present => ?_
    rw [attached.eq, (activateCertificate_eq_ok activated).2] at present
    exact (lookup_of_erase present).2
  | finalizeCross _ _ _ _ _ _ _ _ activated attached =>
    refine .inr fun other kept present => ?_
    rw [attached.eq] at present
    cases activateFederation_edge activated with
    | fresh | renewed => exact (lookup_of_erase present).2
  | burn _ _ _ _ attached =>
    refine .inr fun other kept present => ?_
    rw [attached.eq] at present
    exact (lookup_of_erase present).2
  | revokeCertificate _ _ _ _ _ _ _ attached =>
    refine .inr fun other kept present => ?_
    rw [attached.eq] at present
    exact present
  | drain => exact .inr fun _ _ present => present

theorem Transition.grant_kept {digest : String} (transition : Transition env label base next)
    (applied : base.appliedGrants.has digest = true) : next.appliedGrants.has digest = true := by
  obtain ⟨record, found⟩ := has_eq_true.mp applied
  have after := transition.grants
  generalize label.grant = used at after
  cases after with
  | unchanged equal =>
    rw [equal]
    exact applied
  | recorded grant _ _ authorized equal =>
    have new := has_eq_false.mp authorized.unused
    have different : digest ≠ grantDigest env grant.grantID := by
      rintro rfl
      rw [new] at found
      cases found
    rw [equal, has_eq_true]
    exact ⟨record, by rw [AList.lookup_insert_ne different, found]⟩

theorem Recorded.grant_kept {older log : List Commit} {digest : String}
    (recorded : Recorded env log) (earlier : older <:+ log)
    (applied : (durable older).appliedGrants.has digest = true) :
    (durable log).appliedGrants.has digest = true := by
  induction recorded with
  | nil =>
    rw [List.suffix_nil.mp earlier] at applied
    exact applied
  | cons _ _ _ transition ih =>
    rcases List.suffix_cons_iff.mp earlier with equal | within
    · rw [equal] at applied
      exact applied
    · exact transition.grant_kept (ih within)

variable {id : String} {log : List Commit}

theorem Recorded.pending_applied {pending : PendingCertificate} (recorded : Recorded env log)
    (found : (durable log).pendingCertificates.lookup id = some pending) :
    (durable log).appliedGrants.has id = true := by
  induction recorded with
  | nil => cases found
  | cons _ _ _ transition ih =>
    rcases transition.pending with ⟨operation, grant, entered, label, reservation⟩ | kept
    · rw [durable_cons, reservation.entered] at found
      rcases lookup_insert_cases found with ⟨same, _⟩ | ⟨_, before⟩
      · have grants := transition.grants
        rw [label] at grants
        cases grants with
        | recorded _ _ _ _ equal =>
          rw [durable_cons, equal, same, reservation.identified, has_eq_true]
          exact ⟨_, AList.lookup_insert _⟩
      · exact transition.grant_kept (ih before)
    · exact transition.grant_kept (ih (kept _ _ found))

/-- A reservation that is stored now is the only one ever stored under its
identifier. -/
theorem Recorded.pending_newest {log older : List Commit} {earlier newest : PendingCertificate}
    (recorded : Recorded env log) (within : older <:+ log)
    (before : (durable older).pendingCertificates.lookup id = some earlier)
    (now : (durable log).pendingCertificates.lookup id = some newest) : earlier = newest := by
  induction recorded with
  | nil => cases now
  | cons _ recorded _ transition ih =>
    rcases List.suffix_cons_iff.mp within with equal | inside
    · rw [equal] at before
      exact Option.some.inj (before.symm.trans now)
    · rcases transition.pending with ⟨operation, grant, entered, label, reservation⟩ | kept
      · rw [durable_cons, reservation.entered] at now
        rcases lookup_insert_cases now with ⟨same, _⟩ | ⟨_, stored⟩
        · have used := recorded.grant_kept inside ((recorded.suffix inside).pending_applied before)
          have grants := transition.grants
          rw [label] at grants
          cases grants with
          | recorded _ _ _ authorized =>
            rw [same, reservation.identified, authorized.unused] at used
            cases used
        · exact ih inside stored
      · exact ih inside (kept _ _ now)

/-- Two stored reservations with one identifier are the same. -/
theorem Recorded.pending_unique {first second : Snapshot} {left right : PendingCertificate}
    (recorded : Recorded env log) (firstKnown : InHistory log first)
    (secondKnown : InHistory log second)
    (firstFound : first.pendingCertificates.lookup id = some left)
    (secondFound : second.pendingCertificates.lookup id = some right) : left = right := by
  obtain ⟨_, firstWithin, rfl⟩ := firstKnown
  obtain ⟨_, secondWithin, rfl⟩ := secondKnown
  rcases List.suffix_or_suffix_of_suffix firstWithin secondWithin with shorter | longer
  · exact (recorded.suffix secondWithin).pending_newest shorter firstFound secondFound
  · exact ((recorded.suffix firstWithin).pending_newest longer secondFound firstFound).symm

theorem Recorded.pending_reserved {pending : PendingCertificate} (recorded : Recorded env log)
    (found : (durable log).pendingCertificates.lookup id = some pending) :
    ∃ commit older operation grant, commit :: older <:+ log ∧
      commit.label = .reserve operation grant ∧
      Reservation env (durable older) commit.next operation grant pending := by
  induction recorded with
  | nil => cases found
  | @cons older newest recorded accepted transition ih =>
    have earlier : (durable older).pendingCertificates.lookup id = some pending →
        ∃ commit before operation grant, commit :: before <:+ newest :: older ∧
          commit.label = .reserve operation grant ∧
          Reservation env (durable before) commit.next operation grant pending := by
      intro stored
      obtain ⟨commit, before, operation, grant, within, described⟩ := ih stored
      exact ⟨commit, before, operation, grant,
        within.trans (List.suffix_cons newest older), described⟩
    rcases transition.pending with ⟨operation, grant, entered, label, reservation⟩ | kept
    · rw [durable_cons, reservation.entered] at found
      rcases lookup_insert_cases found with ⟨_, rfl⟩ | ⟨_, before⟩
      · exact ⟨newest, older, operation, grant, List.suffix_refl _, label, reservation⟩
      · exact earlier before
    · exact earlier (kept id pending found)

end Sovereignite.Trust
