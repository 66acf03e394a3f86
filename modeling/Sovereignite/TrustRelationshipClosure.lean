import Sovereignite.TrustClosure
import Sovereignite.TrustRecordEffects

/-!
# Adopting and revoking relationships

Adoption always leaves a document in which every principal and the owner stand
once.  Revoking a relationship may take the owner away; it leaves a well-formed
document exactly when no backup administrator is left without an owner.
-/

namespace Sovereignite.Trust

open Effect KeyedRecords

variable {env : Platform} {base : Snapshot}

variable {peer : VerifiedMTLSPeer} {state : ConnectionState} {now : Time}

section Principals

theorem spiffeID_of_parsed {raw : String} {identity : DeviceIdentity}
    (parsed : parseDeviceSPIFFEID env raw = .ok identity) : identity.spiffeID = raw := by
  unfold parseDeviceSPIFFEID at parsed
  simp only [bind_eq_ok] at parsed
  obtain ⟨_, _, _, _, _, _, _, _, _, _, _, _, _, _, _, _, _, canonical, returned⟩ := parsed
  cases returned
  simpa [reject_eq_ok] using canonical

theorem parse_of_verified (verified : verifyMutualTLSPeer env state now = .ok peer) :
    parseDeviceSPIFFEID env peer.identity.spiffeID = .ok peer.identity := by
  obtain ⟨_, _, _, _, _, _, parsed, rfl⟩ := verifyMutualTLSPeer_leaf verified
  have same := spiffeID_of_parsed parsed
  subst same
  exact parsed

theorem fingerprint_of_verified (verified : verifyMutualTLSPeer env state now = .ok peer) :
    encodeToString peer.certificateHash = env.hexDigest peer.certificateDER := by
  obtain ⟨_, _, _, _, _, _, _, rfl⟩ := verifyMutualTLSPeer_leaf verified
  rfl

end Principals

section Ownership

variable {relationships : StringMap RelationshipRecord} {id : String}
variable {existing record : RelationshipRecord}

/-- Where a relationship is replaced by one of the same principal and role that is not
more active, every principal and the owner still stand once. -/
theorem Ownership.replaced_once (ownership : Ownership relationships)
    (found : relationships.lookup id = some existing)
    (principal : record.principalSPIFFEID = existing.principalSPIFFEID)
    (role : record.role = existing.role)
    (active : record.phase ≠ .revoked → existing.phase ≠ .revoked) :
    (∀ first second left right, (relationships.insert id record).lookup first = some left →
        (relationships.insert id record).lookup second = some right → left.phase ≠ .revoked →
        right.phase ≠ .revoked → left.principalSPIFFEID = right.principalSPIFFEID →
        first = second) ∧
      ∀ first second left right, (relationships.insert id record).lookup first = some left →
        (relationships.insert id record).lookup second = some right → left.phase ≠ .revoked →
        right.phase ≠ .revoked → left.role = .owner → right.role = .owner → first = second := by
  have before : ∀ key value, (relationships.insert id record).lookup key = some value →
      ∃ old, relationships.lookup key = some old ∧
        value.principalSPIFFEID = old.principalSPIFFEID ∧ value.role = old.role ∧
        (value.phase ≠ .revoked → old.phase ≠ .revoked) := by
    intro _ value present
    rcases lookup_insert_cases present with ⟨rfl, rfl⟩ | ⟨_, stored⟩
    · exact ⟨existing, found, principal, role, active⟩
    · exact ⟨value, stored, rfl, rfl, fun standing => standing⟩
  constructor
  · intro first second left right foundLeft foundRight standsLeft standsRight same
    obtain ⟨oldLeft, storedLeft, principalLeft, _, activeLeft⟩ := before first left foundLeft
    obtain ⟨oldRight, storedRight, principalRight, _, activeRight⟩ := before second right foundRight
    exact ownership.principal first second oldLeft oldRight storedLeft storedRight
      (activeLeft standsLeft) (activeRight standsRight)
      (principalLeft.symm.trans (same.trans principalRight))
  · intro first second left right foundLeft foundRight standsLeft standsRight ownsLeft ownsRight
    obtain ⟨oldLeft, storedLeft, _, roleLeft, activeLeft⟩ := before first left foundLeft
    obtain ⟨oldRight, storedRight, _, roleRight, activeRight⟩ := before second right foundRight
    exact ownership.owner first second oldLeft oldRight storedLeft storedRight
      (activeLeft standsLeft) (activeRight standsRight) (roleLeft.symm.trans ownsLeft)
      (roleRight.symm.trans ownsRight)

theorem Ownership.authorize (ownership : Ownership relationships)
    (found : relationships.lookup id = some existing)
    (provisional : existing.phase = .provisional) (now : Time) :
    Ownership (relationships.insert id (existing.authorize now)) := by
  obtain ⟨principal, owner⟩ := ownership.replaced_once found
    (show (existing.authorize now).principalSPIFFEID = existing.principalSPIFFEID from rfl)
    (show (existing.authorize now).role = existing.role from rfl)
    (fun _ => by rw [provisional]; decide)
  refine ⟨principal, owner, fun key value present backup standing => ?_⟩
  have backed : ∃ ownerID owner, relationships.lookup ownerID = some owner ∧
      owner.role = .owner ∧ owner.phase = .authorized := by
    rcases lookup_insert_cases present with ⟨rfl, rfl⟩ | ⟨_, stored⟩
    · exact ownership.backed key existing found backup (by rw [provisional]; decide)
    · exact ownership.backed key value stored backup standing
  obtain ⟨ownerID, owning, stored, owns, authorized⟩ := backed
  by_cases same : ownerID = id
  · subst same
    cases found.symm.trans stored
    cases provisional.symm.trans authorized
  · exact ⟨ownerID, owning, (AList.lookup_insert_ne same).trans stored, owns, authorized⟩

/-- A new relationship that passes the rules may be entered. -/
theorem Ownership.enter (ownership : Ownership relationships) {grant : AuthorizationGrant}
    (admissible : Admissible relationships peer grant) (absent : relationships.lookup id = none)
    (principal : record.principalSPIFFEID = peer.identity.spiffeID)
    (role : record.role = grant.ownershipRole) (phase : record.phase = grant.relationshipPhase) :
    Ownership (relationships.insert id record) := by
  refine ⟨?_, ?_, ?_⟩
  · intro first second left right foundLeft foundRight standsLeft standsRight same
    rcases lookup_insert_cases foundLeft with ⟨rfl, rfl⟩ | ⟨_, storedLeft⟩ <;>
      rcases lookup_insert_cases foundRight with ⟨rfl, rfl⟩ | ⟨_, storedRight⟩
    · rfl
    · exact absurd (admissible.principal second right storedRight (same.symm.trans principal))
        standsRight
    · exact absurd (admissible.principal first left storedLeft (same.trans principal)) standsLeft
    · exact ownership.principal first second left right storedLeft storedRight standsLeft
        standsRight same
  · intro first second left right foundLeft foundRight standsLeft standsRight ownsLeft ownsRight
    rcases lookup_insert_cases foundLeft with ⟨rfl, rfl⟩ | ⟨_, storedLeft⟩ <;>
      rcases lookup_insert_cases foundRight with ⟨rfl, rfl⟩ | ⟨_, storedRight⟩
    · rfl
    · exact absurd (admissible.owner (role.symm.trans ownsLeft) second right storedRight ownsRight)
        standsRight
    · exact absurd (admissible.owner (role.symm.trans ownsRight) first left storedLeft ownsLeft)
        standsLeft
    · exact ownership.owner first second left right storedLeft storedRight standsLeft standsRight
        ownsLeft ownsRight
  · intro key value present backup standing
    have backed : ∃ ownerID owner, relationships.lookup ownerID = some owner ∧
        owner.role = .owner ∧ owner.phase = .authorized := by
      rcases lookup_insert_cases present with ⟨rfl, rfl⟩ | ⟨_, stored⟩
      · refine admissible.backed ?_
        rw [← role, backup]
        decide
      · exact ownership.backed key value stored backup standing
    obtain ⟨ownerID, owning, stored, owns, authorized⟩ := backed
    have different : ownerID ≠ id := by
      rintro rfl
      cases absent.symm.trans stored
    exact ⟨ownerID, owning, (AList.lookup_insert_ne different).trans stored, owns, authorized⟩

end Ownership

section Adoption

/-- An adopted relationship keeps the document well formed, if its identifiers are
digests, no counter wraps, and it is not dated before it was established. -/
theorem WellFormed.adopt (form : WellFormed env base) {grant : AuthorizationGrant}
    {record : RelationshipRecord} (adoption : Adoption env base peer grant now record)
    (verified : verifyMutualTLSPeer env state now = .ok peer) (timed : now ≠ 0)
    (free : base.relationships.lookup (relationshipID env grant.grantID
      base.identity.peerID peer.identity.spiffeID) = none)
    (identified : certificateIDPattern record.id = true)
    (fingerprint : certificateIDPattern record.principalCertificateHash = true)
    (counted : record.generation ≠ 0) (ordered : record.establishedAt ≤ record.updatedAt) :
    WellFormed env { base with relationships := base.relationships.insert record.id record } := by
  cases adoption with
  | upgraded existing found provisional =>
    have known := form.relationships _ existing found
    have keyed := known.keyed
    have related : RelationshipForm env base.identity.peerID existing.id (existing.authorize now) :=
      { known with
        keyed := rfl
        identified
        phase := .inr (.inl rfl)
        generation := counted
        updated := ordered }
    rw [← keyed] at found
    exact form.relate related (form.ownership.authorize found provisional now)
  | entered admissible role phase =>
    have related : RelationshipForm env base.identity.peerID
        (relationshipID env grant.grantID base.identity.peerID peer.identity.spiffeID)
        (enterRelationship env base peer grant now).2 := by
      refine ⟨rfl, identified, rfl, ⟨_, parse_of_verified verified⟩, fingerprint, role, ?_,
        counted, timed, ordered⟩
      exact phase.imp_right .inl
    exact form.relate related (form.ownership.enter admissible free rfl rfl rfl)

end Adoption

end Sovereignite.Trust
