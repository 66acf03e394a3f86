import Sovereignite.TrustGrants

/-!
# Revocation is permanent

Along the ledger revoked relationships, revoked certificates, revocation
records and burned serials stay as they are, and no relationship or
certificate is removed.  A new relationship never takes the place of another
one: its identifier is the digest of the grant that established it.
-/

namespace Sovereignite.Trust

open Effect KeyedRecords

variable {env : Platform}

section Identifiers

theorem length_of_grantIDPattern {grantID : String}
    (identified : grantIDPattern grantID = true) : (bytesOf grantID).length < 2 ^ 64 := by
  have bound := length_bytesOf_le grantID
  simp only [grantIDPattern, matchesClass, Bool.and_eq_true, decide_eq_true_eq] at identified
  omega

theorem relationshipID_grant {firstGrant firstPeer firstPrincipal secondGrant secondPeer
      secondPrincipal : String} {inputs : Set Bytes}
    (collisionFree : Set.InjOn env.sha256 inputs)
    (firstIn : relationshipPreimage firstGrant firstPeer firstPrincipal ∈ inputs)
    (secondIn : relationshipPreimage secondGrant secondPeer secondPrincipal ∈ inputs)
    (firstIdentified : grantIDPattern firstGrant = true)
    (secondIdentified : grantIDPattern secondGrant = true)
    (equal : relationshipID env firstGrant firstPeer firstPrincipal =
      relationshipID env secondGrant secondPeer secondPrincipal) :
    firstGrant = secondGrant := by
  have same := Platform.hexDigest_inj collisionFree firstIn secondIn equal
  simp only [relationshipPreimage, List.append_assoc] at same
  have fields := List.append_cancel_left same
  exact bytesOf_injective (writeDigestField_inj (length_of_grantIDPattern firstIdentified)
    (length_of_grantIDPattern secondIdentified) fields).1

/-- A relationship is stored under the digest of a grant that is recorded. -/
def Established (env : Platform) (log : List Commit) (id : String) : Prop :=
  ∃ grantID peerID principal, id = relationshipID env grantID peerID principal ∧
    relationshipPreimage grantID peerID principal ∈ hashed log ∧
    grantIDPattern grantID = true ∧
    (durable log).appliedGrants.has (grantDigest env grantID) = true

theorem Recorded.established {log : List Commit} {id : String}
    {relationship : RelationshipRecord} (recorded : Recorded env log)
    (found : (durable log).relationships.lookup id = some relationship) :
    Established env log id := by
  induction recorded generalizing relationship with
  | nil => cases found
  | @cons older newest recorded accepted transition ih =>
    have kept : ∀ {before}, (durable older).relationships.lookup id = some before →
        Established env (newest :: older) id := by
      intro before stored
      obtain ⟨grantID, peerID, principal, equal, hashes, identified, applied⟩ := ih stored
      exact ⟨grantID, peerID, principal, equal, hashed_suffix (List.suffix_cons _ _) hashes,
        identified, transition.grant_kept applied⟩
    cases stored : (durable older).relationships.lookup id with
    | some => exact kept stored
    | none =>
      obtain ⟨grant, label, authorized, equal⟩ :=
        transition.records.relationship_added recorded.consistent found stored
      have grants := transition.grants
      have kept := transition.frame.2 (by simp [label])
      rw [label] at grants
      cases grants with
      | recorded _ _ _ _ entered =>
        refine ⟨grant.grantID, _, _, kept ▸ equal,
          ⟨newest, List.mem_cons_self, .relationship label found⟩, authorized.grantID, ?_⟩
        rw [durable_cons, entered]
        exact has_eq_true.mpr ⟨_, AList.lookup_insert _⟩

/-- The identifier of a new relationship is not in use. -/
theorem Recorded.relationshipID_free {log : List Commit} {grant : AuthorizationGrant}
    {inputs : Set Bytes} (recorded : Recorded env log) (occurring : hashed log ⊆ inputs)
    (collisionFree : Set.InjOn env.sha256 inputs)
    (authorized : Authorized env (durable log) grant) {peerID principal : String}
    (hashes : relationshipPreimage grant.grantID peerID principal ∈ inputs) :
    (durable log).relationships.lookup
      (relationshipID env grant.grantID peerID principal) = none := by
  rw [Option.eq_none_iff_forall_ne_some]
  intro _ found
  obtain ⟨grantID, _, _, equal, stored, identified, applied⟩ := recorded.established found
  have same := relationshipID_grant collisionFree hashes (occurring stored)
    authorized.grantID identified equal
  rw [← same, authorized.unused] at applied
  cases applied

end Identifiers

/-- What a later document keeps of an earlier one. -/
structure Preserves (earlier later : Snapshot) : Prop where
  revokedRelationships : ∀ id relationship,
    earlier.relationships.lookup id = some relationship → relationship.phase = .revoked →
      later.relationships.lookup id = some relationship
  revokedCertificates : ∀ id cert,
    earlier.certificates.lookup id = some cert → cert.status = .revoked →
      later.certificates.lookup id = some cert
  revocations : ∀ id revocation, earlier.revocations.lookup id = some revocation →
    later.revocations.lookup id = some revocation
  burnedSerials : ∀ serial time, earlier.burnedSerials.lookup serial = some time →
    later.burnedSerials.lookup serial = some time
  relationships : ∀ id relationship,
    earlier.relationships.lookup id = some relationship →
      ∃ current, later.relationships.lookup id = some current ∧
        current.principalSPIFFEID = relationship.principalSPIFFEID
  certificates : ∀ id cert,
    earlier.certificates.lookup id = some cert →
      ∃ current, later.certificates.lookup id = some current

theorem Preserves.refl (snapshot : Snapshot) : Preserves snapshot snapshot where
  revokedRelationships _ _ found _ := found
  revokedCertificates _ _ found _ := found
  revocations _ _ found := found
  burnedSerials _ _ found := found
  relationships _ relationship found := ⟨relationship, found, rfl⟩
  certificates _ cert found := ⟨cert, found⟩

theorem Preserves.trans {first second third : Snapshot} (before : Preserves first second)
    (after : Preserves second third) : Preserves first third where
  revokedRelationships id relationship found revoked := after.revokedRelationships id relationship
      (before.revokedRelationships id relationship found revoked) revoked
  revokedCertificates id cert found revoked := after.revokedCertificates id cert
      (before.revokedCertificates id cert found revoked) revoked
  revocations id revocation found :=
    after.revocations id revocation (before.revocations id revocation found)
  burnedSerials serial time found :=
    after.burnedSerials serial time (before.burnedSerials serial time found)
  relationships id relationship found := by
    obtain ⟨middle, middleFound, middlePrincipal⟩ := before.relationships id relationship found
    obtain ⟨last, lastFound, lastPrincipal⟩ := after.relationships id middle middleFound
    exact ⟨last, lastFound, lastPrincipal.trans middlePrincipal⟩
  certificates id cert found := by
    obtain ⟨middle, middleFound⟩ := before.certificates id cert found
    exact after.certificates id middle middleFound

/-- One commit preserves what is revoked. -/
theorem Recorded.preserves_last {newest : Commit} {older : List Commit}
    (collisionFree : Set.InjOn env.sha256 (hashed (newest :: older)))
    (recorded : Recorded env (newest :: older)) : Preserves (durable older) newest.next := by
  have consistentAfter := recorded.consistent
  cases recorded with
  | cons _ recorded _ transition =>
    have consistent := recorded.consistent
    have change := transition.records
    have distinct := (serialPartition_of_perm recorded.serials_perm.2).distinct
    have free : ∀ grant id entered, newest.label = .adopt grant →
        newest.next.relationships.lookup id = some entered →
        (durable older).relationships.lookup (relationshipID env grant.grantID
          (durable older).identity.peerID entered.principalSPIFFEID) = none := by
      intro _ id _ label stored
      have grants := transition.grants
      have kept := transition.frame.2 (by simp [label])
      rw [label] at grants
      cases grants with
      | recorded _ _ _ authorized =>
        exact recorded.relationshipID_free (hashed_suffix (List.suffix_cons _ _)) collisionFree
          authorized ⟨newest, List.mem_cons_self, kept ▸ .relationship label stored⟩
    refine ⟨?_, ?_, ?_, ?_, ?_, ?_⟩
    · intro id relationship found revoked
      rcases change.relationship_kept consistent free found with kept | ⟨standing, _⟩
      · exact kept
      · exact absurd revoked standing
    · intro id cert found revoked
      rcases change.certificate_kept found with kept | ⟨_, standing, _⟩
      · exact kept
      · exact absurd revoked standing
    · intro id _ found
      exact change.revocation_kept consistent consistentAfter.crossApart found
    · intro _ _ found
      exact change.burned_kept distinct found
    · intro id relationship found
      rcases change.relationship_kept consistent free found with kept | ⟨_, changed⟩
      · exact ⟨relationship, kept, rfl⟩
      · exact changed
    · intro _ cert found
      rcases change.certificate_kept found with kept | ⟨_, _, _, changed⟩
      · exact ⟨cert, kept⟩
      · exact ⟨_, changed⟩

theorem Recorded.preserves {older log : List Commit}
    (collisionFree : Set.InjOn env.sha256 (hashed log))
    (recorded : Recorded env log) (earlier : older <:+ log) :
    Preserves (durable older) (durable log) := by
  induction log with
  | nil =>
    rw [List.suffix_nil.mp earlier]
    exact Preserves.refl _
  | cons newest rest ih =>
    rcases List.suffix_cons_iff.mp earlier with equal | within
    · rw [equal]
      exact Preserves.refl _
    · have before := collisionFree.mono (hashed_suffix (List.suffix_cons newest rest))
      exact (ih before recorded.tail within).trans (recorded.preserves_last collisionFree)

/-- In every run of any number of services on one store what is revoked stays
revoked in every later document, when the digest has no collisions among what is
hashed in the run. -/
theorem reachable_revocations_permanent {configs : Nat → ServiceConfig}
    {state : SystemState signature World Caller Error Unit}
    (collisionFree : Set.InjOn env.sha256 (hashed state.world.log))
    (reachable : Reachable env configs state) :
    ∀ earlier later, earlier <:+ later → later <:+ state.world.log →
      Preserves (durable earlier) (durable later) :=
  fun _ _ within inLog =>
    (reachable.sound.recorded.suffix inLog).preserves
      (collisionFree.mono (hashed_suffix inLog)) within

/-- A run whose first serial was burned two commits before its end. -/
theorem sampleRun_revocations_permanent : ∃ state,
    Reachable (samplePlatform sampleInputs) (fun _ => sampleConfig) state ∧
      state.world.log.length = 5 ∧
      (durable (state.world.log.drop 2)).burnedSerials.lookup "1" = some 150 ∧
      Preserves (durable (state.world.log.drop 2)) (durable state.world.log) := by
  obtain ⟨state, reachable, equal⟩ := sampleWorld_reachable
  obtain ⟨length, _, _, _, _, burned⟩ := sampleWorld_facts
  refine ⟨state, reachable, ?_, ?_,
    reachable_revocations_permanent (tableHash_injective (by decide)).injOn reachable _ _
      (List.drop_suffix 2 _) (List.suffix_refl _)⟩
  · rw [equal]
    exact length
  · rw [equal]
    exact burned

end Sovereignite.Trust
