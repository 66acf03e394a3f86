import Sovereignite.TrustExecution
import Sovereignite.TrustOutcomes
import Sovereignite.TrustWellFormed

/-!
# Adoption and the authority it gives

An adoption enters a relationship of the peer or authorizes a provisional one.
Later calls find the relationship by the principal of the peer and compare the
certificate they came with to the recorded one.  A provisional relationship
keeps the certificate it was recorded with when it is authorized, so a peer
that renewed its certificate in between holds a relationship it cannot use.
-/

namespace Sovereignite.Trust

open Effect KeyedRecords

variable {env : Platform}

section Authority

/-- The rules of ownership depend on what is stored under each identifier. -/
theorem Ownership.congr {relationships others : StringMap RelationshipRecord}
    (ownership : Ownership relationships)
    (same : ∀ id, others.lookup id = relationships.lookup id) : Ownership others := by
  refine ⟨?_, ?_, ?_⟩
  · simp only [same]
    exact ownership.principal
  · simp only [same]
    exact ownership.owner
  · simp only [same]
    exact ownership.backed

theorem ownership_of_valid {snapshot : Snapshot}
    (valid : validateSnapshot env snapshot = .ok ()) : Ownership snapshot.relationships := by
  by_cases unbound : snapshot.revision = 0
  · have pristine : isPristine snapshot = true := by
      obtain ⟨_, _, valid⟩ := bind_eq_ok.mp valid
      obtain ⟨_, _, valid⟩ := bind_eq_ok.mp valid
      obtain ⟨_, _, valid⟩ := bind_eq_ok.mp valid
      simpa [unbound] using valid
    simp only [isPristine, Bool.and_eq_true, beq_iff_eq] at pristine
    have empty : ∀ id, snapshot.relationships.lookup id = none :=
      fun id => lookup_none_of_size (by tauto)
    refine ⟨?_, ?_, ?_⟩ <;> simp [empty]
  · exact ((validateSnapshot_eq_ok unbound).mp valid).2.ownership

/-- Where every principal has one relationship, a peer acts under the authorized
one that was recorded with its certificate, in whatever order the relationships
are visited. -/
theorem requireAuthorizedPrincipal_eq_ok {snapshot : Snapshot} {peer : VerifiedMTLSPeer}
    {requireOwner : Bool} {relationship : RelationshipRecord}
    (ownership : Ownership snapshot.relationships) :
    requireAuthorizedPrincipal snapshot peer requireOwner = .ok relationship ↔
      (∃ id, snapshot.relationships.lookup id = some relationship) ∧
        relationship.principalSPIFFEID = peer.identity.spiffeID ∧
        relationship.phase = .authorized ∧
        relationship.principalCertificateHash = encodeToString peer.certificateHash ∧
        (requireOwner = true → relationship.role = .owner) := by
  unfold requireAuthorizedPrincipal
  dsimp only
  cases candidate : snapshot.relationships.values.find? fun record =>
      record.principalSPIFFEID == peer.identity.spiffeID && record.phase == .authorized with
  | none =>
    simp only [List.find?_eq_none, StringMap.values, List.forall_mem_map, forall_entries]
      at candidate
    grind
  | some =>
    have passed := List.find?_some candidate
    obtain ⟨⟨firstID, _⟩, member, rfl⟩ := List.mem_map.mp (List.mem_of_find?_eq_some candidate)
    have firstFound := mem_entries_iff.mp member
    simp only [Bool.and_eq_true, beq_iff_eq] at passed
    simp only [bind_eq_ok, reject_eq_ok, exists_const, bne_eq_false_iff_eq, Bool.and_eq_false_iff,
      pure, Except.pure, Except.ok.injEq]
    constructor
    · grind
    · rintro ⟨⟨id, found⟩, principal, phase, _, _⟩
      have same := ownership.principal firstID id _ _ firstFound found
        (by rw [passed.2]; decide) (by rw [phase]; decide) (passed.1.trans principal.symm)
      grind

variable {state : ConnectionState}

theorem verifyMutualTLSPeer_leaf {now : Time} {peer : VerifiedMTLSPeer}
    (verified : verifyMutualTLSPeer env state now = .ok peer) :
    ∃ leaf rest uri identity, state.peerCertificates = some leaf :: rest ∧
      leaf.uris = [some uri] ∧ parseDeviceSPIFFEID env uri = .ok identity ∧
      peer = {
        identity
        certificateDER := leaf.raw
        certificateHash := env.sha256 leaf.raw
        publicKeyHash := env.sha256 leaf.rawSubjectPublicKeyInfo
        notBefore := leaf.notBefore
        notAfter := leaf.notAfter } := by
  simp only [verifyMutualTLSPeer, bind_eq_ok] at verified
  obtain ⟨_, _, _, _, verified⟩ := verified
  split at verified
  · next leaf rest certificates =>
      simp only [bind_eq_ok] at verified
      obtain ⟨_, _, _, _, _, _, _, _, _, _, _, _, _, _, verified⟩ := verified
      split at verified
      · next uri uris =>
          simp only [bind_eq_ok, mapError_eq_ok] at verified
          obtain ⟨identity, parsed, _, _, verified⟩ := verified
          cases verified
          exact ⟨leaf, rest, uri, identity, certificates, uris, parsed, rfl⟩
      · cases verified
  · cases verified

theorem verifyMutualTLSPeer_unique {first second : Time} {left right : VerifiedMTLSPeer}
    (leftVerified : verifyMutualTLSPeer env state first = .ok left)
    (rightVerified : verifyMutualTLSPeer env state second = .ok right) : left = right := by
  obtain ⟨_, _, _, _, certificates, uris, parsed, rfl⟩ :=
    verifyMutualTLSPeer_leaf leftVerified
  obtain ⟨_, _, _, _, otherCertificates, otherUris, otherParsed, rfl⟩ :=
    verifyMutualTLSPeer_leaf rightVerified
  cases certificates.symm.trans otherCertificates
  cases uris.symm.trans otherUris
  cases parsed.symm.trans otherParsed
  rfl

/-- What a successful adoption did: it entered one relationship into the document of
its instance and the store accepted the result. -/
theorem adoptDevice_ends {config : ServiceConfig} {caller : Caller} {ctx : Context}
    {targetPeerID : String} {before after : World} {relationship : RelationshipRecord}
    (ended : (adoptDevice env config ctx state targetPeerID).Ends (answer env caller)
      before (.ok relationship) after) :
    ∃ current peer grant now, before.memory caller.service = ⟨true, current⟩ ∧
      verifyMutualTLSPeer env state now = .ok peer ∧
      Adoption env (nextRevision current) peer grant now relationship ∧
      validateSnapshot env (durable after.log) = .ok () ∧
      (durable after.log).relationships =
        current.relationships.insert relationship.id relationship := by
  simp only [adoptDevice, Program.Ends.bind_ok, Program.Ends.rejectIf_ok, Program.Ends.ofExcept_ok]
    at ended
  obtain ⟨⟨peer, current, now⟩, _, input, _, _, ⟨_, rfl⟩, grant, _, policy, ⟨_, _⟩, _,
    ⟨applied, rfl⟩, _, _, outbox, _, _, stored, returns⟩ := ended
  obtain ⟨serving, _, verified, rfl⟩ := authorizedInput_ends input
  obtain ⟨_, _, rfl⟩ := callPolicy_ends policy
  obtain ⟨⟨_, _, _, _, rfl⟩, rfl⟩ := attachPublicOutbox_ends outbox
  obtain ⟨accepted, rfl⟩ := commitCandidate_ends stored
  cases returns
  obtain ⟨rfl, adoption⟩ := applyAdoption_eq_ok applied
  exact ⟨current, peer, grant, now, serving, verified, adoption, accepted.valid, rfl⟩

/-- An adoption that returns an authorized relationship lets the peer act under it, as
the owner exactly when the relationship says so, unless the peer had a provisional
relationship that was recorded with another certificate. -/
theorem adoption_gives_authority {config : ServiceConfig} {caller : Caller} {ctx : Context}
    {state : ConnectionState} {targetPeerID : String} {before after : World}
    {current : Snapshot} {relationship : RelationshipRecord} {peer : VerifiedMTLSPeer}
    {now : Time} {order : StringMap RelationshipRecord}
    (serving : before.memory caller.service = ⟨true, current⟩)
    (valid : validateSnapshot env current = .ok ())
    (ended : (adoptDevice env config ctx state targetPeerID).Ends (answer env caller)
      before (.ok relationship) after)
    (authorized : relationship.phase = .authorized)
    (verified : verifyMutualTLSPeer env state now = .ok peer)
    (reordered : order.entries.Perm (durable after.log).relationships.entries) :
    let visited := { durable after.log with relationships := order }
    (requireAuthorizedPrincipal visited peer false = .ok relationship ∧
        ((∃ found, requireAuthorizedPrincipal visited peer true = .ok found) ↔
          relationship.role = .owner)) ↔
      ∀ id earlier, current.relationships.lookup id = some earlier →
        earlier.phase = .provisional → earlier.principalSPIFFEID = peer.identity.spiffeID →
        earlier.principalCertificateHash = encodeToString peer.certificateHash := by
  intro visited
  obtain ⟨_, _, grant, _, found, verifiedThen, adoption, committed, entered⟩ :=
    adoptDevice_ends ended
  cases serving.symm.trans found
  cases verifyMutualTLSPeer_unique verifiedThen verified
  have ownership := ownership_of_valid valid
  have lookups : ∀ id, order.lookup id = (durable after.log).relationships.lookup id :=
    fun id => AList.perm_lookup reordered
  have ownershipVisited : Ownership visited.relationships :=
    (ownership_of_valid committed).congr lookups
  have stored : visited.relationships.lookup relationship.id = some relationship := by
    change order.lookup relationship.id = some relationship
    rw [lookups, entered, AList.lookup_insert]
  have decides := fun requireOwner found =>
    @requireAuthorizedPrincipal_eq_ok visited peer requireOwner found ownershipVisited
  have acts : relationship.principalSPIFFEID = peer.identity.spiffeID →
      relationship.principalCertificateHash = encodeToString peer.certificateHash →
      requireAuthorizedPrincipal visited peer false = .ok relationship ∧
        ((∃ found, requireAuthorizedPrincipal visited peer true = .ok found) ↔
          relationship.role = .owner) := by
    intro principal recorded
    refine ⟨(decides false relationship).mpr
      ⟨⟨_, stored⟩, principal, authorized, recorded, by simp⟩, ?_⟩
    constructor
    · rintro ⟨other, accepted⟩
      obtain ⟨⟨id, otherFound⟩, otherPrincipal, otherPhase, _, owner⟩ :=
        (decides true other).mp accepted
      have key := ownershipVisited.principal id relationship.id other relationship otherFound
        stored (by rw [otherPhase]; decide) (by rw [authorized]; decide)
        (otherPrincipal.trans principal.symm)
      subst key
      cases otherFound.symm.trans stored
      exact owner rfl
    · intro owner
      exact ⟨relationship, (decides true relationship).mpr
        ⟨⟨_, stored⟩, principal, authorized, recorded, fun _ => owner⟩⟩
  cases adoption with
  | upgraded earlier earlierFound provisional principal =>
    constructor
    · rintro ⟨accepted, _⟩ id other otherFound otherPhase otherPrincipal
      obtain ⟨_, _, _, recorded, _⟩ := (decides false _).mp accepted
      have key := ownership.principal id grant.relatedRelationship other earlier otherFound
        earlierFound (by rw [otherPhase]; decide) (by rw [provisional]; decide)
        (otherPrincipal.trans principal.symm)
      subst key
      cases otherFound.symm.trans earlierFound
      exact recorded
    · intro recordedWith
      exact acts principal (recordedWith _ earlier earlierFound provisional principal)
  | entered admissible =>
    constructor
    · intro _ id other otherFound otherPhase otherPrincipal
      have revoked := admissible.principal id other otherFound otherPrincipal
      rw [revoked] at otherPhase
      cases otherPhase
    · intro _
      exact acts rfl rfl

end Authority

section RenewedCertificate

def sampleLeaf (raw : Bytes) : Certificate where
  raw := raw
  rawSubjectPublicKeyInfo := [7]
  serialNumber := 9
  subject := { commonName := sampleName }
  notBefore := 100
  notAfter := 200
  keyUsage := keyUsageDigitalSignature
  extKeyUsage := [.clientAuth]
  basicConstraintsValid := true
  isCA := false
  uris := [some sampleIdentity.spiffeID]
  publicKey := none

/-- A connection that was authenticated with such a leaf certificate. -/
def sampleConnection (raw : Bytes) : ConnectionState where
  handshakeComplete := true
  version := versionTLS13
  peerCertificates := [some (sampleLeaf raw)]
  verifiedChains := [[some (sampleLeaf raw)]]

def adoptionInputs : List Bytes :=
  [bytesOf grantDigestDomain ++ bytesOf (sampleGrantID 1),
    bytesOf grantDigestDomain ++ bytesOf (sampleGrantID 2),
    relationshipPreimage (sampleGrantID 1) samplePeer sampleIdentity.spiffeID,
    publicationPreimage sampleName 2 sampleDocuments,
    publicationPreimage sampleName 3 sampleDocuments,
    [1], [2], [7]]

/-- A policy that first grants a provisional ownership and then its authorization. -/
def adoptionEnvironment : Environment :=
  { sampleEnvironment true with
    authorize := fun intent => .ok {
      grantID := sampleGrantID intent.currentRevision
      expectedRevision := intent.currentRevision
      expiresAt := 200
      ownershipRole := .owner
      relationshipPhase := if intent.currentRevision = 1 then .provisional else .authorized
      relatedRelationship :=
        if intent.currentRevision = 1 then ""
        else relationshipID (samplePlatform adoptionInputs) (sampleGrantID 1) samplePeer
          sampleIdentity.spiffeID
      localFederationRole := .hub
      remoteFederationRole := .spoke
      sourceGeneration := 1
      certificateNotBefore := 100
      certificateNotAfter := 200 } }

def sampleAdoption (raw : Bytes) : Operating RelationshipRecord :=
  adoptDevice (samplePlatform adoptionInputs) sampleConfig .background (sampleConnection raw)
    samplePeer

/-- A device that a peer has adopted provisionally with its first certificate. -/
def provisionalWorld : World :=
  execute (samplePlatform adoptionInputs) adoptionEnvironment ⟨0, 1⟩
    (sampleAdoption [1] >>= fun _ => .ret ())
    (execute (samplePlatform adoptionInputs) adoptionEnvironment ⟨0, 0⟩
      (openService (samplePlatform adoptionInputs) sampleConfig .background) initialWorld)

theorem provisionalWorld_reachable : ∃ state,
    Reachable (samplePlatform adoptionInputs) (fun _ => sampleConfig) state ∧
      state.world = provisionalWorld := by
  have initial : Attainable (samplePlatform adoptionInputs) (fun _ => sampleConfig)
      (fun _ => False) initialWorld := SystemRules.Attainable.initial
  have opened := initial.execute adoptionEnvironment ⟨0, 0⟩ not_false (.openService .background)
  have adopted := opened.execute adoptionEnvironment ⟨0, 1⟩ (by simp)
    (.adoptDevice .background (sampleConnection [1]) samplePeer)
  obtain ⟨state, reachable, equal, _⟩ := adopted
  exact ⟨state, reachable, equal⟩

def authorizedRun (raw : Bytes) : World × Operating RelationshipRecord :=
  (sampleAdoption raw).advance (respond (samplePlatform adoptionInputs) adoptionEnvironment ⟨0, 2⟩)
    1000 provisionalWorld

theorem authorizedRun_ends {raw : Bytes} {relationship : RelationshipRecord}
    (returned : (authorizedRun raw).2.value = some relationship) :
    (sampleAdoption raw).Ends (answer (samplePlatform adoptionInputs) ⟨0, 2⟩) provisionalWorld
      (.ok relationship) (authorizedRun raw).1 :=
  Program.ends_of_advance (fun world request reply after responded =>
      respond_answers (samplePlatform adoptionInputs) (fun _ => sampleConfig) adoptionEnvironment
        ⟨0, 2⟩ world request reply after responded) 1000 _ _ returned

def sampleVerifiedPeer (raw : Bytes) : VerifiedMTLSPeer where
  identity := sampleIdentity
  certificateDER := raw
  certificateHash := (samplePlatform adoptionInputs).sha256 raw
  publicKeyHash := (samplePlatform adoptionInputs).sha256 [7]
  notBefore := 100
  notAfter := 200

/-- The peer gets an authorized owner back with either certificate, and is refused with
the renewed one from then on. -/
theorem authorizedRuns_facts :
    ((provisionalWorld.memory 0).opened = true ∧
      (validateSnapshot (samplePlatform adoptionInputs)
        (provisionalWorld.memory 0).snapshot).isOk = true ∧
      ∀ entry ∈ (provisionalWorld.memory 0).snapshot.relationships.entries,
        entry.2.principalCertificateHash =
          encodeToString (sampleVerifiedPeer [1]).certificateHash) ∧
    (∀ raw ∈ [[1], [2]],
      verifyMutualTLSPeer (samplePlatform adoptionInputs) (sampleConnection raw) 150 =
        .ok (sampleVerifiedPeer raw) ∧
      (authorizedRun raw).2.value.map (fun relationship =>
        (relationship.phase, relationship.role)) = some (.authorized, .owner)) ∧
    ∀ requireOwner, (requireAuthorizedPrincipal (durable (authorizedRun [2]).1.log)
      (sampleVerifiedPeer [2]) requireOwner).isOk = false := by
  decide +kernel

theorem provisionalWorld_valid :
    validateSnapshot (samplePlatform adoptionInputs) (provisionalWorld.memory 0).snapshot =
      .ok () := by
  have checked := authorizedRuns_facts.1.2.1
  cases outcome : validateSnapshot (samplePlatform adoptionInputs)
      (provisionalWorld.memory 0).snapshot with
  | ok => rfl
  | error =>
    rw [outcome] at checked
    cases checked

/-- A peer that authorizes its provisional relationship with a renewed certificate gets
an authorized owner back and is refused with that certificate from then on. -/
theorem renewed_certificate_refused : ∃ state relationship after peer,
    Reachable (samplePlatform adoptionInputs) (fun _ => sampleConfig) state ∧
      (state.world.memory 0).opened = true ∧
      validateSnapshot (samplePlatform adoptionInputs) (state.world.memory 0).snapshot = .ok () ∧
      (adoptDevice (samplePlatform adoptionInputs) sampleConfig .background
        (sampleConnection [2]) samplePeer).Ends (answer (samplePlatform adoptionInputs) ⟨0, 2⟩)
        state.world (.ok relationship) after ∧
      relationship.phase = .authorized ∧ relationship.role = .owner ∧
      verifyMutualTLSPeer (samplePlatform adoptionInputs) (sampleConnection [2]) 150 = .ok peer ∧
      ∀ requireOwner found,
        requireAuthorizedPrincipal (durable after.log) peer requireOwner ≠ .ok found := by
  obtain ⟨state, reachable, equal⟩ := provisionalWorld_reachable
  obtain ⟨⟨opened, _, _⟩, runs, refused⟩ := authorizedRuns_facts
  obtain ⟨verified, returned⟩ := runs [2] (by simp)
  obtain ⟨relationship, value, parts⟩ := Option.map_eq_some_iff.mp returned
  obtain ⟨phase, role⟩ := Prod.mk.inj parts
  refine ⟨state, relationship, (authorizedRun [2]).1, sampleVerifiedPeer [2], reachable, ?_, ?_, ?_,
    phase, role, verified, ?_⟩
  · rw [equal]
    exact opened
  · rw [equal]
    exact provisionalWorld_valid
  · rw [equal]
    exact authorizedRun_ends value
  · intro requireOwner _ accepted
    have outcome := refused requireOwner
    rw [accepted] at outcome
    cases outcome

/-- A peer that authorizes its provisional relationship with the recorded certificate acts
under it afterwards. -/
theorem recorded_certificate_authorized : ∃ relationship after,
    (sampleAdoption [1]).Ends (answer (samplePlatform adoptionInputs) ⟨0, 2⟩) provisionalWorld
      (.ok relationship) after ∧
      relationship.phase = .authorized ∧
      ∀ order : StringMap RelationshipRecord,
        order.entries.Perm (durable after.log).relationships.entries →
        requireAuthorizedPrincipal { durable after.log with relationships := order }
          (sampleVerifiedPeer [1]) false = .ok relationship := by
  obtain ⟨⟨opened, _, recorded⟩, runs, _⟩ := authorizedRuns_facts
  obtain ⟨verified, returned⟩ := runs [1] (by simp)
  obtain ⟨relationship, value, parts⟩ := Option.map_eq_some_iff.mp returned
  have authorized := (Prod.mk.inj parts).1
  have ended := authorizedRun_ends value
  have service : (⟨0, 2⟩ : Caller).service = 0 := rfl
  have serving : provisionalWorld.memory (⟨0, 2⟩ : Caller).service =
      ⟨true, (provisionalWorld.memory 0).snapshot⟩ := by
    rw [service]
    exact Memory.eq_of_opened opened
  refine ⟨relationship, (authorizedRun [1]).1, ended, authorized, fun order reordered => ?_⟩
  have acts := (adoption_gives_authority serving provisionalWorld_valid ended authorized verified
    reordered).mpr fun id earlier found _ _ => recorded _ (mem_entries_iff.mpr found)
  exact acts.1

end RenewedCertificate

end Sovereignite.Trust
