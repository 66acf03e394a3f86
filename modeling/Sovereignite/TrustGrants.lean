import Sovereignite.DigestEncoding
import Sovereignite.TrustRecordEffects

/-!
# Grants are used once

A grant is accepted only for the revision it names and only while its digest is
not recorded, and the commit that uses it records the digest.  Since recorded
grants are never forgotten, no two commits record the same grant.
-/

namespace Sovereignite.Trust

open Effect

variable {env : Platform}

variable {grant : AuthorizationGrant}

theorem validateGrant_eq_ok {expectedRevision : UInt64} {now : Time} {maximumLifetime : Duration}
    (valid : validateGrant grant expectedRevision now maximumLifetime = .ok ()) :
    grantIDPattern grant.grantID = true ∧ grant.expectedRevision = expectedRevision := by
  obtain ⟨_, identified, valid⟩ := bind_eq_ok.mp valid
  obtain ⟨_, current, _⟩ := bind_eq_ok.mp valid
  exact ⟨by simpa using identified, by simpa using current⟩

theorem Authorized.expectedRevision {base : Snapshot} (authorized : Authorized env base grant)
    : grant.expectedRevision = base.revision := by
  obtain ⟨_, _, accepted⟩ := authorized.accepted
  exact (validateGrant_eq_ok accepted).2

theorem Authorized.grantID {base : Snapshot} (authorized : Authorized env base grant) :
    grantIDPattern grant.grantID = true := by
  obtain ⟨_, _, accepted⟩ := authorized.accepted
  exact (validateGrant_eq_ok accepted).1

def grantPreimage (grantID : String) : Bytes :=
  bytesOf grantDigestDomain ++ bytesOf grantID

/-- What a commit computes the digests of that it enters as identifiers. -/
inductive Hashed (commit : Commit) : Bytes → Prop where
  | grant {grant : AuthorizationGrant} {operation : Operation}
      (granted : commit.label.grant = some (grant, operation)) :
      Hashed commit (grantPreimage grant.grantID)
  | relationship {grant : AuthorizationGrant} {id : String} {record : RelationshipRecord}
      (adopted : commit.label = .adopt grant)
      (found : commit.next.relationships.lookup id = some record) :
      Hashed commit (relationshipPreimage grant.grantID commit.next.identity.peerID
        record.principalSPIFFEID)
  | certificate {encoded : Bytes} (carries : Carries commit.next encoded) : Hashed commit encoded

/-- The inputs of the digests in the commits of a log. -/
def hashed (log : List Commit) : Set Bytes :=
  { input | ∃ commit ∈ log, Hashed commit input }

theorem hashed_suffix {older log : List Commit} (within : older <:+ log) :
    hashed older ⊆ hashed log := by
  rintro _ ⟨commit, listed, hashes⟩
  exact ⟨commit, within.subset listed, hashes⟩

theorem grantDigest_inj {inputs : Set Bytes} (collisionFree : Set.InjOn env.sha256 inputs)
    {first second : String} (firstIn : grantPreimage first ∈ inputs)
    (secondIn : grantPreimage second ∈ inputs)
    (equal : grantDigest env first = grantDigest env second) : first = second := by
  have same := Platform.hexDigest_inj collisionFree firstIn secondIn equal
  exact bytesOf_injective (List.append_cancel_left same)

/-- A commit records a grant identifier: its digest is recorded after the
commit and was not before. -/
structure RecordsGrant (env : Platform) (commit : Commit) (older : List Commit)
    (grantID : String) : Prop where
  before : (durable older).appliedGrants.has (grantDigest env grantID) = false
  after : commit.next.appliedGrants.has (grantDigest env grantID) = true

/-- A commit uses one grant, which was given for the revision before it.  Among the
identifiers with these inputs it records no other one. -/
structure UsesGrant (env : Platform) (inputs : Set Bytes) (commit : Commit)
    (older : List Commit) (grant : AuthorizationGrant) (operation : Operation) : Prop where
  expected : grant.expectedRevision = (durable older).revision
  advances : commit.next.revision = (durable older).revision + 1
  records : ∀ grantID, grantPreimage grantID ∈ inputs →
    (RecordsGrant env commit older grantID ↔ grantID = grant.grantID)
  entered : ∃ now, commit.next.appliedGrants =
    (durable older).appliedGrants.insert (grantDigest env grant.grantID)
      { digest := grantDigest env grant.grantID, operation, appliedAt := now }

/-- A serial comes from an earlier reservation, which used a grant. -/
def FromReservation (older : List Commit) (operation : Operation) (serial : String) : Prop :=
  ∃ commit before grant, commit :: before <:+ older ∧ commit.label = .reserve operation grant ∧
    serial = (durable before).nextSerial.toNat.repr

/-- A commit hands out a serial, changes a relationship or changes a stored
certificate. -/
def NeedsGrant (base next : Snapshot) : Prop :=
  next.nextSerial ≠ base.nextSerial ∨ next.relationships ≠ base.relationships ∨
    ∃ id cert, base.certificates.lookup id = some cert ∧ next.certificates.lookup id ≠ some cert

/-- Grants are used once, for the revision they name, and every change that
needs one uses one. -/
structure SingleUseGrants (env : Platform) (inputs : Set Bytes) (log : List Commit) :
    Prop where
  once : ∀ grantID first before second after, first :: before <:+ log → second :: after <:+ log →
    RecordsGrant env first before grantID →
    RecordsGrant env second after grantID → first :: before = second :: after
  granted : ∀ commit older, commit :: older <:+ log → ∀ grant operation,
    commit.label.grant = some (grant, operation) → UsesGrant env inputs commit older grant operation
  ungranted : ∀ commit older, commit :: older <:+ log → commit.label.grant = none →
    commit.next.appliedGrants = (durable older).appliedGrants
  needed : ∀ commit older, commit :: older <:+ log →
    NeedsGrant (durable older) commit.next → commit.label.grant.isSome = true
  certificates : ∀ commit older, commit :: older <:+ log → ∀ id cert,
    commit.next.certificates.lookup id = some cert →
    (durable older).certificates.lookup id = none →
      FromReservation older .issueMTLSCertificate cert.serial
  federations : ∀ commit older, commit :: older <:+ log → ∀ domain federation,
    commit.next.federations.lookup domain = some federation →
    (durable older).federations.lookup domain ≠ some federation →
      FromReservation older .federate federation.crossCertificateSerial
  authority : ∀ commit older, commit :: older <:+ log →
    commit.next.activeCACertificate ≠ (durable older).activeCACertificate →
      ∃ cert, env.parseCertificate commit.next.activeCACertificate =
        .ok cert ∧ FromReservation older .initializeCA (serialText cert)

section Ledger

variable {log older : List Commit} {commit : Commit} {inputs : Set Bytes}

theorem Recorded.last (recorded : Recorded env log) (within : commit :: older <:+ log) :
    Accepted env (durable older) (durable older).revision commit.next ∧
      Transition env commit.label (durable older) commit.next := by
  cases recorded.suffix within with
  | cons _ _ accepted transition => exact ⟨accepted, transition⟩

/-- Two commits that record one grant are the same. -/
theorem Recorded.grant_once {grantID : String} {first second : Commit}
    {before after : List Commit} (recorded : Recorded env log)
    (firstWithin : first :: before <:+ log) (secondWithin : second :: after <:+ log)
    (firstRecords : RecordsGrant env first before grantID)
    (secondRecords : RecordsGrant env second after grantID) :
    first :: before = second :: after := by
  have excluded : ∀ (newer earlier : Commit) (rest others : List Commit),
      newer :: rest <:+ log → earlier :: others <:+ rest →
      RecordsGrant env earlier others grantID →
      RecordsGrant env newer rest grantID → False := by
    intro _ _ _ _ newerWithin earlierWithin earlierRecords newerRecords
    have kept := (recorded.suffix newerWithin).tail.grant_kept earlierWithin earlierRecords.after
    rw [newerRecords.before] at kept
    cases kept
  rcases List.suffix_or_suffix_of_suffix firstWithin secondWithin with shorter | longer
  · rcases List.suffix_cons_iff.mp shorter with equal | inside
    · exact equal
    · exact (excluded _ _ _ _ secondWithin inside firstRecords secondRecords).elim
  · rcases List.suffix_cons_iff.mp longer with equal | inside
    · exact equal.symm
    · exact (excluded _ _ _ _ firstWithin inside secondRecords firstRecords).elim

theorem Recorded.usesGrant {operation : Operation} (recorded : Recorded env log)
    (occurring : hashed log ⊆ inputs) (collisionFree : Set.InjOn env.sha256 inputs)
    (within : commit :: older <:+ log)
    (label : commit.label.grant = some (grant, operation)) :
    UsesGrant env inputs commit older grant operation := by
  obtain ⟨accepted, transition⟩ := recorded.last within
  have grants := transition.grants
  rw [label] at grants
  cases grants with
  | recorded _ _ now authorized equal =>
    refine ⟨authorized.expectedRevision, accepted.advances, ?_, now, equal⟩
    intro _ hashes
    constructor
    · rintro ⟨before, after⟩
      rw [equal] at after
      obtain ⟨_, found⟩ := has_eq_true.mp after
      rcases KeyedRecords.lookup_insert_cases found with ⟨same, _⟩ | ⟨_, stored⟩
      · have used := occurring ⟨commit, within.subset List.mem_cons_self, .grant label⟩
        exact grantDigest_inj collisionFree hashes used same
      · rw [has_eq_false.mp before] at stored
        cases stored
    · rintro rfl
      refine ⟨authorized.unused, ?_⟩
      rw [equal]
      exact has_eq_true.mpr ⟨_, AList.lookup_insert _⟩

theorem Recorded.fromReservation {id serial : String} {operation : Operation}
    (recorded : Recorded env log) (fulfils : Fulfils (durable log) id operation serial) :
    FromReservation log operation serial := by
  obtain ⟨_, found, intended, carried⟩ := fulfils.reserved
  obtain ⟨commit, older, _, grant, within, label, reservation⟩ :=
    recorded.pending_reserved found
  refine ⟨commit, older, grant, within, ?_, ?_⟩
  · rw [label, ← intended, reservation.intended]
  · rw [← carried, reservation.serial]

theorem Recorded.singleUseGrants (recorded : Recorded env log)
    (occurring : hashed log ⊆ inputs) (collisionFree : Set.InjOn env.sha256 inputs) :
    SingleUseGrants env inputs log where
  once _ _ _ _ _ firstWithin secondWithin firstRecords secondRecords :=
    recorded.grant_once firstWithin secondWithin firstRecords secondRecords
  granted _ _ within _ _ label := recorded.usesGrant occurring collisionFree within label
  ungranted commit older within label := by
    have grants := (recorded.last within).2.grants
    rw [label] at grants
    cases grants with
    | unchanged equal => exact equal
  needed commit older within needs := by
    have change := (recorded.last within).2.records
    cases label : commit.label.grant with
    | some => rfl
    | none =>
      obtain ⟨relationships, counter⟩ := change.ungranted label
      rcases needs with handedOut | changed | ⟨id, cert, found, changed⟩
      · exact absurd counter handedOut
      · exact absurd relationships changed
      · rcases change.certificate_kept found with kept | ⟨granted, _⟩
        · exact absurd kept changed
        · rw [label] at granted
          exact granted
  certificates commit older within id cert found absent := by
    obtain ⟨_, _, fulfils⟩ := (recorded.last within).2.records.certificate_added found absent
    exact (recorded.suffix within).tail.fromReservation fulfils
  federations commit older within domain federation found new := by
    obtain ⟨_, _, fulfils⟩ := (recorded.last within).2.records.federation_entered found new
    exact (recorded.suffix within).tail.fromReservation fulfils
  authority commit older within new := by
    obtain ⟨_, cert, _, parsed, fulfils⟩ :=
      (recorded.last within).2.records.authority_entered new
    exact ⟨cert, parsed, (recorded.suffix within).tail.fromReservation fulfils⟩

end Ledger

/-- In every run of any number of services on one store grants are used once
and for the revision they name, when the digest has no collisions among what is
hashed in the run. -/
theorem reachable_singleUseGrants {configs : Nat → ServiceConfig}
    {state : SystemState signature World Caller Error Unit} {inputs : Set Bytes}
    (occurring : hashed state.world.log ⊆ inputs)
    (collisionFree : Set.InjOn env.sha256 inputs)
    (reachable : Reachable env configs state) :
    SingleUseGrants env inputs state.world.log :=
  reachable.sound.recorded.singleUseGrants occurring collisionFree

/-- A run in which two grants were used. -/
theorem sampleRun_singleUseGrants : ∃ state,
    Reachable (samplePlatform sampleInputs) (fun _ => sampleConfig) state ∧
      (durable state.world.log).appliedGrants.size = 2 ∧
      SingleUseGrants (samplePlatform sampleInputs) (hashed state.world.log) state.world.log := by
  obtain ⟨state, reachable, equal⟩ := sampleWorld_reachable
  refine ⟨state, reachable, ?_,
    reachable_singleUseGrants subset_rfl (tableHash_injective (by decide)).injOn reachable⟩
  rw [equal]
  exact sampleWorld_facts.2.2.2.1

end Sovereignite.Trust
