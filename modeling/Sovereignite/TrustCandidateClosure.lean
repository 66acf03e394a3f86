import Sovereignite.TrustPermanence
import Sovereignite.TrustRelationshipClosure
import Sovereignite.TrustTimedRuns

/-!
# Which candidates validation accepts

A candidate of an operation passes validation, as long as its collections are
within bounds, unless one of three things happened outside the document: the
clock was read before the record to be replaced was established, an issued
certificate is larger than validation allows, or a publication was completed
at no time.
-/

namespace Sovereignite.Trust

open Effect KeyedRecords

section Definitions

/-- What an operation contributes fits the document it works on: the clock reading is not
before the beginning of the record it replaces, the issued certificate has at most 64 KiB
and the completion has a time. -/
def Contribution.Fits (base : Snapshot) : Contribution → Prop
  | .nothing => True
  | .relationship id now => ∀ existing, base.relationships.lookup id = some existing →
      existing.establishedAt ≤ now
  | .certificate encoded => encoded.length ≤ maximumCertificateDERBytes
  | .edge domain encoded asked now => encoded.length ≤ maximumCertificateDERBytes ∧
      (base.federations.lookup domain).elim asked (·.establishedAt) ≤ now
  | .completion completedAt => completedAt ≠ 0

/-- The digests that a document has as identifiers. -/
inductive Mentions (snapshot : Snapshot) : String → Prop where
  | relationship {id : String} (present : snapshot.relationships.has id = true) :
      Mentions snapshot id
  | fingerprint {id : String} {record : RelationshipRecord}
      (found : snapshot.relationships.lookup id = some record) :
      Mentions snapshot record.principalCertificateHash
  | reservation {id : String} (present : snapshot.pendingCertificates.has id = true) :
      Mentions snapshot id
  | grant {digest : String} (present : snapshot.appliedGrants.has digest = true) :
      Mentions snapshot digest
  | cross {domain : String} {record : FederationRecord}
      (found : snapshot.federations.lookup domain = some record) :
      Mentions snapshot record.crossCertificateID
  | revocation {id : String} (present : snapshot.revocations.has id = true) : Mentions snapshot id
  | published {id : String} (present : snapshot.published.has id = true) : Mentions snapshot id

/-- Digests that a document has as identifiers have the length of SHA-256. -/
def SizedDigests (env : Platform) (snapshot : Snapshot) : Prop :=
  ∀ input, Mentions snapshot (env.hexDigest input) → (env.sha256 input).length = 32

/-- What validation relies on in the X.509 library. -/
structure LibraryLaws (env : Platform) : Prop where
  emptyCertificate : ∀ cert, env.parseCertificate [] ≠ .ok cert
  marshaledKey : ∀ key encoded, env.marshalPKIXPublicKey key = .ok encoded →
    encoded ≠ [] ∧ ∃ parsed, env.parsePKIXPublicKey encoded = .ok parsed

/-- The counters of a document can be advanced. -/
structure CountersBelow (snapshot : Snapshot) : Prop where
  revision : snapshot.revision ≠ maxUint64
  generations : ∀ id record, snapshot.relationships.lookup id = some record →
    record.generation ≠ maxUint64

end Definitions

variable {env : Platform} {config : ServiceConfig} {caller : Caller} {log : List Commit}
variable {base next : Snapshot}

theorem SizedDigests.pattern (sized : SizedDigests env next) {input : Bytes}
    (mentioned : Mentions next (env.hexDigest input)) :
    certificateIDPattern (env.hexDigest input) = true :=
  matchesClass_encodeToString (sized input mentioned)

theorem LibraryLaws.nonempty (laws : LibraryLaws env) {encoded : Bytes} {cert : Certificate}
    (parsed : env.parseCertificate encoded = .ok cert) : encoded ≠ [] := by
  rintro rfl
  exact laws.emptyCertificate cert parsed

theorem WellFormed.authority_size (form : WellFormed env next) :
    next.activeCACertificate.length ≤ maximumCertificateDERBytes := by
  cases form.authority with
  | absent missing =>
    rw [missing]
    exact Nat.zero_le _
  | present _ encoding => exact encoding.size

/-- Documents that instances work on are well formed. -/
theorem Known.wellFormed (recorded : Recorded env log) (known : Known config log base) :
    WellFormed env base := by
  obtain ⟨_, within, rfl⟩ := known.durable
  have earlier := recorded.suffix within
  cases earlier with
  | nil => exact absurd rfl known.committed
  | cons _ _ accepted => exact ((validateSnapshot_eq_ok known.committed).mp accepted.valid).2

theorem Known.hashed (known : Known config log base) (encoded : Bytes)
    (carries : Carries base encoded) : encoded ∈ hashed log := by
  obtain ⟨older, within, rfl⟩ := known.durable
  cases older with
  | nil => exact absurd rfl known.committed
  | cons newest => exact ⟨newest, within.subset List.mem_cons_self, .certificate carries⟩

theorem Attaches.wellFormed {candidate : Snapshot} {now : Time}
    (attached : Attaches env config candidate now next)
    (form : WellFormed env candidate) (identity : candidate.identity = config.identity) :
    WellFormed env next := by
  obtain ⟨_, _, made, _, rfl⟩ := attached
  rw [← identity] at made
  exact form.attach made

section Reservations

theorem validateSerial_repr {number : Nat} (positive : number ≠ 0) :
    validateSerial number.repr = .ok () := by
  have named : number.repr ≠ "" := repr_ne_empty (number : Int)
  have canonical : (number : Int).repr = number.repr := rfl
  unfold validateSerial
  simp [bind_eq_ok, reject_eq_ok, named, setString_repr, canonical]
  omega

theorem toNat_ne_zero {counter : UInt64} (positive : counter ≠ 0) : counter.toNat ≠ 0 := by
  intro zero
  exact positive (UInt64.toNat_inj.mp zero)

theorem RecordChange.authority_kept {label : CommitLabel} {after : Records}
    (change : RecordChange env base label after)
    (initialized : base.activeCACertificate ≠ []) :
    after.activeCACertificate = base.activeCACertificate := by
  cases change with
  | authority _ _ _ _ _ vacant => exact absurd vacant initialized
  | _ => rfl

theorem Recorded.authority_kept {older : List Commit} (recorded : Recorded env log)
    (within : older <:+ log) (initialized : (durable older).activeCACertificate ≠ []) :
    (durable log).activeCACertificate = (durable older).activeCACertificate := by
  induction recorded with
  | nil => rw [List.suffix_nil.mp within]
  | cons _ _ _ transition ih =>
    rcases List.suffix_cons_iff.mp within with equal | inside
    · rw [equal]
    · have before := ih inside
      rw [← before] at initialized
      exact (transition.records.authority_kept initialized).trans before

variable {start : Snapshot} {grant : AuthorizationGrant} {operation : Operation}
variable {pending : PendingCertificate}

/-- What a reservation that is still there says of the document. -/
structure Held (base start : Snapshot) (pending : PendingCertificate) : Prop where
  found : base.pendingCertificates.lookup pending.id = some pending
  reserved : (reservedSerial pending).repr = pending.serial
  authority : start.activeCACertificate ≠ [] → base.activeCACertificate = start.activeCACertificate

theorem Reserves.held (recorded : Recorded env log)
    (reserves : Reserves env config caller log start grant operation pending)
    (known : Known config log base) (held : base.pendingCertificates.has pending.id = true) :
    Held base start pending := by
  obtain ⟨present, _, reserved⟩ := reserves.facts recorded known held
  refine ⟨present, reserved, fun initialized => ?_⟩
  obtain ⟨_, _, _, reservable, rfl, older, within, equal⟩ := reserves.made
  -- The document is later than the one the serial was reserved on, where the grant was unused.
  obtain ⟨_, inside, rfl⟩ := known.durable
  have startWithin : older <:+ log := (List.suffix_cons _ _).trans within
  rcases List.suffix_or_suffix_of_suffix startWithin inside with before | after
  · rw [← equal] at initialized ⊢
    exact (recorded.suffix inside).authority_kept before initialized
  · have applied := (recorded.suffix inside).pending_applied present
    have kept := (recorded.suffix startWithin).grant_kept after applied
    rw [equal] at kept
    cases reservable.granted.unused.symm.trans kept

end Reservations

section Cases

variable {now : Time} {grant : AuthorizationGrant}

section Adopting

variable {peer : VerifiedMTLSPeer} {record : RelationshipRecord}
variable (adoption : Adoption env (nextRevision base) peer grant now record)
variable (form : WellFormed env base)

include adoption form

/-- A relationship is updated after its beginning exactly if the clock reading fits. -/
theorem Adoption.ordered_iff (free : base.relationships.lookup (relationshipID env grant.grantID
      base.identity.peerID peer.identity.spiffeID) = none) :
    record.establishedAt ≤ record.updatedAt ↔
      (Contribution.relationship record.id now).Fits base := by
  cases adoption with
  | upgraded existing found =>
    have keyed : existing.id = grant.relatedRelationship := (form.relationships _ _ found).keyed
    refine ⟨fun holds other present => ?_, fun fits => fits existing (keyed ▸ found)⟩
    cases (keyed ▸ found).symm.trans present
    exact holds
  | entered =>
    refine ⟨fun _ other present => ?_, fun _ => le_rfl⟩
    cases free.symm.trans present

theorem Adoption.identified {state : ConnectionState} (counters : CountersBelow base)
    (verified : verifyMutualTLSPeer env state now = .ok peer) (sized : SizedDigests env next)
    (entered : next.relationships.lookup record.id = some record) :
    certificateIDPattern record.id = true ∧
      certificateIDPattern record.principalCertificateHash = true ∧ record.generation ≠ 0 := by
  cases adoption with
  | upgraded existing found =>
    have related := form.relationships _ existing found
    refine ⟨?_, related.fingerprint, succ_ne_zero_of_room (counters.generations _ _ found)⟩
    exact related.keyed ▸ related.identified
  | entered =>
    have mentioned : Mentions next (encodeToString peer.certificateHash) := .fingerprint entered
    rw [fingerprint_of_verified verified] at mentioned
    have positive : (1 : UInt64) ≠ 0 := by decide
    refine ⟨sized.pattern (.relationship (has_eq_true.mpr ⟨_, entered⟩)), ?_, positive⟩
    show certificateIDPattern (encodeToString peer.certificateHash) = true
    rw [fingerprint_of_verified verified]
    exact sized.pattern mentioned

end Adopting

variable (recorded : Recorded env log)
include recorded

/-- An adoption proposes a well-formed document unless the relationship was established
after the clock was read. -/
theorem wellFormed_adopt
    (collisionFree : Set.InjOn env.sha256
      (hashed (⟨caller, .adopt grant, next⟩ :: log))) {adopted : Snapshot}
    {state : ConnectionState} {peer : VerifiedMTLSPeer} {record : RelationshipRecord}
    (known : Known config log base) (counters : CountersBelow base) (timed : now ≠ 0)
    (verified : verifyMutualTLSPeer env state now = .ok peer)
    (granted : Granted env config base grant now)
    (applied : applyAdoption env (nextRevision base) peer grant now = .ok (adopted, record))
    (attached : Attaches env config (recordAppliedGrant env adopted grant .adopt now) now next)
    (sized : SizedDigests env next) :
    WellFormed env next ↔ (Contribution.relationship record.id now).Fits base := by
  have form := known.wellFormed recorded
  obtain ⟨rfl, adoption⟩ := applyAdoption_eq_ok applied
  have entered : next.relationships.lookup record.id = some record := by
    rw [attached.eq]
    exact AList.lookup_insert _
  have identity : next.identity = base.identity := by
    rw [attached.eq]
    rfl
  have principal : record.principalSPIFFEID = peer.identity.spiffeID := by
    cases adoption with
    | upgraded _ _ _ principal => exact principal
    | entered => rfl
  have free : base.relationships.lookup (relationshipID env grant.grantID
      base.identity.peerID peer.identity.spiffeID) = none := by
    have hashes : relationshipPreimage grant.grantID base.identity.peerID
        peer.identity.spiffeID ∈ hashed (⟨caller, .adopt grant, next⟩ :: log) := by
      rw [← principal, ← identity]
      exact ⟨_, List.mem_cons_self, .relationship rfl entered⟩
    obtain ⟨_, within, rfl⟩ := known.durable
    exact (recorded.suffix within).relationshipID_free
      (hashed_suffix (within.trans (List.suffix_cons _ _))) collisionFree
      ⟨⟨now, _, granted.accepted⟩, granted.unused⟩ hashes
  have ordered := adoption.ordered_iff form free
  have used : next.appliedGrants.has (grantDigest env grant.grantID) = true := by
    rw [attached.eq]
    exact has_eq_true.mpr ⟨_, AList.lookup_insert _⟩
  have facts := adoption.identified form counters verified sized entered
  refine ⟨fun made => ordered.mp (made.relationships _ _ entered).updated, fun fits => ?_⟩
  have adoptedForm := (form.nextRevision counters.revision).adopt adoption verified timed free
    facts.1 facts.2.1 facts.2.2 (ordered.mpr fits)
  exact attached.wellFormed
    (adoptedForm.recordAppliedGrant (sized.pattern (.grant used)) (by decide) timed)
    known.identity

theorem wellFormed_reserve (laws : LibraryLaws env)
    {operation : Operation} {domain : String} {key : Bytes}
    (reservable : Reservable env config log base grant operation key now)
    (counters : CountersBelow base)
    (sized : SizedDigests env (reserveSerial env base
      (pendingCertificate env base grant operation "" domain config.identity.spiffeID key
        now) grant operation now)) :
    WellFormed env (reserveSerial env base
      (pendingCertificate env base grant operation "" domain config.identity.spiffeID key
        now) grant operation now) := by
  have form := reservable.known.wellFormed recorded
  have digest : certificateIDPattern (grantDigest env grant.grantID) = true :=
    sized.pattern (.grant (has_eq_true.mpr ⟨_, AList.lookup_insert _⟩))
  obtain ⟨publicKey, marshaled⟩ := reservable.marshaled
  obtain ⟨nonempty, parses⟩ := laws.marshaledKey publicKey key marshaled
  have pending : PendingForm env (grantDigest env grant.grantID)
      (pendingCertificate env base grant operation "" domain config.identity.spiffeID key now) :=
    ⟨rfl, digest, digest, reservable.intended,
      validateSerial_repr (toNat_ne_zero form.positive), reservable.timed,
      Int.le_of_lt reservable.validity, nonempty, parses⟩
  have named : operation ≠ .other "" := by
    rcases reservable.intended with rfl | rfl | rfl <;> decide
  exact ((form.nextRevision counters.revision).reserve pending rfl
    (lookup_none_of_size reservable.settled) reservable.available).recordAppliedGrant digest
      named reservable.timed

section Issued

variable {start applied : Snapshot} {pending : PendingCertificate}
variable (laws : LibraryLaws env) (known : Known config log base) (counters : CountersBelow base)
variable (timed : now ≠ 0) (held : base.pendingCertificates.has pending.id = true)
variable (attached : Attaches env config applied now next)

include laws known counters timed held attached

theorem wellFormed_finalizeCA {encoded entered : Bytes} {cert : Certificate}
    (reserves : Reserves env config caller log start grant .initializeCA pending)
    (issued : AuthorityIssued env config True pending encoded cert)
    (activated : activateCA env config.identity encoded (releasePending base pending.id)
      now = .ok (applied, entered)) :
    WellFormed env next ↔ (Contribution.certificate encoded).Fits base := by
  have form := known.wellFormed recorded
  have reservation := reserves.held recorded known held
  obtain ⟨_, _, equal⟩ := activateCA_eq_ok activated
  refine ⟨fun made => ?_, fun size => ?_⟩
  · have bounded := made.authority_size
    rw [attached.eq, equal] at bounded
    exact bounded
  have serial : serialText cert = pending.serial := by
    rw [serialText, issued.serial, reservation.reserved]
  have named := issued.named trivial
  have identity : applied.identity = config.identity := by
    rw [equal]
    exact known.identity
  rw [← known.identity] at activated named
  exact attached.wellFormed (form.activateCA counters.revision reservation.found
    ⟨laws.nonempty issued.parsed, size, issued.parsed, issued.signs⟩ serial named
    issued.selfSigned timed activated) identity

theorem wellFormed_finalizeLeaf
    (collisionFree : Set.InjOn env.sha256 (hashed (⟨caller, .finalize pending.id, next⟩ :: log)))
    {issued : Bytes × Certificate} {parent : Certificate} {entered : Bytes}
    (reserves : Reserves env config caller log start grant .issueMTLSCertificate pending)
    (initialized : start.activeCACertificate ≠ [])
    (parsed : env.parseCertificate start.activeCACertificate = .ok parent)
    (leaf : LeafIssued env config parent pending issued)
    (activated : activateCertificate (leafRecord env config pending issued.1 issued.2)
      (releasePending base pending.id) now = .ok (applied, entered)) :
    WellFormed env next ↔ (Contribution.certificate issued.1).Fits base := by
  have form := known.wellFormed recorded
  have reservation := reserves.held recorded known held
  obtain ⟨_, equal⟩ := activateCertificate_eq_ok activated
  have stored : next.certificates.lookup (certificateID env issued.1) =
      some { leafRecord env config pending issued.1 issued.2 with issuedAt := now } := by
    rw [attached.eq, equal]
    exact AList.lookup_insert _
  refine ⟨fun made => (made.certificates _ _ stored).size, fun size => ?_⟩
  have serial : (reservedSerial pending).repr = pending.serial := reservation.reserved
  have form' : CertificateForm env base.identity.spiffeID base.activeCACertificate
      (certificateID env issued.1)
      { leafRecord env config pending issued.1 issued.2 with issuedAt := now } := by
    rw [known.identity, reservation.authority initialized]
    refine ⟨rfl, rfl, laws.nonempty leaf.parsed, size, ?_, timed, rfl,
      ⟨issued.2, leaf.parsed, ?_, ?_⟩, .inl rfl, fun revoked => nomatch revoked⟩
    · rw [show (leafRecord env config pending issued.1 issued.2).serial = pending.serial
        from serial]
      exact (form.pending _ pending reservation.found).serial
    · exact ⟨congrArg Int.repr leaf.serial, rfl, rfl, rfl, leaf.uris, leaf.leaf,
        leaf.constraints, leaf.keyUsage, leaf.clientAuth, leaf.serverAuth⟩
    · exact ⟨initialized, parent, parsed, leaf.signed⟩
  have identity : applied.identity = config.identity := by
    rw [equal]
    exact known.identity
  exact attached.wellFormed (form.activateCertificate collisionFree
    (fun encoded carries => hashed_suffix (List.suffix_cons _ _) (known.hashed encoded carries))
    counters.revision reservation.found
    ⟨_, List.mem_cons_self, .certificate (.certificate stored)⟩ form' rfl rfl serial activated)
    identity

/-- A federation edge makes a well-formed document exactly if its cross-certificate has at
most 64 KiB and the clock was not read before the edge to the domain was established. -/
theorem wellFormed_finalizeCross
    (collisionFree : Set.InjOn env.sha256 (hashed (⟨caller, .finalize pending.id, next⟩ :: log)))
    {domain : String} {material : FederationMaterial} {parent remote cert : Certificate}
    {encoded : Bytes} {entered : FederationRecord} {asked : Time}
    (reserves : Reserves env config caller log start grant .federate pending)
    (federable : Federable env config start domain grant material remote parent asked)
    (issued : CrossIssued env True parent remote pending encoded cert)
    (activated : activateFederation
      (federationRecord env config domain grant material pending encoded asked)
      (releasePending base pending.id) now = .ok (applied, entered))
    (sized : SizedDigests env next) :
    WellFormed env next ↔ (Contribution.edge domain encoded asked now).Fits base := by
  have form := known.wellFormed recorded
  have reservation := reserves.held recorded known held
  have edge := activateFederation_edge activated
  have stored : next.federations.lookup domain = some entered := by
    rw [attached.eq]
    cases edge with
    | fresh | renewed => exact AList.lookup_insert _
  have shape : entered = { federationRecord env config domain grant material pending
      encoded asked with establishedAt := entered.establishedAt, updatedAt := now } ∧
      entered.establishedAt ≠ 0 ∧
      entered.establishedAt = (base.federations.lookup domain).elim asked (·.establishedAt) := by
    cases edge with
    | fresh absent =>
      have before : base.federations.lookup domain = none := absent
      exact ⟨rfl, federable.timed, by rw [before]; rfl⟩
    | renewed existing present =>
      have before : base.federations.lookup domain = some existing := present
      exact ⟨rfl, (form.federations domain existing present).established, by rw [before]; rfl⟩
  obtain ⟨shape, established, beginning⟩ := shape
  constructor
  · intro made
    have current := made.federations domain entered stored
    obtain ⟨_, encoding, _⟩ := current.cross
    have ordered := current.updated
    have size := encoding.size
    rw [shape] at size ordered
    exact ⟨size, beginning ▸ ordered⟩
  rintro ⟨size, ordered⟩
  have serial : pending.serial = serialText cert := by
    rw [serialText, issued.serial, reservation.reserved]
  have federated : FederationForm env base.identity.trustDomain base.activeCACertificate
      entered.targetDomain entered := by
    rw [known.identity, reservation.authority federable.initialized]
    rw [← beginning] at ordered
    rw [shape]
    exact ⟨rfl, rfl, federable.apart, federable.target, federable.roles, federable.generation,
      established, ordered, ⟨remote, federable.encoding, federable.named⟩, rfl,
      cert, ⟨laws.nonempty issued.parsed, size, issued.parsed, issued.signs trivial⟩, serial,
      (issued.named trivial).trans federable.named, federable.initialized, parent, federable.parent,
      issued.signed⟩
  have identified : certificateIDPattern entered.crossCertificateID = true := by
    have mentioned : Mentions next entered.crossCertificateID := .cross stored
    rw [shape] at mentioned ⊢
    exact sized.pattern mentioned
  have identity : applied.identity = config.identity := by
    cases edge with
    | fresh | renewed => exact known.identity
  exact attached.wellFormed (form.activateFederation collisionFree
    (fun encoded carries => hashed_suffix (List.suffix_cons _ _) (known.hashed encoded carries))
    counters.revision reservation.found ⟨_, List.mem_cons_self, .certificate (.cross stored)⟩
    federated identified rfl timed activated) identity

end Issued

theorem wellFormed_revokeCertificate {id : String}
    {cert : CertificateRecord} (known : Known config log base)
    (counters : CountersBelow base) (timed : now ≠ 0)
    (found : base.certificates.lookup id = some cert)
    (attached : Attaches env config
      (recordAppliedGrant env (revokeCertificateRecord (nextRevision base) id cert now) grant
        .revokeCertificate now) now next)
    (sized : SizedDigests env next) : WellFormed env next := by
  have form := known.wellFormed recorded
  have used : next.appliedGrants.has (grantDigest env grant.grantID) = true := by
    rw [attached.eq]
    exact has_eq_true.mpr ⟨_, AList.lookup_insert _⟩
  have revoked : next.revocations.has id = true := by
    rw [attached.eq]
    exact has_eq_true.mpr ⟨_, AList.lookup_insert _⟩
  have identified : certificateIDPattern id = true := by
    have digest := (form.certificates id cert found).digest
    rw [← digest] at revoked ⊢
    exact sized.pattern (.revocation revoked)
  exact attached.wellFormed
    (((form.nextRevision counters.revision).revokeCertificateRecord found identified
      timed).recordAppliedGrant (sized.pattern (.grant used)) (by decide) timed) known.identity

theorem wellFormed_drain {publication : Publication}
    {receipt : PublicationReceipt} {completedAt : Time} (known : Known config log base)
    (counters : CountersBelow base) (first : firstPublication base.outbox = some publication)
    (accepted : validatePublicationReceipt env receipt publication base.lastIPNSSequence = .ok ())
    (sized : SizedDigests env (completePublication base publication receipt completedAt)) :
    WellFormed env (completePublication base publication receipt completedAt) ↔
      (Contribution.completion completedAt).Fits base := by
  have form := known.wellFormed recorded
  obtain ⟨id, waiting⟩ := firstPublication_lookup first
  obtain ⟨_, made, same⟩ := bind_eq_ok.mp (form.outbox id publication waiting).valid
  obtain ⟨_, _, _, rfl⟩ := newPublication_eq_ok.mp made
  simp only [reject_eq_ok, Bool.or_eq_false_iff, bne_eq_false_iff_eq] at same
  have completed : (completePublication base publication receipt completedAt).published.has
      publication.id = true := has_eq_true.mpr ⟨_, AList.lookup_insert _⟩
  have identified : certificateIDPattern publication.id = true := by
    rw [same.1.1] at completed ⊢
    exact sized.pattern (.published completed)
  exact ⟨fun made => (made.published publication.id _ (AList.lookup_insert _)).completed,
    form.completePublication counters.revision first accepted identified⟩

end Cases

section Closure

/-- Every commit but the binding of the identity and the revocation of a relationship. -/
def CommitLabel.closing : CommitLabel → Bool
  | .bindIdentity => false
  | .revokeTrust _ => false
  | _ => true

variable {label : CommitLabel} {expectedRevision : UInt64} {contribution : Contribution}

theorem Proposed.wellFormed_iff (recorded : Recorded env log) (laws : LibraryLaws env)
    (collisionFree : Set.InjOn env.sha256 (hashed (⟨caller, label, next⟩ :: log)))
    (counters : ∀ document, InHistory log document → CountersBelow document)
    (proposed : Proposed env config caller log True label base contribution next)
    (closing : label.closing = true) (sized : SizedDigests env next) :
    WellFormed env next ↔ contribution.Fits base := by
  cases proposed with
  | bindIdentity => cases closing
  | revokeTrust =>
    cases closing
  | recover base _ _ known timed _ attached =>
    have form := known.wellFormed recorded
    have burned := form.burnAllPending (counters base known.durable).revision timed
    refine iff_of_true (attached.wellFormed burned ?_) trivial
    rw [burnAllPending_eq]
    exact known.identity
  | adopt base _ _ _ _ _ _ _ known timed verified granted applied attached =>
    exact wellFormed_adopt recorded collisionFree known (counters base known.durable) timed
      verified granted applied attached sized
  | reserve base _ _ _ _ _ reservable =>
    exact iff_of_true (wellFormed_reserve recorded laws reservable
      (counters base reservable.known.durable) sized) trivial
  | finalizeCA base _ _ _ _ _ _ _ _ _ known timed reserves held issued activated attached =>
    exact wellFormed_finalizeCA recorded laws known (counters base known.durable) timed held
      attached reserves issued activated
  | finalizeLeaf base _ _ _ _ _ _ _ _ _ known timed reserves held initialized parsed leaf activated
      attached =>
    exact wellFormed_finalizeLeaf recorded laws known (counters base known.durable) timed held
      attached collisionFree reserves initialized parsed leaf activated
  | finalizeCross base _ _ _ _ _ _ _ _ _ _ _ _ _ _ known timed reserves held federable issued
      activated attached =>
    exact wellFormed_finalizeCross recorded laws known (counters base known.durable) timed held
      attached collisionFree reserves federable issued activated sized
  | burn base _ _ _ _ known timed found attached =>
    have form := known.wellFormed recorded
    have advanced := form.nextRevision (counters base known.durable).revision
    exact iff_of_true (attached.wellFormed (advanced.burn found timed) known.identity) trivial
  | revokeCertificate base _ _ _ _ _ known timed _ found _ attached =>
    exact iff_of_true (wellFormed_revokeCertificate recorded known
      (counters base known.durable) timed found attached sized) trivial
  | drain base _ _ _ known first accepted =>
    exact wellFormed_drain recorded known (counters base known.durable) first accepted sized

/-- In every state of a run with a clock that does not go back and an honest key manager,
a candidate within the collection bounds is accepted exactly when what the operation
contributes fits the document it was made from. -/
theorem candidate_accepted_iff {configs : Nat → ServiceConfig} {start : Time}
    {state : SystemState signature TimedWorld Caller Error Unit}
    (reached : TimedReachable env configs start state) (laws : LibraryLaws env)
    (collisionFree : Set.InjOn env.sha256 (hashed (⟨caller, label, next⟩ :: state.world.world.log)))
    (counters : ∀ document, InHistory state.world.world.log document → CountersBelow document)
    {rest : Except Error Unit → Operating Unit}
    (waiting : state.slots caller = .running (.call (.commit label expectedRevision next) rest))
    (closing : label.closing = true) (bounds : validateSnapshotMaps next = .ok ())
    (sized : SizedDigests env next) :
    ∃ base contribution, base.revision = expectedRevision ∧
      Proposed env (configs caller.service) caller state.world.world.log True label base
        contribution next ∧
      (validateSnapshot env next = .ok () ↔ contribution.Fits base) := by
  obtain ⟨base, contribution, revision, proposed⟩ := reached.proposed waiting
  have committed : next.revision ≠ 0 := by
    obtain ⟨known, _, transition⟩ := proposed.transition reached.recorded
    rw [transition.frame.1]
    exact succ_ne_zero_of_room (counters base known).revision
  refine ⟨base, contribution, revision, proposed, ?_⟩
  rw [validateSnapshot_eq_ok committed, proposed.wellFormed_iff reached.recorded laws
    collisionFree counters closing sized]
  exact and_iff_right bounds

end Closure

section Overlap

def timedRespond (env : Platform) (environment : Environment) (caller : Caller) :
    Responder signature TimedWorld
  | before, .now =>
    if before.clock ≤ environment.time then
      some (environment.time, ⟨before.world, environment.time⟩)
    else
      none
  | _, .issueCertificate _ => none
  | before, request =>
    (respond env environment caller before.world request).map fun replied =>
      (replied.1, ⟨replied.2, before.clock⟩)

theorem timedRespond_answers (env : Platform) (configs : Nat → ServiceConfig)
    (environment : Environment) (caller : Caller) :
    (timedRules env configs).Answers caller (timedRespond env environment caller) id := by
  intro before request reply after responded
  have untimed : (respond env environment caller before.world request).map (fun replied =>
        (replied.1, (⟨replied.2, before.clock⟩ : TimedWorld))) = some (reply, after) →
      answer env caller before.world request reply after.world ∧ after.clock = before.clock := by
    intro replied
    obtain ⟨⟨_, _⟩, answered, same⟩ := Option.map_eq_some_iff.mp replied
    cases same
    exact ⟨respond_answers env configs environment caller _ _ _ _ answered, rfl⟩
  cases request with
  | now =>
    simp only [timedRespond] at responded
    split at responded
    · next ordered =>
        cases responded
        exact ⟨rfl, trivial, ordered, rfl⟩
    · cases responded
  | issueCertificate => cases responded
  | _ =>
    obtain ⟨answered, unchanged⟩ := untimed responded
    exact ⟨answered, trivial, unchanged⟩

def proposal : Operating Unit → Option (CommitLabel × UInt64 × Snapshot)
  | .call (.commit label expectedRevision next) _ => some (label, expectedRevision, next)
  | _ => none

theorem proposal_eq_some {program : Operating Unit} {label : CommitLabel}
    {expectedRevision : UInt64} {next : Snapshot}
    (proposes : proposal program = some (label, expectedRevision, next)) :
    ∃ rest, program = .call (.commit label expectedRevision next) rest := by
  unfold proposal at proposes
  split at proposes
  · cases proposes
    exact ⟨_, rfl⟩
  · cases proposes

def isCommit : Request → Bool
  | .commit _ _ _ => true
  | _ => false

abbrev overlapPlatform : Platform :=
  samplePlatform adoptionInputs

def overlapRespond (caller : Caller) (time : Time) : Responder signature TimedWorld :=
  timedRespond overlapPlatform { adoptionEnvironment with time } caller

def overlapAdoption : Operating Unit :=
  sampleAdoption [1] >>= fun _ => .ret ()

def overlapOpened : TimedWorld :=
  ((openService overlapPlatform sampleConfig .background).advance (overlapRespond ⟨0, 0⟩ 120) 1000
    ⟨initialWorld, 0⟩).1

/-- A first adoption that has read the clock and not yet the document. -/
def overlapPaused : TimedWorld × Operating Unit :=
  overlapAdoption.advance (overlapRespond ⟨0, 1⟩ 120) 2 overlapOpened

/-- A second adoption by the same peer that ran meanwhile. -/
def overlapAdopted : TimedWorld :=
  (overlapAdoption.advance (overlapRespond ⟨0, 2⟩ 150) 1000 overlapPaused.1).1

/-- The first adoption, up to its commit. -/
def overlapResumed : TimedWorld × Operating Unit :=
  overlapPaused.2.advance ((overlapRespond ⟨0, 1⟩ 150).leaving isCommit) 1000 overlapAdopted

/-- An adoption up to its commit, with nothing in between. -/
def aloneProposed : TimedWorld × Operating Unit :=
  overlapAdoption.advance ((overlapRespond ⟨0, 1⟩ 120).leaving isCommit) 1000 overlapOpened

/-- What can be computed of the hypotheses on a candidate. -/
def presentable (log : List Commit) (proposed : CommitLabel × UInt64 × Snapshot) : Bool :=
  let next := proposed.2.2
  proposed.1.closing && (validateSnapshotMaps next).isOk &&
    (log.tails.all fun older => (durable older).revision != maxUint64 &&
      (durable older).relationships.values.all fun record => record.generation != maxUint64) &&
    (next.relationships.entries.all fun entry =>
      entry.1.length == 64 && entry.2.principalCertificateHash.length == 64) &&
    next.pendingCertificates.size == 0 && next.federations.size == 0 &&
    next.revocations.size == 0 && next.published.size == 0 &&
    next.appliedGrants.entries.all fun entry => entry.1.length == 64

theorem overlap_facts : (proposal overlapResumed.2).map (fun proposed =>
      (presentable overlapResumed.1.world.log proposed,
        (validateSnapshot overlapPlatform proposed.2.2).isOk)) = some (true, false) ∧
    (proposal aloneProposed.2).map (fun proposed =>
      (presentable aloneProposed.1.world.log proposed,
        proposed.1.grant.map Prod.snd, aloneProposed.1.world.log.tails.all fun older =>
          (durable older).relationships.size == 0)) = some (true, some .adopt, true) := by
  decide +kernel

theorem sizedDigests_of_length {env : Platform} {snapshot : Snapshot}
    (long : ∀ text, Mentions snapshot text → text.length = 64) :
    SizedDigests env snapshot := by
  intro input mentioned
  have digits := long _ mentioned
  rw [← String.length_toList] at digits
  have text : (env.hexDigest input).toList = hexDigits (env.sha256 input) :=
    String.toList_ofList
  rw [text, (hexDigits_spec _).1] at digits
  omega

theorem presentable_spec {env : Platform} {log : List Commit} {label : CommitLabel}
    {expectedRevision : UInt64} {next : Snapshot}
    (holds : presentable log (label, expectedRevision, next) = true) :
    label.closing = true ∧ validateSnapshotMaps next = .ok () ∧
      (∀ document, InHistory log document → CountersBelow document) ∧
      SizedDigests env next := by
  simp only [presentable, Bool.and_eq_true, List.all_eq_true, bne_iff_ne, beq_iff_eq,
    StringMap.values, List.forall_mem_map] at holds
  obtain ⟨⟨⟨⟨⟨⟨⟨⟨closing, bounds⟩, counters⟩, relationships⟩, unreserved⟩, unfederated⟩,
    unrevoked⟩, unpublished⟩, grants⟩ := holds
  have absent : ∀ {Value : Type} {records : StringMap Value} {id : String}, records.size = 0 →
      records.has id ≠ true := by
    intro _ _ id empty present
    obtain ⟨_, found⟩ := has_eq_true.mp present
    cases (lookup_none_of_size empty).symm.trans found
  obtain ⟨_, bounded⟩ := isOk_eq_true.mp bounds
  refine ⟨closing, bounded, ?_, sizedDigests_of_length fun text mentioned => ?_⟩
  · rintro _ ⟨older, within, rfl⟩
    obtain ⟨revision, generations⟩ := counters older ((List.mem_tails older log).mpr within)
    exact ⟨revision, fun id record found => generations _ (mem_entries_iff.mpr found)⟩
  · cases mentioned with
    | relationship present =>
      obtain ⟨record, found⟩ := has_eq_true.mp present
      exact (relationships _ (mem_entries_iff.mpr found)).1
    | fingerprint found => exact (relationships _ (mem_entries_iff.mpr found)).2
    | reservation present => exact absurd present (absent unreserved)
    | grant present =>
      obtain ⟨_, found⟩ := has_eq_true.mp present
      exact grants _ (mem_entries_iff.mpr found)
    | cross found => cases (lookup_none_of_size unfederated).symm.trans found
    | revocation present => exact absurd present (absent unrevoked)
    | published present => exact absurd present (absent unpublished)

theorem overlapPlatform_laws : LibraryLaws overlapPlatform where
  emptyCertificate := nofun
  marshaledKey := by
    intro key _ marshaled
    cases key with
    | ecdsa =>
      cases marshaled
      exact ⟨nofun, _, rfl⟩
    | _ => cases marshaled

theorem overlapPlatform_collisionFree : Function.Injective overlapPlatform.sha256 :=
  tableHash_injective (by decide)

theorem overlapRespond_answers (caller : Caller) (time : Time) :
    (timedRules overlapPlatform fun _ => sampleConfig).Answers caller
      (overlapRespond caller time) id :=
  timedRespond_answers _ _ _ _

theorem overlapOpened_attainable :
    (timedRules overlapPlatform fun _ => sampleConfig).Attainable ⟨initialWorld, 0⟩
      (fun other => other = ⟨0, 0⟩ ∨ False) overlapOpened :=
  SystemRules.Attainable.initial.operate (overlapRespond_answers ⟨0, 0⟩ 120) not_false
    (.openService .background) 1000

/-- Two adoptions by one peer overlap: the first reads the clock, the second enters a
provisional relationship, and the first then proposes to authorize it with a time before
its beginning.  Validation refuses the candidate. -/
theorem overlapping_adoption_refused : ∃ state caller label expectedRevision next rest,
    TimedReachable overlapPlatform (fun _ => sampleConfig) 0 state ∧
      LibraryLaws overlapPlatform ∧ Function.Injective overlapPlatform.sha256 ∧
      (∀ document, InHistory state.world.world.log document → CountersBelow document) ∧
      state.slots caller = .running (.call (.commit label expectedRevision next) rest) ∧
      label.closing = true ∧ validateSnapshotMaps next = .ok () ∧
      SizedDigests overlapPlatform next ∧ validateSnapshot overlapPlatform next ≠ .ok () := by
  obtain ⟨_, reached, world, idle⟩ := overlapOpened_attainable
  have offered : Offered overlapPlatform sampleConfig overlapAdoption :=
    .adoptDevice .background (sampleConnection [1]) samplePeer
  obtain ⟨paused, pausedReached, pausedWorld, pausedSlot, pausedOthers⟩ :=
    SystemRules.reachable_start (overlapRespond_answers ⟨0, 1⟩ 120) 2 reached world
      (idle _ (by simp)) offered
  have unstarted : paused.slots ⟨0, 2⟩ = .idle :=
    (pausedOthers ⟨0, 2⟩ (by decide)).trans (idle _ (by simp))
  obtain ⟨adopted, adoptedReached, adoptedWorld, _, adoptedOthers⟩ :=
    SystemRules.reachable_start (overlapRespond_answers ⟨0, 2⟩ 150) 1000 pausedReached
      pausedWorld unstarted offered
  have waiting : adopted.slots ⟨0, 1⟩ = .running overlapPaused.2 :=
    (adoptedOthers ⟨0, 1⟩ (by decide)).trans pausedSlot
  obtain ⟨resumed, resumedReached, resumedWorld, resumedSlot, _⟩ :=
    SystemRules.reachable_advance ((overlapRespond_answers ⟨0, 1⟩ 150).leaving isCommit) 1000
      adoptedReached adoptedWorld waiting
  obtain ⟨⟨label, expectedRevision, next⟩, proposes, facts⟩ :=
    Option.map_eq_some_iff.mp overlap_facts.1
  obtain ⟨rest, program⟩ := proposal_eq_some proposes
  obtain ⟨holds, refused⟩ := Prod.mk.inj facts
  obtain ⟨closing, bounds, counters, sized⟩ := presentable_spec holds
  refine ⟨resumed, ⟨0, 1⟩, label, expectedRevision, next, rest, resumedReached,
    overlapPlatform_laws, overlapPlatform_collisionFree, ?_, ?_, closing, bounds, sized, ?_⟩
  · rw [resumedWorld]
    exact counters
  · rw [resumedSlot]
    exact congrArg Slot.running program
  · intro accepted
    rw [accepted] at refused
    cases refused

/-- The candidate of an adoption that nothing overlaps is accepted. -/
theorem sole_adoption_accepted : ∃ state caller label expectedRevision next rest,
    TimedReachable overlapPlatform (fun _ => sampleConfig) 0 state ∧
      state.slots caller = .running (.call (.commit label expectedRevision next) rest) ∧
      validateSnapshot overlapPlatform next = .ok () := by
  obtain ⟨_, reached, world, idle⟩ := overlapOpened_attainable
  have offered : Offered overlapPlatform sampleConfig overlapAdoption :=
    .adoptDevice .background (sampleConnection [1]) samplePeer
  obtain ⟨state, stateReached, stateWorld, slot, _⟩ :=
    SystemRules.reachable_start ((overlapRespond_answers ⟨0, 1⟩ 120).leaving isCommit) 1000
      reached world (idle _ (by simp)) offered
  obtain ⟨⟨label, expectedRevision, next⟩, proposes, facts⟩ :=
    Option.map_eq_some_iff.mp overlap_facts.2
  obtain ⟨rest, program⟩ := proposal_eq_some proposes
  simp only [Prod.mk.injEq, List.all_eq_true, beq_iff_eq] at facts
  obtain ⟨holds, adopts, unrelated⟩ := facts
  obtain ⟨closing, bounds, counters, sized⟩ := presentable_spec holds
  have waiting : state.slots ⟨0, 1⟩ =
      .running (.call (.commit label expectedRevision next) rest) := by
    rw [slot]
    exact congrArg Slot.running program
  refine ⟨state, ⟨0, 1⟩, label, expectedRevision, next, rest, stateReached, waiting, ?_⟩
  have alone : state.world = aloneProposed.1 := stateWorld
  rw [← alone] at counters unrelated
  obtain ⟨_, _, _, proposed, accepted⟩ := candidate_accepted_iff stateReached
    overlapPlatform_laws overlapPlatform_collisionFree.injOn counters waiting closing bounds sized
  refine accepted.mpr ?_
  cases proposed with
  | adopt _ _ _ _ _ _ _ _ known =>
    intro _ found
    obtain ⟨older, within, rfl⟩ := known.durable
    have empty := unrelated older ((List.mem_tails _ _).mpr within)
    cases (lookup_none_of_size empty).symm.trans found
  | reserve => trivial
  | _ => cases adopts

end Overlap

end Sovereignite.Trust
