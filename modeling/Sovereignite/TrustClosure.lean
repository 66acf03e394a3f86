import Sovereignite.DigestEncoding
import Sovereignite.TrustAdoption
import Sovereignite.TrustSerials

/-!
# Steps that keep a trust document well formed

The candidates of the operations are put together from a few steps: the next
revision, a recorded grant, a relationship, a reservation, a burned serial, an
issued certificate, a revocation and a publication.  Each of them keeps a
document well formed if the record it enters has its form.
-/

namespace Sovereignite.Trust

open Effect KeyedRecords

variable {env : Platform} {base : Snapshot}

variable {publication : Publication} {now : Time} {documents : List PublicDocument}
variable {identity : DeviceIdentity}

section Publications

theorem sortedDocuments_pairwise (documents : List PublicDocument) :
    (sortedDocuments documents).Pairwise fun left right => left.path ≤ right.path := by
  have total : Std.Total fun left right : PublicDocument => left.path ≤ right.path :=
    ⟨fun left right => le_total left.path right.path⟩
  have trans : IsTrans PublicDocument fun left right => left.path ≤ right.path :=
    ⟨fun _ _ _ first second => le_trans first second⟩
  exact List.pairwise_insertionSort _ documents

theorem sortedDocuments_idem (documents : List PublicDocument) :
    sortedDocuments (sortedDocuments documents) = sortedDocuments documents :=
  (sortedDocuments_pairwise documents).insertionSort_eq

/-- The publication of some documents, whatever the checks say of them. -/
def publicationOf (env : Platform) (identity : DeviceIdentity) (revision : UInt64)
    (documents : List PublicDocument) (now : Time) : Publication where
  id := publicationDigest env identity.canonicalIPNS revision (sortedDocuments documents)
  stateRevision := revision
  ipnsName := identity.canonicalIPNS
  digest := publicationDigest env identity.canonicalIPNS revision (sortedDocuments documents)
  documents := sortedDocuments documents
  createdAt := now

/-- What the checks ask of the documents of a publication. -/
structure Publishable (env : Platform) (documents : List PublicDocument) : Prop where
  nonempty : documents ≠ []
  count : documents.length ≤ maximumPublicationDocs
  checked : ∃ state, foldEach (checkDocument env) (0, none) (sortedDocuments documents) = .ok state

theorem newPublication_eq_ok {revision : UInt64} :
    newPublication env identity revision documents now = .ok publication ↔
      revision ≠ 0 ∧ now ≠ 0 ∧ Publishable env documents ∧
        publication = publicationOf env identity revision documents now := by
  unfold newPublication
  simp only [bind_eq_ok, reject_eq_ok, beq_eq_false_iff_ne, Bool.or_eq_false_iff,
    decide_eq_false_iff_not, Nat.not_lt, List.isEmpty_eq_false_iff, exists_const, pure,
    Except.pure, Except.ok.injEq]
  constructor
  · rintro ⟨positive, timed, ⟨nonempty, count⟩, state, checked, rfl⟩
    exact ⟨positive, timed, ⟨nonempty, count, state, checked⟩, rfl⟩
  · rintro ⟨positive, timed, ⟨nonempty, count, state, checked⟩, rfl⟩
    exact ⟨positive, timed, ⟨nonempty, count⟩, state, checked, rfl⟩

theorem Publishable.sorted (publishable : Publishable env documents) :
    Publishable env (sortedDocuments documents) := by
  obtain ⟨state, checked⟩ := publishable.checked
  refine ⟨?_, ?_, state, ?_⟩
  · intro empty
    have permuted : (sortedDocuments documents).Perm documents := List.perm_insertionSort _ _
    rw [empty] at permuted
    exact publishable.nonempty permuted.nil_eq.symm
  · exact (List.length_insertionSort _ documents).trans_le publishable.count
  · rw [sortedDocuments_idem]
    exact checked

/-- A publication that was made passes validation. -/
theorem validatePublication_of_made {revision : UInt64}
    (made : newPublication env identity revision documents now = .ok publication) :
    validatePublication env publication identity = .ok () := by
  obtain ⟨positive, timed, publishable, rfl⟩ := newPublication_eq_ok.mp made
  have rebuilt := newPublication_eq_ok.mpr ⟨positive, timed, publishable.sorted,
      Eq.refl (publicationOf env identity revision (sortedDocuments documents) now)⟩
  unfold validatePublication
  refine bind_eq_ok.mpr ⟨_, rebuilt, ?_⟩
  simp [publicationOf, sortedDocuments_idem]

theorem lookup_singleton {Value : Type} {key other : String} {value found : Value}
    (present : (AList.singleton key value : StringMap Value).lookup other = some found) :
    other = key ∧ found = value := by
  have member := mem_entries_iff.mpr present
  rw [AList.singleton_entries, List.mem_singleton] at member
  cases member
  exact ⟨rfl, rfl⟩

end Publications

section Counters

theorem le_succ_of_room {counter : UInt64} (room : counter ≠ maxUint64) :
    counter ≤ counter + 1 := by
  rw [UInt64.le_iff_toNat_le, toNat_succ room]
  exact Nat.le_succ _

end Counters

section Simple

variable (form : WellFormed env base)
include form

theorem WellFormed.nextRevision
    (room : base.revision ≠ maxUint64) : WellFormed env (nextRevision base) :=
  { form with
    committed := succ_ne_zero_of_room room
    outbox := fun id publication found =>
      { form.outbox id publication found with
        past := UInt64.le_trans (form.outbox id publication found).past (le_succ_of_room room) } }

theorem WellFormed.recordAppliedGrant {grant : AuthorizationGrant} {operation : Operation}
    (identified : certificateIDPattern (grantDigest env grant.grantID) = true)
    (named : operation ≠ .other "") (timed : now ≠ 0) :
    WellFormed env (recordAppliedGrant env base grant operation now) :=
  { form with
    appliedGrants := forall_insert
      (by simp [checkAppliedGrant, reject_eq_ok, identified, named, timed]) form.appliedGrants }

theorem WellFormed.attach
    (made : newPublication env base.identity base.revision documents now = .ok publication) :
    WellFormed env { base with outbox := AList.singleton publication.id publication } :=
  { form with
    outbox := fun id waiting found => by
      obtain ⟨rfl, rfl⟩ := lookup_singleton found
      refine ⟨rfl, ?_, validatePublication_of_made made⟩
      obtain ⟨_, _, _, rfl⟩ := newPublication_eq_ok.mp made
      exact UInt64.le_refl _ }

theorem WellFormed.relate {record : RelationshipRecord}
    (related : RelationshipForm env base.identity.peerID record.id record)
    (ownership : Ownership (base.relationships.insert record.id record)) :
    WellFormed env { base with relationships := base.relationships.insert record.id record } :=
  { form with
    relationships := forall_insert related form.relationships
    ownership
    certificateLinks := fun id cert found => by
      refine ⟨(form.certificateLinks id cert found).revocation, fun named => ?_⟩
      have bound := (form.certificateLinks id cert found).relationship named
      by_cases same : cert.relationshipID = record.id
      · rw [same]
        exact has_eq_true.mpr ⟨record, AList.lookup_insert _⟩
      · obtain ⟨relationship, present⟩ := has_eq_true.mp bound
        exact has_eq_true.mpr ⟨relationship, (AList.lookup_insert_ne same).trans present⟩ }

end Simple

variable {pending : PendingCertificate} {id : String}

section Serials

variable (form : WellFormed env base)
include form

theorem WellFormed.serial_below {value : Nat}
    (used : value.repr ∈ serials env base) : value < base.nextSerial.toNat := by
  have below := form.serialsBelow _ used value (setString_repr value)
  exact_mod_cast below

theorem WellFormed.reserve (reserved : PendingForm env pending.id pending)
    (serial : pending.serial = base.nextSerial.toNat.repr)
    (unused : base.pendingCertificates.lookup pending.id = none)
    (available : base.nextSerial ≠ maxUint64) :
    WellFormed env { base with
        nextSerial := base.nextSerial + 1
        pendingCertificates := base.pendingCertificates.insert pending.id pending } := by
  have added : (serials env { base with
        nextSerial := base.nextSerial + 1
        pendingCertificates := base.pendingCertificates.insert pending.id pending }).Perm
        (base.nextSerial.toNat.repr :: serials env base) := by
    have entered : collected pendingSerial (base.pendingCertificates.insert pending.id pending) =
          [base.nextSerial.toNat.repr] ++ collected pendingSerial base.pendingCertificates := by
      rw [← serial]
      exact collected_insert_new unused
    rw [List.perm_iff_count]
    intro text
    have split : (base.nextSerial.toNat.repr :: serials env base).count text =
        [base.nextSerial.toNat.repr].count text + (serials env base).count text := by
      rw [← List.count_append]
      rfl
    rw [split]
    simp only [count_serials, entered, List.count_append]
    omega
  have fresh : base.nextSerial.toNat.repr ∉ serials env base :=
    fun used => Nat.lt_irrefl _ (form.serial_below used)
  have grown := toNat_succ available
  exact { form with
    positive := succ_ne_zero_of_room available
    pending := forall_insert reserved form.pending
    serialsOnce := added.nodup_iff.mpr (List.nodup_cons.mpr ⟨fresh, form.serialsOnce⟩)
    serialsBelow := fun text used value reads => by
      show value < ((base.nextSerial + 1).toNat : Int)
      rcases List.mem_cons.mp (added.mem_iff.mp used) with rfl | before
      · rw [setString_repr] at reads
        cases reads
        rw [grown]
        exact Int.lt_succ _
      · have below := form.serialsBelow text before value reads
        rw [grown]
        push_cast
        omega }

theorem WellFormed.burn
    (found : base.pendingCertificates.lookup id = some pending) (timed : now ≠ 0) :
    WellFormed env
      (burnSerial { base with pendingCertificates := base.pendingCertificates.erase id }
        pending.serial now) := by
  have moved := serials_burn form.serialsOnce found now
  exact { form with
    pending := forall_erase form.pending
    burned := forall_insert ⟨(form.pending id pending found).serial, timed⟩ form.burned
    serialsOnce := moved.nodup_iff.mpr form.serialsOnce
    serialsBelow := fun serial used => form.serialsBelow serial (moved.mem_iff.mp used) }

theorem WellFormed.burnAllPending (room : base.revision ≠ maxUint64) (timed : now ≠ 0) :
    WellFormed env (burnAllPending base now) := by
  have burned : ∀ document (entry : Σ _ : String, PendingCertificate), WellFormed env document →
      document.pendingCertificates.lookup entry.1 = some entry.2 →
        WellFormed env (burnEntry now document entry) :=
    fun document entry holds found => holds.burn found timed
  exact burnAllPending_induct burned (form.nextRevision room)

end Serials

variable {cert : Certificate} {applied : Snapshot}

section Authority

theorem trustDomain_of_derived {canonicalIPNS peerID : String}
    (derived : deriveDeviceIdentity env canonicalIPNS peerID = .ok identity) :
    trustDomainFromIPNS env identity.trustDomain = .ok identity.trustDomain := by
  obtain ⟨⟨domain, _⟩, parsed, derived⟩ := bind_eq_ok.mp derived
  obtain ⟨_, _, derived⟩ := bind_eq_ok.mp derived
  obtain ⟨_, _, derived⟩ := bind_eq_ok.mp derived
  obtain ⟨_, _, derived⟩ := bind_eq_ok.mp derived
  obtain ⟨_, _, derived⟩ := bind_eq_ok.mp derived
  cases derived
  have same : domain = canonicalIPNS := by
    have steps := parsed
    simp only [parseCanonicalIPNS, bind_eq_ok] at steps
    obtain ⟨_, _, _, _, _, _, _, _, _, _, _, _, _, _, returned⟩ := steps
    cases returned
    rfl
  subst same
  exact bind_eq_ok.mpr ⟨_, parsed, rfl⟩

theorem checkBundle_of_authority {domain name : String} {generation : UInt64} {encoded : Bytes}
    (target : trustDomainFromIPNS env domain = .ok name) (positive : generation ≠ 0)
    (encoding : AuthorityEncoding env encoded cert)
    (named : cert.subject.commonName = domain) (timed : now ≠ 0) :
    checkBundle env ⟨domain, ⟨domain, generation, [encoded], now⟩⟩ = .ok () := by
  have checked := validateCACertificate_eq_ok.mpr ⟨cert, encoding⟩
  unfold checkBundle
  simp [bind_eq_ok, reject_eq_ok, mapError_eq_ok, target, positive, timed, checkEach, checked,
    encoding.parsed, named]

/-- Without an authority nothing was ever issued. -/
theorem WellFormed.unissued (form : WellFormed env base) (vacant : base.activeCACertificate = []) :
    (∀ id, base.certificates.lookup id = none) ∧ (∀ domain, base.federations.lookup domain = none) ∧
      ∀ id, base.revocations.lookup id = none := by
  have certificates : ∀ id, base.certificates.lookup id = none := by
    intro id
    rw [Option.eq_none_iff_forall_ne_some]
    intro record found
    obtain ⟨_, _, _, signed⟩ := (form.certificates id record found).parsed
    exact signed.1 vacant
  refine ⟨certificates, ?_, ?_⟩
  · intro domain
    rw [Option.eq_none_iff_forall_ne_some]
    intro record found
    obtain ⟨_, _, _, _, signed⟩ := (form.federations domain record found).cross
    exact signed.1 vacant
  · intro id
    rw [Option.eq_none_iff_forall_ne_some]
    intro record found
    rcases (form.revocations id record found).kind with leaf | cross
    · obtain ⟨_, present, _⟩ := form.revocationLeaves id record found leaf
      rw [certificates id] at present
      cases present
    · obtain ⟨_, _, _, _, signed⟩ := (form.revocations id record found).cross cross
      exact signed.1 vacant

/-- The local authority takes the place of its reservation. -/
theorem WellFormed.activateCA (form : WellFormed env base) (room : base.revision ≠ maxUint64)
    (found : base.pendingCertificates.lookup id = some pending) {encoded entered : Bytes}
    (encoding : AuthorityEncoding env encoded cert)
    (serial : serialText cert = pending.serial)
    (named : cert.subject.commonName = base.identity.trustDomain)
    (selfSigned : env.checkSignatureFrom cert cert = .ok ()) (timed : now ≠ 0)
    (activated : activateCA env base.identity encoded (releasePending base id) now =
      .ok (applied, entered)) : WellFormed env applied := by
  have moved := serials_activateCA found encoding.parsed serial encoding.nonempty activated
  obtain ⟨vacant, _, rfl⟩ := activateCA_eq_ok activated
  obtain ⟨uncertified, unfederated, unrevoked⟩ := form.unissued vacant
  have advanced := form.nextRevision room
  exact { advanced with
    authority := .present cert encoding named selfSigned rfl _ (AList.lookup_insert _) rfl
    certificates := fun other record present => by
      cases (uncertified other).symm.trans present
    pending := forall_erase form.pending
    federations := fun domain record present => by
      cases (unfederated domain).symm.trans present
    revocations := fun other record present => by
      cases (unrevoked other).symm.trans present
    authoritySerial := fun text listed => by
      have holds : encoded.isEmpty = false := by simpa using encoding.nonempty
      have only : text = pending.serial := by
        simpa [activeCASerials, parsedCertificate, holds, encoding.parsed, serial,
          Except.toOption] using listed
      rw [only]
      exact (form.pending id pending found).serial
    serialsOnce := moved.nodup_iff.mpr form.serialsOnce
    serialsBelow := fun text used => form.serialsBelow text (moved.mem_iff.mp used)
    bundles := forall_insert (checkBundle_of_authority (trustDomain_of_derived form.identity)
      (by decide) encoding named timed) form.bundles }

end Authority

variable {inputs : Set Bytes}

section Leaves

theorem CertificateForm.ne_authority {spiffeID id : String} {authority encoded : Bytes}
    {record : CertificateRecord} (form : CertificateForm env spiffeID authority id record)
    (collisionFree : Set.InjOn env.sha256 inputs) (recordIn : record.der ∈ inputs)
    (encodedIn : encoded ∈ inputs)
    (encoding : AuthorityEncoding env encoded cert) :
    certificateID env encoded ≠ id := by
  intro same
  have equal : record.der = encoded :=
    Platform.hexDigest_inj collisionFree recordIn encodedIn (form.digest.trans same.symm)
  obtain ⟨leaf, parsed, profile, _⟩ := form.parsed
  rw [equal, encoding.parsed] at parsed
  cases parsed
  have signs := encoding.signs
  simp [signsCertificates, profile.leaf] at signs

theorem WellFormed.activateCertificate (form : WellFormed env base)
    (collisionFree : Set.InjOn env.sha256 inputs)
    (carried : ∀ encoded, Carries base encoded → encoded ∈ inputs)
    (room : base.revision ≠ maxUint64)
    (found : base.pendingCertificates.lookup id = some pending) {record : CertificateRecord}
    {entered : Bytes} (entering : record.der ∈ inputs)
    (leaf : CertificateForm env base.identity.spiffeID base.activeCACertificate record.id
      { record with issuedAt := now }) (standing : record.status = .active)
    (unbound : record.relationshipID = "") (serial : record.serial = pending.serial)
    (activated : activateCertificate record (releasePending base id) now =
      .ok (applied, entered)) : WellFormed env applied := by
  have moved := @serials_activateCertificate env base applied id pending now record entered
    found serial activated
  obtain ⟨absent, rfl⟩ := activateCertificate_eq_ok activated
  have advanced := form.nextRevision room
  exact { advanced with
    certificates := forall_insert leaf form.certificates
    certificateLinks := by
      refine forall_insert ⟨fun revoked => ?_, fun named => absurd unbound named⟩
        form.certificateLinks
      cases standing.symm.trans revoked
    pending := forall_erase form.pending
    revocationLeaves := fun other revocation present kind => by
      obtain ⟨cert, before, agrees⟩ := form.revocationLeaves other revocation present kind
      have different : other ≠ record.id := by
        rintro rfl
        cases absent.symm.trans before
      exact ⟨cert, (AList.lookup_insert_ne different).trans before, agrees⟩
    revocationsReplaced := fun other revocation present kind => by
      obtain ⟨uncertified, inactive⟩ := form.revocationsReplaced other revocation present kind
      have different : other ≠ record.id := by
        rintro rfl
        obtain ⟨_, encoding, _⟩ := (form.revocations _ revocation present).cross kind
        exact leaf.ne_authority collisionFree entering (carried _ (.revoked present)) encoding
          (form.revocations _ revocation present).digest
      exact ⟨(AList.lookup_insert_ne different).trans uncertified, inactive⟩
    serialsOnce := moved.nodup_iff.mpr form.serialsOnce
    serialsBelow := fun text used => form.serialsBelow text (moved.mem_iff.mp used) }

theorem WellFormed.revokeCertificateRecord (form : WellFormed env base)
    {cert : CertificateRecord} (found : base.certificates.lookup id = some cert)
    (identified : certificateIDPattern id = true) (timed : now ≠ 0) :
    WellFormed env (revokeCertificateRecord base id cert now) := by
  have leaf := form.certificates id cert found
  have apart : ∀ revocation, base.revocations.lookup id = some revocation →
      revocation.kind ≠ .cross := by
    intro revocation listed cross
    cases (form.revocationsReplaced id revocation listed cross).1.symm.trans found
  have moved := @serials_revokeCertificateRecord env base id cert found apart now
  exact { form with
    certificates := by
      obtain ⟨parsed, parses, profile, signed⟩ := leaf.parsed
      exact forall_insert { leaf with
        parsed := ⟨parsed, parses, { profile with }, signed⟩
        status := .inr rfl
        revokedAt := fun _ => timed } form.certificates
    certificateLinks := fun other record present => by
      rcases lookup_insert_cases present with ⟨rfl, rfl⟩ | ⟨different, before⟩
      · exact ⟨fun _ => has_eq_true.mpr ⟨_, AList.lookup_insert _⟩,
          (form.certificateLinks other cert found).relationship⟩
      · refine ⟨fun revoked => ?_, (form.certificateLinks other record before).relationship⟩
        obtain ⟨revocation, listed⟩ :=
          has_eq_true.mp ((form.certificateLinks other record before).revocation revoked)
        exact has_eq_true.mpr ⟨revocation, (AList.lookup_insert_ne different).trans listed⟩
    revocations := forall_insert ⟨rfl, identified, timed, leaf.nonempty, leaf.size, leaf.digest,
      leaf.serial, .inl rfl, fun cross => nomatch cross⟩ form.revocations
    revocationLeaves := fun other revocation present kind => by
      rcases lookup_insert_cases present with ⟨rfl, rfl⟩ | ⟨different, before⟩
      · exact ⟨_, AList.lookup_insert _, rfl, rfl, rfl, rfl⟩
      · obtain ⟨record, listed, agrees⟩ := form.revocationLeaves other revocation before kind
        exact ⟨record, (AList.lookup_insert_ne different).trans listed, agrees⟩
    revocationsReplaced := fun other revocation present kind => by
      rcases lookup_insert_cases present with ⟨rfl, rfl⟩ | ⟨different, before⟩
      · cases kind
      · obtain ⟨uncertified, inactive⟩ := form.revocationsReplaced other revocation before kind
        exact ⟨(AList.lookup_insert_ne different).trans uncertified, inactive⟩
    serialsOnce := moved.nodup_iff.mpr form.serialsOnce
    serialsBelow := fun text used => form.serialsBelow text (moved.mem_iff.mp used) }

end Leaves

section Federations

/-- The serial of a reservation is not in another part of the serials. -/
theorem WellFormed.pending_apart (form : WellFormed env base)
    (found : base.pendingCertificates.lookup id = some pending) {others : List String}
    (part : ∀ text, (collected pendingSerial base.pendingCertificates).count text +
      others.count text ≤ (serials env base).count text) : pending.serial ∉ others := by
  intro used
  have reserved : 0 < (collected pendingSerial base.pendingCertificates).count pending.serial :=
    List.count_pos_iff.mpr (mem_collected.mpr ⟨id, pending, found, rfl⟩)
  have again := List.count_pos_iff.mpr used
  have once := List.nodup_iff_count_le_one.mp form.serialsOnce pending.serial
  have both := part pending.serial
  omega

theorem WellFormed.pending_apart_cross (form : WellFormed env base) {domain : String}
    {record : FederationRecord} (found : base.pendingCertificates.lookup id = some pending)
    (present : base.federations.lookup domain = some record) :
    record.crossCertificateSerial ≠ pending.serial := by
  intro same
  have used : pending.serial ∈ collected crossSerial base.federations :=
    mem_collected.mpr ⟨domain, record, present, congrArg some same⟩
  refine form.pending_apart found (fun text => ?_) used
  rw [count_serials]
  omega

theorem WellFormed.pending_apart_replaced (form : WellFormed env base) {other : String}
    {record : RevocationRecord} (found : base.pendingCertificates.lookup id = some pending)
    (listed : base.revocations.lookup other = some record) (cross : record.kind = .cross) :
    record.serial ≠ pending.serial := by
  intro same
  have used : pending.serial ∈ collected replacedSerial base.revocations :=
    mem_collected.mpr ⟨other, record, listed, (if_pos cross).trans (congrArg some same)⟩
  refine form.pending_apart found (fun text => ?_) used
  rw [count_serials]
  omega

/-- Certificates with one digest have one serial. -/
theorem AuthorityEncoding.serial_eq (collisionFree : Set.InjOn env.sha256 inputs)
    {left right : Bytes} {first second : Certificate}
    (leftIn : left ∈ inputs) (rightIn : right ∈ inputs)
    (encodingFirst : AuthorityEncoding env left first)
    (encodingSecond : AuthorityEncoding env right second)
    (same : certificateID env left = certificateID env right) :
    serialText first = serialText second := by
  have parsed := encodingFirst.parsed
  rw [Platform.hexDigest_inj collisionFree leftIn rightIn same, encodingSecond.parsed] at parsed
  cases parsed
  rfl

theorem WellFormed.cross_unlike (form : WellFormed env base)
    (collisionFree : Set.InjOn env.sha256 inputs)
    (carried : ∀ encoded, Carries base encoded → encoded ∈ inputs) {entered : FederationRecord}
    (crossIn : entered.crossCertificate ∈ inputs)
    (found : base.pendingCertificates.lookup id = some pending)
    (edge : FederationForm env base.identity.trustDomain base.activeCACertificate
      entered.targetDomain entered) (serial : entered.crossCertificateSerial = pending.serial) :
    (∀ domain record, base.federations.lookup domain = some record →
        record.crossCertificateID ≠ entered.crossCertificateID) ∧
      ∀ other record, base.revocations.lookup other = some record → record.kind = .cross →
        entered.crossCertificateID ≠ other := by
  obtain ⟨_, entering, enteringSerial, _⟩ := edge.cross
  constructor
  · intro domain record present same
    have current := form.federations domain record present
    obtain ⟨_, encoding, currentSerial, _⟩ := current.cross
    have equal := encoding.serial_eq collisionFree (carried _ (.cross present)) crossIn entering
      (current.digest.symm.trans (same.trans edge.digest))
    exact form.pending_apart_cross found present
      (currentSerial.trans (equal.trans (enteringSerial.symm.trans serial)))
  · intro other record listed cross same
    have revoked := form.revocations other record listed
    obtain ⟨_, encoding, revokedSerial, _⟩ := revoked.cross cross
    have equal := encoding.serial_eq collisionFree (carried _ (.revoked listed)) crossIn entering
      (revoked.digest.trans (same.symm.trans edge.digest))
    exact form.pending_apart_replaced found listed cross
      (revokedSerial.symm.trans (equal.trans (enteringSerial.symm.trans serial)))

theorem lookup_federation_cases {domain target : String} {federation entered : FederationRecord}
    {federations : StringMap FederationRecord}
    (present : (federations.insert target entered).lookup domain = some federation) :
    federation = entered ∨ domain ≠ target ∧ federations.lookup domain = some federation := by
  rcases lookup_insert_cases present with ⟨_, same⟩ | before
  · exact .inl same
  · exact .inr before

/-- A bundle of another domain leaves the authority as it is. -/
theorem AuthorityForm.insert_bundle {trustDomain domain : String} {authority : Bytes}
    {bundles : StringMap TrustBundleRecord}
    (form : AuthorityForm env trustDomain authority id bundles) (apart : trustDomain ≠ domain)
    (bundle : TrustBundleRecord) :
    AuthorityForm env trustDomain authority id (bundles.insert domain bundle) := by
  rw [authorityForm_iff] at form ⊢
  rwa [AList.lookup_insert_ne apart]

/-- The cross-certificate of an edge can be revoked. -/
theorem FederationForm.replaced {trustDomain domain : String} {authority : Bytes}
    {existing : FederationRecord} (form : FederationForm env trustDomain authority domain existing)
    (known : CrossForm existing) (timed : now ≠ 0) :
    RevocationForm env authority existing.crossCertificateID
      (replacedCrossCertificate existing now) := by
  obtain ⟨cert, encoding, serial, common, signed⟩ := form.cross
  refine ⟨rfl, known.identified, timed, encoding.nonempty, encoding.size, form.digest.symm,
    known.serial, .inr rfl, fun _ => ?_⟩
  exact ⟨cert, encoding, serial.symm, common ▸ form.target, signed⟩

theorem WellFormed.cross_uncertified (form : WellFormed env base)
    (collisionFree : Set.InjOn env.sha256 inputs)
    (carried : ∀ encoded, Carries base encoded → encoded ∈ inputs) {domain : String}
    {existing : FederationRecord} (present : base.federations.lookup domain = some existing) :
    base.certificates.lookup existing.crossCertificateID = none := by
  rw [Option.eq_none_iff_forall_ne_some]
  intro leaf listed
  have current := form.federations domain existing present
  obtain ⟨_, encoding, _⟩ := current.cross
  exact (form.certificates _ leaf listed).ne_authority collisionFree
    (carried _ (.certificate listed)) (carried _ (.cross present)) encoding current.digest.symm

/-- An edge takes the place of its reservation, and the cross-certificate of the edge it
replaces is revoked. -/
theorem WellFormed.activateFederation (form : WellFormed env base)
    (collisionFree : Set.InjOn env.sha256 inputs)
    (carried : ∀ encoded, Carries base encoded → encoded ∈ inputs)
    (room : base.revision ≠ maxUint64)
    (found : base.pendingCertificates.lookup id = some pending) {record entered : FederationRecord}
    (crossIn : entered.crossCertificate ∈ inputs)
    (federated : FederationForm env base.identity.trustDomain base.activeCACertificate
      entered.targetDomain entered)
    (identified : certificateIDPattern entered.crossCertificateID = true)
    (serial : record.crossCertificateSerial = pending.serial) (timed : now ≠ 0)
    (activated : activateFederation record (releasePending base id) now =
      .ok (applied, entered)) : WellFormed env applied := by
  have advanced := form.nextRevision room
  have consistent := form.consistent
  have edge := activateFederation_edge activated
  have reserved : entered.crossCertificateSerial = pending.serial := by
    cases edge with
    | fresh | renewed => exact serial
  obtain ⟨unlike, unlisted⟩ :=
    form.cross_unlike collisionFree carried crossIn found federated reserved
  have cross : CrossForm entered := ⟨identified, reserved ▸ (form.pending id pending found).serial⟩
  have apart : base.identity.trustDomain ≠ entered.targetDomain :=
    federated.source ▸ federated.apart.symm
  have bundle : checkBundle env ⟨entered.targetDomain, entered.targetDomain,
      entered.sourceGeneration, [entered.remoteCACertificate], now⟩ = .ok () := by
    obtain ⟨_, named⟩ := federated.target
    obtain ⟨cert, encoding, common⟩ := federated.remote
    exact checkBundle_of_authority named federated.generation encoding common timed
  have replacedBefore : ∀ other revocation, base.revocations.lookup other = some revocation →
      revocation.kind = .cross → base.certificates.lookup other = none ∧
        ∀ domain federation, (base.federations.insert entered.targetDomain entered).lookup domain =
            some federation → federation.crossCertificateID ≠ other := by
    intro other revocation listed kind
    obtain ⟨uncertified, inactive⟩ := form.revocationsReplaced other revocation listed kind
    refine ⟨uncertified, fun domain federation present => ?_⟩
    rcases lookup_federation_cases present with rfl | ⟨_, before⟩
    · exact unlisted other revocation listed kind
    · exact inactive domain federation before
  cases edge with
  | fresh =>
    have moved := @serials_activateFederation env base _ id pending now record _ found
      serial activated consistent
      fun other revocation listed kind => (replacedBefore other revocation listed kind).1
    exact { advanced with
      authority := form.authority.insert_bundle apart _
      pending := forall_erase form.pending
      federations := forall_insert federated form.federations
      cross := forall_insert cross form.cross
      crossOnce := once_insert form.crossOnce unlike
      revocationsReplaced := replacedBefore
      serialsOnce := moved.nodup_iff.mpr form.serialsOnce
      serialsBelow := fun text used => form.serialsBelow text (moved.mem_iff.mp used)
      bundles := forall_insert bundle form.bundles }
  | renewed existing present =>
    have uncertified := form.cross_uncertified collisionFree carried present
    have retired := (form.federations _ existing present).replaced (form.cross _ _ present) timed
    have replaced : ∀ other revocation, (base.revocations.insert existing.crossCertificateID
          (replacedCrossCertificate existing now)).lookup other = some revocation →
        revocation.kind = .cross → base.certificates.lookup other = none ∧
          ∀ domain federation, (base.federations.insert record.targetDomain
            { record with updatedAt := now, establishedAt := existing.establishedAt }).lookup
              domain = some federation → federation.crossCertificateID ≠ other := by
      intro other revocation listed kind
      rcases lookup_insert_cases listed with ⟨rfl, _⟩ | ⟨_, before⟩
      · refine ⟨uncertified, fun domain federation entry => ?_⟩
        rcases lookup_federation_cases entry with rfl | ⟨different, before⟩
        · exact (unlike _ existing present).symm
        · intro same
          exact different
            (form.crossOnce domain record.targetDomain federation existing before present same)
      · exact replacedBefore other revocation before kind
    have moved := @serials_activateFederation env base _ id pending now record _ found
      serial activated consistent
      fun other revocation listed kind => (replaced other revocation listed kind).1
    exact { advanced with
      authority := form.authority.insert_bundle apart _
      certificateLinks := fun other cert listed => by
        refine ⟨fun revoked => ?_, (form.certificateLinks other cert listed).relationship⟩
        obtain ⟨revocation, entry⟩ := has_eq_true.mp
          ((form.certificateLinks other cert listed).revocation revoked)
        have different : other ≠ existing.crossCertificateID := by
          rintro rfl
          cases uncertified.symm.trans listed
        exact has_eq_true.mpr ⟨revocation, (AList.lookup_insert_ne different).trans entry⟩
      pending := forall_erase form.pending
      federations := forall_insert federated form.federations
      cross := forall_insert cross form.cross
      crossOnce := once_insert form.crossOnce unlike
      revocations := forall_insert retired form.revocations
      revocationLeaves := forall_insert (fun kind => nomatch kind) form.revocationLeaves
      revocationsReplaced := replaced
      serialsOnce := moved.nodup_iff.mpr form.serialsOnce
      serialsBelow := fun text used => form.serialsBelow text (moved.mem_iff.mp used)
      bundles := forall_insert bundle form.bundles }

end Federations

section Completion

theorem firstPublication_lookup {outbox : StringMap Publication}
    (first : firstPublication outbox = some publication) :
    ∃ id, outbox.lookup id = some publication := by
  obtain ⟨⟨id, _⟩, top, rfl⟩ := Option.map_eq_some_iff.mp first
  have member := List.mem_of_mem_head? top
  rw [(List.perm_insertionSort _ _).mem_iff] at member
  exact ⟨id, mem_entries_iff.mp member⟩

theorem lookup_of_pruned {records : StringMap PublishedRecord} {record : PublishedRecord}
    (present : (pruneOldestPublished records).lookup id = some record) :
    records.lookup id = some record := by
  unfold pruneOldestPublished at present
  dsimp only at present
  split at present
  · exact present
  · exact (lookup_of_erase present).2

theorem validatePublicationReceipt_eq_ok {receipt : PublicationReceipt} {lastSequence : UInt64} :
    validatePublicationReceipt env receipt publication lastSequence = .ok () ↔
      (receipt.publicationID = publication.id ∧ receipt.digest = publication.digest ∧
        receipt.ipnsName = publication.ipnsName) ∧
        (∃ cid, env.decodeCid receipt.rootCID = .ok cid) ∧
        lastSequence < receipt.ipnsSequence := by
  unfold validatePublicationReceipt
  simp only [bind_eq_ok, reject_eq_ok, Bool.or_eq_false_iff, bne_eq_false_iff_eq,
    decide_eq_false_iff_not, UInt64.not_le, exists_const, and_assoc]
  cases env.decodeCid receipt.rootCID <;> simp [Except.toOption]

theorem validatePublication_digest (valid : validatePublication env publication identity = .ok ()) :
    publication.digest = publication.id := by
  obtain ⟨_, made, same⟩ := bind_eq_ok.mp valid
  obtain ⟨_, _, _, rfl⟩ := newPublication_eq_ok.mp made
  simp only [reject_eq_ok, Bool.or_eq_false_iff, bne_eq_false_iff_eq] at same
  exact same.1.2.trans same.1.1.symm

theorem LastPublished.bounds {published : StringMap PublishedRecord} {sequence : UInt64}
    {root : String} (last : LastPublished published sequence root) {record : PublishedRecord}
    (found : published.lookup id = some record) : record.ipnsSequence ≤ sequence := by
  cases last with
  | none empty => cases (empty id).symm.trans found
  | newest _ _ _ highest => exact highest id record found

theorem WellFormed.completePublication (form : WellFormed env base)
    (room : base.revision ≠ maxUint64) {receipt : PublicationReceipt} {completedAt : Time}
    (first : firstPublication base.outbox = some publication)
    (accepted : validatePublicationReceipt env receipt publication base.lastIPNSSequence =
      .ok ()) (identified : certificateIDPattern publication.id = true) (timed : completedAt ≠ 0) :
    WellFormed env (completePublication base publication receipt completedAt) := by
  have advanced := form.nextRevision room
  obtain ⟨_, root, later⟩ := validatePublicationReceipt_eq_ok.mp accepted
  obtain ⟨id, waiting⟩ := firstPublication_lookup first
  have digest := validatePublication_digest (form.outbox id publication waiting).valid
  let kept := if maximumPublishedItems ≤ base.published.size then
    pruneOldestPublished base.published else base.published
  have before : ∀ other record, kept.lookup other = some record →
      base.published.lookup other = some record := by
    intro other record present
    by_cases full : maximumPublishedItems ≤ base.published.size
    · exact lookup_of_pruned (by simpa only [kept, full, if_true] using present)
    · simpa only [kept, full, if_false] using present
  have older : ∀ other record, kept.lookup other = some record →
      record.ipnsSequence < receipt.ipnsSequence := by
    intro other record present
    exact UInt64.lt_of_le_of_lt (form.lastPublished.bounds (before other record present)) later
  have positive : receipt.ipnsSequence ≠ 0 := by
    intro zero
    rw [zero] at later
    exact UInt64.not_lt_zero later
  exact { advanced with
    outbox := forall_erase advanced.outbox
    published := forall_insert ⟨identified, digest, positive, timed, root⟩
      fun other record old => form.published other record (before other record old)
    publishedOnce := once_insert
      (fun one other left right oldOne oldOther => form.publishedOnce one other left right
        (before one left oldOne) (before other right oldOther))
      fun other record old => UInt64.ne_of_lt (older other record old)
    lastPublished := .newest publication.id _ (AList.lookup_insert _) fun other record present => by
        rcases lookup_insert_cases present with ⟨_, rfl⟩ | ⟨_, old⟩
        · exact UInt64.le_refl _
        · exact UInt64.le_of_lt (older other record old) }

end Completion

end Sovereignite.Trust
