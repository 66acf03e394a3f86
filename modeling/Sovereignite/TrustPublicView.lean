import Sovereignite.DigestEncoding
import Sovereignite.TrustConsistency
import Sovereignite.TrustExecution

/-!
# What the public view depends on

The view for builders of public documents is made of three sorted lists.  The
validator makes the sort keys unique, so the lists depend on the public fields
of the records and on nothing else: not on the private parts of a document and
not on the order in which its maps are walked.
-/

namespace Sovereignite.Trust

open Effect KeyedRecords

section Sorting

variable {Value Key : Type} [LinearOrder Key]

theorem insertionSort_eq_of_perm (key : Value → Key) {first second : List Value}
    (perm : first.Perm second) (distinct : (first.map key).Nodup) :
    first.insertionSort (fun left right => key left ≤ key right) =
      second.insertionSort (fun left right => key left ≤ key right) := by
  have total : Std.Total (fun left right : Value => key left ≤ key right) :=
    ⟨fun left right => le_total (key left) (key right)⟩
  have transitive : IsTrans Value (fun left right => key left ≤ key right) :=
    ⟨fun _ _ _ => le_trans⟩
  have sortedFirst := List.pairwise_insertionSort (fun left right => key left ≤ key right) first
  have sortedSecond := List.pairwise_insertionSort (fun left right => key left ≤ key right) second
  have permuted := ((List.perm_insertionSort (fun left right => key left ≤ key right)
    first).trans perm).trans
      (List.perm_insertionSort (fun left right => key left ≤ key right) second).symm
  refine List.Perm.eq_of_pairwise ?_ sortedFirst sortedSecond permuted
  intro left right leftMember rightMember below above
  have leftIn : left ∈ first := (List.mem_insertionSort _).mp leftMember
  have rightIn : right ∈ first := perm.mem_iff.mpr ((List.mem_insertionSort _).mp rightMember)
  exact List.inj_on_of_nodup_map distinct leftIn rightIn (le_antisymm below above)

end Sorting

section Projections

def publicCertificate (cert : CertificateRecord) : PublicCertificate where
  id := cert.id
  spiffeID := cert.spiffeID
  serial := cert.serial
  der := cert.der
  notBefore := cert.notBefore
  notAfter := cert.notAfter
  status := cert.status

def publicRevocation (revocation : RevocationRecord) : PublicRevocation where
  statusID := revocation.certificateID
  certificateID := revocation.certificateID
  serial := revocation.serial
  kind := revocation.kind
  certificateDER := revocation.certificateDER
  revokedAt := revocation.revokedAt

/-- A revocation of whatever was issued under a burned serial. -/
def uncertainRevocation (env : Platform) (trustDomain : String)
    (entry : Σ _ : String, Time) : PublicRevocation where
  statusID := uncertainRevocationID env trustDomain entry.1
  serial := entry.1
  kind := .uncertain
  revokedAt := entry.2

def publicFederation (federation : FederationRecord) : PublicFederation where
  sourceDomain := federation.sourceDomain
  targetDomain := federation.targetDomain
  sourceGeneration := federation.sourceGeneration
  remoteCACertificateDER := federation.remoteCACertificate
  crossCertificateDER := federation.crossCertificate
  establishedAt := federation.establishedAt

/-- All revocations of a document, in the order of its maps. -/
def statuses (env : Platform) (snapshot : Snapshot) : List PublicRevocation :=
  snapshot.revocations.values.map publicRevocation ++
    snapshot.burnedSerials.entries.map (uncertainRevocation env snapshot.identity.trustDomain)

/-- Two documents agree on what is public, up to the order of their maps. -/
structure AgreePublicly (first second : Snapshot) : Prop where
  revision : first.revision = second.revision
  identity : first.identity = second.identity
  activeCACertificate : first.activeCACertificate = second.activeCACertificate
  burnedSerials : first.burnedSerials.entries.Perm second.burnedSerials.entries
  revocations : first.revocations.entries.Perm second.revocations.entries
  certificates : (first.certificates.values.map publicCertificate).Perm
    (second.certificates.values.map publicCertificate)
  federations : (first.federations.values.map publicFederation).Perm
    (second.federations.values.map publicFederation)

/-- What is hashed for the status of a burned serial. -/
def uncertainPreimage (trustDomain serial : String) : Bytes :=
  bytesOf uncertainRevocationDigestDomain ++ writeDigestField (bytesOf trustDomain) ++
    writeDigestField (bytesOf serial)

/-- Everything whose digest is the identifier of a status. -/
def statusInputs (snapshot : Snapshot) : Set Bytes :=
  { input | (∃ entry ∈ snapshot.revocations.entries, input = entry.2.certificateDER) ∨
    ∃ entry ∈ snapshot.burnedSerials.entries,
      input = uncertainPreimage snapshot.identity.trustDomain entry.1 }

/-- An encoding that parses as a certificate starts with the tag of a DER
sequence. -/
def ParsesSequences (env : Platform) : Prop :=
  ∀ encoded cert, env.parseCertificate encoded = .ok cert → encoded.head? = some 0x30

end Projections

section Collecting

theorem foldEach_addStatus {collected added : List PublicRevocation}
    (distinct : ((added ++ collected).map PublicRevocation.statusID).Nodup) :
    foldEach addStatus collected added = .ok (added.reverse ++ collected) := by
  induction added generalizing collected with
  | nil => rfl
  | cons first rest ih =>
    simp only [List.cons_append, List.map_cons, List.nodup_cons] at distinct
    obtain ⟨absent, others⟩ := distinct
    have unused : (collected.any fun earlier => earlier.statusID == first.statusID) = false := by
      rw [List.any_eq_false]
      intro _ member same
      refine absent ?_
      rw [← eq_of_beq same]
      exact List.mem_map_of_mem (List.mem_append_right rest member)
    have moved : ((rest ++ first :: collected).map PublicRevocation.statusID).Nodup := by
      have perm : (rest ++ first :: collected).Perm (first :: (rest ++ collected)) :=
        List.perm_middle
      rw [(perm.map PublicRevocation.statusID).nodup_iff]
      simp only [List.map_cons, List.nodup_cons]
      exact ⟨absent, others⟩
    have added : addStatus collected first = .ok (first :: collected) := by
      simp [addStatus, unused, reject]
    simp only [foldEach, added]
    refine (ih moved).trans ?_
    simp

theorem publicStateView_eq {env : Platform} {snapshot : Snapshot}
    (distinct : ((statuses env snapshot).map PublicRevocation.statusID).Nodup) :
    publicStateView env snapshot = .ok {
      revision := snapshot.revision
      localIdentity := snapshot.identity
      activeCACertificateDER := snapshot.activeCACertificate
      certificates := (snapshot.certificates.values.map publicCertificate).insertionSort
        fun left right => left.id ≤ right.id
      revocations := (statuses env snapshot).reverse.insertionSort
        fun left right => left.statusID ≤ right.statusID
      federations := (snapshot.federations.values.map publicFederation).insertionSort
        fun left right => left.targetDomain ≤ right.targetDomain } := by
  have collected := @foldEach_addStatus [] (statuses env snapshot)
    (by rw [List.append_nil]; exact distinct)
  rw [List.append_nil] at collected
  exact bind_eq_ok.mpr ⟨_, collected, rfl⟩

end Collecting

section Keys

variable {env : Platform} {snapshot : Snapshot}

/-- Each public record is stored under its sort key, and a revocation is that of
a certificate that parses. -/
structure PubliclyKeyed (env : Platform) (snapshot : Snapshot) : Prop where
  certificates : ∀ entry ∈ snapshot.certificates.entries, entry.2.id = entry.1
  federations : ∀ entry ∈ snapshot.federations.entries, entry.2.targetDomain = entry.1
  revocations : ∀ entry ∈ snapshot.revocations.entries,
    entry.2.certificateID = entry.1 ∧ certificateID env entry.2.certificateDER = entry.1
  parsed : ∀ entry ∈ snapshot.revocations.entries,
    ∃ cert, env.parseCertificate entry.2.certificateDER = .ok cert

theorem WellFormed.publiclyKeyed (form : WellFormed env snapshot) : PubliclyKeyed env snapshot := by
  refine ⟨forall_entries.mpr fun id record found => (form.certificates id record found).keyed,
    forall_entries.mpr fun domain record found => (form.federations domain record found).keyed,
    forall_entries.mpr fun id record found =>
      ⟨(form.revocations id record found).keyed, (form.revocations id record found).digest⟩,
    forall_entries.mpr fun id record found => ?_⟩
  rcases (form.revocations id record found).kind with leaf | cross
  · obtain ⟨cert, stored, _, same, _⟩ := form.revocationLeaves id record found leaf
    obtain ⟨parsed, parses, _⟩ := (form.certificates id cert stored).parsed
    exact ⟨parsed, same ▸ parses⟩
  · obtain ⟨cert, encoding, _⟩ := (form.revocations id record found).cross cross
    exact ⟨cert, encoding.parsed⟩

theorem publiclyKeyed_of_valid (valid : validateSnapshot env snapshot = .ok ()) :
    PubliclyKeyed env snapshot := by
  by_cases pristine : snapshot.revision = 0
  · simp only [validateSnapshot, bind_eq_ok, Unique.exists_iff, pristine, beq_self_eq_true,
      if_true, reject_eq_ok, Bool.not_eq_false', isPristine, Bool.and_eq_true, beq_iff_eq,
      StringMap.size, List.length_eq_zero_iff] at valid
    refine ⟨?_, ?_, ?_, ?_⟩ <;> simp [valid]
  · exact ((validateSnapshot_eq_ok pristine).mp valid).2.publiclyKeyed

theorem nodup_of_keyed {Value : Type} {records : StringMap Value}
    {read : (Σ _ : String, Value) → String}
    (keyed : ∀ entry ∈ records.entries, read entry = entry.1) :
    (records.entries.map read).Nodup := by
  have same : records.entries.map read = records.entries.keys := List.map_congr_left keyed
  rw [same]
  exact records.nodupKeys

theorem uncertainPreimage_inj {trustDomain first second : String}
    (equal : uncertainPreimage trustDomain first = uncertainPreimage trustDomain second) :
    first = second := by
  have fields := List.append_cancel_left equal
  have bytes := (List.append_inj fields (by rw [length_putUint64, length_putUint64])).2
  exact bytesOf_injective bytes

theorem uncertainPreimage_head (trustDomain serial : String) :
    (uncertainPreimage trustDomain serial).head? = some 0x67 := by
  have domain : (bytesOf uncertainRevocationDigestDomain).head? = some 0x67 := by
    decide +kernel
  rw [uncertainPreimage, List.append_assoc, List.head?_append, domain]
  rfl

/-- The identifiers of all revocations of a document are different. -/
theorem statuses_nodup (sequences : ParsesSequences env)
    (collisionFree : Set.InjOn env.sha256 (statusInputs snapshot))
    (keyed : PubliclyKeyed env snapshot) :
    ((statuses env snapshot).map PublicRevocation.statusID).Nodup := by
  have hashed : ∀ first ∈ statusInputs snapshot, ∀ second ∈ statusInputs snapshot,
      env.hexDigest first = env.hexDigest second → first = second :=
    fun first firstIn second secondIn equal =>
      collisionFree firstIn secondIn (encodeToString_injective equal)
  rw [statuses, List.map_append, List.nodup_append]
  refine ⟨?_, ?_, ?_⟩
  · have revoked := @nodup_of_keyed _ snapshot.revocations (fun entry => entry.2.certificateID)
      fun entry member => (keyed.revocations entry member).1
    simpa [StringMap.values, publicRevocation, Function.comp_def] using revoked
  · have keys : (snapshot.burnedSerials.entries.map
          (uncertainRevocation env snapshot.identity.trustDomain)).map
        PublicRevocation.statusID =
        (snapshot.burnedSerials.entries.map Sigma.fst).map
          (uncertainRevocationID env snapshot.identity.trustDomain) := by
      simp [uncertainRevocation, Function.comp_def]
    rw [keys]
    refine List.Nodup.map_on ?_ snapshot.burnedSerials.nodupKeys
    intro _ firstIn _ secondIn equal
    obtain ⟨firstEntry, firstMember, rfl⟩ := List.mem_map.mp firstIn
    obtain ⟨secondEntry, secondMember, rfl⟩ := List.mem_map.mp secondIn
    exact uncertainPreimage_inj (hashed _ (.inr ⟨firstEntry, firstMember, rfl⟩) _
      (.inr ⟨secondEntry, secondMember, rfl⟩) equal)
  · intro _ revoked _ uncertain same
    simp only [StringMap.values, List.map_map, List.mem_map, Function.comp_apply] at revoked
    simp only [List.map_map, List.mem_map, Function.comp_apply] at uncertain
    obtain ⟨entry, member, rfl⟩ := revoked
    obtain ⟨burned, burnedMember, rfl⟩ := uncertain
    have digests : env.hexDigest entry.2.certificateDER = env.hexDigest
          (uncertainPreimage snapshot.identity.trustDomain burned.1) := by
      obtain ⟨identified, digest⟩ := keyed.revocations entry member
      exact digest.trans (identified.symm.trans same)
    have inputs := hashed _ (.inl ⟨entry, member, rfl⟩) _ (.inr ⟨burned, burnedMember, rfl⟩) digests
    obtain ⟨cert, parses⟩ := keyed.parsed entry member
    have head := sequences _ cert parses
    rw [inputs, uncertainPreimage_head] at head
    exact absurd head (by decide)

end Keys

section Noninterference

variable {env : Platform} {first second : Snapshot}

theorem AgreePublicly.statuses (agree : AgreePublicly first second) :
    (statuses env first).Perm (statuses env second) := by
  refine List.Perm.append ((agree.revocations.map Sigma.snd).map _) ?_
  rw [agree.identity]
  exact agree.burnedSerials.map _

/-- Documents that agree on what is public have the same view, whatever else
they hold and in whatever order their maps are walked. -/
theorem publicStateView_of_agreePublicly (env : Platform) (first second : Snapshot)
    (sequences : ParsesSequences env)
    (collisionFree : Set.InjOn env.sha256 (statusInputs first))
    (valid : validateSnapshot env first = .ok ())
    (agree : AgreePublicly first second) :
    ∃ view, publicStateView env first = .ok view ∧ publicStateView env second = .ok view := by
  have keyed := publiclyKeyed_of_valid valid
  have distinct := statuses_nodup sequences collisionFree keyed
  have permuted : (statuses env first).Perm (statuses env second) := agree.statuses
  have distinctSecond : ((statuses env second).map PublicRevocation.statusID).Nodup :=
    ((permuted.map PublicRevocation.statusID).nodup_iff).mp distinct
  have ids : ((first.certificates.values.map publicCertificate).map
      PublicCertificate.id).Nodup := by
    have stored := @nodup_of_keyed _ first.certificates (fun entry => entry.2.id) keyed.certificates
    simpa [StringMap.values, publicCertificate, Function.comp_def] using stored
  have domains : ((first.federations.values.map publicFederation).map
      PublicFederation.targetDomain).Nodup := by
    have stored := @nodup_of_keyed _ first.federations (fun entry => entry.2.targetDomain)
      keyed.federations
    simpa [StringMap.values, publicFederation, Function.comp_def] using stored
  have statusIDs : ((statuses env first).reverse.map PublicRevocation.statusID).Nodup := by
    rw [List.map_reverse, List.nodup_reverse]
    exact distinct
  have reversed : (statuses env first).reverse.Perm (statuses env second).reverse :=
    ((List.reverse_perm _).trans permuted).trans (List.reverse_perm _).symm
  refine ⟨_, publicStateView_eq distinct, ?_⟩
  rw [publicStateView_eq distinctSecond, agree.revision, agree.identity, agree.activeCACertificate,
    insertionSort_eq_of_perm PublicCertificate.id agree.certificates ids,
    insertionSort_eq_of_perm PublicRevocation.statusID reversed statusIDs,
    insertionSort_eq_of_perm PublicFederation.targetDomain agree.federations domains]

end Noninterference

section SampleDocuments

/-- The certificate of an authority and a cross-certificate that was replaced. -/
def viewInputs : List Bytes := [[0x30, 1, 1, 7], [0x30, 1, 3, 5]]

/-- The sample libraries with certificates that start with a sequence tag. -/
def viewPlatform : Platform :=
  { samplePlatform viewInputs with
    parseCertificate := fun
      | 0x30 :: rest => (samplePlatform viewInputs).parseCertificate rest
      | _ => .error "malformed certificate" }

def viewRevocation : RevocationRecord where
  certificateID := viewPlatform.hexDigest [0x30, 1, 3, 5]
  serial := "3"
  kind := .cross
  certificateDER := [0x30, 1, 3, 5]
  revokedAt := 150

def viewRelationship : RelationshipRecord where
  id := viewPlatform.hexDigest [0x30, 1, 1, 7]
  targetPeerID := samplePeer
  principalSPIFFEID := sampleIdentity.spiffeID
  principalCertificateHash := viewPlatform.hexDigest [0x30, 1, 1, 7]
  role := .owner
  phase := .authorized
  generation := 1
  establishedAt := 150
  updatedAt := 150

/-- A document with an owner, a burned serial and a revocation. -/
def ownedSnapshot : Snapshot :=
  { emptySnapshot with
    revision := 5
    identity := sampleIdentity
    nextSerial := 10
    activeCACertificate := [0x30, 1, 1, 7]
    activeCAID := viewPlatform.hexDigest [0x30, 1, 1, 7]
    relationships := AList.singleton viewRelationship.id viewRelationship
    burnedSerials := (AList.singleton "4" 150).insert "5" 150
    revocations := AList.singleton viewRevocation.certificateID viewRevocation
    bundles := AList.singleton sampleName ⟨sampleName, 1, [[0x30, 1, 1, 7]], 150⟩ }

/-- A document without an owner, with the same public part in another order. -/
def disownedSnapshot : Snapshot :=
  { ownedSnapshot with
    nextSerial := 20
    relationships := ∅
    burnedSerials := (AList.singleton "5" 150).insert "4" 150
    bundles := ∅ }

theorem viewPlatform_parsesSequences : ParsesSequences viewPlatform := by
  intro _ _ parses
  simp only [viewPlatform] at parses
  split at parses
  · rfl
  · cases parses

theorem snapshots_agreePublicly : AgreePublicly ownedSnapshot disownedSnapshot :=
  ⟨rfl, rfl, rfl, List.Perm.swap _ _ _, List.Perm.refl _, List.Perm.refl _, List.Perm.refl _⟩

/-- Taking away the owner and walking the burned serials the other way round
leaves the view as it is. -/
theorem ownedSnapshot_view_eq_disownedSnapshot_view :
    ParsesSequences viewPlatform ∧ Set.InjOn viewPlatform.sha256 (statusInputs ownedSnapshot) ∧
      validateSnapshot viewPlatform ownedSnapshot = .ok () ∧
      AgreePublicly ownedSnapshot disownedSnapshot ∧
      ∃ view, publicStateView viewPlatform ownedSnapshot = .ok view ∧
        publicStateView viewPlatform disownedSnapshot = .ok view := by
  have collisionFree : Set.InjOn viewPlatform.sha256 (statusInputs ownedSnapshot) :=
    (tableHash_injective (by decide)).injOn
  have valid : validateSnapshot viewPlatform ownedSnapshot = .ok () := by decide +kernel
  exact ⟨viewPlatform_parsesSequences, collisionFree, valid, snapshots_agreePublicly,
    publicStateView_of_agreePublicly viewPlatform ownedSnapshot disownedSnapshot
      viewPlatform_parsesSequences collisionFree valid snapshots_agreePublicly⟩

end SampleDocuments

end Sovereignite.Trust
