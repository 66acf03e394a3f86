import Sovereignite.IpfsExecution
import Sovereignite.TrustClosure

/-!
# Publications cross the package boundary

The trust package makes publications and the publisher checks them with its own
list of paths, limits and digest.  The publisher's list refuses dot segments;
no path that the trust package accepts has one, since certificate digests,
compact times and peer identifiers have no dots.
-/

namespace Sovereignite.Ipfs

open Effect Trust

variable {path mediaType : String}

section Paths

theorem mem_of_isSublist {α : Type} [BEq α] [LawfulBEq α] {pattern text : List α}
    (occurs : isSublist pattern text = true) {element : α} (member : element ∈ pattern) :
    element ∈ text := by
  induction text with
  | nil =>
    cases pattern with
    | nil => exact member
    | cons => cases occurs
  | cons _ _ ih =>
    simp only [isSublist, Bool.or_eq_true, List.isPrefixOf_iff_prefix] at occurs
    rcases occurs with here | later
    · exact here.subset member
    · exact List.mem_cons_of_mem _ (ih later)

theorem containsText_of_dotless {text pattern : String} (dotless : '.' ∉ text.toList)
    (dotted : '.' ∈ pattern.toList) : containsText text pattern = false := by
  rw [← Bool.not_eq_true]
  intro occurs
  exact dotless (mem_of_isSublist occurs dotted)

theorem toList_of_hasPrefix {text start : String} (starts : hasPrefix text start = true) :
    text.toList = start.toList ++ (trimPrefix text start).toList := by
  obtain ⟨_, split⟩ := List.isPrefixOf_iff_prefix.mp starts
  simp [trimPrefix, starts, ← split, ← String.length_toList]

theorem dotless_of_certificateIDPattern {text : String}
    (pattern : certificateIDPattern text = true) : '.' ∉ text.toList := by
  intro member
  simp only [certificateIDPattern, matchesClass, Bool.and_eq_true, List.all_eq_true] at pattern
  have digit := pattern.2 '.' member
  revert digit
  decide

theorem dotless_of_compactTimePattern {text : String} (pattern : compactTimePattern text = true) :
    '.' ∉ text.toList := by
  unfold compactTimePattern at pattern
  split at pattern
  · next characters =>
      rw [List.all_eq_true] at pattern
      rw [characters]
      intro member
      have digit : ('.').isDigit = true := by
        apply pattern
        simpa using member
      revert digit
      decide
  · cases pattern

/-- The text of a canonical peer identifier has no dot. -/
def DotlessPeers (env : Platform) : Prop :=
  ∀ text, env.decodePeer text = .ok text → '.' ∉ text.toList

variable {env : Platform}

theorem dotless_of_hasPrefix {path start : String} (starts : hasPrefix path start = true)
    (fixed : '.' ∉ start.toList) (rest : '.' ∉ (trimPrefix path start).toList) :
    '.' ∉ path.toList := by
  rw [toList_of_hasPrefix starts]
  simp [fixed, rest]

theorem undotted_of_public (dotless : DotlessPeers env)
    (accepted : validatePublicPath env path = .ok mediaType) :
    containsText path "/./" = false ∧ containsText path "/../" = false := by
  have ofDotless : '.' ∉ path.toList →
      containsText path "/./" = false ∧ containsText path "/../" = false :=
    fun absent => ⟨containsText_of_dotless absent (by decide),
      containsText_of_dotless absent (by decide)⟩
  simp only [validatePublicPath, bind_eq_ok, reject_eq_ok, exists_const] at accepted
  obtain ⟨_, accepted⟩ := accepted
  split at accepted
  · next fixed =>
      simp only [List.contains_eq_mem, List.mem_cons, List.not_mem_nil, or_false,
        decide_eq_true_eq] at fixed
      rcases fixed with rfl | rfl | rfl | rfl | rfl <;> decide
  split_ifs at accepted with ocsp crl device <;>
    simp only [Trust.failure, reduceCtorEq, bind_eq_ok, reject_eq_ok, exists_const,
      Bool.not_eq_false', Bool.or_eq_false_iff, bne_eq_false_iff_eq] at accepted
  · exact ofDotless
      (dotless_of_hasPrefix ocsp (by decide) (dotless_of_certificateIDPattern accepted.1))
  · exact ofDotless
      (dotless_of_hasPrefix crl (by decide) (dotless_of_compactTimePattern accepted.1))
  · obtain ⟨⟨canonical, same⟩, _⟩ := accepted
    apply ofDotless
    rw [← same]
    have peer := dotless _ canonical
    simp only [String.toList_append, List.mem_append, not_or]
    exact ⟨⟨by decide, peer⟩, by decide⟩

/-- The publisher's constants and patterns are those of the trust package. -/
theorem constants_agree :
    pathSPIFFEBundle = Trust.pathSPIFFEBundle ∧
      pathOpenIDConfiguration = Trust.pathOpenIDConfiguration ∧
      pathDeviceDocument = Trust.pathDeviceDocument ∧
      pathFederationDocument = Trust.pathFederationDocument ∧
      pathUpdateManifest = Trust.pathUpdateManifest ∧ mediaTypeJSON = Trust.mediaTypeJSON ∧
      mediaTypeOCSP = Trust.mediaTypeOCSP ∧ mediaTypeCRL = Trust.mediaTypeCRL ∧
      maximumPublicDocumentSize = maximumPublicDocumentBytes ∧
      maximumSnapshotSize = maximumPublicationBytes ∧
      maximumSnapshotDocuments = maximumPublicationDocs ∧
      certificateIDPattern = Trust.certificateIDPattern ∧
      compactTimePattern = Trust.compactTimePattern ∧
      containsPrivateKeyPEM = containsPrivatePEM := by
  and_intros <;> rfl

theorem validateAllowedPath_of_public (dotless : DotlessPeers env)
    (accepted : validatePublicPath env path = .ok mediaType) :
    validateAllowedPath env path = .ok mediaType := by
  obtain ⟨noDot, noDots⟩ := undotted_of_public dotless accepted
  simp only [validatePublicPath, validateAllowedPath, bind_eq_ok, reject_eq_ok, exists_const,
    noDot, noDots, Bool.or_false, constants_agree] at accepted ⊢
  refine accepted.imp id fun accepted => ?_
  split_ifs at accepted ⊢ <;>
    simp only [Trust.failure, reduceCtorEq, bind_eq_ok, reject_eq_ok, exists_const, pure,
      Except.pure] at accepted ⊢ <;>
    grind

end Paths

section Digests

theorem hexDigit_hexValue {character : Char}
    (lower : (character.isDigit || ('a' ≤ character && character ≤ 'f')) = true) :
    character.utf8Size = 1 ∧
      ∃ value < 16, hexValue character = some value ∧ hexDigit value = character := by
  have within : character.toNat ∈ Finset.Icc 48 57 ∪ Finset.Icc 97 102 := by
    simp only [Char.isDigit, Bool.or_eq_true, Bool.and_eq_true, decide_eq_true_eq, ge_iff_le,
      Char.le_def, UInt32.le_iff_toNat_le] at lower
    simpa using lower
  rw [← Char.ofNat_toNat character]
  generalize character.toNat = code at within
  revert code
  decide

variable {digits : List Char} (lower : ∀ character ∈ digits,
  (character.isDigit || ('a' ≤ character && character ≤ 'f')) = true)

include lower

theorem utf8Len_lower : String.utf8Len digits = digits.length := by
  induction digits with
  | nil => rfl
  | cons _ _ ih =>
    rw [List.forall_mem_cons] at lower
    rw [String.utf8Len_cons, ih lower.2, (hexDigit_hexValue lower.1).1, List.length_cons]

theorem decodeDigits_lower {count : Nat} (size : digits.length = 2 * count) :
    ∃ decoded, decodeDigits digits = some decoded ∧ hexDigits decoded = digits := by
  induction count generalizing digits with
  | zero =>
    rw [List.length_eq_zero_iff.mp size]
    exact ⟨[], rfl, rfl⟩
  | succ _ ih =>
    obtain _ | ⟨high, _ | ⟨low, _⟩⟩ := digits
    · cases size
    · cases size
    simp only [List.forall_mem_cons] at lower
    obtain ⟨_, first, _, firstValue, firstDigit⟩ := hexDigit_hexValue lower.1
    obtain ⟨_, second, _, secondValue, secondDigit⟩ := hexDigit_hexValue lower.2.1
    obtain ⟨decoded, decodes, digits⟩ := ih lower.2.2 (by simpa [Nat.mul_add] using size)
    refine ⟨UInt8.ofNat (first * 16 + second) :: decoded, ?_, ?_⟩
    · simp [decodeDigits, firstValue, secondValue, decodes]
    · have small : (UInt8.ofNat (first * 16 + second)).toNat = first * 16 + second :=
        Nat.mod_eq_of_lt (by omega)
      have high : (first * 16 + second) / 16 = first := by omega
      have low : (first * 16 + second) % 16 = second := by omega
      rw [hexDigits, small, high, low, firstDigit, secondDigit, digits]

omit lower

/-- A text is the digest of itself decoded exactly if it has the pattern. -/
theorem isLowerHexDigest_eq (value : String) :
    isLowerHexDigest value = certificateIDPattern value := by
  rw [Bool.eq_iff_iff]
  simp only [isLowerHexDigest, certificateIDPattern, matchesClass, Bool.and_eq_true, beq_iff_eq,
    Option.any_eq_true, decide_eq_true_eq, List.all_eq_true, byteLength, ← String.utf8Len_toList,
    ← String.length_toList]
  constructor
  · rintro ⟨size, decoded, _, rfl⟩
    have text : (encodeToString decoded).toList = hexDigits decoded := String.toList_ofList
    have lower := (hexDigits_spec decoded).2
    rw [text] at size ⊢
    rw [utf8Len_lower lower] at size
    exact ⟨by omega, lower⟩
  · rintro ⟨⟨_, _⟩, lower⟩
    have size : value.toList.length = 2 * 32 := by omega
    obtain ⟨decoded, decodes, digits⟩ := decodeDigits_lower lower size
    refine ⟨(utf8Len_lower lower).trans size, decoded, decodes, ?_⟩
    rw [encodeToString, digits, String.ofList_toList]

end Digests

variable {documents : List PublicDocument}

section Documents

variable {env : Platform}

def fileOf (document : PublicDocument) : PublicFile :=
  ⟨document.path, document.mediaType, document.content⟩

theorem publicationDigest_eq (ipnsName : String) (revision : UInt64) :
    publicationDigest env ipnsName revision (documents.map fileOf) =
      Trust.publicationDigest env ipnsName revision documents := by
  rw [publicationDigest, List.flatMap_map]
  rfl

theorem newPublicDocument_spec {content : Bytes} {document : PublicDocument}
    (made : newPublicDocument env path mediaType content = .ok document) :
    validatePublicPath env path = .ok mediaType ∧
      (content.isEmpty || decide (maximumPublicDocumentBytes < content.length)) = false ∧
      document = ⟨path, mediaType, content⟩ := by
  simp only [newPublicDocument, bind_eq_ok, reject_eq_ok, exists_const, bne_eq_false_iff_eq] at made
  obtain ⟨_, allowed, rfl, sized, _, made⟩ := made
  refine ⟨allowed, sized, ?_⟩
  split at made
  · obtain ⟨_, _, made⟩ := bind_eq_ok.mp made
    exact (Except.ok.inj made).symm
  · exact (Except.ok.inj made).symm

/-- The two passes over the documents go together: what the trust package
accepts in the order of the paths the publisher accepts too. -/
theorem foldEach_checkFile (dotless : DotlessPeers env) {state final : Nat × Option String}
    (tally : FileTally) (ordered : documents.Pairwise fun left right => left.path ≤ right.path)
    (after : ∀ previous, state.2 = some previous →
      previous = tally.previousPath ∧ ∀ document ∈ documents, previous ≤ document.path)
    (first : state.2 = none → tally.previousPath = "") (size : tally.total = state.1)
    (checked : foldEach (Trust.checkDocument env) state documents = .ok final) :
    (∃ finalTally, foldEach (checkFile env) tally documents = .ok finalTally ∧
        finalTally.files = (documents.map fileOf).reverse ++ tally.files) ∧
      documents.Pairwise (fun left right => left.path < right.path) ∧
      ∀ previous, state.2 = some previous → ∀ document ∈ documents, previous < document.path := by
  induction documents generalizing state tally with
  | nil => exact ⟨⟨tally, rfl, rfl⟩, .nil, fun _ _ _ member => nomatch member⟩
  | cons document rest ih =>
    simp only [foldEach, Trust.checkDocument, bind_eq_ok, reject_eq_ok, exists_const] at checked
    obtain ⟨_, ⟨rebuilt, made, total, unlike, ⟨⟩⟩, checked⟩ := checked
    obtain ⟨allowed, sized, same⟩ := newPublicDocument_spec made
    obtain ⟨before, later⟩ := List.pairwise_cons.mp ordered
    have above : ∀ previous, state.2 = some previous → previous < document.path := by
      intro previous found
      apply lt_of_le_of_ne ((after previous found).2 document List.mem_cons_self)
      rintro rfl
      simp [found] at unlike
    have advances : (tally.previousPath != "" &&
        decide (document.path ≤ tally.previousPath)) = false := by
      cases found : state.2 with
      | none => simp [first found]
      | some previous =>
        rw [← (after previous found).1]
        simp [not_le.mpr (above previous found)]
    let grown : FileTally := {
      total := tally.total + document.content.length
      previousPath := document.path
      files := fileOf document :: tally.files }
    have accepted : checkFile env tally document = .ok grown := by
      simp only [checkFile, bind_eq_ok, reject_eq_ok, mapError_eq_ok, exists_const]
      exact ⟨_, validateAllowedPath_of_public dotless allowed, by simp, sized, rebuilt, made,
        advances, by rw [size]; exact total, by rw [same]; rfl⟩
    have following : ∀ previous, some document.path = some previous →
        previous = grown.previousPath ∧ ∀ other ∈ rest, previous ≤ other.path := by
      rintro _ ⟨⟩
      exact ⟨rfl, before⟩
    have grownSize : grown.total = state.1 + document.content.length := by
      rw [← size]
    obtain ⟨⟨finalTally, folded, files⟩, increasing, beyond⟩ :=
      ih grown later following (by rintro ⟨⟩) grownSize checked
    refine ⟨⟨finalTally, bind_eq_ok.mpr ⟨_, accepted, folded⟩, ?_⟩, ?_, ?_⟩
    · rw [files]
      simp [grown]
    · exact List.pairwise_cons.mpr ⟨beyond document.path rfl, increasing⟩
    · intro previous found other member
      rcases List.mem_cons.mp member with rfl | inRest
      · exact above previous found
      · exact lt_trans (above previous found) (beyond document.path rfl other inRest)

end Documents

section Boundary

variable {env : Platform}

/-- A snapshot that carries a list of documents: its files are the documents in
the order of their paths, under the digest of the publication. -/
structure Carries (documents : List PublicDocument) (publication : Publication)
    (snapshot : PublicSnapshot) : Prop where
  files : snapshot.files.Perm (documents.map fileOf)
  sorted : snapshot.files.Pairwise fun left right => left.path < right.path
  publicationID : snapshot.publicationID = publication.id
  digest : snapshot.digest = publication.digest

/-- The snapshot of a publication, whatever the checks say of it. -/
def snapshotOf (publication : Publication) : PublicSnapshot where
  publicationID := publication.id
  digest := publication.digest
  ipnsName := publication.ipnsName
  stateRevision := publication.stateRevision
  createdAt := publication.createdAt
  files := publication.documents.map fileOf

def CanonicalName (env : Platform) (identity : DeviceIdentity) : Prop :=
  ∃ trustDomain, trustDomainFromIPNS env identity.canonicalIPNS = .ok trustDomain

theorem validateCanonicalIPNSName_of_canonical {name trustDomain : String}
    (parsed : trustDomainFromIPNS env name = .ok trustDomain) :
    name ≠ "" ∧ validateCanonicalIPNSName env name = .ok () := by
  simp only [trustDomainFromIPNS, parseCanonicalIPNS, validateCanonicalIPNSName, bind_eq_ok,
    reject_eq_ok, annotated, mapError_eq_ok, exists_const] at parsed ⊢
  grind

/-- What the check of the trust package asks of a publication. -/
theorem validate_eq_ok {publication : Publication} :
    publication.validate env = .ok () ↔
      (publication.stateRevision ≠ 0 ∧ publication.createdAt ≠ 0) ∧
      (∃ trustDomain, trustDomainFromIPNS env publication.ipnsName = .ok trustDomain) ∧
      Publishable env publication.documents ∧
      publication.id = Trust.publicationDigest env publication.ipnsName
        publication.stateRevision (sortedDocuments publication.documents) ∧
      publication.digest = Trust.publicationDigest env publication.ipnsName
        publication.stateRevision (sortedDocuments publication.documents) := by
  have length : (sortedDocuments publication.documents).length = publication.documents.length :=
    List.length_insertionSort _ _
  have empty : sortedDocuments publication.documents = [] ↔ publication.documents = [] := by
    rw [← List.length_eq_zero_iff, length, List.length_eq_zero_iff]
  unfold Publication.validate
  simp only [bind_eq_ok, reject_eq_ok, beq_eq_false_iff_ne, Bool.or_eq_false_iff,
    decide_eq_false_iff_not, Nat.not_lt, List.isEmpty_eq_false_iff, exists_const,
    bne_eq_false_iff_eq, mapError_eq_ok, length, ne_eq, empty]
  grind [Publishable]

theorem validate_publicationOf {identity : DeviceIdentity} {revision : UInt64} {now : Time}
    (positive : revision ≠ 0) (timed : now ≠ 0) (publishable : Publishable env documents) :
    (publicationOf env identity revision documents now).validate env = .ok () ↔
      CanonicalName env identity := by
  rw [validate_eq_ok]
  constructor
  · intro valid
    exact valid.2.1
  · intro canonical
    exact ⟨⟨positive, timed⟩, canonical, publishable.sorted,
      by simp [publicationOf, sortedDocuments_idem]⟩

/-- Documents that the trust package accepts pass the publisher in the order of
their paths. -/
theorem newPublicSnapshot_of_sorted (dotless : DotlessPeers env)
    (sized : ∀ input, (env.sha256 input).length = 32) {publication : Publication}
    (valid : publication.validate env = .ok ())
    (ordered : publication.documents.Pairwise fun left right => left.path ≤ right.path) :
    newPublicSnapshot env publication publication.ipnsName = .ok (snapshotOf publication) ∧
      publication.documents.Pairwise fun left right => left.path < right.path := by
  obtain ⟨⟨positive, timed⟩, ⟨_, canonical⟩, publishable, id, digest⟩ :=
    validate_eq_ok.mp valid
  have sorted : sortedDocuments publication.documents = publication.documents :=
    ordered.insertionSort_eq
  obtain ⟨_, checked⟩ := publishable.checked
  rw [sorted] at id digest checked
  obtain ⟨named, canonicalName⟩ := validateCanonicalIPNSName_of_canonical canonical
  obtain ⟨⟨tally, folded, files⟩, increasing, _⟩ :=
    foldEach_checkFile dotless {} ordered (by rintro _ ⟨⟩) (fun _ => rfl) rfl checked
  have counted : (publication.documents.isEmpty ||
      decide (maximumSnapshotDocuments < publication.documents.length)) = false := by
    simpa [publishable.nonempty, constants_agree] using publishable.count
  have inOrder : tally.files.reverse = publication.documents.map fileOf := by
    rw [files]
    simp
  have hashed : isLowerHexDigest publication.id = true := by
    rw [id, isLowerHexDigest_eq]
    exact matchesClass_encodeToString (sized _)
  refine ⟨?_, increasing⟩
  simp only [newPublicSnapshot, bind_eq_ok, reject_eq_ok, mapError_eq_ok, Unique.exists_iff,
    PUnit.default_eq_unit]
  refine ⟨valid, by simpa using named, canonicalName, by simp, by simpa using positive,
    by simpa using timed, counted, tally, folded, ?_, by simp [hashed], ?_⟩
  · rw [inOrder, publicationDigest_eq, id, digest]
    simp
  · rw [inOrder]
    rfl

theorem newPublicSnapshot_publicationOf (dotless : DotlessPeers env)
    (sized : ∀ input, (env.sha256 input).length = 32) {identity : DeviceIdentity}
    {revision : UInt64} {now : Time} (positive : revision ≠ 0) (timed : now ≠ 0)
    (publishable : Publishable env documents) (canonical : CanonicalName env identity) :
    let publication := publicationOf env identity revision documents now
    newPublicSnapshot env publication identity.canonicalIPNS = .ok (snapshotOf publication) ∧
      Carries documents publication (snapshotOf publication) := by
  have valid := (validate_publicationOf positive timed publishable).mpr canonical
  obtain ⟨made, increasing⟩ :=
    newPublicSnapshot_of_sorted dotless sized valid (sortedDocuments_pairwise documents)
  exact ⟨made, (List.perm_insertionSort _ documents).map fileOf,
    List.pairwise_map.mpr increasing, rfl, rfl⟩

/-- Every publication that the trust package makes passes its own check and the
publisher's, and the snapshot carries the given documents, exactly when the name
of the identity is canonical. -/
theorem publication_crosses_iff (dotless : DotlessPeers env)
    (sized : ∀ input, (env.sha256 input).length = 32)
    {identity : DeviceIdentity} {revision : UInt64} {documents : List PublicDocument}
    {now : Time} {publication : Publication}
    (made : newPublication env identity revision documents now = .ok publication) :
    (publication.validate env = .ok () ∧
      ∃ snapshot, newPublicSnapshot env publication identity.canonicalIPNS = .ok snapshot ∧
        Carries documents publication snapshot) ↔ CanonicalName env identity := by
  obtain ⟨positive, timed, publishable, rfl⟩ := newPublication_eq_ok.mp made
  have valid : Publication.validate env _ = .ok () ↔ CanonicalName env identity :=
    validate_publicationOf positive timed publishable
  constructor
  · intro crossed
    exact valid.mp crossed.1
  · intro canonical
    exact ⟨valid.mpr canonical, _,
      newPublicSnapshot_publicationOf dotless sized positive timed publishable canonical⟩

/-- Libraries with a hash of 32 bytes and peers without dots. -/
def plainPlatform : Platform :=
  { samplePlatform [] with
    sha256 := fun _ => List.replicate 32 0
    decodePeer := fun text =>
      if '.' ∈ text.toList then .error "invalid peer" else .ok text }

theorem plainPlatform_dotless : DotlessPeers plainPlatform := by
  intro _ decoded member
  simp [plainPlatform, member] at decoded

/-- Two revocation lists of the sample device, in the order of their paths. -/
def orderedDocuments : List PublicDocument :=
  ["/crl/20260101T000000Z", "/crl/20260102T000000Z"].map fun path =>
    ⟨path, mediaTypeCRL, [1]⟩

/-- The lists are given in the other order. -/
theorem sample_publication_crosses : ∃ publication,
    newPublication plainPlatform sampleIdentity 1 orderedDocuments.reverse 150 = .ok publication ∧
      publication.validate plainPlatform = .ok () ∧
      ∃ snapshot, newPublicSnapshot plainPlatform publication sampleIdentity.canonicalIPNS =
          .ok snapshot ∧ Carries orderedDocuments.reverse publication snapshot := by
  have accepted : (newPublication plainPlatform sampleIdentity 1 orderedDocuments.reverse
      150).isOk = true := by decide +kernel
  have named : (trustDomainFromIPNS plainPlatform sampleIdentity.canonicalIPNS).isOk = true := by
    decide +kernel
  obtain ⟨publication, made⟩ := isOk_eq_true.mp accepted
  exact ⟨publication, made, (publication_crosses_iff plainPlatform_dotless
    (fun _ => List.length_replicate) made).mpr (isOk_eq_true.mp named)⟩

/-- An identity without a name gets a publication that no check accepts. -/
theorem nameless_publication_refused : ∃ env identity publication,
    DotlessPeers env ∧ (∀ input, (env.sha256 input).length = 32) ∧
      newPublication env identity 1 sampleDocuments 150 = .ok publication ∧
      publication.validate env ≠ .ok () ∧
      ∀ snapshot, newPublicSnapshot env publication identity.canonicalIPNS ≠
        .ok snapshot := by
  have computed : (match newPublication plainPlatform {} 1 sampleDocuments 150 with
      | .error _ => false
      | .ok publication => !(publication.validate plainPlatform).isOk &&
          !(newPublicSnapshot plainPlatform publication "").isOk) = true := by
    decide +kernel
  split at computed
  · cases computed
  · next publication made =>
      rw [Bool.and_eq_true, Bool.not_eq_true', Bool.not_eq_true'] at computed
      obtain ⟨_, invalid⟩ := isOk_eq_false.mp computed.1
      obtain ⟨_, refused⟩ := isOk_eq_false.mp computed.2
      refine ⟨plainPlatform, {}, publication, plainPlatform_dotless,
        fun _ => List.length_replicate, made, ?_, ?_⟩
      · rw [invalid]
        nofun
      · intro snapshot
        rw [refused]
        nofun

/-- The two validators agree on a publication: both accept or neither does, and
an accepted one keeps its documents in its own strictly increasing order. -/
structure Agree (env : Platform) (publication : Publication) : Prop where
  accepts : publication.validate env = .ok () ↔
    ∃ snapshot, newPublicSnapshot env publication publication.ipnsName = .ok snapshot
  files : ∀ snapshot,
    newPublicSnapshot env publication publication.ipnsName = .ok snapshot →
      snapshot.files = publication.documents.map fileOf ∧
        publication.documents.Pairwise fun left right => left.path < right.path

/-- The check of the trust package sorts the documents first and the publisher
does not, so they agree exactly where an accepted publication is in order. -/
theorem validators_agree_iff (dotless : DotlessPeers env)
    (sized : ∀ input, (env.sha256 input).length = 32) (publication : Publication) :
    Agree env publication ↔ (publication.validate env = .ok () →
      publication.documents.Pairwise fun left right => left.path ≤ right.path) := by
  constructor
  · intro agree valid
    obtain ⟨snapshot, made⟩ := agree.accepts.mp valid
    exact (agree.files snapshot made).2.imp le_of_lt
  · intro ordered
    have accepted : ∀ snapshot,
        newPublicSnapshot env publication publication.ipnsName = .ok snapshot →
          publication.validate env = .ok () := by
      intro snapshot made
      obtain ⟨_, valid, _⟩ := bind_eq_ok.mp made
      exact mapError_eq_ok.mp valid
    have snapshotted := fun valid : publication.validate env = .ok () =>
      newPublicSnapshot_of_sorted dotless sized valid (ordered valid)
    refine ⟨⟨fun valid => ⟨_, (snapshotted valid).1⟩, ?_⟩, ?_⟩
    · rintro ⟨snapshot, made⟩
      exact accepted snapshot made
    · intro snapshot made
      obtain ⟨expected, increasing⟩ := snapshotted (accepted snapshot made)
      rw [expected] at made
      cases made
      exact ⟨rfl, increasing⟩

def listPublication (documents : List PublicDocument) : Publication :=
  { publicationOf plainPlatform sampleIdentity 1 orderedDocuments 150 with documents }

theorem ordered_validators_agree : Agree plainPlatform (listPublication orderedDocuments) :=
  (validators_agree_iff plainPlatform_dotless (fun _ => List.length_replicate) _).mpr
    fun _ => by decide

/-- In the other order one check accepts them and the other does not. -/
theorem reversed_validators_disagree : ∃ env publication, DotlessPeers env ∧
    (∀ input, (env.sha256 input).length = 32) ∧
    publication.validate env = .ok () ∧ ¬ Agree env publication := by
  have accepted : ((listPublication orderedDocuments.reverse).validate plainPlatform).isOk =
      true := by decide +kernel
  obtain ⟨_, valid⟩ := isOk_eq_true.mp accepted
  refine ⟨plainPlatform, _, plainPlatform_dotless, fun _ => List.length_replicate, valid, ?_⟩
  intro agree
  obtain ⟨snapshot, made⟩ := agree.accepts.mp valid
  have ordered := (agree.files snapshot made).2
  revert ordered
  decide

end Boundary

end Sovereignite.Ipfs
