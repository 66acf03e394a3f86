import Sovereignite.DigestEncoding
import Sovereignite.IpfsSnapshot
import Sovereignite.TrustCandidates

/-!
# The bytes below the digests are unambiguous

Texts of the source are byte strings, so the inputs of the digests are stated
here over bytes.  Every field carries its length, so the bytes hashed for a
publication, a relationship or an uncertain revocation determine all of them,
although the number of documents is not written.
-/

namespace Sovereignite

/-- A list is determined by the concatenation of its encodings, when none is
empty and each can be told from what follows it. -/
theorem flatMap_inj_of_cancel {α : Type} {encode : α → Bytes} {sized : α → Prop}
    (nonempty : ∀ element, encode element ≠ [])
    (cancel : ∀ first second firstRest secondRest, sized first → sized second →
      encode first ++ firstRest = encode second ++ secondRest →
        first = second ∧ firstRest = secondRest)
    {left right : List α} (leftSized : ∀ element ∈ left, sized element)
    (rightSized : ∀ element ∈ right, sized element)
    (equal : left.flatMap encode = right.flatMap encode) : left = right := by
  induction left generalizing right with
  | nil =>
    cases right with
    | nil => rfl
    | cons => simp [nonempty] at equal
  | cons _ _ ih =>
    cases right with
    | nil => simp [nonempty] at equal
    | cons =>
      simp only [List.mem_cons, forall_eq_or_imp] at leftSized rightSized
      simp only [List.flatMap_cons] at equal
      obtain ⟨same, tails⟩ := cancel _ _ _ _ leftSized.1 rightSized.1 equal
      rw [same, ih leftSized.2 rightSized.2 tails]

/-- The length of a byte string fits the eight bytes before it. -/
def Measured (value : Bytes) : Prop :=
  value.length < 2 ^ 64

def writeDigestFields (fields : List Bytes) : Bytes :=
  fields.flatMap writeDigestField

theorem writeDigestField_ne_nil (field : Bytes) : writeDigestField field ≠ [] := by
  intro empty
  have lengths := congrArg List.length empty
  simp [writeDigestField, length_putUint64] at lengths

theorem writeDigestFields_inj {first second : List Bytes}
    (firstMeasured : ∀ field ∈ first, Measured field)
    (secondMeasured : ∀ field ∈ second, Measured field)
    (equal : writeDigestFields first = writeDigestFields second) : first = second :=
  flatMap_inj_of_cancel writeDigestField_ne_nil
    (fun _ _ _ _ firstSized secondSized => writeDigestField_inj firstSized secondSized)
    firstMeasured secondMeasured equal

namespace Trust

structure RawDocument where
  path : Bytes
  mediaType : Bytes
  content : Bytes
  deriving DecidableEq

structure RawDocument.Measured (document : RawDocument) : Prop where
  path : Sovereignite.Measured document.path
  mediaType : Sovereignite.Measured document.mediaType
  content : Sovereignite.Measured document.content

def RawDocument.written (document : RawDocument) : Bytes :=
  writeDigestField document.path ++ writeDigestField document.mediaType ++
    writeDigestField document.content

structure PublicationInput where
  ipnsName : Bytes
  revision : UInt64
  documents : List RawDocument
  deriving DecidableEq

structure PublicationInput.Measured (input : PublicationInput) : Prop where
  ipnsName : Sovereignite.Measured input.ipnsName
  documents : ∀ document ∈ input.documents, document.Measured

/-- The bytes that `publicationDigest` of the trust package hashes. -/
def publicationBytes (input : PublicationInput) : Bytes :=
  bytesOf publicationDigestDomain ++ writeDigestField input.ipnsName ++
    putUint64 input.revision.toNat ++ input.documents.flatMap RawDocument.written

/-- The bytes that `relationshipID` hashes for a grant, a peer and a principal. -/
def relationshipBytes (fields : Bytes × Bytes × Bytes) : Bytes :=
  bytesOf relationshipDigestDomain ++ writeDigestFields [fields.1, fields.2.1, fields.2.2]

/-- The bytes that `uncertainRevocationID` hashes for a trust domain and a
serial. -/
def uncertainRevocationBytes (fields : Bytes × Bytes) : Bytes :=
  bytesOf uncertainRevocationDigestDomain ++ writeDigestFields [fields.1, fields.2]

def PublicDocument.rawDocument (document : PublicDocument) : RawDocument :=
  ⟨bytesOf document.path, bytesOf document.mediaType, document.content⟩

theorem publicationPreimage_eq (ipnsName : String) (revision : UInt64)
    (documents : List PublicDocument) :
    publicationPreimage ipnsName revision documents =
      publicationBytes ⟨bytesOf ipnsName, revision, documents.map PublicDocument.rawDocument⟩ := by
  simp [publicationPreimage, publicationBytes, List.flatMap_map, RawDocument.written,
    PublicDocument.rawDocument]

theorem RawDocument.written_ne_nil (document : RawDocument) : document.written ≠ [] := by
  simp [RawDocument.written, writeDigestField_ne_nil]

theorem RawDocument.written_cancel (first second : RawDocument) (firstRest secondRest : Bytes)
    (firstMeasured : first.Measured) (secondMeasured : second.Measured)
    (equal : first.written ++ firstRest = second.written ++ secondRest) :
    first = second ∧ firstRest = secondRest := by
  simp only [RawDocument.written, List.append_assoc] at equal
  obtain ⟨path, equal⟩ := writeDigestField_inj firstMeasured.path secondMeasured.path equal
  obtain ⟨mediaType, equal⟩ :=
    writeDigestField_inj firstMeasured.mediaType secondMeasured.mediaType equal
  obtain ⟨content, rest⟩ := writeDigestField_inj firstMeasured.content secondMeasured.content equal
  cases first
  cases second
  cases path
  cases mediaType
  cases content
  exact ⟨rfl, rest⟩

theorem publicationBytes_injOn : Set.InjOn publicationBytes {input | input.Measured} := by
  intro first firstMeasured second secondMeasured equal
  simp only [publicationBytes, List.append_assoc, List.append_cancel_left_eq] at equal
  obtain ⟨name, equal⟩ := writeDigestField_inj firstMeasured.ipnsName secondMeasured.ipnsName equal
  obtain ⟨counter, equal⟩ := List.append_inj equal (by simp [length_putUint64])
  have revision := UInt64.toNat_inj.mp
    (putUint64_inj first.revision.toNat_lt second.revision.toNat_lt counter)
  have documents := flatMap_inj_of_cancel RawDocument.written_ne_nil
    RawDocument.written_cancel firstMeasured.documents secondMeasured.documents equal
  cases first
  cases second
  cases name
  cases revision
  cases documents
  rfl

theorem relationshipBytes_injOn : Set.InjOn relationshipBytes
    {fields | Measured fields.1 ∧ Measured fields.2.1 ∧ Measured fields.2.2} := by
  intro _ firstMeasured _ secondMeasured equal
  have fields := writeDigestFields_inj (by simpa using firstMeasured)
    (by simpa using secondMeasured) (List.append_cancel_left equal)
  simpa [Prod.ext_iff] using fields

theorem uncertainRevocationBytes_injOn : Set.InjOn uncertainRevocationBytes
    {fields | Measured fields.1 ∧ Measured fields.2} := by
  intro _ firstMeasured _ secondMeasured equal
  have fields := writeDigestFields_inj (by simpa using firstMeasured)
    (by simpa using secondMeasured) (List.append_cancel_left equal)
  simpa [Prod.ext_iff] using fields

end Trust

namespace Ipfs

open Trust

/-- The bytes that `publicationDigest` of the publisher hashes for its files. -/
def publicationBytes (ipnsName : Bytes) (revision : UInt64) (files : List RawDocument) : Bytes :=
  bytesOf publicationDigestDomain ++ writeDigestField ipnsName ++ putUint64 revision.toNat ++
    files.flatMap fun file =>
      writeDigestField file.path ++ writeDigestField file.mediaType ++ writeDigestField file.content

end Ipfs

namespace Trust

/-- The digests are hashes of these bytes, and the bytes determine the fields. -/
theorem digest_preimages_unambiguous (env : Platform) :
    (∀ ipnsName revision documents,
      publicationDigest env ipnsName revision documents =
        env.hexDigest (publicationBytes ⟨bytesOf ipnsName, revision,
          documents.map PublicDocument.rawDocument⟩)) ∧
    Set.InjOn publicationBytes {input | input.Measured} ∧
    (∀ ipnsName revision (documents : List PublicDocument),
      Ipfs.publicationDigest env ipnsName revision
          (documents.map fun document => ⟨document.path, document.mediaType, document.content⟩) =
        env.hexDigest (Ipfs.publicationBytes (bytesOf ipnsName) revision
          (documents.map PublicDocument.rawDocument))) ∧
    (∀ input, Ipfs.publicationBytes input.ipnsName input.revision input.documents =
      publicationBytes input) ∧
    (∀ grantID peerID principalSPIFFEID,
      relationshipID env grantID peerID principalSPIFFEID = env.hexDigest
        (relationshipBytes (bytesOf grantID, bytesOf peerID, bytesOf principalSPIFFEID))) ∧
    Set.InjOn relationshipBytes
      {fields | Measured fields.1 ∧ Measured fields.2.1 ∧ Measured fields.2.2} ∧
    (∀ trustDomain serial, uncertainRevocationID env trustDomain serial =
      env.hexDigest (uncertainRevocationBytes (bytesOf trustDomain, bytesOf serial))) ∧
    Set.InjOn uncertainRevocationBytes {fields | Measured fields.1 ∧ Measured fields.2} := by
  refine ⟨?_, publicationBytes_injOn, ?_, fun _ => rfl, ?_, relationshipBytes_injOn,
    ?_, uncertainRevocationBytes_injOn⟩
  · intro ipnsName revision documents
    rw [publicationDigest, publicationPreimage_eq]
  · intro _ _ _
    simp [Ipfs.publicationDigest, Ipfs.publicationBytes, List.flatMap_map,
      PublicDocument.rawDocument]
  · intro _ _ _
    simp [relationshipID, relationshipPreimage, relationshipBytes, writeDigestFields]
  · intro _ _
    simp [uncertainRevocationID, uncertainRevocationBytes, writeDigestFields]

end Trust

end Sovereignite
