import Sovereignite.DigestPreimages
import Sovereignite.IpfsExecution

/-!
# The bytes of a signed record determine the record

The signature of a record covers a payload in which every text carries its
length and every number has eight bytes.  The payload therefore determines the
fields, and the envelope determines the signature as well.
-/

namespace Sovereignite.Ipfs

open Effect

def recordEnvelopeDomain : String :=
  "github.com/sovereignite/sovereignite/ipns-envelope/v1\x00"

def SignedRecord.marshalBinary (env : Platform) (record : SignedRecord) :
    Except Error Bytes := do
  let unsigned ← record.unsignedPayload env
  reject record.signature.isEmpty (.message "signed record signature is required")
  return bytesOf recordEnvelopeDomain ++ unsigned ++ writeDigestField record.signature

/-- The seconds of a time fit the signed 64-bit number that the source keeps. -/
def HeldTime (time : Time) : Prop :=
  -2 ^ 63 ≤ time / second ∧ time / second < 2 ^ 63

/-- A record that the types of the source can hold. -/
structure SignedRecord.Held (record : SignedRecord) : Prop where
  name : Measured (bytesOf record.name)
  value : Measured (bytesOf record.value)
  signature : Measured record.signature
  issuedAt : HeldTime record.issuedAt
  validUntil : HeldTime record.validUntil

variable {env : Platform} {left right record : SignedRecord}

theorem appendInt64_inj {left right : Int} {leftRest rightRest : Bytes}
    (equal : appendInt64 [] left ++ leftRest = appendInt64 [] right ++ rightRest) :
    left % 2 ^ 64 = right % 2 ^ 64 ∧ leftRest = rightRest := by
  obtain ⟨heads, rests⟩ := List.append_inj equal (by simp [appendInt64, length_putUint64])
  refine ⟨?_, rests⟩
  have below : ∀ value : Int, (value % 2 ^ 64).toNat < 2 ^ 64 := by
    intro value
    omega
  have same := putUint64_inj (below left) (below right) heads
  omega

theorem HeldTime.ext {left right : Time} (leftHeld : HeldTime left) (rightHeld : HeldTime right)
    (leftWhole : left % second = 0) (rightWhole : right % second = 0)
    (equal : unixSeconds left % 2 ^ 64 = unixSeconds right % 2 ^ 64) : left = right := by
  unfold HeldTime unixSeconds Time second at *
  omega

/-- What the checks before the payload say of the numbers, and the payload. -/
theorem unsignedPayload_parts {payload : Bytes}
    (formed : record.unsignedPayload env = .ok payload) :
    record.format = signedRecordBoundaryV1 ∧ record.issuedAt % second = 0 ∧
      record.validUntil % second = 0 ∧ 0 < record.ttl ∧ record.ttl < 2 ^ 63 ∧
      payload = bytesOf recordSignatureDomain ++ (writeDigestField (bytesOf record.format) ++
        (writeDigestField (bytesOf record.name) ++ (writeDigestField (bytesOf record.value) ++
        (putUint64 record.sequence.toNat ++ (appendInt64 [] (unixSeconds record.issuedAt) ++
        (appendInt64 [] (unixSeconds record.validUntil) ++ appendInt64 [] record.ttl)))))) := by
  simp only [SignedRecord.unsignedPayload, canonicalWholeSecond, bind_eq_ok, reject_eq_ok,
    Bool.or_eq_false_iff, Bool.not_eq_false', Bool.and_eq_true, beq_iff_eq, bne_eq_false_iff_eq,
    decide_eq_false_iff_not] at formed
  obtain ⟨_, format, _, _, _, _, _, _, _, ⟨⟨_, issued⟩, _, expires⟩, _, _, _,
    ⟨⟨_, below⟩, _⟩, built⟩ := formed
  cases built
  simp only [timeSub] at below
  unfold Time Duration at *
  exact ⟨format, issued, expires, by omega, by omega, by simp [appendInt64]⟩

/-- A payload can be told from what follows it. -/
theorem unsignedPayload_cancel {leftPayload rightPayload leftRest rightRest : Bytes}
    (leftHeld : left.Held) (rightHeld : right.Held)
    (leftFormed : left.unsignedPayload env = .ok leftPayload)
    (rightFormed : right.unsignedPayload env = .ok rightPayload)
    (equal : leftPayload ++ leftRest = rightPayload ++ rightRest) :
    { left with signature := [] } = { right with signature := [] } ∧ leftRest = rightRest := by
  obtain ⟨leftFormat, leftIssued, leftExpires, _, _, rfl⟩ :=
    unsignedPayload_parts leftFormed
  obtain ⟨rightFormat, rightIssued, rightExpires, _, _, rfl⟩ :=
    unsignedPayload_parts rightFormed
  simp only [leftFormat, rightFormat, List.append_assoc, List.append_cancel_left_eq] at equal
  obtain ⟨name, equal⟩ := writeDigestField_inj leftHeld.name rightHeld.name equal
  obtain ⟨value, equal⟩ := writeDigestField_inj leftHeld.value rightHeld.value equal
  obtain ⟨counter, equal⟩ := List.append_inj equal (by simp [length_putUint64])
  obtain ⟨issued, equal⟩ := appendInt64_inj equal
  obtain ⟨expires, equal⟩ := appendInt64_inj equal
  obtain ⟨_, rests⟩ := appendInt64_inj equal
  refine ⟨?_, rests⟩
  rw [SignedRecord.mk.injEq]
  refine ⟨leftFormat.trans rightFormat.symm, bytesOf_injective name, bytesOf_injective value,
    ?_, ?_, ?_, ?_, rfl⟩
  · exact UInt64.toNat_inj.mp (putUint64_inj left.sequence.toNat_lt right.sequence.toNat_lt counter)
  · exact leftHeld.issuedAt.ext rightHeld.issuedAt leftIssued rightIssued issued
  · exact leftHeld.validUntil.ext rightHeld.validUntil leftExpires rightExpires expires
  · unfold Duration at *
    omega

theorem unsignedPayload_inj {payload : Bytes} (leftHeld : left.Held) (rightHeld : right.Held)
    (leftFormed : left.unsignedPayload env = .ok payload)
    (rightFormed : right.unsignedPayload env = .ok payload) :
    { left with signature := [] } = { right with signature := [] } :=
  (unsignedPayload_cancel leftHeld rightHeld leftFormed rightFormed (Eq.refl (payload ++ []))).1

theorem SignedRecord.ext_signature
    (fields : { left with signature := [] } = { right with signature := [] })
    (signature : left.signature = right.signature) : left = right := by
  cases left
  cases right
  simp_all

theorem marshalBinary_inj {envelope : Bytes} (leftHeld : left.Held) (rightHeld : right.Held)
    (leftFormed : left.marshalBinary env = .ok envelope)
    (rightFormed : right.marshalBinary env = .ok envelope) : left = right := by
  simp only [SignedRecord.marshalBinary, bind_eq_ok] at leftFormed rightFormed
  obtain ⟨_, leftUnsigned, _, _, leftBuilt⟩ := leftFormed
  obtain ⟨_, rightUnsigned, _, _, rightBuilt⟩ := rightFormed
  have equal := Except.ok.inj (leftBuilt.trans rightBuilt.symm)
  simp only [List.append_assoc, List.append_cancel_left_eq] at equal
  obtain ⟨fields, rests⟩ :=
    unsignedPayload_cancel leftHeld rightHeld leftUnsigned rightUnsigned equal
  have tails := congrArg (· ++ []) rests
  exact SignedRecord.ext_signature fields
    (writeDigestField_inj leftHeld.signature rightHeld.signature tails).1

/-- A signature that a key accepts for no two messages. -/
def SignsOnce (env : Platform) (publicKey signature : Bytes) : Prop :=
  ∀ message other, env.verifySignature publicKey message signature = .ok true →
    env.verifySignature publicKey other signature = .ok true → message = other

theorem verifyRecordBindingAndSignature_signed {expectedName : String} {expectedRoot : Cid}
    {publicKey : Bytes}
    (verified : verifyRecordBindingAndSignature env record expectedName expectedRoot
      publicKey = .ok ()) :
    ∃ payload, record.unsignedPayload env = .ok payload ∧
      env.verifySignature publicKey payload record.signature = .ok true := by
  simp only [verifyRecordBindingAndSignature, annotated, bind_eq_ok, reject_eq_ok,
    mapError_eq_ok, Bool.not_eq_false'] at verified
  obtain ⟨_, _, _, _, _, _, _, _, payload, formed, _, _, _, accepted, rfl⟩ := verified
  exact ⟨payload, formed, accepted⟩

/-- Two records with one payload agree in every field below the signature, two records
with one envelope are equal, and so are two records that verify with one signature, where
the key accepts it for one message only. -/
theorem signed_record_encodings_injective (env : Platform) (left right : SignedRecord)
    (leftHeld : left.Held) (rightHeld : right.Held) :
    (∀ payload, left.unsignedPayload env = .ok payload →
      right.unsignedPayload env = .ok payload →
        left.name = right.name ∧ left.value = right.value ∧
          left.sequence = right.sequence ∧ left.issuedAt = right.issuedAt ∧
          left.validUntil = right.validUntil ∧ left.ttl = right.ttl) ∧
    (∀ envelope, left.marshalBinary env = .ok envelope →
      right.marshalBinary env = .ok envelope → left = right) ∧
    (∀ publicKey leftName rightName leftRoot rightRoot, SignsOnce env publicKey left.signature →
      verifyRecordBindingAndSignature env left leftName leftRoot publicKey = .ok () →
      verifyRecordBindingAndSignature env right rightName rightRoot publicKey = .ok () →
      left.signature = right.signature → left = right) := by
  refine ⟨?_, fun _ => marshalBinary_inj leftHeld rightHeld, ?_⟩
  · intro payload leftFormed rightFormed
    have fields := unsignedPayload_inj leftHeld rightHeld leftFormed rightFormed
    simp only [SignedRecord.mk.injEq] at fields
    obtain ⟨_, name, value, sequence, issuedAt, validUntil, ttl, _⟩ := fields
    exact ⟨name, value, sequence, issuedAt, validUntil, ttl⟩
  · intro _ _ _ _ _ once leftVerified rightVerified signature
    obtain ⟨payload, leftFormed, leftAccepted⟩ :=
      verifyRecordBindingAndSignature_signed leftVerified
    obtain ⟨other, rightFormed, rightAccepted⟩ :=
      verifyRecordBindingAndSignature_signed rightVerified
    rw [← signature] at rightAccepted
    cases once payload other leftAccepted rightAccepted
    exact SignedRecord.ext_signature (unsignedPayload_inj leftHeld rightHeld leftFormed rightFormed)
      signature

section SampleRecords

open Trust (samplePlatform)

/-- Signatures that repeat the message. -/
def echoPlatform : Platform :=
  { samplePlatform [] with
    verifySignature := fun _ message signature => .ok (message == signature) }

def echoUnsigned : SignedRecord :=
  unsignedRecord echoPlatform samplePublisher sampleRootCid 1 (5000 * second)

def echoRecord : SignedRecord :=
  { echoUnsigned with signature := ((echoUnsigned.unsignedPayload echoPlatform).toOption).getD [] }

theorem echoRecord_held : echoRecord.Held := by
  constructor <;> simp only [Measured, HeldTime] <;> decide +kernel

theorem echoRecord_verified :
    verifyRecordBindingAndSignature echoPlatform echoRecord samplePublisher.signer.name
      sampleRootCid samplePublisher.signer.publicKey = .ok () := by
  rfl

/-- A record and its unsigned form have one payload, and the record is the only one that
its signature fits. -/
theorem echoRecord_determined :
    (∃ payload, echoRecord.unsignedPayload echoPlatform = .ok payload ∧
      echoUnsigned.unsignedPayload echoPlatform = .ok payload) ∧
    (∃ envelope, echoRecord.marshalBinary echoPlatform = .ok envelope) ∧
    ∀ record : SignedRecord, record.Held → echoRecord.signature = record.signature →
      verifyRecordBindingAndSignature echoPlatform record samplePublisher.signer.name
        sampleRootCid samplePublisher.signer.publicKey = .ok () → echoRecord = record := by
  obtain ⟨payload, formed, _⟩ := verifyRecordBindingAndSignature_signed echoRecord_verified
  have once : SignsOnce echoPlatform samplePublisher.signer.publicKey echoRecord.signature := by
    intro _ _ first second
    simp only [echoPlatform, Except.ok.injEq, beq_iff_eq] at first second
    rw [first, second]
  refine ⟨⟨payload, formed, formed⟩, ?_, ?_⟩
  · exact isOk_eq_true.mp (by decide +kernel)
  · intro record held signature verified
    exact (signed_record_encodings_injective echoPlatform echoRecord record echoRecord_held
      held).2.2 _ _ _ _ _ once echoRecord_verified verified signature

end SampleRecords

end Sovereignite.Ipfs
