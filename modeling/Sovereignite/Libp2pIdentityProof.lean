import Sovereignite.EffectSequence
import Sovereignite.Libp2pService
import Sovereignite.TrustExecution

/-!
# Who hashes the message of an identity signature

A backend signs a payload of exactly 32 bytes, which it takes for a SHA-256
digest, and refuses everything else.  The adapter hands it the message itself,
while the network library hashes the message when it verifies.  So a signature
is made and verifies only for a message that is as good as its own digest, and
the proof challenge, which is longer, is always refused.
-/

namespace Sovereignite.Libp2p

open Effect
open KeyManager (ObjectReference Public SignRequest isPersistent validatePublicKey
  signingTemplate)

abbrev Answering (World : Type) :=
  World → (request : Request) → Reply request → World → Prop

/-- The public area of an RSA-4096 or P-256 signing key that the key manager
accepts. -/
structure Supported (env : Platform) (object : Public) : Prop where
  persistent : isPersistent object.handle = true
  named : object.name ≠ []
  algorithm : object.template.algorithm = .rsa4096 ∨ object.template.algorithm = .ecdsaP256
  publicKey : validatePublicKey env object.template object.publicKey = .ok ()

/-- A request for a certificate signature of an object. -/
structure SignRequest.Names (request : SignRequest) (object : Public) : Prop where
  reference : request.object = ⟨object.handle, object.name, object.template⟩
  purpose : request.purpose = .certificate
  scheme : request.scheme = object.template.signingScheme
  hash : request.hash = .sha256

/-- A backend that holds an object and signs as its requests are documented:
a payload of 32 bytes is a digest, over which the signature is valid, and
anything else is refused. -/
structure Documented {World : Type} (lib : Library) (key : PubKey) (object : Public)
    (answer : Answering World) : Prop where
  answers : ∀ world request, ∃ reply after, answer world (.signTPM request) reply after
  refuses : ∀ world request reply after, answer world (.signTPM request) reply after →
    SignRequest.Names request object → request.payload.length ≠ 32 → ∃ error, reply = .error error
  signs : ∀ world request reply after, answer world (.signTPM request) reply after →
    SignRequest.Names request object → request.payload.length = 32 →
      ∃ signature, reply = .ok signature ∧ lib.verifyDigest key request.payload signature = .ok true

section Verification

variable (env : Platform) (lib : Library)

/-- Signing a message succeeds, and the network library accepts the result. -/
def SignsVerifiably {World : Type} (answer : Answering World)
    (adapter : TPMSigningKeyAdapter) (message : Bytes) : Prop :=
  ∀ world outcome after, (adapter.sign message).Ends answer world outcome after →
    ∃ signature, outcome = .ok signature ∧
      verify env lib adapter.publicKey message signature = .ok true

/-- A message of the length of a digest such that every signature over it, taken
as a digest, is one over the digest of the message. -/
def SelfDigest (key : PubKey) (message : Bytes) : Prop :=
  message.length = 32 ∧
    ∀ signature, lib.verifyDigest key message signature = .ok true →
      verify env lib key message signature = .ok true

end Verification

def NeverSucceeds {World α : Type} (answer : Answering World) (program : Running α) : Prop :=
  ∀ world value after, ¬ program.Ends answer world (.ok value) after

variable {World : Type} {env : Platform} {lib : Library}

section Adapter

variable {object : Public} {key : PubKey} {adapter : TPMSigningKeyAdapter}

theorem newTPMSigningKeyAdapter_of_supported (supported : Supported env object)
    (converts : convertPublicKey env lib object.publicKey = .ok key) :
    newTPMSigningKeyAdapter env lib object =
      .ok ⟨key, object.handle, ⟨object.handle, object.name, object.template⟩⟩ := by
  have named : object.name.isEmpty = false := List.isEmpty_eq_false_iff.mpr supported.named
  simp only [newTPMSigningKeyAdapter, supported.persistent, named, converts]
  rfl

theorem sign_ends {answer : Answering World} {message : Bytes} {world after : World}
    {outcome : Except Error Bytes} (present : message ≠ [])
    (reference : adapter.reference = ⟨object.handle, object.name, object.template⟩)
    (ended : (adapter.sign message).Ends answer world outcome after) :
    ∃ request reply, answer world (.signTPM request) reply after ∧
      SignRequest.Names request object ∧ request.payload = message ∧
      outcome = reply.mapError (.wrap "TPM sign") := by
  have full : message.isEmpty = false := List.isEmpty_eq_false_iff.mpr present
  unfold TPMSigningKeyAdapter.sign at ended
  rw [full] at ended
  cases ended with
  | answered _ _ reply given rest =>
    obtain ⟨same, unchanged⟩ := Program.Ends.ofExcept_inv rest
    subst unchanged
    refine ⟨_, reply, given, ⟨reference, rfl, ?_, rfl⟩, rfl, same⟩
    exact congrArg (fun found : ObjectReference => found.template.signingScheme) reference

theorem sign_refused {answer : Answering World} {message : Bytes}
    (documented : Documented lib key object answer) (present : message ≠ [])
    (reference : adapter.reference = ⟨object.handle, object.name, object.template⟩)
    (length : message.length ≠ 32) : NeverSucceeds answer (adapter.sign message) := by
  intro world _ after ended
  obtain ⟨request, reply, given, names, payload, outcome⟩ := sign_ends present reference ended
  obtain ⟨_, refused⟩ :=
    documented.refuses world request reply after given names (by rw [payload]; exact length)
  rw [refused] at outcome
  cases outcome

theorem sign_answered {answer : Answering World} {message : Bytes}
    (documented : Documented lib key object answer) (present : message ≠ []) (world : World) :
    ∃ outcome after, (adapter.sign message).Ends answer world outcome after := by
  have full : message.isEmpty = false := List.isEmpty_eq_false_iff.mpr present
  obtain ⟨reply, after, given⟩ := documented.answers world
    ⟨adapter.reference, .certificate, adapter.reference.template.signingScheme, .sha256, message⟩
  unfold TPMSigningKeyAdapter.sign
  rw [full]
  cases reply with
  | ok signature => exact ⟨_, after, .answered _ _ _ given (.ret signature after)⟩
  | error => exact ⟨_, after, .answered _ _ _ given (.fail _ after)⟩

end Adapter

section Proof

variable {object : Public} {key : PubKey} {adapter : TPMSigningKeyAdapter}
variable {answer : Answering World}

theorem proofChallenge_spec (random : Bytes) :
    proofChallenge random ≠ [] ∧ (proofChallenge random).length ≠ 32 := by
  have domain : (bytesOf identityProofDomain).length = 62 := by decide +kernel
  have length : (proofChallenge random).length = 62 + random.length := by
    rw [proofChallenge, List.length_append, domain]
  constructor
  · intro empty
    rw [empty] at length
    simp only [List.length_nil] at length
    omega
  · omega

theorem NeverSucceeds.mapError {α : Type} {annotate : Error → Error} {program : Running α}
    (never : NeverSucceeds answer program) : NeverSucceeds answer (program.mapError annotate) :=
  fun world value after ended => never world value after ended.mapError_ok

theorem NeverSucceeds.bind {α β : Type} {first : Running α} {next : α → Running β}
    (never : NeverSucceeds answer first) : NeverSucceeds answer (first >>= next) := by
  intro world _ _ ended
  obtain ⟨between, middle, reached, _⟩ := Program.Ends.bind_ok.mp ended
  exact never world between middle reached

theorem NeverSucceeds.after {α β : Type} {first : Running α} {next : α → Running β}
    (never : ∀ value, NeverSucceeds answer (next value)) :
    NeverSucceeds answer (first >>= next) := by
  intro _ value after ended
  obtain ⟨between, middle, _, reached⟩ := Program.Ends.bind_ok.mp ended
  exact never between middle value after reached

theorem proveSigningKey_never {privateKey : NonExportablePrivateKey}
    (documented : Documented lib key object answer)
    (reference : adapter.reference = ⟨object.handle, object.name, object.template⟩)
    (held : privateKey.key = .tpm adapter) :
    NeverSucceeds answer (proveSigningKey env lib privateKey) := by
  refine .after fun drawn => .after fun random => .bind (.mapError ?_)
  obtain ⟨present, length⟩ := proofChallenge_spec random
  unfold NonExportablePrivateKey.sign
  rw [held]
  exact .mapError (sign_refused documented present reference length)

theorem newNonExportablePrivateKey_key {signer : TPMSigningKey}
    {privateKey : NonExportablePrivateKey}
    (made : newNonExportablePrivateKey lib signer = .ok privateKey) :
    privateKey.key = signer := by
  unfold newNonExportablePrivateKey at made
  obtain ⟨_, _, made⟩ := bind_eq_ok.mp made
  cases found : signer.publicKey with
  | none =>
    rw [found] at made
    cases made
  | some =>
    rw [found] at made
    obtain ⟨_, _, made⟩ := bind_eq_ok.mp made
    obtain ⟨_, _, made⟩ := bind_eq_ok.mp made
    cases made
    rfl

theorem prepareIdentity_never (documented : Documented lib key object answer)
    (reference : adapter.reference = ⟨object.handle, object.name, object.template⟩) :
    NeverSucceeds answer (prepareIdentity env lib (.tpm adapter)) := by
  refine .after fun _ => ?_
  intro _ _ _ ended
  obtain ⟨_, _, made, rest⟩ := Program.Ends.bind_ok.mp ended
  have held := newNonExportablePrivateKey_key (Program.Ends.ofExcept_inv made).1.symm
  exact NeverSucceeds.bind (proveSigningKey_never documented reference held) _ _ _ rest

theorem initializeIdentity_never (documented : Documented lib key object answer)
    (reference : adapter.reference = ⟨object.handle, object.name, object.template⟩)
    (config : Config) :
    NeverSucceeds answer (initializeIdentity env lib config (.tpm adapter)) :=
  .after fun _ => .after fun _ => .bind (prepareIdentity_never documented reference)

end Proof

/-- The backend that gives every answer its documentation allows. -/
def anyDocumented (lib : Library) (key : PubKey) : Answering Unit
  | _, .signTPM request, reply, _ =>
    if request.payload.length = 32 then
      ∃ signature, reply = .ok signature ∧ lib.verifyDigest key request.payload signature = .ok true
    else
      ∃ error, reply = .error error
  | _, _, _, _ => True

theorem anyDocumented_documented {key : PubKey} (object : Public)
    (signable : ∀ digest, digest.length = 32 →
      ∃ signature, lib.verifyDigest key digest signature = .ok true) :
    Documented lib key object (anyDocumented lib key) := by
  refine ⟨?_, ?_, ?_⟩
  · intro world request
    by_cases length : request.payload.length = 32
    · obtain ⟨signature, valid⟩ := signable request.payload length
      refine ⟨.ok signature, (), ?_⟩
      simp only [anyDocumented, length, if_true]
      exact ⟨signature, rfl, valid⟩
    · refine ⟨.error (.message "not a digest"), (), ?_⟩
      simp only [anyDocumented, length, if_false]
      exact ⟨_, rfl⟩
  · intro world request reply after given _ length
    simpa only [anyDocumented, length, if_false] using given
  · intro _ _ _ _ given _ length
    simpa only [anyDocumented, length, if_true] using given

section Equivalence

variable {object : Public} {adapter : TPMSigningKeyAdapter} {message : Bytes}

theorem signsVerifiably_of_selfDigest {answer : Answering World}
    (documented : Documented lib adapter.publicKey object answer)
    (reference : adapter.reference = ⟨object.handle, object.name, object.template⟩)
    (present : message ≠ []) (self : SelfDigest env lib adapter.publicKey message) :
    SignsVerifiably env lib answer adapter message := by
  intro world _ after ended
  obtain ⟨request, reply, given, names, payload, same⟩ := sign_ends present reference ended
  obtain ⟨signature, replied, valid⟩ :=
    documented.signs world request reply after given names (by rw [payload]; exact self.1)
  rw [payload] at valid
  rw [replied] at same
  exact ⟨signature, same, self.2 signature valid⟩

/-- A backend that may return any valid signature shows that the condition is
needed. -/
theorem selfDigest_of_signsVerifiably
    (signable : ∀ digest, digest.length = 32 →
      ∃ signature, lib.verifyDigest adapter.publicKey digest signature = .ok true)
    (reference : adapter.reference = ⟨object.handle, object.name, object.template⟩)
    (present : message ≠ [])
    (signs : SignsVerifiably env lib (anyDocumented lib adapter.publicKey) adapter message) :
    SelfDigest env lib adapter.publicKey message := by
  have documented := anyDocumented_documented object signable
  by_cases length : message.length = 32
  · refine ⟨length, fun signature valid => ?_⟩
    have full : message.isEmpty = false := List.isEmpty_eq_false_iff.mpr present
    have given : anyDocumented lib adapter.publicKey ()
        (.signTPM ⟨adapter.reference, .certificate,
          adapter.reference.template.signingScheme, .sha256, message⟩) (.ok signature) () := by
      simp only [anyDocumented, length, if_true]
      exact ⟨signature, rfl, valid⟩
    have ended : (adapter.sign message).Ends (anyDocumented lib adapter.publicKey) ()
        (.ok signature) () := by
      unfold TPMSigningKeyAdapter.sign
      rw [full]
      exact .answered _ _ _ given (.ret signature ())
    obtain ⟨_, same, accepted⟩ := signs () _ () ended
    cases same
    exact accepted
  · obtain ⟨outcome, after, ended⟩ := sign_answered documented present ()
    obtain ⟨signature, same, _⟩ := signs () outcome after ended
    subst same
    exact absurd ended (sign_refused documented present reference length () signature after)

end Equivalence

/-- Every documented backend signs a message verifiably exactly when the message
is as good as its own digest.  The proof of the signing key and with it the
initialization never succeed. -/
theorem sign_verifies_iff_selfDigest (env : Platform) (lib : Library)
    (object : Public) (key : PubKey) (supported : Supported env object)
    (converts : convertPublicKey env lib object.publicKey = .ok key)
    (signable : ∀ digest, digest.length = 32 →
      ∃ signature, lib.verifyDigest key digest signature = .ok true) :
    ∃ adapter, newTPMSigningKeyAdapter env lib object = .ok adapter ∧ adapter.publicKey = key ∧
      (∀ message, message ≠ [] →
        ((∀ (World : Type) (answer : Answering World),
            Documented lib key object answer → SignsVerifiably env lib answer adapter message) ↔
          SelfDigest env lib key message)) ∧
      ∀ (World : Type) (answer : Answering World), Documented lib key object answer →
        (∀ privateKey, newNonExportablePrivateKey lib (.tpm adapter) = .ok privateKey →
          NeverSucceeds answer (proveSigningKey env lib privateKey)) ∧
        ∀ config, NeverSucceeds answer (initializeIdentity env lib config (.tpm adapter)) := by
  refine ⟨_, newTPMSigningKeyAdapter_of_supported supported converts, rfl, ?_, ?_⟩
  · intro _ present
    constructor
    · intro always
      exact selfDigest_of_signsVerifiably signable rfl present
        (always Unit _ (anyDocumented_documented object signable))
    · intro self World answer documented
      exact signsVerifiably_of_selfDigest documented rfl present self
  · intro _ _ documented
    refine ⟨fun privateKey made => ?_, initializeIdentity_never documented rfl⟩
    exact proveSigningKey_never documented rfl (newNonExportablePrivateKey_key made)

section SampleKey

open Trust (samplePlatform)

def sampleKey : PubKey := ⟨.ecdsa, .ecdsa "P-256" 7 7⟩

def sampleObject : Public where
  handle := 0x81000001
  name := [1]
  template := {
    algorithm := .ecdsaP256
    nameHash := .sha256
    attributes := ⟨true, true, true, true, true, true⟩
    curve := "P-256"
    signingScheme := .ecdsaSHA256 }
  publicKey := some (.ecdsa "P-256" 7 7)

def sampleRecord : IdentityRecord where
  version := 1
  tpmHandle := "0x81000001"
  publicKey := "Bw=="
  peerID := "peer"
  name := Trust.sampleName

/-- A library whose signatures are the digests they are made over, and that
encodes one identity record. -/
def sampleLibrary : Library where
  ecdsaPublicKeyFromPubKey key := .ok ⟨.ecdsa, key⟩
  unmarshalRsaPublicKey _ := .error "not an RSA key"
  marshalPublicKey key := .ok [if key = sampleKey then 7 else 8]
  idFromPublicKey _ := .ok "peer"
  verifyDigest _ digest signature := .ok (digest == signature)
  marshalRecord record := if record = sampleRecord then .ok [1] else .error "unknown record"
  decodeRecord content :=
    if content = [1, 10] then .ok (sampleRecord, .endOfInput) else .error "malformed record"
  marshalEndpoint _ := .ok [2]
  parseAddrPort _ := .ok ("127.0.0.1", 4000)

theorem sampleObject_supported : Supported (samplePlatform []) sampleObject :=
  ⟨by decide, by decide, .inr rfl, by decide +kernel⟩

theorem sampleLibrary_signable (digest : Bytes) :
    ∃ signature, sampleLibrary.verifyDigest sampleKey digest signature = .ok true :=
  ⟨digest, by simp [sampleLibrary]⟩

theorem sampleObject_sign_verifies_iff : Supported (samplePlatform []) sampleObject ∧
    ∃ adapter, newTPMSigningKeyAdapter (samplePlatform []) sampleLibrary sampleObject =
        .ok adapter ∧
      adapter.publicKey = sampleKey ∧
      (∀ message, message ≠ [] →
        ((∀ (World : Type) (answer : Answering World),
            Documented sampleLibrary sampleKey sampleObject answer →
              SignsVerifiably (samplePlatform []) sampleLibrary answer adapter message) ↔
          SelfDigest (samplePlatform []) sampleLibrary sampleKey message)) ∧
      ∀ (World : Type) (answer : Answering World),
        Documented sampleLibrary sampleKey sampleObject answer →
        (∀ privateKey,
          newNonExportablePrivateKey sampleLibrary (.tpm adapter) = .ok privateKey →
            NeverSucceeds answer (proveSigningKey (samplePlatform []) sampleLibrary privateKey)) ∧
        ∀ config, NeverSucceeds answer
          (initializeIdentity (samplePlatform []) sampleLibrary config (.tpm adapter)) :=
  ⟨sampleObject_supported,
    sign_verifies_iff_selfDigest (samplePlatform []) sampleLibrary sampleObject sampleKey
      sampleObject_supported rfl fun digest _ => sampleLibrary_signable digest⟩

/-- The adapter of a valid P-256 object and a backend as documented: signing a
message of one byte fails, and the identity is never initialized although the
adapter is accepted as a private key. -/
theorem documented_backend_refuses_identity_messages :
    ∃ adapter privateKey, Supported (samplePlatform []) sampleObject ∧
      newTPMSigningKeyAdapter (samplePlatform []) sampleLibrary sampleObject = .ok adapter ∧
      Documented sampleLibrary adapter.publicKey sampleObject
        (anyDocumented sampleLibrary adapter.publicKey) ∧
      (¬ SignsVerifiably (samplePlatform []) sampleLibrary
        (anyDocumented sampleLibrary adapter.publicKey) adapter [1]) ∧
      newNonExportablePrivateKey sampleLibrary (.tpm adapter) = .ok privateKey ∧
      NeverSucceeds (anyDocumented sampleLibrary adapter.publicKey)
        (proveSigningKey (samplePlatform []) sampleLibrary privateKey) ∧
      ∀ config, NeverSucceeds (anyDocumented sampleLibrary adapter.publicKey)
        (initializeIdentity (samplePlatform []) sampleLibrary config (.tpm adapter)) := by
  have documented := @anyDocumented_documented sampleLibrary sampleKey sampleObject
    fun digest _ => sampleLibrary_signable digest
  let adapter : TPMSigningKeyAdapter :=
    ⟨sampleKey, sampleObject.handle,
      ⟨sampleObject.handle, sampleObject.name, sampleObject.template⟩⟩
  refine ⟨adapter, ⟨.tpm adapter, sampleObject.handle, sampleKey⟩, sampleObject_supported,
    newTPMSigningKeyAdapter_of_supported sampleObject_supported rfl, documented, ?_, rfl,
    proveSigningKey_never documented rfl rfl, initializeIdentity_never documented rfl⟩
  intro signs
  have self := @selfDigest_of_signsVerifiably (samplePlatform []) sampleLibrary sampleObject
    adapter [1] (fun digest _ => sampleLibrary_signable digest) rfl (by decide) signs
  exact absurd self.1 (by decide)

end SampleKey

end Sovereignite.Libp2p
