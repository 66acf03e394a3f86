import Sovereignite.EffectExecution
import Sovereignite.TrustRuns

/-!
# Executing the trust service

An environment fixes the clock and the answers of the policy, the builder, the
key manager, the provider of federation material and the publisher.  Together
with the store and the memories it answers every call of an operation, and the
worlds computed that way are worlds of the system.
-/

namespace Sovereignite.Trust

open Effect
open KeyManager (CertificateRequest KeyMetadata Role)

/-- The parts outside the service and its store, as functions. -/
structure Environment where
  time : Time
  authorize : AuthorizationIntent → Except Error AuthorizationGrant
  build : PublicStateView → Except Error (List PublicDocument)
  metadata : Role → Except Error KeyMetadata
  issueCertificate : CertificateRequest → Except Error Bytes
  fetch : DeviceIdentity → String → VerifiedMTLSPeer → Except Error FederationMaterial
  publish : Publication → Except Error PublicationReceipt

def accepts (env : Platform) (base : Snapshot) (expectedRevision : UInt64)
    (next : Snapshot) : Bool :=
  base.revision == expectedRevision && expectedRevision != maxUint64 &&
    next.revision == expectedRevision + 1 && (validateSnapshot env next).isOk

theorem Accepted.of_accepts {env : Platform} {base next : Snapshot} {expectedRevision : UInt64}
    (accepted : accepts env base expectedRevision next = true) :
    Accepted env base expectedRevision next := by
  simp only [accepts, Bool.and_eq_true, beq_iff_eq, bne_iff_ne, ne_eq] at accepted
  refine ⟨accepted.1.1.1, accepted.1.1.2, accepted.1.2, ?_⟩
  cases outcome : validateSnapshot env next with
  | ok => rfl
  | error =>
    rw [outcome] at accepted
    cases accepted.2

def respond (env : Platform) (environment : Environment) (caller : Caller) :
    Responder signature World
  | world, .contextError _ => some (none, world)
  | world, .now => some (environment.time, world)
  | world, .lock mutex =>
    if world.owner caller.service mutex = none then
      some ((), world.setOwner caller.service mutex (some caller))
    else
      none
  | world, .unlock mutex => some ((), world.setOwner caller.service mutex none)
  | world, .readMemory => some (world.memory caller.service, world)
  | world, .writeMemory memory =>
    some ((), { world with memory := Function.update world.memory caller.service memory })
  | world, .load => some (.ok (durable world.log), world)
  | world, .commit label expectedRevision next =>
    if accepts env (durable world.log) expectedRevision next then
      some (.ok (), { world with log := ⟨caller, label, next⟩ :: world.log })
    else
      some (.error (.sentinel .revisionConflict), world)
  | world, .authorize intent => some (environment.authorize intent, world)
  | world, .build view => some (environment.build view, world)
  | world, .metadata role => some (environment.metadata role, world)
  | world, .issueCertificate request =>
    some (environment.issueCertificate request,
      { world with issued := (caller, request) :: world.issued })
  | world, .fetch localIdentity remoteTrustDomain peer =>
    some (environment.fetch localIdentity remoteTrustDomain peer, world)
  | world, .publish publication => some (environment.publish publication, world)

theorem respond_answers (env : Platform) (configs : Nat → ServiceConfig)
    (environment : Environment) (caller : Caller) :
    (rules env configs).Answers caller (respond env environment caller) id := by
  intro _ request _ _ responded
  cases request with
  | lock =>
    simp only [respond] at responded
    split at responded
    · next free =>
        cases responded
        exact ⟨free, rfl⟩
    · cases responded
  | commit _ _ next =>
    simp only [respond] at responded
    split at responded
    · next accepted =>
        cases responded
        exact .inr ⟨.of_accepts accepted, rfl⟩
    · cases responded
      exact .inl ⟨nofun, rfl⟩
  | contextError =>
    cases responded
    exact ⟨rfl, fun _ => rfl⟩
  | load =>
    cases responded
    refine ⟨rfl, ?_⟩
    rintro _ ⟨⟩
    rfl
  | readMemory =>
    cases responded
    exact ⟨rfl, rfl⟩
  | _ =>
    cases responded
    rfl

def execute (env : Platform) (environment : Environment) (caller : Caller)
    (operation : Operating Unit) (world : World) : World :=
  (operation.advance (respond env environment caller) 1000 world).1

/-- A world that services can come to while some callers are unused. -/
abbrev Attainable (env : Platform) (configs : Nat → ServiceConfig)
    (used : Caller → Prop) (world : World) : Prop :=
  (rules env configs).Attainable initialWorld used world

theorem Attainable.execute {env : Platform} {configs : Nat → ServiceConfig}
    {used : Caller → Prop} {world : World} {operation : Operating Unit}
    (attainable : Attainable env configs used world) (environment : Environment)
    (caller : Caller) (unused : ¬ used caller)
    (offered : Offered env (configs caller.service) operation) :
    Attainable env configs (fun other => other = caller ∨ used other)
      (execute env environment caller operation world) :=
  SystemRules.Attainable.operate attainable
    (respond_answers env configs environment caller) unused offered 1000

section SampleDevice

/-- A hash without collisions that gives digests of the usual length to the
listed inputs. -/
def tableHash (inputs : List Bytes) (input : Bytes) : Bytes :=
  match inputs.idxOf? input with
  | some index => List.replicate 31 0 ++ [UInt8.ofNat index]
  | none => List.replicate 33 0 ++ input

theorem tableHash_injective {inputs : List Bytes} (short : inputs.length ≤ 256) :
    Function.Injective (tableHash inputs) := by
  have position : ∀ {input index}, inputs.idxOf? input = some index →
      index < 256 ∧ inputs[index]? = some input := by
    intro _ index found
    obtain ⟨bound, equal, _⟩ := List.idxOf?_eq_some_iff.mp found
    refine ⟨by omega, ?_⟩
    rw [List.getElem?_eq_getElem bound]
    simpa using equal
  intro first second equal
  unfold tableHash at equal
  cases firstFound : inputs.idxOf? first with
  | none =>
    cases secondFound : inputs.idxOf? second with
    | none =>
      rw [firstFound, secondFound] at equal
      exact List.append_cancel_left equal
    | some =>
      rw [firstFound, secondFound] at equal
      have lengths := congrArg List.length equal
      simp at lengths
  | some index =>
    cases secondFound : inputs.idxOf? second with
    | none =>
      rw [firstFound, secondFound] at equal
      have lengths := congrArg List.length equal
      simp at lengths
    | some other =>
      rw [firstFound, secondFound] at equal
      obtain ⟨below, entry⟩ := position firstFound
      obtain ⟨otherBelow, otherEntry⟩ := position secondFound
      have bytes := List.append_cancel_left equal
      have values := congrArg UInt8.toNat (List.cons.inj bytes).1
      have same : index = other := by
        simpa [Nat.mod_eq_of_lt below, Nat.mod_eq_of_lt otherBelow] using values
      rw [same, otherEntry] at entry
      exact (Option.some.inj entry).symm

def sampleName : String := "k51sample"

def samplePeer : String := "12d3sample"

def sampleRoot : String := "bafysample"

def sampleIdentity : DeviceIdentity where
  canonicalIPNS := sampleName
  peerID := samplePeer
  trustDomain := sampleName
  spiffeID := deviceSPIFFEID sampleName samplePeer

/-- Libraries for a device whose certificates are three bytes, the kind, the
serial and the key, and whose public keys are one byte. -/
def samplePlatform (hashed : List Bytes) : Platform where
  sha256 := tableHash hashed
  parseCertificate
    | [kind, serial, key] => .ok {
        raw := [kind, serial, key]
        rawSubjectPublicKeyInfo := [key]
        serialNumber := serial.toNat
        subject := { commonName := sampleName, organization := ["Sovereignite"] }
        notBefore := 100
        notAfter := 200
        keyUsage := if kind = 1 then 97 else 1
        basicConstraintsValid := true
        isCA := kind = 1
        maxPathLen := 1
        publicKey := some (.ecdsa "P-256" key.toNat key.toNat) }
    | _ => .error "malformed certificate"
  checkSignatureFrom _ _ := .ok ()
  parsePKIXPublicKey
    | [key] => .ok (.ecdsa "P-256" key.toNat key.toNat)
    | _ => .error "malformed public key"
  marshalPKIXPublicKey
    | .ecdsa _ x _ => .ok [UInt8.ofNat x]
    | _ => .error "unsupported public key"
  validP256Point _ _ := true
  subjectString name := name.commonName
  decodeCid text :=
    .ok ⟨1, if text = sampleRoot then cidDagProtobuf else cidLibp2pKey, bytesOf text⟩
  encodeCidBase36 _ := .ok sampleName
  cidString cid := String.ofList (cid.multihash.map fun byte => Char.ofNat byte.toNat)
  sumBlock cid _ := .ok cid
  decodePeer text := .ok text
  peerToCid _ := ⟨1, cidLibp2pKey, bytesOf sampleName⟩
  parseUrl _ := .ok {
    scheme := "spiffe"
    opaquePart := ""
    hasUser := false
    host := sampleName
    path := deviceSPIFFEPathPrefix ++ samplePeer
    rawPath := ""
    rawQuery := ""
    forceQuery := false
    fragment := ""
    rawFragment := "" }
  decodeJson _ := .ok (.object [], .endOfInput)
  identityOfKey _ := .ok ⟨1, cidLibp2pKey, bytesOf sampleName⟩
  mapOrder entries := ⟨entries, .refl _⟩
  verifySignature _ _ _ := .ok true

def sampleConfig : ServiceConfig where
  identity := sampleIdentity
  maximumGrantLifetime := 1000
  maximumCertificateLifetime := 1000

def sampleDocuments : List PublicDocument :=
  [{ path := pathSPIFFEBundle, mediaType := mediaTypeJSON, content := [123, 125] }]

def sampleGrantID (revision : UInt64) : String :=
  "sample-grant-000" ++ revision.toNat.repr

def sampleMetadata (role : Role) : KeyMetadata where
  role := role
  purpose := .certificateAuthority
  algorithm := .ecdsaP256
  handle := 0x81000000
  publicName := [1]
  publicKeyDER := [7]
  template := {
    algorithm := .ecdsaP256
    nameHash := .sha256
    attributes := ⟨true, true, true, true, true, true⟩
    curve := "P-256"
    signingScheme := .ecdsaSHA256 }
  createdAt := 1
  generation := 1

/-- A policy that grants everything and a key manager that works or fails. -/
def sampleEnvironment (healthy : Bool) : Environment where
  time := 150
  authorize intent := .ok {
    grantID := sampleGrantID intent.currentRevision
    expectedRevision := intent.currentRevision
    expiresAt := 200
    ownershipRole := .owner
    relationshipPhase := .authorized
    relatedRelationship := ""
    localFederationRole := .hub
    remoteFederationRole := .spoke
    sourceGeneration := 1
    certificateNotBefore := 100
    certificateNotAfter := 200 }
  build _ := .ok sampleDocuments
  metadata role := .ok (sampleMetadata role)
  issueCertificate request :=
    if healthy then
      .ok [1, UInt8.ofNat ((requestSerial request).getD 0).toNat, 7]
    else
      .error (.message "TPM is unavailable")
  fetch _ _ _ := .error (.message "no federation material")
  publish _ := .error (.message "no publisher")

def sampleInputs : List Bytes :=
  [bytesOf grantDigestDomain ++ bytesOf (sampleGrantID 1),
    bytesOf grantDigestDomain ++ bytesOf (sampleGrantID 3),
    publicationPreimage sampleName 3 sampleDocuments,
    publicationPreimage sampleName 5 sampleDocuments,
    [1, 2, 7]]

def sampleInitialize : Operating Unit :=
  initializeLocalCA (samplePlatform sampleInputs) sampleConfig .background >>= fun _ => .ret ()

/-- A service is opened, a first attempt to initialize its authority fails in
the key manager, and a second one succeeds. -/
def sampleWorld : World :=
  execute (samplePlatform sampleInputs) (sampleEnvironment true) ⟨0, 2⟩ sampleInitialize
    (execute (samplePlatform sampleInputs) (sampleEnvironment false) ⟨0, 1⟩ sampleInitialize
      (execute (samplePlatform sampleInputs) (sampleEnvironment true) ⟨0, 0⟩
        (openService (samplePlatform sampleInputs) sampleConfig .background) initialWorld))

theorem sampleWorld_reachable : ∃ state,
    Reachable (samplePlatform sampleInputs) (fun _ => sampleConfig) state ∧
      state.world = sampleWorld := by
  have initial : Attainable (samplePlatform sampleInputs) (fun _ => sampleConfig)
      (fun _ => False) initialWorld := SystemRules.Attainable.initial
  have opened := initial.execute (sampleEnvironment true) ⟨0, 0⟩ not_false
    (.openService .background)
  have failed := opened.execute (sampleEnvironment false) ⟨0, 1⟩ (by simp)
    (.initializeLocalCA .background)
  have succeeded := failed.execute (sampleEnvironment true) ⟨0, 2⟩ (by simp)
    (.initializeLocalCA .background)
  obtain ⟨state, reachable, equal, _⟩ := succeeded
  exact ⟨state, reachable, equal⟩

theorem sampleWorld_facts :
    sampleWorld.log.length = 5 ∧ sampleWorld.issued.length = 2 ∧
      (durable sampleWorld.log).nextSerial = 3 ∧
      (durable sampleWorld.log).appliedGrants.size = 2 ∧
      (durable sampleWorld.log).activeCACertificate = [1, 2, 7] ∧
      (durable (sampleWorld.log.drop 2)).burnedSerials.lookup "1" = some 150 := by
  decide +kernel

end SampleDevice

end Sovereignite.Trust
