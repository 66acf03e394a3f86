import Sovereignite.TrustExecution

/-!
# Identity records

A device is described by a record that is first mapped from its addresses and
its public key, then updated by signed peer records.  Separate checks ask
whether a record is consistent, belongs to a handle and has the SPIFFE ID of
its peer.
-/

namespace Sovereignite.Trust

open Effect

def firstPersistentHandle : UInt32 := 0x81000000

def lastPersistentHandle : UInt32 := 0x81ffffff

inductive IdentityPhase where
  | pending
  | active
  | revoked
  | other (text : String)
  deriving DecidableEq

/-- Public key material and the text of the handle of its private key. -/
structure IdentityRecordKey where
  type : String
  rawBase64 : String
  tpmHandle : String
  deriving DecidableEq

structure IdentityRecord where
  peerID : String
  addrs : List String
  keys : List IdentityRecordKey
  handle : UInt32
  phase : IdentityPhase
  peerRecordSequence : UInt64 := 0
  spiffeID : String
  generation : UInt64 := 0
  observedGeneration : UInt64 := 0
  deriving DecidableEq

/-- The identifier of a peer, by its text, and its addresses.  Absent addresses
are a nil slice. -/
structure AddrInfo (Multiaddr : Type) where
  id : String
  addrs : Option (List Multiaddr)

inductive KeyKind where
  | rsa
  | ecdsa
  | ed25519
  | secp256k1
  deriving DecidableEq

/-- A public key of the peer library. -/
structure PubKey where
  kind : KeyKind
  raw : Bytes
  deriving DecidableEq

/-- The Go type of a key, as `%T` prints it. -/
def PubKey.typeName (key : PubKey) : String :=
  match key.kind with
  | .rsa => "*crypto.RsaPublicKey"
  | .ecdsa => "*crypto.ECDSAPublicKey"
  | .ed25519 => "*crypto.Ed25519PublicKey"
  | .secp256k1 => "*crypto.Secp256k1PublicKey"

/-- The libraries of keys and addresses. -/
structure PeerLibrary (Multiaddr : Type) where
  idFromPublicKey : PubKey → String
  marshalPublicKey : PubKey → Except String Bytes
  decodeBase64 : String → Except String Bytes
  newMultiaddr : String → Except String Multiaddr
  multiaddrString : Multiaddr → String

def classifyKeyType (key : PubKey) : String :=
  if containsText key.typeName "Ed25519PublicKey" then "Ed25519"
  else if containsText key.typeName "ECDSAPublicKey" then "ECDSA"
  else if containsText key.typeName "RSAPublicKey" then "RSA"
  else if containsText key.typeName "Secp256k1PublicKey" then "Secp256k1"
  else "Unknown"

def validatePublicKeyType (keyType : String) : Except Error Unit :=
  reject (!(["Ed25519", "ECDSA", "RSA", "Secp256k1"].contains keyType))
    (.message s!"unsupported public key type: {quoted keyType}")

/-- The eight hexadecimal digits of a handle. -/
def handleDigits (handle : UInt32) : List Char :=
  (List.range 8).map fun index => hexDigit (handle.toNat / 16 ^ (7 - index) % 16)

def formatTPMHandle (handle : UInt32) : String :=
  "0x" ++ String.ofList ((handleDigits handle).map Char.toUpper)

def validateTPMHandle (handle : UInt32) : Except Error Unit :=
  reject (decide (handle < firstPersistentHandle) || decide (lastPersistentHandle < handle))
    (.message ("TPM handle 0x" ++ String.ofList (handleDigits handle) ++
      " is not in the persistent handle range"))

section Records

variable {Multiaddr : Type} (env : Platform) (lib : PeerLibrary Multiaddr)

def mapAddrInfoToIdentityRecord (addrInfo : AddrInfo Multiaddr) (publicKey : Option PubKey)
    (handle : UInt32) (spiffeID : String) : Except Error IdentityRecord := do
  (validateTPMHandle handle).mapError (.wrap "invalid TPM handle")
  match publicKey with
  | none => failure "public key is required"
  | some publicKey => do
    let peerID := addrInfo.id
    reject (peerID == "") (.message "peer ID is required")
    let _ ← annotated "decode peer ID" (env.decodePeer peerID)
    reject (spiffeID == "") (.message "SPIFFE ID is required")
    let _ ← (parseDeviceSPIFFEID env spiffeID).mapError (.wrap "SPIFFE ID")
    let rawBytes ← annotated "marshal public key" (lib.marshalPublicKey publicKey)
    return {
      peerID
      addrs := (addrInfo.addrs.getD []).map lib.multiaddrString
      keys := [⟨classifyKeyType publicKey, encodeBase64 rawBytes, formatTPMHandle handle⟩]
      handle
      phase := .pending
      spiffeID }

def checkRecordKey (entry : IdentityRecordKey × Nat) : Except Error Unit := do
  let (key, index) := entry
  reject (key.type == "") (.message s!"key {index}: type is required")
  reject (key.rawBase64 == "") (.message s!"key {index}: raw bytes are required")
  let rawBytes ← annotated s!"key {index}: decode base64" (lib.decodeBase64 key.rawBase64)
  reject rawBytes.isEmpty (.message s!"key {index}: raw bytes must be non-empty")
  reject (key.tpmHandle == "") (.message s!"key {index}: TPM handle is required")
  (validatePublicKeyType key.type).mapError (.wrap s!"key {index}")

def checkRecordAddress (entry : String × Nat) : Except Error Unit := do
  let (address, index) := entry
  let _ ← annotated s!"address {index}: invalid multiaddr" (lib.newMultiaddr address)

/-- Whether a record is consistent and describes the local peer. -/
def validateIdentityRecord (record : IdentityRecord) (localPeerID : String) :
    Except Error Unit := do
  reject (record.peerID == "") (.message "peer ID is required")
  let _ ← annotated "decode peer ID" (env.decodePeer record.peerID)
  reject (record.peerID != localPeerID) (.sentinel .mismatchedPeerID)
  reject record.addrs.isEmpty (.message "at least one address is required")
  checkEach (checkRecordAddress lib) record.addrs.zipIdx
  reject record.keys.isEmpty (.message "at least one public key is required")
  checkEach (checkRecordKey lib) record.keys.zipIdx
  reject (record.handle == 0) (.message "TPM handle is required")
  reject (record.phase != .pending && record.phase != .active && record.phase != .revoked)
    (.message "identity phase is invalid")
  reject (record.spiffeID == "") (.message "SPIFFE ID is required")
  let _ ← (parseDeviceSPIFFEID env record.spiffeID).mapError (.wrap "SPIFFE ID")
  reject (record.generation == 0 && record.phase != .pending)
    (.message "generation must be positive for non-pending identity")
  reject (decide (0 < record.generation) &&
      decide (record.generation < record.observedGeneration)) (.sentinel .staleGeneration)

def validateHandleOwnership (record : IdentityRecord) (localHandle : UInt32) :
    Except Error Unit := do
  reject (record.handle != localHandle) (.sentinel .unknownHandle)
  checkEach (fun key => reject (key.tpmHandle != formatTPMHandle localHandle)
    (.sentinel .unknownHandle)) record.keys

def validateSPIFFEDerivation (record : IdentityRecord) : Except Error Unit := do
  reject (record.spiffeID == "") (.message "SPIFFE ID is required")
  reject (record.peerID == "") (.message "peer ID is required")
  let parsed ← (parseDeviceSPIFFEID env record.spiffeID).mapError (.wrap "parse SPIFFE ID")
  reject (parsed.peerID != record.peerID) (.sentinel .mismatchedSPIFFEID)
  reject (record.spiffeID != deviceSPIFFEID parsed.trustDomain record.peerID)
    (.sentinel .mismatchedSPIFFEID)

end Records

section Mapped

variable {Multiaddr : Type} {env : Platform} {lib : PeerLibrary Multiaddr}

/-- What is assumed of the libraries: keys have an encoding and a canonical
peer ID, whose text is one path segment, and texts decode again. -/
structure PeerLibrary.Lawful (env : Platform) (lib : PeerLibrary Multiaddr) : Prop where
  marshalled : ∀ key, ∃ raw, lib.marshalPublicKey key = .ok raw ∧ raw ≠ []
  decoded : ∀ bytes, bytes ≠ [] → ∃ decoded,
    lib.decodeBase64 (encodeBase64 bytes) = .ok decoded ∧ decoded ≠ []
  parsed : ∀ address, ∃ parsed, lib.newMultiaddr (lib.multiaddrString address) = .ok parsed
  peer : ∀ key, env.decodePeer (lib.idFromPublicKey key) = .ok (lib.idFromPublicKey key)
  segment : ∀ key, lib.idFromPublicKey key ≠ "" ∧ '/' ∉ (lib.idFromPublicKey key).toList

/-- The mapped record passes the three checks. -/
def MapsValid (env : Platform) (lib : PeerLibrary Multiaddr)
    (addrInfo : AddrInfo Multiaddr) (key : PubKey) (handle : UInt32) (spiffeID : String) : Prop :=
  ∃ record,
    mapAddrInfoToIdentityRecord env lib addrInfo (some key) handle spiffeID = .ok record ∧
      validateIdentityRecord env lib record addrInfo.id = .ok () ∧
      validateHandleOwnership record handle = .ok () ∧
      validateSPIFFEDerivation env record = .ok ()

variable {key : PubKey}

theorem classifyKeyType_rsa (rsa : key.kind = .rsa) : classifyKeyType key = "Unknown" := by
  rw [classifyKeyType, PubKey.typeName, rsa]
  decide

theorem validatePublicKeyType_classified (other : key.kind ≠ .rsa) :
    validatePublicKeyType (classifyKeyType key) = .ok () := by
  rw [classifyKeyType, PubKey.typeName]
  cases kind : key.kind with
  | rsa => exact absurd kind other
  | ecdsa | ed25519 | secp256k1 => decide

theorem classifyKeyType_ne_empty (key : PubKey) : classifyKeyType key ≠ "" := by
  unfold classifyKeyType
  split_ifs <;> decide

theorem encodeBase64_ne_empty {bytes : Bytes} (nonempty : bytes ≠ []) :
    encodeBase64 bytes ≠ "" := by
  intro empty
  have digits : base64Digits bytes = [] := by simpa [encodeBase64] using empty
  match bytes with
  | [] => exact nonempty rfl
  | [_] | [_, _] | _ :: _ :: _ :: _ => cases digits

/-- What follows the last slash is determined. -/
theorem last_segment_inj {first second left right : List Char} (leftPlain : '/' ∉ left)
    (rightPlain : '/' ∉ right) (equal : first ++ '/' :: left = second ++ '/' :: right) :
    left = right := by
  rcases List.append_eq_append_iff.mp equal with ⟨between, _, tails⟩ | ⟨between, _, tails⟩
  all_goals cases between with
    | nil => simpa [eq_comm] using tails
    | cons =>
      simp only [List.cons_append, List.cons.injEq] at tails
      simp [tails.2] at leftPlain rightPlain

theorem deviceSPIFFEID_inj {trustDomain peerID otherDomain otherPeer : String}
    (plain : '/' ∉ peerID.toList) (otherPlain : '/' ∉ otherPeer.toList)
    (equal : deviceSPIFFEID trustDomain peerID = deviceSPIFFEID otherDomain otherPeer) :
    peerID = otherPeer := by
  apply String.toList_injective
  have lists := congrArg String.toList equal
  simp only [deviceSPIFFEID, deviceSPIFFEPathPrefix, String.toList_append] at lists
  exact @last_segment_inj (_ ++ "/device".toList) (_ ++ "/device".toList) _ _ plain otherPlain
    (by simpa using lists)

theorem containsText_of_mem {text : String} {character : Char} (member : character ∈ text.toList) :
    containsText text (String.singleton character) = true := by
  unfold containsText
  rw [String.toList_singleton]
  generalize text.toList = characters at member
  induction characters with
  | nil => cases member
  | cons _ _ ih =>
    rcases List.mem_cons.mp member with rfl | later
    · simp [isSublist]
    · simp [isSublist, ih later]

theorem parseDeviceSPIFFEID_spec {raw : String} {identity : DeviceIdentity}
    (parsed : parseDeviceSPIFFEID env raw = .ok identity) :
    raw ≠ "" ∧ raw = deviceSPIFFEID identity.trustDomain identity.peerID ∧
      '/' ∉ identity.peerID.toList := by
  obtain ⟨_, given, parsed⟩ := bind_eq_ok.mp parsed
  obtain ⟨_, _, parsed⟩ := bind_eq_ok.mp parsed
  obtain ⟨_, _, parsed⟩ := bind_eq_ok.mp parsed
  obtain ⟨_, _, parsed⟩ := bind_eq_ok.mp parsed
  obtain ⟨_, _, parsed⟩ := bind_eq_ok.mp parsed
  obtain ⟨_, _, parsed⟩ := bind_eq_ok.mp parsed
  obtain ⟨_, segment, parsed⟩ := bind_eq_ok.mp parsed
  obtain ⟨_, made, parsed⟩ := bind_eq_ok.mp parsed
  obtain ⟨_, canonical, parsed⟩ := bind_eq_ok.mp parsed
  cases parsed
  obtain ⟨_, _, made⟩ := bind_eq_ok.mp made
  obtain ⟨_, _, made⟩ := bind_eq_ok.mp made
  obtain ⟨_, _, made⟩ := bind_eq_ok.mp made
  obtain ⟨_, _, made⟩ := bind_eq_ok.mp made
  obtain ⟨_, _, made⟩ := bind_eq_ok.mp made
  cases made
  rw [reject_eq_ok] at given segment canonical
  rw [Bool.or_eq_false_iff] at segment
  rw [bne_eq_false_iff_eq] at canonical
  refine ⟨by simpa using given, canonical.symm, ?_⟩
  intro slash
  have found := containsText_of_mem slash
  rw [show String.singleton '/' = "/" from rfl, segment.2] at found
  cases found

/-- The record a mapping makes when all its checks pass. -/
def mappedRecord (lib : PeerLibrary Multiaddr) (addrInfo : AddrInfo Multiaddr) (key : PubKey)
    (handle : UInt32) (spiffeID : String) (raw : Bytes) : IdentityRecord where
  peerID := addrInfo.id
  addrs := (addrInfo.addrs.getD []).map lib.multiaddrString
  keys := [⟨classifyKeyType key, encodeBase64 raw, formatTPMHandle handle⟩]
  handle := handle
  phase := .pending
  spiffeID := spiffeID

variable {addrInfo : AddrInfo Multiaddr} {handle : UInt32}

theorem mapAddrInfo_eq_ok {spiffeID : String} {record : IdentityRecord} :
    mapAddrInfoToIdentityRecord env lib addrInfo (some key) handle spiffeID = .ok record ↔
      validateTPMHandle handle = .ok () ∧ addrInfo.id ≠ "" ∧
      (∃ id, env.decodePeer addrInfo.id = .ok id) ∧ spiffeID ≠ "" ∧
      (∃ identity, parseDeviceSPIFFEID env spiffeID = .ok identity) ∧
      ∃ raw, lib.marshalPublicKey key = .ok raw ∧
        record = mappedRecord lib addrInfo key handle spiffeID raw := by
  simp only [mapAddrInfoToIdentityRecord, bind_eq_ok, reject_eq_ok, annotated, mapError_eq_ok,
    Unique.exists_iff, PUnit.default_eq_unit, beq_eq_false_iff_ne, pure, Except.pure,
    Except.ok.injEq, mappedRecord, eq_comm (a := record)]
  grind

theorem checkRecordAddress_eq_ok {entry : String × Nat} :
    checkRecordAddress lib entry = .ok () ↔ ∃ parsed, lib.newMultiaddr entry.1 = .ok parsed := by
  simp [checkRecordAddress, bind_eq_ok, annotated, mapError_eq_ok, pure, Except.pure]

theorem checkRecordKey_eq_ok {entry : IdentityRecordKey × Nat} :
    checkRecordKey lib entry = .ok () ↔ entry.1.type ≠ "" ∧ entry.1.rawBase64 ≠ "" ∧
      (∃ bytes, lib.decodeBase64 entry.1.rawBase64 = .ok bytes ∧ bytes ≠ []) ∧
      entry.1.tpmHandle ≠ "" ∧ validatePublicKeyType entry.1.type = .ok () := by
  simp only [checkRecordKey, bind_eq_ok, reject_eq_ok, annotated, mapError_eq_ok,
    beq_eq_false_iff_ne, List.isEmpty_eq_false_iff, Unique.exists_iff]
  grind

/-- What the check of a mapped record asks. -/
theorem validateIdentityRecord_mapped {spiffeID peerID : String} {raw : Bytes} :
    validateIdentityRecord env lib
        (mappedRecord lib addrInfo key handle spiffeID raw) peerID = .ok () ↔
      addrInfo.id ≠ "" ∧ (∃ id, env.decodePeer addrInfo.id = .ok id) ∧
      addrInfo.id = peerID ∧ addrInfo.addrs.getD [] ≠ [] ∧
      (∀ address ∈ addrInfo.addrs.getD [], ∃ parsed,
        lib.newMultiaddr (lib.multiaddrString address) = .ok parsed) ∧
      (encodeBase64 raw ≠ "" ∧
        (∃ bytes, lib.decodeBase64 (encodeBase64 raw) = .ok bytes ∧ bytes ≠ []) ∧
        validatePublicKeyType (classifyKeyType key) = .ok ()) ∧
      handle ≠ 0 ∧ spiffeID ≠ "" ∧
      ∃ identity, parseDeviceSPIFFEID env spiffeID = .ok identity := by
  have addresses : (∀ entry ∈ ((addrInfo.addrs.getD []).map lib.multiaddrString).zipIdx,
      ∃ parsed, lib.newMultiaddr entry.1 = .ok parsed) ↔
      ∀ address ∈ addrInfo.addrs.getD [], ∃ parsed,
        lib.newMultiaddr (lib.multiaddrString address) = .ok parsed := by
    rw [← List.forall_mem_map (f := Prod.fst)
      (P := fun text => ∃ parsed, lib.newMultiaddr text = .ok parsed),
      List.zipIdx_map_fst, List.forall_mem_map]
  have handleText : formatTPMHandle handle ≠ "" := by simp [formatTPMHandle]
  simp only [validateIdentityRecord, mappedRecord, bind_eq_ok, reject_eq_ok, annotated,
    mapError_eq_ok, Unique.exists_iff, PUnit.default_eq_unit, checkEach_eq_ok,
    checkRecordAddress_eq_ok, addresses,
    checkRecordKey_eq_ok, List.zipIdx_singleton, List.mem_singleton, forall_eq,
    beq_eq_false_iff_ne, bne_eq_false_iff_eq, List.isEmpty_eq_false_iff, List.map_eq_nil_iff,
    ne_eq, classifyKeyType_ne_empty, not_false_eq_true, true_and, handleText]
  grind

theorem not_rsa_of_mapsValid {spiffeID : String}
    (valid : MapsValid env lib addrInfo key handle spiffeID) :
    key.kind ≠ .rsa ∧ ∃ identity, parseDeviceSPIFFEID env spiffeID = .ok identity := by
  obtain ⟨_, mapped, valid, _, _⟩ := valid
  obtain ⟨_, _, _, _, parsed, _, _, rfl⟩ := mapAddrInfo_eq_ok.mp mapped
  obtain ⟨_, _, _, _, _, ⟨_, _, recognised⟩, _⟩ := validateIdentityRecord_mapped.mp valid
  refine ⟨?_, parsed⟩
  intro rsa
  rw [classifyKeyType_rsa rsa] at recognised
  revert recognised
  decide

/-- A mapped record is valid exactly when its key is not an RSA key, whose Go
type is not recognised, and the SPIFFE ID is one of this device. -/
theorem mapped_record_valid_iff (lawful : PeerLibrary.Lawful env lib)
    (named : addrInfo.id = lib.idFromPublicKey key) (addressed : addrInfo.addrs.getD [] ≠ [])
    (persistent : firstPersistentHandle ≤ handle ∧ handle ≤ lastPersistentHandle)
    (trustDomain : String) :
    MapsValid env lib addrInfo key handle (deviceSPIFFEID trustDomain addrInfo.id) ↔
      key.kind ≠ .rsa ∧ ∃ identity,
        parseDeviceSPIFFEID env (deviceSPIFFEID trustDomain addrInfo.id) = .ok identity := by
  constructor
  · exact not_rsa_of_mapsValid
  · rintro ⟨other, identity, parsed⟩
    obtain ⟨raw, marshalled, nonempty⟩ := lawful.marshalled key
    obtain ⟨given, canonical, segment⟩ := parseDeviceSPIFFEID_spec parsed
    obtain ⟨present, plain⟩ := lawful.segment key
    have decoded := lawful.peer key
    rw [← named] at present plain decoded
    have peer : addrInfo.id = identity.peerID := deviceSPIFFEID_inj plain segment canonical
    have inRange : validateTPMHandle handle = .ok () := by
      simp [validateTPMHandle, reject_eq_ok, persistent]
    have handled : handle ≠ 0 := by
      rintro rfl
      exact absurd persistent.1 (by decide)
    refine ⟨mappedRecord lib addrInfo key handle (deviceSPIFFEID trustDomain addrInfo.id) raw,
      ?_, ?_, ?_, ?_⟩
    · exact mapAddrInfo_eq_ok.mpr ⟨inRange, present, ⟨_, decoded⟩, given, ⟨_, parsed⟩, raw,
        marshalled, rfl⟩
    · refine validateIdentityRecord_mapped.mpr ⟨present, ⟨_, decoded⟩, rfl, addressed, ?_, ?_,
        handled, given, _, parsed⟩
      · intro address _
        exact lawful.parsed address
      · exact ⟨encodeBase64_ne_empty nonempty, lawful.decoded raw nonempty,
          validatePublicKeyType_classified other⟩
    · simp [validateHandleOwnership, mappedRecord, bind_eq_ok, reject_eq_ok, checkEach_eq_ok]
    · simp only [validateSPIFFEDerivation, mappedRecord, bind_eq_ok, reject_eq_ok,
        mapError_eq_ok, Unique.exists_iff, parsed, beq_eq_false_iff_ne, bne_eq_false_iff_eq]
      exact ⟨given, present, identity, rfl, peer.symm, by rw [canonical, peer]⟩

/-- Libraries that keep the texts of addresses. -/
def plainLibrary : PeerLibrary String where
  idFromPublicKey _ := samplePeer
  marshalPublicKey key := .ok (8 :: key.raw)
  decodeBase64 _ := .ok [8]
  newMultiaddr text := .ok text
  multiaddrString text := text

theorem plainLibrary_lawful : PeerLibrary.Lawful (samplePlatform []) plainLibrary where
  marshalled key := ⟨8 :: key.raw, rfl, nofun⟩
  decoded _ _ := ⟨[8], rfl, nofun⟩
  parsed address := ⟨address, rfl⟩
  peer _ := rfl
  segment _ := by
    change samplePeer ≠ "" ∧ '/' ∉ samplePeer.toList
    decide

def sampleAddrInfo : AddrInfo String :=
  ⟨samplePeer, some ["/ip4/10.0.0.1/tcp/4001"]⟩

theorem sample_spiffeID_parses : ∃ identity, parseDeviceSPIFFEID (samplePlatform [])
    (deviceSPIFFEID sampleName sampleAddrInfo.id) = .ok identity :=
  isOk_eq_true.mp (by decide +kernel)

theorem ed25519_record_valid : MapsValid (samplePlatform []) plainLibrary sampleAddrInfo
    ⟨.ed25519, [1]⟩ 0x81000000 (deviceSPIFFEID sampleName sampleAddrInfo.id) :=
  (mapped_record_valid_iff plainLibrary_lawful rfl (by decide) (by decide) sampleName).mpr
    ⟨nofun, sample_spiffeID_parses⟩

/-- The record of an RSA key is refused. -/
theorem rsa_record_invalid : PeerLibrary.Lawful (samplePlatform []) plainLibrary ∧
    ¬ MapsValid (samplePlatform []) plainLibrary sampleAddrInfo ⟨.rsa, [1]⟩ 0x81000000
      (deviceSPIFFEID sampleName sampleAddrInfo.id) := by
  refine ⟨plainLibrary_lawful, ?_⟩
  intro valid
  exact (not_rsa_of_mapsValid valid).1 rfl

end Mapped

end Sovereignite.Trust
