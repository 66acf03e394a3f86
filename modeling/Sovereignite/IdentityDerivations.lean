import Sovereignite.Libp2pIdentityProof

/-!
# Two derivations of a public identity

The shared package derives the peer ID, the IPNS name and the network prefix of
an Ed25519 key on its own.  The identity service derives the first two through
the network library, and the publisher maps the binary IPNS identifier to a
prefix.  The derivations hash other bytes and name another codec, so that they
agree for no key.
-/

namespace Sovereignite.Shared

open Effect
open Trust (Error trustDomainFromIPNS parseCanonicalIPNS)
open Libp2p (derivePublicIdentity PublicIdentity)

def projectName : String := "sovereignite"

def ed25519PublicKeySize : Nat := 32

/-- A network prefix: sixteen bytes of an address and how many bits count. -/
structure IPPrefix where
  address : Bytes
  bits : Nat
  deriving DecidableEq

structure Identity where
  publicKeyDER : Bytes
  peerID : String
  ipnsName : String
  ulaPrefix : IPPrefix
  deriving DecidableEq

def cidRaw : Nat := 0x55

/-- The binary form of a CID whose version and codec take one byte each. -/
def cidBytes (cid : Cid) : Bytes :=
  UInt8.ofNat cid.version :: UInt8.ofNat cid.codec :: cid.multihash

/-- A unique-local /48 from the first five bytes of a digest. -/
def uniqueLocal (digest : Bytes) : IPPrefix :=
  ⟨0xfd :: digest.take 5 ++ List.replicate 10 0, 48⟩

section Derivations

variable (env : Platform) (idFromBytes : Bytes → Except String String)

def libp2pKeyFromEd25519 (pub : Bytes) : Bytes :=
  0xed :: 0x01 :: pub

/-- The SHA2-256 multihash of some bytes: the code, the length and the digest. -/
def multihashSum (input : Bytes) : Bytes :=
  0x12 :: 0x20 :: env.sha256 input

/-- The multihash of a key and the text of the peer ID with these bytes. -/
def derivePeerID (pub : Bytes) : Except Error (Bytes × String) := do
  reject (pub.length != ed25519PublicKeySize)
    (.message s!"invalid Ed25519 public key size: {pub.length}")
  let multihash := multihashSum env (libp2pKeyFromEd25519 pub)
  let peerID ← annotated "peer ID from multihash" (idFromBytes multihash)
  return (multihash, peerID)

def deriveIPNSName (multihash : Bytes) : Except Error String :=
  annotated "base36 encode CID" (env.encodeCidBase36 ⟨1, cidRaw, multihash⟩)

def deriveULA (project : String) : Except Error IPPrefix := do
  let digest := env.sha256 (bytesOf project)
  reject (decide (digest.length < 5)) (.message "hash too short")
  return uniqueLocal digest

def deriveIdentity (pub : Bytes) : Except Error Identity := do
  let publicKeyDER ← annotated "marshal public key DER" (env.marshalPKIXPublicKey (.ed25519 pub))
  let (multihash, peerID) ← (derivePeerID env idFromBytes pub).mapError (.wrap "derive peer ID")
  let ipnsName ← (deriveIPNSName env multihash).mapError (.wrap "derive IPNS name")
  let ulaPrefix ← (deriveULA env projectName).mapError (.wrap "derive ULA")
  return { publicKeyDER, peerID, ipnsName, ulaPrefix }

def ulaDomainSeparator : String := "github.com/sovereignite/sovereignite/ula/v1\x00"

def ulaForIPNSIdentifier (identifier : Bytes) : Except Error IPPrefix := do
  reject identifier.isEmpty (.message "IPNS identifier must not be empty")
  return uniqueLocal (env.sha256 (bytesOf ulaDomainSeparator ++ identifier))

end Derivations

variable {env : Platform} {lib : Libp2p.Library} {idFromBytes : Bytes → Except String String}

def networkKey (pub : Bytes) : Libp2p.PubKey :=
  ⟨.ed25519, .ed25519 pub⟩

/-- What is assumed of the libraries: a peer ID stands for the multihash it was
made from, that of an Ed25519 key holds the marshalled key itself, and an
encoded CID decodes again. -/
structure Documented (env : Platform) (lib : Libp2p.Library)
    (idFromBytes : Bytes → Except String String) : Prop where
  cast : ∀ {multihash id}, idFromBytes multihash = .ok id →
    env.peerToCid id = ⟨1, cidLibp2pKey, multihash⟩
  inlined : ∀ {pub id}, lib.idFromPublicKey (networkKey pub) = .ok id →
    env.peerToCid id = ⟨1, cidLibp2pKey, [0x00, 0x24, 0x08, 0x01, 0x12, 0x20] ++ pub⟩
  decoded : ∀ {cid text}, env.encodeCidBase36 cid = .ok text → env.decodeCid text = .ok cid

def sharedCid (env : Platform) (pub : Bytes) : Cid :=
  ⟨1, cidRaw, multihashSum env (libp2pKeyFromEd25519 pub)⟩

variable {pub : Bytes} {identity : Identity} {handle : UInt32} {publicIdentity : PublicIdentity}

theorem deriveIdentity_spec (derived : deriveIdentity env idFromBytes pub = .ok identity) :
    idFromBytes (multihashSum env (libp2pKeyFromEd25519 pub)) = .ok identity.peerID ∧
      env.encodeCidBase36 (sharedCid env pub) = .ok identity.ipnsName ∧
      identity.ulaPrefix = uniqueLocal (env.sha256 (bytesOf projectName)) := by
  simp only [deriveIdentity, derivePeerID, deriveIPNSName, deriveULA, bind_eq_ok, annotated,
    mapError_eq_ok, pure, Except.pure, Except.ok.injEq, Prod.exists, Prod.mk.injEq] at derived
  obtain ⟨_, _, _, _, ⟨_, _, _, peer, rfl, rfl⟩, _, name, _, ⟨_, _, rfl⟩, rfl⟩ := derived
  exact ⟨peer, name, rfl⟩

theorem derivePublicIdentity_spec {publicKey : Libp2p.PubKey}
    (derived : derivePublicIdentity env lib handle publicKey = .ok publicIdentity) :
    lib.idFromPublicKey publicKey = .ok publicIdentity.peerID ∧
      (env.peerToCid publicIdentity.peerID).codec = cidLibp2pKey ∧
      env.encodeCidBase36 (env.peerToCid publicIdentity.peerID) = .ok publicIdentity.name := by
  simp only [derivePublicIdentity, bind_eq_ok, annotated, mapError_eq_ok, reject_eq_ok,
    Bool.or_eq_false_iff, bne_eq_false_iff_eq, pure, Except.pure, Except.ok.injEq] at derived
  obtain ⟨_, _, _, _, _, peer, _, ⟨_, codec⟩, _, name, _, _, _, _, rfl⟩ := derived
  exact ⟨peer, codec, name⟩

theorem codec_of_trustDomain {name trustDomain : String}
    (accepted : trustDomainFromIPNS env name = .ok trustDomain) :
    ∃ cid, env.decodeCid name = .ok cid ∧ cid.codec = cidLibp2pKey := by
  simp only [trustDomainFromIPNS, parseCanonicalIPNS, bind_eq_ok, annotated, mapError_eq_ok,
    reject_eq_ok, Bool.or_eq_false_iff, bne_eq_false_iff_eq] at accepted
  obtain ⟨_, ⟨_, _, _, _, _, _, cid, decoded, _, ⟨_, codec⟩, _⟩, _⟩ := accepted
  exact ⟨cid, decoded, codec⟩

theorem uniqueLocal_inj {first second : Bytes} :
    uniqueLocal first = uniqueLocal second ↔ first.take 5 = second.take 5 := by
  simp [uniqueLocal]

/-- For every key the peer IDs and the names differ and the name is no trust
domain.  The prefixes agree only where two digests share five bytes. -/
theorem derivations_disagree (documented : Documented env lib idFromBytes)
    (derived : deriveIdentity env idFromBytes pub = .ok identity)
    (libp2p : derivePublicIdentity env lib handle (networkKey pub) = .ok publicIdentity) :
    identity.peerID ≠ publicIdentity.peerID ∧
    identity.ipnsName ≠ publicIdentity.name ∧
    (ulaForIPNSIdentifier env (cidBytes (sharedCid env pub)) = .ok identity.ulaPrefix ↔
      (env.sha256 (bytesOf projectName)).take 5 =
        (env.sha256 (bytesOf ulaDomainSeparator ++ cidBytes (sharedCid env pub))).take 5) ∧
    ∀ trustDomain, trustDomainFromIPNS env identity.ipnsName ≠ .ok trustDomain := by
  obtain ⟨peer, name, ula⟩ := deriveIdentity_spec derived
  obtain ⟨networkPeer, codec, networkName⟩ := derivePublicIdentity_spec libp2p
  have decoded := documented.decoded name
  refine ⟨?_, ?_, ?_, ?_⟩
  · intro same
    have cids := documented.inlined networkPeer
    rw [← same, documented.cast peer] at cids
    -- one multihash starts with the code of SHA2-256, the other with that of the identity
    simp [multihashSum] at cids
  · intro same
    rw [same, documented.decoded networkName] at decoded
    rw [Except.ok.inj decoded] at codec
    exact absurd codec (by simp [sharedCid, cidRaw, cidLibp2pKey])
  · rw [ula, ← uniqueLocal_inj, eq_comm]
    simp [ulaForIPNSIdentifier, cidBytes, reject, bind, Except.bind, pure, Except.pure]
  · intro _ accepted
    obtain ⟨_, found, codec⟩ := codec_of_trustDomain accepted
    cases decoded.symm.trans found
    exact absurd codec (by simp [sharedCid, cidRaw, cidLibp2pKey])

def sampleKey : Bytes := List.replicate 32 7

/-- The peer IDs of the sample key: its digest and the key itself. -/
def hashedPeer : Cid := ⟨1, cidLibp2pKey, 0x12 :: 0x20 :: List.replicate 32 0⟩

def inlinedPeer : Cid := ⟨1, cidLibp2pKey, [0x00, 0x24, 0x08, 0x01, 0x12, 0x20] ++ sampleKey⟩

/-- Libraries that know the identities of the sample key. -/
def namingPlatform : Platform :=
  { Trust.samplePlatform [] with
    sha256 := fun _ => List.replicate 32 0
    marshalPKIXPublicKey := fun _ => .ok [7]
    encodeCidBase36 := fun cid =>
      if cid = { hashedPeer with codec := cidRaw } then .ok "kraw"
      else if cid = inlinedPeer then .ok "kkey"
      else .error "unknown CID"
    decodeCid := fun text =>
      .ok (if text = "kraw" then { hashedPeer with codec := cidRaw } else inlinedPeer)
    peerToCid := fun id => if id = "hashed" then hashedPeer else inlinedPeer }

def namingLibrary : Libp2p.Library :=
  { Libp2p.sampleLibrary with
    idFromPublicKey := fun key =>
      if key = networkKey sampleKey then .ok "inlined" else .error "unknown key" }

def namedPeer (multihash : Bytes) : Except String String :=
  if multihash = hashedPeer.multihash then .ok "hashed" else .error "unknown multihash"

theorem naming_documented : Documented namingPlatform namingLibrary namedPeer where
  cast {multihash id} made := by
    simp only [namedPeer] at made
    split at made <;> cases made
    next same => rw [same]; rfl
  inlined {pub id} made := by
    simp only [namingLibrary] at made
    split at made <;> cases made
    next same =>
      cases same
      rfl
  decoded {cid text} made := by
    simp only [namingPlatform] at made
    split_ifs at made <;> cases made <;> simp_all [namingPlatform]

def hashedIdentity : Identity where
  publicKeyDER := [7]
  peerID := "hashed"
  ipnsName := "kraw"
  ulaPrefix := uniqueLocal (List.replicate 32 0)

theorem hashedIdentity_derived :
    deriveIdentity namingPlatform namedPeer sampleKey = .ok hashedIdentity := by
  decide +kernel

theorem inlinedIdentity_derived :
    derivePublicIdentity namingPlatform namingLibrary 0x81000000 (networkKey sampleKey) =
      .ok ⟨0x81000000, networkKey sampleKey, "inlined", "kkey"⟩ := by
  decide +kernel

theorem sample_derivations_disagree :
    hashedIdentity.peerID ≠ "inlined" ∧ hashedIdentity.ipnsName ≠ "kkey" ∧
      ∀ trustDomain, trustDomainFromIPNS namingPlatform hashedIdentity.ipnsName ≠
        .ok trustDomain := by
  obtain ⟨peer, name, _, refused⟩ :=
    derivations_disagree naming_documented hashedIdentity_derived inlinedIdentity_derived
  exact ⟨peer, name, refused⟩

/-- The two derivations succeed for one key and give other names to it. -/
theorem identity_derivations_differ :
    ∃ env lib idFromBytes, Documented env lib idFromBytes ∧
      ∃ pub identity handle publicIdentity, deriveIdentity env idFromBytes pub = .ok identity ∧
        derivePublicIdentity env lib handle (networkKey pub) = .ok publicIdentity ∧
        identity.peerID ≠ publicIdentity.peerID ∧ identity.ipnsName ≠ publicIdentity.name ∧
        ∀ trustDomain, trustDomainFromIPNS env identity.ipnsName ≠ .ok trustDomain := by
  refine ⟨namingPlatform, namingLibrary, namedPeer, naming_documented, sampleKey, hashedIdentity,
    0x81000000, _, hashedIdentity_derived, inlinedIdentity_derived, by decide, by decide, ?_⟩
  intro _ accepted
  obtain ⟨_, decoded, codec⟩ := codec_of_trustDomain accepted
  cases decoded
  exact absurd codec (by decide)

end Sovereignite.Shared
