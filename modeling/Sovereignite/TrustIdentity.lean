import Sovereignite.TrustTypes

/-!
# Device identities

A device is named by a canonical IPNS identifier, the peer ID of the same key
and the SPIFFE ID built from both.
-/

namespace Sovereignite.Trust

open Effect

def failure {α : Type} (text : String) : Except Error α :=
  .error (.message text)

/-- Accept one DNS label: at most 63 lowercase letters, digits and inner
hyphens. -/
def validateHostnameLabel (name : String) : Except Error Unit := do
  reject (byteLength name == 0) (.message "hostname is required")
  reject (decide (63 < byteLength name)) (.message "hostname exceeds the 63-byte DNS label limit")
  match hostnameOffset name.length 0 name.toList with
  | none => .ok ()
  | some index => failure s!"hostname contains an invalid byte at offset {index}"

def deviceSPIFFEPathPrefix : String := "/device/"

def maximumSPIFFEIDBytes : Nat := 2048

section Identity

variable (env : Platform)

/-- Accept a lowercase base36 CIDv1 of a libp2p key in its canonical text. -/
def parseCanonicalIPNS (canonicalIPNS : String) : Except Error (String × Cid) := do
  reject (canonicalIPNS == "") (.message "canonical IPNS identifier is required")
  reject (trimSpace canonicalIPNS != canonicalIPNS ||
      hasPrefix canonicalIPNS "/ipns/" || canonicalIPNS != canonicalIPNS.toLower)
    (.message "IPNS identifier must be lowercase canonical text without an /ipns/ prefix")
  (validateHostnameLabel canonicalIPNS).mapError (.wrap "IPNS trust domain")
  let keyCID ← annotated "decode canonical IPNS identifier" (env.decodeCid canonicalIPNS)
  reject (keyCID.version != 1 || keyCID.codec != cidLibp2pKey)
    (.message "IPNS trust domain must be a CIDv1 libp2p-key identifier")
  let reencoded ← annotated "encode canonical IPNS identifier" (env.encodeCidBase36 keyCID)
  reject (reencoded != canonicalIPNS) (.message "IPNS identifier is not canonical base36 CIDv1")
  return (canonicalIPNS, keyCID)

def trustDomainFromIPNS (canonicalIPNS : String) : Except Error String := do
  let (trustDomain, _) ← parseCanonicalIPNS env canonicalIPNS
  return trustDomain

/-- The SPIFFE ID of a peer in a trust domain.  Neither part has a character
that a URL would escape. -/
def deviceSPIFFEID (trustDomain peerID : String) : String :=
  "spiffe://" ++ trustDomain ++ deviceSPIFFEPathPrefix ++ peerID

/-- The identity of a canonical name and peer ID that encode the same key. -/
def deriveDeviceIdentity (canonicalIPNS canonicalPeerID : String) :
    Except Error DeviceIdentity := do
  let (trustDomain, keyCID) ← parseCanonicalIPNS env canonicalIPNS
  let peerID ← annotated "decode peer ID" (env.decodePeer canonicalPeerID)
  reject (peerID != canonicalPeerID) (.message "peer ID is not in its canonical text form")
  reject (env.peerToCid peerID != keyCID)
    (.message "canonical IPNS identifier and peer ID represent different identities")
  let spiffeID := deviceSPIFFEID trustDomain canonicalPeerID
  reject (decide (maximumSPIFFEIDBytes < byteLength spiffeID))
    (.message "device SPIFFE ID exceeds 2048 bytes")
  return { canonicalIPNS, peerID := canonicalPeerID, trustDomain, spiffeID }

/-- Parse the sole device subject form and check that it is canonical. -/
def parseDeviceSPIFFEID (raw : String) : Except Error DeviceIdentity := do
  reject (raw == "") (.message "device SPIFFE ID is required")
  reject (decide (maximumSPIFFEIDBytes < byteLength raw))
    (.message "device SPIFFE ID exceeds 2048 bytes")
  reject (containsText raw "%") (.message "device SPIFFE ID must not use percent encoding")
  let id ← annotated "parse device SPIFFE ID" (env.parseUrl raw)
  reject (id.scheme != "spiffe" || id.opaquePart != "" || id.hasUser || id.host == "" ||
      id.rawPath != "" || id.rawQuery != "" || id.forceQuery || id.fragment != "" ||
      id.rawFragment != "")
    (.message "device SPIFFE ID has an invalid URI form")
  reject (!hasPrefix id.path deviceSPIFFEPathPrefix)
    (.message "device SPIFFE ID has an unauthorized subject namespace")
  let peerText := trimPrefix id.path deviceSPIFFEPathPrefix
  reject (peerText == "" || containsText peerText "/")
    (.message "device SPIFFE ID must contain one peer ID path segment")
  let identity ← deriveDeviceIdentity env id.host peerText
  reject (identity.spiffeID != raw) (.message "device SPIFFE ID is not canonical")
  return identity

end Identity

end Sovereignite.Trust
