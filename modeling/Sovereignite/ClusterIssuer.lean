import Sovereignite.CertificateSigning

/-!
# The issuer of the cluster

An issuer is read from an object of the cluster, with its profiles.  A request
for a certificate is signed under the profile the controller was started with,
whose fields become the options of the signer.
-/

namespace Sovereignite.Controllers

open Effect

def issuersPath : String := "/apis/pki.sovereignite.io/v1alpha1/tpmclusterissuers"

/-- A profile; an absent one is read as the profile with no entry set. -/
structure Profile where
  maxDuration : Duration := 0
  usages : List String := []
  allowedDNSDomains : List String := []
  allowedSpiffeTrustDomains : List String := []
  allowWildcardDNSNames : Bool := false
  isCA : Bool := false
  maxPathLen : Int := 0
  deriving DecidableEq

structure Issuer where
  name : String
  signerName : String
  caConfigMapNamespace : String
  caConfigMapName : String
  caConfigMapKey : String
  pkcs11 : PKCS11Ref
  profiles : List (String × Profile)
  requireApprovedCondition : Bool
  denyCARequests : Bool
  object : Object

section Parsing

variable (lib : Library)

def parseProfile (value : Json) : Profile :=
  let m := mapValue value
  { maxDuration := parseDuration lib (stringValue (m.field "maxDuration"))
    usages := stringSlice (m.field "usages")
    allowedDNSDomains := stringSlice (m.field "allowedDNSDomains")
    allowedSpiffeTrustDomains := stringSlice (m.field "allowedSpiffeTrustDomains")
    allowWildcardDNSNames := boolValue (m.field "allowWildcardDNSNames") false
    isCA := boolValue (m.field "isCA") false
    maxPathLen := lib.int64Value (m.field "maxPathLen") }

def parseProfiles (raw : Object) : List (String × Profile) :=
  let out := raw.map fun entry => (entry.1, parseProfile lib entry.2)
  if (out.lookup "default").isSome then out
  else ("default", { maxDuration := 24 * hour, usages := ["digital signature"] }) :: out

def pinFromSpec (pkcs11 : Object) : Running String :=
  let envName := stringValue (pkcs11.field "userPinEnv")
  let ref := mapValue (pkcs11.field "userPinSecretRef")
  let name := stringValue (ref.field "name")
  let namespaceName := stringValue (ref.field "namespace")
  let key := stringValue (ref.field "key")
  if envName != "" then do
    return trimSpace (← ask (.getenv envName))
  else if name == "" then
    return ""
  else do
    Program.rejectIf (namespaceName == "" || key == "")
      (.message "userPinSecretRef requires namespace and key")
    getSecretValue lib namespaceName name key

/-- A text, or another one if it is empty. -/
def orElse (text default : String) : String :=
  if text == "" then default else text

def issuerOf (obj : Object) (pin : String) : Issuer :=
  let spec := nestedMap obj ["spec"]
  let caRef := mapValue (spec.field "caRef")
  let caConfigRef := mapValue (caRef.field "certificateConfigMapRef")
  let pkcs11 := mapValue (spec.field "pkcs11")
  let requestPolicy := mapValue (spec.field "requestPolicy")
  { name := nameOf obj
    signerName := stringValue (spec.field "signerName")
    caConfigMapNamespace :=
      orElse (stringValue (caConfigRef.field "namespace")) "sovereignite-system"
    caConfigMapName :=
      orElse (stringValue (caConfigRef.field "name")) (stringValue (caRef.field "name"))
    caConfigMapKey := orElse (stringValue (caConfigRef.field "key")) "ca.crt"
    pkcs11 := {
      modulePath := stringValue (pkcs11.field "modulePath")
      tokenLabel := stringValue (pkcs11.field "tokenLabel")
      keyLabel := stringValue (pkcs11.field "keyLabel")
      userPIN := pin }
    profiles := parseProfiles lib (mapValue (spec.field "profiles"))
    requireApprovedCondition :=
      boolValue (requestPolicy.field "requireApprovedCondition") true
    denyCARequests := boolValue (requestPolicy.field "denyCARequests") true
    object := obj }

def parseIssuer (obj : Object) : Running Issuer := do
  let pin ← pinFromSpec lib (mapValue ((nestedMap obj ["spec"]).field "pkcs11"))
  let iss := issuerOf lib obj pin
  Program.rejectIf (iss.signerName == "") (.message "spec.signerName is required")
  return iss

def usageSubset (requested allowed : List String) : Bool :=
  requested.all fun usage =>
    (allowed.map (normalizeUsage lib)).contains (normalizeUsage lib usage)

end Parsing

section Signing

variable (lib : Library)

def Issuer.selectedProfile (iss : Issuer) (defaultProfile : String) : Profile :=
  (iss.profiles.lookup defaultProfile).getD {}

def requestedUsages (spec : Object) (selectedProfile : Profile) : List String :=
  let requested := stringSlice (spec.field "usages")
  if requested.isEmpty then selectedProfile.usages else requested

def requestedCA (spec : Object) : Bool :=
  boolValue (spec.field "isCA") false

def signingOptions (iss : Issuer) (spec : Object) (selectedProfile : Profile) : Options where
  usages := requestedUsages spec selectedProfile
  maxDuration := selectedProfile.maxDuration
  requestedDuration := parseDuration lib (stringValue (spec.field "duration"))
  allowedDNSDomains := selectedProfile.allowedDNSDomains
  allowedSpiffeTrustDomains := selectedProfile.allowedSpiffeTrustDomains
  allowWildcardDNSNames := selectedProfile.allowWildcardDNSNames
  allowCA := requestedCA spec && !iss.denyCARequests && selectedProfile.isCA
  isCA := requestedCA spec
  maxPathLen := selectedProfile.maxPathLen

/-- The outcome of the patch is only logged. -/
def patchIssuerReady (obj : Object) (status reason message serial : String) : Running Unit :=
  let name := nameOf obj
  if name == "" then
    return ()
  else do
    let time ← ask .now
    let serialEntry := if serial == "" then [] else [("lastIssuedSerial", Json.string serial)]
    let st := [("observedGeneration", Json.number (toString (lib.generation obj))),
      ("conditions", .array [readyCondition lib status reason message time])]
    let _ ← ask (.mergePatch (issuersPath ++ "/" ++ name ++ "/status")
      (.object [("status", .object (st ++ serialEntry))]))
    return ()

def statusPatch (cr : Object) (issued : IssuedCertificate) (time : Time) : List Json :=
  let add (path : String) (value : Json) : Json :=
    .object [("op", .string "add"), ("path", .string path), ("value", value)]
  let ready := readyCondition lib "True" "Issued" "certificate issued by TPMClusterIssuer" time
  let condition :=
    match (nestedMap cr ["status"]).field "conditions" with
    | .array _ => add "/status/conditions/-" ready
    | _ => add "/status/conditions" (.array [ready])
  [add "/status/certificate" (.string (encodeBase64 (bytesOf issued.certificatePEM))),
    add "/status/ca" (.string (encodeBase64 (bytesOf issued.caPEM))), condition]

def signCertificateRequest (iss : Issuer) (cr : Object) (defaultProfile : String) :
    Running Unit := do
  Program.rejectIf (hasCondition cr "Denied" "True") (.message "request is denied")
  Program.rejectIf (iss.requireApprovedCondition && !hasCondition cr "Approved" "True")
    (.message "request is not approved")
  let spec := nestedMap cr ["spec"]
  Program.rejectIf (iss.denyCARequests && requestedCA spec)
    (.message "CA certificate requests are denied")
  let selectedProfile := iss.selectedProfile defaultProfile
  let usages := requestedUsages spec selectedProfile
  Program.rejectIf (!selectedProfile.usages.isEmpty &&
      !usageSubset lib usages selectedProfile.usages)
    (.message ("requested usages " ++ listed usages ++ " exceed profile usages " ++
      listed selectedProfile.usages))
  let request := stringValue (spec.field "request")
  Program.rejectIf (request == "") (.message "spec.request is empty")
  let csrBytes ← take (annotated "decode spec.request" (lib.decodeBase64 request))
  let caPEM ← getConfigMapValue iss.caConfigMapNamespace iss.caConfigMapName iss.caConfigMapKey
  let issued ← signCSR lib csrBytes caPEM iss.pkcs11
    (signingOptions lib iss spec selectedProfile)
  let time ← ask .now
  take (← ask (.jsonPatch ("/apis/cert-manager.io/v1/namespaces/" ++ namespaceOf cr ++
    "/certificaterequests/" ++ nameOf cr ++ "/status") (statusPatch lib cr issued time)))
  patchIssuerReady lib iss.object "True" "Issued"
    ("last issued serial " ++ issued.serial) issued.serial

end Signing

end Sovereignite.Controllers
