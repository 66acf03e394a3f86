import Sovereignite.ControllerObjects

/-!
# Signing a certificate request

A request is checked against the options of the signer, and the certificate is
made of the request's names, the signer's clock and the options.  Options that
are empty or zero restrict nothing.
-/

namespace Sovereignite.Controllers

open Effect

structure PKCS11Ref where
  modulePath : String
  tokenLabel : String
  keyLabel : String
  userPIN : String
  deriving DecidableEq

structure Options where
  usages : List String
  maxDuration : Duration
  requestedDuration : Duration
  allowedDNSDomains : List String
  allowedSpiffeTrustDomains : List String
  allowWildcardDNSNames : Bool
  allowCA : Bool
  isCA : Bool
  maxPathLen : Int
  deriving DecidableEq

structure IssuedCertificate where
  certificatePEM : String
  caPEM : String
  serial : String
  deriving DecidableEq

def keyUsageKeyEncipherment : Nat := 4

def minute : Duration := 60 * 10 ^ 9

def hour : Duration := 60 * minute

section Checks

variable (lib : Library)

/-- Zero stands for an absent duration and for one that cannot be read. -/
def parseDuration (value : String) : Duration :=
  if value == "" then 0
  else
    match lib.parseDuration value with
    | .ok duration => duration
    | .error _ => 0

def normalizeUsage (usage : String) : String :=
  lib.lower (trimSpace (String.ofList (usage.toList.map fun character =>
    if character == '_' then ' ' else character)))

def dnsNameAllowed (name : String) (domains : List String) : Bool :=
  let name := trimSuffix (lib.lower (trimPrefix name "*.")) "."
  domains.any fun domain =>
    let domain := trimSuffix (lib.lower domain) "."
    name == domain || hasSuffix name ("." ++ domain)

def stringAllowed (value : String) (allowed : List String) : Bool :=
  allowed.any fun candidate => lib.equalFold value candidate

def validateCSR (csr : CertificateRequest) (opts : Options) : Except Error Unit := do
  checkEach (fun name => reject (!opts.allowWildcardDNSNames && hasPrefix name "*.")
    (.message ("wildcard DNS name " ++ quoted name ++ " is not allowed"))) csr.dnsNames
  checkEach (fun name => reject (!opts.allowedDNSDomains.isEmpty &&
      !dnsNameAllowed lib name opts.allowedDNSDomains)
    (.message ("DNS name " ++ quoted name ++ " is outside allowed domains"))) csr.dnsNames
  checkEach (fun uri => reject (uri.scheme == "spiffe" && !opts.allowedSpiffeTrustDomains.isEmpty &&
      !stringAllowed lib uri.host opts.allowedSpiffeTrustDomains)
    (.message ("SPIFFE trust domain " ++ quoted uri.host ++ " is not allowed"))) csr.uris

def addUsage (allowCA : Bool) (state : Nat × List ExtKeyUsage) (usage : String) :
    Except Error (Nat × List ExtKeyUsage) :=
  let normalized := normalizeUsage lib usage
  let forAuthority (flag : Nat) : Except Error (Nat × List ExtKeyUsage) := do
    reject (!allowCA) (.message ("CA usage " ++ quoted usage ++ " is not allowed"))
    return (state.1 ||| flag, state.2)
  if normalized == "digital signature" || normalized == "signing" then
    .ok (state.1 ||| keyUsageDigitalSignature, state.2)
  else if normalized == "key encipherment" then
    .ok (state.1 ||| keyUsageKeyEncipherment, state.2)
  else if normalized == "server auth" then
    .ok (state.1, state.2 ++ [.serverAuth])
  else if normalized == "client auth" then
    .ok (state.1, state.2 ++ [.clientAuth])
  else if normalized == "cert sign" then
    forAuthority keyUsageCertSign
  else if normalized == "crl sign" then
    forAuthority keyUsageCRLSign
  else if normalized == "" then
    .ok state
  else
    failure ("unsupported usage " ++ quoted usage)

def usages (names : List String) (allowCA : Bool) : Except Error (Nat × List ExtKeyUsage) := do
  let (keyUsage, ext) ← foldEach (addUsage lib allowCA) (0, []) names
  return (if keyUsage == 0 then keyUsageDigitalSignature else keyUsage, ext)

def parseCSR (data : Bytes) : Except Error CertificateRequest := do
  let data :=
    match lib.decodeTrimmedBase64 data with
    | .ok decoded => decoded
    | .error _ => data
  let data ← match lib.decodePem data with
    | some (kind, bytes) => do
      reject (kind != "CERTIFICATE REQUEST" && kind != "NEW CERTIFICATE REQUEST")
        (.message ("unexpected PEM block type " ++ quoted kind))
      .ok bytes
    | none => .ok data
  plain (lib.parseCertificateRequest data)

def parseCertificatePEM (data : Bytes) : Except Error Certificate :=
  match lib.decodePem data with
  | none => failure "missing certificate PEM block"
  | some (kind, bytes) => do
    reject (kind != "CERTIFICATE") (.message ("unexpected PEM block type " ++ quoted kind))
    plain (lib.parseCertificate bytes)

end Checks

/-- The requested duration, cut to the longest one if there is a longest one. -/
def grantedDuration (opts : Options) : Duration :=
  let duration :=
    if opts.requestedDuration ≤ 0 ∨
        (opts.requestedDuration > opts.maxDuration ∧ opts.maxDuration > 0) then
      opts.maxDuration
    else
      opts.requestedDuration
  if duration ≤ 0 then 24 * hour else duration

def templateOf (csr : CertificateRequest) (opts : Options) (now : Time) (serial : Nat)
    (keyUsage : Nat) (extKeyUsage : List ExtKeyUsage) : Template where
  serialNumber := serial
  subject := csr.subject
  dnsNames := csr.dnsNames
  ipAddresses := csr.ipAddresses
  uris := csr.uris
  emailAddresses := csr.emailAddresses
  notBefore := now - 5 * minute
  notAfter := now + grantedDuration opts
  keyUsage := keyUsage
  extKeyUsage := extKeyUsage
  basicConstraintsValid := true
  isCA := opts.isCA
  maxPathLen := if opts.isCA then opts.maxPathLen else 0
  maxPathLenZero := opts.isCA && opts.maxPathLen == 0

/-- The token is closed again when it does not hold the key. -/
def loadPKCS11Signer (ref : PKCS11Ref) : Running Nat := do
  Program.rejectIf (ref.modulePath == "" || ref.tokenLabel == "" || ref.keyLabel == "")
    (.message "modulePath, tokenLabel, and keyLabel are required")
  takeAs ("configure PKCS#11 token " ++ quoted ref.tokenLabel)
    (← ask (.configureToken ref.modulePath ref.tokenLabel ref.userPIN))
  match ← ask (.findKeyPair ref.keyLabel) with
  | .ok (some signer) => return signer
  | .ok none => do
    let _ ← ask .closeToken
    .fail (.message ("PKCS#11 key " ++ quoted ref.keyLabel ++ " not found"))
  | .error error => do
    let _ ← ask .closeToken
    .fail (.wrap ("find PKCS#11 key " ++ quoted ref.keyLabel) error)

/-- A serial in upper-case hexadecimal digits. -/
def serialText (serial : Nat) : String :=
  String.ofList ((Nat.toDigits 16 serial).map Char.toUpper)

def createSigned (lib : Library) (csr : CertificateRequest) (caPEM : String)
    (caCert : Certificate) (signer : Nat) (opts : Options) : Running IssuedCertificate := do
  let now ← ask .now
  let serial ← take (← ask (.randomInt (2 ^ 128)))
  let (keyUsage, extKeyUsage) ← take (usages lib opts.usages opts.allowCA)
  let der ← takeAs "create certificate with PKCS#11 signer"
    (← ask (.createCertificate (templateOf csr opts now serial keyUsage extKeyUsage) caCert
      csr.publicKey signer))
  return {
    certificatePEM := lib.encodePem "CERTIFICATE" der ++ trimSpace caPEM ++ "\n"
    caPEM := trimSpace caPEM ++ "\n"
    serial := serialText serial }

def signCSR (lib : Library) (csrBytes : Bytes) (caPEM : String) (ref : PKCS11Ref)
    (opts : Options) : Running IssuedCertificate := do
  let csr ← take (parseCSR lib csrBytes)
  take (annotated "CSR signature check failed" (lib.checkSignature csr))
  take (validateCSR lib csr opts)
  Program.rejectIf (opts.isCA && !opts.allowCA)
    (.message "CA certificate requested but CA issuance is not allowed")
  let caCert ← take ((parseCertificatePEM lib (bytesOf caPEM)).mapError
    (.wrap "parse CA certificate"))
  let signer ← loadPKCS11Signer ref
  let outcome ← (createSigned lib csr caPEM caCert signer opts).attempt
  let _ ← ask .closeToken
  take outcome

end Sovereignite.Controllers
