import Sovereignite.ClusterIssuer
import Sovereignite.EffectEmbedding

/-!
# The signer of cluster certificate requests

A pass of the controller reads the policies, then the certificate signing
requests, and deals with each request under the policy of its signer name.
Where a policy does not require an approval the controller approves the request
itself.  Two requests of the programs have no effect on the cluster; they mark
points of a run of which the specification speaks: that a request is dealt with
under a policy, and that it is approved.
-/

namespace Sovereignite.Controllers.CsrSigner

open Effect

def policiesPath : String := "/apis/pki.sovereignite.io/v1alpha1/tpmcsrsignerpolicies"

def csrsPath : String := "/apis/certificates.k8s.io/v1/certificatesigningrequests"

/-- The functions of the standard library that only this controller calls.  A
compiled expression is the test it performs. -/
structure PolicyLibrary extends Library where
  compileRegexp : String → Except String (String → Bool)
  subjectString : DistinguishedName → String

structure Policy where
  name : String
  signerName : String
  caConfigMapNamespace : String
  caConfigMapName : String
  caConfigMapKey : String
  pkcs11 : PKCS11Ref
  allowedUsages : List String
  allowedSubjectRegexes : List (String → Bool)
  maxDuration : Duration
  requireApprovedCondition : Bool
  object : Object

inductive Request where
  | cluster (request : Controllers.Request)
  | dealing (p : Policy) (csrObj : Object)
  | approving (p : Policy) (csrObj : Object)

def Reply : Request → Type
  | .cluster request => Controllers.Reply request
  | .dealing _ _ => Unit
  | .approving _ _ => Unit

def signature : Signature := ⟨Request, Reply⟩

abbrev Running (α : Type) := Program signature Error α

/-- The requests of all controllers among those of this one. -/
def shared : Inclusion Controllers.signature signature where
  request := .cluster
  reply _ reply := reply

def sharedProgram {α : Type} (program : Controllers.Running α) : Running α :=
  program.embed shared

def ask (request : Controllers.Request) : Running (Controllers.Reply request) :=
  sharedProgram (Controllers.ask request)

def mark (request : Request) : Running (Reply request) :=
  Program.perform (S := signature) request

def take {α : Type} (outcome : Except Error α) : Running α :=
  Program.ofExcept outcome

section Parsing

variable (lib : PolicyLibrary)

/-- The objects of a list; an item that is no object is left out. -/
def itemsOf (object : Object) : List Object :=
  (arrayValue (object.field "items")).filterMap fun
    | .object members => some members
    | _ => none

def list (path : String) : Running (List Object) := do
  let object ← take (← ask (.get path))
  return itemsOf object

def compileRegexes (patterns : List String) : Except Error (List (String → Bool)) :=
  patterns.mapM fun pattern =>
    annotated ("compile subject regex " ++ quoted pattern) (lib.compileRegexp pattern)

def policyOf (obj : Object) (pin : String) (regexes : List (String → Bool)) : Policy :=
  let spec := nestedMap obj ["spec"]
  let caRef := mapValue (spec.field "caRef")
  let caConfigRef := mapValue (caRef.field "certificateConfigMapRef")
  let pkcs11 := mapValue (spec.field "pkcs11")
  { name := nameOf obj
    signerName := stringValue (spec.field "signerName")
    caConfigMapNamespace :=
      orElse (stringValue (caConfigRef.field "namespace")) "sovereignite-system"
    caConfigMapName :=
      orElse (stringValue (caConfigRef.field "name")) (stringValue (caRef.field "name"))
    caConfigMapKey := orElse (stringValue (caConfigRef.field "key")) "ca.crt"
    pkcs11 := {
      modulePath := stringValue (pkcs11.field "modulePath")
      tokenLabel := stringValue (pkcs11.field "tokenLabel")
      keyLabel := stringValue (pkcs11.field "keyLabel")
      userPIN := pin }
    allowedUsages := stringSlice (spec.field "allowedUsages")
    allowedSubjectRegexes := regexes
    maxDuration := parseDuration lib.toLibrary (stringValue (spec.field "maxDuration"))
    requireApprovedCondition := boolValue (spec.field "requireApprovedCondition") true
    object := obj }

def parsePolicy (obj : Object) : Running Policy := do
  let spec := nestedMap obj ["spec"]
  let pin ← sharedProgram (pinFromSpec lib.toLibrary (mapValue (spec.field "pkcs11")))
  let regexes ← take (compileRegexes lib (stringSlice (spec.field "allowedSubjectRegexes")))
  let p := policyOf lib obj pin regexes
  Program.rejectIf (p.signerName == "") (.message "spec.signerName is required")
  Program.rejectIf p.allowedUsages.isEmpty (.message "spec.allowedUsages is required")
  return p

/-- The outcome of the patch is only logged. -/
def patchPolicyReady (obj : Object) (status reason message : String) : Running Unit :=
  let name := nameOf obj
  if name == "" then
    return ()
  else do
    let time ← ask .now
    let _ ← ask (.mergePatch (policiesPath ++ "/" ++ name ++ "/status")
      (.object [("status", .object
        [("observedGeneration", .number (toString (lib.generation obj))),
          ("conditions", .array [readyCondition lib.toLibrary status reason message time])])]))
    return ()

/-- The policies by signer name, the latest one first. -/
abbrev Policies := List (String × Policy)

/-- Take up one policy object.  An invalid one is reported and left out. -/
def loadPolicy (policyName : String) (out : Policies) (item : Object) : Running Policies :=
  if policyName != "" && nameOf item != policyName then
    return out
  else do
    match ← (parsePolicy lib item).attempt with
    | .error error => do
      patchPolicyReady lib item "False" "InvalidPolicy" (error.text Empty.elim)
      return out
    | .ok p => do
      patchPolicyReady lib item "True" "Ready" "policy accepted"
      return (p.signerName, p) :: out

def loadPolicies (policyName : String) : Running Policies := do
  let items ← list policiesPath
  Program.forEach (loadPolicy lib policyName) [] items

end Parsing

section Signing

variable (lib : PolicyLibrary)

/-- The check of the usages, in this controller's own copy. -/
def usageSubset (requested allowed : List String) : Bool :=
  Controllers.usageSubset lib.toLibrary requested allowed

def subjectAllowed (fullSubject commonName : String) (regexes : List (String → Bool)) : Bool :=
  regexes.any fun re => re commonName || re fullSubject

def int64 (value : Int) : Int :=
  (value + 2 ^ 63) % 2 ^ 64 - 2 ^ 63

/-- The approval is added after the conditions that are there. -/
def approveCSR (p : Policy) (csrObj : Object) : Running Unit := do
  let _ ← mark (.approving p csrObj)
  let time ← ask .now
  let now := lib.formatTime time
  let condition := Json.object
    [("type", .string "Approved"), ("status", .string "True"),
      ("reason", .string "TPMCSRSignerPolicy"),
      ("message", .string ("Approved by k8s-tpm-csr-signer policy " ++ p.name)),
      ("lastUpdateTime", .string now), ("lastTransitionTime", .string now)]
  let existing := arrayValue ((nestedMap csrObj ["status"]).field "conditions")
  take (← ask (.mergePatch (csrsPath ++ "/" ++ nameOf csrObj ++ "/approval")
    (.object [("status", .object [("conditions", .array (existing ++ [condition]))])])))

def signApproved (p : Policy) (csrObj : Object) : Running Unit := do
  let spec := nestedMap csrObj ["spec"]
  let request := stringValue (spec.field "request")
  Program.rejectIf (request == "") (.message "spec.request is empty")
  let requestedUsages := stringSlice (spec.field "usages")
  Program.rejectIf (!usageSubset lib requestedUsages p.allowedUsages)
    (.message ("requested usages " ++ listed requestedUsages ++ " exceed policy usages " ++
      listed p.allowedUsages))
  let csrBytes ← take (annotated "decode spec.request" (lib.decodeBase64 request))
  let parsedCSR ← take (parseCSR lib.toLibrary csrBytes)
  let fullSubject := lib.subjectString parsedCSR.subject
  Program.rejectIf (!p.allowedSubjectRegexes.isEmpty &&
      !subjectAllowed fullSubject parsedCSR.subject.commonName p.allowedSubjectRegexes)
    (.message ("CSR subject " ++ quoted fullSubject ++ " is outside policy"))
  let caPEM ← sharedProgram
    (getConfigMapValue p.caConfigMapNamespace p.caConfigMapName p.caConfigMapKey)
  let issued ← sharedProgram (Controllers.signCSR lib.toLibrary csrBytes caPEM p.pkcs11 {
    usages := requestedUsages
    maxDuration := p.maxDuration
    requestedDuration :=
      int64 (lib.int64Value (spec.field "expirationSeconds") * 10 ^ 9)
    allowedDNSDomains := []
    allowedSpiffeTrustDomains := []
    allowWildcardDNSNames := false
    allowCA := false
    isCA := false
    maxPathLen := 0 })
  take (← ask (.mergePatch (csrsPath ++ "/" ++ nameOf csrObj ++ "/status")
    (.object [("status", .object
      [("certificate", .string (encodeBase64 (bytesOf issued.certificatePEM)))])])))
  let signed :=
    int64 (lib.int64Value ((nestedMap p.object ["status"]).field "signedRequests") + 1)
  let time ← ask .now
  take (← ask (.mergePatch (policiesPath ++ "/" ++ p.name ++ "/status")
    (.object [("status", .object
      [("observedGeneration", .number (toString (lib.generation p.object))),
        ("signedRequests", .number (toString signed)),
        ("conditions", .array [readyCondition lib.toLibrary "True" "Signed"
          ("last signed serial " ++ issued.serial) time])])])))

def signCSR (p : Policy) (csrObj : Object) : Running Unit := do
  Program.rejectIf (hasCondition csrObj "Denied" "True") (.message "CSR is denied")
  Program.rejectIf (p.requireApprovedCondition && !hasCondition csrObj "Approved" "True")
    (.message "CSR is not approved")
  if !p.requireApprovedCondition && !hasCondition csrObj "Approved" "True" then
    (approveCSR lib p csrObj).mapError (.wrap "approve CSR")
  signApproved lib p csrObj

/-- Sign one request under its policy.  A request that has a certificate is only
approved; errors are only logged. -/
def signOrApprove (p : Policy) (csrObj : Object) : Running Unit :=
  if nestedString csrObj ["status", "certificate"] != "" then
    if !p.requireApprovedCondition && !hasCondition csrObj "Approved" "True" &&
        !hasCondition csrObj "Denied" "True" then do
      let _ ← (approveCSR lib p csrObj).attempt
      return ()
    else
      return ()
  else do
    let _ ← (signCSR lib p csrObj).attempt
    return ()

def dealWith (p : Policy) (csrObj : Object) : Running Unit := do
  let _ ← mark (.dealing p csrObj)
  signOrApprove lib p csrObj

/-- Deal with one request of the list, if its signer name has a policy. -/
def dealWithListed (policies : Policies) (_ : Unit) (csrObj : Object) : Running Unit :=
  match policies.lookup (stringValue ((nestedMap csrObj ["spec"]).field "signerName")) with
  | none => return ()
  | some p => dealWith lib p csrObj

def reconcile (policyName : String) : Running Unit := do
  let policies ← loadPolicies lib policyName
  if policies.isEmpty then
    return ()
  else
    let csrs ← list csrsPath
    Program.forEach (dealWithListed lib policies) () csrs

end Signing

end Sovereignite.Controllers.CsrSigner
