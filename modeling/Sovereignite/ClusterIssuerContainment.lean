import Sovereignite.CertificateNames
import Sovereignite.ClusterIssuer
import Sovereignite.EffectRequests

/-!
# Certificates stay within the profile of their issuer

The profile of an issuer says which names a certificate may carry, how long it
may last and whether it may be an authority.  The signer sees the profile only
as options in which an empty list, a zero duration and a missing profile all
mean that nothing is restricted.  A signed certificate satisfies its profile
exactly when the profile exists, a duration that the object gives can be read
as a positive one, and no name hides a wildcard from the check of the first
label.
-/

namespace Sovereignite.Controllers

open Effect

section Runs

/-- A certificate that was signed, with the reading of the clock before it. -/
structure Issued where
  time : Time
  template : Template
  der : Bytes
  deriving DecidableEq

structure World where
  clock : Time
  issued : List Issued
  deriving DecidableEq

/-- How the cluster, the token and the libraries may answer.  Only a signed
certificate leaves a trace; every other reply is arbitrary. -/
def answer (world : World) : (request : Request) → Reply request → World → Prop
  | .now, time, after => after = { world with clock := time }
  | .createCertificate template _ _ _, reply, after =>
    (∃ error, reply = .error error ∧ after = world) ∨
      ∃ der, reply = .ok der ∧
        after = { world with issued := ⟨world.clock, template, der⟩ :: world.issued }
  | _, _, after => after = world

def rules (lib : Library) (iss : Issuer) : SequenceRules signature World Error Unit where
  answer := answer
  offered _ program :=
    ∃ cr defaultProfile, program = signCertificateRequest lib iss cr defaultProfile
  disturb before after := after = before

end Runs

section Containment

variable (lib : Library) (object request : Object) (defaultProfile : String)

def rawProfiles (object : Object) : Object :=
  mapValue ((nestedMap object ["spec"]).field "profiles")

def maxDurationText (object : Object) (defaultProfile : String) : String :=
  stringValue ((mapValue ((rawProfiles object).field defaultProfile)).field "maxDuration")

def deniesAuthorities (object : Object) : Bool :=
  boolValue ((mapValue ((nestedMap object ["spec"]).field "requestPolicy")).field
    "denyCARequests") true

def requestedCSR : Except Error CertificateRequest := do
  let csrBytes ← annotated "decode spec.request"
    (lib.decodeBase64 (stringValue ((nestedMap request ["spec"]).field "request")))
  parseCSR lib csrBytes

/-- A certificate is an authority, or may sign certificates or revocation lists. -/
def Template.Authority (template : Template) : Prop :=
  template.isCA = true ∨ template.keyUsage &&& keyUsageCertSign ≠ 0 ∨
    template.keyUsage &&& keyUsageCRLSign ≠ 0

/-- A signed certificate keeps to a profile. -/
structure Satisfies (profile : Profile) (issued : Issued) : Prop where
  domains : profile.allowedDNSDomains ≠ [] → ∀ name ∈ issued.template.dnsNames,
    ∃ domain ∈ profile.allowedDNSDomains, Within lib name domain
  wildcards : profile.allowWildcardDNSNames = false →
    ∀ name ∈ issued.template.dnsNames, ¬ HasWildcard name
  trustDomains : profile.allowedSpiffeTrustDomains ≠ [] → ∀ uri ∈ issued.template.uris,
    uri.scheme = "spiffe" →
      ∃ allowed ∈ profile.allowedSpiffeTrustDomains, lib.equalFold uri.host allowed = true
  expiry : maxDurationText object defaultProfile ≠ "" →
    issued.template.notAfter ≤ issued.time + profile.maxDuration
  authority : issued.template.Authority →
    requestedCA (nestedMap request ["spec"]) = true ∧ profile.isCA = true ∧
      deniesAuthorities object = false

/-- The named profile is one of the issuer's and the certificate keeps to it. -/
def Contained (issued : Issued) : Prop :=
  ∃ profile, (parseProfiles lib (rawProfiles object)).lookup defaultProfile = some profile ∧
    Satisfies lib object request defaultProfile profile issued

/-- The named profile exists and restricts what it seems to restrict. -/
def Restrictive : Prop :=
  ∃ profile csr, (parseProfiles lib (rawProfiles object)).lookup defaultProfile = some profile ∧
    requestedCSR lib request = .ok csr ∧
    (maxDurationText object defaultProfile ≠ "" → 0 < profile.maxDuration) ∧
    (profile.allowWildcardDNSNames = false → ∀ name ∈ csr.dnsNames, ¬ HidesWildcard name)

end Containment

variable {csr : CertificateRequest} {opts : Options}

section Signing

variable {lib : Library}

/-- What a signed certificate went through. -/
def Signed (lib : Library) (csrBytes : Bytes) (opts : Options) (issued : Issued) : Prop :=
  ∃ csr serial keyUsage extKeyUsage,
    parseCSR lib csrBytes = .ok csr ∧ validateCSR lib csr opts = .ok () ∧
    (opts.isCA && !opts.allowCA) = false ∧
    usages lib opts.usages opts.allowCA = .ok (keyUsage, extKeyUsage) ∧
    issued.template = templateOf csr opts issued.time serial keyUsage extKeyUsage

theorem grantedDuration_le_iff (opts : Options) :
    grantedDuration opts ≤ opts.maxDuration ↔ 0 < opts.maxDuration := by
  have onIntegers : ∀ requested longest : Int,
      (if (if requested ≤ 0 ∨ (requested > longest ∧ longest > 0) then longest
          else requested) ≤ 0 then 86400000000000
        else if requested ≤ 0 ∨ (requested > longest ∧ longest > 0) then longest
          else requested) ≤ longest ↔ 0 < longest := by
    intro _ _
    split <;> split <;> omega
  exact onIntegers opts.requestedDuration opts.maxDuration

/-- What is no usage of an authority. -/
def PlainUsage (keyUsage : Nat) : Prop :=
  keyUsage &&& keyUsageCertSign = 0 ∧ keyUsage &&& keyUsageCRLSign = 0

theorem PlainUsage.or {first second : Nat} (left : PlainUsage first)
    (right : PlainUsage second) : PlainUsage (first ||| second) := by
  unfold PlainUsage at *
  simp [Nat.and_or_distrib_right, left, right]

theorem addUsage_plain {state next : Nat × List ExtKeyUsage} {usage : String}
    (plainBefore : PlainUsage state.1)
    (added : addUsage lib false state usage = .ok next) : PlainUsage next.1 := by
  simp only [addUsage] at added
  -- a usage adds a flag, adds none, or is refused
  repeat' split at added
  all_goals first
    | (cases added; exact plainBefore.or ⟨rfl, rfl⟩)
    | (cases added; exact plainBefore)
    | cases added

theorem usages_plain {names : List String} {keyUsage : Nat} {extKeyUsage : List ExtKeyUsage}
    (given : usages lib names false = .ok (keyUsage, extKeyUsage)) : PlainUsage keyUsage := by
  unfold usages at given
  obtain ⟨⟨folded, _⟩, steps, rest⟩ := bind_eq_ok.mp given
  have plainFolded : PlainUsage folded :=
    foldEach_invariant (fun _ _ _ plainBefore added => addUsage_plain plainBefore added)
      (show PlainUsage ((0, []) : Nat × List ExtKeyUsage).1 from ⟨by decide, by decide⟩) steps
  cases rest
  split
  · exact ⟨by decide, by decide⟩
  · exact plainFolded

theorem validateCSR_eq_ok (passed : validateCSR lib csr opts = .ok ()) :
    (∀ name ∈ csr.dnsNames, opts.allowWildcardDNSNames = false → hasPrefix name "*." = false) ∧
      (∀ name ∈ csr.dnsNames, opts.allowedDNSDomains ≠ [] →
        dnsNameAllowed lib name opts.allowedDNSDomains = true) ∧
      ∀ uri ∈ csr.uris, uri.scheme = "spiffe" → opts.allowedSpiffeTrustDomains ≠ [] →
        stringAllowed lib uri.host opts.allowedSpiffeTrustDomains = true := by
  unfold validateCSR at passed
  obtain ⟨⟨⟩, wildcards, rest⟩ := bind_eq_ok.mp passed
  obtain ⟨⟨⟩, domains, trustDomains⟩ := bind_eq_ok.mp rest
  refine ⟨fun name member disallowed => ?_, fun name member listed => ?_,
    fun uri member spiffe listed => ?_⟩
  · have checked := reject_eq_ok.mp (checkEach_eq_ok.mp wildcards name member)
    simpa [disallowed] using checked
  · have checked := reject_eq_ok.mp (checkEach_eq_ok.mp domains name member)
    simpa [listed] using checked
  · have checked := reject_eq_ok.mp (checkEach_eq_ok.mp trustDomains uri member)
    simpa [spiffe, listed] using checked

theorem allowCA_of_authority {now : Time} {serial keyUsage : Nat} {extKeyUsage : List ExtKeyUsage}
    (permitted : (opts.isCA && !opts.allowCA) = false)
    (given : usages lib opts.usages opts.allowCA = .ok (keyUsage, extKeyUsage))
    (authority : (templateOf csr opts now serial keyUsage extKeyUsage).Authority) :
    opts.allowCA = true := by
  by_contra refused
  rw [Bool.not_eq_true] at refused
  rw [refused] at permitted given
  have plainUsage := usages_plain given
  rcases authority with isCA | certSign | crlSign
  · have isCA : opts.isCA = true := isCA
    rw [isCA] at permitted
    cases permitted
  · exact certSign plainUsage.1
  · exact crlSign plainUsage.2

/-- A signed certificate keeps to its profile exactly when the profile
restricts what it seems to restrict. -/
theorem Signed.contained_iff (keepsDot : lib.KeepsDot) {object request : Object}
    {defaultProfile pin : String} {csrBytes : Bytes} {issued : Issued}
    (decoded : lib.decodeBase64
      (stringValue ((nestedMap request ["spec"]).field "request")) = .ok csrBytes)
    (signed : Signed lib csrBytes
      (signingOptions lib (issuerOf lib object pin) (nestedMap request ["spec"])
        ((issuerOf lib object pin).selectedProfile defaultProfile)) issued) :
    Contained lib object request defaultProfile issued ↔
      Restrictive lib object request defaultProfile := by
  obtain ⟨csr, _, _, _, parsed, valid, permitted, usage, template⟩ := signed
  have requested : requestedCSR lib request = .ok csr := by
    unfold requestedCSR
    rw [decoded]
    exact parsed
  have selected : ∀ profile,
      (parseProfiles lib (rawProfiles object)).lookup defaultProfile = some profile →
        (issuerOf lib object pin).selectedProfile defaultProfile = profile := by
    intro profile found
    unfold Issuer.selectedProfile
    have same : (issuerOf lib object pin).profiles = parseProfiles lib (rawProfiles object) := rfl
    rw [same, found]
    rfl
  constructor
  · rintro ⟨profile, found, satisfied⟩
    rw [selected profile found] at valid template
    obtain ⟨wildcards, _, _⟩ := validateCSR_eq_ok valid
    refine ⟨profile, csr, found, requested, fun given => ?_, fun disallowed name member => ?_⟩
    · have expiry := satisfied.expiry given
      rw [template] at expiry
      have granted := le_of_add_le_add_left expiry
      exact (grantedDuration_le_iff _).mp granted
    · have clean := satisfied.wildcards disallowed name (by rw [template]; exact member)
      rwa [hasWildcard_iff_hidesWildcard (wildcards name member disallowed)] at clean
  · rintro ⟨profile, _, found, requestedOther, duration, hidden⟩
    rw [requested] at requestedOther
    cases requestedOther
    rw [selected profile found] at valid template permitted usage
    obtain ⟨wildcards, domains, trustDomains⟩ := validateCSR_eq_ok valid
    refine ⟨profile, found, ?_, ?_, ?_, ?_, ?_⟩
    · intro listed name member
      rw [template] at member
      exact within_of_dnsNameAllowed keepsDot (domains name member listed)
    · intro disallowed name member
      rw [template] at member
      rw [hasWildcard_iff_hidesWildcard (wildcards name member disallowed)]
      exact hidden disallowed name member
    · intro listed uri member spiffe
      rw [template] at member
      exact List.any_eq_true.mp (trustDomains uri member spiffe listed)
    · intro given
      rw [template]
      have granted := (grantedDuration_le_iff (signingOptions lib
        (issuerOf lib object pin) (nestedMap request ["spec"]) profile)).mpr (duration given)
      exact add_le_add_right granted issued.time
    · intro authority
      have allowed := allowCA_of_authority permitted usage (template ▸ authority)
      simp only [signingOptions, Bool.and_eq_true, Bool.not_eq_true'] at allowed
      exact ⟨allowed.1.1, allowed.2, allowed.1.2⟩

end Signing

section Tracing

variable {lib : Library} {iss : Issuer} {good : Issued → Prop}

def AllIssued (good : Issued → Prop) (world : World) : Prop :=
  ∀ issued ∈ world.issued, good issued

/-- Signing a certificate is the only request that leaves a trace. -/
def Untraced : Request → Prop
  | .createCertificate _ _ _ _ => False
  | _ => True

theorem untraced_kept (request : Request) (untraced : Untraced request) :
    Ensures ((rules lib iss).contract (AllIssued good)) Anywhere (fun _ => True)
      (ask request) fun _ _ => True := by
  rintro world valid - _ _ ⟨⟩ _ after answered
  have same : after.issued = world.issued := by
    cases request with
    | createCertificate => cases untraced
    | _ =>
      cases answered
      rfl
  have kept : AllIssued good after := by
    unfold AllIssued
    rw [same]
    exact valid
  exact ⟨kept, trivial, kept, trivial, fun _ _ => trivial⟩

theorem ensures_of_untraced {α : Type} {program : Running α} (only : program.Only Untraced) :
    Ensures ((rules lib iss).contract (AllIssued good)) Anywhere (fun _ => True)
      program fun _ _ => True :=
  Ensures.only untraced_kept only

theorem getConfigMapValue_untraced (namespaceName name key : String) :
    (getConfigMapValue namespaceName name key).Only Untraced :=
  .bind (.perform trivial) fun _ => .bind .ofExcept fun _ => .ofExcept

theorem loadPKCS11Signer_untraced (ref : PKCS11Ref) : (loadPKCS11Signer ref).Only Untraced := by
  apply Program.Only.bind .rejectIf
  intro _
  apply Program.Only.bind (.perform trivial)
  intro configured
  apply Program.Only.bind .ofExcept
  intro _
  apply Program.Only.bind (.perform trivial)
  intro found
  match found with
  | .ok (some signer) => trivial
  | .ok none => exact .bind (.perform trivial) fun _ => trivial
  | .error error => exact .bind (.perform trivial) fun _ => trivial

theorem patchIssuerReady_untraced (obj : Object) (status reason message serial : String) :
    (patchIssuerReady lib obj status reason message serial).Only Untraced := by
  unfold patchIssuerReady
  dsimp only
  split
  · trivial
  · exact .bind (.perform trivial) fun _ => .bind (.perform trivial) fun _ => trivial

theorem report_untraced (iss : Issuer) (cr : Object) (issued : IssuedCertificate) : (do
      let time ← ask .now
      take (← ask (.jsonPatch ("/apis/cert-manager.io/v1/namespaces/" ++ namespaceOf cr ++
        "/certificaterequests/" ++ nameOf cr ++ "/status")
        (statusPatch lib cr issued time)))
      patchIssuerReady lib iss.object "True" "Issued"
        ("last issued serial " ++ issued.serial) issued.serial : Running Unit).Only Untraced :=
  .bind (.perform trivial) fun _ => .bind (.perform trivial) fun _ => .bind .ofExcept fun _ =>
    patchIssuerReady_untraced _ _ _ _ _

theorem now_spec :
    Ensures ((rules lib iss).contract (AllIssued good)) Anywhere (fun _ => True)
      (ask .now) fun now world => world.clock = now := by
  rintro _ valid - _ _ ⟨⟩ _ _ ⟨⟩
  refine ⟨valid, trivial, valid, trivial, ?_⟩
  rintro _ ⟨⟩
  rfl

theorem randomInt_spec {pre : World → Prop} (bound : Nat) :
    Ensures ((rules lib iss).contract (AllIssued good)) Eq pre
      (ask (.randomInt bound)) fun _ _ => True := by
  rintro _ valid _ _ _ ⟨⟩ _ _ ⟨⟩
  exact ⟨valid, trivial, valid, rfl, fun _ _ => trivial⟩

theorem createCertificate_spec {template : Template} {parent : Certificate}
    {publicKey : Option PublicKey} {signer : Nat} {now : Time}
    (signed : ∀ der, good ⟨now, template, der⟩) :
    Ensures ((rules lib iss).contract (AllIssued good)) Anywhere (fun world => world.clock = now)
      (ask (.createCertificate template parent publicKey signer)) fun _ _ => True := by
  rintro _ valid clock _ _ ⟨⟩ _ after answered
  have kept : AllIssued good after := by
    rcases answered with ⟨_, _, rfl⟩ | ⟨der, _, rfl⟩
    · exact valid
    · intro issued member
      rcases List.mem_cons.mp member with rfl | earlier
      · rw [clock]
        exact signed der
      · exact valid issued earlier
  exact ⟨kept, trivial, kept, trivial, fun _ _ => trivial⟩

/-- Between the reading of the clock and the signature the clock is not read
again, so the certificate counts from the time that is noted with it. -/
theorem createSigned_spec {caPEM : String} {caCert : Certificate} {signer : Nat}
    (signed : ∀ issued serial keyUsage extKeyUsage,
      usages lib opts.usages opts.allowCA = .ok (keyUsage, extKeyUsage) →
      issued.template = templateOf csr opts issued.time serial keyUsage extKeyUsage →
      good issued) :
    Ensures ((rules lib iss).contract (AllIssued good)) Anywhere (fun _ => True)
      (createSigned lib csr caPEM caCert signer opts) fun _ _ => True := by
  unfold createSigned
  apply Ensures.sequence now_spec
  intro now
  apply Ensures.bindQuiet (randomInt_spec _)
  intro drawn
  apply Ensures.bindQuiet Ensures.ofExcept
  intro serial
  apply Ensures.bindQuiet Ensures.ofExcept
  rintro ⟨keyUsage, extKeyUsage⟩
  have known : ∀ world : World, ((world.clock = now ∧ True) ∧ drawn = .ok serial) ∧
        usages lib opts.usages opts.allowCA = .ok (keyUsage, extKeyUsage) →
      world.clock = now ∧ usages lib opts.usages opts.allowCA = .ok (keyUsage, extKeyUsage) :=
    fun _ holds => ⟨holds.1.1.1, holds.2⟩
  apply Ensures.strengthen known
  apply Ensures.assume
  intro given
  apply Ensures.sequence
    (createCertificate_spec fun der => signed ⟨now, _, der⟩ serial _ _ given rfl)
  intro created
  apply Ensures.sequence Ensures.ofExcept
  intro der
  exact Ensures.ret fun _ _ _ => trivial

theorem signCSR_spec {csrBytes : Bytes} {caPEM : String} {ref : PKCS11Ref}
    (signed : ∀ issued, Signed lib csrBytes opts issued → good issued) :
    Ensures ((rules lib iss).contract (AllIssued good)) Anywhere (fun _ => True)
      (signCSR lib csrBytes caPEM ref opts) fun _ _ => True := by
  unfold signCSR
  apply Ensures.bindQuietPure Ensures.ofExcept
  intro csr parsed
  apply Ensures.bindQuietPure Ensures.ofExcept
  intro _ _
  apply Ensures.bindQuietPure Ensures.ofExcept
  rintro ⟨⟩ valid
  apply Ensures.bindQuietPure Ensures.rejectIf
  rintro _ permitted
  apply Ensures.bindQuietPure Ensures.ofExcept
  intro caCert _
  apply Ensures.sequence (ensures_of_untraced (loadPKCS11Signer_untraced ref))
  intro signer
  have created : Ensures ((rules lib iss).contract (AllIssued good)) Anywhere
      (fun _ => True) (createSigned lib csr caPEM caCert signer opts) fun _ _ => True := by
    apply createSigned_spec
    intro issued serial keyUsage extKeyUsage given template
    exact signed issued
      ⟨csr, serial, keyUsage, extKeyUsage, parsed, valid, permitted, given, template⟩
  apply Ensures.sequence created.attempt
  intro outcome
  apply Ensures.strengthen fun _ _ => trivial
  apply Ensures.sequence (untraced_kept .closeToken trivial)
  intro _
  exact (Ensures.ofExcept).weaken fun _ _ _ => trivial

theorem signCertificateRequest_spec {cr : Object} {defaultProfile : String}
    (signed : ∀ csrBytes issued,
      lib.decodeBase64 (stringValue ((nestedMap cr ["spec"]).field "request")) = .ok csrBytes →
      Signed lib csrBytes (signingOptions lib iss (nestedMap cr ["spec"])
        (iss.selectedProfile defaultProfile)) issued → good issued) :
    Ensures ((rules lib iss).contract (AllIssued good)) Anywhere (fun _ => True)
      (signCertificateRequest lib iss cr defaultProfile) fun _ _ => True := by
  unfold signCertificateRequest
  apply Ensures.bindQuietPure Ensures.rejectIf
  intro _ _
  apply Ensures.bindQuietPure Ensures.rejectIf
  intro _ _
  apply Ensures.bindQuietPure Ensures.rejectIf
  intro _ _
  apply Ensures.bindQuietPure Ensures.rejectIf
  intro _ _
  apply Ensures.bindQuietPure Ensures.rejectIf
  intro _ _
  apply Ensures.bindQuietPure Ensures.ofExcept
  intro csrBytes annotatedBytes
  have decoded := mapError_eq_ok.mp annotatedBytes
  apply Ensures.sequence (ensures_of_untraced (getConfigMapValue_untraced _ _ _))
  intro caPEM
  apply Ensures.sequence (signCSR_spec fun issued => signed csrBytes issued decoded)
  intro issued
  exact ensures_of_untraced (report_untraced iss cr issued)

theorem parseIssuer_ends {object : Object} {before after : World}
    (parsed : (parseIssuer lib object).Ends answer before (.ok iss) after) :
    ∃ pin, iss = issuerOf lib object pin := by
  obtain ⟨pin, _, _, rest⟩ := Program.Ends.bind_ok.mp parsed
  obtain ⟨_, _, _, last⟩ := Program.Ends.bind_ok.mp rest
  cases last
  exact ⟨pin, rfl⟩

end Tracing

/-- In every run of a signing for an issuer read from any object, stopped
anywhere, a signed certificate keeps to the profile that was named exactly when
that profile exists, its longest duration is positive if the object gives one,
and no requested name hides a wildcard. -/
theorem issued_contained_iff_restrictive (lib : Library) (keepsDot : lib.KeepsDot)
    (object request : Object) (defaultProfile : String) (iss : Issuer)
    (before middle start finish : World)
    (parsed : (parseIssuer lib object).Ends answer before (.ok iss) middle)
    (fresh : start.issued = [])
    (left : (signCertificateRequest lib iss request defaultProfile).Leaves answer start finish)
    (issued : Issued) (member : issued ∈ finish.issued) :
    Contained lib object request defaultProfile issued ↔
      Restrictive lib object request defaultProfile := by
  obtain ⟨pin, rfl⟩ := parseIssuer_ends parsed
  have initially : AllIssued (fun issued =>
      Contained lib object request defaultProfile issued ↔
        Restrictive lib object request defaultProfile) start := by
    intro issued member
    rw [fresh] at member
    cases member
  have ensured : Ensures ((rules lib (issuerOf lib object pin)).contract (AllIssued fun issued =>
        Contained lib object request defaultProfile issued ↔
          Restrictive lib object request defaultProfile)) Anywhere (fun _ => True)
      (signCertificateRequest lib (issuerOf lib object pin) request defaultProfile)
      fun _ _ => True :=
    signCertificateRequest_spec fun csrBytes issued decoded signed =>
      signed.contained_iff keepsDot decoded
  exact SequenceRules.valid_of_leaves initially (ensured.safe initially trivial) left issued member

section SampleIssuer

def sampleName : DistinguishedName := ⟨"app", [], []⟩

def sampleAuthority : Certificate where
  serialNumber := 1
  subject := sampleName
  notBefore := 0
  notAfter := 0
  keyUsage := 32
  basicConstraintsValid := true
  isCA := true
  publicKey := none

def sampleCSR (dnsName : String) : CertificateRequest :=
  ⟨[], sampleName, [dnsName], [], [], [], none⟩

/-- A library that knows two signing requests, one of which hides a wildcard. -/
def sampleLibrary : Library where
  toLower := Char.toLower
  equalRune first second := first.toLower == second.toLower
  parseDuration text :=
    if text = "1h" then .ok hour
    else if text = "720h" then .ok (720 * hour)
    else .error "time: unknown unit"
  formatTime _ := "2026-01-01T00:00:00Z"
  int64Of _ := 0
  decodeBase64 text := if text = "plain" then .ok [1] else .ok [2]
  decodeTrimmedBase64 _ := .error "illegal base64 data"
  textOf _ := ""
  decodePem bytes := if bytes.length ≤ 1 then none else some ("CERTIFICATE", bytes)
  encodePem kind _ := kind
  parseCertificateRequest bytes :=
    if bytes = [1] then .ok (sampleCSR "app.example.org")
    else .ok (sampleCSR "app.*.example.org")
  checkSignature _ := .ok ()
  parseCertificate _ := .ok sampleAuthority

/-- An issuer with a profile of one hour and one whose duration cannot be read. -/
def sampleIssuerObject : Object :=
  [("spec", .object
    [("signerName", .string "sovereignite"), ("caRef", .object [("name", .string "ca")]),
      ("pkcs11", .object [("modulePath", .string "module"), ("tokenLabel", .string "token"),
        ("keyLabel", .string "key")]),
      ("profiles", .object
        [("default", .object [("maxDuration", .string "1h"),
          ("allowedDNSDomains", .array [.string "Example.org."])]),
        ("monthly", .object [("maxDuration", .string "1 hour")])]),
      ("requestPolicy", .object [("requireApprovedCondition", .boolean false)])])]

def sampleRequest (csr : String) : Object :=
  [("spec", .object [("request", .string csr), ("duration", .string "720h")])]

def respond : Responder signature World
  | world, .get _ => some (.ok [("data", .object [("ca.crt", .string "certificate")])], world)
  | world, .jsonPatch _ _ => some (.ok (), world)
  | world, .mergePatch _ _ => some (.ok (), world)
  | world, .getenv _ => some ("", world)
  | world, .now => some ((1000 : Time), { world with clock := 1000 })
  | world, .randomInt _ => some (.ok 7, world)
  | world, .configureToken _ _ _ => some (.ok (), world)
  | world, .findKeyPair _ => some (.ok (some 1), world)
  | world, .closeToken => some (.ok (), world)
  | world, .createCertificate template _ _ _ =>
    some (.ok [7], { world with issued := ⟨world.clock, template, [7]⟩ :: world.issued })

theorem answers_respond (iss : Issuer) : (rules sampleLibrary iss).Answers respond id := by
  intro _ request _ _ responded
  cases request with
  | createCertificate =>
    cases responded
    exact .inr ⟨_, rfl, rfl⟩
  | _ =>
    cases responded
    rfl

def sampleIssuer : Issuer :=
  issuerOf sampleLibrary sampleIssuerObject ""

theorem sampleIssuer_parsed (world : World) :
    (parseIssuer sampleLibrary sampleIssuerObject).Ends answer world (.ok sampleIssuer) world := by
  have parsed : parseIssuer sampleLibrary sampleIssuerObject = .ret sampleIssuer := rfl
  rw [parsed]
  exact .ret sampleIssuer world

def signedWorld (csr defaultProfile : String) : World :=
  ((signCertificateRequest sampleLibrary sampleIssuer (sampleRequest csr)
    defaultProfile).advance respond 20 ⟨0, []⟩).1

theorem signedWorld_left (csr defaultProfile : String) :
    (signCertificateRequest sampleLibrary sampleIssuer (sampleRequest csr)
      defaultProfile).Leaves answer ⟨0, []⟩ (signedWorld csr defaultProfile) :=
  SequenceRules.leaves_advance (answers_respond sampleIssuer) 20 ⟨0, []⟩ _

theorem sampleLibrary_keepsDot : sampleLibrary.KeepsDot := by
  unfold Library.KeepsDot
  decide

def sampleIssued (dnsName : String) (duration : Duration) : Issued where
  time := 1000
  template := {
    serialNumber := 7
    subject := sampleName
    dnsNames := [dnsName]
    ipAddresses := []
    uris := []
    emailAddresses := []
    notBefore := 1000 - 5 * minute
    notAfter := 1000 + duration
    keyUsage := 1
    extKeyUsage := []
    basicConstraintsValid := true
    isCA := false
    maxPathLen := 0
    maxPathLenZero := false }
  der := [7]

/-- Under the profile of one hour the certificate of the plain request keeps to
the profile. -/
theorem plainRequest_contained :
    ∃ before middle start finish, sampleLibrary.KeepsDot ∧
      (parseIssuer sampleLibrary sampleIssuerObject).Ends answer before (.ok sampleIssuer) middle ∧
      start.issued = [] ∧
      (signCertificateRequest sampleLibrary sampleIssuer (sampleRequest "plain")
        "default").Leaves answer start finish ∧
      sampleIssued "app.example.org" hour ∈ finish.issued ∧
      Contained sampleLibrary sampleIssuerObject (sampleRequest "plain") "default"
        (sampleIssued "app.example.org" hour) := by
  have member : sampleIssued "app.example.org" hour ∈ (signedWorld "plain" "default").issued := by
    decide +kernel
  have restrictive :
      Restrictive sampleLibrary sampleIssuerObject (sampleRequest "plain") "default" := by
    refine ⟨{ maxDuration := hour, allowedDNSDomains := ["Example.org."] },
      sampleCSR "app.example.org", rfl, rfl, fun _ => by decide, fun _ name member => ?_⟩
    cases List.mem_singleton.mp member
    unfold HidesWildcard
    decide
  refine ⟨⟨0, []⟩, ⟨0, []⟩, ⟨0, []⟩, signedWorld "plain" "default", sampleLibrary_keepsDot,
    sampleIssuer_parsed _, rfl, signedWorld_left "plain" "default", member, ?_⟩
  exact (issued_contained_iff_restrictive sampleLibrary sampleLibrary_keepsDot
    sampleIssuerObject (sampleRequest "plain") "default" sampleIssuer ⟨0, []⟩ ⟨0, []⟩ ⟨0, []⟩
    (signedWorld "plain" "default") (sampleIssuer_parsed _) rfl
    (signedWorld_left "plain" "default") _ member).mpr restrictive

/-- A signing of the sample issuer ends with a certificate that does not keep to
the profile that was named. -/
def Escapes (csr defaultProfile : String) (issued : Issued) : Prop :=
  ∃ finish, (signCertificateRequest sampleLibrary sampleIssuer (sampleRequest csr)
      defaultProfile).Leaves answer ⟨0, []⟩ finish ∧ issued ∈ finish.issued ∧
    ¬ Contained sampleLibrary sampleIssuerObject (sampleRequest csr) defaultProfile issued

theorem Escapes.of_member {csr defaultProfile : String} {issued : Issued}
    (member : issued ∈ (signedWorld csr defaultProfile).issued)
    (escapes : ¬ Contained sampleLibrary sampleIssuerObject (sampleRequest csr) defaultProfile
      issued) : Escapes csr defaultProfile issued :=
  ⟨signedWorld csr defaultProfile, signedWorld_left csr defaultProfile, member, escapes⟩

/-- Thirty days are signed under a profile that does not exist and under one
whose duration cannot be read, and a wildcard after the first label is signed
under a profile that disallows wildcards. -/
theorem signed_certificates_escape_their_profiles : sampleLibrary.KeepsDot ∧
    (∀ world, (parseIssuer sampleLibrary sampleIssuerObject).Ends answer world
      (.ok sampleIssuer) world) ∧
    Escapes "plain" "missing" (sampleIssued "app.example.org" (720 * hour)) ∧
    Escapes "plain" "monthly" (sampleIssued "app.example.org" (720 * hour)) ∧
    Escapes "hidden" "default" (sampleIssued "app.*.example.org" hour) := by
  refine ⟨sampleLibrary_keepsDot, sampleIssuer_parsed, ?_, ?_, ?_⟩
  · apply Escapes.of_member (by decide +kernel)
    rintro ⟨profile, found, _⟩
    cases found
  · apply Escapes.of_member (by decide +kernel)
    rintro ⟨profile, found, satisfied⟩
    cases found
    exact absurd (satisfied.expiry (by decide)) (by decide)
  · apply Escapes.of_member (by decide +kernel)
    rintro ⟨_, found, satisfied⟩
    cases found
    have clean := satisfied.wildcards rfl "app.*.example.org" (List.mem_singleton.mpr rfl)
    unfold HasWildcard at clean
    exact absurd (by decide) clean

end SampleIssuer

end Sovereignite.Controllers
