import Sovereignite.ClusterIssuerContainment
import Sovereignite.CsrSigner

/-!
# What the controller approves

A policy restricts the usages and the subjects of the requests under it.  The
controller approves a request before it makes any of these checks, and a
request that has a certificate without making them at all.  An approval
complies with the policy exactly when every request that the controller would
approve itself does.
-/

namespace Sovereignite.Controllers.CsrSigner

open Effect

section Specification

variable (lib : PolicyLibrary) (p : Policy) (csrObj : Object)

def requestedCSR : Except Error CertificateRequest := do
  let csrBytes ← annotated "decode spec.request"
    (lib.decodeBase64 (stringValue ((nestedMap csrObj ["spec"]).field "request")))
  parseCSR lib.toLibrary csrBytes

/-- A request is one that its policy lets through. -/
structure Complies : Prop where
  notDenied : hasCondition csrObj "Denied" "True" = false
  usages : usageSubset lib (stringSlice ((nestedMap csrObj ["spec"]).field "usages"))
    p.allowedUsages = true
  subject : ∃ csr, requestedCSR lib csrObj = .ok csr ∧
    (p.allowedSubjectRegexes ≠ [] →
      subjectAllowed (lib.subjectString csr.subject) csr.subject.commonName
        p.allowedSubjectRegexes = true)

/-- The controller is to approve the request itself. -/
def Approvable : Prop :=
  p.requireApprovedCondition = false ∧ hasCondition csrObj "Approved" "True" = false ∧
    hasCondition csrObj "Denied" "True" = false

instance : Decidable (Approvable p csrObj) :=
  inferInstanceAs (Decidable (_ ∧ _ ∧ _))

/-- A request that the controller would approve complies with its policy. -/
def Justified : Prop :=
  Approvable p csrObj → Complies lib p csrObj

end Specification

section Runs

/-- The requests that were dealt with and those that were approved, each with
its policy. -/
structure World where
  dealings : List (Policy × Object)
  approvals : List (Policy × Object)

/-- The cluster may answer in any way and may change between any two answers. -/
def answer (world : World) : (request : Request) → Reply request → World → Prop
  | .cluster _, _, after => after = world
  | .dealing p csrObj, _, after =>
    after = { world with dealings := (p, csrObj) :: world.dealings }
  | .approving p csrObj, _, after =>
    after = { world with approvals := (p, csrObj) :: world.approvals }

/-- The controller makes one pass after the other; a pass may be stopped. -/
def rules (lib : PolicyLibrary) : SequenceRules signature World Error Unit where
  answer := answer
  offered _ program := ∃ policyName, program = reconcile lib policyName
  disturb before after := after = before

end Runs

section Requests

variable {α β ε ε' : Type} {p : Policy} {csrObj : Object}

/-- A program that neither takes up a request nor approves one. -/
def Quiet (program : Program signature ε α) : Prop :=
  program.Only fun request : Request => ∃ inner, request = .cluster inner

theorem quiet_sharedProgram (program : Controllers.Running α) : Quiet (sharedProgram program) :=
  Program.embed_only shared program

theorem quiet_ask (request : Controllers.Request) : Quiet (ask request) := quiet_sharedProgram _

theorem quiet_take (outcome : Except Error α) : Quiet (take outcome) := Program.Only.ofExcept

theorem quiet_rejectIf (test : Bool) (error : Error) :
    Quiet (Program.rejectIf test error : Running Unit) :=
  Program.Only.rejectIf

theorem quiet_ret (value : α) : Quiet (Program.ret value : Running α) := trivial

variable {program : Running α} {next : α → Running β}

theorem Quiet.bind (first : Quiet program) (second : ∀ value, Quiet (next value)) :
    Quiet (program >>= next) :=
  Program.Only.bind first second

/-- A program that approves a request and is quiet from there on. -/
def ApprovesFirst (p : Policy) (csrObj : Object) (program : Program signature ε α) : Prop :=
  ∃ next : Unit → Program signature ε α,
    program = .call (.approving p csrObj) next ∧ ∀ reply, Quiet (next reply)

theorem ApprovesFirst.bind (first : ApprovesFirst p csrObj program)
    (second : ∀ value, Quiet (next value)) : ApprovesFirst p csrObj (program >>= next) := by
  obtain ⟨rest, rfl, quiet⟩ := first
  exact ⟨fun reply => rest reply >>= next, rfl, fun reply => (quiet reply).bind second⟩

theorem ApprovesFirst.attempt {program : Program signature ε α}
    (first : ApprovesFirst p csrObj program) :
    ApprovesFirst p csrObj (program.attempt : Program signature ε' (Except ε α)) := by
  obtain ⟨rest, rfl, quiet⟩ := first
  exact ⟨fun reply => (rest reply).attempt, rfl, fun reply => Program.Only.attempt (quiet reply)⟩

theorem ApprovesFirst.mapError {annotate : Error → Error} (first : ApprovesFirst p csrObj program) :
    ApprovesFirst p csrObj (program.mapError annotate) := by
  apply ApprovesFirst.bind first.attempt
  intro outcome
  cases outcome <;> trivial

/-- A program that approves a request first or not at all. -/
def Decides (approves : Prop) (p : Policy) (csrObj : Object)
    (program : Program signature ε α) : Prop :=
  (approves ∧ ApprovesFirst p csrObj program) ∨ (¬ approves ∧ Quiet program)

theorem Decides.attempt {approves : Prop} (decides : Decides approves p csrObj program) :
    Decides approves p csrObj (program.attempt : Running (Except Error α)) := by
  rcases decides with ⟨holds, first⟩ | ⟨fails, quiet⟩
  · exact .inl ⟨holds, first.attempt⟩
  · exact .inr ⟨fails, Program.Only.attempt quiet⟩

theorem Decides.bind {approves : Prop} (decides : Decides approves p csrObj program)
    (second : ∀ value, Quiet (next value)) : Decides approves p csrObj (program >>= next) := by
  rcases decides with ⟨holds, first⟩ | ⟨fails, quiet⟩
  · exact .inl ⟨holds, first.bind second⟩
  · exact .inr ⟨fails, quiet.bind second⟩

variable (lib : PolicyLibrary)

theorem quiet_list (path : String) : Quiet (list path) := by
  apply (quiet_ask _).bind
  intro reply
  apply (quiet_take _).bind
  intro object
  exact quiet_ret _

theorem quiet_patchPolicyReady (obj : Object) (status reason message : String) :
    Quiet (patchPolicyReady lib obj status reason message) := by
  simp only [patchPolicyReady]
  split
  · exact quiet_ret _
  · apply (quiet_ask _).bind
    intro time
    apply (quiet_ask _).bind
    intro reply
    exact quiet_ret _

theorem quiet_parsePolicy (obj : Object) : Quiet (parsePolicy lib obj) := by
  apply (quiet_sharedProgram _).bind
  intro pin
  apply (quiet_take _).bind
  intro regexes
  apply (quiet_rejectIf _ _).bind
  intro named
  apply (quiet_rejectIf _ _).bind
  intro used
  exact quiet_ret _

theorem quiet_loadPolicy (policyName : String) (out : Policies) (item : Object) :
    Quiet (loadPolicy lib policyName out item) := by
  simp only [loadPolicy]
  split
  · exact quiet_ret _
  · apply Quiet.bind (Program.Only.attempt (quiet_parsePolicy lib item))
    intro outcome
    cases outcome with
    | error =>
      apply (quiet_patchPolicyReady lib _ _ _ _).bind
      intro done
      exact quiet_ret _
    | ok =>
      apply (quiet_patchPolicyReady lib _ _ _ _).bind
      intro done
      exact quiet_ret _

theorem quiet_loadPolicies (policyName : String) : Quiet (loadPolicies lib policyName) := by
  apply (quiet_list _).bind
  intro items
  exact Program.Only.forEach (quiet_loadPolicy lib policyName) [] items

theorem approveCSR_approvesFirst : ApprovesFirst p csrObj (approveCSR lib p csrObj) := by
  refine ⟨_, rfl, ?_⟩
  intro reply
  apply (quiet_ask _).bind
  intro time
  apply (quiet_ask _).bind
  intro patched
  exact quiet_take _

theorem quiet_signApproved : Quiet (signApproved lib p csrObj) := by
  apply (quiet_rejectIf _ _).bind
  intro present
  apply (quiet_rejectIf _ _).bind
  intro within
  apply (quiet_take _).bind
  intro csrBytes
  apply (quiet_take _).bind
  intro parsedCSR
  apply (quiet_rejectIf _ _).bind
  intro allowed
  apply (quiet_sharedProgram _).bind
  intro caPEM
  apply (quiet_sharedProgram _).bind
  intro issued
  apply (quiet_ask _).bind
  intro patched
  apply (quiet_take _).bind
  intro stored
  apply (quiet_ask _).bind
  intro time
  apply (quiet_ask _).bind
  intro counted
  exact quiet_take _

theorem signCSR_decides : Decides (Approvable p csrObj) p csrObj (signCSR lib p csrObj) := by
  have quiet := @quiet_signApproved p csrObj lib
  unfold signCSR Decides Approvable
  cases denied : hasCondition csrObj "Denied" "True" with
  | true =>
    right
    exact ⟨by simp, trivial⟩
  | false =>
    cases required : p.requireApprovedCondition with
    | true =>
      right
      refine ⟨by simp, ?_⟩
      cases hasCondition csrObj "Approved" "True" with
      | true => exact quiet
      | false => trivial
    | false =>
      cases approved : hasCondition csrObj "Approved" "True" with
      | true =>
        right
        exact ⟨by simp, quiet⟩
      | false =>
        left
        refine ⟨⟨rfl, rfl, rfl⟩, ?_⟩
        exact (approveCSR_approvesFirst lib).mapError.bind fun _ => quiet

/-- A request is approved first or not at all, whether it has a certificate or
not. -/
theorem signOrApprove_decides :
    Decides (Approvable p csrObj) p csrObj (signOrApprove lib p csrObj) := by
  unfold signOrApprove
  split
  · split
    · rename_i approves
      left
      refine ⟨?_, (approveCSR_approvesFirst lib).attempt.bind fun _ => quiet_ret ()⟩
      unfold Approvable
      simpa [and_assoc] using approves
    · rename_i refuses
      right
      refine ⟨?_, quiet_ret ()⟩
      unfold Approvable
      simpa [and_assoc] using refuses
  · exact (signCSR_decides lib).attempt.bind fun _ => quiet_ret ()

end Requests

section Safety

variable {lib : PolicyLibrary} {p : Policy} {csrObj : Object}

/-- As long as every request that was dealt with is justified, every approval
complies. -/
def Compliant (lib : PolicyLibrary) (world : World) : Prop :=
  (∀ dealing ∈ world.dealings, Justified lib dealing.1 dealing.2) →
    ∀ approval ∈ world.approvals, Complies lib approval.1 approval.2

abbrev passContract (lib : PolicyLibrary) : Contract signature World :=
  (rules lib).contract (Compliant lib)

theorem Quiet.ensures {α ε : Type} {program : Program signature ε α} {fact : World → Prop}
    (quiet : Quiet program) :
    Ensures (passContract lib) Anywhere fact program fun _ => fact := by
  apply Ensures.only _ quiet
  rintro _ ⟨_, rfl⟩ _ valid known _ _ same _ _ given
  cases same
  cases given
  refine ⟨valid, trivial, valid, trivial, ?_⟩
  intro _ _
  exact known

theorem ensures_approving (approvable : Approvable p csrObj) :
    Ensures (passContract lib) Anywhere (fun world => (p, csrObj) ∈ world.dealings)
      (Program.perform (S := signature) (Request.approving p csrObj) : Running Unit)
      fun _ _ => True := by
  intro world valid known _ _ same _ _ given
  cases same
  cases given
  have kept : Compliant lib { world with approvals := (p, csrObj) :: world.approvals } := by
    intro justified approval member
    rcases List.mem_cons.mp member with here | earlier
    · subst here
      exact justified (p, csrObj) known approvable
    · exact valid justified approval earlier
  exact ⟨kept, trivial, kept, trivial, fun _ _ => trivial⟩

/-- Taking up a request asks more of the requests that were dealt with. -/
theorem ensures_dealing :
    Ensures (passContract lib) Anywhere (fun _ => True)
      (Program.perform (S := signature) (Request.dealing p csrObj) : Running Unit)
      fun _ world => (p, csrObj) ∈ world.dealings := by
  intro world valid _ _ _ same _ _ given
  cases same
  cases given
  have kept : Compliant lib { world with dealings := (p, csrObj) :: world.dealings } := by
    intro justified
    exact valid fun dealing member => justified dealing (List.mem_cons_of_mem _ member)
  exact ⟨kept, trivial, kept, trivial, fun _ _ => List.mem_cons_self⟩

theorem dealWith_ensures :
    Ensures (passContract lib) Anywhere (fun _ => True) (dealWith lib p csrObj)
      fun _ _ => True := by
  apply Ensures.sequence ensures_dealing
  intro taken
  rcases signOrApprove_decides lib with ⟨approvable, next, same, quiet⟩ | ⟨_, quiet⟩
  · rw [same]
    exact Ensures.sequence (ensures_approving approvable) fun reply => (quiet reply).ensures
  · exact quiet.ensures.weaken fun _ _ _ => trivial

theorem dealWithListed_ensures (policies : Policies) (state : Unit) (csr : Object) :
    Ensures (passContract lib) Anywhere (fun _ => True)
      (dealWithListed lib policies state csr) fun _ _ => True := by
  unfold dealWithListed
  split
  · exact Ensures.ret fun _ _ _ => trivial
  · exact dealWith_ensures

theorem reconcile_ensures (policyName : String) :
    Ensures (passContract lib) Anywhere (fun _ => True) (reconcile lib policyName)
      fun _ _ => True := by
  apply Ensures.sequence (quiet_loadPolicies lib policyName).ensures
  intro policies
  split
  · exact Ensures.ret fun _ _ _ => trivial
  · apply Ensures.sequence (quiet_list csrsPath).ensures
    intro csrs
    exact Ensures.forEach (dealWithListed_ensures policies) () csrs

theorem dealWith_approvals {world after : World} {outcome : Except Error Unit}
    (ended : (dealWith lib p csrObj).Ends answer world outcome after) :
    after.approvals = (if Approvable p csrObj then [(p, csrObj)] else []) ++ world.approvals := by
  have leaves : ∀ (world : World) (request : Request) (reply : Reply request) (after : World),
      (∃ inner, request = .cluster inner) → answer world request reply after →
        after.approvals = world.approvals := by
    rintro world _ reply after ⟨_, rfl⟩ given
    exact congrArg World.approvals given
  cases ended with
  | answered _ _ _ given rest =>
    cases given
    have remaining : (signOrApprove lib p csrObj).Ends answer
        { world with dealings := (p, csrObj) :: world.dealings } outcome after := rest
    have decides : Decides (Approvable p csrObj) p csrObj (signOrApprove lib p csrObj) :=
      signOrApprove_decides lib
    rcases decides with ⟨approvable, next, same, quiet⟩ | ⟨refused, quiet⟩
    · rw [same] at remaining
      cases remaining with
      | answered _ _ reply given rest =>
        cases given
        rw [if_pos approvable]
        exact (quiet reply).unchanged leaves rest
    · have unchanged := quiet.unchanged leaves remaining
      simpa [refused] using unchanged

end Safety

/-- In every run of passes the approvals comply with their policies as long as
the requests that the controller is to approve do; and dealing with a single
request adds approvals that comply exactly under this condition. -/
theorem approvals_comply_iff_justified (lib : PolicyLibrary) :
    (∀ world, (rules lib).Reachable ⟨[], []⟩ world →
      (∀ dealing ∈ world.dealings, Justified lib dealing.1 dealing.2) →
        ∀ approval ∈ world.approvals, Complies lib approval.1 approval.2) ∧
      ∀ p csrObj world outcome after,
        (dealWith lib p csrObj).Ends answer world outcome after →
          ∃ added, after.approvals = added ++ world.approvals ∧
            ((∀ approval ∈ added, Complies lib approval.1 approval.2) ↔
              Justified lib p csrObj) := by
  constructor
  · intro world reached
    have compliant : Compliant lib world := by
      apply reached.invariant
      · intro _ _ member
        cases member
      · rintro before _ valid ⟨policyName, rfl⟩
        exact (reconcile_ensures policyName).safe valid trivial
      · rintro _ after valid rfl
        exact valid
    exact compliant
  · intro _ _ _ _ _ ended
    refine ⟨_, dealWith_approvals ended, ?_⟩
    unfold Justified
    split
    · rename_i approvable
      simp [approvable]
    · rename_i refused
      simp [refused]

section Passes

/-- A library whose expressions match the texts that are equal to them. -/
def samplePolicyLibrary : PolicyLibrary where
  toLibrary := sampleLibrary
  compileRegexp pattern := .ok fun text => text == pattern
  subjectString subject := "CN=" ++ subject.commonName

/-- A policy for digital signatures, under which the controller approves requests. -/
def samplePolicyObject : Object :=
  [("metadata", .object [("name", .string "signatures")]),
    ("spec", .object
      [("signerName", .string "sovereignite.io/signer"),
        ("caRef", .object [("name", .string "ca")]),
        ("allowedUsages", .array [.string "digital signature"]),
        ("requireApprovedCondition", .boolean false)])]

def sampleUsageRequest (usage : String) : Object :=
  [("metadata", .object [("name", .string "request")]),
    ("spec", .object
      [("signerName", .string "sovereignite.io/signer"), ("request", .string "plain"),
        ("usages", .array [.string usage])])]

def samplePolicy : Policy :=
  policyOf samplePolicyLibrary samplePolicyObject "" []

/-- A cluster with the policy and one request.  Its config maps cannot be read. -/
def respondWith (csrObj : Object) : Responder signature World
  | world, .cluster (.get path) =>
    if path = policiesPath then
      some (.ok [("items", .array [.object samplePolicyObject])], world)
    else if path = csrsPath then
      some (.ok [("items", .array [.object csrObj])], world)
    else
      some (.error (.message "not found"), world)
  | world, .cluster (.mergePatch _ _) => some (.ok (), world)
  | world, .cluster .now => some ((1000 : Time), world)
  | _, .cluster _ => none
  | world, .dealing p csrObj =>
    some ((), { world with dealings := (p, csrObj) :: world.dealings })
  | world, .approving p csrObj =>
    some ((), { world with approvals := (p, csrObj) :: world.approvals })

theorem answers_respondWith (csrObj : Object) :
    (rules samplePolicyLibrary).Answers (respondWith csrObj) id := by
  intro _ request _ _ responded
  cases request with
  | dealing =>
    cases responded
    rfl
  | approving =>
    cases responded
    rfl
  | cluster inner =>
    cases inner with
    | get =>
      simp only [respondWith] at responded
      split at responded
      · cases responded
        rfl
      · split at responded <;> cases responded <;> rfl
    | mergePatch =>
      cases responded
      rfl
    | now =>
      cases responded
      rfl
    | _ => cases responded

def passedWorld (usage : String) : World :=
  ((reconcile samplePolicyLibrary "").advance (respondWith (sampleUsageRequest usage)) 20
    ⟨[], []⟩).1

theorem passedWorld_reachable (usage : String) :
    (rules samplePolicyLibrary).Reachable ⟨[], []⟩ (passedWorld usage) :=
  .operated _ .start ⟨"", rfl⟩
    (SequenceRules.leaves_advance (answers_respondWith (sampleUsageRequest usage)) 20 ⟨[], []⟩ _)

theorem passedWorld_signature :
    passedWorld "digital signature" =
      ⟨[(samplePolicy, sampleUsageRequest "digital signature")],
        [(samplePolicy, sampleUsageRequest "digital signature")]⟩ :=
  rfl

theorem passedWorld_authority :
    (passedWorld "cert sign").approvals = [(samplePolicy, sampleUsageRequest "cert sign")] :=
  rfl

theorem sampleUsageRequest_complies :
    Complies samplePolicyLibrary samplePolicy (sampleUsageRequest "digital signature") where
  notDenied := rfl
  usages := by decide
  subject := ⟨sampleCSR "app.example.org", rfl, fun restricted => absurd rfl restricted⟩

/-- A request to sign certificates is approved under a policy for digital
signatures only. -/
theorem foreign_usage_approved :
    ∃ lib world p csrObj, (rules lib).Reachable ⟨[], []⟩ world ∧
      (p, csrObj) ∈ world.approvals ∧ p.requireApprovedCondition = false ∧
      ¬ Complies lib p csrObj := by
  refine ⟨samplePolicyLibrary, passedWorld "cert sign", samplePolicy,
    sampleUsageRequest "cert sign", passedWorld_reachable _, ?_, rfl, ?_⟩
  · rw [passedWorld_authority]
    exact List.mem_cons_self
  · intro complies
    have outside : usageSubset samplePolicyLibrary ["cert sign"] ["digital signature"] = false := by
      decide
    exact Bool.false_ne_true (outside.symm.trans complies.usages)

/-- A pass that approves a request for a digital signature. -/
theorem digital_signature_approved :
    (samplePolicy, sampleUsageRequest "digital signature") ∈
        (passedWorld "digital signature").approvals ∧
      ∀ approval ∈ (passedWorld "digital signature").approvals,
        Complies samplePolicyLibrary approval.1 approval.2 := by
  constructor
  · rw [passedWorld_signature]
    exact List.mem_cons_self
  · apply (approvals_comply_iff_justified samplePolicyLibrary).1 _ (passedWorld_reachable _)
    rw [passedWorld_signature]
    intro _ member
    rw [List.mem_singleton.mp member]
    intro _
    exact sampleUsageRequest_complies

end Passes

end Sovereignite.Controllers.CsrSigner
