import Sovereignite.EffectReplies
import Sovereignite.TrustGrantLedger
import Sovereignite.TrustRuns

/-!
# The candidates that operations propose

Whatever becomes of a commit, the candidate it carries was built in one of a
few ways from a document the operation had read.  This module lists them, with
everything the operation had checked by then, and shows that no operation
proposes anything else.  An operation asks for at most one certificate, with the
serial of a reservation it has made.  The key manager is trusted, where it is at
all, to keep the name and the key usage of the template it signs.
-/

namespace Sovereignite.Trust

open Effect Program
open KeyManager (CertificateRequest)

section Definitions

variable (env : Platform) (config : ServiceConfig) (caller : Caller) (log : List Commit)
variable (trusted : Prop)

/-- The encoding of an authority certificate. -/
structure AuthorityEncoding (encoded : Bytes) (cert : Certificate) : Prop where
  nonempty : encoded ≠ []
  size : encoded.length ≤ maximumCertificateDERBytes
  parsed : env.parseCertificate encoded = .ok cert
  signs : signsCertificates cert = true

/-- A document an instance works on: durable at some time, and bound to its identity. -/
structure Known (base : Snapshot) : Prop where
  durable : InHistory log base
  identity : base.identity = config.identity
  committed : base.revision ≠ 0

/-- An operation made a commit on a document. -/
def Entered (label : CommitLabel) (base next : Snapshot) : Prop :=
  ∃ older, ⟨caller, label, next⟩ :: older <:+ log ∧ Trust.durable older = base

/-- A certificate carries the name and the key usage of its template. -/
def Faithful (request : CertificateRequest) (encoded : Bytes) : Prop :=
  ∀ template cert, request.template = some template → env.parseCertificate encoded = .ok cert →
    cert.subject.commonName = template.subject.commonName ∧ cert.keyUsage = template.keyUsage

/-- The outbox is replaced by the publication of a candidate. -/
def Attaches (candidate : Snapshot) (now : Time) (next : Snapshot) : Prop :=
  ∃ documents publication,
    newPublication env config.identity candidate.revision documents now = .ok publication ∧
      candidate.published.has publication.id = false ∧
      next = { candidate with outbox := AList.singleton publication.id publication }

/-- A grant that the policy gave for a document. -/
structure Granted (base : Snapshot) (grant : AuthorizationGrant) (now : Time) : Prop where
  accepted : validateGrant grant base.revision now config.maximumGrantLifetime = .ok ()
  unused : base.appliedGrants.has (grantDigest env grant.grantID) = false

/-- A reservation an operation may make. -/
structure Reservable (base : Snapshot) (grant : AuthorizationGrant) (operation : Operation)
    (key : Bytes) (now : Time) : Prop where
  known : Known config log base
  granted : Granted env config base grant now
  settled : base.pendingCertificates.size = 0
  available : base.nextSerial ≠ maxUint64
  intended : operation = .initializeCA ∨ operation = .issueMTLSCertificate ∨ operation = .federate
  validity : grant.certificateNotBefore < grant.certificateNotAfter
  marshaled : ∃ publicKey, env.marshalPKIXPublicKey publicKey = .ok key
  timed : now ≠ 0

/-- A reservation an operation has made. -/
structure Reserves (start : Snapshot) (grant : AuthorizationGrant) (operation : Operation)
    (pending : PendingCertificate) : Prop where
  known : Known config log start
  made : ∃ domain key now, Reservable env config log start grant operation key now ∧
    pending = pendingCertificate env start grant operation "" domain
      config.identity.spiffeID key now ∧
    Entered caller log (.reserve operation grant) start
      (reserveSerial env start pending grant operation now)

/-- What was checked of a local authority certificate. -/
structure AuthorityIssued (pending : PendingCertificate) (encoded : Bytes)
    (cert : Certificate) : Prop where
  parsed : env.parseCertificate encoded = .ok cert
  selfSigned : env.checkSignatureFrom cert cert = .ok ()
  serial : cert.serialNumber = reservedSerial pending
  signs : signsCertificates cert = true
  named : trusted → cert.subject.commonName = config.identity.trustDomain

/-- What was checked of a leaf certificate. -/
structure LeafIssued (parent : Certificate) (pending : PendingCertificate)
    (issued : Bytes × Certificate) : Prop where
  parsed : env.parseCertificate issued.1 = .ok issued.2
  signed : env.checkSignatureFrom issued.2 parent = .ok ()
  serial : issued.2.serialNumber = reservedSerial pending
  uris : issued.2.uris = [some config.identity.spiffeID]
  leaf : issued.2.isCA = false
  constraints : issued.2.basicConstraintsValid = true
  keyUsage : issued.2.keyUsage = keyUsageDigitalSignature
  clientAuth : containsUsage issued.2.extKeyUsage .clientAuth = true
  serverAuth : containsUsage issued.2.extKeyUsage .serverAuth = true

/-- What was checked of a cross-certificate. -/
structure CrossIssued (parent remote : Certificate) (pending : PendingCertificate)
    (encoded : Bytes) (cert : Certificate) : Prop where
  parsed : env.parseCertificate encoded = .ok cert
  signed : env.checkSignatureFrom cert parent = .ok ()
  serial : cert.serialNumber = reservedSerial pending
  signs : trusted → signsCertificates cert = true
  named : trusted → cert.subject.commonName = remote.subject.commonName

/-- What was checked before a cross-certificate is requested. -/
structure Federable (start : Snapshot) (domain : String) (grant : AuthorizationGrant)
    (material : FederationMaterial) (remote parent : Certificate) (now : Time) : Prop where
  target : ∃ name, trustDomainFromIPNS env domain = .ok name
  apart : domain ≠ config.identity.trustDomain
  roles : complementaryFederationRoles grant.localFederationRole grant.remoteFederationRole = true
  generation : material.sourceGeneration ≠ 0
  encoding : AuthorityEncoding env material.remoteCACertificateDER remote
  named : remote.subject.commonName = domain
  initialized : start.activeCACertificate ≠ []
  parent : env.parseCertificate start.activeCACertificate = .ok parent
  timed : now ≠ 0

/-- What enters a document from outside: the date of a relationship, a certificate that was
issued, an edge with its certificate and dates, or the time of a completion. -/
inductive Contribution where
  | nothing
  | relationship (id : String) (now : Time)
  | certificate (encoded : Bytes)
  | edge (domain : String) (encoded : Bytes) (asked now : Time)
  | completion (completedAt : Time)

/-- The commits that operations ask for, with the document they were made from. -/
inductive Proposed : CommitLabel → Snapshot → Contribution → Snapshot → Prop where
  | bindIdentity (base : Snapshot) (known : InHistory log base) (unbound : base.revision = 0) :
      Proposed .bindIdentity base .nothing { base with identity := config.identity, revision := 1 }
  | recover (base next : Snapshot) (now : Time) (known : Known config log base)
      (timed : now ≠ 0) (interrupted : base.pendingCertificates.size ≠ 0)
      (attached : Attaches env config (burnAllPending base now) now next) :
      Proposed .recover base .nothing next
  | adopt (base adopted next : Snapshot) (state : ConnectionState) (peer : VerifiedMTLSPeer)
      (grant : AuthorizationGrant) (record : RelationshipRecord) (now : Time)
      (known : Known config log base) (timed : now ≠ 0)
      (verified : verifyMutualTLSPeer env state now = .ok peer)
      (granted : Granted env config base grant now)
      (applied : applyAdoption env (nextRevision base) peer grant now = .ok (adopted, record))
      (attached : Attaches env config (recordAppliedGrant env adopted grant .adopt now) now next) :
      Proposed (.adopt grant) base (.relationship record.id now) next
  | revokeTrust (base next : Snapshot) (grant : AuthorizationGrant) (id : String)
      (relationship : RelationshipRecord) (now : Time) (known : Known config log base)
      (timed : now ≠ 0) (granted : Granted env config base grant now)
      (found : base.relationships.lookup id = some relationship)
      (standing : relationship.phase ≠ .revoked)
      (attached : Attaches env config
        (recordAppliedGrant env (revokeRelationship base id relationship now) grant
          .revokeRelationship now) now next) :
      Proposed (.revokeTrust grant) base .nothing next
  | reserve (base : Snapshot) (grant : AuthorizationGrant) (operation : Operation)
      (domain : String) (key : Bytes) (now : Time)
      (reservable : Reservable env config log base grant operation key now) :
      Proposed (.reserve operation grant) base .nothing
        (reserveSerial env base
          (pendingCertificate env base grant operation "" domain config.identity.spiffeID
            key now) grant operation now)
  | finalizeCA (base start applied next : Snapshot) (grant : AuthorizationGrant)
      (pending : PendingCertificate) (encoded entered : Bytes) (cert : Certificate)
      (now : Time) (known : Known config log base) (timed : now ≠ 0)
      (reserves : Reserves env config caller log start grant .initializeCA pending)
      (held : base.pendingCertificates.has pending.id = true)
      (issued : AuthorityIssued env config trusted pending encoded cert)
      (activated : activateCA env config.identity encoded (releasePending base pending.id)
        now = .ok (applied, entered))
      (attached : Attaches env config applied now next) :
      Proposed (.finalize pending.id) base (.certificate encoded) next
  | finalizeLeaf (base start applied next : Snapshot) (grant : AuthorizationGrant)
      (pending : PendingCertificate) (issued : Bytes × Certificate) (parent : Certificate)
      (entered : Bytes) (now : Time) (known : Known config log base) (timed : now ≠ 0)
      (reserves : Reserves env config caller log start grant .issueMTLSCertificate pending)
      (held : base.pendingCertificates.has pending.id = true)
      (initialized : start.activeCACertificate ≠ [])
      (parsed : env.parseCertificate start.activeCACertificate = .ok parent)
      (leaf : LeafIssued env config parent pending issued)
      (activated : activateCertificate (leafRecord env config pending issued.1 issued.2)
        (releasePending base pending.id) now = .ok (applied, entered))
      (attached : Attaches env config applied now next) :
      Proposed (.finalize pending.id) base (.certificate issued.1) next
  | finalizeCross (base start applied next : Snapshot) (grant : AuthorizationGrant)
      (pending : PendingCertificate) (domain : String) (material : FederationMaterial)
      (parent remote cert : Certificate) (encoded : Bytes) (entered : FederationRecord)
      (asked now : Time) (known : Known config log base) (timed : now ≠ 0)
      (reserves : Reserves env config caller log start grant .federate pending)
      (held : base.pendingCertificates.has pending.id = true)
      (federable : Federable env config start domain grant material remote parent asked)
      (issued : CrossIssued env trusted parent remote pending encoded cert)
      (activated : activateFederation
        (federationRecord env config domain grant material pending encoded asked)
        (releasePending base pending.id) now = .ok (applied, entered))
      (attached : Attaches env config applied now next) :
      Proposed (.finalize pending.id) base (.edge domain encoded asked now) next
  | burn (base next : Snapshot) (id : String) (pending : PendingCertificate) (now : Time)
      (known : Known config log base) (timed : now ≠ 0)
      (found : base.pendingCertificates.lookup id = some pending)
      (attached : Attaches env config
        (burnSerial (releasePending base id) pending.serial now) now next) :
      Proposed (.burn id) base .nothing next
  | revokeCertificate (base next : Snapshot) (grant : AuthorizationGrant) (id : String)
      (cert : CertificateRecord) (now : Time) (known : Known config log base)
      (timed : now ≠ 0) (granted : Granted env config base grant now)
      (found : base.certificates.lookup id = some cert)
      (standing : cert.status = .active)
      (attached : Attaches env config
        (recordAppliedGrant env (revokeCertificateRecord (nextRevision base) id cert now) grant
          .revokeCertificate now) now next) :
      Proposed (.revokeCertificate grant) base .nothing next
  | drain (base : Snapshot) (publication : Publication) (receipt : PublicationReceipt)
      (completedAt : Time) (known : Known config log base)
      (first : firstPublication base.outbox = some publication)
      (accepted : validatePublicationReceipt env receipt publication
        base.lastIPNSSequence = .ok ()) :
      Proposed .drain base (.completion completedAt)
        (completePublication base publication receipt completedAt)

/-- What is known of a reply as long as the log only grows. -/
def admissible : (request : Request) → Reply request → Prop
  | .readMemory, memory => memory.opened = true → Known config log memory.snapshot
  | .load, reply => ∀ document, reply = .ok document → InHistory log document
  | .commit label expectedRevision next, reply => reply = .ok () →
      next.revision ≠ 0 ∧
        ∃ base, base.revision = expectedRevision ∧ Entered caller log label base next
  | .issueCertificate request, reply =>
    ∀ encoded, reply = .ok encoded → trusted → Faithful env request encoded
  | _, _ => True

/-- The requests for a certificate. -/
def Issues : Request → Prop
  | .issueCertificate _ => True
  | _ => False

/-- The other requests of an operation: a commit is a proposal, and the memory takes only
durable documents of the identity of the instance. -/
def permitted : Request → Prop
  | .issueCertificate _ => False
  | .commit label expectedRevision next => ∃ base contribution, base.revision = expectedRevision ∧
    Proposed env config caller log trusted label base contribution next
  | .writeMemory memory => memory.opened = true → Known config log memory.snapshot
  | _ => True

/-- An operation has reserved a serial. -/
def Holding (serial : Int) : Prop :=
  ∃ operation grant base next, Entered caller log (.reserve operation grant) base next ∧
    serial = base.nextSerial.toNat

/-- A request for a certificate with a serial that the operation has reserved. -/
def entitled : Request → Prop
  | .issueCertificate request =>
    ∃ serial, requestSerial request = some serial ∧ Holding caller log serial
  | _ => False

/-- A program that asks for no certificate and proposes only what is listed. -/
abbrev Proposes {α : Type} (program : Operating α) (post : α → Prop) : Prop :=
  program.Restricted (admissible env config caller log trusted)
    (permitted env config caller log trusted) post

/-- A program that may also ask for one certificate. -/
abbrev ProposesOnce {α : Type} (program : Operating α) (post : α → Prop) : Prop :=
  program.RestrictedOnce (admissible env config caller log trusted)
    (permitted env config caller log trusted) (entitled caller log) post

end Definitions

variable {env : Platform} {config : ServiceConfig} {caller : Caller} {log : List Commit}
variable {trusted : Prop}

theorem validateCACertificate_eq_ok {encoded : Bytes} :
    validateCACertificate env encoded = .ok () ↔ ∃ cert, AuthorityEncoding env encoded cert := by
  unfold validateCACertificate
  simp only [bind_eq_ok, reject_eq_ok, mapError_eq_ok, Bool.or_eq_false_iff, Bool.not_eq_false',
    decide_eq_false_iff_not, Nat.not_lt, exists_const, List.isEmpty_eq_false_iff]
  constructor
  · rintro ⟨⟨nonempty, size⟩, cert, parsed, signs⟩
    exact ⟨cert, nonempty, size, parsed, signs⟩
  · rintro ⟨cert, form⟩
    exact ⟨⟨form.nonempty, form.size⟩, cert, form.parsed, form.signs⟩

variable {now : Time}

theorem Attaches.eq {candidate next : Snapshot}
    (attached : Attaches env config candidate now next) :
    next = { candidate with outbox := next.outbox } :=
  Attached.eq ⟨_, attached⟩

variable {pending : PendingCertificate}

theorem reservedSerial_eq {number : Nat} (serial : pending.serial = number.repr) :
    reservedSerial pending = number := by
  rw [reservedSerial, serial, setString_repr]
  rfl

variable {grant : AuthorizationGrant} {operation : Operation}

/-- What a reservation says, and that it is found wherever it still is. -/
theorem Reserves.facts {start base : Snapshot} (recorded : Recorded env log)
    (reserves : Reserves env config caller log start grant operation pending)
    (known : Known config log base) (held : base.pendingCertificates.has pending.id = true) :
    base.pendingCertificates.lookup pending.id = some pending ∧ pending.operation = operation ∧
      (reservedSerial pending).repr = pending.serial := by
  obtain ⟨_, _, _, _, rfl, _, within, _⟩ := reserves.made
  obtain ⟨_, present⟩ := has_eq_true.mp held
  have same := recorded.pending_unique known.durable ⟨_, within, rfl⟩ present
    (AList.lookup_insert _)
  subst same
  refine ⟨present, rfl, ?_⟩
  rw [reservedSerial_eq (by rfl : _ = start.nextSerial.toNat.repr)]
  rfl

theorem Reserves.holding {start : Snapshot}
    (reserves : Reserves env config caller log start grant operation pending) :
    Holding caller log (reservedSerial pending) := by
  obtain ⟨_, _, _, _, rfl, entered⟩ := reserves.made
  exact ⟨_, _, _, _, entered, reservedSerial_eq rfl⟩

theorem Granted.authorized {base : Snapshot} (granted : Granted env config base grant now) :
    Authorized env base grant :=
  ⟨⟨now, config.maximumGrantLifetime, granted.accepted⟩, granted.unused⟩

variable {label : CommitLabel} {base next : Snapshot} {contribution : Contribution}

/-- A proposal is a transition from a document that was durable at some time. -/
theorem Proposed.transition (recorded : Recorded env log)
    (proposed : Proposed env config caller log trusted label base contribution next) :
    InHistory log base ∧ (label = .bindIdentity ∧ next.identity = config.identity ∨
        label ≠ .bindIdentity ∧ base.identity = config.identity) ∧
      Transition env label base next := by
  have made : ∀ {label next}, label ≠ CommitLabel.bindIdentity → Known config log base →
      Transition env label base next → InHistory log base ∧
        (label = .bindIdentity ∧ next.identity = config.identity ∨
          label ≠ .bindIdentity ∧ base.identity = config.identity) ∧
        Transition env label base next :=
    fun other known transition => ⟨known.durable, .inr ⟨other, known.identity⟩, transition⟩
  cases proposed with
  | bindIdentity _ known unbound =>
    exact ⟨known, .inl ⟨rfl, rfl⟩, .bindIdentity config.identity unbound⟩
  | recover _ _ now known timed interrupted attached =>
    exact made nofun known (.recover now interrupted timed ⟨_, attached⟩)
  | adopt _ _ _ _ peer grant record now known _ _ granted applied attached =>
    exact made nofun known (.adopt grant peer record now granted.authorized applied ⟨_, attached⟩)
  | revokeTrust _ _ grant id relationship now known _ granted found standing attached =>
    exact made nofun known
      (.revokeTrust grant id relationship now granted.authorized found standing ⟨_, attached⟩)
  | reserve _ grant operation domain key now reservable =>
    exact made nofun reservable.known (.reserve grant operation "" domain _ key now
      reservable.granted.authorized reservable.settled reservable.available)
  | finalizeCA _ _ _ _ _ pending encoded entered cert now known _ reserves held issued
      activated attached =>
    obtain ⟨found, intended, serial⟩ := reserves.facts recorded known held
    refine made nofun known (.finalizeCA pending.id pending config.identity encoded entered
      cert now found intended issued.parsed ?_ activated ⟨_, attached⟩)
    rw [serialText, issued.serial, serial]
  | finalizeLeaf _ _ _ _ _ pending _ _ entered now known _ reserves held _ _ _ activated attached =>
    obtain ⟨found, intended, serial⟩ := reserves.facts recorded known held
    exact made nofun known (.finalizeLeaf pending.id pending _ entered now found intended serial
      rfl activated ⟨_, attached⟩)
  | finalizeCross _ _ _ _ _ pending _ _ _ _ _ _ entered _ now known _ reserves held _ _ activated
      attached =>
    obtain ⟨found, intended, _⟩ := reserves.facts recorded known held
    exact made nofun known (.finalizeCross pending.id pending _ entered now found intended rfl
      activated ⟨_, attached⟩)
  | burn _ _ id pending now known _ found attached =>
    exact made nofun known (.burn id pending now found ⟨_, attached⟩)
  | revokeCertificate _ _ grant id cert now known _ granted found standing attached =>
    exact made nofun known
      (.revokeCertificate grant id cert now granted.authorized found standing ⟨_, attached⟩)
  | drain _ publication receipt completedAt known first accepted =>
    exact made nofun known (.drain publication receipt completedAt first accepted)

theorem Proposed.identity (recorded : Recorded env log)
    (proposed : Proposed env config caller log trusted label base contribution next) :
    next.identity = config.identity := by
  obtain ⟨_, bound | ⟨other, same⟩, transition⟩ := proposed.transition recorded
  · exact bound.2
  · rw [transition.frame.2 other, same]

theorem proposes_ask (request : Request)
    (allowed : permitted env config caller log trusted request) :
    Proposes env config caller log trusted (ask request)
      (admissible env config caller log trusted request) :=
  ⟨allowed, fun _ given => given⟩

variable {ctx : Context}

theorem proposes_checkContext :
    Proposes env config caller log trusted (checkContext ctx) fun _ => True := by
  refine ⟨trivial, fun reply _ => ?_⟩
  cases reply <;> trivial

theorem proposes_withLock {α : Type} {mutex : Mutex} {body : Operating α} {post : α → Prop}
    (restricted : Proposes env config caller log trusted body post) :
    Proposes env config caller log trusted (withLock mutex body) post :=
  Restricted.between trivial trivial restricted

theorem proposes_loadDurable {text : String} :
    Proposes env config caller log trusted (loadDurable text) fun document =>
      InHistory log document := by
  refine ⟨trivial, fun reply given => ?_⟩
  cases reply with
  | ok document => exact given document rfl
  | error => trivial

theorem proposes_currentState :
    Proposes env config caller log trusted (currentState ctx) fun value =>
      Known config log value.1 ∧ value.2 ≠ 0 := by
  refine .check fun _ => ?_
  refine .bind proposes_checkContext fun _ _ => ?_
  refine .bind (proposes_ask .now trivial) fun now _ => ?_
  refine .check fun timed => ?_
  apply proposes_withLock
  refine .bind (proposes_ask .readMemory trivial) fun memory read => ?_
  refine .check fun opened => ?_
  exact ⟨read (by simpa using opened), by simpa using timed⟩

variable {state : ConnectionState}

theorem proposes_authorizedInput :
    Proposes env config caller log trusted (authorizedInput env ctx state) fun value =>
      Known config log value.2.1 ∧ value.2.2 ≠ 0 ∧
        verifyMutualTLSPeer env state value.2.2 = .ok value.1 := by
  apply Restricted.bind proposes_currentState
  rintro ⟨_, _⟩ ⟨known, timed⟩
  refine .take fun peer verified => ?_
  exact ⟨known, timed, verified⟩

variable {current : Snapshot}

theorem proposes_callPolicy {intent : AuthorizationIntent} :
    Proposes env config caller log trusted (callPolicy env config intent current now)
      fun grant => Granted env config current grant now := by
  refine .check fun _ => ?_
  refine .bind (proposes_ask (.authorize intent) trivial) fun decision _ => ?_
  refine .take fun grant _ => ?_
  refine .take fun _ accepted => ?_
  refine .check fun unused => ?_
  exact ⟨accepted, unused⟩

theorem proposes_attachPublicOutbox {candidate : Snapshot} :
    Proposes env config caller log trusted (attachPublicOutbox env config candidate now)
      fun next => Attaches env config candidate now next := by
  refine .check fun _ => ?_
  refine .take fun view _ => ?_
  refine .bind (proposes_ask (.build view) trivial) fun built _ => ?_
  refine .take fun documents _ => ?_
  refine .take fun publication made => ?_
  refine .check fun unpublished => ?_
  exact ⟨documents, publication, made, unpublished, rfl⟩

theorem proposes_reload {memory : Memory} :
    Proposes env config caller log trusted (reloadSnapshotLocked env config memory)
      fun _ => True := by
  refine .bind proposes_loadDurable fun reloaded loaded => ?_
  refine .take fun _ _ => ?_
  refine .check fun consistent => ?_
  simp only [Bool.or_eq_false_iff, beq_eq_false_iff_ne, bne_eq_false_iff_eq] at consistent
  exact ⟨fun _ => ⟨loaded, consistent.1.2, consistent.1.1⟩, fun _ _ => trivial⟩

/-- What is known of the document an attempt to open goes on with. -/
def OpenStep.Fits (config : ServiceConfig) (log : List Commit) : OpenStep → Prop
  | .retry snapshot => InHistory log snapshot
  | .proceed snapshot => Known config log snapshot

theorem Entered.known {base next : Snapshot} (entered : Entered caller log label base next)
    (identity : next.identity = config.identity) (committed : next.revision ≠ 0) :
    Known config log next := by
  obtain ⟨_, within, _⟩ := entered
  exact ⟨⟨_, within, rfl⟩, identity, committed⟩

section Recorded

variable (recorded : Recorded env log)
include recorded

theorem proposes_commitCandidate
    (proposed : Proposed env config caller log trusted label base contribution next) :
    Proposes env config caller log trusted (commitCandidate env config label base.revision next)
      fun _ => ∃ read, read.revision = base.revision ∧ Entered caller log label read next := by
  apply proposes_withLock
  refine .bind (proposes_ask .readMemory trivial) fun memory _ => ?_
  refine .check fun _ => ?_
  split
  · refine .bind (Restricted.attempt proposes_reload) fun _ _ => ?_
    trivial
  · refine .bind (proposes_ask (.commit label base.revision next) ⟨base, _, rfl, proposed⟩)
      fun reply stored => ?_
    cases reply with
    | ok =>
      obtain ⟨committed, base, same, entered⟩ := stored rfl
      exact ⟨fun _ => entered.known (proposed.identity recorded) committed,
        fun _ _ => ⟨base, same, entered⟩⟩
    | error =>
      refine .bind (Restricted.attempt proposes_reload) fun _ _ => ?_
      trivial

theorem proposes_afterOpenCommit {text reloadText : String} {outcome : Except Error Unit}
    {expectedRevision : UInt64}
    (proposed : Proposed env config caller log trusted label base contribution next)
    (stored : admissible env config caller log trusted (.commit label expectedRevision next)
      outcome) :
    Proposes env config caller log trusted (afterOpenCommit next text reloadText outcome)
      (OpenStep.Fits config log) := by
  cases outcome with
  | ok =>
    obtain ⟨committed, _, _, entered⟩ := stored rfl
    exact entered.known (proposed.identity recorded) committed
  | error =>
    refine .check fun _ => ?_
    refine .bind proposes_loadDurable fun snapshot known => ?_
    exact known

theorem proposes_bindIdentity {snapshot : Snapshot} (known : InHistory log snapshot) :
    Proposes env config caller log trusted (bindIdentity config snapshot)
      (OpenStep.Fits config log) := by
  unfold bindIdentity
  split
  · next unbound =>
      have unbound : snapshot.revision = 0 := by simpa using unbound
      have proposed : Proposed env config caller log trusted .bindIdentity snapshot .nothing
          _ := .bindIdentity snapshot known unbound
      refine .bind (proposes_ask (.commit .bindIdentity 0 _) ⟨_, _, unbound, proposed⟩)
        fun outcome stored => ?_
      exact proposes_afterOpenCommit recorded proposed stored
  · next bound =>
      refine .check fun same => ?_
      exact ⟨known, by simpa using same, by simpa using bound⟩

theorem proposes_burnInterrupted {snapshot : Snapshot} (known : Known config log snapshot) :
    Proposes env config caller log trusted (burnInterrupted env config snapshot)
      (OpenStep.Fits config log) := by
  unfold burnInterrupted
  split
  · exact known
  next unsettled =>
    refine .bind (proposes_ask .now trivial) fun now _ => ?_
    refine .check fun timed => ?_
    refine .bind (Restricted.mapError proposes_attachPublicOutbox) fun next attached => ?_
    have proposed : Proposed env config caller log trusted .recover snapshot .nothing next :=
      .recover snapshot next now known (by simpa using timed) (by simpa using unsettled) attached
    apply Restricted.bind
      (proposes_ask (.commit .recover snapshot.revision next) ⟨_, _, rfl, proposed⟩)
    intro _ stored
    exact proposes_afterOpenCommit recorded proposed stored

theorem proposes_openAttempts (attempts : Nat) (snapshot : Snapshot)
    (known : InHistory log snapshot) :
    Proposes env config caller log trusted (openAttempts env config ctx attempts snapshot)
      fun _ => True := by
  induction attempts generalizing snapshot with
  | zero => trivial
  | succ _ ih =>
    refine .bind proposes_checkContext fun _ _ => ?_
    refine .take fun _ _ => ?_
    refine .bind (proposes_bindIdentity recorded known) fun step fits => ?_
    cases step with
    | retry reloaded => exact ih reloaded fits
    | proceed =>
      refine .bind (proposes_burnInterrupted recorded fits) fun step fits => ?_
      cases step with
      | retry reloaded => exact ih reloaded fits
      | proceed =>
        apply proposes_withLock
        exact ⟨fun _ => fits, fun _ _ => trivial⟩

theorem proposes_openService :
    Proposes env config caller log trusted (openService env config ctx) fun _ => True := by
  refine .check fun _ => ?_
  refine .bind proposes_checkContext fun _ _ => ?_
  apply proposes_withLock
  refine .bind (proposes_withLock (proposes_ask .readMemory trivial)) fun memory _ => ?_
  split
  · trivial
  · refine .bind proposes_loadDurable fun snapshot known => ?_
    exact proposes_openAttempts recorded 8 snapshot known

theorem proposes_adoptDevice {targetPeerID : String} :
    Proposes env config caller log trusted (adoptDevice env config ctx state targetPeerID)
      fun _ => True := by
  apply Restricted.bind proposes_authorizedInput
  rintro ⟨peer, current, now⟩ ⟨known, timed, verified⟩
  refine .check fun _ => ?_
  refine .bind proposes_callPolicy fun grant granted => ?_
  apply Restricted.take
  rintro ⟨adopted, record⟩ applied
  refine .bind proposes_attachPublicOutbox fun next attached => ?_
  apply Restricted.bind (proposes_commitCandidate recorded (.adopt current adopted next state
    peer grant record now known timed verified granted applied attached))
  intro _ _
  trivial

theorem proposes_revokeTrust {relationshipID : String} :
    Proposes env config caller log trusted
      (revokeTrust env config ctx state relationshipID) fun _ => True := by
  apply Restricted.bind proposes_authorizedInput
  rintro ⟨_, current, now⟩ ⟨known, timed, _⟩
  refine .check fun _ => ?_
  refine .take fun _ _ => ?_
  split
  · trivial
  · next relationship found =>
      refine .check fun standing => ?_
      refine .bind proposes_callPolicy fun grant granted => ?_
      refine .bind proposes_attachPublicOutbox fun next attached => ?_
      apply Restricted.weaken (fun _ _ => trivial) (proposes_commitCandidate recorded
        (.revokeTrust current next grant relationshipID relationship now known timed granted
          found (by simpa using standing) attached))

theorem proposes_revokeCertificate {id : String} :
    Proposes env config caller log trusted (revokeCertificate env config ctx state id)
      fun _ => True := by
  apply Restricted.bind proposes_authorizedInput
  rintro ⟨_, current, now⟩ ⟨known, timed, _⟩
  refine .take fun _ _ => ?_
  split
  · trivial
  · next cert found =>
      refine .check fun standing => ?_
      refine .bind proposes_callPolicy fun grant granted => ?_
      refine .bind proposes_attachPublicOutbox fun next attached => ?_
      apply Restricted.weaken (fun _ _ => trivial) (proposes_commitCandidate recorded
        (.revokeCertificate current next grant id cert now known timed granted found
          (by simpa using standing) attached))

theorem proposes_finalizePending {β : Type} {pendingID : String}
    {apply : Snapshot → Time → Except Error (Snapshot × β)}
    (proposes : ∀ base now applied entered next, Known config log base →
      base.pendingCertificates.has pendingID = true → now ≠ 0 →
      apply (releasePending base pendingID) now = .ok (applied, entered) →
      Attaches env config applied now next →
      ∃ contribution,
        Proposed env config caller log trusted (.finalize pendingID) base contribution next)
    (attempts : Nat) :
    Proposes env config caller log trusted
      (finalizePending env config ctx pendingID apply attempts) fun _ => True := by
  induction attempts with
  | zero => trivial
  | succ _ ih =>
    have attempt : Proposes env config caller log trusted
        (finalizeAttempt env config ctx pendingID apply) fun _ => True := by
      apply Restricted.bind proposes_currentState
      rintro ⟨current, now⟩ ⟨known, timed⟩
      refine .check fun held => ?_
      apply Restricted.take
      rintro ⟨applied, entered⟩ activated
      refine .bind proposes_attachPublicOutbox fun next attached => ?_
      obtain ⟨_, proposed⟩ := proposes current now applied entered next known (by simpa using held)
        timed activated attached
      apply Restricted.bind (Restricted.attempt (proposes_commitCandidate recorded proposed))
      intro _ _
      trivial
    refine .bind attempt fun outcome _ => ?_
    cases outcome with
    | ok => trivial
    | error =>
      refine .check fun _ => ?_
      exact ih

theorem proposes_burnPending {α : Type} {pendingID : String} {error : Error} (attempts : Nat) :
    Proposes env config caller log trusted
      (burnPending env config ctx pendingID error attempts : Operating α)
      fun _ => True := by
  induction attempts with
  | zero => trivial
  | succ _ ih =>
    apply Restricted.bind (Restricted.mapError proposes_currentState)
    rintro ⟨current, now⟩ ⟨known, timed⟩
    dsimp only
    split
    · trivial
    · next pending found =>
        refine .bind (Restricted.mapError proposes_attachPublicOutbox) fun next attached => ?_
        apply Restricted.bind (Restricted.attempt (proposes_commitCandidate recorded
          (.burn current next pendingID pending now known timed found attached)))
        intro outcome _
        cases outcome with
        | ok => trivial
        | error =>
          refine .check fun _ => ?_
          exact ih

theorem proposes_issueReserved {α β : Type} {issue : Operating α}
    {apply : α → Snapshot → Time → Except Error (Snapshot × β)} {issues : α → Prop}
    (issuing : ProposesOnce env config caller log trusted issue issues)
    (proposes : ∀ issued base now applied entered next, issues issued → Known config log base →
      base.pendingCertificates.has pending.id = true → now ≠ 0 →
      apply issued (releasePending base pending.id) now = .ok (applied, entered) →
      Attaches env config applied now next →
      ∃ contribution,
        Proposed env config caller log trusted (.finalize pending.id) base contribution next) :
    ProposesOnce env config caller log trusted
      (issueReserved env config ctx pending issue apply) fun _ => True := by
  apply RestrictedOnce.bindLast (RestrictedOnce.attempt issuing)
  intro outcome issued
  cases outcome with
  | error => exact proposes_burnPending recorded bookkeepingAttempts
  | ok value =>
    apply Restricted.bind (Restricted.attempt (proposes_finalizePending recorded
      (fun base now applied entered next => proposes value base now applied entered next
        (issued value rfl)) bookkeepingAttempts))
    intro outcome _
    cases outcome with
    | ok => trivial
    | error => exact proposes_burnPending recorded bookkeepingAttempts

variable {domain : String}

theorem proposes_reserveCertificate {key : Bytes} (reservable : current.nextSerial ≠ maxUint64 →
      Reservable env config log current grant operation key now) :
    Proposes env config caller log trusted
      (reserveCertificate env config current grant operation "" domain
        config.identity.spiffeID key now)
      fun pending => Reserves env config caller log current grant operation pending := by
  refine .check fun available => ?_
  have allowed := reservable (by simpa using available)
  apply Restricted.bind (proposes_commitCandidate recorded
    (.reserve current grant operation domain key now allowed))
  rintro _ ⟨base, same, older, within, equal⟩
  have read : InHistory log base := ⟨older, (List.suffix_cons _ _).trans within, equal⟩
  have unchanged := read.unique recorded allowed.known.durable same
  subst unchanged
  exact ⟨allowed.known, domain, key, now, allowed, rfl, older, within, equal⟩

omit recorded in
theorem proposes_caPublicKey :
    Proposes env config caller log trusted (caPublicKey env config) fun _ => True := by
  refine .check fun _ => ?_
  refine .bind (proposes_ask (.metadata KeyManager.roleDeviceRootCA) trivial) fun reply _ => ?_
  refine .take fun metadata _ => ?_
  refine .check fun _ => ?_
  exact Restricted.ofExcept.weaken fun _ _ => trivial

omit recorded in
theorem proposes_issueAndParse {request : CertificateRequest} {serial : Int}
    {issueText parseText : String} (carried : requestSerial request = some serial)
    (holding : Holding caller log serial) :
    ProposesOnce env config caller log trusted (issueAndParse env request issueText parseText)
      fun issued => env.parseCertificate issued.1 = .ok issued.2 ∧
        (trusted → Faithful env request issued.1) := by
  refine .inr ⟨⟨serial, carried, holding⟩, fun reply given => ?_⟩
  refine .take fun encoded replied => ?_
  refine .take fun cert parsed => ?_
  exact ⟨mapError_eq_ok.mp parsed, given encoded (mapError_eq_ok.mp replied)⟩

variable {notBefore notAfter : Time}

omit recorded in
theorem proposes_issueLocalCA (holding : Holding caller log (reservedSerial pending)) :
    ProposesOnce env config caller log trusted
      (issueLocalCA env config (reservedSerial pending) notBefore notAfter)
      fun encoded => ∃ cert,
        AuthorityIssued env config trusted pending encoded cert := by
  refine .bind proposes_caPublicKey fun publicKey _ => ?_
  apply RestrictedOnce.bindLast (proposes_issueAndParse rfl holding)
  rintro ⟨_, cert⟩ ⟨parsed, faithful⟩
  refine .take fun _ checked => ?_
  obtain ⟨_, selfSigned, checked⟩ := bind_eq_ok.mp checked
  obtain ⟨_, matched, _⟩ := bind_eq_ok.mp checked
  simp only [reject_eq_ok, Bool.or_eq_false_iff, bne_eq_false_iff_eq, Bool.not_eq_false',
    beq_eq_false_iff_ne] at matched
  obtain ⟨⟨⟨⟨⟨serial, isCA⟩, constraints⟩, signing⟩, _⟩, _⟩ := matched
  refine ⟨cert, parsed, mapError_eq_ok.mp selfSigned, serial, ?_,
    fun trust => (faithful trust _ cert rfl parsed).1⟩
  simp [signsCertificates, constraints, isCA, signing]

omit recorded in
theorem proposes_issueMTLSLeaf {parent : Certificate} {publicKey : PublicKey}
    (holding : Holding caller log (reservedSerial pending)) :
    ProposesOnce env config caller log trusted
      (issueMTLSLeaf env config parent (reservedSerial pending) publicKey notBefore notAfter)
      (LeafIssued env config parent pending) := by
  refine .take fun _ _ => ?_
  apply RestrictedOnce.bindLast (proposes_issueAndParse rfl holding)
  rintro ⟨_, _⟩ ⟨parsed, _⟩
  refine .take fun _ checked => ?_
  obtain ⟨_, signed, checked⟩ := bind_eq_ok.mp checked
  obtain ⟨_, profile, checked⟩ := bind_eq_ok.mp checked
  obtain ⟨_, usages, _⟩ := bind_eq_ok.mp checked
  simp only [reject_eq_ok, Bool.or_eq_false_iff, bne_eq_false_iff_eq, Bool.not_eq_false']
    at profile usages
  obtain ⟨⟨⟨⟨⟨serial, leaf⟩, constraints⟩, keyUsage⟩, uris⟩, _⟩ := profile
  exact ⟨parsed, mapError_eq_ok.mp signed, serial, uris, leaf, constraints, keyUsage,
    usages.1.1.2, usages.1.2⟩

omit recorded in
theorem proposes_issueCrossCertificate {parent remote : Certificate}
    (holding : Holding caller log (reservedSerial pending)) :
    ProposesOnce env config caller log trusted
      (issueCrossCertificate env parent remote (reservedSerial pending) notBefore notAfter)
      fun encoded => ∃ cert,
        CrossIssued env trusted parent remote pending encoded cert := by
  apply RestrictedOnce.bindLast (proposes_issueAndParse rfl holding)
  rintro ⟨_, cert⟩ ⟨parsed, faithful⟩
  refine .take fun _ checked => ?_
  obtain ⟨_, signed, checked⟩ := bind_eq_ok.mp checked
  obtain ⟨_, matched, _⟩ := bind_eq_ok.mp checked
  simp only [reject_eq_ok, Bool.or_eq_false_iff, bne_eq_false_iff_eq, Bool.not_eq_false'] at matched
  obtain ⟨⟨⟨⟨⟨⟨serial, isCA⟩, constraints⟩, _⟩, _⟩, _⟩, _⟩ := matched
  refine ⟨cert, parsed, mapError_eq_ok.mp signed, serial, fun trust => ?_,
    fun trust => (faithful trust _ cert rfl parsed).1⟩
  have usage := (faithful trust _ cert rfl parsed).2
  have signing : (keyUsageDigitalSignature ||| keyUsageCertSign ||| keyUsageCRLSign) &&&
      keyUsageCertSign ≠ 0 := by decide
  simpa [signsCertificates, constraints, isCA, usage, crossCertificateTemplate] using signing

omit recorded in
theorem ordered_of_certificateGrant {lifetime : Duration}
    (accepted : validateCertificateGrant lifetime grant now = .ok ()) :
    grant.certificateNotBefore < grant.certificateNotAfter := by
  obtain ⟨_, valid, _⟩ := bind_eq_ok.mp accepted
  simp only [reject_eq_ok, Bool.or_eq_false_iff, decide_eq_false_iff_not, Int.not_le] at valid
  exact valid.1.2

theorem proposes_initializeLocalCA :
    ProposesOnce env config caller log trusted (initializeLocalCA env config ctx)
      fun _ => True := by
  apply RestrictedOnce.between trivial trivial
  apply RestrictedOnce.bind proposes_currentState
  rintro ⟨current, _⟩ ⟨known, timed⟩
  refine .check fun settled => ?_
  refine .check fun _ => ?_
  refine .bind proposes_callPolicy fun grant granted => ?_
  refine .take fun _ valid => ?_
  refine .bind proposes_caPublicKey fun publicKey _ => ?_
  refine .take fun key marshaled => ?_
  apply RestrictedOnce.bind (proposes_reserveCertificate recorded fun available =>
    ⟨known, granted, by simpa using settled, available, .inl rfl,
      ordered_of_certificateGrant valid, ⟨publicKey, mapError_eq_ok.mp marshaled⟩, timed⟩)
  intro pending reserves
  apply proposes_issueReserved recorded (proposes_issueLocalCA reserves.holding)
  rintro encoded base completedAt applied entered next ⟨cert, issued⟩ present held clocked
    activated attached
  exact ⟨_, .finalizeCA base current applied next grant pending encoded entered cert
    completedAt present clocked reserves held issued activated attached⟩

theorem proposes_issueLocalMTLSCertificate :
    ProposesOnce env config caller log trusted (issueLocalMTLSCertificate env config ctx)
      fun _ => True := by
  apply RestrictedOnce.between trivial trivial
  apply RestrictedOnce.bind proposes_currentState
  rintro ⟨current, _⟩ ⟨known, timed⟩
  refine .check fun settled => ?_
  refine .check fun initialized => ?_
  refine .check fun _ => ?_
  refine .bind proposes_callPolicy fun grant granted => ?_
  refine .take fun _ valid => ?_
  apply RestrictedOnce.bind (proposes_ask (.metadata KeyManager.roleDeviceIPNSIdentity) trivial)
  intro _ _
  refine .take fun metadata _ => ?_
  refine .check fun _ => ?_
  refine .take fun publicKey _ => ?_
  refine .take fun parent parsed => ?_
  refine .take fun key marshaled => ?_
  apply RestrictedOnce.bind (proposes_reserveCertificate recorded fun available =>
    ⟨known, granted, by simpa using settled, available, .inr (.inl rfl),
      ordered_of_certificateGrant valid, ⟨publicKey, mapError_eq_ok.mp marshaled⟩, timed⟩)
  intro pending reserves
  apply proposes_issueReserved recorded (proposes_issueMTLSLeaf reserves.holding)
  rintro issued base completedAt applied entered next leaf present held clocked activated attached
  exact ⟨_, .finalizeLeaf base current applied next grant pending issued parent entered completedAt
    present clocked reserves held (by simpa using initialized) (mapError_eq_ok.mp parsed) leaf
    activated attached⟩

omit recorded in
theorem checkFederationMaterial_eq_ok {material : FederationMaterial} {remote : Certificate}
    (checked : checkFederationMaterial env current domain grant material = .ok remote) :
    material.sourceGeneration ≠ 0 ∧ AuthorityEncoding env material.remoteCACertificateDER remote ∧
      remote.subject.commonName = domain := by
  obtain ⟨_, fresh, checked⟩ := bind_eq_ok.mp checked
  obtain ⟨_, _, checked⟩ := bind_eq_ok.mp checked
  obtain ⟨_, parsed, checked⟩ := bind_eq_ok.mp checked
  obtain ⟨_, valid, checked⟩ := bind_eq_ok.mp checked
  obtain ⟨_, named, returned⟩ := bind_eq_ok.mp checked
  cases returned
  obtain ⟨_, encoding⟩ := validateCACertificate_eq_ok.mp valid
  cases encoding.parsed.symm.trans (mapError_eq_ok.mp parsed)
  simp only [reject_eq_ok, Bool.or_eq_false_iff, beq_eq_false_iff_ne] at fresh
  exact ⟨fresh.1, encoding, by simpa [reject_eq_ok] using named⟩

theorem proposes_federate :
    ProposesOnce env config caller log trusted (federate env config ctx state domain)
      fun _ => True := by
  apply RestrictedOnce.between trivial trivial
  refine .take fun name target => ?_
  refine .check fun apart => ?_
  apply RestrictedOnce.bind proposes_authorizedInput
  rintro ⟨peer, current, now⟩ ⟨known, timed, _⟩
  refine .take fun _ _ => ?_
  refine .check fun settled => ?_
  refine .check fun initialized => ?_
  refine .check fun _ => ?_
  refine .bind proposes_callPolicy fun grant granted => ?_
  refine .check fun roles => ?_
  refine .take fun _ valid => ?_
  refine .check fun _ => ?_
  refine .bind (proposes_ask (.fetch config.identity domain peer) trivial) fun reply _ => ?_
  refine .take fun material _ => ?_
  refine .take fun remote checked => ?_
  refine .take fun parent parsed => ?_
  refine .take fun key marshaled => ?_
  obtain ⟨generation, encoding, named⟩ := checkFederationMaterial_eq_ok checked
  have owned : ∃ publicKey, env.marshalPKIXPublicKey publicKey = .ok key := by
    have marshals := mapError_eq_ok.mp marshaled
    cases present : remote.publicKey with
    | none =>
      rw [present] at marshals
      cases marshals
    | some publicKey =>
      rw [present] at marshals
      exact ⟨publicKey, marshals⟩
  apply RestrictedOnce.bind (proposes_reserveCertificate recorded fun available =>
    ⟨known, granted, by simpa using settled, available, .inr (.inr rfl),
      ordered_of_certificateGrant valid, owned, timed⟩)
  intro pending reserves
  apply proposes_issueReserved recorded (proposes_issueCrossCertificate reserves.holding)
  rintro encoded base completedAt applied entered next ⟨cert, issued⟩ present held clocked
    activated attached
  have federable : Federable env config current domain grant material remote parent now :=
    ⟨⟨name, target⟩, by simpa using apart, by simpa using roles, generation, encoding, named,
      by simpa using initialized, mapError_eq_ok.mp parsed, timed⟩
  exact ⟨_, .finalizeCross base current applied next grant pending domain material parent remote
    cert encoded entered now completedAt present clocked reserves held federable issued
    activated attached⟩

theorem proposes_drainItems (items : Nat) :
    Proposes env config caller log trusted (drainItems env config ctx items) fun _ => True := by
  induction items with
  | zero => trivial
  | succ _ ih =>
    apply Restricted.bind proposes_currentState
    rintro ⟨current, now⟩ ⟨known, _⟩
    dsimp only
    split
    · trivial
    · next publication first =>
        refine .bind (proposes_ask (.publish publication) trivial) fun reply _ => ?_
        refine .take fun receipt _ => ?_
        refine .take fun _ accepted => ?_
        refine .bind (proposes_ask .now trivial) fun completedAt _ => ?_
        apply Restricted.bind (proposes_commitCandidate recorded (.drain current publication receipt
          completedAt known first (mapError_eq_ok.mp accepted)))
        intro _ _
        exact ih

theorem proposes_drainOutbox {items : Nat} :
    Proposes env config caller log trusted (drainOutbox env config ctx items) fun _ => True := by
  refine .check fun _ => ?_
  refine .check fun _ => ?_
  exact proposes_withLock (proposes_drainItems recorded items)

theorem proposes_offered {program : Operating Unit} (offered : Offered env config program) :
    ProposesOnce env config caller log trusted program fun _ => True := by
  cases offered with
  | openService => exact .of_restricted (proposes_openService recorded)
  | adoptDevice =>
    exact .of_restricted ((proposes_adoptDevice recorded).bind fun _ _ => trivial)
  | revokeTrust => exact .of_restricted (proposes_revokeTrust recorded)
  | initializeLocalCA => exact (proposes_initializeLocalCA recorded).bindLast fun _ _ => trivial
  | issueLocalMTLSCertificate =>
    exact (proposes_issueLocalMTLSCertificate recorded).bindLast fun _ _ => trivial
  | federate => exact (proposes_federate recorded).bindLast fun _ _ => trivial
  | revokeCertificate => exact .of_restricted (proposes_revokeCertificate recorded)
  | drainOutbox => exact .of_restricted (proposes_drainOutbox recorded)

end Recorded

end Sovereignite.Trust
