import Sovereignite.EffectRequests
import Sovereignite.KeyManagerCertificates
import Sovereignite.RecoverableCell

/-!
# Runs of the key manager

The lock of the metadata directory lets operations run one after the other,
each up to its end or to a crash.  The TPM keeps objects by handle.  A save may
fail with or without effect, and one that did not report success may be taken
back by a power loss; a call of the TPM may fail, and creating or evicting an
object may fail after it took effect.
-/

namespace Sovereignite.KeyManager

open Effect
open Trust (Context)

/-- An eviction that was asked for, and the metadata at that moment. -/
structure Eviction where
  handle : Handle
  store : RecoverableCell Snapshot

/-- The metadata, the objects of the TPM and the evictions so far. -/
structure World where
  store : RecoverableCell Snapshot
  objects : Handle → Option Public
  evictions : List Eviction

def World.save (world : World) (next : Snapshot) (succeeded : Bool) : World :=
  { world with store := world.store.write next succeeded }

def World.persist (world : World) (handle : Handle) (object : Public) : World :=
  { world with objects := Function.update world.objects handle (some object) }

def World.target (world : World) (handle : Handle) : World :=
  { world with evictions := ⟨handle, world.store⟩ :: world.evictions }

def World.evict (world : World) (handle : Handle) : World :=
  { world.target handle with objects := Function.update world.objects handle none }

structure Accepted (current next : Snapshot) : Prop where
  envelope : validateSnapshotEnvelope next = .ok ()
  room : current.revision ≠ maxUint64
  advances : next.revision = current.revision + 1

def answer (world : World) : (request : Request) → Reply request → World → Prop
  | .contextError ctx, reply, after =>
    after = world ∧ (ctx = .background → reply = none)
  | .acquire _, _, after => after = world
  | .release, _, after => after = world
  | .now, _, after => after = world
  | .load, reply, after =>
    after = world ∧ ∀ snapshot, reply = .ok snapshot → snapshot = world.store.visible
  | .save next, reply, after =>
    (reply ≠ .ok () ∧ after = world) ∨
      (Accepted world.store.visible next ∧ after = world.save next reply.isOk)
  | .supports _, _, after => after = world
  | .readPublic handle, reply, after =>
    after = world ∧ (∀ object, reply = .ok object → world.objects handle = some object) ∧
      (notFound reply = true → world.objects handle = none)
  | .generate _ _, _, after => after = world
  | .persist handle candidate, reply, after =>
    (errorOf reply ≠ none ∧ after = world) ∨ after = world.persist handle candidate
  | .evictPersistent reference, reply, after =>
    (reply ≠ .ok () ∧ after = world.target reference.handle) ∨ after = world.evict reference.handle
  | .issue _, _, after => after = world

/-- The operations.  Others may come between the two of a certificate, which are
therefore two here. -/
inductive Operation (env : Platform) (manager : Manager) : Managing Unit → Prop where
  | openManager (ctx : Context) : Operation env manager (openManager env manager ctx)
  | ensureRole (ctx : Context) (role : Role) :
      Operation env manager (ensureRole env manager ctx role >>= fun _ => .ret ())
  | rotate (ctx : Context) (role : Role) :
      Operation env manager (rotate env manager ctx role >>= fun _ => .ret ())
  | rotateIfDue (ctx : Context) (role : Role) (now : Time) :
      Operation env manager (rotateIfDue env manager ctx role now >>= fun _ => .ret ())
  | metadata (ctx : Context) (role : Role) :
      Operation env manager (metadata env manager ctx role >>= fun _ => .ret ())
  | publicSnapshot (ctx : Context) :
      Operation env manager (publicSnapshot env manager ctx >>= fun _ => .ret ())
  | dueRoles (ctx : Context) (now : Time) :
      Operation env manager (dueRoles env manager ctx now >>= fun _ => .ret ())
  | reconcileRetiringKeys (ctx : Context) :
      Operation env manager (reconcileRetiringKeys env manager ctx)
  | prepareCertificate (ctx : Context) (request : CertificateRequest) :
      Operation env manager (withExclusiveOperation ctx
        (prepareCertificateLocked env manager ctx request) >>= fun _ => .ret ())
  | signCertificate (ctx : Context) (issuance : Issuance) :
      Operation env manager (withExclusiveOperation ctx
        (signCertificateLocked env manager ctx issuance) >>= fun _ => .ret ())

def initialWorld (objects : Handle → Option Public) : World where
  store := ⟨emptySnapshot, []⟩
  objects := objects
  evictions := []

/-- Runs in which visible saves survive. -/
def crashRules (env : Platform) (manager : Manager) : SequenceRules signature World Error Unit where
  answer := answer
  offered _ program := Operation env manager program
  disturb _ _ := False

/-- A power loss takes back some of the newest saves and leaves the TPM. -/
def PowerLoss (before after : World) : Prop :=
  ∃ store, before.store.PowerLoss store ∧ after = { before with store }

/-- Runs with power losses, whose operations start in worlds that satisfy a
condition. -/
def powerLossRules (env : Platform) (manager : Manager) (condition : World → Prop) :
    SequenceRules signature World Error Unit where
  answer := answer
  offered world program := condition world ∧ Operation env manager program
  disturb := PowerLoss

def Held (env : Platform) (objects : Handle → Option Public) (metadata : KeyMetadata) : Prop :=
  ∃ object, objects metadata.handle = some object ∧ object.name = metadata.publicName ∧
    object.template = metadata.template ∧
    canonicalPublicKey env object = .ok metadata.publicKeyDER

def Snapshot.ActiveAt (snapshot : Snapshot) (handle : Handle) : Prop :=
  ∃ role state, snapshot.roles.lookup role = some state ∧ state.active.handle = handle

variable {snapshot : Snapshot} {handle : Handle}

theorem Snapshot.activeAt_iff :
    snapshot.ActiveAt handle ↔
      ∃ entry ∈ snapshot.roles.entries, entry.2.active.handle = handle := by
  constructor
  · rintro ⟨role, state, found, equal⟩
    exact ⟨⟨role, state⟩, KeyedRecords.mem_entries_iff.mpr found, equal⟩
  · rintro ⟨⟨role, state⟩, member, equal⟩
    exact ⟨role, state, KeyedRecords.mem_entries_iff.mp member, equal⟩

instance (snapshot : Snapshot) (handle : Handle) : Decidable (snapshot.ActiveAt handle) :=
  decidable_of_iff _ Snapshot.activeAt_iff.symm

/-- Every role of a snapshot has its active key in the TPM. -/
def ActiveHeld (env : Platform) (objects : Handle → Option Public) (snapshot : Snapshot) : Prop :=
  ∀ role state, snapshot.roles.lookup role = some state → Held env objects state.active

variable {env : Platform} {objects : Handle → Option Public}

theorem activeHeld_empty : ActiveHeld env objects emptySnapshot := by
  intro _ _ found
  cases found

/-- A passed check of a key that the TPM holds. -/
theorem held_of_verify {metadata : KeyMetadata} {object : Public}
    (present : objects metadata.handle = some object)
    (verified : verifyPublicMetadata env metadata object = .ok ()) :
    Held env objects metadata := by
  obtain ⟨_, _, verified⟩ := bind_eq_ok.mp verified
  obtain ⟨_, template, verified⟩ := bind_eq_ok.mp verified
  obtain ⟨_, name, verified⟩ := bind_eq_ok.mp verified
  obtain ⟨_, encoded, verified⟩ := bind_eq_ok.mp verified
  simp only [reject_eq_ok, bne_eq_false_iff_eq] at template name verified
  refine ⟨object, present, name, template, ?_⟩
  rw [← verified]
  exact mapError_eq_ok.mp encoded

theorem ActiveHeld.not_activeAt (held : ActiveHeld env objects snapshot)
    (free : objects handle = none) : ¬ snapshot.ActiveAt handle := by
  rintro ⟨role, state, found, rfl⟩
  obtain ⟨_, present, _⟩ := held role state found
  rw [free] at present
  cases present

theorem ActiveHeld.update (held : ActiveHeld env objects snapshot)
    (unused : ¬ snapshot.ActiveAt handle) (object : Option Public) :
    ActiveHeld env (Function.update objects handle object) snapshot := by
  intro role state found
  have different : state.active.handle ≠ handle := fun equal => unused ⟨role, state, found, equal⟩
  obtain ⟨stored, present, exact⟩ := held role state found
  refine ⟨stored, ?_, exact⟩
  rw [Function.update_of_ne different, present]

section Reading

/-- Requests that neither the store nor the TPM remembers. -/
def Reading : Request → Prop
  | .contextError _ => True
  | .readPublic _ => True
  | .issue _ => True
  | _ => False

theorem unchanged_of_reading {request : Request} (reading : Reading request)
    {world after : World} {reply : Reply request}
    (answered : answer world request reply after) : after = world := by
  cases request with
  | contextError | readPublic => exact answered.1
  | issue => exact answered
  | _ => exact reading.elim

variable (ctx : Context)

theorem checkContext_reads : (checkContext ctx).Only Reading := by
  refine .bind (.perform trivial) fun done => ?_
  cases done <;> trivial

theorem verifyMetadataValue_reads (metadata : KeyMetadata) :
    (verifyMetadataValue env ctx metadata).Only Reading := by
  refine .bind (checkContext_reads ctx) fun _ => ?_
  refine .bind (.perform trivial) fun read => ?_
  exact .bind .ofExcept fun object => .ofExcept

theorem verifyRetiring_reads (role : Role) (metadata : KeyMetadata) :
    (verifyRetiring env role () metadata).Only Reading := by
  refine .bind (.perform trivial) fun read => ?_
  cases notFound read with
  | true => trivial
  | false => exact .bind .ofExcept fun object => .ofExcept

theorem verifyRole_reads (snapshot : Snapshot) (role : Role) :
    (verifyRole env ctx snapshot () role).Only Reading := by
  unfold verifyRole
  cases snapshot.roles.lookup role with
  | none => trivial
  | some state =>
    refine .bind (verifyMetadataValue_reads ctx state.active) fun _ => ?_
    exact .forEach (fun _ metadata => verifyRetiring_reads role metadata) () state.retiring

theorem certificateSignature_reads (metadata : KeyMetadata) (payload : Bytes)
    (options : Option HashAlgorithm) :
    (certificateSignature env ctx metadata payload options).Only Reading := by
  refine .bind (checkContext_reads ctx) fun _ => .bind .ofExcept fun hashFunc => ?_
  refine .bind (.perform trivial) fun read => .bind .ofExcept fun object => ?_
  refine .bind .ofExcept fun _ => .bind .ofExcept fun hash => ?_
  refine .bind (.perform trivial) fun signed => .bind .ofExcept fun signature => ?_
  exact .bind .rejectIf fun _ => trivial

theorem createCertificate_reads (issuance : Issuance) :
    (createCertificate env ctx issuance).Only Reading := by
  refine .bind (.perform trivial) fun encoded => .bind .ofExcept fun parts => ?_
  refine .bind (certificateSignature_reads ctx _ _ _) fun signature => ?_
  exact .bind (.perform trivial) fun assembled => .ofExcept

end Reading

end Sovereignite.KeyManager
