import Sovereignite.IpfsSnapshot

/-!
# The durable publication state

The publisher journals one prepared record before it reaches the network and
the last completed one after.  Every stored state passes the checks below.
-/

namespace Sovereignite.Ipfs

open Effect

def publicationStateVersion : Int := 2

structure PendingPublication where
  publicationID : String
  digest : String
  trustRevision : UInt64
  rootCID : String
  record : SignedRecord
  deriving DecidableEq

structure PublicationState where
  version : Int
  revision : UInt64 := 0
  ipnsName : String := ""
  highSequence : UInt64 := 0
  lastSequence : UInt64 := 0
  lastPublicationID : String := ""
  lastDigest : String := ""
  lastTrustRevision : UInt64 := 0
  lastRootCID : String := ""
  lastRecord : Option SignedRecord := none
  pending : Option PendingPublication := none
  deriving DecidableEq

def emptyPublicationState : PublicationState where
  version := publicationStateVersion

section Validation

variable (env : Platform)

def canonicalRootCID (encoded : String) : Except Error Cid :=
  match env.decodeCid encoded with
  | .error _ => failure "publication root is not a canonical CIDv1"
  | .ok root => do
    reject (root.version != 1 || env.cidString root != encoded)
      (.message "publication root is not a canonical CIDv1")
    return root

def validateCompleted (state : PublicationState) : Except Error Unit :=
  if state.lastSequence == 0 then
    reject (state.lastPublicationID != "" || state.lastDigest != "" ||
        state.lastTrustRevision != 0 || state.lastRootCID != "" ||
        state.lastRecord.isSome)
      (.message "completed publication metadata exists without a sequence")
  else do
    reject (state.ipnsName == "" || !isLowerHexDigest state.lastPublicationID ||
        state.lastDigest != state.lastPublicationID || state.lastTrustRevision == 0)
      (.message "completed publication identity is invalid")
    let root ← canonicalRootCID env state.lastRootCID
    match state.lastRecord with
    | none => failure "completed publication record is missing"
    | some record => do
      reject ((record.rootCID env).toOption != some root ||
          record.sequence != state.lastSequence || record.name != state.ipnsName)
        (.message "completed publication record does not match state")
      let _ ← record.unsignedPayload env
      reject record.signature.isEmpty (.message "completed publication signature is missing")

def validatePending (state : PublicationState) : Except Error Unit :=
  match state.pending with
  | none =>
    reject (state.highSequence != state.lastSequence)
      (.message "unused sequence exists without a pending publication")
  | some pending => do
    reject (state.ipnsName == "" || !isLowerHexDigest pending.publicationID ||
        pending.digest != pending.publicationID || pending.trustRevision == 0 ||
        decide (pending.trustRevision ≤ state.lastTrustRevision))
      (.message "pending publication identity is invalid")
    let root ← canonicalRootCID env pending.rootCID
    reject ((pending.record.rootCID env).toOption != some root ||
        pending.record.name != state.ipnsName ||
        pending.record.sequence != state.highSequence ||
        decide (pending.record.sequence ≤ state.lastSequence))
      (.message "pending publication record does not match state")
    let _ ← pending.record.unsignedPayload env
    reject pending.record.signature.isEmpty (.message "pending publication signature is missing")

def validatePublicationState (state : PublicationState) : Except Error Unit := do
  reject (state.version != publicationStateVersion)
    (.message s!"unsupported IPFS publication state version {state.version}")
  reject (decide (state.highSequence < state.lastSequence))
    (.message "last published sequence exceeds the durable high-water mark")
  reject (state.revision == 0 &&
      (state.ipnsName != "" || state.highSequence != 0 || state.lastSequence != 0 ||
        state.lastTrustRevision != 0 || state.pending.isSome))
    (.message "revision-zero publication state contains committed metadata")
  if state.ipnsName != "" then
    validateCanonicalIPNSName env state.ipnsName
  validateCompleted env state
  validatePending env state

end Validation

variable {env : Platform} {state : PublicationState}

structure Ordered (state : PublicationState) : Prop where
  settled : state.pending = none → state.highSequence = state.lastSequence
  prepared : ∀ pending, state.pending = some pending →
    pending.record.sequence = state.highSequence ∧ state.lastSequence < pending.record.sequence ∧
      state.lastTrustRevision < pending.trustRevision

theorem validatePublicationState_parts (valid : validatePublicationState env state = .ok ()) :
    validateCompleted env state = .ok () ∧ validatePending env state = .ok () := by
  simp only [validatePublicationState, bind_eq_ok, Unique.exists_iff, PUnit.default_eq_unit]
    at valid
  obtain ⟨_, _, _, valid⟩ := valid
  split at valid
  · simp only [bind_eq_ok, Unique.exists_iff, PUnit.default_eq_unit] at valid
    exact valid.2
  · simpa only [bind_eq_ok, Unique.exists_iff, PUnit.default_eq_unit] using valid

theorem lastRecord_name {record : SignedRecord}
    (valid : validatePublicationState env state = .ok ())
    (used : state.lastSequence ≠ 0) (found : state.lastRecord = some record) :
    record.name = state.ipnsName := by
  have completed := (validatePublicationState_parts valid).1
  simp only [validateCompleted, beq_iff_eq, used, if_false, found, bind_eq_ok, reject_eq_ok,
    exists_const, Bool.or_eq_false_iff, bne_eq_false_iff_eq] at completed
  obtain ⟨_, _, _, matched, _⟩ := completed
  exact matched.2

theorem ordered_of_valid (valid : validatePublicationState env state = .ok ()) : Ordered state := by
  have checked := (validatePublicationState_parts valid).2
  unfold validatePending at checked
  constructor
  · intro none
    rw [none] at checked
    simpa using checked
  · intro _ found
    simp only [found, bind_eq_ok, reject_eq_ok, exists_const, Bool.or_eq_false_iff,
      bne_eq_false_iff_eq, decide_eq_false_iff_not, UInt64.not_le] at checked
    obtain ⟨identified, _, _, matched, _⟩ := checked
    exact ⟨matched.1.2, matched.2, identified.2⟩

theorem ordered_empty : Ordered emptyPublicationState :=
  ⟨fun _ => rfl, fun _ found => nomatch found⟩

end Sovereignite.Ipfs
