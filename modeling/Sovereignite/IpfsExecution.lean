import Sovereignite.IpfsRuns
import Sovereignite.TrustExecution

/-!
# Executing the publisher

An environment fixes the clock, the answers of the node and of the signing key,
and whether commits report that they are durable.  The worlds computed with it
are worlds of the runs.
-/

namespace Sovereignite.Ipfs

open Effect
open Trust (Context Publication)

/-- The parts outside the publisher, as functions.  Commits take effect; with
an error they report it although they did. -/
structure Environment where
  time : Time
  commit : Except Error Unit
  importPublicSnapshot : PublicSnapshot → Except Error (Option Cid)
  inspectPublicSnapshot : Cid → Except Error SnapshotInspection
  sign : Bytes → Except Error Bytes
  publishSignedRecord : PendingPublication → Except Error Unit

def accepts (env : Platform) (current : PublicationState) (expectedRevision : UInt64)
    (next : PublicationState) : Bool :=
  expectedRevision != maxUint64 && next.revision == expectedRevision + 1 &&
    (validatePublicationState env next).isOk && current.revision == expectedRevision

theorem Accepted.of_accepts {env : Platform} {current next : PublicationState}
    {expectedRevision : UInt64} (accepted : accepts env current expectedRevision next = true) :
    Accepted env current expectedRevision next := by
  simp only [accepts, Bool.and_eq_true, beq_iff_eq, bne_iff_ne, ne_eq] at accepted
  refine ⟨accepted.1.1.1, accepted.1.1.2, ?_, accepted.2⟩
  cases outcome : validatePublicationState env next with
  | ok => rfl
  | error =>
    rw [outcome] at accepted
    cases accepted.1.2

def respond (env : Platform) (environment : Environment) : Responder signature World
  | world, .contextError _ => some (none, world)
  | world, .lock => some ((), world)
  | world, .unlock => some ((), world)
  | world, .now => some (environment.time, world)
  | world, .load => some (.ok world.store.visible, world)
  | world, .commit expectedRevision next =>
    if accepts env world.store.visible expectedRevision next then
      some (environment.commit, world.commit next environment.commit.isOk)
    else
      some (.error (.sentinel .publicationStateConflict), world)
  | world, .importPublicSnapshot snapshot =>
    some (environment.importPublicSnapshot snapshot, world)
  | world, .inspectPublicSnapshot root => some (environment.inspectPublicSnapshot root, world)
  | world, .pinPublicSnapshot _ => some (.ok (), world)
  | world, .publicSnapshotPinned _ => some (.ok true, world)
  | world, .sign payload => some (environment.sign payload, world)
  | world, .publishSignedRecord prepared =>
    some (environment.publishSignedRecord prepared, world.publish prepared)

theorem answer_of_respond {env : Platform} {environment : Environment} {world : World}
    {request : Request} {reply : Reply request} {after : World}
    (responded : respond env environment world request = some (reply, after)) :
    answer env world request reply after := by
  cases request with
  | contextError =>
    cases responded
    exact ⟨rfl, fun _ => rfl⟩
  | load =>
    cases responded
    refine ⟨rfl, ?_⟩
    rintro _ ⟨⟩
    rfl
  | commit _ next =>
    simp only [respond] at responded
    split at responded
    · next accepted =>
        cases responded
        exact .inr ⟨.of_accepts accepted, rfl⟩
    · cases responded
      exact .inl ⟨nofun, rfl⟩
  | _ =>
    cases responded
    rfl

def execute (env : Platform) (environment : Environment) (publisher : Publisher)
    (publication : Publication) (world : World) : World :=
  ((publishCall env publisher .background publication).advance
    (respond env environment) 1000 world).1

theorem leaves_execute (env : Platform) (environment : Environment)
    (publisher : Publisher) (publication : Publication) (world : World) :
    (publishCall env publisher .background publication).Leaves (answer env) world
      (execute env environment publisher publication world) := by
  have answers : (crashRules env).Answers (respond env environment) id :=
    fun _ _ _ _ responded => answer_of_respond responded
  exact SequenceRules.leaves_advance answers 1000 world _

variable {env : Platform} {world : World}

theorem crashRules_execute (reached : (crashRules env).Reachable initialWorld world)
    (environment : Environment) (publisher : Publisher) (publication : Publication) :
    (crashRules env).Reachable initialWorld (execute env environment publisher publication world) :=
  .operated _ reached ⟨publisher, .background, publication, rfl⟩
    (leaves_execute env environment publisher publication world)

theorem powerLossRules_execute {condition : World → Publication → Prop}
    (reached : (powerLossRules env condition).Reachable initialWorld world)
    (environment : Environment) (publisher : Publisher) (publication : Publication)
    (met : condition world publication) :
    (powerLossRules env condition).Reachable initialWorld
      (execute env environment publisher publication world) :=
  .operated _ reached ⟨publisher, .background, publication, met, rfl⟩
    (leaves_execute env environment publisher publication world)

section SampleDevice

open Trust (sampleName sampleRoot samplePlatform sampleInputs sampleDocuments)

def samplePublication (revision : UInt64) : Publication :=
  let digest := Trust.publicationDigest (samplePlatform sampleInputs) sampleName revision
    sampleDocuments
  { id := digest
    stateRevision := revision
    ipnsName := sampleName
    digest
    documents := sampleDocuments
    createdAt := 100 }

def samplePublisher : Publisher where
  signer := ⟨sampleName, [7]⟩
  policy := {
    validity := 3600 * second
    maxValidity := 7200 * second
    maxStaleness := 600 * second
    clockSkew := 0 }

def sampleRootCid : Cid := ⟨1, cidDagProtobuf, bytesOf sampleRoot⟩

/-- A node that stores one directory, and answers of the network and of the
store. -/
def sampleEnvironment (time : Time) (commit network : Except Error Unit) : Environment where
  time := time
  commit := commit
  importPublicSnapshot _ := .ok (some sampleRootCid)
  inspectPublicSnapshot root := .ok {
    root := some root
    files := sampleDocuments.map fun document =>
      ⟨document.path, document.mediaType, dagEntryFile, document.content⟩
    blocks := [⟨some root, [0]⟩] }
  sign _ := .ok [1]
  publishSignedRecord _ := network

end SampleDevice

end Sovereignite.Ipfs
