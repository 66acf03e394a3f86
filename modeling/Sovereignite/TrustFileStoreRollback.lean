import Sovereignite.TrustFileStoreExecution
import Sovereignite.TrustFileStoreRecovery

/-!
# Crashes and rollbacks of the file store

As long as calls are made only where the anchor in place is covered by a
directory sync, a load returns the snapshot before or after the last commit,
and with an adversary it never goes back behind what callers learned.  Without
that condition a load accepts an anchor whose rename a power loss takes back.
-/

namespace Sovereignite.Trust.FileStore

open Effect

variable {env : Platform} {codec : Codec}

section HealthyLoads

/-- The file operation succeeded. -/
def Granted : (request : Request) → Reply request → Prop
  | .acquireLock, reply => reply = .ok ()
  | .releaseLock, _ => True
  | .readState, reply => ∃ found, reply = .ok found
  | .readAnchor, reply => ∃ found, reply = .ok found
  | .alter _, reply => reply = .ok ()
  | .commitStarts _ _, _ => True
  | .loaded _, _ => True
  | .committed _, _ => True

/-- A file system on which every operation succeeds. -/
def grantingContract : Contract signature World where
  answer world request reply after := diskAnswer world request reply after ∧ Granted request reply
  valid _ := True
  rely := Eq
  guarantee _ _ := True

/-- The pair of files that is visible. -/
def Shows (disk : Disk) (world : World) : Prop :=
  world.disk.visible = disk

variable {α : Type} {disk : Disk} {post : Except Error α → World → Prop}

theorem readState_granted {next : Except String (Option Bytes) → Storing α}
    (second : Concludes grantingContract (Shows disk) (next (.ok disk.state)) post) :
    Concludes grantingContract (Shows disk) (ask .readState >>= next) post := by
  rintro _ valid rfl _ _ rfl _ after ⟨⟨rfl, read⟩, found, rfl⟩
  rcases read found rfl with rfl
  exact ⟨trivial, trivial, second after valid rfl⟩

theorem readAnchor_granted {next : Except String (Option Bytes) → Storing α}
    (second : Concludes grantingContract (Shows disk) (next (.ok disk.anchor)) post) :
    Concludes grantingContract (Shows disk) (ask .readAnchor >>= next) post := by
  rintro _ valid rfl _ _ rfl _ after ⟨⟨rfl, read⟩, found, rfl⟩
  rcases read found rfl with rfl
  exact ⟨trivial, trivial, second after valid rfl⟩

variable (codec) in
/-- What reading the anchor of a pair of files gives. -/
def anchorOf (disk : Disk) : Except Error RevisionAnchor :=
  match disk.anchor with
  | none => .error (.sentinel .notExist)
  | some encoded => parseAnchor codec encoded

variable {anchor : RevisionAnchor}

theorem AnchorAt.anchorOf_eq (placed : AnchorAt codec disk anchor) :
    anchorOf codec disk = .ok anchor := by
  obtain ⟨_, found, parsed⟩ := placed
  simp [anchorOf, found, parsed]

theorem readAnchorLocked_granted :
    Concludes grantingContract (Shows disk) (readAnchorLocked codec)
      (fun outcome world => outcome = anchorOf codec disk ∧ Shows disk world) := by
  apply readAnchor_granted
  unfold anchorOf
  cases disk.anchor with
  | none => exact Concludes.fail fun _ _ shows => ⟨rfl, shows⟩
  | some => exact Concludes.ofExcept fun _ _ shows => ⟨rfl, shows⟩

/-- An alteration succeeds; nothing is kept but that. -/
theorem alter_granted {alteration : Alteration} {pre : World → Prop} :
    Concludes grantingContract pre (alter alteration) (fun outcome _ => outcome = .ok ()) := by
  rintro _ _ _ _ _ rfl _ _ ⟨_, rfl⟩
  exact ⟨trivial, trivial, trivial, rfl⟩

theorem writeAnchorLocked_granted (lawful : codec.Lawful) (formed : wellFormed anchor = true)
    (succession : checkSuccession anchor (anchorOf codec disk) = .ok ()) :
    Concludes grantingContract (Shows disk) (writeAnchorLocked codec anchor)
      (fun outcome _ => outcome = .ok ()) := by
  apply Concludes.bindRejectIf
  · simp [formed]
  intro _
  apply Concludes.bindAttempt readAnchorLocked_granted
  intro existing
  apply Concludes.assume
  rintro rfl
  rw [succession]
  obtain ⟨marshaled, marshals, short⟩ := lawful.short anchor formed
  have encodes : encodeAnchor codec anchor = .ok (marshaled ++ [10]) := by
    simp only [encodeAnchor, bind_eq_ok, mapError_eq_ok, reject_eq_ok]
    refine ⟨marshaled, marshals, (), ?_, rfl⟩
    simpa using short
  have writing : Concludes grantingContract (Shows disk)
      (alter (.replaceAnchor (marshaled ++ [10])) >>= fun _ => alter .syncDirectory)
      (fun outcome _ => outcome = .ok ()) := by
    apply Concludes.bind alter_granted
    · rintro _ _ ⟨⟩
    · intro _
      exact alter_granted
  simpa only [Program.ofExcept, Program.ret_bind, encodes] using writing

theorem certificateIDPattern_stateDigest {encoded : Bytes}
    (length : (env.sha256 encoded).length = 32) :
    certificateIDPattern (stateDigest env encoded) = true :=
  matchesClass_encodeToString length

theorem locked_granted {body : Storing α} {value : α}
    (returns : Concludes grantingContract (Shows disk) body
      (fun outcome _ => outcome = .ok value)) :
    Concludes grantingContract (Shows disk) (locked body)
      (fun outcome _ => outcome = .ok value) := by
  have releasing : Concludes grantingContract (Shows disk)
      (body.attempt >>= fun outcome => ask .releaseLock >>= fun _ => Program.ofExcept outcome)
      (fun outcome _ => outcome = .ok value) := by
    apply Concludes.bindAttempt returns
    rintro _ world _ rfl current _ _ reply after _
    exact ⟨trivial, trivial, trivial, rfl⟩
  rintro _ valid shows _ _ rfl _ after ⟨rfl, rfl⟩
  exact ⟨trivial, trivial, releasing after valid shows⟩

theorem readMissing_granted (lawful : codec.Lawful)
    (anchored : disk.anchor = none ∨ AnchorAt codec disk zeroAnchor) :
    Concludes grantingContract (Shows disk) (readMissing codec)
      (fun outcome _ => outcome = .ok emptySnapshot) := by
  apply Concludes.bindAttempt readAnchorLocked_granted
  intro outcome
  apply Concludes.assume
  rintro rfl
  have settling : Concludes grantingContract (Shows disk)
      (settleMissing codec (anchorOf codec disk)) (fun outcome _ => outcome = .ok ()) := by
    rcases anchored with bare | placed
    · have missing : anchorOf codec disk = .error (.sentinel .notExist) := by
        simp [anchorOf, bare]
      have succession : checkSuccession zeroAnchor (anchorOf codec disk) = .ok () := by
        rw [missing]
        rfl
      have written := writeAnchorLocked_granted lawful (by decide) succession
      rw [missing]
      exact written
    · rw [placed.anchorOf_eq]
      exact Concludes.ret fun _ _ _ => rfl
  apply Concludes.bind settling
  · rintro _ _ ⟨⟩
  · intro _
    exact Concludes.ret fun _ _ _ => rfl

theorem readPresent_granted (lawful : codec.Lawful)
    (lengths : ∀ encoded, (env.sha256 encoded).length = 32) {snapshot : Snapshot}
    {encoded : Bytes} (parsed : parseState env codec encoded = .ok snapshot)
    (placed : AnchorAt codec disk anchor) (stands : anchor.revision = snapshot.revision ∧
        anchor.stateSHA256 = stateDigest env encoded ∨
      anchor.revision ≠ maxUint64 ∧ snapshot.revision = anchor.revision + 1) :
    Concludes grantingContract (Shows disk) (readPresent env codec encoded)
      (fun outcome _ => outcome = .ok snapshot) := by
  have reading : Concludes grantingContract (Shows disk)
      ((readAnchorLocked codec).mapError describeMissing)
      (fun outcome world => outcome = .ok anchor ∧ Shows disk world) := by
    apply Concludes.mapError
    refine Concludes.weaken ?_ readAnchorLocked_granted
    rintro outcome world _ ⟨rfl, shows⟩
    rw [placed.anchorOf_eq]
    exact ⟨rfl, shows⟩
  have repairing : Concludes grantingContract (Shows disk)
      (Program.ofExcept (needsRepair snapshot (stateDigest env encoded) anchor) >>=
        fun repair => repairAnchor codec snapshot (stateDigest env encoded) repair >>=
          fun _ => .ret snapshot)
      (fun outcome _ => outcome = .ok snapshot) := by
    rcases stands with level | ⟨room, successor⟩
    · rw [needsRepair_level level]
      exact Concludes.ret fun _ _ _ => rfl
    · rw [needsRepair_ahead room successor]
      have formed : wellFormed
          ⟨anchorVersion, snapshot.revision, stateDigest env encoded⟩ = true := by
        have nonzero : snapshot.revision ≠ 0 := by
          rw [successor]
          exact (successor_facts room).1
        simp [wellFormed, nonzero, certificateIDPattern_stateDigest (lengths encoded)]
      have succession : checkSuccession ⟨anchorVersion, snapshot.revision, stateDigest env encoded⟩
          (anchorOf codec disk) = .ok () := by
        rw [placed.anchorOf_eq]
        exact checkSuccession_next room successor
      have written : Concludes grantingContract (Shows disk)
          (repairAnchor codec snapshot (stateDigest env encoded) true)
          (fun outcome _ => outcome = .ok ()) := by
        apply Concludes.mapError
        refine Concludes.weaken ?_ (writeAnchorLocked_granted lawful formed succession)
        rintro _ world _ rfl
        rfl
      simp only [Program.ofExcept, Program.ret_bind]
      exact Concludes.bind written (by rintro error world ⟨⟩) fun _ =>
        Concludes.ret fun _ _ _ => rfl
  simp only [readPresent, parsed, Program.ofExcept, Program.ret_bind]
  refine Concludes.bind reading (by rintro error world ⟨⟨⟩, _⟩) fun found =>
    Concludes.assume ?_
  rintro ⟨⟩
  exact repairing

/-- A load on a file system without failures returns what the files recover. -/
theorem load_granted (lawful : codec.Lawful)
    (lengths : ∀ encoded, (env.sha256 encoded).length = 32) {snapshot : Snapshot}
    (recovers : Recovers env codec disk snapshot) :
    Concludes grantingContract (Shows disk) (load env codec)
      (fun outcome _ => outcome = .ok snapshot) := by
  apply locked_granted
  apply readState_granted
  cases stored : disk.state with
  | none =>
    obtain ⟨rfl, anchored⟩ := recovers.of_missing stored
    exact readMissing_granted lawful anchored
  | some =>
    obtain ⟨parsed, _, placed, stands⟩ := recovers.of_present stored
    exact readPresent_granted lawful lengths parsed placed stands

end HealthyLoads

theorem sound_initial (tampering : Bool) : Sound env codec tampering initialWorld where
  anchored := by
    refine ⟨nofun, ?_, nofun, fun _ => .nil⟩
    refine RecoverableCell.always_of_settled rfl ?_
    rintro _ ⟨⟩
  steady _ := by
    refine ⟨?_, List.pairwise_singleton _ _, .inl rfl, nofun⟩
    exact RecoverableCell.always_of_settled rfl (.inl (.untouched rfl rfl))

variable {world : World}

theorem reachable_sound (lawful : codec.Lawful) {tampering : Bool}
    (reached : (runRules env codec (AnchorCovered codec) tampering).Reachable initialWorld
      world) : Sound env codec tampering world := by
  apply reached.invariant (sound_initial tampering)
  · rintro _ _ sound ⟨covered, rfl | ⟨expectedRevision, _, canonical, rfl⟩⟩
    · exact (loadCall_safe lawful).safe sound covered
    · exact (commitCall_safe lawful expectedRevision canonical).safe sound covered
  · rintro _ _ sound (lost | interference)
    · exact sound.powerLoss lost
    · exact Interference.sound sound interference

/-- In runs whose calls find their anchor covered, a load returns the snapshot
before or after the last commit, and it does return on a file system without
failures; with an adversary no load goes back behind what callers learned. -/
theorem covered_runs_recover_and_never_regress (lawful : codec.Lawful) :
    (∀ world, (runRules env codec (AnchorCovered codec) false).Reachable initialWorld world →
      (∀ observation ∈ world.observed, ReturnsCommitted observation) ∧
      ((∀ encoded, (env.sha256 encoded).length = 32) →
        Safe grantingContract
          (fun outcome _ => ∃ snapshot, outcome = .ok snapshot ∧
            (snapshot = world.before ∨ snapshot = world.after))
          (load env codec) world)) ∧
    ∀ world, (runRules env codec (AnchorCovered codec) true).Reachable initialWorld world →
      CollisionFree env world → NeverRegresses world := by
  refine ⟨fun world reached => ?_, fun world reached => ?_⟩
  · have steady := (reachable_sound lawful reached).steady rfl
    refine ⟨steady.returned, fun lengths => ?_⟩
    rcases steady.recovers.visible with before | after
    · refine Safe.weaken ?_ (load_granted lawful lengths before world trivial rfl)
      rintro outcome _ ⟨_, rfl⟩
      exact ⟨_, rfl, .inl rfl⟩
    · refine Safe.weaken ?_ (load_granted lawful lengths after world trivial rfl)
      rintro _ _ ⟨_, rfl⟩
      exact ⟨_, rfl, .inr rfl⟩
  · exact (reachable_sound lawful reached).anchored.ordered

section SampleRuns

/-- A store with a first commit, on which the second one failed at the sync of
its state file; the next load repairs the anchor and returns its snapshot. -/
def repairedWorld : World :=
  execute true (loadCall samplePlatform sampleCodec)
    (execute false (commitCall samplePlatform sampleCodec 1 (sampleSnapshot 2))
      (execute true (commitCall samplePlatform sampleCodec 0 (sampleSnapshot 1))
        (execute true (loadCall samplePlatform sampleCodec) initialWorld)))

theorem repairedWorld_reachable (tampering : Bool) :
    (runRules samplePlatform sampleCodec (AnchorCovered sampleCodec) tampering).Reachable
      initialWorld repairedWorld := by
  have initial : (runRules samplePlatform sampleCodec (AnchorCovered sampleCodec)
      tampering).Reachable initialWorld initialWorld := .start
  have opened := reachable_load true initial (.inr (RecoverableCell.always_of_settled rfl rfl))
  have committed := reachable_commit true 0 (sampleSnapshot_canonical 1) opened
    (.inr (RecoverableCell.always_of_settled (by decide +kernel) rfl))
  have interrupted := reachable_commit false 1 (sampleSnapshot_canonical 2) committed
    (.inr (RecoverableCell.always_of_settled (by decide +kernel) rfl))
  apply reachable_load true interrupted
  -- the second state may be taken back, the anchor of the first one not
  exact .inr (by unfold RecoverableCell.Always; decide +kernel)

/-- The load after the interrupted commit returned the snapshot after it. -/
theorem repairedWorld_recovers_and_never_regresses :
    (repairedWorld.observed.map fun observation => observation.seen.map Snapshot.revision) =
        [some 2, some 1, some 0] ∧
      (∀ observation ∈ repairedWorld.observed, ReturnsCommitted observation) ∧
      Safe grantingContract
        (fun outcome _ => ∃ snapshot, outcome = .ok snapshot ∧
          (snapshot = repairedWorld.before ∨ snapshot = repairedWorld.after))
        (load samplePlatform sampleCodec) repairedWorld ∧
      NeverRegresses repairedWorld := by
  have guarantees := @covered_runs_recover_and_never_regress samplePlatform sampleCodec
    sampleCodec_lawful
  obtain ⟨returned, loads⟩ := guarantees.1 repairedWorld (repairedWorld_reachable false)
  refine ⟨by decide +kernel, returned, loads samplePlatform_length, ?_⟩
  apply guarantees.2 repairedWorld (repairedWorld_reachable true)
  unfold CollisionFree
  decide +kernel

/-- A store that was loaded once, and on which a commit then failed at the sync
of its state file. -/
def interruptedWorld : World :=
  execute false (commitCall samplePlatform sampleCodec 0 (sampleSnapshot 1))
    (execute true (loadCall samplePlatform sampleCodec) initialWorld)

/-- The repair of the anchor fails at its sync, and the load after it accepts
the anchor. -/
def unsyncedWorld : World :=
  execute false (loadCall samplePlatform sampleCodec)
    (execute false (loadCall samplePlatform sampleCodec) interruptedWorld)

/-- A power loss takes both renames back. -/
def restoredWorld : World :=
  { unsyncedWorld with disk := ⟨unsyncedWorld.disk.settled, []⟩ }

/-- The adversary deletes the state file, which is not there, and the store is
loaded once more. -/
def regressedWorld : World :=
  execute true (loadCall samplePlatform sampleCodec) { restoredWorld with
      disk := restoredWorld.disk.write { restoredWorld.disk.visible with state := none } true }

theorem regressedWorld_reachable :
    (runRules samplePlatform sampleCodec (fun _ => True) true).Reachable initialWorld
      regressedWorld := by
  have initial : (runRules samplePlatform sampleCodec (fun _ => True) true).Reachable
      initialWorld initialWorld := .start
  have opened := reachable_load true initial trivial
  have interrupted := reachable_commit false 0 (sampleSnapshot_canonical 1) opened trivial
  have failed := reachable_load false interrupted trivial
  have accepted := reachable_load false failed trivial
  have lost : PowerLoss unsyncedWorld restoredWorld :=
    ⟨RecoverableCell.powerLoss_settled unsyncedWorld.disk, rfl⟩
  have restored : (runRules samplePlatform sampleCodec (fun _ => True) true).Reachable
      initialWorld restoredWorld := .disturbed accepted (.inl lost)
  apply reachable_load true _ trivial
  apply SequenceRules.Reachable.disturbed restored
  exact .inr (.single ⟨rfl, none, true, nofun, rfl⟩)

def regressesAtOnce : List Observation → Bool
  | .loaded (.ok last) _ _ :: .loaded (.ok earlier) _ _ :: _ =>
    decide (last.revision < earlier.revision)
  | _ => false

theorem not_neverRegresses (regresses : regressesAtOnce world.observed = true) :
    ¬ NeverRegresses world := by
  intro ordered
  unfold NeverRegresses at ordered
  unfold regressesAtOnce at regresses
  split at regresses
  · next last _ _ earlier _ _ _ observed =>
      rw [observed] at ordered
      have notBehind := List.rel_of_pairwise_cons ordered List.mem_cons_self
      exact (notBehind _ _ _ last earlier rfl rfl rfl).1 (of_decide_eq_true regresses)
  · cases regresses

/-- The last load returned the empty store after an earlier one had returned
the first commit. -/
theorem unsynced_anchor_lets_load_regress :
    ∃ env codec, codec.Lawful ∧ ∃ world,
      (runRules env codec (fun _ => True) true).Reachable initialWorld world ∧
        CollisionFree env world ∧ ¬ NeverRegresses world := by
  refine ⟨samplePlatform, sampleCodec, sampleCodec_lawful, regressedWorld,
    regressedWorld_reachable, ?_, ?_⟩
  · unfold CollisionFree
    decide +kernel
  · exact not_neverRegresses (by decide +kernel)

end SampleRuns

end Sovereignite.Trust.FileStore
