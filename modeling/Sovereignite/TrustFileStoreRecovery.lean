import Sovereignite.TrustFileStoreInvariant

/-!
# Loads and commits keep the invariant

The triples of this file hold with and without an adversary.  What a program
knows about the state file it knows only without one, since the adversary may
replace that file between any two requests; what it knows about the anchor file
lasts.
-/

namespace Sovereignite.Trust.FileStore

open Effect

variable {env : Platform} {codec : Codec} {condition : World → Prop}
variable {tampering : Bool} {world after : World}

section Interventions

/-- What the adversary leaves as it is. -/
structure Undisturbed (tampering : Bool) (world after : World) : Prop where
  anchor : after.disk.visible.anchor = world.disk.visible.anchor
  contents : after.contents = world.contents
  covered : (world.disk.Always fun disk => disk.anchor = world.disk.visible.anchor) →
    after.disk.Always fun disk => disk.anchor = after.disk.visible.anchor
  calm : tampering = false → after = world

theorem Interference.undisturbed (interference : Interference tampering world after) :
    Undisturbed tampering world after := by
  induction interference with
  | refl => exact ⟨rfl, rfl, id, fun _ => rfl⟩
  | tail _ step ih =>
    obtain ⟨present, _, _, _, rfl⟩ := step
    refine ⟨by simpa using ih.anchor, ih.contents, ?_, by simp [present]⟩
    intro covered
    apply RecoverableCell.Always.write
    · simpa using ih.covered covered
    · simp

theorem Interference.sound (sound : Sound env codec tampering world)
    (interference : Interference tampering world after) : Sound env codec tampering after := by
  induction interference with
  | refl => exact sound
  | tail _ step ih => exact ⟨ih.anchored.tampered step.2, by simp [step.1]⟩

theorem Sound.powerLoss (sound : Sound env codec tampering world)
    (lost : PowerLoss world after) : Sound env codec tampering after :=
  ⟨sound.anchored.powerLoss lost, fun calm => (sound.steady calm).restrict lost.1 lost.2⟩

theorem Sound.sync (sound : Sound env codec tampering world) :
    Sound env codec tampering world.sync :=
  ⟨sound.anchored.sync, fun calm => (sound.steady calm).sync⟩

theorem lasting_anchorAt (anchor : RevisionAnchor) :
    Lasting (Undisturbed tampering) fun world => AnchorAt codec world.disk.visible anchor :=
  fun _ _ undisturbed anchored => anchored.congr undisturbed.anchor

theorem lasting_contents (property : List Bytes → Prop) :
    Lasting (Undisturbed tampering) fun world => property world.contents := by
  intro _ _ undisturbed holds
  rw [undisturbed.contents]
  exact holds

theorem lasting_calm (property : World → Prop) :
    Lasting (Undisturbed tampering) fun world => tampering = false → property world := by
  intro _ _ undisturbed holds calm
  rw [undisturbed.calm calm]
  exact holds calm

theorem lasting_anchorCovered : Lasting (Undisturbed tampering) (AnchorCovered codec) := by
  intro _ _ undisturbed holds
  rcases holds with ⟨encoded, found, parsed⟩ | covered
  · exact .inl ⟨encoded, undisturbed.anchor.trans found, parsed⟩
  · exact .inr (undisturbed.covered covered)

theorem lasting_returned (snapshot : Snapshot) :
    Lasting (Undisturbed tampering) (Returned env codec snapshot) := by
  intro _ _ undisturbed holds
  rcases holds with ⟨empty, placed⟩ | ⟨encoded, known, anchor, parsed, placed, revision, digest,
    covered⟩
  · exact .inl ⟨empty, placed.congr undisturbed.anchor⟩
  · refine .inr ⟨encoded, ?_, anchor, parsed, placed.congr undisturbed.anchor, revision, digest,
      undisturbed.covered covered⟩
    rw [undisturbed.contents]
    exact known

end Interventions

section Requests

variable {α : Type} {pre : World → Prop}

variable (env codec condition tampering) in
abbrev callContract : Contract signature World :=
  (runRules env codec condition tampering).contract (Sound env codec tampering)

variable (env codec condition tampering) in
/-- A triple of a call on the files, whatever happens to them between its steps. -/
abbrev Calls (pre : World → Prop) (program : Storing α)
    (post : Except Error α → World → Prop) : Prop :=
  Concludes (callContract env codec condition tampering) pre program post

theorem ask_quiet {request : Request} {next : Reply request → Storing α}
    {fact : Reply request → World → Prop} {post : Except Error α → World → Prop}
    (lasting : Lasting (Undisturbed tampering) pre)
    (silent : ∀ world reply after, diskAnswer world request reply after → after = world)
    (learned : ∀ world reply after, Sound env codec tampering world → pre world →
      diskAnswer world request reply after → fact reply world)
    (second : ∀ reply, Calls env codec condition tampering
      (fun world => pre world ∧ fact reply world) (next reply) post) :
    Calls env codec condition tampering pre (ask request >>= next) post := by
  apply Concludes.call (SequenceRules.contract_alone _ _) _ second
  rintro world reply after sound known ⟨current, interference, answered⟩
  have sound' := Interference.sound sound interference
  have known' := lasting world current interference.undisturbed known
  rcases silent current reply after answered with rfl
  exact ⟨sound', known', learned after reply after sound' known' answered⟩

theorem fileResult_bind {β : Type} {outcome : Except String β} {next : β → Storing α}
    {post : Except Error α → World → Prop}
    (failed : ∀ text world, pre world → post (.error (.message text)) world)
    (second : ∀ value, outcome = .ok value →
      Calls env codec condition tampering pre (next value) post) :
    Calls env codec condition tampering pre (fileResult outcome >>= next) post := by
  cases outcome with
  | ok value => exact second value rfl
  | error text => exact .fail fun world _ known => failed text world known

/-- The postcondition of a program that reports no rollback without an
adversary. -/
def Yields (tampering : Bool) (good : α → World → Prop) : Except Error α → World → Prop
  | .ok value, world => good value world
  | .error error, _ => tampering = false → error.is .stateRollback = false

/-- What is known after the anchor file was read. -/
def AnchorRead (codec : Codec) : Except Error RevisionAnchor → World → Prop
  | .ok anchor, world => AnchorAt codec world.disk.visible anchor
  | .error error, world => error.is .stateRollback = false ∧
      (error.is .notExist = true → world.disk.visible.anchor = none)

theorem readAnchorLocked_reads (lasting : Lasting (Undisturbed tampering) pre) :
    Calls env codec condition tampering pre (readAnchorLocked codec)
      (fun outcome world => pre world ∧ AnchorRead codec outcome world) := by
  apply ask_quiet lasting
  · exact fun _ _ _ answered => answered.1
  · exact fun world reply _ _ _ answered => answered.2
  intro reply
  apply fileResult_bind
  · exact fun text world known => ⟨known.1, rfl, nofun⟩
  rintro found rfl
  cases found with
  | none =>
    apply Concludes.fail
    intro world _ known
    exact ⟨known.1, rfl, fun _ => (known.2 none rfl).symm⟩
  | some encoded =>
    have ending := @parseAnchor_failsWith codec encoded
    refine Concludes.ofExcept fun world _ known => ⟨known.1, ?_⟩
    cases parsed : parseAnchor codec encoded with
    | ok => exact ⟨encoded, (known.2 _ rfl).symm, parsed⟩
    | error error =>
      refine ⟨ending _ error parsed, ?_⟩
      intro missing
      rw [ending .notExist error parsed] at missing
      cases missing

theorem ask_bind {request : Request} {next : Reply request → Storing α}
    {middle : Reply request → World → Prop} {post : Except Error α → World → Prop}
    (lasting : Lasting (Undisturbed tampering) pre)
    (answered : ∀ world reply after, Sound env codec tampering world → pre world →
      diskAnswer world request reply after →
      Sound env codec tampering after ∧ middle reply after)
    (second : ∀ reply, Calls env codec condition tampering (middle reply) (next reply) post) :
    Calls env codec condition tampering pre (ask request >>= next) post := by
  apply Concludes.call (SequenceRules.contract_alone _ _) _ second
  rintro world reply after sound known ⟨current, interference, given⟩
  exact answered current reply after (Interference.sound sound interference)
    (lasting world current interference.undisturbed known) given

/-- An alteration of the directory.  It is known to have happened only when it
reports success. -/
theorem alter_yields {alteration : Alteration} {middle : World → Prop}
    (lasting : Lasting (Undisturbed tampering) pre)
    (altered : ∀ world, Sound env codec tampering world → pre world →
      Sound env codec tampering (world.alter alteration) ∧ middle (world.alter alteration)) :
    Calls env codec condition tampering pre (alter alteration)
      (Yields tampering fun _ world => middle world) := by
  refine @ask_bind _ _ _ _ _ _ (.alter alteration) _
    (fun reply world => reply = Except.ok () → middle world) _ lasting ?_ ?_
  · intro world _ _ sound known answered
    rcases answered with ⟨refused, rfl⟩ | ⟨_, rfl⟩
    · exact ⟨sound, fun done => absurd done refused⟩
    · obtain ⟨kept, learned⟩ := altered world sound known
      exact ⟨kept, fun _ => learned⟩
  · rintro (_ | ⟨⟩)
    · exact Concludes.fail fun _ _ _ _ => rfl
    · exact Concludes.ret fun _ _ learned => learned rfl

/-- Composition of programs that report no rollback. -/
theorem yields_bind {β : Type} {program : Storing α} {next : α → Storing β}
    {first : α → World → Prop} {second : β → World → Prop}
    (left : Calls env codec condition tampering pre program (Yields tampering first))
    (right : ∀ value, Calls env codec condition tampering
      (first value) (next value) (Yields tampering second)) :
    Calls env codec condition tampering pre (program >>= next) (Yields tampering second) :=
  Concludes.bind left (fun _ _ quiet => quiet) right

end Requests

section Anchors

variable {anchor : RevisionAnchor} {snapshot : Snapshot}

variable (env codec) in
/-- Writing the anchor goes one revision up and leaves the snapshot that is
recovered as it is. -/
structure Replacing (anchor : RevisionAnchor) (snapshot : Snapshot) (world : World) : Prop where
  succession : world.disk.visible.anchor = none ∨
    ∃ existing, AnchorAt codec world.disk.visible existing ∧
      existing.revision ≠ maxUint64 ∧ anchor.revision = existing.revision + 1
  before : Recovers env codec world.disk.visible snapshot
  after : ∀ encoded, parseAnchor codec encoded = .ok anchor →
    Recovers env codec { world.disk.visible with anchor := some encoded } snapshot

variable (codec) in
/-- The anchor may be written over the one in place. -/
def Succeeds (anchor : RevisionAnchor) (world : World) : Prop :=
  ∀ encoded, parseAnchor codec encoded = .ok anchor →
    Supersedes codec world.disk.visible { world.disk.visible with anchor := some encoded }

theorem lasting_succeeds : Lasting (Undisturbed tampering) (Succeeds codec anchor) := by
  intro _ _ undisturbed holds encoded parsed
  have supersedes := holds encoded parsed
  rcases supersedes with same | ⟨next, placed, bare | ⟨existing, found, facts⟩⟩
  · exact .inl (by rw [undisturbed.anchor]; exact same)
  · exact .inr ⟨next, placed.congr rfl, .inl (undisturbed.anchor.trans bare)⟩
  · exact .inr ⟨next, placed.congr rfl, .inr ⟨existing, found.congr undisturbed.anchor, facts⟩⟩

theorem succeeds_of_checkSuccession {outcome : Except Error RevisionAnchor}
    (read : AnchorRead codec outcome world)
    (passed : checkSuccession anchor outcome = .ok ()) : Succeeds codec anchor world := by
  intro encoded parsed
  refine .inr ⟨anchor, ⟨encoded, rfl, parsed⟩, ?_⟩
  cases outcome with
  | error =>
    simp only [checkSuccession, reject_eq_ok, Bool.not_eq_false'] at passed
    exact .inl (read.2 passed)
  | ok existing =>
    simp only [checkSuccession, bind_eq_ok, reject_eq_ok] at passed
    obtain ⟨_, notBelow, _, _, digest⟩ := passed
    refine .inr ⟨existing, read, by simpa using notBelow, ?_⟩
    intro same
    simpa [same] using digest

/-- One revision up may be written over what is there. -/
theorem checkSuccession_next {anchor existing : RevisionAnchor}
    (room : existing.revision ≠ maxUint64) (successor : anchor.revision = existing.revision + 1) :
    checkSuccession anchor (.ok existing) = .ok () := by
  obtain ⟨_, different, above⟩ := successor_facts room
  simp only [checkSuccession, bind_eq_ok, reject_eq_ok, successor]
  refine ⟨(), ?_, (), by simp, by simp [different]⟩
  simp only [decide_eq_false_iff_not, UInt64.lt_iff_toNat_lt] at above ⊢
  omega

theorem checkSuccession_failsWith {outcome : Except Error RevisionAnchor}
    (read : AnchorRead codec outcome world)
    (replacing : Replacing env codec anchor snapshot world) :
    FailsWith (fun error => error.is .stateRollback = false) (checkSuccession anchor outcome) := by
  cases outcome with
  | error => exact .reject read.1
  | ok =>
    rcases replacing.succession with bare | ⟨found, placed, room, successor⟩
    · exact absurd bare (AnchorAt.present read)
    · rcases placed.unique read with rfl
      rw [checkSuccession_next room successor]
      exact .ok

theorem encodeAnchor_failsWith (anchor : RevisionAnchor) :
    FailsWith (fun error => error.is .stateRollback = false) (encodeAnchor codec anchor) := by
  refine .bind ?_ fun marshaled => .bind (.reject rfl) fun _ => .ok
  cases codec.marshalAnchor anchor with
  | ok => exact .ok
  | error => exact .error rfl

/-- The rename of an anchor keeps the invariant. -/
theorem Sound.replaceAnchor (sound : Sound env codec tampering world) {encoded : Bytes}
    (parsed : parseAnchor codec encoded = .ok anchor)
    (replacing : tampering = false → Replacing env codec anchor snapshot world)
    (succeeds : Succeeds codec anchor world) :
    Sound env codec tampering (world.replaceAnchor encoded) := by
  refine ⟨sound.anchored.replaceAnchor (succeeds encoded parsed), fun calm => ?_⟩
  have steady := sound.steady calm
  have recovered := (replacing calm).after encoded parsed
  have visible := (replacing calm).before
  apply steady.rename
  · rcases steady.recovers.visible with before | after
    · rw [visible.unique before] at recovered
      exact .inl recovered
    · rw [visible.unique after] at recovered
      exact .inr recovered
  · intro before
    apply steady.allRecover_before
    rw [← recovered.unique before]
    exact visible

theorem writeAnchorLocked_writes (lawful : codec.Lawful) (anchor : RevisionAnchor)
    (snapshot : Snapshot) (property : List Bytes → Prop) :
    Calls env codec condition tampering
      (fun world => property world.contents ∧
        (tampering = false → Replacing env codec anchor snapshot world))
      (writeAnchorLocked codec anchor)
      (Yields tampering fun _ world => property world.contents ∧
        AnchorAt codec world.disk.visible anchor ∧
        (world.disk.Always fun disk => disk.anchor = world.disk.visible.anchor) ∧
        (tampering = false → AllRecover env codec snapshot world)) := by
  have lasting : Lasting (Undisturbed tampering) fun world => property world.contents ∧
      (tampering = false → Replacing env codec anchor snapshot world) :=
    (lasting_contents property).and (lasting_calm _)
  apply Concludes.bindRejectIf
  · exact fun _ _ _ _ _ => rfl
  intro formed
  rw [Bool.not_eq_false'] at formed
  apply Concludes.bindAttempt (readAnchorLocked_reads lasting)
  intro existing
  apply Concludes.bindExcept
  · intro error failed world _ known calm
    exact checkSuccession_failsWith known.2 (known.1.2 calm) error failed
  intro _ passed
  apply Concludes.bindExcept
  · intro error failed world _ known _
    exact encodeAnchor_failsWith anchor error failed
  intro encoded encodes
  have parsed := parseAnchor_encodeAnchor lawful formed encodes
  apply Concludes.strengthen (fun world _ known =>
    show _ ∧ Succeeds codec anchor world from ⟨known.1, succeeds_of_checkSuccession known.2 passed⟩)
  have placing : Calls env codec condition tampering (fun world => (property world.contents ∧
        (tampering = false → Replacing env codec anchor snapshot world)) ∧
        Succeeds codec anchor world)
      (alter (.replaceAnchor encoded))
      (Yields tampering fun _ world => property world.contents ∧
        AnchorAt codec world.disk.visible anchor ∧
        (tampering = false → Recovers env codec world.disk.visible snapshot)) := by
    apply alter_yields (lasting.and lasting_succeeds)
    rintro world sound ⟨⟨kept, replacing⟩, succeeds⟩
    refine ⟨sound.replaceAnchor parsed replacing succeeds, kept, ?_, ?_⟩
    · exact ⟨encoded, by simp [World.alter, World.replaceAnchor], parsed⟩
    · intro calm
      simpa [World.alter, World.replaceAnchor] using (replacing calm).after encoded parsed
  apply yields_bind placing
  intro _
  apply alter_yields ((lasting_contents property).and
    ((lasting_anchorAt anchor).and (lasting_calm _)))
  rintro _ sound ⟨kept, placed, recovered⟩
  refine ⟨sound.sync, kept, placed, RecoverableCell.always_of_settled rfl rfl, ?_⟩
  intro calm
  exact RecoverableCell.always_of_settled rfl (recovered calm)

end Anchors

section Loads

variable (env codec tampering) in
def Loaded (snapshot : Snapshot) (world : World) : Prop :=
  Returned env codec snapshot world ∧ (tampering = false → AllRecover env codec snapshot world)

theorem lasting_loaded (snapshot : Snapshot) :
    Lasting (Undisturbed tampering) (Loaded env codec tampering snapshot) :=
  (lasting_returned snapshot).and (lasting_calm _)

variable (codec tampering) in
/-- What is known after the state file was read. -/
def StateRead (found : Option Bytes) (world : World) : Prop :=
  AnchorCovered codec world ∧ (∀ encoded, found = some encoded → encoded ∈ world.contents) ∧
    (tampering = false → world.disk.visible.state = found)

theorem lasting_stateRead (found : Option Bytes) :
    Lasting (Undisturbed tampering) (StateRead codec tampering found) :=
  lasting_anchorCovered.and ((lasting_contents fun contents =>
    ∀ encoded, found = some encoded → encoded ∈ contents).and (lasting_calm _))

theorem settleMissing_settles (lawful : codec.Lawful) (outcome : Except Error RevisionAnchor) :
    Calls env codec condition tampering
      (fun world => StateRead codec tampering none world ∧ AnchorRead codec outcome world)
      (settleMissing codec outcome)
      (Yields tampering fun _ => Loaded env codec tampering emptySnapshot) := by
  cases outcome with
  | error error =>
    cases missing : error.is .notExist with
    | false =>
      simp only [settleMissing, missing, Bool.false_eq_true, if_false]
      exact Concludes.fail fun world _ known _ => known.2.1
    | true =>
      simp only [settleMissing, missing, if_true]
      refine Concludes.strengthen ?_ (Concludes.weaken ?_
        (writeAnchorLocked_writes lawful zeroAnchor emptySnapshot fun _ => True))
      · rintro world _ ⟨⟨_, _, state⟩, _, bare⟩
        refine ⟨trivial, fun calm => ?_⟩
        refine ⟨.inl (bare missing), .untouched (state calm) (bare missing), ?_⟩
        intro encoded parsed
        exact .empty (state calm) ⟨encoded, rfl, parsed⟩
      · rintro (_ | ⟨⟩) world _ holds
        · exact holds
        · exact ⟨.inl ⟨rfl, holds.2.1⟩, holds.2.2.2⟩
  | ok anchor =>
    rintro world sound ⟨⟨_, _, state⟩, placed⟩
    have recovered : tampering = false →
        Recovers env codec world.disk.visible emptySnapshot ∧ anchor = zeroAnchor := by
      intro calm
      obtain ⟨_, recovers⟩ := (sound.steady calm).visible
      obtain ⟨rfl, bare | zero⟩ := recovers.of_missing (state calm)
      · exact absurd bare (AnchorAt.present placed)
      · exact ⟨recovers, AnchorAt.unique placed zero⟩
    apply Safe.rejectIf
    · intro passed
      have revision : anchor.revision = 0 := by
        simp only [Bool.or_eq_false_iff, bne_eq_false_iff_eq] at passed
        exact passed.1
      obtain ⟨_, _, parsed⟩ := id placed
      have zero := eq_zeroAnchor (wellFormed_of_parseAnchor parsed) revision
      rw [zero] at placed
      refine ⟨sound, .inl ⟨rfl, placed⟩, fun calm => ?_⟩
      exact (sound.steady calm).allRecover_empty (recovered calm).1
    · intro rejected
      refine ⟨sound, fun calm => ?_⟩
      rw [(recovered calm).2] at rejected
      simp [zeroAnchor] at rejected

theorem readMissing_loads (lawful : codec.Lawful) :
    Calls env codec condition tampering (StateRead codec tampering none)
      (readMissing codec) (Yields tampering (Loaded env codec tampering)) := by
  apply Concludes.bindAttempt (readAnchorLocked_reads (lasting_stateRead none))
  intro outcome
  apply yields_bind (settleMissing_settles lawful outcome)
  intro _
  exact Concludes.ret fun _ _ loaded => loaded

variable {digest : String}

theorem needsRepair_false {snapshot : Snapshot} {anchor : RevisionAnchor}
    (level : needsRepair snapshot digest anchor = .ok false) :
    anchor.revision = snapshot.revision ∧ anchor.stateSHA256 = digest := by
  unfold needsRepair at level
  split at level
  · cases level
  · split at level
    · next same =>
        split at level
        · cases level
        · next digests =>
            simp only [beq_iff_eq] at same
            simp only [bne_iff_ne, ne_eq, not_not] at digests
            exact ⟨same.symm, digests.symm⟩
    · split at level
      · cases level
      · cases level

theorem needsRepair_true {snapshot : Snapshot} {anchor : RevisionAnchor}
    (ahead : needsRepair snapshot digest anchor = .ok true) :
    anchor.revision ≠ maxUint64 ∧ snapshot.revision = anchor.revision + 1 := by
  unfold needsRepair at ahead
  split at ahead
  · cases ahead
  · next notBelow =>
      split at ahead
      · split at ahead
        · cases ahead
        · cases ahead
      · split at ahead
        · cases ahead
        · next _ successor =>
            simp only [bne_iff_ne, ne_eq, not_not] at successor
            refine ⟨?_, successor⟩
            intro full
            rw [successor, full] at notBelow
            exact notBelow (by decide)

theorem needsRepair_level {snapshot : Snapshot} {anchor : RevisionAnchor}
    (level : anchor.revision = snapshot.revision ∧ anchor.stateSHA256 = digest) :
    needsRepair snapshot digest anchor = .ok false := by
  simp [needsRepair, level.1, level.2]

theorem needsRepair_ahead {snapshot : Snapshot} {anchor : RevisionAnchor}
    (room : anchor.revision ≠ maxUint64) (successor : snapshot.revision = anchor.revision + 1) :
    needsRepair snapshot digest anchor = .ok true := by
  obtain ⟨_, different, above⟩ := successor_facts room
  have notBelow : ¬ anchor.revision + 1 < anchor.revision := by
    rw [UInt64.lt_iff_toNat_lt] at above ⊢
    omega
  simp [needsRepair, successor, notBelow, different]

theorem needsRepair_failsWith {snapshot : Snapshot} {encoded : Bytes} {anchor : RevisionAnchor}
    (stands : anchor.revision = snapshot.revision ∧ anchor.stateSHA256 = stateDigest env encoded ∨
      anchor.revision ≠ maxUint64 ∧ snapshot.revision = anchor.revision + 1) :
    FailsWith (fun error => error.is .stateRollback = false)
      (needsRepair snapshot (stateDigest env encoded) anchor) := by
  rcases stands with level | ⟨room, successor⟩
  · rw [needsRepair_level level]
    exact .ok
  · rw [needsRepair_ahead room successor]
    exact .ok

theorem readAnchorLocked_beside (encoded : Bytes) :
    Calls env codec condition tampering
      (StateRead codec tampering (some encoded)) ((readAnchorLocked codec).mapError describeMissing)
      (Yields tampering fun anchor world => StateRead codec tampering (some encoded) world ∧
        AnchorAt codec world.disk.visible anchor) := by
  apply Concludes.mapError
  refine Concludes.weaken ?_ (readAnchorLocked_reads (lasting_stateRead (some encoded)))
  rintro (error | anchor) _ sound ⟨known, read⟩
  · intro calm
    cases missing : error.is .notExist with
    | false =>
      simp only [describeMissing, missing, Bool.false_eq_true, if_false]
      exact read.1
    | true =>
      obtain ⟨_, recovers⟩ := (sound.steady calm).visible
      obtain ⟨_, _, placed, _⟩ := recovers.of_present (known.2.2 calm)
      exact absurd (read.2 missing) placed.present
  · exact ⟨known, read⟩

theorem repairAnchor_repairs (lawful : codec.Lawful) {encoded : Bytes} {snapshot : Snapshot}
    (parsed : parseState env codec encoded = .ok snapshot) {anchor : RevisionAnchor}
    {repair : Bool}
    (needed : needsRepair snapshot (stateDigest env encoded) anchor = .ok repair) :
    Calls env codec condition tampering
      (fun world => StateRead codec tampering (some encoded) world ∧
        AnchorAt codec world.disk.visible anchor)
      (repairAnchor codec snapshot (stateDigest env encoded) repair)
      (Yields tampering fun _ => Loaded env codec tampering snapshot) := by
  cases repair with
  | false =>
    apply Concludes.ret
    rintro world sound ⟨⟨covered, known, state⟩, placed⟩
    obtain ⟨revision, digest⟩ := needsRepair_false needed
    have stored := known encoded rfl
    have always : world.disk.Always fun disk =>
        disk.anchor = world.disk.visible.anchor := by
      rcases covered with zero | always
      · obtain ⟨_, otherParsed, nonzero⟩ := sound.anchored.contents encoded stored
        rw [parsed] at otherParsed
        cases otherParsed
        rw [placed.unique zero] at revision
        exact absurd revision.symm nonzero
      · exact always
    refine ⟨.inr ⟨encoded, stored, anchor, parsed, placed, revision, digest, always⟩, ?_⟩
    intro calm
    exact (sound.steady calm).allRecover_covered
      (.current (state calm) parsed placed revision digest) placed revision always
  | true =>
    obtain ⟨room, successor⟩ := needsRepair_true needed
    apply Concludes.mapError
    refine Concludes.strengthen ?_ (Concludes.weaken ?_ (writeAnchorLocked_writes lawful
        ⟨anchorVersion, snapshot.revision, stateDigest env encoded⟩ snapshot
        fun contents => encoded ∈ contents))
    · rintro world _ ⟨⟨_, known, state⟩, placed⟩
      refine ⟨known encoded rfl, fun calm => ?_⟩
      refine ⟨.inr ⟨anchor, placed, room, successor⟩,
        .ahead (state calm) parsed placed room successor, ?_⟩
      intro file read
      exact .current (state calm) parsed ⟨file, rfl, read⟩ rfl rfl
    · rintro (_ | ⟨⟩) _ _ holds
      · exact holds
      · obtain ⟨stored, placed, always, all⟩ := holds
        exact ⟨.inr ⟨encoded, stored, _, parsed, placed, rfl, rfl, always⟩, all⟩

theorem readPresent_loads (lawful : codec.Lawful) (encoded : Bytes) :
    Calls env codec condition tampering
      (StateRead codec tampering (some encoded)) (readPresent env codec encoded)
      (Yields tampering (Loaded env codec tampering)) := by
  apply Concludes.bindExcept
  · intro error failed world sound known calm
    obtain ⟨snapshot, recovers⟩ := (sound.steady calm).visible
    rw [(recovers.of_present (known.2.2 calm)).1] at failed
    cases failed
  intro _ parsed
  apply yields_bind (readAnchorLocked_beside encoded)
  intro anchor
  apply Concludes.bindExcept
  · intro error failed _ sound known calm
    obtain ⟨_, recovers⟩ := (sound.steady calm).visible
    obtain ⟨same, _, placed, stands⟩ := recovers.of_present (known.1.2.2 calm)
    rw [parsed] at same
    cases same
    rcases placed.unique known.2 with rfl
    exact needsRepair_failsWith stands error failed
  intro _ needed
  apply yields_bind (repairAnchor_repairs lawful parsed needed)
  intro _
  exact Concludes.ret fun _ _ loaded => loaded

/-- What `readLocked` returns is in the store for good. -/
theorem readLocked_loads (lawful : codec.Lawful) :
    Calls env codec condition tampering (AnchorCovered codec)
      (readLocked env codec) (Yields tampering (Loaded env codec tampering)) := by
  apply ask_quiet lasting_anchorCovered
  · exact fun _ _ _ answered => answered.1
  · intro world reply _ sound _ answered
    exact And.intro answered.2 sound.anchored.stored.visible
  intro reply
  apply fileResult_bind
  · exact fun _ _ _ _ => rfl
  rintro found rfl
  have learned : ∀ world, (AnchorCovered codec world ∧
      (∀ content, (.ok found : Except String (Option Bytes)) = .ok content →
        content = world.disk.visible.state) ∧
      ∀ encoded, world.disk.visible.state = some encoded → encoded ∈ world.contents) →
      StateRead codec tampering found world := by
    rintro world ⟨covered, same, stored⟩
    have state := same found rfl
    exact ⟨covered, fun encoded equal => stored encoded (state ▸ equal), fun _ => state.symm⟩
  cases found with
  | none => exact Concludes.strengthen (fun world _ => learned world) (readMissing_loads lawful)
  | some encoded =>
    exact Concludes.strengthen (fun world _ => learned world) (readPresent_loads lawful encoded)

end Loads

section Commits

variable {expectedRevision : UInt64} {next : Snapshot} {encoded : Bytes}

theorem checkNext_spec (passed : checkNext env expectedRevision next = .ok ()) :
    expectedRevision ≠ maxUint64 ∧ next.revision = expectedRevision + 1 ∧
      validateSnapshot env next = .ok () := by
  simp only [checkNext, bind_eq_ok, reject_eq_ok, mapError_eq_ok, Bool.or_eq_false_iff,
    beq_eq_false_iff_ne, bne_eq_false_iff_eq] at passed
  obtain ⟨_, ⟨room, successor⟩, valid⟩ := passed
  exact ⟨room, successor, valid⟩

theorem Returned.anchor {snapshot : Snapshot} (returned : Returned env codec snapshot world) :
    ∃ anchor, AnchorAt codec world.disk.visible anchor ∧ anchor.revision = snapshot.revision := by
  rcases returned with ⟨rfl, placed⟩ | ⟨_, _, anchor, _, placed, revision, _⟩
  · exact ⟨zeroAnchor, placed, rfl⟩
  · exact ⟨anchor, placed, revision⟩

variable (env codec tampering) in
/-- What a commit knows when it has read the snapshot it replaces. -/
def Ready (current next : Snapshot) (world : World) : Prop :=
  (∃ anchor, AnchorAt codec world.disk.visible anchor ∧ anchor.revision = current.revision) ∧
    (tampering = false → AllRecover env codec current world ∧
      world.before = current ∧ world.after = next)

theorem lasting_ready (current next : Snapshot) :
    Lasting (Undisturbed tampering) (Ready env codec tampering current next) := by
  refine Lasting.and ?_ (lasting_calm _)
  rintro _ _ undisturbed ⟨anchor, placed, revision⟩
  exact ⟨anchor, placed.congr undisturbed.anchor, revision⟩

variable (codec tampering) in
/-- What a commit knows once the state file was replaced. -/
def Replaced (encoded : Bytes) (current : Snapshot) (world : World) : Prop :=
  encoded ∈ world.contents ∧
    (tampering = false → world.disk.visible.state = some encoded ∧
      ∃ anchor, AnchorAt codec world.disk.visible anchor ∧ anchor.revision = current.revision)

theorem lasting_replaced (current : Snapshot) :
    Lasting (Undisturbed tampering) (Replaced codec tampering encoded current) :=
  (lasting_contents _).and (lasting_calm _)

/-- The rename of a state file keeps the invariant. -/
theorem Sound.replaceState (sound : Sound env codec tampering world) {current : Snapshot}
    (parsed : parseState env codec encoded = .ok next)
    (room : current.revision ≠ maxUint64) (successor : next.revision = current.revision + 1)
    (ready : Ready env codec tampering current next world) :
    Sound env codec tampering (world.replaceState encoded) := by
  have nonzero : next.revision ≠ 0 := by
    rw [successor]
    exact (successor_facts room).1
  refine ⟨sound.anchored.replaceState parsed nonzero, fun calm => ?_⟩
  obtain ⟨_, placed, revision⟩ := ready.1
  obtain ⟨all, before, after⟩ := ready.2 calm
  apply (sound.steady calm).rename
  · right
    rw [after]
    exact .ahead rfl parsed (placed.congr rfl) (revision ▸ room) (by rw [successor, revision])
  · intro _
    rw [before]
    exact all

theorem commitLocked_commits (lawful : codec.Lawful) (canonical : Canonical next)
    (passed : checkNext env expectedRevision next = .ok ()) :
    Calls env codec condition tampering (AnchorCovered codec)
      (commitLocked env codec expectedRevision next)
      (Yields tampering fun _ => Loaded env codec tampering next) := by
  obtain ⟨room, advances, valid⟩ := checkNext_spec passed
  apply yields_bind (readLocked_loads lawful)
  intro current
  apply Concludes.bindRejectIf
  · exact fun _ _ _ _ _ => rfl
  intro agreed
  have revision : current.revision = expectedRevision := by simpa using agreed
  subst revision
  have starting : ∀ world, Sound env codec tampering world →
      Loaded env codec tampering current world →
      Sound env codec tampering (world.start current next) ∧
        Ready env codec tampering current next (world.start current next) := by
    rintro world sound ⟨returned, all⟩
    refine ⟨⟨sound.anchored.start current next, fun calm => ?_⟩, returned.anchor, ?_⟩
    · exact (sound.steady calm).start (all calm) room advances
    · exact fun calm => ⟨all calm, rfl, rfl⟩
  refine @ask_bind _ _ _ _ _ _ (.commitStarts current next) _
    (fun _ => Ready env codec tampering current next) _ (lasting_loaded current) ?_ ?_
  · rintro world _ _ sound loaded rfl
    exact starting world sound loaded
  intro _
  apply Concludes.bindExcept
  · intro error failed world _ _ _
    have ending : FailsWith (fun error => error.is .stateRollback = false)
        (encodeState codec next) := by
      refine .bind ?_ fun marshaled => .bind (.reject rfl) fun _ => .ok
      cases codec.marshalSnapshot next with
      | ok => exact .ok
      | error => exact .error rfl
    exact ending error failed
  intro encoded encodes
  have parsed : parseState env codec encoded = .ok next :=
    parseState_encodeState lawful canonical valid encodes
  have replacing : Calls env codec condition tampering
      (Ready env codec tampering current next) (alter (.replaceState encoded))
      (Yields tampering fun _ => Replaced codec tampering encoded current) := by
    apply alter_yields (lasting_ready current next)
    intro world sound ready
    refine ⟨sound.replaceState parsed room advances ready, List.mem_cons_self, ?_⟩
    intro _
    obtain ⟨anchor, placed, level⟩ := ready.1
    exact ⟨rfl, anchor, placed.congr rfl, level⟩
  apply yields_bind replacing
  intro _
  have syncing : Calls env codec condition tampering
      (Replaced codec tampering encoded current) (alter .syncDirectory)
      (Yields tampering fun _ => Replaced codec tampering encoded current) := by
    apply alter_yields (lasting_replaced current)
    intro world sound replaced
    exact ⟨sound.sync, replaced⟩
  apply yields_bind syncing
  intro _
  refine Concludes.strengthen ?_ (Concludes.weaken ?_
    (writeAnchorLocked_writes lawful ⟨anchorVersion, next.revision, stateDigest env encoded⟩
      next fun contents => encoded ∈ contents))
  · rintro world _ ⟨stored, replaced⟩
    refine ⟨stored, fun calm => ?_⟩
    obtain ⟨state, anchor, placed, level⟩ := replaced calm
    have above : next.revision = anchor.revision + 1 := by rw [advances, level]
    refine ⟨.inr ⟨anchor, placed, level ▸ room, above⟩,
      .ahead state parsed placed (level ▸ room) above, ?_⟩
    intro file read
    exact .current state parsed ⟨file, rfl, read⟩ rfl rfl
  · rintro (_ | ⟨⟩) _ _ holds
    · exact holds
    · obtain ⟨stored, placed, always, all⟩ := holds
      exact ⟨.inr ⟨encoded, stored, _, parsed, placed, rfl, rfl, always⟩, all⟩

end Commits

section Calls

variable {α : Type} {body : Storing α} {pre : World → Prop} {good : α → World → Prop}

theorem locked_yields (lasting : Lasting (Undisturbed tampering) pre)
    (lastingGood : ∀ value, Lasting (Undisturbed tampering) (good value))
    (yields : Calls env codec condition tampering pre body (Yields tampering good)) :
    Calls env codec condition tampering pre (locked body) (Yields tampering good) := by
  have silent : ∀ request : Request, request = .acquireLock ∨ request = .releaseLock →
      ∀ world reply after, diskAnswer world request reply after → after = world := by
    rintro _ (rfl | rfl) world reply _ answered
    · exact answered
    · exact answered
  refine @ask_quiet _ _ _ _ _ _ .acquireLock _ (fun _ _ => True) _ lasting
    (silent _ (.inl rfl)) (fun _ _ _ _ _ _ => trivial) ?_
  intro reply
  apply fileResult_bind
  · exact fun _ _ _ _ => rfl
  rintro _ rfl
  apply Concludes.bindAttempt (Concludes.strengthen (fun _ _ known => known.1) yields)
  intro outcome
  have lastingOutcome : Lasting (Undisturbed tampering) (Yields tampering good outcome) := by
    cases outcome with
    | ok value => exact lastingGood value
    | error => exact Lasting.pure
  refine @ask_quiet _ _ _ _ _ _ .releaseLock _ (fun _ _ => True) _ lastingOutcome
    (silent _ (.inr rfl)) (fun _ _ _ _ _ _ => trivial) ?_
  intro _
  exact Concludes.ofExcept fun world _ known => known.1

theorem load_loads (lawful : codec.Lawful) :
    Calls env codec condition tampering (AnchorCovered codec)
      (load env codec) (Yields tampering (Loaded env codec tampering)) :=
  locked_yields lasting_anchorCovered lasting_loaded (readLocked_loads lawful)

theorem commit_commits (lawful : codec.Lawful) (expectedRevision : UInt64) {next : Snapshot}
    (canonical : Canonical next) :
    Calls env codec condition tampering (AnchorCovered codec)
      (commit env codec expectedRevision next)
      (fun outcome world => outcome = .ok () → Loaded env codec tampering next world) := by
  apply Concludes.bindExcept
  · rintro _ _ world _ _ ⟨⟩
  intro _ passed
  refine Concludes.weaken ?_ (locked_yields lasting_anchorCovered (fun _ => lasting_loaded next)
    (commitLocked_commits lawful canonical passed))
  rintro _ _ _ holds rfl
  exact holds

theorem Sound.loaded (sound : Sound env codec tampering world) {outcome : Except Error Snapshot}
    (yields : Yields tampering (Loaded env codec tampering) outcome world) :
    Sound env codec tampering (world.learn (.loaded outcome world.before world.after)) := by
  cases outcome with
  | ok =>
    refine ⟨sound.anchored.learn ?_, fun calm => (sound.steady calm).learn ?_ ?_⟩
    · rintro _ ⟨⟩
      exact yields.1
    · apply (sound.steady calm).returnsCommitted
      · rintro _ ⟨⟩
        exact yields.2 calm
      · rintro _ ⟨⟩
    · rintro _ ⟨⟩
      exact yields.2 calm
  | error =>
    refine ⟨sound.anchored.learn ?_, fun calm => (sound.steady calm).learn ?_ ?_⟩
    · rintro _ ⟨⟩
    · apply (sound.steady calm).returnsCommitted
      · rintro _ ⟨⟩
      · rintro _ ⟨⟩
        exact yields calm
    · rintro _ ⟨⟩

theorem Sound.committed (sound : Sound env codec tampering world) {next : Snapshot}
    (loaded : Loaded env codec tampering next world) :
    Sound env codec tampering (world.learn (.committed next)) := by
  refine ⟨sound.anchored.learn ?_, fun calm => (sound.steady calm).learn trivial ?_⟩
  · rintro _ ⟨⟩
    exact loaded.1
  · rintro _ ⟨⟩
    exact loaded.2 calm

theorem loadCall_safe (lawful : codec.Lawful) :
    Calls env codec condition tampering (AnchorCovered codec)
      (loadCall env codec) (fun _ _ => True) := by
  apply Concludes.bindAttempt (load_loads lawful)
  intro outcome
  have lasting : Lasting (Undisturbed tampering)
      (Yields tampering (Loaded env codec tampering) outcome) := by
    cases outcome with
    | ok value => exact lasting_loaded value
    | error => exact Lasting.pure
  refine @ask_bind _ _ _ _ _ _ (.loaded outcome) _ (fun _ _ => True) _ lasting ?_ ?_
  · rintro _ _ _ sound yields rfl
    exact ⟨sound.loaded yields, trivial⟩
  · exact fun _ => Concludes.ret fun _ _ _ => trivial

theorem commitCall_safe (lawful : codec.Lawful) (expectedRevision : UInt64) {next : Snapshot}
    (canonical : Canonical next) :
    Calls env codec condition tampering (AnchorCovered codec)
      (commitCall env codec expectedRevision next) (fun _ _ => True) := by
  apply Concludes.bind (commit_commits lawful expectedRevision canonical)
  · exact fun _ _ _ => trivial
  intro _
  refine Concludes.strengthen (fun world _ holds => holds rfl) ?_
  refine @ask_bind _ _ _ _ _ _ (.committed next) _ (fun _ _ => True) _ (lasting_loaded next) ?_ ?_
  · rintro _ _ _ sound loaded rfl
    exact ⟨sound.committed loaded, trivial⟩
  · exact fun _ => Concludes.ret fun _ _ _ => trivial

end Calls

end Sovereignite.Trust.FileStore
