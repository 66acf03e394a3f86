import Sovereignite.Libp2pWriteOnce

/-!
# What initializers do to the identity file

The programs of the identity service as triples over a world that other
processes change at the same time.  Everything outside the state root is
harmless; the rest creates, fills, links and removes a temporary file or reads
the record in place.
-/

namespace Sovereignite.Libp2p

open Effect

/-- The invariant of the world and what processes assume of each other. -/
def discipline (lib : Library) (root : String) : Discipline World Process where
  valid := Valid lib root
  rely := Relies root
  fresh _ _ := True

abbrev processContract (env : Platform) (lib : Library) (random : Randomness)
    (root : String) (process : Process) : Contract signature World :=
  (discipline lib root).contract (rules env lib random root) process

/-- A triple of a process among others that initialize the same root. -/
abbrev Initializes {α : Type} (env : Platform) (lib : Library) (random : Randomness)
    (root : String) (process : Process) (pre : World → Prop) (program : Running α)
    (post : α → World → Prop) : Prop :=
  Ensures (processContract env lib random root process) (Persists root) pre program post

variable {α : Type} {outcome : Except Error α} {post : α → World → Prop} {body : Running α}
variable {cleanup : Running Unit} {request : Request}

section Rules

variable {env : Platform} {lib : Library} {random : Randomness} {root : String}
variable {process : Process} {fact : World → Prop}

theorem ensures_ask {post : Reply request → World → Prop}
    (lasting : Lasting (Relies root process) fact)
    (step : ∀ world reply after, Valid lib root world → fact world →
      answer random process world request reply after →
      Sound lib root process world after ∧ post reply after) :
    Initializes env lib random root process fact (ask request) post := by
  intro world _ known current valid relied reply after answered
  obtain ⟨sound, learned⟩ :=
    step current reply after valid (lasting world current relied known) answered
  refine ⟨sound.valid, sound.owed, sound.valid, ?_, ?_⟩
  · exact trans_of (Persists root) relied.persists sound.persists
  · rintro _ ⟨⟩
    exact learned

theorem ensures_harmless (never : NeverRepeats random) (harmless : Harmless root request)
    (lasting : Lasting (Relies root process) fact) :
    Initializes env lib random root process fact (ask request) fun _ => fact := by
  refine ensures_ask lasting fun world reply after valid known answered => ?_
  have unchanged := Unchanged.of_answer never valid request harmless answered
  exact ⟨unchanged.sound valid process, lasting world after (unchanged.relies valid process) known⟩

theorem ensures_only (never : NeverRepeats random) {program : Running α}
    (only : program.Only (Harmless root)) (lasting : Lasting (Relies root process) fact) :
    Initializes env lib random root process fact program fun _ => fact :=
  Ensures.only (fun _ harmless => ensures_harmless never harmless lasting) only

theorem ensures_take :
    Initializes env lib random root process fact
      (take outcome) fun value world => fact world ∧ outcome = .ok value := by
  cases outcome with
  | ok => exact .ret fun _ _ known => ⟨known, rfl⟩
  | error => exact .fail

theorem ensures_takeAs {text : String} :
    Initializes env lib random root process fact
      (takeAs text outcome) fun value world => fact world ∧ outcome = .ok value := by
  cases outcome with
  | ok => exact .ret fun _ _ known => ⟨known, rfl⟩
  | error => exact .fail

theorem lasting_persists (lasting : Lasting (Persists root) fact) :
    Lasting (Relies root process) fact :=
  fun before after relied known => lasting before after relied.persists known

theorem ensures_deferred (never : NeverRepeats random)
    (lasting : ∀ value, Lasting (Persists root) (post value))
    (ensured : Initializes env lib random root process fact body post)
    (only : cleanup.Only (Harmless root)) :
    Initializes env lib random root process fact (deferred body cleanup) post := by
  refine .sequence (.attempt ensured) fun outcome => ?_
  have kept : Lasting (Persists root)
      fun world => ∀ value, outcome = .ok value → post value world :=
    fun before after persists holds value equal =>
      lasting value before after persists (holds value equal)
  refine .sequence (ensures_only never only.attempt (lasting_persists kept)) fun cleaned => ?_
  match outcome, cleaned with
  | .ok value, .ok () => exact .ret fun _ _ holds => holds value rfl
  | .ok _, .error _ => exact .fail
  | .error _, .ok () => exact .fail
  | .error _, .error _ => exact .fail

theorem ensures_onError (never : NeverRepeats random)
    (ensured : Initializes env lib random root process fact body post)
    (only : cleanup.Only (Harmless root)) :
    Initializes env lib random root process fact (onError body cleanup) post := by
  refine .sequence (.attempt ensured) fun outcome => ?_
  cases outcome with
  | ok value => exact .ret fun _ _ holds => holds value rfl
  | error =>
    have cleaned : Initializes env lib random root process (fun _ => True)
        (cleanup.attempt : Running (Except Error Unit)) fun _ _ => True :=
      ensures_only never only.attempt Lasting.pure
    exact .sequence (.strengthen (fun _ _ => trivial) cleaned) fun _ => .fail

end Rules

section Harmlessness

variable {root : String}

theorem only_ask (harmless : Harmless root request) : (ask request).Only (Harmless root) :=
  .perform harmless

theorem only_take : (take outcome).Only (Harmless root) := .ofExcept

theorem only_takeAs {text : String} : (takeAs text outcome).Only (Harmless root) := .ofExcept

theorem only_onError (only : body.Only (Harmless root)) (cleaned : cleanup.Only (Harmless root)) :
    (onError body cleanup).Only (Harmless root) := by
  refine .bind only.attempt fun outcome => ?_
  cases outcome with
  | ok => trivial
  | error => exact .bind cleaned.attempt fun _ => trivial

theorem only_checkContext : checkContext.Only (Harmless root) := by
  refine .bind (only_ask trivial) fun reply => ?_
  cases reply <;> trivial

theorem only_requireTrustedDirectoryOwner (path : String) (info : FileInfo) :
    (requireTrustedDirectoryOwner path info).Only (Harmless root) :=
  .bind only_takeAs fun _ => .bind (only_ask trivial) fun _ => .bind .rejectIf fun _ => .rejectIf

theorem only_requireEffectiveUserOwner (path : String) (info : FileInfo) :
    (requireEffectiveUserOwner path info).Only (Harmless root) :=
  .bind only_takeAs fun _ => .bind (only_ask trivial) fun _ => .rejectIf

theorem only_requireRootStillAtPath (path : String) :
    (requireRootStillAtPath path).Only (Harmless root) :=
  .bind (only_ask trivial) fun _ => .bind only_takeAs fun info =>
    .bind (only_ask trivial) fun _ => .bind only_takeAs fun _ => .bind .rejectIf fun _ =>
      .bind (only_requireEffectiveUserOwner path info) fun _ => .rejectIf

theorem only_makeComponent (parent path : String) :
    (makeComponent parent path).Only (Harmless root) := by
  refine .bind (only_ask trivial) fun _ => .bind only_takeAs fun info =>
    .bind (only_requireTrustedDirectoryOwner _ info) fun _ =>
      .bind (only_ask trivial) fun made => ?_
  cases made with
  | ok => trivial
  | error => exact .rejectIf

theorem only_openComponent (parent path : String) :
    (openComponent parent path).Only (Harmless root) := by
  refine .bind (only_ask trivial) fun opened => ?_
  cases opened with
  | ok => trivial
  | error =>
    dsimp only
    split
    · exact .bind (only_makeComponent parent path) fun _ =>
        .bind (only_ask trivial) fun _ => only_takeAs
    · trivial

theorem only_inspectComponent (parent path : String) :
    (inspectComponent parent path).Only (Harmless root) :=
  .bind (only_ask trivial) fun _ => .bind only_takeAs fun info =>
    .bind (only_ask trivial) fun _ => .bind only_takeAs fun _ => .bind .rejectIf fun _ =>
      .bind (only_requireTrustedDirectoryOwner path info) fun _ =>
        .bind (only_ask trivial) fun _ => only_takeAs

theorem only_closeQuietly (path : String) : (closeQuietly path).Only (Harmless root) :=
  .bind (only_ask trivial) fun _ => trivial

theorem only_anchorPath (path : String) (elements : List String) :
    (anchorPath path elements).Only (Harmless root) := by
  induction elements generalizing path with
  | nil => exact only_onError (only_requireRootStillAtPath path) (only_closeQuietly path)
  | cons _ _ ih =>
    refine .bind (only_onError ?_ (only_closeQuietly path)) fun _ => ih _
    exact .bind (only_openComponent path _) fun _ =>
      only_onError (only_inspectComponent path _) (only_closeQuietly _)

theorem only_openPrivateDirectory (path : String) :
    (openPrivateDirectory path).Only (Harmless root) := by
  refine .bind (only_ask trivial) fun _ => .bind only_takeAs fun _ =>
    .bind (only_onError ?_ (only_closeQuietly "/")) fun _ => only_anchorPath "/" _
  exact .bind (only_ask trivial) fun _ => .bind only_takeAs fun info =>
    only_requireTrustedDirectoryOwner "/" info

theorem only_releaseDirectory (path : String) : (releaseDirectory path).Only (Harmless root) :=
  .bind (only_requireRootStillAtPath path).attempt fun _ =>
    .bind (only_ask trivial) fun _ => .ofExcept

theorem only_sign (key : TPMSigningKey) (data : Bytes) : (key.sign data).Only (Harmless root) := by
  cases key with
  | tpm => exact .bind .rejectIf fun _ => .bind (only_ask trivial) fun _ => only_takeAs
  | other => exact .bind (only_ask trivial) fun _ => only_take

theorem only_prepareIdentity (env : Platform) (lib : Library)
    (key : TPMSigningKey) : (prepareIdentity env lib key).Only (Harmless root) := by
  refine .bind only_checkContext fun _ => .bind .ofExcept fun privateKey =>
    .bind ?_ fun _ => .bind .ofExcept fun _ => trivial
  exact .bind (only_ask trivial) fun _ => .bind only_takeAs fun random =>
    .bind (only_sign privateKey.key _).mapError.mapError fun _ => .bind .ofExcept fun _ =>
      .bind .rejectIf fun _ => only_checkContext

end Harmlessness

section Temporaries

variable {env : Platform} {lib : Library} {random : Randomness} {root : String}
variable {process : Process}

/-- What a process knows of a temporary file of its own. -/
structure Temporary (root : String) (process : Process) (value : Bytes) (file : Nat)
    (content : Bytes) (world : World) : Prop where
  drawn : world.drawn value = some process
  entry : world.entries root (temporaryName value) = some file
  owns : Owns root process file world
  content : world.files file = some content

theorem drawn_lasting (value : Bytes) :
    Lasting (Persists root) fun world => world.drawn value = some process :=
  fun _ _ persists drawn => persists.drawn value process drawn

theorem owns_lasting (file : Nat) : Lasting (Relies root process) (Owns root process file) := by
  intro _ _ relied owns
  refine ⟨relied.created file process owns.creator, fun linked => ?_⟩
  exact owns.unlinked (relied.unlinked file owns.creator linked)

theorem temporary_lasting (value : Bytes) (file : Nat) (content : Bytes) :
    Lasting (Relies root process) (Temporary root process value file content) := by
  intro before after relied temporary
  refine ⟨relied.persists.drawn value process temporary.drawn, ?_,
    owns_lasting file before after relied temporary.owns, ?_⟩
  · exact (relied.temporaries value temporary.drawn).trans temporary.entry
  · exact (relied.files file temporary.owns.creator).trans temporary.content

/-- A drawn value belongs to the process. -/
theorem ensures_random (never : NeverRepeats random) (length : Nat) :
    Initializes env lib random root process (fun _ => True) (ask (.random length))
      fun reply world => ∀ value, reply = .ok value → world.drawn value = some process := by
  refine ensures_ask Lasting.pure fun world reply after valid _ answered => ?_
  have unchanged := Unchanged.of_answer never valid (.random length) trivial answered
  refine ⟨unchanged.sound valid process, ?_⟩
  rintro _ rfl
  rcases answered with ⟨_, impossible, _⟩ | ⟨drawn, same, _, _, rfl⟩
  · cases impossible
  · cases same
    simp [World.draw]

theorem ensures_createExclusive (value : Bytes) :
    Initializes env lib random root process (fun world => world.drawn value = some process)
      (ask (.createExclusive root (temporaryName value)))
      fun reply world => ∀ file, reply = .ok file → Temporary root process value file [] world := by
  refine ensures_ask (lasting_persists (drawn_lasting value)) ?_
  intro _ _ after valid drawn answered
  rcases answered with ⟨error, rfl, rfl⟩ | ⟨file, rfl, absent, fresh, rfl⟩
  · exact ⟨(Unchanged.refl root after).sound valid process, nofun⟩
  · refine ⟨Sound.create valid drawn fresh, ?_⟩
    rintro _ ⟨⟩
    refine ⟨drawn, by simp [World.create], ⟨by simp [World.create], ?_⟩, by simp [World.create]⟩
    intro linked
    obtain ⟨_, stored⟩ :=
      valid.identity_file (entries_identity_of_temporary.symm.trans linked)
    rw [fresh] at stored
    cases stored

theorem ensures_createTemporaryFile (never : NeverRepeats random) (attempts : Nat) :
    Initializes env lib random root process
      (fun _ => True) (createTemporaryFile root ".identity-" attempts)
      fun created world => ∃ value, created.2 = temporaryName value ∧
        Temporary root process value created.1 [] world := by
  induction attempts with
  | zero => exact .fail
  | succ _ ih =>
    refine .sequence (ensures_random never 16) fun reply =>
      .sequence ensures_takeAs fun value => ?_
    refine .strengthen (fun world known => known.1 value known.2)
      (.sequence (ensures_createExclusive value) fun outcome => ?_)
    cases outcome with
    | ok file => exact .ret fun world _ known => ⟨value, rfl, known file rfl⟩
    | error =>
      dsimp only
      split
      · exact .strengthen (fun _ _ => trivial) ih
      · exact .fail

theorem ensures_createTemporaryElsewhere (never : NeverRepeats random)
    {directory start : String} (elsewhere : directory ≠ root) (attempts : Nat) :
    Initializes env lib random root process
      (fun _ => True) (createTemporaryFile directory start attempts)
      fun created world => Owns root process created.1 world := by
  induction attempts with
  | zero => exact .fail
  | succ _ ih =>
    refine .sequence (ensures_harmless never trivial Lasting.pure) fun reply =>
      .sequence ensures_takeAs fun value => ?_
    have created : Initializes env lib random root process (fun _ => True)
        (ask (.createExclusive directory (start ++ encodeToString value)))
        fun outcome world => ∀ file, outcome = .ok file →
          Owns root process file world := by
      refine ensures_ask Lasting.pure fun world outcome after valid _ answered => ?_
      have unchanged := Unchanged.of_answer never valid (.createExclusive directory _)
        elsewhere answered
      refine ⟨unchanged.sound valid process, ?_⟩
      rintro file rfl
      rcases answered with ⟨_, impossible, _⟩ | ⟨found, same, _, fresh, rfl⟩
      · cases impossible
      · cases same
        refine ⟨by simp [World.create], fun linked => ?_⟩
        rw [unchanged.entries] at linked
        obtain ⟨_, stored⟩ := valid.identity_file linked
        rw [fresh] at stored
        cases stored
    refine .strengthen (fun _ _ => trivial) (.sequence created fun outcome => ?_)
    cases outcome with
    | ok file => exact .ret fun world _ known => known file rfl
    | error =>
      dsimp only
      split
      · exact .strengthen (fun _ _ => trivial) ih
      · exact .fail

theorem ensures_write (file : Nat) (content : Bytes) :
    Initializes env lib random root process (Owns root process file) (ask (.write file content))
      fun _ => Owns root process file := by
  refine ensures_ask (owns_lasting file) fun world reply after valid owns answered => ?_
  have kept : ∀ written, Sound lib root process world (world.append file written) ∧
      Owns root process file (world.append file written) := fun written =>
    ⟨Sound.append valid owns, owns.creator, owns.unlinked⟩
  rcases answered with ⟨_, written, _, _, rfl⟩ | ⟨_, rfl⟩
  · exact kept written
  · exact kept content

theorem ensures_writeTemporary (value : Bytes) (file : Nat) (content : Bytes) :
    Initializes env lib random root process
      (Temporary root process value file []) (ask (.write file content))
      fun reply world => reply = .ok () → Temporary root process value file content world := by
  refine ensures_ask (temporary_lasting value file []) ?_
  intro _ _ _ valid temporary answered
  rcases answered with ⟨_, written, rfl, _, rfl⟩ | ⟨rfl, rfl⟩
  · exact ⟨Sound.append valid temporary.owns, nofun⟩
  · refine ⟨Sound.append valid temporary.owns, fun _ => ⟨temporary.drawn, temporary.entry,
      ⟨temporary.owns.creator, temporary.owns.unlinked⟩, ?_⟩⟩
    simp [World.append, temporary.content]

theorem ensures_fillTemporary (never : NeverRepeats random) (value : Bytes) (file : Nat)
    (content : Bytes) (mode : Nat) :
    Initializes env lib random root process
      (Temporary root process value file []) (fillTemporary file content mode)
      fun _ => Temporary root process value file content := by
  have filled : Lasting (Relies root process) (Temporary root process value file content) :=
    temporary_lasting value file content
  refine .sequence (ensures_harmless never trivial (temporary_lasting value file []))
    fun _ => .take fun _ _ => ?_
  refine .sequence (ensures_writeTemporary value file content) fun written =>
    .sequence ensures_take fun _ => .strengthen (fun _ known => known.1 known.2) ?_
  exact .sequence (ensures_harmless never trivial filled) fun _ =>
    .weaken (fun _ _ known => known.1) ensures_take

theorem ensures_removeTemporary (value : Bytes) {fact : World → Prop}
    (lasting : Lasting (Persists root) fact)
    (mine : ∀ world, fact world → world.drawn value = some process) :
    Initializes env lib random root process fact
      (ask (.remove root (temporaryName value))) fun _ => fact := by
  refine ensures_ask (lasting_persists lasting) fun world reply after valid known answered => ?_
  rcases answered with ⟨_, _, rfl⟩ | ⟨_, rfl⟩
  · exact ⟨(Unchanged.refl root after).sound valid process, known⟩
  · have sound : Sound lib root process world
        (world.enter root (temporaryName value) none) := Sound.enter valid (mine world known)
    exact ⟨sound, lasting world _ sound.persists known⟩

theorem ensures_discarding (never : NeverRepeats random) {value : Bytes} {file : Nat}
    {fact : World → Prop} (lasting : ∀ result, Lasting (Persists root) (post result))
    (mine : ∀ world, fact world → world.drawn value = some process)
    (ensured : Initializes env lib random root process fact body post) :
    Initializes env lib random root process fact
      (discarding root (temporaryName value) file body) post := by
  refine .sequence (.frame (drawn_lasting value) mine (.attempt ensured)) fun outcome => ?_
  have kept : Lasting (Persists root) fun world => world.drawn value = some process ∧
      ∀ result, outcome = .ok result → post result world := by
    refine .and (drawn_lasting value) fun before after persists holds result equal => ?_
    exact lasting result before after persists (holds result equal)
  refine .sequence (ensures_harmless never trivial (lasting_persists kept)) fun _ =>
    .sequence (ensures_removeTemporary value kept fun _ known => known.1) fun _ => ?_
  cases outcome with
  | ok result => exact .ret fun _ _ known => known.2 result rfl
  | error => exact .fail

end Temporaries

end Sovereignite.Libp2p
