import Sovereignite.Libp2pIdentityFile
import Sovereignite.Libp2pIdentityProof

/-!
# The identity of a device for its lifetime

In every interleaving of initializers and services over one state root, with
crashes at any point, the identity file is complete from the moment it exists
and never changes, whoever succeeds has its own identity in it, and the host
only ever gets the name in it.
-/

namespace Sovereignite.Libp2p

open Effect

variable {env : Platform} {lib : Library} {random : Randomness} {root : String}

theorem safe_of_settled {process : Process} {world : World} {program : Running Identity}
    (valid : Valid lib root world)
    (settled : Initializes env lib random root process (fun _ => True) program
      fun identity => Settled lib root identity.publicIdentity) :
    Safe (processContract env lib random root process) (fun _ _ => True) (do
        let identity ← program
        let _ ← ask (.returned identity.publicIdentity)
        return ()) world := by
  have noted : Initializes env lib random root process (fun _ => True) (do
        let identity ← program
        let _ ← ask (.returned identity.publicIdentity)
        return ()) fun _ _ => True :=
    .sequence settled fun identity =>
      .sequence (ensures_returned identity.publicIdentity) fun _ => .ret fun _ _ _ => trivial
  exact noted.safe valid trivial

theorem discipline_kept (never : NeverRepeats random) (roundTrip : lib.RecordRoundTrip) :
    (discipline lib root).Kept (rules env lib random root) where
  refl := Relies.refl root
  trans _ _ _ _ left right := left.trans right
  freshStable _ _ _ _ _ := trivial
  offeredSafe := by
    rintro process _ _ ⟨_, key, shared, rfl | rfl⟩ valid _
    · exact safe_of_settled valid (ensures_initializeIdentity never roundTrip shared key)
    · exact safe_of_settled valid (ensures_start never roundTrip shared key)
  crashValid := by
    rintro _ before after valid rfl
    exact valid
  crashRely := by
    rintro _ _ _ process rfl _
    exact Relies.refl root process _

theorem Initial.valid {world : World} (initial : Initial lib root world) :
    Valid lib root world := by
  refine ⟨initial.complete, ?_, ?_, ?_⟩
  · intro file _ found
    rw [initial.created file] at found
    cases found
  · intro _ member
    rw [initial.hostnames] at member
    cases member
  · intro _ member
    rw [initial.returned] at member
    cases member

theorem persists_of_step {state next : SystemState signature World Process Error Unit}
    (never : NeverRepeats random) (roundTrip : lib.RecordRoundTrip)
    (holds : (discipline lib root).Holds (rules env lib random root) state)
    (step : (rules env lib random root).Step state next) :
    Persists root state.world next.world := by
  rcases holds.step_relied (discipline_kept never roundTrip) step with
    ⟨process, relied⟩ | ⟨stopped, crashed⟩
  · exact (relied (process + 1) (Nat.succ_ne_self process)).persists
  · have same : next.world = state.world := crashed
    rw [same]
    exact refl_of (Persists root) state.world

theorem persists_of_steps {state later : SystemState signature World Process Error Unit}
    (never : NeverRepeats random) (roundTrip : lib.RecordRoundTrip)
    (holds : (discipline lib root).Holds (rules env lib random root) state)
    (steps : Relation.ReflTransGen (rules env lib random root).Step state later) :
    (discipline lib root).Holds (rules env lib random root) later ∧
      Persists root state.world later.world := by
  induction steps with
  | refl => exact ⟨holds, refl_of (Persists root) state.world⟩
  | tail _ step ih =>
    refine ⟨ih.1.step (discipline_kept never roundTrip) step, ?_⟩
    exact trans_of (Persists root) ih.2 (persists_of_step never roundTrip ih.1 step)

/-- Once the identity file exists it is a complete record and never changes;
every identity that an initializer or a service returned is the one in it, and
every name the host was given is the name in it. -/
theorem identity_file_is_written_once (env : Platform) (lib : Library)
    (random : Randomness) (root : String) (world : World)
    (state : SystemState signature World Process Error Unit)
    (never : NeverRepeats random) (roundTrip : lib.RecordRoundTrip)
    (initial : Initial lib root world)
    (reached : (rules env lib random root).Reachable world state) :
    (∀ file, state.world.entries root identityStateFilename = some file →
      ∃ record, Stores lib root state.world record) ∧
    (∀ later content, Relation.ReflTransGen (rules env lib random root).Step state later →
      identityContent root state.world = some content →
      identityContent root later.world = some content) ∧
    (∀ identity ∈ state.world.returned, ∃ record,
      Stores lib root state.world record ∧ newIdentityRecord lib identity = .ok record) ∧
    ∀ name ∈ state.world.hostnames, ∃ record,
      Stores lib root state.world record ∧ record.name = name := by
  have kept : (discipline lib root).Kept (rules env lib random root) :=
    discipline_kept never roundTrip
  have holds := Discipline.Holds.reachable kept initial.valid (fun _ => trivial) reached
  have valid : Valid lib root state.world := holds.world
  refine ⟨valid.complete, ?_, valid.returned, valid.hostnames⟩
  intro _ content steps found
  exact (persists_of_steps never roundTrip holds steps).2.content found

section SampleRun

open Trust (samplePlatform)

/-- A random source that gives every value at most once. -/
def sampleRandomness : Randomness :=
  fun before value => ¬ before value

def directoryInfo : FileInfo where
  isRegular := false
  isDir := true
  isSymlink := false
  isSticky := false
  perm := 0o700
  size := 0
  owner := some 0
  identity := 0

def regularInfo (file size : Nat) : FileInfo where
  isRegular := true
  isDir := false
  isSymlink := false
  isSticky := false
  perm := 0o600
  size := size
  owner := some 0
  identity := file

/-- A file system that works and has room for one new file, and a key whose
signatures are the digests of the messages. -/
def sampleRespond (process : Process) : Responder signature World
  | world, .contextError => some (none, world)
  | world, .effectiveUser => some ((0 : Nat), world)
  | world, .random length =>
    let value := List.replicate length (UInt8.ofNat process)
    if world.drawn value = none then some (.ok value, world.draw process value) else none
  | world, .signData data => some (.ok ((samplePlatform []).sha256 data), world)
  | world, .openDirectory _ => some (.ok (), world)
  | world, .statDirectory _ => some (.ok directoryInfo, world)
  | world, .lstatPath _ => some (.ok directoryInfo, world)
  | world, .closeDirectory _ => some (.ok (), world)
  | world, .syncDirectory _ => some (.ok (), world)
  | world, .lstat directory name =>
    match world.entries directory name with
    | none => some (.error (.sentinel .notExist), world)
    | some file => some (.ok (regularInfo file ((world.files file).getD []).length), world)
  | world, .openFile directory name => (world.entries directory name).map fun file =>
      (.ok file, world)
  | world, .stat file => (world.files file).map fun content =>
      (.ok (regularInfo file content.length), world)
  | world, .read file limit => (world.files file).map fun content =>
      (.ok (content.take limit), world)
  | world, .createExclusive directory name =>
    if world.entries directory name = none ∧ world.files 1 = none then
      some (.ok (1 : Nat), world.create process directory name 1)
    else
      some (.error (.sentinel .exist), world)
  | world, .link directory source target =>
    match world.entries directory source, world.entries directory target with
    | some file, none => some (.ok (), world.enter directory target (some file))
    | _, _ => some (.error (.sentinel .exist), world)
  | world, .remove directory name => some (.ok (), world.enter directory name none)
  | world, .chmod _ _ => some (.ok (), world)
  | world, .write file content => some (.ok (), world.append file content)
  | world, .sync _ => some (.ok (), world)
  | world, .close _ => some (.ok (), world)
  | world, .setHostname name =>
    some (.ok (), { world with hostnames := name :: world.hostnames })
  | world, .returned identity =>
    some ((), { world with returned := identity :: world.returned })
  | _, _ => none

theorem answer_of_sampleRespond {process : Process} {world after : World} {request : Request}
    {reply : Reply request}
    (responded : sampleRespond process world request = some (reply, after)) :
    answer sampleRandomness process world request reply after := by
  cases request with
  | random =>
    simp only [sampleRespond] at responded
    split at responded
    · next fresh =>
        cases responded
        exact .inr ⟨_, rfl, List.length_replicate .., not_not.mpr fresh, rfl⟩
    · cases responded
  | lstat =>
    simp only [sampleRespond] at responded
    split at responded <;> cases responded <;> rfl
  | openFile =>
    obtain ⟨file, found, ⟨⟩⟩ := Option.map_eq_some_iff.mp responded
    exact ⟨rfl, fun opened same => Except.ok.inj same ▸ found⟩
  | stat =>
    obtain ⟨content, stored, ⟨⟩⟩ := Option.map_eq_some_iff.mp responded
    exact ⟨rfl, fun info same => Except.ok.inj same ▸ congrArg _ stored⟩
  | read =>
    obtain ⟨content, stored, ⟨⟩⟩ := Option.map_eq_some_iff.mp responded
    exact ⟨rfl, fun taken same => Except.ok.inj same ▸ congrArg _ stored⟩
  | createExclusive =>
    simp only [sampleRespond] at responded
    split at responded
    · next fresh =>
        cases responded
        exact .inr ⟨1, rfl, fresh.1, fresh.2, rfl⟩
    · cases responded
      exact .inl ⟨_, rfl, rfl⟩
  | link =>
    simp only [sampleRespond] at responded
    split at responded
    · next file found absent =>
        cases responded
        exact .inr ⟨file, rfl, found, absent, rfl⟩
    · cases responded
      exact .inl ⟨_, rfl, rfl⟩
  | remove =>
    cases responded
    exact .inr ⟨rfl, rfl⟩
  | write =>
    cases responded
    exact .inr ⟨rfl, rfl⟩
  | _ => cases responded <;> rfl

def emptyWorld : World where
  entries _ _ := none
  files _ := none
  creator _ := none
  drawn _ := none
  hostnames := []
  returned := []

theorem emptyWorld_initial (lib : Library) (root : String) : Initial lib root emptyWorld :=
  ⟨fun _ => rfl, fun _ => rfl, rfl, rfl, nofun⟩

def sampleConfig : Config := ⟨"/state", "/run"⟩

/-- An initialization with a key that is not one of the TPM adapter. -/
def sampleInitialization (key : PubKey) : Running Unit :=
  initializeCall (samplePlatform []) sampleLibrary sampleConfig (.other 0x81000001 (some key))

def otherKey : PubKey := ⟨.ecdsa, .ecdsa "P-256" 8 8⟩

def initializedWorld : World :=
  ((sampleInitialization sampleKey).advance (sampleRespond 0) 200 emptyWorld).1

/-- A second process with another key, after the first one. -/
def otherInitialization : World × Running Unit :=
  (sampleInitialization otherKey).advance (sampleRespond 1) 200 initializedWorld

def mismatches : Running Unit → Bool
  | .fail error => error.is .identityMismatch
  | _ => false

theorem sampleLibrary_roundTrip : sampleLibrary.RecordRoundTrip := by
  intro _ _ marshaled
  simp only [sampleLibrary] at marshaled ⊢
  split at marshaled
  · next same =>
      cases marshaled
      subst same
      rfl
  · cases marshaled

/-- In a run that initializes the identity and names the host, the file is
complete and final, and a second process with another key is refused. -/
theorem sampleInitialization_writes_once :
    ∃ state : SystemState signature World Process Error Unit,
      NeverRepeats sampleRandomness ∧ sampleLibrary.RecordRoundTrip ∧
      Initial sampleLibrary "/state" emptyWorld ∧
      (rules (samplePlatform []) sampleLibrary sampleRandomness "/state").Reachable
        emptyWorld state ∧
      state.world.hostnames = [Trust.sampleName] ∧ state.world.returned.length = 1 ∧
      (∃ program, state.slots 1 = .running program ∧ mismatches program = true) ∧
      (∀ file, state.world.entries "/state" identityStateFilename = some file →
        ∃ record, Stores sampleLibrary "/state" state.world record) ∧
      (∀ later content,
        Relation.ReflTransGen
          (rules (samplePlatform []) sampleLibrary sampleRandomness "/state").Step state later →
        identityContent "/state" state.world = some content →
        identityContent "/state" later.world = some content) ∧
      (∀ identity ∈ state.world.returned, ∃ record,
        Stores sampleLibrary "/state" state.world record ∧
          newIdentityRecord sampleLibrary identity = .ok record) ∧
      ∀ name ∈ state.world.hostnames, ∃ record,
        Stores sampleLibrary "/state" state.world record ∧ record.name = name := by
  have never : NeverRepeats sampleRandomness := fun _ _ given => given
  have initial := emptyWorld_initial sampleLibrary "/state"
  have answers : ∀ process,
      (rules (samplePlatform []) sampleLibrary sampleRandomness "/state").Answers process
        (sampleRespond process) id :=
    fun _ _ _ _ _ responded => answer_of_sampleRespond responded
  have offered : ∀ process key,
      (rules (samplePlatform []) sampleLibrary sampleRandomness "/state").offered process
        (sampleInitialization key) :=
    fun _ _ => ⟨sampleConfig, _, by decide +kernel, .inl rfl⟩
  have start : (rules (samplePlatform []) sampleLibrary sampleRandomness "/state").Attainable
      emptyWorld (fun _ => False) (id emptyWorld) := .initial
  obtain ⟨_, namedReached, namedWorld, idle⟩ :=
    start.operate (answers 0) (fun impossible => impossible) (offered 0 sampleKey) 200
  obtain ⟨state, reached, world, slot, _⟩ := SystemRules.reachable_start (answers 1) 200
    namedReached namedWorld (idle 1 (by simp)) (offered 1 otherKey)
  have same : state.world = otherInitialization.1 := world
  refine ⟨state, never, sampleLibrary_roundTrip, initial, reached, ?_, ?_,
    ⟨otherInitialization.2, slot, by decide +kernel⟩,
    identity_file_is_written_once (samplePlatform []) sampleLibrary sampleRandomness "/state"
      emptyWorld state never sampleLibrary_roundTrip initial reached⟩
  · rw [same]
    decide +kernel
  · rw [same]
    decide +kernel

end SampleRun

end Sovereignite.Libp2p
