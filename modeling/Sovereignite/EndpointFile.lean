import Sovereignite.Platform

/-!
# The endpoint record of a service

Processes publish the record of their endpoint by writing a temporary file and
renaming it, and an instance removes its own record at the end.  Threads of any
number of processes take turns, one file operation each.  The temporary name
is the same for all of them.
-/

namespace Sovereignite.Endpoint

def recordVersion : Int := 1

structure EndpointRecord where
  version : Int := 0
  service : String
  bootID : String
  instanceNonce : String
  pid : Int
  network : String
  address : String
  port : Int
  expectedIdentity : String
  deriving DecidableEq

structure Codec where
  marshal : EndpointRecord → Bytes
  unmarshal : Bytes → Option EndpointRecord

def Codec.Lawful (codec : Codec) : Prop :=
  ∀ record decoded, codec.unmarshal (codec.marshal record) = some decoded → decoded = record

/-- The bytes that are published for a record. -/
def recordBytes (codec : Codec) (record : EndpointRecord) : Bytes :=
  codec.marshal { record with version := recordVersion }

/-- Where a publication stands.  While it writes it keeps the opened file, also
when the name has been given to another one. -/
inductive Phase where
  | preparing
  | writing (file offset : Nat)
  | syncing
  | renaming
  | discarding
  deriving DecidableEq

/-- Where a cleanup stands.  It reads the opened file piece by piece. -/
inductive CleanupPhase where
  | looking
  | opening
  | reading (file : Nat) (data : Bytes)
  | removing
  deriving DecidableEq

inductive Activity where
  | idle
  | publishing (serialised : Bool) (record : EndpointRecord) (phase : Phase)
  | cleaning (record : EndpointRecord) (phase : CleanupPhase)
  deriving DecidableEq

/-- The two names of the directory, the bytes of the files and the threads.
The records passed to a publication are kept. -/
structure World where
  temp : Option Nat
  endpoint : Option Nat
  contents : Nat → Bytes
  files : Nat
  threads : Nat → Activity
  published : List EndpointRecord

def overwrite (content : Bytes) (offset : Nat) (chunk : Bytes) : Bytes :=
  content.take offset ++ List.replicate (offset - content.length) 0 ++ chunk ++
    content.drop (offset + chunk.length)

namespace World

variable (world : World)

def turn (thread : Nat) (activity : Activity) : World :=
  { world with threads := Function.update world.threads thread activity }

/-- The file that opening the temporary name gives. -/
def opened : Nat :=
  world.temp.getD world.files

def openTemp : World :=
  { world with
    temp := some world.opened
    contents := Function.update world.contents world.opened []
    files := max world.files (world.opened + 1) }

def writeFile (file offset : Nat) (chunk : Bytes) : World :=
  { world with
    contents := Function.update world.contents file (overwrite (world.contents file) offset chunk) }

def initial : World where
  temp := none
  endpoint := none
  contents _ := []
  files := 0
  threads _ := .idle
  published := []

end World

section Steps

variable (codec : Codec) (process : Nat → Nat)

/-- The moves of a thread that change no file.  Any operation may fail: a
publication then ends, or removes the temporary file once that is written. -/
inductive Move (world : World) : Activity → Activity → Prop where
  | fail {serialised record} : Move world (.publishing serialised record .preparing) .idle
  | failWrite {serialised record file offset} :
      Move world (.publishing serialised record (.writing file offset)) .idle
  | close {serialised record file} :
      Move world (.publishing serialised record (.writing file (recordBytes codec record).length))
        (.publishing serialised record .syncing)
  | sync {serialised record} (present : world.temp ≠ none) :
      Move world (.publishing serialised record .syncing) (.publishing serialised record .renaming)
  | failSync {serialised record} :
      Move world (.publishing serialised record .syncing)
        (.publishing serialised record .discarding)
  | failRename {serialised record} :
      Move world (.publishing serialised record .renaming)
        (.publishing serialised record .discarding)
  | cleanup (record) : Move world .idle (.cleaning record .looking)
  | look {record} (present : world.endpoint ≠ none) :
      Move world (.cleaning record .looking) (.cleaning record .opening)
  | openRecord {record file} (present : world.endpoint = some file) :
      Move world (.cleaning record .opening) (.cleaning record (.reading file []))
  | readRecord {record file data} (count : Nat) :
      Move world (.cleaning record (.reading file data))
        (.cleaning record
          (.reading file (data ++ ((world.contents file).drop data.length).take count)))
  | compare {record existing file data} (ended : (world.contents file).length ≤ data.length)
      (decoded : codec.unmarshal data = some existing)
      (service : existing.service = record.service)
      (nonce : existing.instanceNonce = record.instanceNonce) :
      Move world (.cleaning record (.reading file data)) (.cleaning record .removing)
  | leave {record phase} : Move world (.cleaning record phase) .idle

/-- The operations whose order matters. -/
inductive Operation where
  | openTemp
  | rename
  | other
  deriving DecidableEq

/-- One step of a thread.  The lock of a process admits one serialised
publication at a time. -/
inductive Step (world : World) (thread : Nat) : Operation → World → Prop where
  | publish (serialised : Bool) (record : EndpointRecord) (idle : world.threads thread = .idle)
      (free : serialised = true → ∀ other, process other = process thread →
        ∀ held phase, world.threads other ≠ .publishing true held phase) :
      Step world thread .other { world.turn thread (.publishing serialised record .preparing) with
          published := record :: world.published }
  | move {activity : Activity} (moved : Move codec world (world.threads thread) activity) :
      Step world thread .other (world.turn thread activity)
  | openTemp {serialised record}
      (standing : world.threads thread = .publishing serialised record .preparing) :
      Step world thread .openTemp
        (world.openTemp.turn thread (.publishing serialised record (.writing world.opened 0)))
  | write {serialised record file offset} (count : Nat)
      (standing : world.threads thread = .publishing serialised record (.writing file offset))
      (rest : offset + count ≤ (recordBytes codec record).length) :
      Step world thread .other
        ((world.writeFile file offset (((recordBytes codec record).drop offset).take count)).turn
          thread (.publishing serialised record (.writing file (offset + count))))
  | rename {serialised record file}
      (standing : world.threads thread = .publishing serialised record .renaming)
      (present : world.temp = some file) :
      Step world thread .rename { world.turn thread .idle with temp := none, endpoint := some file }
  | discard {serialised record} (removed : Bool)
      (standing : world.threads thread = .publishing serialised record .discarding) :
      Step world thread .other
        { world.turn thread .idle with temp := if removed then none else world.temp }
  | remove {record} (standing : world.threads thread = .cleaning record .removing) :
      Step world thread .other { world.turn thread .idle with endpoint := none }

/-- The worlds of the runs whose steps all meet a condition. -/
inductive Reached (condition : World → Nat → Operation → Prop) : World → Prop where
  | initial : Reached condition .initial
  | step {world next : World} {thread : Nat} {operation : Operation}
      (before : Reached condition world) (met : condition world thread operation)
      (step : Step codec process world thread operation next) : Reached condition next

end Steps

/-- The publication has opened the temporary file and not given it up yet. -/
def Activity.InWindow : Activity → Prop
  | .publishing _ _ phase => phase ≠ .preparing
  | _ => False

/-- The cleanup has opened the record and not removed it yet. -/
def Activity.Inspecting : Activity → Prop
  | .cleaning _ (.reading _ _) => True
  | .cleaning _ .removing => True
  | _ => False

/-- The temporary file is opened while no other publication uses it, and it is
renamed while no cleanup stands between opening the record and its removal. -/
def Orderly (world : World) (thread : Nat) : Operation → Prop
  | .openTemp => ∀ other, other ≠ thread → ¬ (world.threads other).InWindow
  | .rename => ∀ other, ¬ (world.threads other).Inspecting
  | .other => True

/-- The record is absent or complete. -/
def Complete (codec : Codec) (world : World) : Prop :=
  ∀ file, world.endpoint = some file →
    ∃ record ∈ world.published, world.contents file = recordBytes codec record

/-- What a cleanup is about to remove was published by its own instance. -/
def OwnerRemoves (codec : Codec) (world : World) : Prop :=
  ∀ thread record, world.threads thread = .cleaning record .removing →
    ∀ file removed, world.endpoint = some file →
      world.contents file = recordBytes codec removed → removed.instanceNonce = record.instanceNonce

/-- What the thread of an activity relies on. -/
def Relies (codec : Codec) (world : World) : Activity → Prop
  | .publishing _ record (.writing file offset) =>
    record ∈ world.published ∧ world.temp = some file ∧
      world.contents file = (recordBytes codec record).take offset
  | .publishing _ record .preparing => record ∈ world.published
  | .publishing _ record _ =>
    record ∈ world.published ∧ ∀ file, world.temp = some file →
      world.contents file = recordBytes codec record
  | .cleaning _ (.reading file data) =>
    ∀ linked, world.endpoint = some linked → linked = file ∧ data <+: world.contents file
  | .cleaning record .removing =>
    ∀ file removed, world.endpoint = some file →
      world.contents file = recordBytes codec removed → removed.instanceNonce = record.instanceNonce
  | _ => True

structure Safe (codec : Codec) (world : World) : Prop where
  complete : Complete codec world
  apart : ∀ file, world.temp = some file → world.endpoint ≠ some file
  made : ∀ file, world.temp = some file ∨ world.endpoint = some file → file < world.files
  alone : ∀ first second, (world.threads first).InWindow → (world.threads second).InWindow →
    first = second
  relied : ∀ thread, Relies codec world (world.threads thread)

variable {codec : Codec} {process : Nat → Nat} {world next : World} {thread : Nat}
  {operation : Operation} {activity : Activity}

theorem Safe.initial : Safe codec .initial where
  complete := nofun
  apart := nofun
  made := nofun
  alone := nofun
  relied _ := trivial

/-- A thread keeps what it relies on when its own file and the record stay. -/
theorem Relies.frame (relies : Relies codec world activity)
    (more : world.published ⊆ next.published)
    (window : activity.InWindow → next.temp = world.temp ∧
      ∀ file, world.temp = some file → next.contents file = world.contents file)
    (kept : activity.Inspecting → ∀ file, next.endpoint = some file →
      world.endpoint = some file ∧ next.contents file = world.contents file) :
    Relies codec next activity := by
  cases activity with
  | idle => trivial
  | publishing _ _ phase =>
    cases phase <;> simp_all [Relies, Activity.InWindow] <;> grind
  | cleaning _ phase =>
    cases phase with
    | reading =>
      intro linked present
      obtain ⟨before, same⟩ := kept trivial linked present
      obtain ⟨rfl, read⟩ := relies linked before
      exact ⟨rfl, same ▸ read⟩
    | removing =>
      intro file removed present content
      obtain ⟨before, same⟩ := kept trivial file present
      exact relies file removed before (same.symm.trans content)
    | _ => trivial

/-- A step is safe when its files are, its thread is alone in the window and
the others keep what they rely on. -/
theorem Safe.advance (safe : Safe codec world)
    (moved : next.threads = Function.update world.threads thread activity)
    (complete : Complete codec next)
    (apart : ∀ file, next.temp = some file → next.endpoint ≠ some file)
    (made : ∀ file, next.temp = some file ∨ next.endpoint = some file → file < next.files)
    (entered : activity.InWindow → ∀ other, other ≠ thread → ¬ (world.threads other).InWindow)
    (relies : Relies codec next activity)
    (others : ∀ other, other ≠ thread → Relies codec next (world.threads other)) :
    Safe codec next := by
  refine ⟨complete, apart, made, ?_, ?_⟩
  · intro first second
    rw [moved]
    have := safe.alone first second
    grind [Function.update_apply]
  · intro other
    rw [moved, Function.update_apply]
    split
    · exact relies
    · exact others other ‹_›

/-- A step that keeps the record. -/
theorem Safe.keeping (safe : Safe codec world)
    (moved : next.threads = Function.update world.threads thread activity)
    (more : world.published ⊆ next.published) (files : world.files ≤ next.files)
    (kept : ∀ file, next.endpoint = some file →
      world.endpoint = some file ∧ next.contents file = world.contents file)
    (temp : ∀ file, next.temp = some file → world.endpoint ≠ some file ∧ file < next.files)
    (entered : activity.InWindow → ∀ other, other ≠ thread → ¬ (world.threads other).InWindow)
    (relies : Relies codec next activity)
    (others : ∀ other, other ≠ thread → (world.threads other).InWindow →
      next.temp = world.temp ∧ next.contents = world.contents) : Safe codec next := by
  refine safe.advance moved ?_ ?_ ?_ entered relies ?_
  · intro file present
    obtain ⟨before, same⟩ := kept file present
    obtain ⟨record, listed, content⟩ := safe.complete file before
    exact ⟨record, more listed, same.trans content⟩
  · intro file named present
    exact (temp file named).1 (kept file present).1
  · rintro file (named | present)
    · exact (temp file named).2
    · exact Nat.lt_of_lt_of_le (safe.made file (.inr (kept file present).1)) files
  · intro other different
    refine (safe.relied other).frame more ?_ fun _ => kept
    intro window
    obtain ⟨same, contents⟩ := others other different window
    exact ⟨same, fun _ _ => by rw [contents]⟩

theorem Move.relies (lawful : codec.Lawful)
    {before : Activity} (moved : Move codec world before activity)
    (relies : Relies codec world before) : Relies codec world activity := by
  cases moved with
  | close =>
    obtain ⟨listed, temp, content⟩ := relies
    refine ⟨listed, ?_⟩
    intro _ present
    cases temp.symm.trans present
    rwa [List.take_length] at content
  | sync | failSync | failRename => exact relies
  | openRecord present =>
    intro linked again
    cases present.symm.trans again
    exact ⟨rfl, List.nil_prefix⟩
  | readRecord =>
    intro linked present
    obtain ⟨rfl, _, whole⟩ := relies linked present
    refine ⟨rfl, ?_⟩
    rw [← whole, List.drop_left]
    exact (List.prefix_append_right_inj _).mpr (List.take_prefix ..)
  | compare ended decoded _ nonce =>
    intro linked _ present content
    obtain ⟨rfl, read⟩ := relies linked present
    rw [read.eq_of_length_le ended, content] at decoded
    cases lawful _ _ decoded
    exact nonce
  | _ => trivial

theorem Move.window {before : Activity} (moved : Move codec world before activity)
    (window : activity.InWindow) : before.InWindow := by
  cases moved <;> first | exact window.elim | exact nofun

theorem overwrite_take (bytes : Bytes) {offset count : Nat} (rest : offset + count ≤ bytes.length) :
    overwrite (bytes.take offset) offset ((bytes.drop offset).take count) =
      bytes.take (offset + count) := by
  have length : (bytes.take offset).length = offset := by
    rw [List.length_take]
    omega
  have tail : ∀ more, (bytes.take offset).drop (offset + more) = [] := fun more =>
    List.drop_of_length_le (by omega)
  simp [overwrite, length, tail, List.take_add, List.take_take]

/-- Opening the temporary name never gives the published file. -/
theorem Safe.opened_apart (safe : Safe codec world) : world.endpoint ≠ some world.opened := by
  intro present
  cases temp : world.temp with
  | none =>
    have made := safe.made _ (.inr present)
    rw [World.opened, temp] at made
    exact absurd made (Nat.lt_irrefl _)
  | some file =>
    rw [World.opened, temp] at present
    exact safe.apart file temp present

/-- Changing a file that is not published keeps the record. -/
theorem update_contents {file : Nat} (apart : world.endpoint ≠ some file) (content : Bytes) :
    ∀ other, world.endpoint = some other → world.endpoint = some other ∧
      Function.update world.contents file content other = world.contents other := by
  intro _ present
  refine ⟨present, Function.update_of_ne ?_ ..⟩
  rintro rfl
  exact apart present

theorem Safe.step (lawful : codec.Lawful)
    (safe : Safe codec world) (orderly : Orderly world thread operation)
    (step : Step codec process world thread operation next) : Safe codec next := by
  have relied := safe.relied thread
  have outside : (world.threads thread).InWindow →
      ∀ other, other ≠ thread → ¬ (world.threads other).InWindow := by
    intro window other different inside
    exact different (safe.alone other thread inside window)
  have unchanged : ∀ file, world.endpoint = some file →
      world.endpoint = some file ∧ world.contents file = world.contents file :=
    fun file present => ⟨present, rfl⟩
  have named : ∀ file, world.temp = some file → world.endpoint ≠ some file ∧ file < world.files :=
    fun file present => ⟨safe.apart file present, safe.made file (.inl present)⟩
  cases step with
  | publish =>
    exact safe.keeping rfl (List.subset_cons_self ..) (Nat.le_refl _) unchanged named
      (fun window => absurd rfl window) List.mem_cons_self fun _ _ _ => ⟨rfl, rfl⟩
  | move moved =>
    refine safe.keeping rfl (List.Subset.refl _) (Nat.le_refl _) unchanged named
      (fun window => outside (moved.window window)) ?_ fun _ _ _ => ⟨rfl, rfl⟩
    exact (moved.relies lawful relied).frame (List.Subset.refl _)
      (fun _ => ⟨rfl, fun _ _ => rfl⟩) fun _ => unchanged
  | openTemp standing =>
    rw [standing] at relied
    refine safe.keeping rfl (List.Subset.refl _) (Nat.le_max_left ..)
      (update_contents safe.opened_apart _) ?_ (fun _ => orderly) ?_
      fun other different window => absurd window (orderly other different)
    · rintro file ⟨⟩
      exact ⟨safe.opened_apart, Nat.lt_of_lt_of_le (Nat.lt_succ_self _) (Nat.le_max_right ..)⟩
    · exact ⟨relied, rfl, by simp [World.turn, World.openTemp]⟩
  | write _ standing rest =>
    rw [standing] at relied outside
    obtain ⟨listed, temp, content⟩ := relied
    have alone := outside nofun
    refine safe.keeping rfl (List.Subset.refl _) (Nat.le_refl _)
      (update_contents (named _ temp).1 _) named (fun _ => alone) ⟨listed, temp, ?_⟩
      fun other different window => absurd window (alone other different)
    rw [← overwrite_take _ rest, ← content]
    exact Function.update_self ..
  | rename standing present =>
    rw [standing] at relied outside
    have alone := outside nofun
    refine safe.advance rfl ?_ nofun ?_ nofun trivial ?_
    · rintro file ⟨⟩
      exact ⟨_, relied.1, relied.2 _ present⟩
    · rintro _ (⟨⟨⟩⟩ | ⟨⟨⟩⟩)
      exact (named _ present).2
    · intro other different
      exact (safe.relied other).frame (List.Subset.refl _)
        (fun window => absurd window (alone other different))
        fun inspecting => absurd inspecting (orderly other)
  | discard removed standing =>
    rw [standing] at outside
    have alone := outside nofun
    refine safe.keeping rfl (List.Subset.refl _) (Nat.le_refl _) unchanged ?_ nofun trivial
      fun other different window => absurd window (alone other different)
    cases removed
    · exact named
    · exact nofun
  | remove =>
    exact safe.keeping rfl (List.Subset.refl _) (Nat.le_refl _) nofun named nofun trivial
      fun _ _ _ => ⟨rfl, rfl⟩

/-- In every run whose publications do not overlap and whose records are not
replaced under a cleanup, the record is complete and removed by its owner. -/
theorem orderly_runs_safe (lawful : codec.Lawful) (reached : Reached codec process Orderly world) :
    Complete codec world ∧ OwnerRemoves codec world := by
  have safe : Safe codec world := by
    induction reached with
    | initial => exact .initial
    | step _ orderly step ih => exact ih.step lawful orderly step
  refine ⟨safe.complete, ?_⟩
  intro thread _ standing
  have relied := safe.relied thread
  rwa [standing] at relied

section Alone

variable {condition : World → Nat → Operation → Prop} {before : Activity}

theorem World.turn_self : (world.turn thread activity).threads thread = activity :=
  Function.update_self ..

theorem Reached.move (reached : Reached codec process condition world)
    (met : condition world thread .other) (standing : world.threads thread = before)
    (moved : Move codec world before activity) :
    Reached codec process condition (world.turn thread activity) :=
  reached.step met (.move (standing ▸ moved))

/-- The thread has written its record and the others do nothing. -/
structure Ready (codec : Codec) (thread : Nat) (record : EndpointRecord)
    (earlier : List EndpointRecord) (world : World) : Prop where
  threads : world.threads =
    Function.update (fun _ => .idle) thread (.publishing false record .renaming)
  written : ∃ file, world.temp = some file ∧ world.contents file = recordBytes codec record
  published : world.published = record :: earlier

theorem Reached.ready (reached : Reached codec process condition world)
    (idle : world.threads = fun _ => .idle) (record : EndpointRecord)
    (moves : ∀ world, condition world thread .other)
    (opens : ∀ world, (∀ other, other ≠ thread → world.threads other = .idle) →
      condition world thread .openTemp) :
    ∃ next, Reached codec process condition next ∧
      Ready codec thread record world.published next := by
  have started := reached.step (moves _) (.publish false record (congrFun idle thread) nofun)
  have opened := started.step (opens _ fun other different => by simp [World.turn, idle, different])
    (.openTemp World.turn_self)
  have written := opened.step (moves _)
    (.write (recordBytes codec record).length World.turn_self (by omega))
  rw [Nat.zero_add] at written
  have synced := (written.move (moves _) World.turn_self .close).move (moves _) World.turn_self
    (.sync nofun)
  refine ⟨_, synced, ?_, ⟨_, rfl, ?_⟩, rfl⟩
  · simp [World.turn, World.writeFile, World.openTemp, idle]
  · simp [World.turn, World.writeFile, World.openTemp, overwrite]

/-- A publication that nobody disturbs puts its record in place. -/
theorem Reached.publication (reached : Reached codec process Orderly world)
    (idle : world.threads = fun _ => .idle) (thread : Nat) (record : EndpointRecord) :
    ∃ next, Reached codec process Orderly next ∧ next.threads = (fun _ => .idle) ∧
      ∃ file, next.endpoint = some file ∧ next.contents file = recordBytes codec record := by
  have opens : ∀ world : World, (∀ other, other ≠ thread → world.threads other = .idle) →
      Orderly world thread .openTemp := by
    intro _ others other different
    rw [others other different]
    exact id
  obtain ⟨before, prepared, ready⟩ := reached.ready idle record (fun _ => trivial) opens
  have calm : Orderly before thread .rename := by
    intro other
    rw [ready.threads, Function.update_apply]
    split <;> exact id
  obtain ⟨file, named, content⟩ := ready.written
  have standing : before.threads thread = .publishing false record .renaming := by
    rw [ready.threads, Function.update_self]
  refine ⟨_, prepared.step calm (.rename standing named), ?_, file, rfl, content⟩
  simp only [World.turn, ready.threads, Function.update_idem]
  exact Function.update_eq_self thread fun _ => Activity.idle

/-- A cleanup that nobody disturbs reads the record in place. -/
theorem Reached.inspection {file : Nat} (reached : Reached codec process Orderly world)
    (thread : Nat) (idle : world.threads thread = .idle) (present : world.endpoint = some file)
    (record : EndpointRecord) : Reached codec process Orderly
      (world.turn thread (.cleaning record (.reading file (world.contents file)))) := by
  have looked := (reached.move trivial idle (.cleanup record)).move trivial World.turn_self
    (.look (ne_of_eq_of_ne present nofun))
  have opened := looked.move trivial World.turn_self (.openRecord present)
  have read := opened.move trivial World.turn_self (.readRecord (world.contents file).length)
  simpa [World.turn] using read

end Alone

def sampleRecord : EndpointRecord where
  service := "trust"
  bootID := "boot"
  instanceNonce := "1f"
  pid := 7
  network := "tcp"
  address := "127.0.0.1"
  port := 4001
  expectedIdentity := ""

/-- The record of the instance that follows. -/
def laterRecord : EndpointRecord :=
  { sampleRecord with instanceNonce := "2e", pid := 8 }

def sampleCodec : Codec where
  marshal record := if record = { sampleRecord with version := 1 } then [1, 1] else
    if record = { laterRecord with version := 1 } then [2, 2] else []
  unmarshal bytes := if bytes = [1, 1] then some { sampleRecord with version := 1 } else
    if bytes = [2, 2] then some { laterRecord with version := 1 } else none

theorem sampleCodec_lawful : sampleCodec.Lawful := by
  intro _ _
  simp only [sampleCodec]
  split_ifs <;> simp_all

/-- Two instances publish one after the other; the first one's cleanup keeps the
record of the second, and the second is about to remove its own. -/
theorem successive_publications_safe : ∃ world, Reached sampleCodec id Orderly world ∧
    world.threads 0 = .idle ∧ world.threads 1 = .cleaning laterRecord .removing ∧
    world.endpoint ≠ none ∧ Complete sampleCodec world ∧ OwnerRemoves sampleCodec world := by
  have empty : Reached sampleCodec id Orderly .initial := .initial
  obtain ⟨_, published, idle, _⟩ := empty.publication rfl 0 sampleRecord
  obtain ⟨second, replaced, idle, file, present, content⟩ :=
    published.publication idle 1 laterRecord
  have bytes : second.contents file = [2, 2] := content.trans (by decide)
  have kept := (replaced.inspection 0 (congrFun idle 0) present sampleRecord).move trivial
    World.turn_self .leave
  have opened := kept.inspection 1 (congrFun idle 1) present laterRecord
  have compared := opened.move trivial World.turn_self (.compare (Nat.le_refl _)
    ((congrArg sampleCodec.unmarshal bytes).trans rfl) rfl rfl)
  refine ⟨_, compared, rfl, rfl, ?_, orderly_runs_safe sampleCodec_lawful compared⟩
  exact ne_of_eq_of_ne present nofun

/-- A publication of another process truncates the file that is renamed. -/
theorem racing_publications_incomplete : sampleCodec.Lawful ∧
    ∃ world, Reached sampleCodec id (fun _ _ _ => True) world ∧ ¬ Complete sampleCodec world := by
  have empty : Reached sampleCodec id (fun _ _ _ => True) .initial := .initial
  obtain ⟨world, reached, ready⟩ : ∃ world, Reached sampleCodec id (fun _ _ _ => True) world ∧
      Ready sampleCodec 0 sampleRecord [] world :=
    empty.ready rfl sampleRecord (fun _ => trivial) fun _ _ => trivial
  have started := reached.step trivial
    (.publish false sampleRecord (congrFun ready.threads 1) nofun)
  have opened := started.step trivial (@Step.openTemp _ _ _ 1 _ _ rfl)
  have renamed := opened.step trivial (@Step.rename _ _ _ 0 _ _ _ (congrFun ready.threads 0) rfl)
  refine ⟨sampleCodec_lawful, _, renamed, ?_⟩
  intro complete
  obtain ⟨record, listed, content⟩ := complete _ rfl
  have truncated : recordBytes sampleCodec record = [] :=
    content.symm.trans (Function.update_self ..)
  have listed : record ∈ [sampleRecord, sampleRecord] := by
    rw [← ready.published]
    exact listed
  simp only [List.mem_cons, List.not_mem_nil, or_false, or_self] at listed
  subst listed
  exact absurd truncated (by decide)

end Sovereignite.Endpoint
