import Sovereignite.DigestEncoding
import Sovereignite.EffectRequests
import Sovereignite.Libp2pRuns

/-!
# The identity file is written once

A temporary name belongs to the process that drew its random part, and a file
to the process that created it.  A process writes only to its own files before
it links them and removes only its own names, so a file that is linked as the
identity is complete and stays as it is.
-/

namespace Sovereignite.Libp2p

open Effect

def temporaryName (value : Bytes) : String :=
  ".identity-" ++ encodeToString value

theorem temporaryName_inj {first second : Bytes}
    (equal : temporaryName first = temporaryName second) : first = second := by
  have lists := congrArg String.toList equal
  simp only [temporaryName, String.toList_append] at lists
  exact encodeToString_injective (String.toList_injective (List.append_cancel_left lists))

theorem temporaryName_ne_identity (value : Bytes) :
    temporaryName value ≠ identityStateFilename := by
  intro equal
  have lists := congrArg (fun text => text.toList.head?) equal
  simp [temporaryName, identityStateFilename, String.toList_append] at lists

section Invariant

/-- What holds of the world in every state. -/
structure Valid (lib : Library) (root : String) (world : World) : Prop where
  complete : ∀ file, world.entries root identityStateFilename = some file →
    ∃ record, Stores lib root world record
  allocated : ∀ file process, world.creator file = some process → world.files file ≠ none
  hostnames : ∀ name ∈ world.hostnames, ∃ record, Stores lib root world record ∧ record.name = name
  returned : ∀ identity ∈ world.returned,
    ∃ record, Stores lib root world record ∧ newIdentityRecord lib identity = .ok record

/-- What no step of any process undoes. -/
structure Persists (root : String) (before after : World) : Prop where
  identity : ∀ file, before.entries root identityStateFilename = some file →
    after.entries root identityStateFilename = some file ∧ after.files file = before.files file
  drawn : ∀ value process, before.drawn value = some process → after.drawn value = some process

/-- What a process may assume of the steps of the others: they leave its files
and its temporary names alone and link none of its files. -/
structure Relies (root : String) (process : Process) (before after : World) : Prop where
  persists : Persists root before after
  created : ∀ file creator, before.creator file = some creator → after.creator file = some creator
  temporaries : ∀ value, before.drawn value = some process →
    after.entries root (temporaryName value) = before.entries root (temporaryName value)
  files : ∀ file, before.creator file = some process → after.files file = before.files file
  unlinked : ∀ file, before.creator file = some process →
    after.entries root identityStateFilename = some file →
      before.entries root identityStateFilename = some file

/-- A step that does nothing in the state root and to no file that exists. -/
structure Unchanged (root : String) (before after : World) : Prop where
  entries : after.entries root = before.entries root
  files : ∀ file content, before.files file = some content → after.files file = some content
  created : ∀ file creator, before.creator file = some creator → after.creator file = some creator
  allocated : ∀ file creator, after.creator file = some creator →
    before.creator file = some creator ∨ after.files file ≠ none
  drawn : ∀ value process, before.drawn value = some process → after.drawn value = some process
  hostnames : after.hostnames = before.hostnames
  returned : after.returned = before.returned

theorem Unchanged.refl (root : String) (world : World) : Unchanged root world world :=
  ⟨rfl, fun _ _ found => found, fun _ _ found => found, fun _ _ found => .inl found,
    fun _ _ found => found, rfl, rfl⟩

instance (root : String) : IsPreorder World (Persists root) where
  refl _ := ⟨fun _ found => ⟨found, rfl⟩, fun _ _ found => found⟩
  trans first second third left right := by
    refine ⟨fun file found => ?_, fun value process found => ?_⟩
    · obtain ⟨middle, content⟩ := left.identity file found
      obtain ⟨last, same⟩ := right.identity file middle
      exact ⟨last, same.trans content⟩
    · exact right.drawn value process (left.drawn value process found)

theorem Relies.refl (root : String) (process : Process) (world : World) :
    Relies root process world world :=
  ⟨refl_of (Persists root) world, fun _ _ found => found, fun _ _ => rfl, fun _ _ => rfl,
    fun _ _ found => found⟩

theorem Relies.trans {root : String} {process : Process} {first second third : World}
    (left : Relies root process first second) (right : Relies root process second third) :
    Relies root process first third := by
  refine ⟨trans_of (Persists root) left.persists right.persists, ?_, ?_, ?_, ?_⟩
  · intro file creator found
    exact right.created file creator (left.created file creator found)
  · intro value found
    rw [right.temporaries value (left.persists.drawn value process found),
      left.temporaries value found]
  · intro file found
    rw [right.files file (left.created file process found), left.files file found]
  · intro file found linked
    exact left.unlinked file found (right.unlinked file (left.created file process found) linked)

variable {lib : Library} {root : String} {before after : World}

/-- The identity file and its content stay. -/
theorem Persists.content {content : Bytes} (persists : Persists root before after)
    (found : identityContent root before = some content) :
    identityContent root after = some content := by
  unfold identityContent at found ⊢
  cases entry : before.entries root identityStateFilename with
  | none =>
    rw [entry] at found
    cases found
  | some file =>
    obtain ⟨kept, same⟩ := persists.identity file entry
    rw [entry] at found
    rw [kept]
    exact same.trans found

theorem Persists.stores {record : IdentityRecord} (persists : Persists root before after)
    (stored : Stores lib root before record) : Stores lib root after record := by
  obtain ⟨content, found, encoded, parsed⟩ := stored
  exact ⟨content, persists.content found, encoded, parsed⟩

theorem stores_lasting (record : IdentityRecord) :
    Lasting (Persists root) fun world => Stores lib root world record :=
  fun _ _ persists stored => persists.stores stored

theorem Valid.identity_file {file : Nat} (valid : Valid lib root before)
    (found : before.entries root identityStateFilename = some file) :
    ∃ content, before.files file = some content := by
  obtain ⟨_, content, stored, _⟩ := valid.complete file found
  refine ⟨content, ?_⟩
  simpa [identityContent, found] using stored

/-- A step that persists and adds no observation keeps the invariant, when the
identity file was there or still is not. -/
theorem Valid.of_persists (valid : Valid lib root before) (persists : Persists root before after)
    (unlinked : ∀ file, after.entries root identityStateFilename = some file →
      before.entries root identityStateFilename = some file)
    (allocated : ∀ file process, after.creator file = some process → after.files file ≠ none)
    (hostnames : after.hostnames = before.hostnames)
    (returned : after.returned = before.returned) : Valid lib root after := by
  refine ⟨?_, allocated, ?_, ?_⟩
  · intro file found
    obtain ⟨record, stored⟩ := valid.complete file (unlinked file found)
    exact ⟨record, persists.stores stored⟩
  · intro name member
    rw [hostnames] at member
    obtain ⟨record, stored, named⟩ := valid.hostnames name member
    exact ⟨record, persists.stores stored, named⟩
  · intro identity member
    rw [returned] at member
    obtain ⟨record, stored, made⟩ := valid.returned identity member
    exact ⟨record, persists.stores stored, made⟩

/-- A step of a process that keeps the invariant and what the others rely on. -/
structure Sound (lib : Library) (root : String) (process : Process)
    (before after : World) : Prop where
  valid : Valid lib root after
  persists : Persists root before after
  owed : ∀ other, other ≠ process → Relies root other before after

theorem Unchanged.persists (valid : Valid lib root before)
    (unchanged : Unchanged root before after) : Persists root before after := by
  refine ⟨fun file found => ?_, unchanged.drawn⟩
  obtain ⟨content, stored⟩ := valid.identity_file found
  rw [unchanged.entries]
  exact ⟨found, (unchanged.files file content stored).trans stored.symm⟩

theorem Unchanged.relies (valid : Valid lib root before)
    (unchanged : Unchanged root before after) (process : Process) :
    Relies root process before after := by
  refine ⟨unchanged.persists valid, unchanged.created, ?_, ?_, ?_⟩
  · intro _ _
    rw [unchanged.entries]
  · intro file created
    cases content : before.files file with
    | none => exact absurd content (valid.allocated file process created)
    | some bytes => exact unchanged.files file bytes content
  · intro _ _ linked
    rw [unchanged.entries] at linked
    exact linked

theorem Unchanged.sound (valid : Valid lib root before)
    (unchanged : Unchanged root before after) (process : Process) :
    Sound lib root process before after := by
  refine ⟨?_, unchanged.persists valid, fun other _ => unchanged.relies valid other⟩
  refine valid.of_persists (unchanged.persists valid) ?_ ?_ unchanged.hostnames unchanged.returned
  · intro file found
    rw [unchanged.entries] at found
    exact found
  · intro file creator found
    rcases unchanged.allocated file creator found with earlier | present
    · intro missing
      cases content : before.files file with
      | none => exact valid.allocated file creator earlier content
      | some bytes =>
        rw [unchanged.files file bytes content] at missing
        cases missing
    · exact present

end Invariant

section Effects

variable {lib : Library} {root : String} {process : Process} {world after : World}

@[simp]
theorem enter_entries (world : World) (directory name : String) (file : Option Nat)
    (other : String) :
    (world.enter directory name file).entries other =
      if other = directory then Function.update (world.entries directory) name file
      else world.entries other := by
  unfold World.enter
  by_cases same : other = directory
  · subst same
    simp
  · simp [same]

variable {file : Option Nat}

theorem Unchanged.enter {directory name : String} (elsewhere : directory ≠ root) :
    Unchanged root world (world.enter directory name file) := by
  refine ⟨?_, fun _ _ found => found, fun _ _ found => found, fun _ _ found => .inl found,
    fun _ _ found => found, rfl, rfl⟩
  rw [enter_entries, if_neg (Ne.symm elsewhere)]

theorem Unchanged.trans {first second third : World} (left : Unchanged root first second)
    (right : Unchanged root second third) : Unchanged root first third := by
  refine ⟨right.entries.trans left.entries, ?_, ?_, ?_, ?_,
    right.hostnames.trans left.hostnames, right.returned.trans left.returned⟩
  · intro file content found
    exact right.files file content (left.files file content found)
  · intro file creator found
    exact right.created file creator (left.created file creator found)
  · intro file creator found
    rcases right.allocated file creator found with middle | present
    · rcases left.allocated file creator middle with first | present
      · exact .inl first
      · refine .inr fun missing => ?_
        cases content : second.files file with
        | none => exact present content
        | some bytes =>
          rw [right.files file bytes content] at missing
          cases missing
    · exact .inr present
  · intro value drawer found
    exact right.drawn value drawer (left.drawn value drawer found)

theorem Unchanged.create {directory name : String} {file : Nat}
    (valid : Valid lib root world) (elsewhere : directory ≠ root)
    (fresh : world.files file = none) :
    Unchanged root world (world.create process directory name file) := by
  refine ⟨?_, ?_, ?_, ?_, fun _ _ found => found, rfl, rfl⟩
  · exact (Unchanged.enter elsewhere).entries
  · intro other _ found
    have different : other ≠ file := by
      rintro rfl
      rw [fresh] at found
      cases found
    simpa [World.create, different] using found
  · intro other creator found
    have different : other ≠ file := by
      rintro rfl
      exact valid.allocated other creator found fresh
    simpa [World.create, different] using found
  · intro other _ found
    by_cases same : other = file
    · subst same
      exact .inr (by simp [World.create])
    · left
      simpa [World.create, same] using found

variable {value : Bytes}

theorem Unchanged.draw (fresh : world.drawn value = none) :
    Unchanged root world (world.draw process value) := by
  refine ⟨rfl, fun _ _ found => found, fun _ _ found => found, fun _ _ found => .inl found,
    ?_, rfl, rfl⟩
  intro other _ found
  have different : other ≠ value := by
    rintro rfl
    rw [fresh] at found
    cases found
  simpa [World.draw, different] using found

/-- What a process knows of a file it created and did not link. -/
structure Owns (root : String) (process : Process) (file : Nat) (world : World) : Prop where
  creator : world.creator file = some process
  unlinked : world.entries root identityStateFilename ≠ some file

/-- The names of other processes do not change with those of this one. -/
theorem entries_other_temporary {value other : Bytes} {owner : Process}
    (mine : world.drawn value = some process) (theirs : world.drawn other = some owner)
    (different : owner ≠ process) :
    (world.enter root (temporaryName value) file).entries root (temporaryName other) =
      world.entries root (temporaryName other) := by
  have values : temporaryName other ≠ temporaryName value := by
    intro equal
    rw [temporaryName_inj equal, mine] at theirs
    exact different (Option.some.inj theirs).symm
  simp [values]

theorem entries_identity_of_temporary :
    (world.enter root (temporaryName value) file).entries root identityStateFilename =
      world.entries root identityStateFilename := by
  simp [(temporaryName_ne_identity value).symm]

/-- Giving and taking away a temporary name of one's own. -/
theorem Sound.enter (valid : Valid lib root world) (mine : world.drawn value = some process) :
    Sound lib root process world (world.enter root (temporaryName value) file) := by
  have persists : Persists root world (world.enter root (temporaryName value) file) :=
    ⟨fun found linked => ⟨entries_identity_of_temporary.trans linked, rfl⟩, fun _ _ found => found⟩
  refine ⟨?_, persists, fun other different => ⟨persists, fun _ _ found => found, ?_,
    fun _ _ => rfl, ?_⟩⟩
  · refine valid.of_persists persists ?_ valid.allocated rfl rfl
    intro found linked
    exact entries_identity_of_temporary.symm.trans linked
  · intro _ drawn
    exact entries_other_temporary mine drawn different
  · intro _ _ linked
    exact entries_identity_of_temporary.symm.trans linked

theorem Sound.create {file : Nat} (valid : Valid lib root world)
    (mine : world.drawn value = some process) (fresh : world.files file = none) :
    Sound lib root process world (world.create process root (temporaryName value) file) := by
  have entered : Sound lib root process world
      (world.enter root (temporaryName value) (some file)) := Sound.enter valid mine
  have others : ∀ other creator, world.creator other = some creator → other ≠ file := by
    rintro other creator found rfl
    exact valid.allocated other creator found fresh
  have persists : Persists root world (world.create process root (temporaryName value) file) := by
    refine ⟨fun found linked => ⟨(entered.persists.identity found linked).1, ?_⟩,
      fun _ _ found => found⟩
    obtain ⟨_, stored⟩ := valid.identity_file linked
    have different : found ≠ file := by
      rintro rfl
      rw [fresh] at stored
      cases stored
    simp [World.create, different]
  refine ⟨?_, persists, fun other different => ⟨persists, ?_, ?_, ?_, ?_⟩⟩
  · refine valid.of_persists persists ?_ ?_ rfl rfl
    · intro found linked
      exact entries_identity_of_temporary.symm.trans linked
    · intro found creator made
      by_cases same : found = file
      · subst same
        simp [World.create]
      · have earlier : world.creator found = some creator := by
          simpa [World.create, same] using made
        simpa [World.create, same] using valid.allocated found creator earlier
  · intro found creator made
    simpa [World.create, others found creator made] using made
  · exact (entered.owed other different).temporaries
  · intro found made
    simp [World.create, others found other made]
  · exact (entered.owed other different).unlinked

theorem Sound.append {file : Nat} {content : Bytes} (valid : Valid lib root world)
    (owns : Owns root process file world) :
    Sound lib root process world (world.append file content) := by
  have persists : Persists root world (world.append file content) := by
    refine ⟨fun found linked => ⟨linked, ?_⟩, fun _ _ found => found⟩
    have different : found ≠ file := by
      rintro rfl
      exact owns.unlinked linked
    simp [World.append, different]
  refine ⟨?_, persists, fun other different => ⟨persists, fun _ _ found => found,
    fun _ _ => rfl, ?_, fun _ _ linked => linked⟩⟩
  · refine valid.of_persists persists (fun _ linked => linked) ?_ rfl rfl
    intro found creator made
    by_cases same : found = file
    · subst same
      simpa [World.append] using valid.allocated found creator made
    · simpa [World.append, same] using valid.allocated found creator made
  · intro found made
    have apart : found ≠ file := by
      rintro rfl
      rw [owns.creator] at made
      exact different (Option.some.inj made).symm
    simp [World.append, apart]

theorem Sound.link {file : Nat} {content : Bytes} {record : IdentityRecord}
    (valid : Valid lib root world) (owns : Owns root process file world)
    (absent : world.entries root identityStateFilename = none)
    (stored : world.files file = some content) (encoded : encodeRecord lib record = .ok content)
    (parsed : parseRecord lib content = .ok record) :
    Sound lib root process world (world.enter root identityStateFilename (some file)) ∧
      Stores lib root (world.enter root identityStateFilename (some file)) record := by
  have none_stored : ∀ other, ¬ Stores lib root world other := by
    rintro other ⟨_, found, _⟩
    rw [identityContent, absent] at found
    cases found
  have persists : Persists root world (world.enter root identityStateFilename (some file)) := by
    refine ⟨fun found linked => ?_, fun _ _ found => found⟩
    rw [absent] at linked
    cases linked
  have linked : (world.enter root identityStateFilename (some file)).entries root
      identityStateFilename = some file := by
    simp
  have stores : Stores lib root (world.enter root identityStateFilename (some file)) record := by
    refine ⟨content, ?_, encoded, parsed⟩
    rw [identityContent, linked]
    exact stored
  refine ⟨⟨⟨fun _ _ => ⟨record, stores⟩, valid.allocated, ?_, ?_⟩, persists, ?_⟩, stores⟩
  · intro name member
    obtain ⟨other, found, _⟩ := valid.hostnames name member
    exact absurd found (none_stored other)
  · intro identity member
    obtain ⟨other, found, _⟩ := valid.returned identity member
    exact absurd found (none_stored other)
  · intro _ different
    refine ⟨persists, fun _ _ found => found, ?_, fun _ _ => rfl, ?_⟩
    · intro value _
      simp [temporaryName_ne_identity value]
    · intro _ made same
      rw [linked] at same
      cases same
      rw [owns.creator] at made
      exact absurd (Option.some.inj made).symm different

/-- A note about the stored record. -/
theorem Sound.note {noted : World} (valid : Valid lib root noted)
    (entries : noted.entries = world.entries) (files : noted.files = world.files)
    (creator : noted.creator = world.creator) (drawn : noted.drawn = world.drawn) :
    Sound lib root process world noted := by
  have relies : ∀ other, Relies root other world noted := by
    intro other
    refine ⟨⟨?_, ?_⟩, ?_, ?_, ?_, ?_⟩ <;> simp_all
  exact ⟨valid, (relies process).persists, fun other _ => relies other⟩

end Effects

section Answers

variable {lib : Library} {root : String} {process : Process} {world after : World}

/-- The requests that do nothing in the state root and to no file that exists. -/
def Harmless (root : String) : Request → Prop
  | .createExclusive directory _ => directory ≠ root
  | .openOrCreate directory _ => directory ≠ root
  | .link directory _ _ => directory ≠ root
  | .rename directory _ _ => directory ≠ root
  | .remove directory _ => directory ≠ root
  | .write _ _ => False
  | .setHostname _ => False
  | .returned _ => False
  | _ => True

theorem Unchanged.of_answer {random : Randomness} (never : NeverRepeats random)
    (valid : Valid lib root world) (request : Request) {reply : Reply request}
    (harmless : Harmless root request)
    (answered : answer random process world request reply after) : Unchanged root world after := by
  cases request with
  | random =>
    rcases answered with ⟨_, _, rfl⟩ | ⟨value, _, _, given, rfl⟩
    · exact .refl root after
    · exact .draw (not_not.mp (never _ value given))
  | createExclusive =>
    rcases answered with ⟨_, _, rfl⟩ | ⟨file, _, _, fresh, rfl⟩
    · exact .refl root after
    · exact .create valid harmless fresh
  | openOrCreate =>
    rcases answered with ⟨_, rfl⟩ | ⟨file, _, _, fresh, rfl⟩
    · exact .refl root after
    · exact .create valid harmless fresh
  | link =>
    rcases answered with ⟨_, _, rfl⟩ | ⟨file, _, _, _, rfl⟩
    · exact .refl root after
    · exact .enter harmless
  | rename =>
    rcases answered with ⟨_, _, rfl⟩ | ⟨file, _, _, rfl⟩
    · exact .refl root after
    · exact .trans (.enter harmless) (.enter harmless)
  | remove =>
    rcases answered with ⟨_, _, rfl⟩ | ⟨_, rfl⟩
    · exact .refl root after
    · exact .enter harmless
  | write | setHostname | returned => exact harmless.elim
  | openFile =>
    obtain ⟨rfl, _⟩ := answered
    exact .refl root after
  | stat =>
    obtain ⟨rfl, _⟩ := answered
    exact .refl root after
  | read =>
    obtain ⟨rfl, _⟩ := answered
    exact .refl root after
  | _ =>
    cases answered
    exact .refl root _

end Answers

end Sovereignite.Libp2p
