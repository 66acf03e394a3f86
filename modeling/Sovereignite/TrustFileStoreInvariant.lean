import Sovereignite.DigestEncoding
import Sovereignite.TrustFileStoreImages

/-!
# The invariant of the file store

Callers hold the store to what they learned.  The anchor of every pair of files
that a power loss may bring back is at or above each learned revision, and at
the same revision it has the digest of the learned content.  That part of the
invariant speaks of anchors only, so an adversary who leaves the anchor alone
cannot break it.  The other part is about runs without an adversary: every pair
recovers the snapshot before or after the last commit.
-/

namespace Sovereignite.Trust.FileStore

open Effect

section Invariant

variable (env : Platform) (codec : Codec)

/-- The anchor is at or above a revision, with the digest of a content at the
revision itself. -/
def AtLeast (disk : Disk) (revision : UInt64) (encoded : Bytes) : Prop :=
  ∃ anchor, AnchorAt codec disk anchor ∧
    (revision < anchor.revision ∨
      revision = anchor.revision ∧ anchor.stateSHA256 = stateDigest env encoded)

/-- No power loss brings an anchor below a learned snapshot back. -/
def Guarded (world : World) (snapshot : Snapshot) : Prop :=
  snapshot = emptySnapshot ∨
    ∃ encoded ∈ world.contents, parseState env codec encoded = .ok snapshot ∧
      world.disk.Always fun disk => AtLeast env codec disk snapshot.revision encoded

/-- The part of the invariant that an adversary cannot break. -/
structure Anchored (world : World) : Prop where
  contents : ∀ encoded ∈ world.contents, ∃ snapshot,
    parseState env codec encoded = .ok snapshot ∧ snapshot.revision ≠ 0
  stored : world.disk.Always fun disk =>
    ∀ encoded, disk.state = some encoded → encoded ∈ world.contents
  guarded : ∀ observation ∈ world.observed, ∀ snapshot, observation.seen = some snapshot →
    Guarded env codec world snapshot
  ordered : CollisionFree env world → NeverRegresses world

/-- The part of the invariant that holds without an adversary. -/
structure Steady (world : World) : Prop where
  recovers : world.disk.Always fun disk =>
    Recovers env codec disk world.before ∨ Recovers env codec disk world.after
  chain : world.disk.restorable.Pairwise fun newer older =>
    Recovers env codec newer world.before → Recovers env codec older world.before
  advance : world.after = world.before ∨
    world.before.revision ≠ maxUint64 ∧ world.after.revision = world.before.revision + 1
  returned : ∀ observation ∈ world.observed, ReturnsCommitted observation

/-- The invariant of the runs. -/
structure Sound (tampering : Bool) (world : World) : Prop where
  anchored : Anchored env codec world
  steady : tampering = false → Steady env codec world

end Invariant

variable {env : Platform} {codec : Codec} {tampering : Bool} {world after : World}

section AnchoredSteps

/-- An anchor that may stand where another one stood. -/
def Supersedes (codec : Codec) (before after : Disk) : Prop :=
  after.anchor = before.anchor ∨
    ∃ anchor, AnchorAt codec after anchor ∧
      (before.anchor = none ∨
        ∃ existing, AnchorAt codec before existing ∧ ¬ anchor.revision < existing.revision ∧
          (anchor.revision = existing.revision → anchor.stateSHA256 = existing.stateSHA256))

variable {encoded : Bytes}

theorem AtLeast.supersedes {before after : Disk} {revision : UInt64}
    (atLeast : AtLeast env codec before revision encoded)
    (supersedes : Supersedes codec before after) :
    AtLeast env codec after revision encoded := by
  obtain ⟨anchor, anchored, bound⟩ := atLeast
  rcases supersedes with same | ⟨next, placed, bare | ⟨existing, found, notBelow, digest⟩⟩
  · exact ⟨anchor, anchored.congr same, bound⟩
  · exact absurd bare anchored.present
  · rcases anchored.unique found with rfl
    refine ⟨next, placed, ?_⟩
    simp only [UInt64.lt_iff_toNat_lt, ← UInt64.toNat_inj] at *
    rcases bound with above | ⟨level, content⟩
    · left
      omega
    · by_cases same : next.revision.toNat = anchor.revision.toNat
      · exact .inr ⟨by omega, (digest same).trans content⟩
      · left
        omega

/-- A step of the disk after which every anchor supersedes one from before. -/
structure DiskStep (codec : Codec) (world after : World) : Prop where
  observed : after.observed = world.observed
  contents : world.contents ⊆ after.contents
  stored : after.disk.Always fun disk =>
    ∀ encoded, disk.state = some encoded → encoded ∈ after.contents
  supersedes : after.disk.Always fun disk =>
    ∃ older ∈ world.disk.restorable, Supersedes codec older disk

variable (anchored : Anchored env codec world)
include anchored

theorem Anchored.step (step : DiskStep codec world after)
    (added : ∀ encoded ∈ after.contents, encoded ∉ world.contents → ∃ snapshot,
      parseState env codec encoded = .ok snapshot ∧ snapshot.revision ≠ 0) :
    Anchored env codec after where
  contents := by
    intro encoded member
    by_cases old : encoded ∈ world.contents
    · exact anchored.contents encoded old
    · exact added encoded member old
  stored := step.stored
  guarded := by
    intro observation member snapshot seen
    rw [step.observed] at member
    rcases anchored.guarded observation member snapshot seen with
      empty | ⟨encoded, known, parsed, always⟩
    · exact .inl empty
    · refine .inr ⟨encoded, step.contents known, parsed, ?_⟩
      intro disk restorable
      obtain ⟨older, present, supersedes⟩ := step.supersedes disk restorable
      exact (always older present).supersedes supersedes
  ordered := by
    intro collisionFree
    have before : CollisionFree env world := by
      intro first firstKnown second secondKnown
      exact collisionFree first (step.contents firstKnown) second (step.contents secondKnown)
    have ordered := anchored.ordered before
    unfold NeverRegresses at ordered ⊢
    rw [step.observed]
    exact ordered

/-- A step of the disk that adds no content and leaves anchors as they are. -/
theorem Anchored.restored
    (observed : after.observed = world.observed) (contents : after.contents = world.contents)
    (images : after.disk.Always fun disk =>
      (∀ encoded, disk.state = some encoded → encoded ∈ world.contents) ∧
        ∃ older ∈ world.disk.restorable, disk.anchor = older.anchor) :
    Anchored env codec after := by
  apply anchored.step
  · refine ⟨observed, by simp [contents], ?_, ?_⟩
    · intro disk restorable encoded found
      rw [contents]
      exact (images disk restorable).1 encoded found
    · intro disk restorable
      obtain ⟨older, present, same⟩ := (images disk restorable).2
      exact ⟨older, present, .inl same⟩
  · intro _ member missing
    rw [contents] at member
    exact absurd member missing

theorem Anchored.powerLoss (lost : PowerLoss world after) : Anchored env codec after := by
  obtain ⟨suffix, same⟩ := lost
  refine anchored.restored (by rw [same]) (by rw [same]) ?_
  intro disk restorable
  have member := suffix.subset restorable
  exact ⟨anchored.stored disk member, disk, member, rfl⟩

theorem Anchored.sync : Anchored env codec world.sync := by
  refine anchored.restored rfl rfl ?_
  intro _ restorable
  rcases List.mem_singleton.mp restorable with rfl
  exact ⟨anchored.stored.visible, _, List.mem_cons_self, rfl⟩

theorem Anchored.tampered (tampered : Tampered world after) : Anchored env codec after := by
  obtain ⟨_, _, earlier, rfl⟩ := tampered
  refine anchored.restored rfl rfl ?_
  apply RecoverableCell.Always.write
  · intro disk restorable
    exact ⟨anchored.stored disk restorable, disk, restorable, rfl⟩
  · exact ⟨earlier, _, List.mem_cons_self, rfl⟩

theorem Anchored.replaceState {next : Snapshot}
    (parsed : parseState env codec encoded = .ok next) (nonzero : next.revision ≠ 0) :
    Anchored env codec (world.replaceState encoded) := by
  apply anchored.step
  · refine ⟨rfl, List.subset_cons_self _ _, ?_, ?_⟩
    · apply RecoverableCell.Always.write
      · intro disk restorable content found
        exact List.mem_cons_of_mem _ (anchored.stored disk restorable content found)
      · rintro content ⟨⟩
        exact List.mem_cons_self
    · apply RecoverableCell.Always.write
      · intro disk restorable
        exact ⟨disk, restorable, .inl rfl⟩
      · exact ⟨_, List.mem_cons_self, .inl rfl⟩
  · intro _ member missing
    rcases List.mem_cons.mp member with rfl | old
    · exact ⟨next, parsed, nonzero⟩
    · exact absurd old missing

theorem Anchored.replaceAnchor
    (supersedes : Supersedes codec world.disk.visible
      { world.disk.visible with anchor := some encoded }) :
    Anchored env codec (world.replaceAnchor encoded) := by
  apply anchored.step
  · refine ⟨rfl, List.Subset.refl _, ?_, ?_⟩
    · apply RecoverableCell.Always.write anchored.stored
      exact anchored.stored.visible
    · apply RecoverableCell.Always.write
      · intro disk restorable
        exact ⟨disk, restorable, .inl rfl⟩
      · exact ⟨_, List.mem_cons_self, supersedes⟩
  · intro _ member missing
    exact absurd member missing

theorem Anchored.start (current next : Snapshot) : Anchored env codec (world.start current next) :=
  ⟨anchored.contents, anchored.stored, anchored.guarded, anchored.ordered⟩

end AnchoredSteps

section Learning

variable (env codec) in
/-- What a caller may be told about a snapshot: the anchor in place is that of
the snapshot, and no power loss brings another one back. -/
def Returned (snapshot : Snapshot) (world : World) : Prop :=
  snapshot = emptySnapshot ∧ AnchorAt codec world.disk.visible zeroAnchor ∨
    ∃ encoded ∈ world.contents, ∃ anchor, parseState env codec encoded = .ok snapshot ∧
      AnchorAt codec world.disk.visible anchor ∧ anchor.revision = snapshot.revision ∧
      anchor.stateSHA256 = stateDigest env encoded ∧
      world.disk.Always fun disk => disk.anchor = world.disk.visible.anchor

theorem Returned.guarded {snapshot : Snapshot} (returned : Returned env codec snapshot world) :
    Guarded env codec world snapshot := by
  rcases returned with
    ⟨empty, _⟩ | ⟨encoded, known, anchor, parsed, placed, revision, digest, covered⟩
  · exact .inl empty
  · refine .inr ⟨encoded, known, parsed, ?_⟩
    intro disk restorable
    exact ⟨anchor, placed.congr (covered disk restorable), .inr ⟨revision.symm, digest⟩⟩

theorem stateDigest_inj {first second : Bytes}
    (same : stateDigest env first = stateDigest env second) :
    env.sha256 first = env.sha256 second :=
  encodeToString_injective same

theorem Returned.notBehind (anchored : Anchored env codec world)
    (collisionFree : CollisionFree env world) {snapshot seen : Snapshot}
    (returned : Returned env codec snapshot world)
    (guarded : Guarded env codec world seen) :
    ¬ snapshot.revision < seen.revision ∧
      (snapshot.revision = seen.revision → snapshot = seen) := by
  rcases guarded with rfl | ⟨content, known, parsed, always⟩
  · refine ⟨by simp [emptySnapshot], ?_⟩
    intro zero
    rcases returned with ⟨empty, _⟩ | ⟨encoded, stored, _, found, _⟩
    · exact empty
    · obtain ⟨other, otherParsed, nonzero⟩ := anchored.contents encoded stored
      rw [found] at otherParsed
      cases otherParsed
      exact absurd zero nonzero
  · obtain ⟨_, placed, bound⟩ := always.visible
    rcases returned with ⟨rfl, zero⟩ | ⟨encoded, stored, other, found, otherPlaced, revision,
      digest, _⟩
    · obtain ⟨_, otherParsed, nonzero⟩ := anchored.contents content known
      rw [parsed] at otherParsed
      cases otherParsed
      rw [placed.unique zero] at bound
      rcases bound with above | ⟨level, _⟩
      · exact absurd above (by simp [zeroAnchor])
      · exact absurd level nonzero
    · rcases placed.unique otherPlaced with rfl
      simp only [UInt64.lt_iff_toNat_lt, ← UInt64.toNat_inj] at *
      refine ⟨by omega, fun same => ?_⟩
      rcases bound with above | ⟨_, contentDigest⟩
      · omega
      · have equal : encoded = content := collisionFree encoded stored content known
            (stateDigest_inj (digest.symm.trans contentDigest))
        rw [equal, parsed] at found
        cases found
        rfl

theorem Anchored.learn (anchored : Anchored env codec world) {observation : Observation}
    (returned : ∀ snapshot, observation.seen = some snapshot → Returned env codec snapshot world) :
    Anchored env codec (world.learn observation) where
  contents := anchored.contents
  stored := anchored.stored
  guarded := by
    intro known member snapshot seen
    rcases List.mem_cons.mp member with rfl | old
    · exact (returned snapshot seen).guarded
    · exact anchored.guarded known old snapshot seen
  ordered := by
    intro collisionFree
    apply List.Pairwise.cons _ (anchored.ordered collisionFree)
    rintro earlier member _ _ _ loaded seen rfl rfl found
    exact (returned loaded rfl).notBehind anchored collisionFree
      (anchored.guarded earlier member seen found)

end Learning

section SteadySteps

/-- Every pair of files that may come back recovers the snapshot. -/
def AllRecover (env : Platform) (codec : Codec) (snapshot : Snapshot) (world : World) :
    Prop :=
  world.disk.Always fun disk => Recovers env codec disk snapshot

variable (steady : Steady env codec world)
include steady

theorem Steady.restrict (suffix : world.disk.PowerLoss after.disk)
    (same : after = { world with disk := after.disk }) : Steady env codec after := by
  rw [same]
  exact ⟨steady.recovers.powerLoss suffix, steady.chain.sublist suffix.sublist, steady.advance,
    steady.returned⟩

theorem Steady.sync : Steady env codec world.sync :=
  ⟨RecoverableCell.always_of_settled rfl steady.recovers.visible, List.pairwise_singleton _ _,
    steady.advance, steady.returned⟩

/-- A rename keeps the invariant when the new pair is before the last commit
only if all others are. -/
theorem Steady.rename {disk : Disk} {contents : List Bytes}
    (recovers : Recovers env codec disk world.before ∨ Recovers env codec disk world.after)
    (oldest : Recovers env codec disk world.before → AllRecover env codec world.before world) :
    Steady env codec { world with disk := world.disk.write disk false, contents := contents } where
  recovers := steady.recovers.write recovers false
  chain := by
    apply List.Pairwise.cons _ steady.chain
    intro older member before
    exact oldest before older member
  advance := steady.advance
  returned := steady.returned

theorem Steady.visible : ∃ snapshot, Recovers env codec world.disk.visible snapshot := by
  rcases steady.recovers.visible with before | after
  · exact ⟨_, before⟩
  · exact ⟨_, after⟩

theorem Steady.allRecover_before (visible : Recovers env codec world.disk.visible world.before) :
    AllRecover env codec world.before world := by
  intro _ member
  rcases List.mem_cons.mp member with rfl | older
  · exact visible
  · exact List.rel_of_pairwise_cons steady.chain older visible

theorem Steady.revision_ne (different : world.after ≠ world.before) :
    world.before.revision ≠ maxUint64 ∧ world.after.revision = world.before.revision + 1 := by
  rcases steady.advance with same | advanced
  · exact absurd same different
  · exact advanced

theorem Steady.allRecover_covered {snapshot : Snapshot}
    {anchor : RevisionAnchor} (visible : Recovers env codec world.disk.visible snapshot)
    (placed : AnchorAt codec world.disk.visible anchor)
    (revision : anchor.revision = snapshot.revision)
    (covered : world.disk.Always fun disk => disk.anchor = world.disk.visible.anchor) :
    AllRecover env codec snapshot world := by
  rcases steady.recovers.visible with before | after
  · rcases visible.unique before with rfl
    exact steady.allRecover_before visible
  · rcases visible.unique after with rfl
    by_cases same : world.after = world.before
    · rw [same] at visible ⊢
      exact steady.allRecover_before visible
    · obtain ⟨room, successor⟩ := steady.revision_ne same
      intro disk member
      rcases steady.recovers disk member with old | new
      · exfalso
        have anchored := placed.congr (covered disk member)
        have value := toNat_succ room
        rw [← successor, ← revision] at value
        rcases old.revision anchored with level | ⟨space, next⟩
        · rw [level] at value
          omega
        · have above := toNat_succ space
          rw [← next] at above
          omega
      · exact new

theorem Steady.allRecover_empty (visible : Recovers env codec world.disk.visible emptySnapshot) :
    AllRecover env codec emptySnapshot world := by
  rcases steady.recovers.visible with before | after
  · have equal := visible.unique before
    rw [equal] at visible ⊢
    exact steady.allRecover_before visible
  · have equal := visible.unique after
    by_cases same : world.after = world.before
    · rw [equal, same] at visible ⊢
      exact steady.allRecover_before visible
    · obtain ⟨room, successor⟩ := steady.revision_ne same
      have zero : world.after.revision = 0 := by rw [← equal]; rfl
      rw [successor] at zero
      exact absurd zero (successor_facts room).1

theorem Steady.start {current next : Snapshot}
    (all : AllRecover env codec current world) (room : current.revision ≠ maxUint64)
    (successor : next.revision = current.revision + 1) :
    Steady env codec (world.start current next) where
  recovers := fun disk member => .inl (all disk member)
  chain := by
    apply List.pairwise_of_forall_mem_list
    intro _ _ older member _
    exact all older member
  advance := .inr ⟨room, successor⟩
  returned := steady.returned

theorem Steady.learn {observation : Observation} (returned : ReturnsCommitted observation)
    (all : ∀ snapshot, observation.seen = some snapshot → AllRecover env codec snapshot world) :
    Steady env codec (world.learn observation) := by
  have observed : ∀ known ∈ observation :: world.observed, ReturnsCommitted known := by
    intro known member
    rcases List.mem_cons.mp member with rfl | old
    · exact returned
    · exact steady.returned known old
  cases seen : observation.seen with
  | none =>
    refine ⟨?_, ?_, ?_, observed⟩
    · simpa [World.learn, seen] using steady.recovers
    · simpa [World.learn, seen] using steady.chain
    · simpa [World.learn, seen] using steady.advance
  | some snapshot =>
    have settled := all snapshot seen
    refine ⟨?_, ?_, ?_, observed⟩
    · intro disk member
      left
      simpa [World.learn, seen] using settled disk member
    · apply List.pairwise_of_forall_mem_list
      intro _ _ older member _
      simpa [World.learn, seen] using settled older member
    · simp [World.learn, seen]

theorem Steady.returnsCommitted {outcome : Except Error Snapshot}
    (value : ∀ snapshot, outcome = .ok snapshot → AllRecover env codec snapshot world)
    (failure : ∀ error, outcome = .error error → error.is .stateRollback = false) :
    ReturnsCommitted (.loaded outcome world.before world.after) := by
  refine ⟨?_, failure⟩
  intro snapshot ended
  have recovered := (value snapshot ended).visible
  rcases steady.recovers.visible with before | after
  · exact .inl (recovered.unique before)
  · exact .inr (recovered.unique after)

end SteadySteps

end Sovereignite.Trust.FileStore
