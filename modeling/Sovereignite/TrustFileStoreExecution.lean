import Sovereignite.TrustExecution
import Sovereignite.TrustFileStoreImages

/-!
# Executing the file store

A file system on which every operation succeeds, except that directory syncs
may be without effect and report it, answers the calls of a store.
-/

namespace Sovereignite.Trust.FileStore

open Effect

def respond (synced : Bool) : Responder signature World
  | world, .acquireLock => some (.ok (), world)
  | world, .releaseLock => some ((), world)
  | world, .readState => some (.ok world.disk.visible.state, world)
  | world, .readAnchor => some (.ok world.disk.visible.anchor, world)
  | world, .alter alteration =>
    match alteration, synced with
    | .syncDirectory, false => some (.error "input/output error", world)
    | alteration, _ => some (.ok (), world.alter alteration)
  | world, .commitStarts current next => some ((), world.start current next)
  | world, .loaded outcome =>
    some ((), world.learn (.loaded outcome world.before world.after))
  | world, .committed next => some ((), world.learn (.committed next))

theorem diskAnswer_of_respond {synced : Bool} {world after : World} {request : Request}
    {reply : Reply request} (responded : respond synced world request = some (reply, after)) :
    diskAnswer world request reply after := by
  cases request with
  | readState | readAnchor =>
    cases responded
    refine ⟨rfl, ?_⟩
    rintro _ ⟨⟩
    rfl
  | alter =>
    simp only [respond] at responded
    split at responded
    · cases responded
      exact .inl ⟨nofun, rfl⟩
    · cases responded
      exact .inr ⟨.inl rfl, rfl⟩
  | _ =>
    cases responded
    rfl

def execute (synced : Bool) (call : Storing Unit) (world : World) : World :=
  (call.advance (respond synced) 1000 world).1

variable {env : Platform} {codec : Codec} {condition : World → Prop} {tampering : Bool}
variable {world : World}

theorem leaves_execute (synced : Bool) (call : Storing Unit) (world : World) :
    call.Leaves (runRules env codec condition tampering).answer world
      (execute synced call world) := by
  have answers : (runRules env codec condition tampering).Answers (respond synced) id :=
    fun _ _ _ _ responded => ⟨_, .refl, diskAnswer_of_respond responded⟩
  exact SequenceRules.leaves_advance answers 1000 world call

theorem reachable_load (synced : Bool)
    (reached : (runRules env codec condition tampering).Reachable initialWorld world)
    (met : condition world) :
    (runRules env codec condition tampering).Reachable initialWorld
      (execute synced (loadCall env codec) world) :=
  .operated _ reached ⟨met, .inl rfl⟩ (leaves_execute synced _ world)

theorem reachable_commit (synced : Bool) (expectedRevision : UInt64) {next : Snapshot}
    (canonical : Canonical next)
    (reached : (runRules env codec condition tampering).Reachable initialWorld world)
    (met : condition world) :
    (runRules env codec condition tampering).Reachable initialWorld
      (execute synced (commitCall env codec expectedRevision next) world) :=
  .operated _ reached ⟨met, .inr ⟨expectedRevision, next, canonical, rfl⟩⟩
    (leaves_execute synced _ world)

section SampleStore

/-- The sample libraries with digests of the usual length. -/
def samplePlatform : Platform :=
  { Trust.samplePlatform [] with
    sha256 := fun input => (input ++ List.replicate 32 0).take 32 }

theorem samplePlatform_length (input : Bytes) : (samplePlatform.sha256 input).length = 32 := by
  simp [samplePlatform]

/-- The snapshots of a device to which nothing happens. -/
def sampleSnapshot (revision : UInt64) : Snapshot :=
  { emptySnapshot with revision, identity := sampleIdentity }

theorem sampleSnapshot_canonical (revision : UInt64) : Canonical (sampleSnapshot revision) :=
  ⟨.nil, .nil, .nil, .nil, .nil, .nil, .nil, .nil, .nil, .nil⟩

def isSample (snapshot : Snapshot) : Bool :=
  snapshot.version == stateVersion && snapshot.identity == sampleIdentity &&
    isPristine { snapshot with identity := {} }

theorem size_eq_zero_iff {Value : Type} {entries : StringMap Value} :
    entries.size = 0 ↔ entries = ∅ := by
  constructor
  · intro none
    exact AList.ext (List.eq_nil_of_length_eq_zero none)
  · rintro rfl
    rfl

theorem eq_sampleSnapshot {snapshot : Snapshot} (sample : isSample snapshot = true) :
    snapshot = sampleSnapshot snapshot.revision := by
  simp only [isSample, isPristine, Bool.and_eq_true] at sample
  cases snapshot
  simp_all [sampleSnapshot, emptySnapshot, size_eq_zero_iff]

def plainBytes (text : List Char) : Bytes :=
  text.map fun character => UInt8.ofNat character.toNat

def plainText (bytes : Bytes) : List Char :=
  bytes.map fun byte => Char.ofNat byte.toNat

theorem plainText_plainBytes {text : List Char}
    (plain : ∀ character ∈ text, character.toNat < 256) : plainText (plainBytes text) = text := by
  induction text with
  | nil => rfl
  | cons character _ ih =>
    have small := plain character List.mem_cons_self
    have others := ih fun other member => plain other (List.mem_cons_of_mem _ member)
    simp only [plainText, plainBytes, List.map_cons, List.map_map] at others ⊢
    rw [others]
    simp [Nat.mod_eq_of_lt small]

/-- A codec for these snapshots and all anchors: the digest of an anchor and then
the revision in decimal notation. -/
def sampleCodec : Codec where
  marshalSnapshot snapshot :=
    if isSample snapshot then .ok (plainBytes (Nat.repr snapshot.revision.toNat).toList)
    else .error "unknown snapshot"
  decodeSnapshot encoded :=
    match decimalDigits (plainText encoded.dropLast) with
    | none => .error "unknown file"
    | some revision => .ok (sampleSnapshot (UInt64.ofNat revision), .endOfInput)
  marshalAnchor anchor :=
    if wellFormed anchor then
      .ok (plainBytes (anchor.stateSHA256.toList ++ (Nat.repr anchor.revision.toNat).toList))
    else
      .error "malformed anchor"
  decodeAnchor encoded :=
    let text := plainText encoded.dropLast
    let digits := if text.length < 64 then text else text.drop 64
    match decimalDigits digits with
    | none => .error "malformed anchor"
    | some revision => .ok
        (⟨anchorVersion, UInt64.ofNat revision,
          String.ofList (if text.length < 64 then [] else text.take 64)⟩, .endOfInput)

theorem toNat_lt_of_isDigit {character : Char} (digit : character.isDigit = true) :
    character.toNat < 256 := by
  simp only [Char.isDigit, Bool.and_eq_true, decide_eq_true_eq] at digit
  have bound : character.toNat ≤ 57 := digit.2
  omega

theorem plain_of_pattern {text : String} (pattern : certificateIDPattern text = true) :
    text.toList.length = 64 ∧ ∀ character ∈ text.toList, character.toNat < 256 := by
  simp only [certificateIDPattern, matchesClass, Bool.and_eq_true, decide_eq_true_eq,
    List.all_eq_true, Bool.or_eq_true] at pattern
  obtain ⟨⟨least, most⟩, allowed⟩ := pattern
  rw [← String.length_toList] at least most
  refine ⟨by omega, fun character member => ?_⟩
  rcases allowed character member with digit | ⟨_, letter⟩
  · exact toNat_lt_of_isDigit digit
  · have bound : character.toNat ≤ 102 := letter
    omega

theorem sampleCodec_decodeAnchor {anchor : RevisionAnchor} (formed : wellFormed anchor = true) :
    sampleCodec.decodeAnchor
        (plainBytes (anchor.stateSHA256.toList ++ (Nat.repr anchor.revision.toNat).toList) ++
          [10]) = .ok (anchor, .endOfInput) := by
  by_cases zero : anchor.revision = 0
  · rw [eq_zeroAnchor formed zero]
    rfl
  · obtain ⟨version, _, pattern⟩ := wellFormed_iff.mp formed
    have digest : certificateIDPattern anchor.stateSHA256 = true := by simpa [zero] using pattern
    obtain ⟨length, plain⟩ := plain_of_pattern digest
    rw [Nat.toList_repr]
    have text : plainText
        (plainBytes (anchor.stateSHA256.toList ++ Nat.toDigits 10 anchor.revision.toNat)) =
        anchor.stateSHA256.toList ++ Nat.toDigits 10 anchor.revision.toNat := by
      apply plainText_plainBytes
      intro character member
      rcases List.mem_append.mp member with digit | number
      · exact plain character digit
      · exact toNat_lt_of_isDigit (Nat.isDigit_of_mem_toDigits (by decide) (by decide) number)
    have whole : ¬ (anchor.stateSHA256.toList ++
        Nat.toDigits 10 anchor.revision.toNat).length < 64 := by
      simp only [List.length_append, length]
      omega
    have same : anchor.version = anchorVersion := by simpa using version
    simp only [sampleCodec, List.dropLast_concat, text, whole, if_false,
      List.drop_left' length, List.take_left' length, decimalDigits_toDigits]
    simp [← same]

theorem sampleCodec_lawful : sampleCodec.Lawful where
  snapshot := by
    intro snapshot marshaled _ marshals
    simp only [sampleCodec] at marshals
    split at marshals
    · next sample =>
        cases marshals
        have text : plainText (plainBytes (Nat.toDigits 10 snapshot.revision.toNat)) =
            Nat.toDigits 10 snapshot.revision.toNat :=
          plainText_plainBytes fun character member => toNat_lt_of_isDigit
            (Nat.isDigit_of_mem_toDigits (by decide) (by decide) member)
        rw [Nat.toList_repr]
        simp only [sampleCodec, List.dropLast_concat, text, decimalDigits_toDigits]
        rw [UInt64.ofNat_toNat, ← eq_sampleSnapshot sample]
    · cases marshals
  anchor := by
    intro anchor _ marshals
    simp only [sampleCodec] at marshals
    split at marshals
    · next formed =>
        cases marshals
        exact sampleCodec_decodeAnchor formed
    · cases marshals
  short := by
    intro anchor formed
    refine ⟨_, by simp only [sampleCodec, formed, if_true]; rfl, ?_⟩
    have number : (Nat.repr anchor.revision.toNat).toList.length ≤ 20 := by
      rw [String.length_toList]
      exact Nat.repr_length _ _ (by decide) (by have := anchor.revision.toNat_lt; omega)
    have digest : anchor.stateSHA256.toList.length ≤ 64 := by
      by_cases zero : anchor.revision = 0
      · rw [eq_zeroAnchor formed zero]
        decide
      · obtain ⟨_, _, pattern⟩ := wellFormed_iff.mp formed
        exact (plain_of_pattern (by simpa [zero] using pattern)).1.le
    simp only [plainBytes, List.length_map, List.length_append, maximumAnchorBytes]
    omega

end SampleStore

end Sovereignite.Trust.FileStore
