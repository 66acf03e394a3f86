import Sovereignite.TrustFileStoreRuns

/-!
# What the files of the store hold

A pair of files recovers a snapshot when a load that meets no failure returns
it.  The invariant of the runs says which snapshots the pairs that a power loss
may bring back recover, and how their anchors stand to what callers learned.
-/

namespace Sovereignite.Trust.FileStore

open Effect

/-- What is used of the JSON codec: a file that was written is read back, with
the entries of its maps listed by key, and anchors have short encodings. -/
structure Codec.Lawful (codec : Codec) : Prop where
  snapshot : ∀ snapshot marshaled, Canonical snapshot →
    codec.marshalSnapshot snapshot = .ok marshaled →
    codec.decodeSnapshot (marshaled ++ [10]) = .ok (snapshot, .endOfInput)
  anchor : ∀ anchor marshaled, codec.marshalAnchor anchor = .ok marshaled →
    codec.decodeAnchor (marshaled ++ [10]) = .ok (anchor, .endOfInput)
  short : ∀ anchor, wellFormed anchor = true →
    ∃ marshaled, codec.marshalAnchor anchor = .ok marshaled ∧ marshaled.length < maximumAnchorBytes

variable {anchor : RevisionAnchor} {encoded : Bytes}

section Files

variable {env : Platform} {codec : Codec}

theorem encodeState_spec {next : Snapshot} (encodes : encodeState codec next = .ok encoded) :
    ∃ marshaled, codec.marshalSnapshot next = .ok marshaled ∧
      encoded = marshaled ++ [10] ∧ encoded.length ≤ maximumStateBytes := by
  simp only [encodeState, bind_eq_ok, mapError_eq_ok, reject_eq_ok] at encodes
  obtain ⟨marshaled, marshals, _, fits, equal⟩ := encodes
  cases equal
  exact ⟨marshaled, marshals, rfl, by simpa using fits⟩

theorem parseState_encodeState (lawful : codec.Lawful) {next : Snapshot}
    (canonical : Canonical next) (valid : validateSnapshot env next = .ok ())
    (encodes : encodeState codec next = .ok encoded) :
    parseState env codec encoded = .ok next := by
  obtain ⟨marshaled, marshals, rfl, fits⟩ := encodeState_spec encodes
  have decoded := lawful.snapshot next marshaled canonical marshals
  simp only [parseState, bind_eq_ok, reject_eq_ok]
  refine ⟨(), ?_, next, ?_, (), valid, rfl⟩
  · simp at fits ⊢
    omega
  · simp [soleValue, decoded]

theorem encodeAnchor_spec (encodes : encodeAnchor codec anchor = .ok encoded) :
    ∃ marshaled, codec.marshalAnchor anchor = .ok marshaled ∧
      encoded = marshaled ++ [10] ∧ encoded.length ≤ maximumAnchorBytes := by
  simp only [encodeAnchor, bind_eq_ok, mapError_eq_ok, reject_eq_ok] at encodes
  obtain ⟨marshaled, marshals, _, fits, equal⟩ := encodes
  cases equal
  exact ⟨marshaled, marshals, rfl, by simpa using fits⟩

theorem wellFormed_iff :
    wellFormed anchor = true ↔ (anchor.version != anchorVersion) = false ∧
      (anchor.revision == 0 && anchor.stateSHA256 != "") = false ∧
      (anchor.revision != 0 && !certificateIDPattern anchor.stateSHA256) = false := by
  simp only [wellFormed, Bool.and_eq_true, Bool.not_eq_true', beq_iff_eq,
    bne_eq_false_iff_eq, and_assoc]

theorem parseAnchor_encodeAnchor (lawful : codec.Lawful) (formed : wellFormed anchor = true)
    (encodes : encodeAnchor codec anchor = .ok encoded) :
    parseAnchor codec encoded = .ok anchor := by
  obtain ⟨marshaled, marshals, rfl, fits⟩ := encodeAnchor_spec encodes
  have decoded := lawful.anchor anchor marshaled marshals
  obtain ⟨version, zero, digest⟩ := wellFormed_iff.mp formed
  simp only [parseAnchor, bind_eq_ok, reject_eq_ok]
  refine ⟨(), ?_, anchor, ?_, (), version, (), zero, (), digest, rfl⟩
  · simp at fits ⊢
    omega
  · simp [soleValue, decoded]

theorem wellFormed_of_parseAnchor (parsed : parseAnchor codec encoded = .ok anchor) :
    wellFormed anchor = true := by
  simp only [parseAnchor, bind_eq_ok, reject_eq_ok] at parsed
  obtain ⟨_, _, _, _, _, version, _, zero, _, digest, equal⟩ := parsed
  cases equal
  exact wellFormed_iff.mpr ⟨version, zero, digest⟩

theorem eq_zeroAnchor (formed : wellFormed anchor = true) (zero : anchor.revision = 0) :
    anchor = zeroAnchor := by
  obtain ⟨_, _, _⟩ := wellFormed_iff.mp formed
  cases anchor
  simp_all [zeroAnchor]

theorem parseAnchor_failsWith (encoded : Bytes) (cause : Sentinel) :
    FailsWith (fun error => error.is cause = false) (parseAnchor codec encoded) := by
  have decoding : FailsWith (fun error : Error => error.is cause = false)
      (soleValue "trust state revision anchor" (codec.decodeAnchor encoded)) := by
    unfold soleValue
    split
    · exact .error rfl
    · exact .ok
    · exact .error rfl
    · exact .error rfl
  refine .bind (.reject rfl) fun _ => .bind decoding fun anchor => ?_
  exact .bind (.reject rfl) fun _ => .bind (.reject rfl) fun _ => .bind (.reject rfl) fun _ => .ok

end Files

section Images

variable (env : Platform) (codec : Codec)

def AnchorAt (disk : Disk) (anchor : RevisionAnchor) : Prop :=
  ∃ encoded, disk.anchor = some encoded ∧ parseAnchor codec encoded = .ok anchor

/-- The files hold a snapshot that a load without failures returns. -/
inductive Recovers (disk : Disk) : Snapshot → Prop where
  | untouched (missing : disk.state = none) (bare : disk.anchor = none) :
      Recovers disk emptySnapshot
  | empty (missing : disk.state = none) (anchored : AnchorAt codec disk zeroAnchor) :
      Recovers disk emptySnapshot
  | current {encoded : Bytes} {snapshot : Snapshot} {anchor : RevisionAnchor}
      (stored : disk.state = some encoded)
      (parsed : parseState env codec encoded = .ok snapshot)
      (anchored : AnchorAt codec disk anchor) (revision : anchor.revision = snapshot.revision)
      (digest : anchor.stateSHA256 = stateDigest env encoded) : Recovers disk snapshot
  | ahead {encoded : Bytes} {snapshot : Snapshot} {anchor : RevisionAnchor}
      (stored : disk.state = some encoded)
      (parsed : parseState env codec encoded = .ok snapshot)
      (anchored : AnchorAt codec disk anchor) (room : anchor.revision ≠ maxUint64)
      (successor : snapshot.revision = anchor.revision + 1) : Recovers disk snapshot

variable {env codec} {disk : Disk} {snapshot other : Snapshot}

theorem AnchorAt.unique {first second : RevisionAnchor} (left : AnchorAt codec disk first)
    (right : AnchorAt codec disk second) : first = second := by
  obtain ⟨_, found, parsed⟩ := left
  obtain ⟨_, found', parsed'⟩ := right
  rw [found] at found'
  cases found'
  rw [parsed] at parsed'
  cases parsed'
  rfl

theorem AnchorAt.congr {after : Disk} (same : after.anchor = disk.anchor)
    (anchored : AnchorAt codec disk anchor) : AnchorAt codec after anchor := by
  obtain ⟨encoded, found, parsed⟩ := anchored
  exact ⟨encoded, same.trans found, parsed⟩

theorem AnchorAt.present (anchored : AnchorAt codec disk anchor) : disk.anchor ≠ none := by
  obtain ⟨_, found, _⟩ := anchored
  simp [found]

/-- Without a state file the snapshot is empty and the anchor, if there is one,
is that of an empty store. -/
theorem Recovers.of_missing (recovers : Recovers env codec disk snapshot)
    (missing : disk.state = none) :
    snapshot = emptySnapshot ∧ (disk.anchor = none ∨ AnchorAt codec disk zeroAnchor) := by
  cases recovers with
  | untouched _ bare => exact ⟨rfl, .inl bare⟩
  | empty _ anchored => exact ⟨rfl, .inr anchored⟩
  | current stored => simp [missing] at stored
  | ahead stored => simp [missing] at stored

theorem Recovers.of_present (recovers : Recovers env codec disk snapshot)
    (stored : disk.state = some encoded) :
    parseState env codec encoded = .ok snapshot ∧
      ∃ anchor, AnchorAt codec disk anchor ∧
        (anchor.revision = snapshot.revision ∧ anchor.stateSHA256 = stateDigest env encoded ∨
          anchor.revision ≠ maxUint64 ∧ snapshot.revision = anchor.revision + 1) := by
  cases recovers with
  | untouched missing => simp [stored] at missing
  | empty missing => simp [stored] at missing
  | current found parsed anchored revision digest =>
    rw [stored] at found
    cases found
    exact ⟨parsed, _, anchored, .inl ⟨revision, digest⟩⟩
  | ahead found parsed anchored room successor =>
    rw [stored] at found
    cases found
    exact ⟨parsed, _, anchored, .inr ⟨room, successor⟩⟩

theorem Recovers.unique (left : Recovers env codec disk snapshot)
    (right : Recovers env codec disk other) : snapshot = other := by
  cases stored : disk.state with
  | none => rw [(left.of_missing stored).1, (right.of_missing stored).1]
  | some =>
    have parsed := (left.of_present stored).1
    rw [(right.of_present stored).1] at parsed
    cases parsed
    rfl

theorem successor_facts {counter : UInt64} (room : counter ≠ maxUint64) :
    counter + 1 ≠ 0 ∧ counter + 1 ≠ counter ∧ counter < counter + 1 := by
  have value := toNat_succ room
  simp only [UInt64.lt_iff_toNat_lt, ne_eq, ← UInt64.toNat_inj]
  simp only [UInt64.toNat_zero]
  omega

theorem Recovers.revision (recovers : Recovers env codec disk snapshot)
    (anchored : AnchorAt codec disk anchor) :
    snapshot.revision = anchor.revision ∨
      anchor.revision ≠ maxUint64 ∧ snapshot.revision = anchor.revision + 1 := by
  cases recovers with
  | untouched _ bare => exact absurd bare anchored.present
  | empty _ found =>
    rw [anchored.unique found]
    exact .inl rfl
  | current _ _ found revision =>
    rw [anchored.unique found]
    exact .inl revision.symm
  | ahead _ _ found room successor =>
    rw [anchored.unique found]
    exact .inr ⟨room, successor⟩

end Images

end Sovereignite.Trust.FileStore
