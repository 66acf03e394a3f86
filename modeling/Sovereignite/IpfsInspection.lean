import Sovereignite.CheckedFolds
import Sovereignite.IpfsExecution

/-!
# What an inspection establishes

The inspected files are compared with the published ones by their number and
one by one, and the blocks are checked one by one.  Together the checks leave
no room: the files are the published ones and the blocks are those of their
identifiers.
-/

namespace Sovereignite.Ipfs

open Effect

def InspectedFile.publicFile (file : InspectedFile) : PublicFile :=
  ⟨file.path, file.mediaType, file.content⟩

theorem checkInspectedFile_eq_ok {expected : List PublicFile} {seen next : List String}
    {actual : InspectedFile} :
    checkInspectedFile expected seen actual = .ok next ↔
      (actual.type = dagEntryFile ∧
          expected.find? (fun file => file.path == actual.path) = some actual.publicFile) ∧
        (∀ path ∈ [actual.path], path ∉ seen) ∧ next = actual.path :: seen := by
  simp only [checkInspectedFile, bind_eq_ok, reject_eq_ok, exists_const, List.mem_singleton,
    forall_eq]
  cases found : expected.find? fun file => file.path == actual.path with
  | none => simp [failure]
  | some file =>
    have path : file.path = actual.path := by simpa using List.find?_some found
    simp only [bind_eq_ok, reject_eq_ok, exists_const, pure, Except.pure, Option.some.injEq,
      List.contains_eq_mem]
    cases file
    grind [InspectedFile.publicFile]

variable {env : Platform} {root : Cid}

theorem checkBlock_eq_ok {tally next : BlockTally} {block : DagBlock}
    (checked : checkBlock env root tally block = .ok next) :
    ∃ identifier, block.cid = some identifier ∧ identifier ∉ tally.seen ∧
      env.sumBlock identifier block.bytes = .ok identifier ∧
      next.rootFound = (tally.rootFound || identifier == root) ∧
      next.seen = identifier :: tally.seen := by
  unfold checkBlock at checked
  split at checked
  · cases checked
  · next identifier defined =>
      simp only [bind_eq_ok, reject_eq_ok, exists_const, bne_eq_false_iff_eq,
        List.contains_eq_mem, decide_eq_false_iff_not] at checked
      obtain ⟨fresh, summed, _, _, ⟨⟩⟩ := checked
      refine ⟨identifier, defined, fresh, ?_, rfl, rfl⟩
      cases sum : env.sumBlock identifier block.bytes with
      | error => simp [sum, Except.toOption] at summed
      | ok => simpa [sum, Except.toOption] using summed

/-- Blocks with distinct identifiers, each the identifier of its bytes. -/
structure Identified (env : Platform) (blocks : List DagBlock) (identifiers : List Cid) :
    Prop where
  named : blocks.map DagBlock.cid = identifiers.map some
  distinct : identifiers.Nodup
  summed : ∀ block ∈ blocks, ∃ identifier, block.cid = some identifier ∧
    env.sumBlock identifier block.bytes = .ok identifier

theorem foldEach_checkBlock {blocks : List DagBlock} {tally final : BlockTally}
    (checked : foldEach (checkBlock env root) tally blocks = .ok final) :
    ∃ identifiers, Identified env blocks identifiers ∧
      (∀ identifier ∈ identifiers, identifier ∉ tally.seen) ∧
      (final.rootFound = true ↔ tally.rootFound = true ∨ root ∈ identifiers) := by
  induction blocks generalizing tally with
  | nil =>
    cases checked
    exact ⟨[], ⟨rfl, .nil, nofun⟩, nofun, by simp⟩
  | cons _ _ ih =>
    obtain ⟨_, step, later⟩ := bind_eq_ok.mp checked
    obtain ⟨identifier, defined, fresh, summed, found, seen⟩ := checkBlock_eq_ok step
    obtain ⟨identifiers, identified, unseen, rootFound⟩ := ih later
    simp only [seen, List.mem_cons, not_or] at unseen
    refine ⟨identifier :: identifiers, ⟨?_, ?_, ?_⟩, ?_, ?_⟩
    · simp [defined, identified.named]
    · refine List.nodup_cons.mpr ⟨?_, identified.distinct⟩
      intro repeated
      exact (unseen identifier repeated).1 rfl
    · simpa [defined, summed] using identified.summed
    · simpa [fresh] using fun other member => (unseen other member).2
    · simp [rootFound, found, or_assoc, eq_comm (a := root)]

/-- An accepted inspection has exactly the files of the snapshot, and blocks
with distinct identifiers, the root among them, that are those of their bytes. -/
theorem validateImportedSnapshot_exact {snapshot : PublicSnapshot} {inspection : SnapshotInspection}
    (accepted : validateImportedSnapshot env root snapshot inspection = .ok ()) :
    (inspection.files.map InspectedFile.publicFile).Perm snapshot.files ∧
      (inspection.files.map InspectedFile.path).Nodup ∧
      ∃ identifiers, Identified env inspection.blocks identifiers ∧ root ∈ identifiers := by
  have folded := @foldEach_keyed Error (List String) InspectedFile String
    (checkInspectedFile snapshot.files) (fun seen file => file.path :: seen) id
    (fun file => [file.path]) _ (fun _ _ _ => checkInspectedFile_eq_ok)
    (fun _ _ => List.nodup_singleton _) (fun _ _ _ => by simp) inspection.files []
  simp only [validateImportedSnapshot, bind_eq_ok, reject_eq_ok, exists_const, folded,
    Bool.not_eq_false', bne_eq_false_iff_eq, ← List.map_eq_flatMap] at accepted
  obtain ⟨_, _, _, _, blocks, rooted, count, _, ⟨each, distinct, _⟩, _⟩ := accepted
  obtain ⟨identifiers, identified, _, rootFound⟩ := foldEach_checkBlock blocks
  refine ⟨?_, distinct, identifiers, identified, ?_⟩
  · -- as many distinct declared files as there are files leave none out
    have declared : inspection.files.map InspectedFile.publicFile ⊆ snapshot.files := by
      intro _ member
      obtain ⟨actual, inspected, rfl⟩ := List.mem_map.mp member
      exact List.mem_of_find?_eq_some (each actual inspected).2
    have unrepeated : (inspection.files.map InspectedFile.publicFile).Nodup := by
      apply List.Nodup.of_map PublicFile.path
      rw [List.map_map]
      exact distinct
    refine (List.subperm_of_subset unrepeated declared).perm_of_length_le ?_
    rw [List.length_map, count]
  · simpa using rootFound.mp rooted

/-- Two files and two blocks, reported in another order. -/
theorem sample_inspection_exact : ∃ env snapshot inspection,
    validateImportedSnapshot env sampleRootCid snapshot inspection = .ok () ∧
      (inspection.files.map InspectedFile.publicFile).Perm snapshot.files ∧
      inspection.files.map InspectedFile.publicFile ≠ snapshot.files ∧
      inspection.blocks.length = 2 := by
  let manifest : PublicFile := ⟨pathUpdateManifest, mediaTypeJSON, [1]⟩
  let bundle : PublicFile := ⟨pathSPIFFEBundle, mediaTypeJSON, [2]⟩
  let reported := fun file : PublicFile =>
    (⟨file.path, file.mediaType, dagEntryFile, file.content⟩ : InspectedFile)
  let env := { Trust.samplePlatform [] with
    sumBlock := fun identifier bytes => .ok { identifier with multihash := bytes } }
  let snapshot : PublicSnapshot := ⟨"", "", "", 1, 1, [bundle, manifest]⟩
  let inspection : SnapshotInspection :=
    ⟨some sampleRootCid, [reported manifest, reported bundle],
      [⟨some { sampleRootCid with multihash := [3] }, [3]⟩,
        ⟨some sampleRootCid, sampleRootCid.multihash⟩]⟩
  have accepted : (validateImportedSnapshot env sampleRootCid snapshot inspection).isOk =
      true := by decide +kernel
  obtain ⟨_, passed⟩ := isOk_eq_true.mp accepted
  exact ⟨env, snapshot, inspection, passed, (validateImportedSnapshot_exact passed).1,
    by decide, rfl⟩

end Sovereignite.Ipfs
