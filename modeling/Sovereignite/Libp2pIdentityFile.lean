import Sovereignite.Libp2pInitializers

/-!
# One identity for every process

Whoever gets past the identity file has its own record in it: the record was
linked, or read and found equal.  With the invariant of the world this holds of
every process in every interleaving.
-/

namespace Sovereignite.Libp2p

open Effect

variable {env : Platform} {lib : Library} {random : Randomness} {root : String}
variable {process : Process} {record : IdentityRecord}

variable {content : Bytes}

section Creating

theorem ensures_link {value : Bytes} {file : Nat} (encoded : encodeRecord lib record = .ok content)
    (parsed : parseRecord lib content = .ok record) :
    Initializes env lib random root process (Temporary root process value file content)
      (ask (.link root (temporaryName value) identityStateFilename))
      fun reply world => world.drawn value = some process ∧
        (reply = .ok () → Stores lib root world record) := by
  refine ensures_ask (temporary_lasting value file content) ?_
  intro _ _ after valid temporary answered
  rcases answered with ⟨_, rfl, rfl⟩ | ⟨found, rfl, entry, absent, rfl⟩
  · exact ⟨(Unchanged.refl root after).sound valid process, temporary.drawn, nofun⟩
  · have same : found = file := Option.some.inj (entry.symm.trans temporary.entry)
    subst same
    obtain ⟨sound, stores⟩ :=
      Sound.link valid temporary.owns absent temporary.content encoded parsed
    exact ⟨sound, temporary.drawn, fun _ => stores⟩

theorem ensures_linkTemporary (never : NeverRepeats random) {value : Bytes} {file : Nat}
    (encoded : encodeRecord lib record = .ok content)
    (parsed : parseRecord lib content = .ok record) :
    Initializes env lib random root process (Temporary root process value file content)
      (linkTemporary root (temporaryName value) identityStateFilename)
      fun created world => created = true → Stores lib root world record := by
  refine .sequence (ensures_link encoded parsed) fun linked => ?_
  cases linked with
  | error =>
    dsimp only
    split
    · exact .ret fun _ _ _ made => absurd made Bool.false_ne_true
    · exact .fail
  | ok =>
    let fact : World → Prop := fun world =>
      world.drawn value = some process ∧ Stores lib root world record
    have kept : Lasting (Persists root) fact := .and (drawn_lasting value) (stores_lasting record)
    refine .strengthen (fun world known => (⟨known.1, known.2 rfl⟩ : fact world)) ?_
    refine .sequence (ensures_harmless never trivial (lasting_persists kept)) fun _ =>
      .take fun _ _ => ?_
    refine .sequence (ensures_removeTemporary value kept fun _ known => known.1) fun _ =>
      .take fun _ _ => ?_
    refine .sequence (ensures_harmless never trivial (lasting_persists kept)) fun _ =>
      .take fun _ _ => ?_
    exact .ret fun _ _ known _ => known.2

theorem ensures_atomicCreate (never : NeverRepeats random) {mode : Nat}
    (encoded : encodeRecord lib record = .ok content)
    (parsed : parseRecord lib content = .ok record) :
    Initializes env lib random root process
      (fun _ => True) (atomicCreate root identityStateFilename content mode)
      fun created world => created = true → Stores lib root world record := by
  refine .sequence (ensures_createTemporaryFile never 128) ?_
  rintro ⟨file, _⟩
  refine .choose fun value => ?_
  refine .strengthen (fun _ known => ⟨known.2, known.1⟩) (.assume fun same => ?_)
  dsimp only at same ⊢
  rw [same]
  have lasting : ∀ created : Bool, Lasting (Persists root) fun world =>
      created = true → Stores lib root world record :=
    fun created before after persists stored equal => persists.stores (stored equal)
  refine ensures_discarding never lasting (fun _ known => known.drawn) ?_
  refine .sequence (ensures_fillTemporary never value file content mode) fun _ => ?_
  refine .sequence (ensures_harmless never trivial (temporary_lasting value file content))
    fun _ => .take fun _ _ => ?_
  exact ensures_linkTemporary never encoded parsed

end Creating

section Reading

theorem Valid.stores_of_parsed {world : World} (valid : Valid lib root world)
    (found : identityContent root world = some content)
    (parsed : parseRecord lib content = .ok record) : Stores lib root world record := by
  cases entry : world.entries root identityStateFilename with
  | none =>
    rw [identityContent, entry] at found
    cases found
  | some file =>
    obtain ⟨_, _, same, encoded, decoded⟩ := valid.complete file entry
    rw [found] at same
    cases same
    rw [parsed] at decoded
    cases decoded
    exact ⟨content, found, encoded, parsed⟩

def Sized (root : String) (file size : Nat) (world : World) : Prop :=
  world.entries root identityStateFilename = some file ∧
    (world.files file).map List.length = some size

theorem linked_lasting (file : Nat) :
    Lasting (Persists root) fun world => world.entries root identityStateFilename = some file :=
  fun _ _ persists linked => (persists.identity file linked).1

theorem sized_lasting (file size : Nat) : Lasting (Persists root) (Sized root file size) := by
  rintro _ _ persists ⟨linked, size⟩
  obtain ⟨kept, same⟩ := persists.identity file linked
  exact ⟨kept, by rw [same]; exact size⟩

theorem ensures_stat (never : NeverRepeats random) (file : Nat) :
    Initializes env lib random root process
      (fun world => world.entries root identityStateFilename = some file) (ask (.stat file))
      fun reply world => ∀ info, reply = .ok info → Sized root file info.size world := by
  refine ensures_ask (lasting_persists (linked_lasting file)) ?_
  intro _ _ _ valid linked answered
  have sound := (Unchanged.of_answer never valid (.stat file) trivial answered).sound valid process
  obtain ⟨rfl, sizes⟩ := answered
  exact ⟨sound, fun info equal => ⟨linked, sizes info equal⟩⟩

theorem ensures_read (never : NeverRepeats random) {file size limit : Nat} (within : size ≤ limit) :
    Initializes env lib random root process (Sized root file size) (ask (.read file limit))
      fun reply world => ∀ content, reply = .ok content →
        identityContent root world = some content := by
  refine ensures_ask (lasting_persists (sized_lasting file size)) ?_
  intro _ _ after valid sized answered
  have sound := (Unchanged.of_answer never valid (.read file limit) trivial answered).sound
    valid process
  obtain ⟨rfl, contents⟩ := answered
  refine ⟨sound, fun content equal => ?_⟩
  obtain ⟨linked, length⟩ := sized
  have taken := contents content equal
  cases stored : after.files file with
  | none =>
    rw [stored] at taken
    cases taken
  | some =>
    rw [stored] at taken length
    simp only [Option.map_some, Option.some.injEq] at taken length
    rw [List.take_of_length_le (by omega)] at taken
    rw [identityContent, linked, ← taken]
    exact stored

theorem ensures_readOpened (never : NeverRepeats random) (name : String) (info : FileInfo)
    (file : Nat) :
    Initializes env lib random root process
      (fun world => world.entries root identityStateFilename = some file)
      (readOpened lib name info file)
      fun found world => Stores lib root world found := by
  refine .sequence (ensures_stat never file) fun reply => .take fun openedInfo same =>
      .strengthen (fun _ known => known openedInfo (mapError_eq_ok.mp same)) ?_
  have lasting : Lasting (Persists root) (Sized root file openedInfo.size) :=
    sized_lasting file openedInfo.size
  refine .check fun _ => ?_
  refine .sequence (ensures_only never (only_requireEffectiveUserOwner name openedInfo)
    (lasting_persists lasting)) fun _ => ?_
  refine .check fun _ => .check fun sizes => ?_
  have within : openedInfo.size ≤ maxIdentityStateSize + 1 := by
    simp only [Bool.or_eq_false_iff, decide_eq_false_iff_not] at sizes
    omega
  refine .sequence (ensures_read never within) fun reply => .take fun content same =>
      .strengthen (fun _ known => known content (mapError_eq_ok.mp same)) ?_
  cases parsed : parseRecord lib content with
  | error => exact .fail
  | ok => exact .ret fun world valid known => valid.stores_of_parsed known parsed

theorem only_checkIdentityFile (name : String) (info : FileInfo) :
    (checkIdentityFile name info).Only (Harmless root) :=
  .bind .rejectIf fun _ => .bind (only_requireEffectiveUserOwner name info) fun _ =>
    .bind .rejectIf fun _ => .rejectIf

theorem ensures_openFile (never : NeverRepeats random) (directory name : String) :
    Initializes env lib random root process (fun _ => True) (ask (.openFile directory name))
      fun reply world => ∀ file, reply = .ok file → world.entries directory name = some file := by
  refine ensures_ask Lasting.pure fun world reply after valid _ answered => ?_
  have sound := (Unchanged.of_answer never valid (.openFile directory name) trivial
    answered).sound valid process
  obtain ⟨rfl, found⟩ := answered
  exact ⟨sound, found⟩

theorem ensures_readIdentityRecord (never : NeverRepeats random) :
    Initializes env lib random root process
      (fun _ => True) (readIdentityRecord lib root identityStateFilename)
      fun found world => Stores lib root world found := by
  refine .sequence (ensures_harmless never trivial Lasting.pure) fun _ => .sequence ensures_take
    fun info => .strengthen (fun _ _ => trivial) ?_
  refine .sequence (ensures_only never (only_checkIdentityFile _ info) Lasting.pure) fun _ => ?_
  refine .sequence (ensures_openFile never root identityStateFilename) fun opened =>
    .take fun file same =>
      .strengthen (fun _ known => known file (mapError_eq_ok.mp same)) ?_
  refine .sequence (.attempt (ensures_readOpened never _ info file)) fun outcome => ?_
  have kept : Lasting (Persists root) fun world =>
      ∀ found, outcome = .ok found → Stores lib root world found :=
    fun before after persists holds found equal => persists.stores (holds found equal)
  refine .sequence (ensures_harmless never trivial (lasting_persists kept)) fun _ => ?_
  cases outcome with
  | error => exact .fail
  | ok found => exact .ret fun _ _ known => known found rfl

theorem compareIdentityRecords_eq {persisted expected : IdentityRecord}
    (same : compareIdentityRecords persisted expected = .ok ()) : persisted = expected := by
  obtain ⟨_, version, same⟩ := bind_eq_ok.mp same
  obtain ⟨_, handle, same⟩ := bind_eq_ok.mp same
  obtain ⟨_, publicKey, same⟩ := bind_eq_ok.mp same
  obtain ⟨_, peerID, name⟩ := bind_eq_ok.mp same
  simp only [reject_eq_ok, bne_eq_false_iff_eq] at version handle publicKey peerID name
  cases persisted
  cases expected
  simp_all

theorem ensures_compare {persisted expected : IdentityRecord} :
    Initializes env lib random root process (fun world => Stores lib root world persisted)
      (Program.ofExcept (compareIdentityRecords persisted expected))
      fun _ world => Stores lib root world expected := by
  cases compared : compareIdentityRecords persisted expected with
  | error => exact .fail
  | ok =>
    have same := compareIdentityRecords_eq compared
    subst same
    exact .ret fun _ _ known => known

theorem ensures_compareWithPersisted (never : NeverRepeats random) (expected : IdentityRecord) :
    Initializes env lib random root process (fun _ => True) (compareWithPersisted lib root expected)
      fun _ world => Stores lib root world expected :=
  .sequence (ensures_readIdentityRecord never) fun _ => ensures_compare

end Reading

variable {config : Config}

section Settling

theorem parseRecord_encodeRecord (roundTrip : lib.RecordRoundTrip)
    (version : record.version = identityStateVersion)
    (encoded : encodeRecord lib record = .ok content) :
    parseRecord lib content = .ok record := by
  obtain ⟨marshaled, made, same⟩ := bind_eq_ok.mp encoded
  cases same
  have decoded := roundTrip record marshaled (mapError_eq_ok.mp made)
  refine bind_eq_ok.mpr ⟨(record, .endOfInput), mapError_eq_ok.mpr decoded, ?_⟩
  refine bind_eq_ok.mpr ⟨(), rfl, bind_eq_ok.mpr ⟨(), ?_, rfl⟩⟩
  rw [reject_eq_ok, version]
  rfl

variable {expected : IdentityRecord}

theorem ensures_createIdentityState (never : NeverRepeats random)
    (roundTrip : lib.RecordRoundTrip) (version : expected.version = identityStateVersion) :
    Initializes env lib random root process (fun _ => True) (createIdentityState lib root expected)
      fun _ world => Stores lib root world expected := by
  refine .take fun content encoded => ?_
  have parsed := parseRecord_encodeRecord roundTrip version encoded
  refine .sequence (.mapError (ensures_atomicCreate never encoded parsed)) fun created => ?_
  cases created with
  | true => exact .ret fun _ _ known => known rfl
  | false => exact .strengthen (fun _ _ => trivial) (ensures_compareWithPersisted never expected)

theorem ensures_settleIdentityState (never : NeverRepeats random)
    (roundTrip : lib.RecordRoundTrip) (version : expected.version = identityStateVersion) :
    Initializes env lib random root process (fun _ => True) (settleIdentityState lib root expected)
      fun _ world => Stores lib root world expected := by
  refine .sequence (.attempt (ensures_readIdentityRecord never)) fun outcome => ?_
  cases outcome with
  | ok persisted => exact .strengthen (fun _ known => known persisted rfl) ensures_compare
  | error =>
    dsimp only
    split
    · exact .strengthen (fun _ _ => trivial) (ensures_createIdentityState never roundTrip version)
    · exact .fail

theorem ensures_ensureIdentityState (never : NeverRepeats random)
    (roundTrip : lib.RecordRoundTrip) (shared : clean config.stateRoot = root)
    (version : expected.version = identityStateVersion) :
    Initializes env lib random root process
      (fun _ => True) (ensureIdentityState lib config expected)
      fun _ world => Stores lib root world expected := by
  unfold ensureIdentityState
  rw [shared]
  refine .sequence (.mapError (ensures_only never (only_openPrivateDirectory root)
    Lasting.pure)) fun _ => ?_
  exact ensures_deferred never (fun _ => stores_lasting expected)
    (ensures_settleIdentityState never roundTrip version) (only_releaseDirectory root)

def Settled (lib : Library) (root : String) (identity : PublicIdentity) (world : World) : Prop :=
  ∃ record, Stores lib root world record ∧ newIdentityRecord lib identity = .ok record

theorem settled_lasting (identity : PublicIdentity) :
    Lasting (Persists root) (Settled lib root identity) := by
  rintro _ _ persists ⟨record, stored, made⟩
  exact ⟨record, persists.stores stored, made⟩

theorem newIdentityRecord_spec {identity : PublicIdentity}
    (made : newIdentityRecord lib identity = .ok record) :
    record.version = identityStateVersion ∧ record.name = identity.name := by
  obtain ⟨_, _, same⟩ := bind_eq_ok.mp made
  cases same
  exact ⟨rfl, rfl⟩

theorem ensures_setHostname {name : String} (named : record.name = name) :
    Initializes env lib random root process
      (fun world => Stores lib root world record) (ask (.setHostname name))
      fun _ world => Stores lib root world record := by
  refine ensures_ask (lasting_persists (stores_lasting record)) ?_
  rintro _ _ _ valid stored rfl
  refine ⟨Sound.note ⟨valid.complete, valid.allocated, ?_, valid.returned⟩ rfl rfl rfl rfl, stored⟩
  intro other member
  rcases List.mem_cons.mp member with same | earlier
  · exact ⟨record, stored, named.trans same.symm⟩
  · exact valid.hostnames other earlier

theorem ensures_activateIdentity (never : NeverRepeats random) (roundTrip : lib.RecordRoundTrip)
    (shared : clean config.stateRoot = root) (identity : Identity) :
    Initializes env lib random root process (fun _ => True) (activateIdentity lib config identity)
      fun _ => Settled lib root identity.publicIdentity := by
  refine .take fun _ _ => ?_
  refine .sequence (ensures_only never only_checkContext Lasting.pure) fun _ => ?_
  refine .take fun expected made => ?_
  obtain ⟨version, named⟩ := newIdentityRecord_spec made
  refine .sequence (ensures_ensureIdentityState never roundTrip shared version) fun _ => ?_
  have lasting : Lasting (Persists root) fun world => Stores lib root world expected :=
    stores_lasting expected
  refine .take fun _ _ => ?_
  refine .sequence (ensures_only never only_checkContext (lasting_persists lasting)) fun _ => ?_
  refine .sequence (ensures_setHostname named) fun _ => ?_
  exact .weaken (fun _ world known => ⟨expected, known.1, made⟩) ensures_takeAs

theorem ensures_returned (identity : PublicIdentity) :
    Initializes env lib random root process
      (Settled lib root identity) (ask (.returned identity)) fun _ _ => True := by
  refine ensures_ask (lasting_persists (settled_lasting identity)) ?_
  rintro _ _ _ valid settled rfl
  refine ⟨Sound.note ⟨valid.complete, valid.allocated, valid.hostnames, ?_⟩ rfl rfl rfl rfl,
    trivial⟩
  intro other member
  rcases List.mem_cons.mp member with rfl | earlier
  · exact settled
  · exact valid.returned other earlier

theorem ensures_initializeIdentity (never : NeverRepeats random)
    (roundTrip : lib.RecordRoundTrip) (shared : clean config.stateRoot = root)
    (key : TPMSigningKey) :
    Initializes env lib random root process (fun _ => True) (initializeIdentity env lib config key)
      fun identity => Settled lib root identity.publicIdentity := by
  refine .take fun _ _ => ?_
  refine .sequence (ensures_only never only_checkContext Lasting.pure) fun _ => ?_
  refine .sequence (ensures_only never (only_prepareIdentity env lib key)
    Lasting.pure) fun identity => ?_
  refine .sequence (ensures_activateIdentity never roundTrip shared identity) fun _ => ?_
  exact .ret fun _ _ known => known

end Settling

section Serving

variable {directory : String}

theorem runtimeRoot_ne_stateRoot (accepted : config.validate = .ok ()) :
    clean config.runtimeRoot ≠ clean config.stateRoot := by
  intro equal
  unfold Config.validate at accepted
  split at accepted
  · have overlap : rootsOverlap config.stateRoot config.runtimeRoot = true := by
      simp [rootsOverlap, pathWithin, rel, equal]
    rw [overlap] at accepted
    cases accepted
  all_goals cases accepted

theorem only_closeFileQuietly (file : Nat) : (closeFileQuietly file).Only (Harmless root) :=
  .bind (only_ask trivial) fun _ => trivial

theorem only_checkLocked (name : String) (file : Nat) :
    (checkLocked directory name file).Only (Harmless root) := by
  unfold checkLocked
  exact .bind (only_ask trivial) fun _ => .bind only_takeAs fun info =>
    .bind (only_ask trivial) fun _ => .bind only_takeAs fun _ => .bind .rejectIf fun _ =>
      .bind (only_requireEffectiveUserOwner name info) fun _ => .rejectIf

theorem only_verifyLocked (name : String) (file : Nat) :
    (verifyLocked directory name file).Only (Harmless root) := by
  refine .bind (only_checkLocked name file).attempt fun outcome => ?_
  cases outcome with
  | ok => trivial
  | error => exact .bind (only_ask trivial) fun _ => trivial

theorem only_lockOpened (name : String) (file : Nat) :
    (lockOpened directory name file).Only (Harmless root) := by
  unfold lockOpened
  exact .bind (only_ask trivial) fun _ => .bind only_takeAs fun info =>
    .bind (only_ask trivial) fun _ => .bind only_takeAs fun _ => .bind .rejectIf fun _ =>
      .bind (only_requireEffectiveUserOwner name info) fun _ => .bind .rejectIf fun _ =>
        .bind (only_ask trivial) fun _ => .bind .ofExcept fun _ => only_verifyLocked name file

theorem only_acquireRuntimeLease (elsewhere : directory ≠ root) (name : String) :
    (acquireRuntimeLease directory name).Only (Harmless root) := by
  unfold acquireRuntimeLease
  refine .bind ?_ fun _ => .bind (only_ask elsewhere) fun _ => .bind only_takeAs fun file =>
    .bind (only_onError (only_lockOpened name file) (only_closeFileQuietly file)) fun _ =>
      trivial
  refine .bind (only_ask trivial) fun found => ?_
  cases found with
  | ok | error => exact .rejectIf

theorem only_closeLease (file : Nat) : (closeLease file).Only (Harmless root) :=
  .bind (only_ask trivial) fun _ => only_closeFileQuietly file

theorem only_removeIfSame (elsewhere : directory ≠ root) (name : String) (info : FileInfo) :
    (removeIfSame directory name info).Only (Harmless root) := by
  have synced : (do take (← ask (.syncDirectory directory))).Only (Harmless root) :=
    .bind (only_ask trivial) fun _ => only_take
  refine .bind (only_ask trivial) fun found => ?_
  cases found with
  | error => exact .rejectIf
  | ok =>
    dsimp only
    split
    · trivial
    · refine .bind (only_ask elsewhere) fun removed => ?_
      cases removed with
      | ok => exact synced
      | error =>
        dsimp only
        split
        · exact synced
        · trivial

theorem only_removeIfContent (elsewhere : directory ≠ root) (name : String) (file : Nat)
    (expected : Bytes) (info : FileInfo) :
    (removeIfContent directory name file expected info).Only (Harmless root) := by
  refine .bind (only_ask trivial) fun _ => .bind only_take fun openedInfo => ?_
  split
  · trivial
  · refine .bind (only_ask trivial) fun _ => .bind only_take fun content => ?_
    split
    · trivial
    · exact only_removeIfSame elsewhere name openedInfo

theorem only_removeIfOwnedFileMatches (elsewhere : directory ≠ root) (name : String)
    (expected : Bytes) (info : Option FileInfo) :
    (removeIfOwnedFileMatches directory name expected info).Only (Harmless root) := by
  refine .bind (only_ask trivial) fun found => ?_
  match found, info with
  | .error error, _ => exact .rejectIf
  | .ok found, none => trivial
  | .ok found, some published =>
    dsimp only
    split
    · trivial
    · exact .bind (only_ask trivial) fun _ => .bind only_take fun file =>
        .bind (only_removeIfContent elsewhere name file expected published).attempt
          fun _ => .bind (only_ask trivial) fun _ => .ofExcept

theorem only_withdrawEndpoint (elsewhere : directory ≠ root) (encoded : Bytes)
    (info : Option FileInfo) (error : Error) :
    (withdrawEndpoint directory encoded info error).Only (Harmless root) :=
  .bind (only_removeIfOwnedFileMatches elsewhere _ encoded info).attempt fun _ => trivial

theorem only_confirmEndpoint (elsewhere : directory ≠ root) (encoded : Bytes)
    (info : FileInfo) : (confirmEndpoint directory encoded info).Only (Harmless root) := by
  have owned : (requireOwnedRegularFile directory endpointRecordFilename info 0o600
      encoded.length).Only (Harmless root) :=
    .bind (only_ask trivial) fun _ => .bind only_take fun found => .bind .rejectIf fun _ =>
      .bind .rejectIf fun _ => .bind .rejectIf fun _ =>
        only_requireEffectiveUserOwner _ found
  have verified : (verifyEndpoint directory encoded info).Only (Harmless root) :=
    .bind owned.mapError fun _ => (only_requireRootStillAtPath directory).mapError
  refine .bind verified.attempt fun outcome => ?_
  cases outcome with
  | ok => trivial
  | error error => exact only_withdrawEndpoint elsewhere encoded (some info) error

theorem ensures_replaceTemporary (never : NeverRepeats random) (elsewhere : directory ≠ root)
    {temporary name : String} (file : Nat) (content : Bytes) (mode : Nat) :
    Initializes env lib random root process (Owns root process file)
      (replaceTemporary directory temporary name file content mode) fun _ _ => True := by
  have quiet : ∀ request, Harmless root request → Initializes env lib random root process
        (Owns root process file) (ask request) fun _ => Owns root process file :=
    fun _ harmless => ensures_harmless never harmless (owns_lasting file)
  refine .sequence ?_ fun _ => .sequence (quiet _ trivial) fun _ =>
    .take fun _ _ => ?_
  · refine .sequence (quiet _ trivial) fun _ => .take fun _ _ => ?_
    refine .sequence (ensures_write file content) fun _ => .take fun _ _ => ?_
    exact .sequence (quiet _ trivial) fun _ => .weaken (fun _ _ known => known.1) ensures_take
  · refine .sequence (quiet _ trivial) fun _ => .take fun _ _ => ?_
    refine .sequence (quiet _ elsewhere) fun _ => .take fun _ _ => ?_
    exact .sequence (quiet _ trivial) fun _ => .ret fun _ _ _ => trivial

theorem ensures_atomicReplaceTracked (never : NeverRepeats random)
    (elsewhere : directory ≠ root) {name : String} (content : Bytes) (mode : Nat) :
    Initializes env lib random root process
      (fun _ => True) (atomicReplaceTracked directory name content mode)
      fun _ _ => True := by
  refine .sequence (ensures_createTemporaryElsewhere never elsewhere 128) ?_
  rintro ⟨file, _⟩
  refine .sequence (.attempt (ensures_replaceTemporary never elsewhere file content mode))
    fun outcome => .strengthen (fun _ _ => trivial) ?_
  refine .sequence (ensures_harmless never trivial Lasting.pure) fun _ =>
    .sequence (ensures_harmless never elsewhere Lasting.pure) fun _ => ?_
  exact .weaken (fun _ _ _ => trivial) .ofExcept

theorem ensures_publishEndpoint (never : NeverRepeats random) (elsewhere : directory ≠ root)
    (encoded : Bytes) :
    Initializes env lib random root process
      (fun _ => True) (publishEndpoint directory encoded) fun _ _ => True := by
  refine .sequence (.attempt (ensures_atomicReplaceTracked never elsewhere encoded 0o600))
    fun outcome => .strengthen (fun _ _ => trivial) ?_
  match outcome with
  | .error error =>
    exact ensures_only never (only_withdrawEndpoint elsewhere encoded none _) Lasting.pure
  | .ok (info, .error error) =>
    exact ensures_only never (only_withdrawEndpoint elsewhere encoded (some info) _) Lasting.pure
  | .ok (info, .ok ()) =>
    exact ensures_only never (only_confirmEndpoint elsewhere encoded info) Lasting.pure

theorem only_currentBootID : currentBootID.Only (Harmless root) :=
  .bind (only_ask trivial) fun _ => .bind only_takeAs fun _ => .bind .rejectIf fun _ => trivial

theorem only_newInstanceNonce : newInstanceNonce.Only (Harmless root) :=
  .bind (only_ask trivial) fun _ => .bind only_takeAs fun _ => trivial

theorem ensures_announce (never : NeverRepeats random) (elsewhere : directory ≠ root)
    (address name : String) :
    Initializes env lib random root process
      (fun _ => True) (announce lib directory address name) fun _ _ => True := by
  refine .bindPure Lasting.pure .ofExcept ?_
  rintro ⟨_, _⟩ _
  refine .sequence (ensures_only never only_currentBootID Lasting.pure) fun _ => ?_
  refine .sequence (ensures_only never only_newInstanceNonce Lasting.pure) fun _ => ?_
  refine .sequence (ensures_harmless never trivial Lasting.pure) fun _ => ?_
  refine .take fun encoded _ => ?_
  exact ensures_publishEndpoint never elsewhere (encoded ++ [10])

theorem ensures_startLeased (never : NeverRepeats random) (roundTrip : lib.RecordRoundTrip)
    (shared : clean config.stateRoot = root) (elsewhere : directory ≠ root) (identity : Identity) :
    Initializes env lib random root process
      (fun _ => True) (startLeased lib config identity directory)
      fun _ => Settled lib root identity.publicIdentity := by
  have lasting : Lasting (Persists root) (Settled lib root identity.publicIdentity) :=
    settled_lasting identity.publicIdentity
  refine .sequence (ensures_activateIdentity never roundTrip shared identity) fun _ => ?_
  refine .sequence (ensures_harmless never trivial (lasting_persists lasting)) fun _ =>
    .take fun address _ => ?_
  have announced : Initializes env lib random root process (fun _ => True)
      (onError (announce lib directory address identity.publicIdentity.name)
        closeListenerQuietly) fun _ _ => True :=
    ensures_onError never (ensures_announce never elsewhere address _)
      (.bind (only_ask trivial) fun _ => trivial)
  exact .weaken (fun _ _ known => known.1)
    (.frame lasting (fun _ known => known) (.strengthen (fun _ _ => trivial) announced))

theorem only_launchHost (identity : PublicIdentity) :
    (launchHost identity).Only (Harmless root) := by
  have refused : ∀ error closing, (refuseHost error closing).Only (Harmless root) :=
    fun _ _ => .bind (only_ask trivial) fun _ => trivial
  refine .bind (only_ask trivial) fun launched => ?_
  match (launched : Launch) with
  | ⟨some _, some error⟩ => exact refused _ _
  | ⟨none, some error⟩ => trivial
  | ⟨none, none⟩ => trivial
  | ⟨some host, none⟩ =>
    dsimp only
    split
    · exact refused _ _
    · trivial

theorem ensures_startHosted (never : NeverRepeats random) (roundTrip : lib.RecordRoundTrip)
    (shared : clean config.stateRoot = root) (elsewhere : clean config.runtimeRoot ≠ root)
    (identity : Identity) :
    Initializes env lib random root process (fun _ => True) (startHosted lib config identity)
      fun _ => Settled lib root identity.publicIdentity := by
  refine .sequence (.mapError (ensures_only never
    (only_openPrivateDirectory (clean config.runtimeRoot)) Lasting.pure)) fun _ => ?_
  refine ensures_onError never ?_ (only_closeQuietly _)
  refine .sequence (ensures_only never (only_acquireRuntimeLease elsewhere _) Lasting.pure)
    fun lease => ?_
  exact ensures_onError never (ensures_startLeased never roundTrip shared elsewhere identity)
    (only_closeLease lease)

theorem ensures_start (never : NeverRepeats random) (roundTrip : lib.RecordRoundTrip)
    (shared : clean config.stateRoot = root) (key : TPMSigningKey) :
    Initializes env lib random root process (fun _ => True) (start env lib config key)
      fun identity => Settled lib root identity.publicIdentity := by
  refine .take fun _ accepted => ?_
  have elsewhere : clean config.runtimeRoot ≠ root := shared ▸ runtimeRoot_ne_stateRoot accepted
  refine .sequence (ensures_only never only_checkContext Lasting.pure) fun _ => ?_
  refine .sequence (ensures_only never (only_prepareIdentity env lib key)
    Lasting.pure) fun identity => ?_
  refine .sequence (ensures_only never (only_launchHost identity.publicIdentity)
    Lasting.pure) fun _ => ?_
  refine .sequence (ensures_onError never
    (ensures_startHosted never roundTrip shared elsewhere identity)
    (.bind (only_ask trivial) fun _ => trivial)) fun _ => ?_
  exact .ret fun _ _ known => known

end Serving

end Sovereignite.Libp2p
