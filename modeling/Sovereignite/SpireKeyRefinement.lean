import Sovereignite.EffectEvaluation
import Sovereignite.SpireKeyCalls

/-!
# The key manager as a map from names to keys

To the identity server the plugin is to be a map from the names of keys to the
keys it was given for them.  The calls keep the token and the map in step; what
they report agrees with the map as long as a name is always used with one type
of key and the configuration lists it once.
-/

namespace Sovereignite.Controllers.SpireKeys

open Effect

section Map

/-- What the identity server was given for a name: the message and the type of
the latest successful generation, and the type of the first one. -/
structure Issued where
  message : PublicKeyMessage
  requested : KeyType
  first : KeyType

abbrev KeyMap := String → Option Issued

/-- The type that was requested first for a name, if it is requested again. -/
def KeyMap.firstType (keys : KeyMap) (keyId : String) (keyType : KeyType) : KeyType :=
  match keys keyId with
  | none => keyType
  | some issued => issued.first

def KeyMap.record (keys : KeyMap) : Call → Except Status Response → KeyMap
  | .generateKey keyId keyType, .ok (.generated pub) =>
    Function.update keys keyId (some ⟨pub, keyType, keys.firstType keyId keyType⟩)
  | _, _ => keys

/-- The type of a message is that of the key in its encoding. -/
def Typed (hsm : Hardware) (pub : PublicKeyMessage) : Prop :=
  ∃ key, hsm.parsePKIXPublicKey pub.pkixData = .ok key ∧ HasType pub.type key

/-- The outcome of a call agrees with the map. -/
def Conforms (hsm : Hardware) (keys : KeyMap) : Call → Except Status Response → Prop
  | .generateKey keyId _, .ok (.generated pub) => Typed hsm pub ∧ pub.id = keyId
  | .generateKey _ _, .error _ => True
  | .getPublicKey keyId, .ok (.found pub) => Typed hsm pub ∧ pub.id = keyId ∧
      ∃ issued, keys keyId = some issued ∧ pub.pkixData = issued.message.pkixData ∧
        pub.fingerprint = issued.message.fingerprint ∧ pub.type = issued.requested
  | .getPublicKey keyId, .error _ => keys keyId = none
  | .getPublicKeys, .ok (.listed pubs) => (∀ pub ∈ pubs, Typed hsm pub) ∧
      ∀ id, (pubs.map PublicKeyMessage.id).count id = if (keys id).isSome then 1 else 0
  | .getPublicKeys, .error _ => ∀ id, keys id = none
  | .signData req, .ok (.signed signature fingerprint) =>
    ∃ issued key opts, keys req.keyId = some issued ∧ fingerprint = issued.message.fingerprint ∧
      hsm.parsePKIXPublicKey issued.message.pkixData = .ok key ∧
      signerOpts req = .ok opts ∧ hsm.verifies key opts req.data signature
  | .signData req, .error status => status.code = .notFound → keys req.keyId = none
  | _, _ => False

/-- A name is generated without a type or with the type of the key that was made
for it first; the latest type requested for a name is the one it was made with;
and the configuration lists every name that was generated once. -/
def Agrees (cfg : PluginConfig) (keys : KeyMap) : Call → Prop
  | .generateKey keyId keyType =>
    keyType = .unspecified ∨ keyType = generatedType (keys.firstType keyId keyType)
  | .getPublicKey keyId => ∀ issued, keys keyId = some issued →
      issued.requested = generatedType issued.first
  | .getPublicKeys => ∀ id, (keys id).isSome → cfg.knownKeyIDs.count id = 1
  | .signData _ => True

/-- The token has the keys of the map under their labels, and no others. -/
structure Represents (hsm : Hardware) (cfg : PluginConfig) (token : Token)
    (keys : KeyMap) : Prop where
  absent : ∀ id, keys id = none → token (cfg.refForKey id).keyLabel = none
  present : ∀ id issued, keys id = some issued → id ≠ "" ∧
    ∃ signer, Holds hsm cfg token id signer ∧
      HasType (generatedType issued.first) (hsm.publicOf signer) ∧
      Describes hsm signer issued.message

variable {hsm : Hardware} {cfg : PluginConfig} {token after : Token} {keys : KeyMap}

theorem Represents.none_iff (represents : Represents hsm cfg token keys) (id : String) :
    keys id = none ↔ ∀ signer, ¬ Holds hsm cfg token id signer := by
  constructor
  · rintro missing signer ⟨_, found⟩
    rw [represents.absent id missing] at found
    cases found
  · intro missing
    cases found : keys id with
    | none => rfl
    | some issued =>
      obtain ⟨_, signer, holds, _⟩ := represents.present id issued found
      exact absurd holds (missing signer)

variable {signer : Nat}

/-- The key pair under a name is the one of the map. -/
theorem Represents.issued (represents : Represents hsm cfg token keys) {id : String}
    (holds : Holds hsm cfg token id signer) :
    ∃ issued, keys id = some issued ∧ id ≠ "" ∧
      HasType (generatedType issued.first) (hsm.publicOf signer) ∧
      Describes hsm signer issued.message := by
  cases found : keys id with
  | none => exact absurd holds ((represents.none_iff id).mp found signer)
  | some issued =>
    obtain ⟨named, _, otherHolds, typed, describes⟩ := represents.present id issued found
    cases holds.2.symm.trans otherHolds.2
    exact ⟨issued, rfl, named, typed, describes⟩

theorem refForKey_keyLabel_inj {first second : String}
    (same : (cfg.refForKey first).keyLabel = (cfg.refForKey second).keyLabel) : first = second := by
  simpa [PluginConfig.refForKey] using same

theorem Describes.same {first second : PublicKeyMessage} (left : Describes hsm signer first)
    (right : Describes hsm signer second) :
    first.pkixData = second.pkixData ∧ first.fingerprint = second.fingerprint := by
  have encoded := left.encoded.symm.trans right.encoded
  simp only [Except.ok.injEq] at encoded
  refine ⟨encoded, ?_⟩
  rw [left.fingerprint, right.fingerprint, encoded]

variable {pub : PublicKeyMessage}

theorem typed_iff (faithful : Faithful hsm) {actual : KeyType}
    (describes : Describes hsm signer pub)
    (hasType : HasType actual (hsm.publicOf signer)) :
    Typed hsm pub ↔ pub.type = actual := by
  have read := faithful.readsBack _ _ describes.encoded
  rw [← hasType_iff hasType]
  constructor
  · rintro ⟨_, readKey, typed⟩
    rw [read] at readKey
    cases readKey
    exact typed
  · intro typed
    exact ⟨_, read, typed⟩

theorem publicKey_unspecified {id : String} {actual : KeyType}
    (described : publicKey hsm.toKeyLibrary id .unspecified signer = .ok pub)
    (hasType : HasType actual (hsm.publicOf signer)) :
    pub.id = id ∧ pub.type = actual ∧ Describes hsm signer pub := by
  obtain ⟨named, typed, describes⟩ := publicKey_eq_ok described
  rw [if_pos rfl, keyTypeFromPublic_of_hasType hasType] at typed
  exact ⟨named, typed, describes⟩

variable {keyId : String} {keyType : KeyType}

/-- Whether it was found or made, the key pair of a generation has the type of the
first one, and the other names keep theirs. -/
theorem Represents.generated (represents : Represents hsm cfg token keys)
    (generated : Generated hsm cfg keyId keyType token pub after) :
    ∃ signer, Holds hsm cfg after keyId signer ∧
      HasType (generatedType (keys.firstType keyId keyType)) (hsm.publicOf signer) ∧
      publicKey hsm.toKeyLibrary keyId keyType signer = .ok pub ∧
      ∀ id, id ≠ keyId → after (cfg.refForKey id).keyLabel = token (cfg.refForKey id).keyLabel := by
  obtain ⟨_, opens, signer, described, ⟨found, rfl⟩ | ⟨missing, put⟩⟩ := generated
  · obtain ⟨issued, recorded, _, typed, _⟩ := represents.issued ⟨opens, found⟩
    refine ⟨signer, ⟨opens, found⟩, ?_, described, fun _ _ => rfl⟩
    simpa [KeyMap.firstType, recorded] using typed
  · have unknown : keys keyId = none := by
      rw [represents.none_iff keyId]
      rintro _ ⟨_, found⟩
      rw [missing] at found
      cases found
    have typed := hasType_of_put put
    obtain ⟨_, rfl⟩ := put
    refine ⟨signer, ⟨opens, Function.update_self _ _ _⟩, ?_, described, ?_⟩
    · simpa [KeyMap.firstType, unknown] using typed
    · intro _ different
      apply Function.update_of_ne
      intro same
      exact different (refForKey_keyLabel_inj same)

theorem Represents.record_generated (represents : Represents hsm cfg token keys)
    (generated : Generated hsm cfg keyId keyType token pub after) :
    Represents hsm cfg after (keys.record (.generateKey keyId keyType) (.ok (.generated pub))) := by
  obtain ⟨signer, holds, typed, described, others⟩ := represents.generated generated
  constructor
  · intro id unknown
    have different : id ≠ keyId := by
      rintro rfl
      simp [KeyMap.record] at unknown
    rw [others id different]
    exact represents.absent id (by simpa [KeyMap.record, different] using unknown)
  · intro id issued recorded
    by_cases same : id = keyId
    · subst same
      have isIssued : issued = ⟨pub, keyType, keys.firstType id keyType⟩ := by
        simpa [KeyMap.record, eq_comm] using recorded
      rw [isIssued]
      exact ⟨generated.1, signer, holds, typed, (publicKey_eq_ok described).2.2⟩
    · have before : keys id = some issued := by simpa [KeyMap.record, same] using recorded
      obtain ⟨named, other, otherHolds, otherTyped⟩ := represents.present id issued before
      refine ⟨named, other, ⟨otherHolds.1, ?_⟩, otherTyped⟩
      rw [others id same]
      exact otherHolds.2

variable (faithful : Faithful hsm)
variable (represents : Represents hsm cfg token keys)
include faithful represents

theorem Represents.generate_conforms (generated : Generated hsm cfg keyId keyType token pub after) :
    Conforms hsm keys (.generateKey keyId keyType) (.ok (.generated pub)) ↔
      Agrees cfg keys (.generateKey keyId keyType) := by
  obtain ⟨_, _, typed, described, _⟩ := represents.generated generated
  obtain ⟨named, reported, describes⟩ := publicKey_eq_ok described
  simp only [Conforms, Agrees, named, and_true]
  rw [typed_iff faithful describes typed, reported]
  by_cases unspecified : keyType = .unspecified
  · rw [if_pos unspecified, keyTypeFromPublic_of_hasType typed]
    simp [unspecified]
  · rw [if_neg unspecified]
    simp [unspecified]

theorem Represents.get_conforms (holds : Holds hsm cfg token keyId signer)
    (described : publicKey hsm.toKeyLibrary keyId .unspecified signer = .ok pub) :
    Conforms hsm keys (.getPublicKey keyId) (.ok (.found pub)) ↔
      Agrees cfg keys (.getPublicKey keyId) := by
  obtain ⟨issued, recorded, _, typed, issuedDescribes⟩ := represents.issued holds
  obtain ⟨named, reported, describes⟩ := publicKey_unspecified described typed
  obtain ⟨samePkix, sameFingerprint⟩ := describes.same issuedDescribes
  have isTyped : Typed hsm pub := (typed_iff faithful describes typed).mpr reported
  simp only [Conforms, Agrees, recorded, Option.some.injEq]
  constructor
  · rintro ⟨_, _, _, rfl, _, _, requested⟩ _ rfl
    rw [← requested, reported]
  · intro agrees
    exact ⟨isTyped, named, issued, rfl, samePkix, sameFingerprint,
      reported.trans (agrees issued rfl).symm⟩

theorem Represents.list_conforms {pubs : List PublicKeyMessage}
    (listed : Listed hsm cfg token cfg.knownKeyIDs pubs) :
    Conforms hsm keys .getPublicKeys (.ok (.listed pubs)) ↔ Agrees cfg keys .getPublicKeys := by
  have allTyped : ∀ pub ∈ pubs, Typed hsm pub := by
    intro pub member
    obtain ⟨signer, holds, described⟩ := listed.described pub member
    obtain ⟨issued, _, _, typed, _⟩ := represents.issued holds
    obtain ⟨_, reported, describes⟩ := publicKey_unspecified described typed
    exact (typed_iff faithful describes typed).mpr reported
  have counts : ∀ id, (pubs.map PublicKeyMessage.id).count id =
      if (keys id).isSome then cfg.knownKeyIDs.count id else 0 := by
    intro id
    cases recorded : keys id with
    | none => exact listed.absent ((represents.none_iff id).mp recorded)
    | some issued =>
      obtain ⟨_, signer, holds, _⟩ := represents.present id issued recorded
      exact listed.held id signer holds
  simp only [Conforms, Agrees, counts]
  constructor
  · rintro ⟨_, once⟩ id known
    simpa [known] using once id
  · intro once
    refine ⟨allTyped, fun id => ?_⟩
    by_cases known : (keys id).isSome
    · simp [known, once id known]
    · simp [known]

theorem Represents.sign_conforms {req : SignDataRequest} {opts : SignerOpts}
    {signature : Bytes} (holds : Holds hsm cfg token req.keyId signer)
    (described : publicKey hsm.toKeyLibrary req.keyId .unspecified signer = .ok pub)
    (chosen : signerOpts req = .ok opts)
    (verified : hsm.verifies (hsm.publicOf signer) opts req.data signature) :
    Conforms hsm keys (.signData req) (.ok (.signed signature pub.fingerprint)) := by
  obtain ⟨issued, recorded, _, typed, issuedDescribes⟩ := represents.issued holds
  obtain ⟨_, _, describes⟩ := publicKey_unspecified described typed
  exact ⟨issued, hsm.publicOf signer, opts, recorded,
    (describes.same issuedDescribes).2, faithful.readsBack _ _ issuedDescribes.encoded, chosen,
    verified⟩

/-- One call: its outcome agrees with the map just if the condition holds or it
fails, and the token represents the map afterwards. -/
theorem Represents.step {call : Call} {outcome : Except Status Response}
    (ended : (serve hsm.toKeyLibrary cfg call).Ends (tokenAnswer hsm) token outcome after) :
    (Conforms hsm keys call outcome ↔ (outcome.isOk = true → Agrees cfg keys call)) ∧
      Represents hsm cfg after (keys.record call outcome) := by
  cases call with
  | generateKey =>
    have known := (generateKey_yields faithful).ends tokenContract_alone trivial rfl ended
    cases outcome with
    | error =>
      rw [show after = token from known]
      exact ⟨⟨fun _ => nofun, fun _ => trivial⟩, represents⟩
    | ok =>
      obtain ⟨pub, rfl, generated⟩ := known
      refine ⟨?_, represents.record_generated generated⟩
      rw [represents.generate_conforms faithful generated]
      exact ⟨fun agrees _ => agrees, fun agrees => agrees rfl⟩
  | getPublicKey keyId =>
    obtain ⟨rfl, known⟩ := (getPublicKey_yields faithful).ends tokenContract_alone trivial rfl ended
    refine ⟨?_, represents⟩
    cases outcome with
    | error =>
      have unknown : keys keyId = none := by
        rcases known with rfl | missing
        · cases recorded : keys "" with
          | none => rfl
          | some issued => exact absurd rfl (represents.present "" issued recorded).1
        · exact (represents.none_iff keyId).mpr missing
      exact ⟨fun _ => nofun, fun _ => unknown⟩
    | ok =>
      obtain ⟨pub, signer, rfl, holds, described⟩ := known
      rw [represents.get_conforms faithful holds described]
      exact ⟨fun agrees _ => agrees, fun agrees => agrees rfl⟩
  | getPublicKeys =>
    obtain ⟨rfl, known⟩ := (getPublicKeys_yields faithful).ends tokenContract_alone trivial rfl
      ended
    refine ⟨?_, represents⟩
    cases outcome with
    | error =>
      have empty : ∀ id, keys id = none := by
        intro id
        rw [represents.none_iff id]
        intro signer holds
        exact known id holds.1
      exact ⟨fun _ => nofun, fun _ => empty⟩
    | ok =>
      obtain ⟨_, rfl, listed⟩ := known
      rw [represents.list_conforms faithful listed]
      exact ⟨fun agrees _ => agrees, fun agrees => agrees rfl⟩
  | signData req =>
    obtain ⟨rfl, known⟩ := (signData_yields faithful).ends tokenContract_alone trivial rfl ended
    refine ⟨?_, represents⟩
    cases outcome with
    | error =>
      refine ⟨fun _ => nofun, fun _ notFound => ?_⟩
      exact (represents.none_iff req.keyId).mpr (known notFound)
    | ok =>
      obtain ⟨_, _, _, _, rfl, holds, described, chosen, verified⟩ := known
      exact ⟨fun _ _ => trivial,
        fun _ => represents.sign_conforms faithful holds described chosen verified⟩

end Map

section Runs

abbrev Served := Call × Except Status Response

/-- The calls that are made one after another on an empty token, the latest one
first, and the token they leave. -/
inductive Runs (hsm : Hardware) (cfg : PluginConfig) : List Served → Token → Prop where
  | start : Runs hsm cfg [] fun _ => none
  | call {history : List Served} {token after : Token} (call : Call)
      (outcome : Except Status Response) (earlier : Runs hsm cfg history token)
      (ended : (serve hsm.toKeyLibrary cfg call).Ends (tokenAnswer hsm) token outcome after) :
      Runs hsm cfg ((call, outcome) :: history) after

def keysAfter : List Served → KeyMap
  | [] => fun _ => none
  | (call, outcome) :: earlier => (keysAfter earlier).record call outcome

/-- Every call agreed with the map of the calls before it. -/
def Conforming (hsm : Hardware) : List Served → Prop
  | [] => True
  | (call, outcome) :: earlier =>
    Conforms hsm (keysAfter earlier) call outcome ∧ Conforming hsm earlier

/-- Every call that succeeded met the condition. -/
def Agreeing (cfg : PluginConfig) : List Served → Prop
  | [] => True
  | (call, outcome) :: earlier =>
    (outcome.isOk = true → Agrees cfg (keysAfter earlier) call) ∧ Agreeing cfg earlier

variable {hsm : Hardware} {cfg : PluginConfig}

theorem represents_of_runs (faithful : Faithful hsm) {history : List Served} {token : Token}
    (runs : Runs hsm cfg history token) :
    Represents hsm cfg token (keysAfter history) := by
  induction runs with
  | start =>
    constructor
    · intro id _
      rfl
    · intro _ _ impossible
      cases impossible
  | call _ _ _ ended ih => exact (ih.step faithful ended).2

/-- Over every sequence of calls on an empty token, the calls agree with the map
from names to keys just if every successful one meets the condition. -/
theorem calls_refine_map_iff (faithful : Faithful hsm) {history : List Served}
    {token : Token} (runs : Runs hsm cfg history token) :
    Conforming hsm history ↔ Agreeing cfg history := by
  induction runs with
  | start => exact Iff.rfl
  | call _ _ earlier ended ih =>
    have step := ((represents_of_runs faithful earlier).step faithful ended).1
    simp only [Conforming, Agreeing]
    rw [step, ih]

end Runs

section Departures

def ecKey : PublicKey := .ecdsa "P-256" 1 2

def rsaKey : PublicKey := .rsa (2 ^ 2047) 65537

/-- A token whose key pair zero is of one type and all others of another. -/
def sampleHardware : Hardware where
  sha256 bytes := bytes
  marshalPKIXPublicKey key :=
    if key = ecKey then .ok [0] else if key = rsaKey then .ok [1] else .error "unsupported key"
  publicOf
    | 0 => ecKey
    | _ + 1 => rsaKey
  parsePKIXPublicKey
    | [0] => .ok ecKey
    | [1] => .ok rsaKey
    | _ => .error "malformed key"
  configure _ _ _ := .ok ()
  verifies _ _ _ _ := True

theorem sampleHardware_faithful : Faithful sampleHardware where
  encodes signer := by
    cases signer with
    | zero => exact ⟨[0], rfl⟩
    | succ => exact ⟨[1], by simp [sampleHardware, ecKey, rsaKey]⟩
  readsBack key der encoded := by
    simp only [sampleHardware] at encoded
    split at encoded
    · rename_i isEc
      cases encoded
      rw [isEc]
      rfl
    · split at encoded
      · rename_i isRsa
        cases encoded
        rw [isRsa]
        rfl
      · cases encoded

def sampleSigner (spec : KeySpec) : Except Error Nat :=
  if spec = .ecdsa "P-256" then .ok 0 else if spec = .rsa 2048 then .ok 1
  else failure "unsupported mechanism"

def sampleStore (token : Token) (label : String) : Except Error Nat → Token
  | .ok signer => Function.update token label (some signer)
  | .error _ => token

def sampleOracle : Oracle signature Token
  | token, .token (.get _) => (.error (.message "no cluster"), token)
  | token, .token (.jsonPatch _ _) => (.error (.message "no cluster"), token)
  | token, .token (.mergePatch _ _) => (.error (.message "no cluster"), token)
  | token, .token (.getenv _) => ("", token)
  | token, .token .now => ((0 : Time), token)
  | token, .token (.randomInt _) => (.ok 0, token)
  | token, .token (.configureToken _ _ _) => (.ok (), token)
  | token, .token (.findKeyPair label) => (.ok (token label), token)
  | token, .token .closeToken => (.ok (), token)
  | token, .token (.createCertificate _ _ _ _) => (.error (.message "no certificates"), token)
  | token, .generateKeyPair _ label spec =>
    (sampleSigner spec, sampleStore token label (sampleSigner spec))
  | token, .sign _ _ _ => (.ok [], token)

theorem sampleOracle_follows :
    Program.Follows (tokenAnswer sampleHardware) sampleOracle fun _ => True := by
  refine ⟨fun token request _ => ?_, fun _ _ _ => trivial⟩
  cases request with
  | token request =>
    cases request with
    | configureToken | findKeyPair => exact ⟨rfl, rfl⟩
    | _ => rfl
  | sign => exact ⟨rfl, fun _ _ => trivial⟩
  | generateKeyPair =>
    simp only [sampleOracle, sampleSigner]
    split
    · rename_i isEc
      exact .inr ⟨0, rfl, by rw [isEc]; exact ⟨1, 2, rfl⟩, rfl⟩
    · split
      · rename_i isRsa
        have bits : bitLen (2 ^ 2047) = 2048 := by decide +kernel
        exact .inr ⟨1, rfl, by rw [isRsa]; exact ⟨_, _, rfl, bits⟩, rfl⟩
      · exact .inl ⟨_, rfl, rfl⟩

def sampleRun (cfg : PluginConfig) : List Call → List Served × Token
  | [] => ([], fun _ => none)
  | call :: earlier =>
    let before := sampleRun cfg earlier
    let ended := (serve sampleHardware.toKeyLibrary cfg call).eval sampleOracle before.2
    ((call, ended.1) :: before.1, ended.2)

theorem sampleRun_runs (cfg : PluginConfig) (calls : List Call) :
    Runs sampleHardware cfg (sampleRun cfg calls).1 (sampleRun cfg calls).2 := by
  induction calls with
  | nil => exact .start
  | cons call _ ih => exact .call call _ ih (sampleOracle_follows.ends _ trivial)

def plainConfig : PluginConfig where
  modulePath := "/usr/lib64/pkcs11/libtpm2_pkcs11.so"
  tokenLabel := "spire"
  userPIN := ""
  keyLabelPrefix := "sovereignite-spire-"
  knownKeyIDs := []

/-- Under a configuration without known names a key that was generated is not
listed; and a key that is generated again with another type is reported with
the new type and the old encoding, and then found with the old type. -/
theorem calls_depart_from_map :
    parseConfig (fun _ => "") "token_label = \"spire\"" = .ok plainConfig ∧
    (∃ history token, Runs sampleHardware plainConfig history token ∧
      history.head? = some (.getPublicKeys, .ok (.listed [])) ∧
      ¬ Conforming sampleHardware history) ∧
    (∃ history token, Runs sampleHardware plainConfig history token ∧
      history.head? = some (.generateKey "a" .rsa2048,
        .ok (.generated ⟨"a", .rsa2048, [0], "00"⟩)) ∧
      ¬ Conforming sampleHardware history) ∧
    ∃ history token, Runs sampleHardware plainConfig history token ∧
      history.head? = some (.getPublicKey "a", .ok (.found ⟨"a", .ecP256, [0], "00"⟩)) ∧
      ¬ Conforms sampleHardware (keysAfter history.tail) (.getPublicKey "a")
        (.ok (.found ⟨"a", .ecP256, [0], "00"⟩)) := by
  refine ⟨rfl, ⟨_, _, sampleRun_runs plainConfig [.getPublicKeys, .generateKey "a" .ecP256],
    rfl, ?_⟩, ⟨_, _, sampleRun_runs plainConfig
      [.generateKey "a" .rsa2048, .generateKey "a" .ecP256], rfl, ?_⟩,
    ⟨_, _, sampleRun_runs plainConfig
      [.getPublicKey "a", .generateKey "a" .rsa2048, .generateKey "a" .ecP256], rfl, ?_⟩⟩
  · rintro ⟨⟨_, counts⟩, _⟩
    have once := counts "a"
    cases once
  · rintro ⟨⟨⟨_, read, _, _, isRsa, _⟩, _⟩, _⟩
    cases read
    cases isRsa
  · rintro ⟨_, _, _, recorded, _, _, requested⟩
    cases recorded
    cases requested

/-- A configuration that knows the key, which is generated, found, listed and used
with one type. -/
def knowingConfig : PluginConfig :=
  { plainConfig with knownKeyIDs := ["a"] }

theorem single_typed_known_key_conforms :
    ∃ history token, Runs sampleHardware knowingConfig history token ∧
      history.length = 5 ∧ Agreeing knowingConfig history ∧
      Conforming sampleHardware history := by
  have runs := sampleRun_runs knowingConfig [.signData ⟨"a", [], .none⟩, .getPublicKeys,
    .getPublicKey "a", .generateKey "a" .ecP256, .generateKey "a" .ecP256]
  have agreeing : Agreeing knowingConfig (sampleRun knowingConfig [.signData ⟨"a", [], .none⟩,
      .getPublicKeys, .getPublicKey "a", .generateKey "a" .ecP256,
      .generateKey "a" .ecP256]).1 := by
    refine ⟨fun _ => trivial, fun _ => ?_, fun _ => ?_, fun _ => .inr rfl, fun _ => .inr rfl,
      trivial⟩
    · intro id known
      by_cases same : id = "a"
      · rw [same]
        rfl
      · change ((Function.update (Function.update (fun _ => none) "a" _) "a" _ : KeyMap)
          id).isSome = true at known
        simp [same] at known
    · intro _ recorded
      cases recorded
      rfl
  exact ⟨_, _, runs, rfl, agreeing,
    (calls_refine_map_iff sampleHardware_faithful runs).mpr agreeing⟩

end Departures

end Sovereignite.Controllers.SpireKeys
