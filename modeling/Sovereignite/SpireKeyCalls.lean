import Sovereignite.EffectOutcomes
import Sovereignite.SpireKeyManager

/-!
# What the calls of the key manager come to

A token is a map from labels to key pairs.  Looking a label up gives what is
stored under it; making a key pair and signing can fail.  Each call has one
lemma that says which outcomes it can have and what it leaves in the token.
-/

namespace Sovereignite.Controllers.SpireKeys

open Effect

variable {signer : Nat}

section Hardware

/-- The key pair under each label. -/
abbrev Token := String → Option Nat

/-- A token and the libraries.  `configure` opens the token with a module, a
label and a PIN, and `verifies` says which signatures belong to a key. -/
structure Hardware extends KeyLibrary where
  parsePKIXPublicKey : Bytes → Except String PublicKey
  configure : String → String → String → Except Error Unit
  verifies : PublicKey → SignerOpts → Bytes → Bytes → Prop

/-- Every key of the token can be encoded, and an encoded key is read back. -/
structure Faithful (hsm : Hardware) : Prop where
  encodes : ∀ signer, ∃ der, hsm.marshalPKIXPublicKey (hsm.publicOf signer) = .ok der
  readsBack : ∀ key der, hsm.marshalPKIXPublicKey key = .ok der →
    hsm.parsePKIXPublicKey der = .ok key

/-- The public keys of the key pairs of a kind. -/
def OfSpec : KeySpec → PublicKey → Prop
  | .ecdsa curve, key => ∃ x y, key = .ecdsa curve x y
  | .rsa bits, key => ∃ modulus exponent, key = .rsa modulus exponent ∧ bitLen modulus = bits

/-- How a token answers.  Making a key pair and signing can fail. -/
def tokenAnswer (hsm : Hardware) (token : Token) :
    (request : Request) → Reply request → Token → Prop
  | .token (.configureToken path label pin), reply, after =>
    after = token ∧ reply = hsm.configure path label pin
  | .token (.findKeyPair label), reply, after => after = token ∧ reply = .ok (token label)
  | .token _, _, after => after = token
  | .generateKeyPair _ label spec, reply, after =>
    (∃ error, reply = .error error ∧ after = token) ∨
      ∃ signer, reply = .ok signer ∧ OfSpec spec (hsm.publicOf signer) ∧
        after = Function.update token label (some signer)
  | .sign signer data opts, reply, after => after = token ∧
      ∀ signature, reply = .ok signature → hsm.verifies (hsm.publicOf signer) opts data signature

/-- The contract of a call, which has the token for itself. -/
def tokenContract (hsm : Hardware) : Contract signature Token where
  answer := tokenAnswer hsm
  valid _ := True
  rely := Eq
  guarantee _ _ := True

abbrev Yields {ε α : Type} (hsm : Hardware) (token : Token)
    (program : Program signature ε α) (post : Except ε α → Token → Prop) : Prop :=
  Concludes (tokenContract hsm) (· = token) program post

variable {ε α : Type} {hsm : Hardware} {token : Token}

theorem tokenContract_alone : (tokenContract hsm).Alone := ⟨rfl, fun _ _ => trivial⟩

variable {post : Except ε α → Token → Prop}

theorem Yields.quiet {request : Request} {next : Reply request → Program signature ε α}
    {fact : Reply request → Prop}
    (answered : ∀ reply after, tokenAnswer hsm token request reply after →
      after = token ∧ fact reply)
    (second : ∀ reply, fact reply → Yields hsm token (next reply) post) :
    Yields hsm token (ask request >>= next) post := by
  have learned : ∀ world reply after, (tokenContract hsm).valid world → world = token →
      (tokenContract hsm).answer world request reply after →
      (tokenContract hsm).valid after ∧ (fact reply ∧ after = token) := by
    rintro _ reply after _ rfl answer
    obtain ⟨same, known⟩ := answered reply after answer
    exact ⟨trivial, known, same⟩
  apply Concludes.call tokenContract_alone learned
  intro reply
  exact Concludes.assume (second reply)

theorem Yields.asked {request : Request} :
    Yields hsm token (ask request : Program signature ε (Reply request))
      fun outcome after => ∃ reply, outcome = .ok reply ∧
        tokenAnswer hsm token request reply after := by
  rintro _ _ rfl _ _ rfl reply _ answer
  exact ⟨trivial, trivial, trivial, reply, rfl, answer⟩

theorem Yields.configure {path label pin : String}
    {next : Except Error Unit → Program signature ε α}
    (second : ∀ reply, reply = hsm.configure path label pin → Yields hsm token (next reply) post) :
    Yields hsm token (ask (.token (.configureToken path label pin)) >>= next) post :=
  .quiet (fun _ _ answer => answer) second

theorem Yields.findKeyPair {label : String}
    {next : Except Error (Option Nat) → Program signature ε α}
    (second : ∀ reply, reply = .ok (token label) → Yields hsm token (next reply) post) :
    Yields hsm token (ask (.token (.findKeyPair label)) >>= next) post :=
  .quiet (fun _ _ answer => answer) second

theorem Yields.closeToken {next : Except Error Unit → Program signature ε α}
    (second : ∀ reply, Yields hsm token (next reply) post) :
    Yields hsm token (ask (.token .closeToken) >>= next) post :=
  .quiet (fun _ _ answer => ⟨answer, trivial⟩) fun reply (_ : True) => second reply

theorem Yields.sign {data : Bytes} {opts : SignerOpts}
    {next : Except Error Bytes → Program signature ε α}
    (second : ∀ reply, (∀ signature, reply = .ok signature →
        hsm.verifies (hsm.publicOf signer) opts data signature) →
      Yields hsm token (next reply) post) :
    Yields hsm token (ask (.sign signer data opts) >>= next) post :=
  .quiet (fun _ _ answer => answer) second

theorem Yields.bindAttempt {ε' β : Type} {program : Program signature ε α}
    {next : Except ε α → Program signature ε' β} {fact : Except ε α → Prop}
    {post : Except ε' β → Token → Prop}
    (first : Yields hsm token program fun outcome after => after = token ∧ fact outcome)
    (second : ∀ outcome, fact outcome → Yields hsm token (next outcome) post) :
    Yields hsm token (program.attempt >>= next) post := by
  apply Concludes.bindAttempt first
  intro outcome
  refine Concludes.strengthen ?_ (Concludes.assume (second outcome))
  rintro _ _ ⟨same, known⟩
  exact ⟨known, same⟩

end Hardware

section Signers

variable {hsm : Hardware} {token : Token} {ref : PKCS11Ref}

/-- The token can be opened and the label is one. -/
structure Opens (hsm : Hardware) (ref : PKCS11Ref) : Prop where
  modulePath : ref.modulePath ≠ ""
  tokenLabel : ref.tokenLabel ≠ ""
  keyLabel : ref.keyLabel ≠ ""
  configured : hsm.configure ref.modulePath ref.tokenLabel ref.userPIN = .ok ()

/-- A key pair is found, or there is none to be found. -/
def Looked (hsm : Hardware) (ref : PKCS11Ref) (token : Token) : Except Error Nat → Prop
  | .ok signer => Opens hsm ref ∧ token ref.keyLabel = some signer
  | .error _ => Opens hsm ref → token ref.keyLabel = none

theorem named_of_passed
    (passed : (ref.modulePath == "" || ref.tokenLabel == "" || ref.keyLabel == "") = false) :
    ref.modulePath ≠ "" ∧ ref.tokenLabel ≠ "" ∧ ref.keyLabel ≠ "" := by
  simpa [and_assoc] using passed

theorem not_opens_of_rejected
    (rejected : (ref.modulePath == "" || ref.tokenLabel == "" || ref.keyLabel == "") = true) :
    ¬ Opens hsm ref := by
  intro opens
  simp [opens.modulePath, opens.tokenLabel, opens.keyLabel] at rejected

theorem embed_ask (request : Controllers.Request) :
    (Controllers.ask request).embed shared = ask (.token request) := rfl

theorem findSigner_yields : Yields hsm token (findSigner ref) fun outcome after =>
      after = token ∧ Looked hsm ref token outcome := by
  simp only [findSigner, loadPKCS11Signer, takeAs, Program.embed_bind, Program.embed_rejectIf,
    Program.embed_ofExcept, embed_ask]
  apply Concludes.bindRejectIf
  · rintro rejected _ _ rfl
    exact ⟨rfl, fun opens => absurd opens (not_opens_of_rejected rejected)⟩
  · intro passed
    obtain ⟨modulePath, tokenLabel, keyLabel⟩ := named_of_passed passed
    apply Yields.configure
    intro reply configured
    cases reply with
    | error =>
      apply Concludes.fail
      rintro _ _ rfl
      refine ⟨rfl, fun opens => ?_⟩
      rw [opens.configured] at configured
      cases configured
    | ok =>
      have opens : Opens hsm ref := ⟨modulePath, tokenLabel, keyLabel, configured.symm⟩
      apply Yields.findKeyPair
      rintro _ rfl
      cases found : token ref.keyLabel with
      | some =>
        apply Concludes.ret
        rintro _ _ rfl
        exact ⟨rfl, opens, found⟩
      | none =>
        apply Yields.closeToken
        intro closed
        apply Concludes.fail
        rintro _ _ rfl
        exact ⟨rfl, fun _ => found⟩

/-- A key pair of the kind is under the label. -/
def Put (hsm : Hardware) (label keyType : String) (token : Token) (signer : Nat)
    (after : Token) : Prop :=
  (∃ spec, keySpecOf keyType = .ok spec ∧ OfSpec spec (hsm.publicOf signer)) ∧
    after = Function.update token label (some signer)

theorem makeKeyPair_yields {keyID label keyType : String} :
    Yields hsm token (makeKeyPair keyID label keyType) fun outcome after =>
      match outcome with
      | .ok (.ok signer) => Put hsm label keyType token signer after
      | .ok (.error _) => after = token
      | .error _ => False := by
  unfold makeKeyPair
  cases kind : keySpecOf keyType with
  | error =>
    apply Concludes.ret
    rintro _ _ rfl
    rfl
  | ok spec =>
    apply Concludes.weaken _ Yields.asked
    rintro _ _ _ ⟨_, rfl, ⟨_, rfl, rfl⟩ | ⟨_, rfl, ofSpec, rfl⟩⟩
    · rfl
    · exact ⟨⟨spec, kind, ofSpec⟩, rfl⟩

/-- A key pair is made, or the token is as before. -/
def Made (hsm : Hardware) (ref : PKCS11Ref) (keyType : String) (token : Token) :
    Except Error Nat → Token → Prop
  | .ok signer, after => Opens hsm ref ∧ Put hsm ref.keyLabel keyType token signer after
  | .error _, after => after = token

theorem generatePKCS11Signer_yields {keyID keyType : String} :
    Yields hsm token (generatePKCS11Signer ref keyID keyType) (Made hsm ref keyType token) := by
  unfold generatePKCS11Signer
  apply Concludes.bindRejectIf
  · rintro _ _ _ rfl
    rfl
  · intro passed
    obtain ⟨modulePath, tokenLabel, keyLabel⟩ := named_of_passed passed
    apply Yields.configure
    intro reply configured
    cases reply with
    | error =>
      apply Concludes.fail
      rintro _ _ rfl
      rfl
    | ok =>
      have opens : Opens hsm ref := ⟨modulePath, tokenLabel, keyLabel, configured.symm⟩
      apply Concludes.bind makeKeyPair_yields
      · intro error _ impossible
        exact impossible.elim
      · intro outcome
        cases outcome with
        | error =>
          apply Yields.closeToken
          intro closed
          apply Concludes.fail
          rintro _ _ rfl
          rfl
        | ok =>
          apply Concludes.ret
          intro _ _ put
          exact ⟨opens, put⟩

end Signers

variable {keyType : KeyType}

section Types

def HasType : KeyType → PublicKey → Prop
  | .ecP256, key => OfSpec (.ecdsa "P-256") key
  | .ecP384, key => OfSpec (.ecdsa "P-384") key
  | .rsa2048, key => OfSpec (.rsa 2048) key
  | .rsa4096, key => OfSpec (.rsa 4096) key
  | _, _ => False

def generatedType : KeyType → KeyType
  | .ecP384 => .ecP384
  | .rsa2048 => .rsa2048
  | .rsa4096 => .rsa4096
  | _ => .ecP256

theorem keyTypeFromPublic_of_hasType {key : PublicKey} (hasType : HasType keyType key) :
    keyTypeFromPublic key = keyType := by
  cases keyType with
  | ecP256 =>
    obtain ⟨x, y, rfl⟩ := hasType
    rfl
  | ecP384 =>
    obtain ⟨_, _, rfl⟩ := hasType
    rfl
  | rsa2048 =>
    obtain ⟨modulus, exponent, rfl, bits⟩ := hasType
    simp [keyTypeFromPublic, bits]
  | rsa4096 =>
    obtain ⟨_, _, rfl, bits⟩ := hasType
    simp [keyTypeFromPublic, bits]
  | unspecified | other => exact hasType.elim

theorem hasType_iff {keyType actual : KeyType} {key : PublicKey} (hasType : HasType actual key) :
    HasType keyType key ↔ keyType = actual := by
  constructor
  · intro also
    rw [← keyTypeFromPublic_of_hasType also, keyTypeFromPublic_of_hasType hasType]
  · rintro rfl
    exact hasType

theorem keySpecOf_spireKeyType (keyType : KeyType) :
    ∃ spec, keySpecOf (spireKeyType keyType) = .ok spec ∧
      ∀ key, OfSpec spec key → HasType (generatedType keyType) key := by
  cases keyType with
  | other =>
    have kind : keySpecOf "ec-p256" = .ok (.ecdsa "P-256") := rfl
    exact ⟨.ecdsa "P-256", kind, fun _ ofSpec => ofSpec⟩
  | _ => exact ⟨_, rfl, fun _ ofSpec => ofSpec⟩

theorem hasType_of_put {hsm : Hardware} {label : String} {token after : Token}
    (put : Put hsm label (spireKeyType keyType) token signer after) :
    HasType (generatedType keyType) (hsm.publicOf signer) := by
  obtain ⟨⟨_, kind, ofSpec⟩, _⟩ := put
  obtain ⟨_, expectedKind, typed⟩ := keySpecOf_spireKeyType keyType
  rw [kind] at expectedKind
  cases expectedKind
  exact typed _ ofSpec

end Types

section Calls

variable {hsm : Hardware} {cfg : PluginConfig} {token : Token}

/-- A message has the encoding and the fingerprint of a key pair. -/
structure Describes (hsm : Hardware) (signer : Nat) (pub : PublicKeyMessage) : Prop where
  encoded : hsm.marshalPKIXPublicKey (hsm.publicOf signer) = .ok pub.pkixData
  fingerprint : pub.fingerprint = encodeToString (hsm.sha256 pub.pkixData)

variable {requested : KeyType}

theorem publicKey_eq_ok {id : String} {pub : PublicKeyMessage}
    (described : publicKey hsm.toKeyLibrary id requested signer = .ok pub) :
    pub.id = id ∧
      pub.type = (if requested = .unspecified then keyTypeFromPublic (hsm.publicOf signer)
        else requested) ∧ Describes hsm signer pub := by
  obtain ⟨_, encoded, rest⟩ := bind_eq_ok.mp described
  cases rest
  obtain encoded := mapError_eq_ok.mp encoded
  exact ⟨rfl, rfl, encoded, rfl⟩

theorem publicKey_succeeds (faithful : Faithful hsm) (id : String) (requested : KeyType)
    (signer : Nat) : ∃ pub, publicKey hsm.toKeyLibrary id requested signer = .ok pub := by
  obtain ⟨_, encoded⟩ := faithful.encodes signer
  simp [publicKey, plain, encoded, Except.mapError, bind, Except.bind, pure, Except.pure]

variable {keyId : String}

theorem describe_yields (faithful : Faithful hsm) :
    Yields hsm token (describe hsm.toKeyLibrary keyId requested signer)
      fun outcome after => after = token ∧ ∃ pub, outcome = .ok pub ∧
        publicKey hsm.toKeyLibrary keyId requested signer = .ok pub := by
  obtain ⟨pub, described⟩ := publicKey_succeeds faithful keyId requested signer
  rw [describe, described]
  apply Yields.closeToken
  intro closed
  apply Concludes.ret
  rintro _ _ rfl
  exact ⟨rfl, pub, rfl, rfl⟩

theorem Yields.bindDescribe (faithful : Faithful hsm) {α : Type}
    {next : PublicKeyMessage → Serving α} {post : Except Status α → Token → Prop}
    (second : ∀ pub, publicKey hsm.toKeyLibrary keyId requested signer = .ok pub →
      Yields hsm token (next pub) post) :
    Yields hsm token (describe hsm.toKeyLibrary keyId requested signer >>= next)
      post := by
  apply Concludes.bind (describe_yields faithful)
  · rintro _ world ⟨_, pub, impossible, _⟩
    cases impossible
  · intro value
    have known : ∀ world, (tokenContract hsm).valid world →
        (world = token ∧ ∃ pub, (.ok value : Except Status _) = .ok pub ∧
          publicKey hsm.toKeyLibrary keyId requested signer = .ok pub) →
        publicKey hsm.toKeyLibrary keyId requested signer = .ok value ∧ world = token := by
      rintro _ _ ⟨same, _, isPub, described⟩
      cases isPub
      exact ⟨described, same⟩
    exact Concludes.strengthen known (Concludes.assume (second value))

theorem Yields.bindChecked {α : Type} {next : PluginConfig → Serving α}
    {post : Except Status α → Token → Prop}
    (failed : ∀ status : Status, status.code = .failedPrecondition →
      (∀ id, ¬ Opens hsm (cfg.refForKey id)) → post (.error status) token)
    (second : Yields hsm token (next cfg) post) :
    Yields hsm token (Program.ofExcept cfg.checked >>= next) post := by
  unfold PluginConfig.checked
  cases missing : cfg.modulePath == "" || cfg.tokenLabel == "" with
  | true =>
    apply Concludes.fail
    rintro _ _ rfl
    apply failed _ rfl
    intro _ opens
    have modulePath : cfg.modulePath ≠ "" := opens.modulePath
    have tokenLabel : cfg.tokenLabel ≠ "" := opens.tokenLabel
    simp [modulePath, tokenLabel] at missing
  | false => exact second

/-- The description of the key pair that a call came to. -/
def Generated (hsm : Hardware) (cfg : PluginConfig) (keyId : String) (keyType : KeyType)
    (token : Token) (pub : PublicKeyMessage) (after : Token) : Prop :=
  keyId ≠ "" ∧ Opens hsm (cfg.refForKey keyId) ∧
    ∃ signer, publicKey hsm.toKeyLibrary keyId keyType signer = .ok pub ∧
      (token (cfg.refForKey keyId).keyLabel = some signer ∧ after = token ∨
        token (cfg.refForKey keyId).keyLabel = none ∧
          Put hsm (cfg.refForKey keyId).keyLabel (spireKeyType keyType) token signer after)

theorem generateKey_yields (faithful : Faithful hsm) :
    Yields hsm token (generateKey hsm.toKeyLibrary cfg keyId keyType) fun outcome after =>
        match outcome with
        | .ok response => ∃ pub, response = .generated pub ∧
            Generated hsm cfg keyId keyType token pub after
        | .error _ => after = token := by
  apply Yields.bindChecked
  · intro _ _ _
    rfl
  apply Concludes.bindRejectIf
  · rintro _ _ _ rfl
    rfl
  intro nonempty
  have named : keyId ≠ "" := by simpa using nonempty
  apply Yields.bindAttempt findSigner_yields
  intro found looked
  cases found with
  | ok signer =>
    apply Yields.bindDescribe faithful
    intro pub described
    apply Concludes.ret
    rintro _ _ rfl
    exact ⟨pub, rfl, named, looked.1, signer, described, .inl ⟨looked.2, rfl⟩⟩
  | error error =>
    apply Concludes.bindAttempt generatePKCS11Signer_yields
    intro made
    cases made with
    | error =>
      apply Concludes.fail
      intro after _ kept
      exact kept
    | ok signer =>
      intro after _ ⟨opens, put⟩
      have rest : Yields hsm after (describe hsm.toKeyLibrary keyId keyType signer >>= fun pub =>
            pure (Response.generated pub))
          fun outcome final =>
            match outcome with
            | .ok response => ∃ pub, response = .generated pub ∧
                Generated hsm cfg keyId keyType token pub final
            | .error _ => final = token := by
        apply Yields.bindDescribe faithful
        intro pub described
        apply Concludes.ret
        rintro _ _ rfl
        exact ⟨pub, rfl, named, opens, signer, described, .inr ⟨looked opens, put⟩⟩
      exact rest after trivial rfl

/-- The key pair under the name of a key, if the token opens. -/
def Holds (hsm : Hardware) (cfg : PluginConfig) (token : Token) (keyId : String)
    (signer : Nat) : Prop :=
  Opens hsm (cfg.refForKey keyId) ∧ token (cfg.refForKey keyId).keyLabel = some signer

theorem not_holds_of_looked {error : Error}
    (looked : Looked hsm (cfg.refForKey keyId) token (.error error)) (signer : Nat) :
    ¬ Holds hsm cfg token keyId signer := by
  rintro ⟨opens, found⟩
  rw [looked opens] at found
  cases found

theorem getPublicKey_yields (faithful : Faithful hsm) :
    Yields hsm token (getPublicKey hsm.toKeyLibrary cfg keyId)
      fun outcome after => after = token ∧
        match outcome with
        | .ok response => ∃ pub signer, response = .found pub ∧ Holds hsm cfg token keyId signer ∧
            publicKey hsm.toKeyLibrary keyId .unspecified signer = .ok pub
        | .error _ => keyId = "" ∨ ∀ signer, ¬ Holds hsm cfg token keyId signer := by
  apply Yields.bindChecked
  · intro _ _ closed
    exact ⟨rfl, .inr fun signer holds => closed keyId holds.1⟩
  apply Concludes.bindRejectIf
  · rintro empty _ _ rfl
    exact ⟨rfl, .inl (by simpa using empty)⟩
  intro _
  apply Yields.bindAttempt findSigner_yields
  intro found looked
  cases found with
  | error =>
    apply Concludes.fail
    rintro _ _ rfl
    exact ⟨rfl, .inr (not_holds_of_looked looked)⟩
  | ok signer =>
    apply Yields.bindDescribe faithful
    intro pub described
    apply Concludes.ret
    rintro _ _ rfl
    exact ⟨rfl, pub, signer, rfl, looked, described⟩

theorem signData_yields (faithful : Faithful hsm) {req : SignDataRequest} :
    Yields hsm token (signData hsm.toKeyLibrary cfg req)
      fun outcome after => after = token ∧
        match outcome with
        | .ok response => ∃ signature pub signer opts,
            response = .signed signature pub.fingerprint ∧
            Holds hsm cfg token req.keyId signer ∧
            publicKey hsm.toKeyLibrary req.keyId .unspecified signer = .ok pub ∧
            signerOpts req = .ok opts ∧
            hsm.verifies (hsm.publicOf signer) opts req.data signature
        | .error status => status.code = .notFound →
            ∀ signer, ¬ Holds hsm cfg token req.keyId signer := by
  apply Yields.bindChecked
  · intro status code _
    refine ⟨rfl, fun notFound => ?_⟩
    rw [code] at notFound
    cases notFound
  apply Yields.bindAttempt findSigner_yields
  intro found looked
  cases found with
  | error =>
    apply Concludes.fail
    rintro _ _ rfl
    exact ⟨rfl, fun _ => not_holds_of_looked looked⟩
  | ok signer =>
    obtain ⟨pub, described⟩ := publicKey_succeeds faithful req.keyId .unspecified signer
    have signs : Yields hsm token (signWith hsm.toKeyLibrary req signer)
        fun outcome after => after = token ∧ match outcome with
          | .ok response => ∃ signature opts, response = .signed signature pub.fingerprint ∧
              signerOpts req = .ok opts ∧
              hsm.verifies (hsm.publicOf signer) opts req.data signature
          | .error status => status.code ≠ .notFound := by
      unfold signWith
      rw [described]
      cases chosen : signerOpts req with
      | error =>
        apply Concludes.fail
        rintro _ _ rfl
        exact ⟨rfl, nofun⟩
      | ok opts =>
        apply Yields.sign
        intro reply verified
        cases reply with
        | error =>
          apply Concludes.fail
          rintro _ _ rfl
          exact ⟨rfl, nofun⟩
        | ok signature =>
          apply Concludes.ret
          rintro _ _ rfl
          exact ⟨rfl, signature, opts, rfl, rfl, verified signature rfl⟩
    apply Yields.bindAttempt signs
    intro outcome known
    apply Yields.closeToken
    intro closed
    apply Concludes.ofExcept
    rintro _ _ rfl
    cases outcome with
    | error => exact ⟨rfl, fun notFound => absurd notFound known⟩
    | ok =>
      obtain ⟨signature, opts, rfl, chosen, verified⟩ := known
      exact ⟨rfl, signature, pub, signer, opts, rfl, looked, described, chosen, verified⟩

end Calls

section Listing

variable {hsm : Hardware} {cfg : PluginConfig} {token : Token}

/-- A list describes the key pairs under some names, once for each time a name
occurs among them. -/
structure Listed (hsm : Hardware) (cfg : PluginConfig) (token : Token)
    (ids : List String) (pubs : List PublicKeyMessage) : Prop where
  described : ∀ pub ∈ pubs, ∃ signer, Holds hsm cfg token pub.id signer ∧
    publicKey hsm.toKeyLibrary pub.id .unspecified signer = .ok pub
  held : ∀ id signer, Holds hsm cfg token id signer →
    (pubs.map PublicKeyMessage.id).count id = ids.count id

variable {pubs : List PublicKeyMessage} {ids : List String}

theorem Listed.absent (listed : Listed hsm cfg token ids pubs) {id : String}
    (missing : ∀ signer, ¬ Holds hsm cfg token id signer) :
    (pubs.map PublicKeyMessage.id).count id = 0 := by
  rw [List.count_eq_zero, List.mem_map]
  rintro ⟨pub, member, rfl⟩
  obtain ⟨signer, holds, _⟩ := listed.described pub member
  exact missing signer holds

variable {keyID : String}

/-- A name without a key pair adds nothing. -/
theorem Listed.skip (listed : Listed hsm cfg token ids pubs)
    (missing : ∀ signer, ¬ Holds hsm cfg token keyID signer) :
    Listed hsm cfg token (ids ++ [keyID]) pubs where
  described := listed.described
  held := by
    intro id signer holds
    have different : keyID ≠ id := by
      rintro rfl
      exact missing signer holds
    simp [listed.held id signer holds, different]

theorem Listed.append (listed : Listed hsm cfg token ids pubs) {pub : PublicKeyMessage}
    (holds : Holds hsm cfg token keyID signer)
    (described : publicKey hsm.toKeyLibrary keyID .unspecified signer = .ok pub) :
    Listed hsm cfg token (ids ++ [keyID]) (pubs ++ [pub]) := by
  have named := (publicKey_eq_ok described).1
  constructor
  · intro other member
    rcases List.mem_append.mp member with earlier | last
    · exact listed.described other earlier
    · rw [List.mem_singleton.mp last, named]
      exact ⟨signer, holds, described⟩
  · intro id other found
    simp [listed.held id other found, named]

theorem listKey_yields (faithful : Faithful hsm) {out : List PublicKeyMessage}
    (listed : Listed hsm cfg token ids out) :
    Yields hsm token (listKey hsm.toKeyLibrary cfg out keyID)
      fun outcome after => ∃ pubs, outcome = .ok pubs ∧
        Listed hsm cfg token (ids ++ [keyID]) pubs ∧ after = token := by
  apply Yields.bindAttempt findSigner_yields
  intro found looked
  cases found with
  | error =>
    apply Concludes.ret
    rintro _ _ rfl
    exact ⟨out, rfl, listed.skip (not_holds_of_looked looked), rfl⟩
  | ok signer =>
    obtain ⟨pub, described⟩ := publicKey_succeeds faithful keyID .unspecified signer
    apply Yields.closeToken
    intro closed
    rw [described]
    apply Concludes.ret
    rintro _ _ rfl
    exact ⟨out ++ [pub], rfl, listed.append looked described, rfl⟩

/-- The loop over the names that are left, when those before are listed. -/
theorem listKeys_yields (faithful : Faithful hsm) (rest : List String) :
    ∀ (ids : List String) (out : List PublicKeyMessage), Listed hsm cfg token ids out →
      Yields hsm token (Program.forEach (listKey hsm.toKeyLibrary cfg) out rest)
        fun outcome after => ∃ pubs, outcome = .ok pubs ∧
          Listed hsm cfg token (ids ++ rest) pubs ∧ after = token := by
  induction rest with
  | nil =>
    intro ids out listed
    apply Concludes.ret
    rintro _ _ rfl
    exact ⟨out, rfl, by simpa using listed, rfl⟩
  | cons keyID _ ih =>
    intro ids _ listed
    apply Concludes.bind (listKey_yields faithful listed)
    · rintro _ world ⟨pubs, impossible, _⟩
      cases impossible
    · intro value world valid ⟨_, isPubs, extended, same⟩
      cases isPubs
      have continued := ih (ids ++ [keyID]) value extended
      rw [List.append_assoc] at continued
      exact continued world valid same

theorem getPublicKeys_yields (faithful : Faithful hsm) :
    Yields hsm token (getPublicKeys hsm.toKeyLibrary cfg)
      fun outcome after => after = token ∧
        match outcome with
        | .ok response => ∃ pubs, response = .listed pubs ∧
            Listed hsm cfg token cfg.knownKeyIDs pubs
        | .error _ => ∀ id, ¬ Opens hsm (cfg.refForKey id) := by
  apply Yields.bindChecked
  · intro _ _ closed
    exact ⟨rfl, closed⟩
  have nothing : Listed hsm cfg token [] [] := by
    constructor
    · intro _ member
      cases member
    · intro _ _ _
      rfl
  apply Concludes.bind (listKeys_yields faithful cfg.knownKeyIDs [] [] nothing)
  · rintro _ world ⟨pubs, impossible, _⟩
    cases impossible
  · intro value
    apply Concludes.ret
    rintro _ _ ⟨_, isPubs, listed, same⟩
    cases isPubs
    exact ⟨same, value, rfl, listed⟩

end Listing

end Sovereignite.Controllers.SpireKeys
