import Sovereignite.CertificateSigning
import Sovereignite.EffectEmbedding

/-!
# The key manager of the identity server

The plugin keeps no keys of its own.  A key of the identity server is a key pair
of a hardware token whose label is a configured text followed by the name of the
key, and every call looks the key pair up under its label.
-/

namespace Sovereignite.Controllers.SpireKeys

open Effect

section Messages

/-- The types of keys; the number of a type that is not known is kept. -/
inductive KeyType where
  | unspecified
  | ecP256
  | ecP384
  | rsa2048
  | rsa4096
  | other (number : Int)
  deriving DecidableEq

/-- The hash algorithms; one that is not supported is kept by its name. -/
inductive HashAlgorithm where
  | unspecified
  | sha256
  | sha384
  | sha512
  | other (name : String)
  deriving DecidableEq

/-- What a caller says about the way of signing. -/
inductive RequestedOpts where
  | none
  | hashAlgorithm (alg : HashAlgorithm)
  | pssOptions (saltLength : Int) (alg : HashAlgorithm)
  deriving DecidableEq

structure SignDataRequest where
  keyId : String
  data : Bytes
  opts : RequestedOpts
  deriving DecidableEq

structure PublicKeyMessage where
  id : String
  type : KeyType
  pkixData : Bytes
  fingerprint : String
  deriving DecidableEq

inductive Code where
  | invalidArgument
  | failedPrecondition
  | internal
  | notFound
  deriving DecidableEq

structure Status where
  code : Code
  message : String
  deriving DecidableEq

inductive Call where
  | generateKey (keyId : String) (keyType : KeyType)
  | getPublicKey (keyId : String)
  | getPublicKeys
  | signData (req : SignDataRequest)
  deriving DecidableEq

inductive Response where
  | generated (pub : PublicKeyMessage)
  | found (pub : PublicKeyMessage)
  | listed (pubs : List PublicKeyMessage)
  | signed (signature : Bytes) (keyFingerprint : String)
  deriving DecidableEq

end Messages

section Token

inductive Hash where
  | sha256
  | sha384
  | sha512
  deriving DecidableEq

inductive SignerOpts where
  | hash (hash : Hash)
  | pss (saltLength : Int) (hash : Hash)
  deriving DecidableEq

/-- What kind of key pair a token is asked for. -/
inductive KeySpec where
  | ecdsa (curve : String)
  | rsa (bits : Nat)
  deriving DecidableEq

/-- The functions of the libraries that are called.  A key pair of the token is
named by a number. -/
structure KeyLibrary where
  sha256 : Bytes → Bytes
  marshalPKIXPublicKey : PublicKey → Except String Bytes
  publicOf : Nat → PublicKey

inductive Request where
  | token (request : Controllers.Request)
  | generateKeyPair (id label : String) (spec : KeySpec)
  | sign (signer : Nat) (data : Bytes) (opts : SignerOpts)

def Reply : Request → Type
  | .token request => Controllers.Reply request
  | .generateKeyPair _ _ _ => Except Error Nat
  | .sign _ _ _ => Except Error Bytes

def signature : Signature := ⟨Request, Reply⟩

abbrev Using (α : Type) := Program signature Error α

abbrev Serving (α : Type) := Program signature Status α

def ask {ε : Type} (request : Request) : Program signature ε (Reply request) :=
  Program.perform (S := signature) request

def shared : Inclusion Controllers.signature signature where
  request := .token
  reply _ reply := reply

def errorText (error : Error) : String :=
  error.text Empty.elim

def takeWith {α : Type} (code : Code) (outcome : Except Error α) : Serving α :=
  Program.ofExcept (outcome.mapError fun error => ⟨code, errorText error⟩)

def keySpecOf (keyType : String) : Except Error KeySpec :=
  let lowered := String.ofList (keyType.toList.map Char.toLower)
  if lowered ∈ ["", "ec-p256", "ec256", "ecdsa-p256"] then .ok (.ecdsa "P-256")
  else if lowered ∈ ["ec-p384", "ec384", "ecdsa-p384"] then .ok (.ecdsa "P-384")
  else if lowered ∈ ["rsa-2048", "rsa2048"] then .ok (.rsa 2048)
  else if lowered ∈ ["rsa-4096", "rsa4096"] then .ok (.rsa 4096)
  else failure ("unsupported key type " ++ quoted keyType)

/-- A key pair of the token, or the error of the key type or of the token. -/
def makeKeyPair (keyID label keyType : String) : Using (Except Error Nat) :=
  match keySpecOf keyType with
  | .error error => return .error error
  | .ok spec => ask (.generateKeyPair keyID label spec)

/-- The token is closed again when it makes no key pair. -/
def generatePKCS11Signer (ref : PKCS11Ref) (keyID keyType : String) : Using Nat := do
  Program.rejectIf (ref.modulePath == "" || ref.tokenLabel == "" || ref.keyLabel == "")
    (.message "modulePath, tokenLabel, and keyLabel are required")
  let opened : Except Error Unit ←
    ask (.token (.configureToken ref.modulePath ref.tokenLabel ref.userPIN))
  Program.ofExcept (opened.mapError (.wrap ("configure PKCS#11 token " ++ quoted ref.tokenLabel)))
  match ← makeKeyPair keyID ref.keyLabel keyType with
  | .error error => do
    let _ ← ask (.token .closeToken)
    .fail error
  | .ok signer => return signer

end Token

section Types

def bitLen (number : Nat) : Nat :=
  if number = 0 then 0 else number.log2 + 1

def keyTypeFromPublicKey : PublicKey → String
  | .ecdsa curve _ _ =>
    if curve = "P-256" then "ec-p256" else if curve = "P-384" then "ec-p384" else "ec"
  | .rsa modulus _ => "rsa-" ++ toString (bitLen modulus)
  | .ed25519 _ => "ed25519.PublicKey"
  | .other kind => kind

def keyTypeFromPublic (pub : PublicKey) : KeyType :=
  match pub with
  | .rsa modulus _ => if 2048 < bitLen modulus then .rsa4096 else .rsa2048
  | pub =>
    let name := keyTypeFromPublicKey pub
    if name = "ec-p384" then .ecP384 else if name = "ec-p256" then .ecP256 else .unspecified

def spireKeyType : KeyType → String
  | .ecP384 => "ec-p384"
  | .rsa2048 => "rsa-2048"
  | .rsa4096 => "rsa-4096"
  | _ => "ec-p256"

/-- The requested type is reported if one was requested. -/
def publicKey (lib : KeyLibrary) (id : String) (requested : KeyType) (signer : Nat) :
    Except Error PublicKeyMessage := do
  let pkixData ← plain (lib.marshalPKIXPublicKey (lib.publicOf signer))
  return {
    id
    type := if requested = .unspecified then keyTypeFromPublic (lib.publicOf signer)
      else requested
    pkixData
    fingerprint := encodeToString (lib.sha256 pkixData) }

def hashAlgorithm : HashAlgorithm → Except Error Hash
  | .sha256 => .ok .sha256
  | .unspecified => .ok .sha256
  | .sha384 => .ok .sha384
  | .sha512 => .ok .sha512
  | .other name => failure ("unsupported hash algorithm " ++ name)

/-- The salt is as long as the hash. -/
def pssSaltLengthEqualsHash : Int := -1

def signerOpts (req : SignDataRequest) : Except Error SignerOpts :=
  match req.opts with
  | .pssOptions saltLength alg => do
    let hash ← hashAlgorithm alg
    return .pss (if saltLength = 0 then pssSaltLengthEqualsHash else saltLength) hash
  | .hashAlgorithm alg => return .hash (← hashAlgorithm alg)
  | .none => return .hash (← hashAlgorithm .unspecified)

end Types

section Configuration

structure PluginConfig where
  modulePath : String
  tokenLabel : String
  userPIN : String
  keyLabelPrefix : String
  knownKeyIDs : List String
  deriving DecidableEq

def isWordCharacter (character : Char) : Bool :=
  character.isAlphanum || character == '_'

def isBlank (character : Char) : Bool :=
  character == ' ' || character == '\t' || character == '\n' || character == '\r' ||
    character == Char.ofNat 12

/-- What stands between double quotes after an equals sign. -/
def quotedValue (text : List Char) : Option (List Char) :=
  match text.dropWhile isBlank with
  | '=' :: rest =>
    match rest.dropWhile isBlank with
    | '"' :: value =>
      let body := value.takeWhile (· != '"')
      if body.length < value.length then some body else none
    | _ => none
  | _ => none

/-- The value at the first place where a key begins at the boundary of a word and
is followed by a quoted value. -/
def findValue (key : List Char) (afterWord : Bool) : List Char → Option (List Char)
  | [] => none
  | character :: rest =>
    let text := character :: rest
    let here :=
      if afterWord != isWordCharacter character && key.isPrefixOf text then
        quotedValue (text.drop key.length)
      else none
    here.or (findValue key (isWordCharacter character) rest)

def configValue (hcl key : String) : String :=
  match findValue key.toList false hcl.toList with
  | some value => trimSpace (String.ofList value)
  | none => ""

def firstNonEmpty : List String → String
  | [] => ""
  | value :: values =>
    if trimSpace value != "" then trimSpace value else firstNonEmpty values

def csv (value : String) : List String :=
  ((value.toList.splitOn ',').map fun part => trimSpace (String.ofList part)).filter (· != "")

def parseConfig (getenv : String → String) (hcl : String) : Except Error PluginConfig := do
  let cfg : PluginConfig := {
    modulePath := firstNonEmpty [configValue hcl "module_path", getenv "TPM_PKCS11_MODULE",
      "/usr/lib64/pkcs11/libtpm2_pkcs11.so"]
    tokenLabel := firstNonEmpty [configValue hcl "token_label", getenv "TPM_PKCS11_TOKEN_LABEL"]
    userPIN := firstNonEmpty [configValue hcl "user_pin", getenv "TPM_PKCS11_PIN"]
    keyLabelPrefix := firstNonEmpty [configValue hcl "key_label_prefix",
      getenv "SPIRE_TPM_KEY_LABEL_PREFIX", "sovereignite-spire-"]
    knownKeyIDs := csv (firstNonEmpty [configValue hcl "known_key_ids",
      getenv "SPIRE_TPM_KNOWN_KEY_IDS"]) }
  reject (cfg.modulePath == "") (.message "module_path is required")
  reject (cfg.tokenLabel == "") (.message "token_label is required")
  return cfg

def PluginConfig.checked (cfg : PluginConfig) : Except Status PluginConfig := do
  reject (cfg.modulePath == "" || cfg.tokenLabel == "")
    ⟨.failedPrecondition, "plugin is not configured"⟩
  return cfg

def PluginConfig.refForKey (cfg : PluginConfig) (keyID : String) : PKCS11Ref where
  modulePath := cfg.modulePath
  tokenLabel := cfg.tokenLabel
  keyLabel := cfg.keyLabelPrefix ++ keyID
  userPIN := cfg.userPIN

end Configuration

section Calls

variable (lib : KeyLibrary) (cfg : PluginConfig)

def findSigner (ref : PKCS11Ref) : Using Nat :=
  (loadPKCS11Signer ref).embed shared

def describe (keyId : String) (requested : KeyType) (signer : Nat) :
    Serving PublicKeyMessage := do
  let outcome ← (takeWith .internal (publicKey lib keyId requested signer)).attempt
  let _ ← ask (.token .closeToken)
  Program.ofExcept outcome

/-- A key pair that is found under the label is described as one of the requested
type; whatever the reason that none is found, one is made. -/
def generateKey (keyId : String) (keyType : KeyType) : Serving Response := do
  let cfg ← Program.ofExcept cfg.checked
  Program.rejectIf (keyId == "") ⟨.invalidArgument, "key_id is required"⟩
  let ref := cfg.refForKey keyId
  match ← (findSigner ref).attempt with
  | .ok signer => return .generated (← describe lib keyId keyType signer)
  | .error _ => do
    let made ← (generatePKCS11Signer ref keyId (spireKeyType keyType)).attempt
    let signer ← takeWith .internal made
    return .generated (← describe lib keyId keyType signer)

def getPublicKey (keyId : String) : Serving Response := do
  let cfg ← Program.ofExcept cfg.checked
  Program.rejectIf (keyId == "") ⟨.invalidArgument, "key_id is required"⟩
  let found ← (findSigner (cfg.refForKey keyId)).attempt
  let signer ← takeWith .notFound found
  return .found (← describe lib keyId .unspecified signer)

/-- A known key that is not found or cannot be described is left out. -/
def listKey (out : List PublicKeyMessage) (keyID : String) : Serving (List PublicKeyMessage) := do
  match ← (findSigner (cfg.refForKey keyID)).attempt with
  | .error _ => return out
  | .ok signer => do
    let described := publicKey lib keyID .unspecified signer
    let _ ← ask (.token .closeToken)
    match described with
    | .ok pub => return out ++ [pub]
    | .error _ => return out

def getPublicKeys : Serving Response := do
  let cfg ← Program.ofExcept cfg.checked
  return .listed (← Program.forEach (listKey lib cfg) [] cfg.knownKeyIDs)

/-- Sign with a key pair of the open token. -/
def signWith (req : SignDataRequest) (signer : Nat) : Serving Response := do
  let opts ← takeWith .invalidArgument (signerOpts req)
  let signed : Except Error Bytes ← ask (.sign signer req.data opts)
  let signature ← takeWith .internal signed
  let pub ← takeWith .internal (publicKey lib req.keyId .unspecified signer)
  return .signed signature pub.fingerprint

def signData (req : SignDataRequest) : Serving Response := do
  let cfg ← Program.ofExcept cfg.checked
  let found ← (findSigner (cfg.refForKey req.keyId)).attempt
  let signer ← takeWith .notFound found
  let outcome ← (signWith lib req signer).attempt
  let _ ← ask (.token .closeToken)
  Program.ofExcept outcome

def serve : Call → Serving Response
  | .generateKey keyId keyType => generateKey lib cfg keyId keyType
  | .getPublicKey keyId => getPublicKey lib cfg keyId
  | .getPublicKeys => getPublicKeys lib cfg
  | .signData req => signData lib cfg req

end Calls

end Sovereignite.Controllers.SpireKeys
