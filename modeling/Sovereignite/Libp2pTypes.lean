import Sovereignite.EffectProgram
import Sovereignite.KeyManagerTypes

/-!
# The device identity and what it calls on

The identity service derives a lifetime-stable public identity from a TPM key
and keeps it in one file.  Its programs call on the TPM, on the file system at
the granularity of single file operations, on the host name service and on the
launcher of the network host.  Two roots anchor its files: the state root with
the identity and the runtime root with what lives only as long as a process.
Paths are those of Unix.
-/

namespace Sovereignite.Libp2p

open Effect
open KeyManager (SignRequest)

/-- The errors a caller can branch on, those of the operating system included. -/
inductive Sentinel where
  | identityMismatch
  | unsupportedIdentityVersion
  | serviceAlreadyRunning
  | hostUnavailable
  | notExist
  | exist
  | wouldBlock
  deriving DecidableEq

abbrev Error := ErrorValue Sentinel

def failure {α : Type} (text : String) : Except Error α :=
  .error (.message text)

section Paths

def pathElements (path : String) : List String :=
  (path.toList.splitOn '/').map String.ofList

/-- One element of a path that is being cleaned.  The elements kept so far
stand in reverse order. -/
def cleanElement (rooted : Bool) (kept : List String) (element : String) : List String :=
  if element == "" || element == "." then
    kept
  else if element == ".." then
    match kept with
    | [] => if rooted then [] else [".."]
    | last :: rest => if last == ".." then ".." :: kept else rest
  else
    element :: kept

def isAbs (path : String) : Bool :=
  hasPrefix path "/"

def cleanElements (path : String) : List String :=
  ((pathElements path).foldl (cleanElement (isAbs path)) []).reverse

/-- The shortest path that names the same file. -/
def clean (path : String) : String :=
  let joined := String.intercalate "/" (cleanElements path)
  if isAbs path then "/" ++ joined else if joined == "" then "." else joined

def dropCommon : List String → List String → List String × List String
  | first :: firstRest, second :: secondRest =>
    if first == second then dropCommon firstRest secondRest
    else (first :: firstRest, second :: secondRest)
  | first, second => (first, second)

/-- The path of a target as seen from a base, both absolute. -/
def rel (base target : String) : String :=
  if clean base == clean target then
    "."
  else
    let (above, below) := dropCommon (cleanElements base) (cleanElements target)
    String.intercalate "/" (above.map (fun _ => "..") ++ below)

def pathWithin (root candidate : String) : Bool :=
  let relative := rel root candidate
  relative == "." || (relative != ".." && !hasPrefix relative "../")

def rootsOverlap (first second : String) : Bool :=
  pathWithin first second || pathWithin second first

def joinPath (directory name : String) : String :=
  if directory == "/" then "/" ++ name else directory ++ "/" ++ name

def parentPath (path : String) : String :=
  "/" ++ String.intercalate "/" (cleanElements path).dropLast

end Paths

structure Config where
  stateRoot : String
  runtimeRoot : String
  deriving DecidableEq

def identityStateFilename : String := "identity.json"

def endpointRecordFilename : String := "endpoint.json"

def runtimeLockFilename : String := "service.lock"

def validateRoot (root : String) : Except Error Unit := do
  reject (trimSpace root == "") (.message "path is required")
  reject (!isAbs root) (.message "path must be absolute")
  reject (clean root == "/") (.message "filesystem root is not allowed")

/-- The errors of both roots are reported together. -/
@[irreducible]
def Config.validate (config : Config) : Except Error Unit :=
  match validateRoot config.stateRoot, validateRoot config.runtimeRoot with
  | .ok (), .ok () =>
    reject (rootsOverlap config.stateRoot config.runtimeRoot)
      (.message "state and runtime roots must not overlap")
  | .error stateError, .ok () => .error (.wrap "state root" stateError)
  | .ok (), .error runtimeError => .error (.wrap "runtime root" runtimeError)
  | .error stateError, .error runtimeError =>
    .error (.join (.wrap "state root" stateError) (.wrap "runtime root" runtimeError))

inductive KeyType where
  | rsa
  | ed25519
  | secp256k1
  | ecdsa
  deriving DecidableEq

def KeyType.text : KeyType → String
  | .rsa => "RSA"
  | .ed25519 => "Ed25519"
  | .secp256k1 => "Secp256k1"
  | .ecdsa => "ECDSA"

structure PubKey where
  keyType : KeyType
  key : PublicKey
  deriving DecidableEq

structure PublicIdentity where
  tpmHandle : UInt32
  publicKey : PubKey
  peerID : String
  name : String
  deriving DecidableEq

structure IdentityRecord where
  version : Int
  tpmHandle : String
  publicKey : String
  peerID : String
  name : String
  deriving DecidableEq

structure EndpointRecord where
  version : Int
  service : String
  bootID : String
  instanceNonce : String
  pid : Int
  network : String
  address : String
  port : Nat
  expectedIdentity : String
  deriving DecidableEq

/-- The functions of the network library and of the JSON package that the
identity service calls.  `verifyDigest` is the check of a signature after the
message was hashed; decoding reads one value, refuses fields it does not know
and reports what follows the value. -/
structure Library where
  ecdsaPublicKeyFromPubKey : PublicKey → Except String PubKey
  unmarshalRsaPublicKey : Bytes → Except String PubKey
  marshalPublicKey : PubKey → Except String Bytes
  idFromPublicKey : PubKey → Except String String
  verifyDigest : PubKey → Bytes → Bytes → Except String Bool
  marshalRecord : IdentityRecord → Except String Bytes
  decodeRecord : Bytes → Except String (IdentityRecord × JsonTrailing)
  marshalEndpoint : EndpointRecord → Except String Bytes
  parseAddrPort : String → Except String (String × Nat)

/-- What the file system tells of a file.  Two files are the same when their
identities are equal. -/
structure FileInfo where
  isRegular : Bool
  isDir : Bool
  isSymlink : Bool
  isSticky : Bool
  perm : Nat
  size : Nat
  owner : Option Nat
  identity : Nat
  deriving DecidableEq

/-- What a launcher returns: the identifier of a running host, an error, both
or neither. -/
structure Launch where
  host : Option String
  error : Option Error

/-- What the programs ask of their environment.  A directory is named by its
path and an open file by the identity of the file.  The last request has no
effect outside; it marks that an initializer returned an identity. -/
inductive Request where
  | contextError
  | effectiveUser
  | random (length : Nat)
  | signTPM (request : SignRequest)
  | signData (data : Bytes)
  | openDirectory (path : String)
  | statDirectory (path : String)
  | lstatPath (path : String)
  | makeDirectory (path : String)
  | closeDirectory (path : String)
  | syncDirectory (path : String)
  | lstat (directory name : String)
  | openFile (directory name : String)
  | createExclusive (directory name : String)
  | openOrCreate (directory name : String)
  | link (directory source target : String)
  | rename (directory source target : String)
  | remove (directory name : String)
  | stat (file : Nat)
  | chmod (file mode : Nat)
  | write (file : Nat) (content : Bytes)
  | sync (file : Nat)
  | close (file : Nat)
  | read (file limit : Nat)
  | flock (file : Nat) (acquire : Bool)
  | setHostname (name : String)
  | launch (identity : PublicIdentity)
  | closeHost
  | listen
  | closeListener
  | readBootID
  | processID
  | returned (identity : PublicIdentity)

def Reply : Request → Type
  | .contextError => Option Error
  | .effectiveUser => Nat
  | .random _ => Except Error Bytes
  | .signTPM _ => Except Error Bytes
  | .signData _ => Except Error Bytes
  | .openDirectory _ => Except Error Unit
  | .statDirectory _ => Except Error FileInfo
  | .lstatPath _ => Except Error FileInfo
  | .makeDirectory _ => Except Error Unit
  | .closeDirectory _ => Except Error Unit
  | .syncDirectory _ => Except Error Unit
  | .lstat _ _ => Except Error FileInfo
  | .openFile _ _ => Except Error Nat
  | .createExclusive _ _ => Except Error Nat
  | .openOrCreate _ _ => Except Error Nat
  | .link _ _ _ => Except Error Unit
  | .rename _ _ _ => Except Error Unit
  | .remove _ _ => Except Error Unit
  | .stat _ => Except Error FileInfo
  | .chmod _ _ => Except Error Unit
  | .write _ _ => Except Error Unit
  | .sync _ => Except Error Unit
  | .close _ => Except Error Unit
  | .read _ _ => Except Error Bytes
  | .flock _ _ => Except Error Unit
  | .setHostname _ => Except Error Unit
  | .launch _ => Launch
  | .closeHost => Except Error Unit
  | .listen => Except Error String
  | .closeListener => Except Error Unit
  | .readBootID => Except Error String
  | .processID => Int
  | .returned _ => Unit

def signature : Signature := ⟨Request, Reply⟩

abbrev Running (α : Type) := Program signature Error α

def ask (request : Request) : Running (Reply request) :=
  Program.perform (S := signature) request

def take {α : Type} (outcome : Except Error α) : Running α :=
  Program.ofExcept outcome

def takeAs {α : Type} (text : String) (outcome : Except Error α) : Running α :=
  Program.ofExcept (outcome.mapError (.wrap text))

def checkContext : Running Unit := do
  match ← ask .contextError with
  | none => return ()
  | some error => .fail error

def joinErrors : Except Error Unit → Except Error Unit → Except Error Unit
  | .ok (), second => second
  | .error first, .ok () => .error first
  | .error first, .error second => .error (.join first second)

/-- Run a program and after it another one whatever the outcome is.  The
errors of both are joined. -/
def deferred {α : Type} (body : Running α) (cleanup : Running Unit) : Running α := do
  let outcome ← body.attempt
  let cleaned ← cleanup.attempt
  match outcome, cleaned with
  | .ok value, .ok () => return value
  | .ok _, .error error => .fail error
  | .error error, .ok () => .fail error
  | .error error, .error other => .fail (.join error other)

/-- Run a program and, when it fails, another one whose outcome is ignored. -/
def onError {α : Type} (body : Running α) (cleanup : Running Unit) : Running α := do
  match ← body.attempt with
  | .ok value => return value
  | .error error => do
    let _ ← (cleanup.attempt : Running (Except Error Unit))
    .fail error

def octalText (value : Nat) : String :=
  String.ofList (Nat.toDigits 8 value)

end Sovereignite.Libp2p
