import Sovereignite.EffectProgram
import Sovereignite.Platform

/-!
# Objects of the cluster and what the controllers call on

The controllers read cluster objects as untyped JSON.  A missing member, a
member of another type and a null member are all read as the default of the
expected type.  Their programs call on the cluster, on a hardware token and on
the certificate library.
-/

namespace Sovereignite.Controllers

open Effect

/-- No error of the controllers is compared with another one. -/
abbrev Error := ErrorValue Empty

def failure {α : Type} (text : String) : Except Error α :=
  .error (.message text)

def plain {α : Type} (outcome : Except String α) : Except Error α :=
  outcome.mapError .message

def listed (texts : List String) : String :=
  "[" ++ String.intercalate " " texts ++ "]"

section Objects

/-- The entries of a map from names to values, one for each name. -/
abbrev Object := List (String × Json)

/-- The value of an entry; an absent entry reads as null. -/
def Object.field (object : Object) (name : String) : Json :=
  (object.lookup name).getD .null

def mapValue : Json → Object
  | .object members => members
  | _ => []

def nestedMap : Object → List String → Object
  | object, [] => object
  | object, name :: path => nestedMap (mapValue (object.field name)) path

def stringValue : Json → String
  | .string text => text
  | _ => ""

def boolValue (value : Json) (defaultValue : Bool) : Bool :=
  match value with
  | .boolean value => value
  | _ => defaultValue

/-- Nothing is left of an element that is no text or an empty one. -/
def stringSlice : Json → List String
  | .array elements => (elements.map stringValue).filter (· != "")
  | _ => []

def nestedString (object : Object) : List String → String
  | [] => ""
  | [name] => stringValue (object.field name)
  | name :: path => nestedString (mapValue (object.field name)) path

def nameOf (object : Object) : String :=
  nestedString object ["metadata", "name"]

def namespaceOf (object : Object) : String :=
  let found := nestedString object ["metadata", "namespace"]
  if found == "" then "default" else found

def arrayValue : Json → List Json
  | .array elements => elements
  | _ => []

def hasCondition (object : Object) (conditionType status : String) : Bool :=
  (arrayValue ((nestedMap object ["status"]).field "conditions")).any fun condition =>
    stringValue ((mapValue condition).field "type") == conditionType &&
      stringValue ((mapValue condition).field "status") == status

end Objects

/-- The fields of a certificate signing request that are read. -/
structure CertificateRequest where
  raw : Bytes
  subject : DistinguishedName
  dnsNames : List String
  ipAddresses : List Bytes
  uris : List Url
  emailAddresses : List String
  publicKey : Option PublicKey
  deriving DecidableEq

/-- The fields of a certificate that the signer sets. -/
structure Template where
  serialNumber : Nat
  subject : DistinguishedName
  dnsNames : List String
  ipAddresses : List Bytes
  uris : List Url
  emailAddresses : List String
  notBefore : Time
  notAfter : Time
  keyUsage : Nat
  extKeyUsage : List ExtKeyUsage
  basicConstraintsValid : Bool
  isCA : Bool
  maxPathLen : Int
  maxPathLenZero : Bool
  deriving DecidableEq

/-- The functions of the standard library that the controllers call.
`toLower` and `equalRune` are the case mapping and the case folding of single
characters; `textOf` reads bytes as a text and `decodeTrimmedBase64` decodes
bytes read as a text without the white space at its ends; `int64Of` is the
integer part of a JSON number. -/
structure Library where
  toLower : Char → Char
  equalRune : Char → Char → Bool
  parseDuration : String → Except String Duration
  formatTime : Time → String
  int64Of : String → Int
  decodeBase64 : String → Except String Bytes
  decodeTrimmedBase64 : Bytes → Except String Bytes
  textOf : Bytes → String
  decodePem : Bytes → Option (String × Bytes)
  encodePem : String → Bytes → String
  parseCertificateRequest : Bytes → Except String CertificateRequest
  checkSignature : CertificateRequest → Except String Unit
  parseCertificate : Bytes → Except String Certificate

namespace Library

variable (lib : Library)

def lower (text : String) : String :=
  String.ofList (text.toList.map lib.toLower)

def equalFold (first second : String) : Bool :=
  first.length == second.length &&
    (first.toList.zip second.toList).all fun pair => lib.equalRune pair.1 pair.2

def int64Value : Json → Int
  | .number literal => lib.int64Of literal
  | _ => 0

def generation (object : Object) : Int :=
  lib.int64Value ((nestedMap object ["metadata"]).field "generation")

end Library

/-- What the programs ask of the cluster, of the token and of the certificate
library.  A key of the token is named by a number. -/
inductive Request where
  | get (path : String)
  | jsonPatch (path : String) (patch : List Json)
  | mergePatch (path : String) (patch : Json)
  | getenv (name : String)
  | now
  | randomInt (bound : Nat)
  | configureToken (path tokenLabel pin : String)
  | findKeyPair (label : String)
  | closeToken
  | createCertificate (template : Template) (parent : Certificate)
      (publicKey : Option PublicKey) (signer : Nat)

def Reply : Request → Type
  | .get _ => Except Error Object
  | .jsonPatch _ _ => Except Error Unit
  | .mergePatch _ _ => Except Error Unit
  | .getenv _ => String
  | .now => Time
  | .randomInt _ => Except Error Nat
  | .configureToken _ _ _ => Except Error Unit
  | .findKeyPair _ => Except Error (Option Nat)
  | .closeToken => Except Error Unit
  | .createCertificate _ _ _ _ => Except Error Bytes

def signature : Signature := ⟨Request, Reply⟩

abbrev Running (α : Type) := Program signature Error α

def ask (request : Request) : Running (Reply request) :=
  Program.perform (S := signature) request

def take {α : Type} (outcome : Except Error α) : Running α :=
  Program.ofExcept outcome

def takeAs {α : Type} (text : String) (outcome : Except Error α) : Running α :=
  Program.ofExcept (outcome.mapError (.wrap text))

section Client

@[irreducible]
def configMapValue (namespaceName name key : String) (object : Object) : Except Error String := do
  let value := stringValue ((mapValue (object.field "data")).field key)
  reject (trimSpace value == "")
    (.message ("configmap " ++ namespaceName ++ "/" ++ name ++ " key " ++ key ++ " is empty"))
  return value

def getConfigMapValue (namespaceName name key : String) : Running String := do
  let object ← take (← ask
    (.get ("/api/v1/namespaces/" ++ namespaceName ++ "/configmaps/" ++ name)))
  take (configMapValue namespaceName name (if key == "" then "ca.crt" else key) object)

def secretValue (lib : Library) (namespaceName name key : String) (object : Object) :
    Except Error String := do
  let encoded := stringValue ((mapValue (object.field "data")).field key)
  let place := "secret " ++ namespaceName ++ "/" ++ name ++ " key " ++ key
  reject (encoded == "") (.message (place ++ " is empty"))
  let decoded ← annotated ("decode " ++ place) (lib.decodeBase64 encoded)
  return trimSpace (lib.textOf decoded)

def getSecretValue (lib : Library) (namespaceName name key : String) : Running String := do
  let object ← take (← ask (.get ("/api/v1/namespaces/" ++ namespaceName ++ "/secrets/" ++ name)))
  take (secretValue lib namespaceName name key object)

def readyCondition (lib : Library) (status reason message : String) (time : Time) : Json :=
  .object [("type", .string "Ready"), ("status", .string status), ("reason", .string reason),
    ("message", .string message), ("lastTransitionTime", .string (lib.formatTime time))]

end Client

end Sovereignite.Controllers
