import Mathlib.Data.Nat.Digits.Lemmas
import Sovereignite.ErrorValues

/-!
# Bytes, times, certificates and the libraries below the services

The services rest on a hash, on X.509 and PKIX encodings, on content and peer
identifiers, on URL parsing and on JSON decoding.  Those are parameters here:
a `Platform` gives one function for each library call the modelled code makes,
and a result that needs a property of one of them states it as a hypothesis.
Text and byte operations of the standard library are written out.
-/

namespace Sovereignite

abbrev Bytes := List UInt8

/-- Nanoseconds since the zero time, so that the zero time is `0`. -/
abbrev Time := Int

abbrev Duration := Int

/-- The difference of two times, kept within the range of a duration. -/
def timeSub (left right : Time) : Duration :=
  max (-2 ^ 63) (min (2 ^ 63 - 1) (left - right))

def maxUint64 : UInt64 := UInt64.ofNat (2 ^ 64 - 1)

theorem toNat_succ {counter : UInt64} (room : counter ≠ maxUint64) :
    (counter + 1).toNat = counter.toNat + 1 := by
  have bound := counter.toNat_lt
  have below : counter.toNat ≠ 2 ^ 64 - 1 := by
    intro equal
    exact room (UInt64.toNat_inj.mp equal)
  rw [UInt64.toNat_add]
  simp only [UInt64.reduceToNat]
  omega

theorem succ_ne_zero_of_room {counter : UInt64} (room : counter ≠ maxUint64) : counter + 1 ≠ 0 := by
  intro wrapped
  have grown := toNat_succ room
  rw [wrapped] at grown
  cases grown

def bytesOf (text : String) : Bytes :=
  text.toByteArray.data.toList

def byteLength (text : String) : Nat :=
  text.utf8ByteSize

/-- The lowercase digit of a value below sixteen. -/
def hexDigit (nibble : Nat) : Char :=
  "0123456789abcdef".toList.getD nibble '0'

def hexDigits : Bytes → List Char
  | [] => []
  | byte :: rest =>
    hexDigit (byte.toNat / 16) :: hexDigit (byte.toNat % 16) :: hexDigits rest

def encodeToString (bytes : Bytes) : String :=
  String.ofList (hexDigits bytes)

/-- A character in a Go string literal.  All characters beyond Latin-1 count as printable. -/
def quotedCharacter (character : Char) : String :=
  let code := character.toNat
  let digits := String.ofList [hexDigit (code / 16), hexDigit (code % 16)]
  match [('"', "\\\""), ('\\', "\\\\"), ('\x07', "\\a"), ('\x08', "\\b"), ('\t', "\\t"),
      ('\n', "\\n"), ('\x0b', "\\v"), ('\x0c', "\\f"), ('\r', "\\r")].lookup character with
  | some escaped => escaped
  | none =>
    if code < 0x20 || code == 0x7f then "\\x" ++ digits
    else if (0x80 ≤ code && code ≤ 0xa0) || code == 0xad then "\\u00" ++ digits
    else character.toString

/-- A text as the verb `%q` prints it. -/
def quoted (text : String) : String :=
  "\"" ++ String.join (text.toList.map quotedCharacter) ++ "\""

def base64Digit (value : Nat) : Char :=
  "ABCDEFGHIJKLMNOPQRSTUVWXYZabcdefghijklmnopqrstuvwxyz0123456789+/".toList.getD value 'A'

/-- Four digits for three bytes, the last group filled up. -/
def base64Digits : Bytes → List Char
  | [] => []
  | [first] =>
    [base64Digit (first.toNat / 4), base64Digit (first.toNat % 4 * 16), '=', '=']
  | [first, second] =>
    [base64Digit (first.toNat / 4), base64Digit (first.toNat % 4 * 16 + second.toNat / 16),
      base64Digit (second.toNat % 16 * 4), '=']
  | first :: second :: third :: rest =>
    base64Digit (first.toNat / 4) :: base64Digit (first.toNat % 4 * 16 + second.toNat / 16) ::
      base64Digit (second.toNat % 16 * 4 + third.toNat / 64) ::
      base64Digit (third.toNat % 64) :: base64Digits rest

def encodeBase64 (bytes : Bytes) : String :=
  String.ofList (base64Digits bytes)

def hexText (value : UInt32) : String :=
  "0x" ++ String.ofList (Nat.toDigits 16 value.toNat)

/-- The eight bytes of a counter, most significant first. -/
def putUint64 (value : Nat) : Bytes :=
  (List.range 8).map fun index => UInt8.ofNat (value / 256 ^ (7 - index) % 256)

def hasPrefix (text start : String) : Bool :=
  start.toList.isPrefixOf text.toList

def hasSuffix (text finish : String) : Bool :=
  finish.toList.isSuffixOf text.toList

def trimPrefix (text start : String) : String :=
  if hasPrefix text start then String.ofList (text.toList.drop start.length) else text

def trimSuffix (text finish : String) : String :=
  if hasSuffix text finish then
    String.ofList (text.toList.take (text.length - finish.length))
  else
    text

def isSublist {α : Type} [BEq α] (pattern : List α) : List α → Bool
  | [] => pattern.isEmpty
  | element :: rest =>
    pattern.isPrefixOf (element :: rest) || isSublist pattern rest

def containsText (text pattern : String) : Bool :=
  isSublist pattern.toList text.toList

def isSpace (character : Char) : Bool :=
  let code := character.toNat
  (0x09 ≤ code && code ≤ 0x0d) || code == 0x20 || code == 0x85 || code == 0xa0 ||
    code == 0x1680 || (0x2000 ≤ code && code ≤ 0x200a) || code == 0x2028 ||
    code == 0x2029 || code == 0x202f || code == 0x205f || code == 0x3000

def trimSpace (text : String) : String :=
  String.ofList ((text.toList.dropWhile isSpace).reverse.dropWhile isSpace).reverse

/-- Whether a text has a length in a range and only characters of a class. -/
def matchesClass (allowed : Char → Bool) (least most : Nat) (text : String) : Bool :=
  decide (least ≤ text.length) && decide (text.length ≤ most) && text.toList.all allowed

def decimalDigits (digits : List Char) : Option Nat :=
  if digits.isEmpty || !digits.all Char.isDigit then none
  else some (Nat.ofDigitChars 10 digits 0)

/-- The integer a decimal text with an optional sign denotes. -/
def setString (text : String) : Option Int :=
  match text.toList with
  | '-' :: digits => (decimalDigits digits).map fun value => -(value : Int)
  | '+' :: digits => (decimalDigits digits).map fun value => (value : Int)
  | digits => (decimalDigits digits).map fun value => (value : Int)

theorem decimalDigits_toDigits (number : Nat) :
    decimalDigits (Nat.toDigits 10 number) = some number := by
  have allDigits : (Nat.toDigits 10 number).all Char.isDigit = true :=
    List.all_eq_true.mpr fun character member =>
      Nat.isDigit_of_mem_toDigits (by decide) (by decide) member
  simp [decimalDigits, allDigits, Nat.toDigits_ne_nil, Nat.ofDigitChars_ten_toDigits]

theorem setString_repr (number : Nat) : setString number.repr = some (number : Int) := by
  have digits : ∀ character ∈ Nat.toDigits 10 number, character.isDigit = true :=
    fun character member => Nat.isDigit_of_mem_toDigits (by decide) (by decide) member
  unfold setString
  rw [Nat.toList_repr]
  split
  · next rest equal =>
      have sign := digits '-' (by rw [equal]; exact List.mem_cons_self)
      simp at sign
  · next _ equal =>
      have sign := digits '+' (by rw [equal]; exact List.mem_cons_self)
      simp at sign
  · rw [decimalDigits_toDigits]
    rfl

theorem repr_ne_empty (value : Int) : value.repr ≠ "" := by
  intro empty
  have lists := congrArg String.toList empty
  cases value with
  | ofNat number =>
    have digits : number.repr.toList = [] := lists
    rw [Nat.toList_repr] at digits
    exact Nat.toDigits_ne_nil digits
  | negSucc => simp [Int.repr] at lists

/-- Where a text stops being one DNS label: lowercase letters, digits and inner
hyphens. -/
def hostnameOffset (length : Nat) : Nat → List Char → Option Nat
  | _, [] => none
  | index, character :: rest =>
    if character.isLower || character.isDigit ||
        (character == '-' && decide (0 < index) && decide (index + 1 < length)) then
      hostnameOffset length (index + 1) rest
    else
      some index

inductive PublicKey where
  | rsa (modulus exponent : Nat)
  | ecdsa (curve : String) (x y : Nat)
  | ed25519 (bytes : Bytes)
  | other (kind : String)
  deriving DecidableEq

inductive ExtKeyUsage where
  | any
  | serverAuth
  | clientAuth
  | other (code : Nat)
  deriving DecidableEq

structure DistinguishedName where
  commonName : String
  organization : List String := []
  otherNames : List String := []
  deriving DecidableEq

/-- The fields of an X.509 certificate that the services read.  A URI is kept
as its text; an absent one stands for a nil entry. -/
structure Certificate where
  raw : Bytes := []
  rawTBSCertificate : Bytes := []
  rawSubjectPublicKeyInfo : Bytes := []
  signature : Bytes := []
  serialNumber : Int
  subject : DistinguishedName
  notBefore : Time
  notAfter : Time
  keyUsage : Nat
  extKeyUsage : List ExtKeyUsage := []
  unknownExtKeyUsage : List (List Nat) := []
  basicConstraintsValid : Bool
  isCA : Bool
  maxPathLen : Int := 0
  maxPathLenZero : Bool := false
  uris : List (Option String) := []
  subjectKeyId : Bytes := []
  publicKey : Option PublicKey
  deriving DecidableEq

def keyUsageDigitalSignature : Nat := 1

def keyUsageCertSign : Nat := 32

def keyUsageCRLSign : Nat := 64

/-- A content identifier, by the parts that are inspected. -/
structure Cid where
  version : Nat
  codec : Nat
  multihash : Bytes
  deriving DecidableEq

def cidLibp2pKey : Nat := 0x72

def cidDagProtobuf : Nat := 0x70

structure Url where
  scheme : String
  opaquePart : String
  hasUser : Bool
  host : String
  path : String
  rawPath : String
  rawQuery : String
  forceQuery : Bool
  fragment : String
  rawFragment : String
  deriving DecidableEq

/-- A JSON value as the decoder returns it. -/
inductive Json where
  | null
  | boolean (value : Bool)
  | number (literal : String)
  | string (text : String)
  | array (elements : List Json)
  | object (members : List (String × Json))

/-- What a JSON decoder meets after the first value of its input. -/
inductive JsonTrailing where
  | endOfInput
  | value
  | malformed (text : String)

/-- The libraries the services call. -/
structure Platform where
  sha256 : Bytes → Bytes
  parseCertificate : Bytes → Except String Certificate
  checkSignatureFrom : Certificate → Certificate → Except String Unit
  parsePKIXPublicKey : Bytes → Except String PublicKey
  marshalPKIXPublicKey : PublicKey → Except String Bytes
  validP256Point : Nat → Nat → Bool
  subjectString : DistinguishedName → String
  decodeCid : String → Except String Cid
  encodeCidBase36 : Cid → Except String String
  cidString : Cid → String
  sumBlock : Cid → Bytes → Except String Cid
  decodePeer : String → Except String String
  peerToCid : String → Cid
  parseUrl : String → Except String Url
  decodeJson : Bytes → Except String (Json × JsonTrailing)
  identityOfKey : Bytes → Except String Cid
  verifySignature : Bytes → Bytes → Bytes → Except String Bool
  /-- The order in which a map with these entries is walked. -/
  mapOrder : (entries : List (String × Duration)) → { walked // List.Perm walked entries }

namespace Platform

variable (env : Platform)

def hexDigest (input : Bytes) : String :=
  encodeToString (env.sha256 input)

def marshalKey : Option PublicKey → Except String Bytes
  | none => .error "x509: unsupported public key type: <nil>"
  | some key => env.marshalPKIXPublicKey key

def samePublicKey (left right : Option PublicKey) : Bool :=
  match env.marshalKey left, env.marshalKey right with
  | .ok leftDER, .ok rightDER => leftDER == rightDER
  | _, _ => false

end Platform

/-- A field of a digest input: its length in eight bytes, then its bytes. -/
def writeDigestField (value : Bytes) : Bytes :=
  putUint64 (value.length % 2 ^ 64) ++ value

end Sovereignite
