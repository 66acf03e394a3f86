import Sovereignite.Platform

/-!
# The text of a JSON value

A decoder that stores objects as maps keeps one member of each name, while the
text may repeat a name.  Here a text is read into a tree that keeps every
occurrence.  Strings are decoded as they are read: escapes are replaced, and
bytes that are not UTF-8 become the replacement character.
-/

namespace Sovereignite

theorem Json.induction {motive : Json → Prop} (null : motive .null)
    (boolean : ∀ value, motive (.boolean value)) (number : ∀ literal, motive (.number literal))
    (string : ∀ text, motive (.string text))
    (array : ∀ elements, (∀ child ∈ elements, motive child) → motive (.array elements))
    (object : ∀ members : List (String × Json), (∀ member ∈ members, motive member.2) →
      motive (.object members))
    (value : Json) : motive value := by
  refine @Json.rec motive (fun elements => ∀ child ∈ elements, motive child)
    (fun members => ∀ member ∈ members, motive member.2) (fun member => motive member.2)
    null boolean number string array object ?_ ?_ ?_ ?_ ?_ value
  · exact List.forall_mem_nil _
  · intro child rest first others
    exact List.forall_mem_cons.mpr ⟨first, others⟩
  · exact List.forall_mem_nil _
  · intro _ _ first others
    exact List.forall_mem_cons.mpr ⟨first, others⟩
  · intro _ _ inner
    exact inner

namespace JsonText

def isBlank (byte : UInt8) : Bool :=
  byte == 0x20 || byte == 0x09 || byte == 0x0a || byte == 0x0d

def skipBlanks : Bytes → Bytes
  | [] => []
  | byte :: rest => if isBlank byte then skipBlanks rest else byte :: rest

def replacementCharacter : Char := Char.ofNat 0xfffd

section Strings

def hexDigitValue (byte : UInt8) : Option Nat :=
  if 0x30 ≤ byte && byte ≤ 0x39 then some (byte.toNat - 0x30)
  else if 0x61 ≤ byte && byte ≤ 0x66 then some (byte.toNat - 0x61 + 10)
  else if 0x41 ≤ byte && byte ≤ 0x46 then some (byte.toNat - 0x41 + 10)
  else none

def codeUnit : Bytes → Option (Nat × Bytes)
  | first :: second :: third :: fourth :: rest => do
    let first ← hexDigitValue first
    let second ← hexDigitValue second
    let third ← hexDigitValue third
    let fourth ← hexDigitValue fourth
    return (((first * 16 + second) * 16 + third) * 16 + fourth, rest)
  | _ => none

/-- The character of one code unit or of a pair of surrogates. -/
def unicodeEscape (input : Bytes) : Option (Char × Bytes) := do
  let (unit, rest) ← codeUnit input
  if 0xd800 ≤ unit && unit < 0xe000 then
    match rest with
    | 0x5c :: 0x75 :: second =>
      match codeUnit second with
      | some (low, after) =>
        if unit < 0xdc00 && 0xdc00 ≤ low && low < 0xe000 then
          return (Char.ofNat (0x10000 + (unit - 0xd800) * 0x400 + (low - 0xdc00)), after)
        else
          return (replacementCharacter, rest)
      | none => return (replacementCharacter, rest)
    | _ => return (replacementCharacter, rest)
  else
    return (Char.ofNat unit, rest)

def escape : Bytes → Option (Char × Bytes)
  | 0x22 :: rest => some ('"', rest)
  | 0x5c :: rest => some ('\\', rest)
  | 0x2f :: rest => some ('/', rest)
  | 0x62 :: rest => some (Char.ofNat 0x08, rest)
  | 0x66 :: rest => some (Char.ofNat 0x0c, rest)
  | 0x6e :: rest => some (Char.ofNat 0x0a, rest)
  | 0x72 :: rest => some (Char.ofNat 0x0d, rest)
  | 0x74 :: rest => some (Char.ofNat 0x09, rest)
  | 0x75 :: rest => unicodeEscape rest
  | _ => none

def isContinuation (byte : UInt8) : Bool :=
  0x80 ≤ byte && byte ≤ 0xbf

/-- Whether two bytes begin a sequence of three. -/
def startsThree (first second : UInt8) : Bool :=
  if first == 0xe0 then 0xa0 ≤ second && second ≤ 0xbf
  else if first == 0xed then 0x80 ≤ second && second ≤ 0x9f
  else 0xe1 ≤ first && first ≤ 0xef && isContinuation second

/-- Whether two bytes begin a sequence of four. -/
def startsFour (first second : UInt8) : Bool :=
  if first == 0xf0 then 0x90 ≤ second && second ≤ 0xbf
  else if first == 0xf4 then 0x80 ≤ second && second ≤ 0x8f
  else 0xf1 ≤ first && first ≤ 0xf3 && isContinuation second

def lowBits (byte : UInt8) : Nat :=
  byte.toNat % 64

/-- One character in UTF-8.  A byte that starts no sequence is replaced alone. -/
def decodeRune (first : UInt8) (rest : Bytes) : Char × Bytes :=
  if first < 0x80 then (Char.ofNat first.toNat, rest)
  else match rest with
    | second :: rest2 =>
      if 0xc2 ≤ first && first ≤ 0xdf && isContinuation second then
        (Char.ofNat ((first.toNat % 32) * 64 + lowBits second), rest2)
      else match rest2 with
        | third :: rest3 =>
          if startsThree first second && isContinuation third then
            (Char.ofNat (((first.toNat % 16) * 64 + lowBits second) * 64 + lowBits third), rest3)
          else match rest3 with
            | fourth :: rest4 =>
              if startsFour first second && isContinuation third && isContinuation fourth then
                (Char.ofNat ((((first.toNat % 8) * 64 + lowBits second) * 64 +
                  lowBits third) * 64 + lowBits fourth), rest4)
              else (replacementCharacter, rest)
            | [] => (replacementCharacter, rest)
        | [] => (replacementCharacter, rest)
    | [] => (replacementCharacter, rest)

/-- The rest of a string up to its closing quote.  Every character takes at
least one byte, so the length of the input is fuel enough. -/
def stringTail : Nat → Bytes → Option (List Char × Bytes)
  | 0, _ => none
  | _ + 1, [] => none
  | fuel + 1, byte :: rest =>
    if byte == 0x22 then some ([], rest)
    else if byte == 0x5c then do
      let (character, after) ← escape rest
      let (more, final) ← stringTail fuel after
      return (character :: more, final)
    else if byte < 0x20 then none
    else do
      let (character, after) := decodeRune byte rest
      let (more, final) ← stringTail fuel after
      return (character :: more, final)

end Strings

section Numbers

def isDigitByte (byte : UInt8) : Bool :=
  0x30 ≤ byte && byte ≤ 0x39

def digits (input : Bytes) : Option (Bytes × Bytes) :=
  let (taken, rest) := input.span isDigitByte
  if taken.isEmpty then none else some (taken, rest)

def integerPart : Bytes → Option (Bytes × Bytes)
  | 0x30 :: rest => some ([0x30], rest)
  | input => digits input

def fractionPart : Bytes → Option (Bytes × Bytes)
  | 0x2e :: rest => do
    let (taken, after) ← digits rest
    return (0x2e :: taken, after)
  | input => some ([], input)

def exponentSign : Bytes → Bytes × Bytes
  | 0x2b :: rest => ([0x2b], rest)
  | 0x2d :: rest => ([0x2d], rest)
  | input => ([], input)

def exponentPart : Bytes → Option (Bytes × Bytes)
  | byte :: rest =>
    if byte == 0x65 || byte == 0x45 then do
      let (sign, afterSign) := exponentSign rest
      let (taken, after) ← digits afterSign
      return (byte :: sign ++ taken, after)
    else some ([], byte :: rest)
  | [] => some ([], [])

def numberSign : Bytes → Bytes × Bytes
  | 0x2d :: rest => ([0x2d], rest)
  | input => ([], input)

def number (input : Bytes) : Option (Json × Bytes) := do
  let (sign, unsigned) := numberSign input
  let (whole, afterWhole) ← integerPart unsigned
  let (fraction, afterFraction) ← fractionPart afterWhole
  let (exponent, rest) ← exponentPart afterFraction
  let literal := sign ++ whole ++ fraction ++ exponent
  return (.number (String.ofList (literal.map fun byte => Char.ofNat byte.toNat)), rest)

end Numbers

def maximumNesting : Nat := 10000

mutual

/-- A value at a depth of nesting.  Every call takes at least one byte before it
makes another, so the length of the input is fuel enough. -/
def value : Nat → Nat → Bytes → Option (Json × Bytes)
  | 0, _, _ => none
  | fuel + 1, depth, input =>
    match skipBlanks input with
    | 0x7b :: rest =>
      if maximumNesting ≤ depth then none
      else match skipBlanks rest with
        | 0x7d :: after => some (.object [], after)
        | inside => do
          let (found, after) ← members fuel (depth + 1) inside
          return (.object found, after)
    | 0x5b :: rest =>
      if maximumNesting ≤ depth then none
      else match skipBlanks rest with
        | 0x5d :: after => some (.array [], after)
        | inside => do
          let (found, after) ← elements fuel (depth + 1) inside
          return (.array found, after)
    | 0x22 :: rest => do
      let (characters, after) ← stringTail (rest.length + 1) rest
      return (.string (String.ofList characters), after)
    | 0x74 :: 0x72 :: 0x75 :: 0x65 :: rest => some (.boolean true, rest)
    | 0x66 :: 0x61 :: 0x6c :: 0x73 :: 0x65 :: rest => some (.boolean false, rest)
    | 0x6e :: 0x75 :: 0x6c :: 0x6c :: rest => some (.null, rest)
    | other => number other

/-- The members of an object up to its closing brace, in the order of the text
and with every repetition. -/
def members : Nat → Nat → Bytes → Option (List (String × Json) × Bytes)
  | 0, _, _ => none
  | fuel + 1, depth, input =>
    match skipBlanks input with
    | 0x22 :: rest => do
      let (characters, afterKey) ← stringTail (rest.length + 1) rest
      match skipBlanks afterKey with
      | 0x3a :: afterColon => do
        let (child, afterChild) ← value fuel depth afterColon
        let member := (String.ofList characters, child)
        match skipBlanks afterChild with
        | 0x7d :: after => return ([member], after)
        | 0x2c :: more => do
          let (others, after) ← members fuel depth more
          return (member :: others, after)
        | _ => none
      | _ => none
    | _ => none

/-- The elements of an array up to its closing bracket. -/
def elements : Nat → Nat → Bytes → Option (List Json × Bytes)
  | 0, _, _ => none
  | fuel + 1, depth, input => do
    let (child, afterChild) ← value fuel depth input
    match skipBlanks afterChild with
    | 0x5d :: after => return ([child], after)
    | 0x2c :: more => do
      let (others, after) ← elements fuel depth more
      return (child :: others, after)
    | _ => none

end

def trailing (rest : Bytes) : JsonTrailing :=
  match skipBlanks rest with
  | [] => .endOfInput
  | more =>
    match value (more.length + 1) 0 more with
    | some _ => .value
    | none => .malformed "invalid trailing data"

/-- The first value of a text, with every occurrence of every member. -/
def parse (content : Bytes) : Option (Json × JsonTrailing) := do
  let (tree, rest) ← value (content.length + 1) 0 content
  return (tree, trailing rest)

end JsonText

end Sovereignite
