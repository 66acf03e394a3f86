import Mathlib.Data.String.Basic
import Sovereignite.Platform

/-!
# Injectivity of the encodings below digests

Hexadecimal text, the bytes of a text and a length-prefixed field determine
what they encode.  With a hash without collisions two inputs with one digest
are therefore equal.
-/

namespace Sovereignite

theorem bytesOf_injective : Function.Injective bytesOf := by
  intro first second equal
  have arrays : first.toByteArray.data = second.toByteArray.data := Array.toList_inj.mp equal
  exact String.toByteArray_inj.mp (ByteArray.ext arrays)

theorem length_bytesOf_le (text : String) : (bytesOf text).length ≤ 4 * text.length := by
  have sizes : ∀ characters : List Char, String.utf8Len characters ≤ 4 * characters.length := by
    intro characters
    induction characters with
    | nil => exact Nat.le_refl 0
    | cons character =>
      have bound := Char.utf8Size_le_four character
      simp only [String.utf8Len_cons, List.length_cons]
      omega
  have bytes : (bytesOf text).length = text.utf8ByteSize := rfl
  rw [bytes, ← String.utf8Len_toList, ← String.length_toList]
  exact sizes text.toList

theorem hexDigit_inj {first second : Nat} (firstBelow : first < 16)
    (secondBelow : second < 16) (equal : hexDigit first = hexDigit second) : first = second := by
  have all : ∀ left : Fin 16, ∀ right : Fin 16,
      hexDigit left.val = hexDigit right.val → left = right := by decide
  exact congrArg Fin.val (all ⟨first, firstBelow⟩ ⟨second, secondBelow⟩ equal)

theorem hexDigits_injective : Function.Injective hexDigits := by
  intro first
  induction first with
  | nil =>
    intro second equal
    cases second with
    | nil => rfl
    | cons => cases equal
  | cons byte _ ih =>
    intro second equal
    cases second with
    | nil => cases equal
    | cons other =>
      simp only [hexDigits, List.cons.injEq] at equal
      obtain ⟨high, low, tails⟩ := equal
      have byteBelow := byte.toNat_lt
      have otherBelow := other.toNat_lt
      have highEqual := hexDigit_inj (by omega) (by omega) high
      have lowEqual := hexDigit_inj (by omega) (by omega) low
      have bytes : byte.toNat = other.toNat := by omega
      rw [UInt8.toNat_inj.mp bytes, ih tails]

theorem hexDigit_class (nibble : Nat) :
    (hexDigit nibble).isDigit || ('a' ≤ hexDigit nibble && hexDigit nibble ≤ 'f') := by
  by_cases small : nibble < 16
  · have every : ∀ nibble, nibble < 16 →
        (hexDigit nibble).isDigit || ('a' ≤ hexDigit nibble && hexDigit nibble ≤ 'f') := by
      decide
    exact every nibble small
  · have zero : hexDigit nibble = '0' := by
      have beyond : "0123456789abcdef".toList[nibble]? = none :=
        List.getElem?_eq_none (Nat.le_of_not_lt small)
      simp only [hexDigit, List.getD_eq_getElem?_getD, beyond]
      rfl
    rw [zero]
    rfl

theorem hexDigits_spec (bytes : Bytes) :
    (hexDigits bytes).length = 2 * bytes.length ∧
      ∀ character ∈ hexDigits bytes,
        (character.isDigit || ('a' ≤ character && character ≤ 'f')) = true := by
  induction bytes with
  | nil => simp [hexDigits]
  | cons _ _ ih =>
    constructor
    · simp only [hexDigits, List.length_cons, ih.1]
      omega
    · intro character member
      simp only [hexDigits, List.mem_cons] at member
      rcases member with rfl | rfl | later
      · exact hexDigit_class _
      · exact hexDigit_class _
      · exact ih.2 character later

/-- The text of a digest of 32 bytes has 64 digits. -/
theorem matchesClass_encodeToString {digest : Bytes} (sized : digest.length = 32) :
    matchesClass (fun character => character.isDigit || ('a' ≤ character && character ≤ 'f'))
      64 64 (encodeToString digest) = true := by
  obtain ⟨size, digits⟩ := hexDigits_spec digest
  rw [sized] at size
  have text : (encodeToString digest).toList = hexDigits digest := String.toList_ofList
  simp only [matchesClass, ← String.length_toList, text, size, Bool.and_eq_true, List.all_eq_true]
  exact ⟨by decide, digits⟩

theorem encodeToString_injective : Function.Injective encodeToString :=
  fun _ _ equal => hexDigits_injective (String.ofList_injective equal)

theorem length_putUint64 (value : Nat) : (putUint64 value).length = 8 := by
  simp [putUint64]

theorem putUint64_inj {first second : Nat} (firstBelow : first < 2 ^ 64)
    (secondBelow : second < 2 ^ 64) (equal : putUint64 first = putUint64 second) :
    first = second := by
  have bytes : ∀ index < 8, first / 256 ^ (7 - index) % 256 = second / 256 ^ (7 - index) % 256 := by
    intro index below
    have entries := congrArg (fun encoded => encoded[index]?) equal
    simp only [putUint64, List.getElem?_map, List.getElem?_range below, Option.map_some,
      Option.some.injEq] at entries
    have values := congrArg UInt8.toNat entries
    simpa using values
  have b0 := bytes 0 (by omega)
  have b1 := bytes 1 (by omega)
  have b2 := bytes 2 (by omega)
  have b3 := bytes 3 (by omega)
  have b4 := bytes 4 (by omega)
  have b5 := bytes 5 (by omega)
  have b6 := bytes 6 (by omega)
  have b7 := bytes 7 (by omega)
  norm_num at b0 b1 b2 b3 b4 b5 b6 b7
  omega

theorem writeDigestField_inj {first second firstRest secondRest : Bytes}
    (firstBelow : first.length < 2 ^ 64) (secondBelow : second.length < 2 ^ 64)
    (equal : writeDigestField first ++ firstRest = writeDigestField second ++ secondRest) :
    first = second ∧ firstRest = secondRest := by
  simp only [writeDigestField, List.append_assoc, Nat.mod_eq_of_lt firstBelow,
    Nat.mod_eq_of_lt secondBelow] at equal
  have heads := List.append_inj equal (by rw [length_putUint64, length_putUint64])
  exact List.append_inj heads.2 (putUint64_inj firstBelow secondBelow heads.1)

theorem Platform.hexDigest_inj {env : Platform} {inputs : Set Bytes} {first second : Bytes}
    (collisionFree : Set.InjOn env.sha256 inputs) (firstIn : first ∈ inputs)
    (secondIn : second ∈ inputs)
    (equal : env.hexDigest first = env.hexDigest second) : first = second :=
  collisionFree firstIn secondIn (encodeToString_injective equal)

end Sovereignite
