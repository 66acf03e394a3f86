import Sovereignite.CertificateSigning

/-!
# Names in certificates

A domain name is read as its labels.  The check of the signer works on texts:
it drops a leading wildcard, maps to lower case, drops the dot of the root and
compares ends.  On labels that is what it should be, a name within a domain;
but a wildcard is found only before the first dot.
-/

namespace Sovereignite.Controllers

open Effect

/-- The labels of a name.  The root has none. -/
def labels (name : String) : List (List Char) :=
  if name.toList = [] then [] else name.toList.splitOn '.'

/-- A name in lower case and without the dot of the root. -/
def canonicalName (lib : Library) (name : String) : String :=
  trimSuffix (lib.lower name) "."

/-- A name is a domain or lies below it: its labels end with those of the domain. -/
def Within (lib : Library) (name domain : String) : Prop :=
  labels (canonicalName lib domain) <:+ labels (canonicalName lib name)

def HasWildcard (name : String) : Prop :=
  ['*'] ∈ name.toList.splitOn '.'

/-- A wildcard that does not stand before the first dot. -/
def HidesWildcard (name : String) : Prop :=
  name = "*" ∨ ['*'] ∈ (name.toList.splitOn '.').tail

/-- Mapping to lower case keeps the dot. -/
def Library.KeepsDot (lib : Library) : Prop :=
  lib.toLower '.' = '.'

theorem hasPrefix_iff {text start : String} :
    hasPrefix text start = true ↔ start.toList <+: text.toList :=
  List.isPrefixOf_iff_prefix

theorem hasSuffix_iff {text finish : String} :
    hasSuffix text finish = true ↔ finish.toList <:+ text.toList :=
  List.isSuffixOf_iff_suffix

theorem splitOn_cons_dot (rest : List Char) : ('.' :: rest).splitOn '.' = [] :: rest.splitOn '.' :=
  List.splitOn_append_cons_self [] rest

theorem splitOn_cons_other {character : Char} (rest : List Char) (other : character ≠ '.') :
    (character :: rest).splitOn '.' = (rest.splitOn '.').modifyHead (List.cons character) := by
  simp [List.splitOn, List.splitOnP_cons_eq_if_modifyHead, other]

theorem eq_nil_or_dot_of_empty_label {characters : List Char} {others : List (List Char)}
    (split : characters.splitOn '.' = [] :: others) :
    characters = [] ∨ ∃ rest, characters = '.' :: rest := by
  cases characters with
  | nil => exact .inl rfl
  | cons first rest =>
    by_cases dot : first = '.'
    · exact .inr ⟨rest, by rw [dot]⟩
    · rw [splitOn_cons_other rest dot] at split
      cases parts : rest.splitOn '.' with
      | nil | cons => simp [parts] at split

theorem eq_or_prefix_of_asterisk_label {characters : List Char} {others : List (List Char)}
    (split : characters.splitOn '.' = ['*'] :: others) :
    characters = ['*'] ∨ ['*', '.'] <+: characters := by
  cases characters with
  | nil => simp at split
  | cons first rest =>
    by_cases dot : first = '.'
    · rw [dot, splitOn_cons_dot] at split
      simp at split
    · rw [splitOn_cons_other rest dot] at split
      cases parts : rest.splitOn '.' with
      | nil => simp [parts] at split
      | cons =>
        simp only [parts, List.modifyHead_cons, List.cons.injEq] at split
        obtain ⟨⟨asterisk, empty⟩, _⟩ := split
        subst asterisk empty
        rcases eq_nil_or_dot_of_empty_label parts with ended | ⟨after, continued⟩
        · simp [ended]
        · simp [continued]

theorem hasWildcard_iff_hidesWildcard {name : String} (unprefixed : hasPrefix name "*." = false) :
    HasWildcard name ↔ HidesWildcard name := by
  unfold HasWildcard HidesWildcard
  constructor
  · intro member
    cases split : name.toList.splitOn '.' with
    | nil => simp [split] at member
    | cons =>
      rw [split] at member
      rcases List.mem_cons.mp member with here | later
      · subst here
        rcases eq_or_prefix_of_asterisk_label split with whole | start
        · exact .inl (String.toList_inj.mp whole)
        · have found : hasPrefix name "*." = true := hasPrefix_iff.mpr start
          rw [unprefixed] at found
          cases found
      · exact .inr later
  · rintro (rfl | later)
    · decide
    · exact List.mem_of_mem_tail later

theorem toList_trimSuffix_dot (text : String) :
    (trimSuffix text ".").toList =
      if ['.'] <:+ text.toList then text.toList.dropLast else text.toList := by
  unfold trimSuffix
  by_cases ends : hasSuffix text "." = true
  · have suffix : ['.'] <:+ text.toList := hasSuffix_iff.mp ends
    rw [if_pos ends, if_pos suffix, String.toList_ofList, List.dropLast_eq_take]
    rfl
  · have noSuffix : ¬ ['.'] <:+ text.toList := fun suffix => ends (hasSuffix_iff.mpr suffix)
    simp [ends, noSuffix]

theorem toList_lower (lib : Library) (text : String) :
    (lib.lower text).toList = text.toList.map lib.toLower := by
  simp [Library.lower]

/-- A text that is another one or ends with a dot and the other one has the
labels of the other one last. -/
theorem labels_suffix {inner outer : String}
    (ends : inner = outer ∨ hasSuffix inner ("." ++ outer) = true) :
    labels outer <:+ labels inner := by
  rcases ends with rfl | ends
  · exact List.suffix_refl _
  · have suffix : '.' :: outer.toList <:+ inner.toList := by
      simpa using hasSuffix_iff.mp ends
    obtain ⟨_, whole⟩ := suffix
    unfold labels
    by_cases root : outer.toList = []
    · simp [root]
    · have nonempty : inner.toList ≠ [] := by
        rw [← whole]
        simp
      rw [if_neg root, if_neg nonempty, ← whole, List.splitOn_append_cons_self]
      exact List.suffix_append _ _

variable {lib : Library}

theorem hasSuffix_canonicalName {front : Char} {whole inner : String}
    (longer : (lib.lower whole).toList = front :: '.' :: (lib.lower inner).toList)
    (nonempty : (lib.lower inner).toList ≠ []) :
    hasSuffix (canonicalName lib whole) ("." ++ canonicalName lib inner) = true := by
  have sameEnd : ['.'] <:+ (lib.lower whole).toList ↔ ['.'] <:+ (lib.lower inner).toList := by
    rw [longer, List.suffix_cons_iff, List.suffix_cons_iff]
    simp [nonempty]
  rw [hasSuffix_iff, String.toList_append, canonicalName, canonicalName,
    toList_trimSuffix_dot, toList_trimSuffix_dot]
  by_cases ends : ['.'] <:+ (lib.lower inner).toList
  · rw [if_pos ends, if_pos (sameEnd.mpr ends), longer, List.dropLast_cons_of_ne_nil (by simp),
      List.dropLast_cons_of_ne_nil nonempty]
    exact List.suffix_cons _ _
  · rw [if_neg ends, if_neg (fun found => ends (sameEnd.mp found)), longer]
    exact List.suffix_cons _ _

/-- Without its leading wildcard a name has the labels it had, but for the
wildcard. -/
theorem labels_trimPrefix_suffix (keepsDot : lib.KeepsDot) (name : String) :
    labels (canonicalName lib (trimPrefix name "*.")) <:+ labels (canonicalName lib name) := by
  by_cases wildcard : hasPrefix name "*." = true
  · obtain ⟨rest, whole⟩ := hasPrefix_iff.mp wildcard
    have trimmed : (trimPrefix name "*.").toList = rest := by
      unfold trimPrefix
      rw [if_pos wildcard, ← whole, String.toList_ofList]
      rfl
    have longer : (lib.lower name).toList =
        lib.toLower '*' :: '.' :: (lib.lower (trimPrefix name "*.")).toList := by
      rw [toList_lower, toList_lower, trimmed, ← whole]
      simpa [Library.KeepsDot] using keepsDot
    by_cases empty : (lib.lower (trimPrefix name "*.")).toList = []
    · have root : labels (canonicalName lib (trimPrefix name "*.")) = [] := by
        simp [labels, canonicalName, toList_trimSuffix_dot, empty]
      rw [root]
      exact List.nil_suffix
    · exact labels_suffix (.inr (hasSuffix_canonicalName longer empty))
  · have same : trimPrefix name "*." = name := by
      unfold trimPrefix
      rw [if_neg wildcard]
    rw [same]

theorem within_of_dnsNameAllowed (keepsDot : lib.KeepsDot) {name : String}
    {domains : List String} (allowed : dnsNameAllowed lib name domains = true) :
    ∃ domain ∈ domains, Within lib name domain := by
  obtain ⟨domain, member, found⟩ := List.any_eq_true.mp allowed
  simp only [Bool.or_eq_true, beq_iff_eq] at found
  have inner := labels_suffix found
  exact ⟨domain, member, inner.trans (labels_trimPrefix_suffix keepsDot name)⟩

end Sovereignite.Controllers
