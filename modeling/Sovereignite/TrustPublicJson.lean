import Sovereignite.JsonText
import Sovereignite.TrustExecution

/-!
# What the screening of public JSON covers

A public document is screened as the value its text decodes to, and its text is
what is published.  An object decodes to a map, in which the last member of a
name takes the place of the ones before it.  The screening covers everything in
the text but the values of members that were overwritten.
-/

namespace Sovereignite.Trust

open Effect

section Decoding

/-- A later member has the same name. -/
def overwrittenBy (key : String) (later : List (String × Json)) : Bool :=
  later.any fun member => member.1 == key

mutual

def decoded : Json → Json
  | .object members => .object (decodedMembers members)
  | .array elements => .array (decodedElements elements)
  | .null => .null
  | .boolean value => .boolean value
  | .number literal => .number literal
  | .string text => .string text

def decodedMembers : List (String × Json) → List (String × Json)
  | [] => []
  | member :: rest =>
    if overwrittenBy member.1 rest then decodedMembers rest
    else decodedMember member :: decodedMembers rest

def decodedMember : String × Json → String × Json
  | (key, child) => (key, decoded child)

def decodedElements : List Json → List Json
  | [] => []
  | child :: rest => decoded child :: decodedElements rest

end

mutual

/-- The values of overwritten members in the part of a text that is decoded. -/
def overwritten : Json → List Json
  | .object members => overwrittenMembers members
  | .array elements => overwrittenElements elements
  | .null => []
  | .boolean _ => []
  | .number _ => []
  | .string _ => []

def overwrittenMembers : List (String × Json) → List Json
  | [] => []
  | member :: rest =>
    if overwrittenBy member.1 rest then member.2 :: overwrittenMembers rest
    else overwrittenMember member ++ overwrittenMembers rest

def overwrittenMember : String × Json → List Json
  | (_, child) => overwritten child

def overwrittenElements : List Json → List Json
  | [] => []
  | child :: rest => overwritten child ++ overwrittenElements rest

end

/-- What follows a value, without the words of the library for malformed data. -/
def unworded : JsonTrailing → JsonTrailing
  | .malformed _ => .malformed ""
  | trailing => trailing

/-- The JSON library reads the text and stores its objects as maps. -/
def DecodesToMaps (env : Platform) : Prop :=
  ∀ content, (env.decodeJson content).toOption.map (Prod.map id unworded) =
    (JsonText.parse content).map (Prod.map decoded unworded)

end Decoding

variable {members : List (String × Json)}

section Screening

/-- A value that occurs in another one, at any depth. -/
inductive Occurs : Json → Json → Prop where
  | here (value : Json) : Occurs value value
  | member {value child : Json} {key : String} {members : List (String × Json)}
      (present : (key, child) ∈ members) (inside : Occurs value child) :
      Occurs value (.object members)
  | element {value child : Json} {elements : List Json} (present : child ∈ elements)
      (inside : Occurs value child) : Occurs value (.array elements)

/-- No member at any depth has a forbidden name, and no string contains a
private key. -/
structure Screened (text : Json) : Prop where
  keys : ∀ members key child, Occurs (.object members) text → (key, child) ∈ members →
    normalizedKey key ∉ forbiddenPublicJSONKeys
  strings : ∀ string, Occurs (.string string) text → containsPrivatePEM (bytesOf string) = false

theorem screened_object :
    Screened (.object members) ↔ ∀ key child, (key, child) ∈ members →
      normalizedKey key ∉ forbiddenPublicJSONKeys ∧ Screened child := by
  constructor
  · intro screened key child present
    refine ⟨screened.keys members key child (.here _) present, ?_, ?_⟩
    · intro inner name value occurs
      exact screened.keys inner name value (.member present occurs)
    · intro string occurs
      exact screened.strings string (.member present occurs)
  · intro each
    constructor
    · intro inner key child occurs present
      cases occurs with
      | here => exact (each key child present).1
      | member outer inside => exact (each _ _ outer).2.keys inner key child inside present
    · intro string occurs
      cases occurs with
      | member outer inside => exact (each _ _ outer).2.strings string inside

theorem screened_array {elements : List Json} :
    Screened (.array elements) ↔ ∀ child ∈ elements, Screened child := by
  constructor
  · intro screened child present
    constructor
    · intro inner name value occurs
      exact screened.keys inner name value (.element present occurs)
    · intro string occurs
      exact screened.strings string (.element present occurs)
  · intro each
    constructor
    · intro inner key child occurs present
      cases occurs with
      | element outer inside => exact (each _ outer).keys inner key child inside present
    · intro string occurs
      cases occurs with
      | element outer inside => exact (each _ outer).strings string inside

theorem screened_string {text : String} :
    Screened (.string text) ↔ containsPrivatePEM (bytesOf text) = false := by
  constructor
  · intro screened
    exact screened.strings text (.here _)
  · intro plain
    constructor
    · intro _ _ _ occurs
      cases occurs
    · intro _ occurs
      cases occurs
      exact plain

theorem screened_null : Screened .null := by
  constructor
  · intro _ _ _ occurs
    cases occurs
  · intro _ occurs
    cases occurs

theorem screened_boolean (value : Bool) : Screened (.boolean value) := by
  constructor
  · intro _ _ _ occurs
    cases occurs
  · intro _ occurs
    cases occurs

theorem screened_number (literal : String) : Screened (.number literal) := by
  constructor
  · intro _ _ _ occurs
    cases occurs
  · intro _ occurs
    cases occurs

end Screening

section Inspection

variable {depth : Nat}

theorem inspectMembers_eq_ok :
    inspectMembers members depth = .ok () ↔
      ∀ member ∈ members, inspectMember member depth = .ok () := by
  induction members with
  | nil => simp [inspectMembers]
  | cons _ _ ih => simp [inspectMembers, bind_eq_ok, ih, Unique.exists_iff]

theorem inspectElements_eq_ok {elements : List Json} :
    inspectElements elements depth = .ok () ↔
      ∀ child ∈ elements, inspectPublicJSON child (depth + 1) = .ok () := by
  induction elements with
  | nil => simp [inspectElements]
  | cons _ _ ih => simp [inspectElements, bind_eq_ok, ih, Unique.exists_iff]

/-- What the inspection accepts is screened. -/
theorem screened_of_inspected {value : Json} (inspected : inspectPublicJSON value depth = .ok ()) :
    Screened value := by
  induction value using Json.induction generalizing depth with
  | null => exact screened_null
  | boolean value => exact screened_boolean value
  | number literal => exact screened_number literal
  | string =>
    obtain ⟨_, _, inspected⟩ := bind_eq_ok.mp inspected
    exact screened_string.mpr (reject_eq_ok.mp inspected)
  | array _ ih =>
    obtain ⟨_, _, inspected⟩ := bind_eq_ok.mp inspected
    apply screened_array.mpr
    intro child present
    exact ih child present (inspectElements_eq_ok.mp inspected child present)
  | object _ ih =>
    obtain ⟨_, _, inspected⟩ := bind_eq_ok.mp inspected
    apply screened_object.mpr
    intro key child present
    have checked := inspectMembers_eq_ok.mp inspected (key, child) present
    obtain ⟨_, allowed, checked⟩ := bind_eq_ok.mp checked
    exact ⟨by simpa using allowed, ih (key, child) present checked⟩

end Inspection

section Coverage

variable {key : String}

theorem overwrittenBy_eq_true {later : List (String × Json)} :
    overwrittenBy key later = true ↔ ∃ child, (key, child) ∈ later := by
  simp [overwrittenBy]

/-- Every name in a text is a name in what it decodes to. -/
theorem exists_decodedMember {child : Json} (present : (key, child) ∈ members) :
    ∃ value, (key, value) ∈ decodedMembers members := by
  induction members generalizing child with
  | nil => cases present
  | cons _ _ ih =>
    unfold decodedMembers
    rcases List.mem_cons.mp present with rfl | later
    · split
      · next overwritten =>
          obtain ⟨value, again⟩ := overwrittenBy_eq_true.mp overwritten
          exact ih again
      · exact ⟨decoded child, List.mem_cons_self⟩
    · obtain ⟨value, found⟩ := ih later
      split
      · exact ⟨value, found⟩
      · exact ⟨value, List.mem_cons_of_mem _ found⟩

theorem exists_member_of_decoded {value : Json} (present : (key, value) ∈ decodedMembers members) :
    ∃ child, (key, child) ∈ members := by
  induction members with
  | nil => cases present
  | cons member _ ih =>
    unfold decodedMembers at present
    split at present
    · obtain ⟨child, found⟩ := ih present
      exact ⟨child, List.mem_cons_of_mem _ found⟩
    · rcases List.mem_cons.mp present with same | later
      · obtain ⟨_, child⟩ := member
        cases same
        exact ⟨child, List.mem_cons_self⟩
      · obtain ⟨child, found⟩ := ih later
        exact ⟨child, List.mem_cons_of_mem _ found⟩

theorem screenedMembers_iff (inner : ∀ member ∈ members, Screened member.2 ↔
      Screened (decoded member.2) ∧ ∀ value ∈ overwritten member.2, Screened value) :
    (∀ member ∈ members, Screened member.2) ↔
      (∀ member ∈ decodedMembers members, Screened member.2) ∧
        ∀ value ∈ overwrittenMembers members, Screened value := by
  induction members with
  | nil => simp [decodedMembers, overwrittenMembers]
  | cons member rest ih =>
    obtain ⟨first, others⟩ := List.forall_mem_cons.mp inner
    obtain ⟨name, _⟩ := member
    rw [List.forall_mem_cons, ih others]
    cases again : overwrittenBy name rest with
    | true =>
      simp only [decodedMembers, overwrittenMembers, again, if_true, List.forall_mem_cons]
      tauto
    | false =>
      simp only [decodedMembers, overwrittenMembers, again, Bool.false_eq_true, if_false,
        List.forall_mem_cons, List.forall_mem_append, decodedMember, overwrittenMember, first]
      tauto

theorem screened_iff_decoded (text : Json) :
    Screened text ↔ Screened (decoded text) ∧ ∀ value ∈ overwritten text, Screened value := by
  induction text using Json.induction with
  | null | boolean | number | string => simp [decoded, overwritten]
  | array elements ih =>
    simp only [decoded, overwritten, screened_array]
    induction elements with
    | nil => simp [decodedElements, overwrittenElements]
    | cons _ _ rests =>
      obtain ⟨first, others⟩ := List.forall_mem_cons.mp ih
      simp only [decodedElements, overwrittenElements, List.forall_mem_cons,
        List.forall_mem_append, rests others, first]
      tauto
  | object members ih =>
    have values := screenedMembers_iff ih
    simp only [decoded, overwritten, screened_object]
    constructor
    · intro screened
      have each : ∀ member ∈ members, Screened member.2 :=
        fun member present => (screened member.1 member.2 present).2
      obtain ⟨kept, hidden⟩ := values.mp each
      refine ⟨fun key child present => ⟨?_, kept (key, child) present⟩, hidden⟩
      obtain ⟨original, found⟩ := exists_member_of_decoded present
      exact (screened key original found).1
    · rintro ⟨screened, hidden⟩ key child present
      obtain ⟨value, found⟩ := exists_decodedMember present
      refine ⟨(screened key value found).1, ?_⟩
      exact values.mpr ⟨fun member kept => (screened member.1 member.2 kept).2, hidden⟩
        (key, child) present

/-- The text of an accepted document is a single value, and the screening covers
exactly what it does not overwrite: the text is screened iff the values of its
overwritten members are. -/
theorem text_screened_iff {env : Platform} (decodes : DecodesToMaps env)
    {path : String} {content : Bytes} {document : PublicDocument}
    (accepted : newPublicDocument env path mediaTypeJSON content = .ok document) :
    ∃ text, JsonText.parse content = some (text, .endOfInput) ∧
      (Screened text ↔ ∀ value ∈ overwritten text, Screened value) := by
  obtain ⟨_, _, accepted⟩ := bind_eq_ok.mp accepted
  obtain ⟨_, _, accepted⟩ := bind_eq_ok.mp accepted
  obtain ⟨_, _, accepted⟩ := bind_eq_ok.mp accepted
  obtain ⟨_, _, accepted⟩ := bind_eq_ok.mp accepted
  rw [if_pos (by simp)] at accepted
  obtain ⟨_, checked, _⟩ := bind_eq_ok.mp accepted
  have valid := mapError_eq_ok.mp checked
  obtain ⟨⟨value, trailing⟩, read, valid⟩ := bind_eq_ok.mp valid
  have agreed := decodes content
  rw [mapError_eq_ok.mp read] at agreed
  cases parsed : JsonText.parse content with
  | none =>
    rw [parsed] at agreed
    cases agreed
  | some result =>
    obtain ⟨text, rest⟩ := result
    rw [parsed] at agreed
    obtain ⟨rfl, followed⟩ := Prod.mk.inj (Option.some.inj agreed)
    cases trailing with
    | value | malformed => cases valid
    | endOfInput =>
      have ended : rest = .endOfInput := by
        cases rest with
        | endOfInput => rfl
        | _ => cases followed
      refine ⟨text, by rw [ended], ?_⟩
      have screened : Screened (decoded text) := by
        simp only at valid
        split at valid
        · exact screened_of_inspected valid
        · cases valid
      rw [screened_iff_decoded text]
      exact ⟨And.right, fun hidden => ⟨screened, hidden⟩⟩

end Coverage

section SampleDevice

def decodeToMaps (content : Bytes) : Except String (Json × JsonTrailing) :=
  match JsonText.parse content with
  | none => .error "invalid character"
  | some (text, trailing) => .ok (decoded text, trailing)

def readingPlatform : Platform :=
  { samplePlatform [] with decodeJson := decodeToMaps }

theorem readingPlatform_decodes : DecodesToMaps readingPlatform := by
  intro content
  change (decodeToMaps content).toOption.map _ = _
  unfold decodeToMaps
  cases JsonText.parse content with
  | none | some => rfl

def shadowedText : Bytes :=
  bytesOf "\x7b\"a\":\x7b\"password\":\"x\"\x7d,\"a\":1\x7d"

def shadowedTree : Json :=
  .object [("a", .object [("password", .string "x")]), ("a", .number "1")]

theorem shadowedTree_not_screened : ¬ Screened shadowedTree := by
  intro screened
  have inner := (screened_object.mp screened "a" _ List.mem_cons_self).2
  exact (screened_object.mp inner "password" _ List.mem_cons_self).1 (by decide +kernel)

/-- The text with the password is accepted as a public document. -/
theorem overwritten_password_accepted : ∃ env path content document text,
    DecodesToMaps env ∧ newPublicDocument env path mediaTypeJSON content = .ok document ∧
      JsonText.parse content = some (text, .endOfInput) ∧ ¬ Screened text := by
  have accepted : (newPublicDocument readingPlatform pathDeviceDocument mediaTypeJSON
      shadowedText).isOk = true := by decide +kernel
  obtain ⟨document, made⟩ := isOk_eq_true.mp accepted
  exact ⟨readingPlatform, pathDeviceDocument, shadowedText, document, shadowedTree,
    readingPlatform_decodes, made, rfl, shadowedTree_not_screened⟩

def repeatedText : Bytes :=
  bytesOf "\x7b\"a\":0,\"b\":[\"x\"],\"a\":1\x7d"

/-- A text whose overwritten values are screened is screened. -/
theorem repeatedText_screened : ∃ text,
    JsonText.parse repeatedText = some (text, .endOfInput) ∧ Screened text := by
  have accepted : (newPublicDocument readingPlatform pathDeviceDocument mediaTypeJSON
      repeatedText).isOk = true := by decide +kernel
  obtain ⟨_, made⟩ := isOk_eq_true.mp accepted
  obtain ⟨_, parsed, screened⟩ := text_screened_iff readingPlatform_decodes made
  have read : JsonText.parse repeatedText = some (.object [("a", .number "0"),
      ("b", .array [.string "x"]), ("a", .number "1")], .endOfInput) := rfl
  cases parsed.symm.trans read
  refine ⟨_, read, screened.mpr ?_⟩
  have hidden : overwritten (.object [("a", .number "0"), ("b", .array [.string "x"]),
      ("a", .number "1")]) = [.number "0"] := rfl
  rw [hidden]
  simpa using screened_number "0"

end SampleDevice

end Sovereignite.Trust
