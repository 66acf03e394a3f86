import Sovereignite.ClusterIssuerContainment

/-!
# Usages of a certificate and of its policy

A policy lists the usages it allows, and a request the ones it wants.  The names
are compared in a normal form, and the bits of a certificate are made from the
names.  A list that names no key usage gets the digital signature by default, so
a request can end up with a bit that the names of its policy do not give.
-/

namespace Sovereignite.Controllers

open Effect

section Flags

def keyUsageOf (normalized : String) : Nat :=
  if normalized == "digital signature" || normalized == "signing" then keyUsageDigitalSignature
  else if normalized == "key encipherment" then keyUsageKeyEncipherment
  else if normalized == "cert sign" then keyUsageCertSign
  else if normalized == "crl sign" then keyUsageCRLSign
  else 0

def extKeyUsagesOf (normalized : String) : List ExtKeyUsage :=
  if normalized == "server auth" then [.serverAuth]
  else if normalized == "client auth" then [.clientAuth]
  else []

def keyUsageNames : List String :=
  ["digital signature", "signing", "key encipherment", "cert sign", "crl sign"]

theorem keyUsageOf_eq_zero {normalized : String} :
    keyUsageOf normalized = 0 ↔ normalized ∉ keyUsageNames := by
  unfold keyUsageOf
  split_ifs <;> simp_all [keyUsageNames, keyUsageDigitalSignature, keyUsageKeyEncipherment,
    keyUsageCertSign, keyUsageCRLSign, or_iff_not_imp_left]

theorem testBit_zero_keyUsageOf {normalized : String} :
    (keyUsageOf normalized).testBit 0 = true ↔
      normalized = "digital signature" ∨ normalized = "signing" := by
  unfold keyUsageOf
  split_ifs <;> simp_all [keyUsageDigitalSignature, keyUsageKeyEncipherment,
    keyUsageCertSign, keyUsageCRLSign]

end Flags

section Usages

variable {lib : Library} {allowCA : Bool}

theorem addUsage_adds {state next : Nat × List ExtKeyUsage} {usage : String}
    (added : addUsage lib allowCA state usage = .ok next) :
    next = (state.1 ||| keyUsageOf (normalizeUsage lib usage),
      state.2 ++ extKeyUsagesOf (normalizeUsage lib usage)) := by
  simp only [addUsage] at added
  generalize normalizeUsage lib usage = normalized at added ⊢
  by_cases digital : normalized = "digital signature"
  · subst digital
    cases added
    simp [keyUsageOf, extKeyUsagesOf]
  by_cases signing : normalized = "signing"
  · subst signing
    cases added
    simp [keyUsageOf, extKeyUsagesOf]
  by_cases encipherment : normalized = "key encipherment"
  · subst encipherment
    cases added
    simp [keyUsageOf, extKeyUsagesOf]
  by_cases server : normalized = "server auth"
  · subst server
    cases added
    simp [keyUsageOf, extKeyUsagesOf]
  by_cases client : normalized = "client auth"
  · subst client
    cases added
    simp [keyUsageOf, extKeyUsagesOf]
  by_cases certificates : normalized = "cert sign"
  · subst certificates
    obtain ⟨_, _, added⟩ := bind_eq_ok.mp added
    cases added
    simp [keyUsageOf, extKeyUsagesOf]
  by_cases lists : normalized = "crl sign"
  · subst lists
    obtain ⟨_, _, added⟩ := bind_eq_ok.mp added
    cases added
    simp [keyUsageOf, extKeyUsagesOf]
  by_cases empty : normalized = ""
  · subst empty
    cases added
    simp [keyUsageOf, extKeyUsagesOf]
  simp [digital, signing, encipherment, server, client, certificates, lists, empty,
    failure] at added

def keyUsagesOf (lib : Library) (names : List String) : Nat :=
  names.foldl (fun bits name => bits ||| keyUsageOf (normalizeUsage lib name)) 0

variable {names : List String}

theorem foldEach_addUsage {state final : Nat × List ExtKeyUsage}
    (folded : foldEach (addUsage lib allowCA) state names = .ok final) :
    final = (names.foldl (fun bits name => bits ||| keyUsageOf (normalizeUsage lib name)) state.1,
      state.2 ++ names.flatMap fun name => extKeyUsagesOf (normalizeUsage lib name)) := by
  induction names generalizing state with
  | nil =>
    cases folded
    simp
  | cons _ _ ih =>
    obtain ⟨_, added, folded⟩ := bind_eq_ok.mp folded
    rw [ih folded, addUsage_adds added]
    simp

theorem usages_eq {keyUsage : Nat} {extKeyUsage : List ExtKeyUsage}
    (given : usages lib names allowCA = .ok (keyUsage, extKeyUsage)) :
    keyUsage = (if keyUsagesOf lib names = 0 then keyUsageDigitalSignature
        else keyUsagesOf lib names) ∧
      extKeyUsage = names.flatMap fun name => extKeyUsagesOf (normalizeUsage lib name) := by
  obtain ⟨_, folded, given⟩ := bind_eq_ok.mp given
  have made := foldEach_addUsage folded
  subst made
  cases given
  exact ⟨if_congr beq_iff_eq rfl rfl, rfl⟩

theorem testBit_foldl {bits bit : Nat} :
    (names.foldl (fun bits name => bits ||| keyUsageOf (normalizeUsage lib name))
        bits).testBit bit = true ↔
      bits.testBit bit = true ∨
        ∃ name ∈ names, (keyUsageOf (normalizeUsage lib name)).testBit bit = true := by
  induction names generalizing bits with
  | nil => simp
  | cons _ _ ih => simp [ih, Nat.testBit_or, or_assoc]

theorem testBit_keyUsagesOf {bit : Nat} :
    (keyUsagesOf lib names).testBit bit = true ↔
      ∃ name ∈ names, (keyUsageOf (normalizeUsage lib name)).testBit bit = true := by
  simp [keyUsagesOf, testBit_foldl]

/-- A name gives a bit of the key usage. -/
def NamesKeyUsage (lib : Library) (name : String) : Prop :=
  normalizeUsage lib name ∈ keyUsageNames

theorem keyUsagesOf_eq_zero :
    keyUsagesOf lib names = 0 ↔ ∀ name ∈ names, ¬ NamesKeyUsage lib name := by
  constructor
  · intro zero name member
    apply keyUsageOf_eq_zero.mp
    apply Nat.eq_of_testBit_eq
    intro bit
    have unset := testBit_keyUsagesOf.not.mp (by rw [zero]; simp : ¬ (keyUsagesOf lib
      names).testBit bit = true)
    simp only [not_exists, not_and, Bool.not_eq_true] at unset
    rw [unset name member, Nat.zero_testBit]
  · intro none
    apply Nat.eq_of_testBit_eq
    intro bit
    rw [Nat.zero_testBit, ← Bool.not_eq_true, testBit_keyUsagesOf]
    rintro ⟨name, member, set⟩
    rw [keyUsageOf_eq_zero.mpr (none name member), Nat.zero_testBit] at set
    cases set

end Usages

section Subset

variable {lib : Library} {allowCA : Bool} {requested allowed : List String}

theorem exists_allowed (subset : usageSubset lib requested allowed = true) {name : String}
    (member : name ∈ requested) :
    ∃ other ∈ allowed, normalizeUsage lib other = normalizeUsage lib name := by
  simp only [usageSubset, List.all_eq_true] at subset
  simpa using subset name member

theorem testBit_keyUsagesOf_mono (subset : usageSubset lib requested allowed = true)
    {bit : Nat} (set : (keyUsagesOf lib requested).testBit bit = true) :
    (keyUsagesOf lib allowed).testBit bit = true := by
  obtain ⟨_, member, given⟩ := testBit_keyUsagesOf.mp set
  obtain ⟨other, allows, same⟩ := exists_allowed subset member
  rw [← same] at given
  exact testBit_keyUsagesOf.mpr ⟨other, allows, given⟩

/-- The default is not used for the request, or the policy has the digital
signature by name or by default too. -/
def DefaultCovered (lib : Library) (requested allowed : List String) : Prop :=
  (∃ name ∈ requested, NamesKeyUsage lib name) ∨
    (∃ name ∈ allowed, normalizeUsage lib name = "digital signature" ∨
      normalizeUsage lib name = "signing") ∨
    ∀ name ∈ allowed, ¬ NamesKeyUsage lib name

/-- The usages made for a request are among the ones made for its policy exactly
when the default is covered. -/
theorem usages_within_policy_iff {keyUsage keyUsage' : Nat} {ext ext' : List ExtKeyUsage}
    (subset : usageSubset lib requested allowed = true)
    (given : usages lib requested allowCA = .ok (keyUsage, ext))
    (granted : usages lib allowed allowCA = .ok (keyUsage', ext')) :
    ((∀ bit, keyUsage.testBit bit = true → keyUsage'.testBit bit = true) ∧
        ∀ use ∈ ext, use ∈ ext') ↔
      DefaultCovered lib requested allowed := by
  obtain ⟨rfl, rfl⟩ := usages_eq given
  obtain ⟨rfl, rfl⟩ := usages_eq granted
  have extended : ∀ use ∈ requested.flatMap (fun name =>
      extKeyUsagesOf (normalizeUsage lib name)),
        use ∈ allowed.flatMap fun name => extKeyUsagesOf (normalizeUsage lib name) := by
    intro _ member
    obtain ⟨name, asked, gives⟩ := List.mem_flatMap.mp member
    obtain ⟨other, allows, same⟩ := exists_allowed subset asked
    rw [← same] at gives
    exact List.mem_flatMap.mpr ⟨other, allows, gives⟩
  rw [and_iff_left extended]
  by_cases default : keyUsagesOf lib requested = 0
  · rw [if_pos default]
    have unnamed := keyUsagesOf_eq_zero.mp default
    have digital : ∀ bit, keyUsageDigitalSignature.testBit bit = true ↔ bit = 0 := by
      intro bit
      rw [keyUsageDigitalSignature, Nat.testBit_one_eq_true_iff_self_eq_zero]
    simp only [digital, forall_eq]
    by_cases none : keyUsagesOf lib allowed = 0
    · rw [if_pos none]
      exact iff_of_true rfl (.inr (.inr (keyUsagesOf_eq_zero.mp none)))
    · rw [if_neg none, testBit_keyUsagesOf]
      simp only [testBit_zero_keyUsageOf]
      constructor
      · intro named
        exact .inr (.inl named)
      · rintro (⟨name, member, names⟩ | named | absent)
        · exact absurd names (unnamed name member)
        · exact named
        · exact absurd (keyUsagesOf_eq_zero.mpr absent) none
  · rw [if_neg default]
    have named : ∃ name ∈ requested, NamesKeyUsage lib name := by
      by_contra absent
      simp only [not_exists, not_and] at absent
      exact default (keyUsagesOf_eq_zero.mpr absent)
    refine iff_of_true ?_ (.inl named)
    intro _ set
    have granted := testBit_keyUsagesOf_mono subset set
    rw [if_neg]
    · exact granted
    · intro zero
      rw [zero, Nat.zero_testBit] at granted
      cases granted

/-- A request for server authentication gets the digital signature by default,
under a policy that names the key encipherment only. -/
theorem default_usage_exceeds_policy : ∃ lib requested allowed keyUsage keyUsage' ext ext' bit,
    usageSubset lib requested allowed = true ∧ usages lib requested false = .ok (keyUsage, ext) ∧
      usages lib allowed false = .ok (keyUsage', ext') ∧
      keyUsage.testBit bit = true ∧ keyUsage'.testBit bit = false :=
  ⟨sampleLibrary, ["server auth"], ["server auth", "key encipherment"], 1, 4, [.serverAuth],
    [.serverAuth], 0, by decide +kernel, by decide +kernel, by decide +kernel, by decide,
    by decide⟩

/-- A policy that names the digital signature under its alias covers the default. -/
theorem signing_policy_covers_default :
    (∀ bit, (1 : Nat).testBit bit = true → (5 : Nat).testBit bit = true) ∧
      ∀ use ∈ [ExtKeyUsage.serverAuth], use ∈ [ExtKeyUsage.serverAuth] := by
  have subset : usageSubset sampleLibrary ["server auth"]
      ["server_auth", "Signing", "key encipherment"] = true := by decide +kernel
  have given : usages sampleLibrary ["server auth"] false = .ok (1, [.serverAuth]) := by
    decide +kernel
  have granted : usages sampleLibrary ["server_auth", "Signing", "key encipherment"] false =
      .ok (5, [.serverAuth]) := by decide +kernel
  apply (usages_within_policy_iff subset given granted).mpr
  exact .inr (.inl ⟨"Signing", by decide, .inr (by decide +kernel)⟩)

end Subset

end Sovereignite.Controllers
