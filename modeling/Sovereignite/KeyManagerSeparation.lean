import Sovereignite.KeyManagerRuns

/-!
# Handles are not shared

The pools of the roles are disjoint, and checked metadata records each handle
once.  A handle to be retired is therefore never the active handle of a role,
and neither is one that is free in the pool.
-/

namespace Sovereignite.KeyManager

open Effect KeyedRecords

variable {policy : RolePolicy} {handle : Handle}

section Pools

/-- Policies that share a handle are for one role. -/
def Apart (first second : RolePolicy) : Prop :=
  ∀ handle, handle ∈ first.handles → handle ∈ second.handles → first.role = second.role

instance : Std.Symm Apart where
  symm _ _ apart handle inSecond inFirst := (apart handle inFirst inSecond).symm

theorem checkPolicy_apart {earlier next : List RolePolicy}
    (checked : checkPolicy earlier policy = .ok next) :
    next = earlier ++ [policy] ∧ ∀ other ∈ earlier, Apart other policy := by
  obtain ⟨_, _, checked⟩ := bind_eq_ok.mp checked
  obtain ⟨_, _, checked⟩ := bind_eq_ok.mp checked
  obtain ⟨_, _, checked⟩ := bind_eq_ok.mp checked
  obtain ⟨_, _, checked⟩ := bind_eq_ok.mp checked
  obtain ⟨_, handles, checked⟩ := bind_eq_ok.mp checked
  obtain ⟨_, _, checked⟩ := bind_eq_ok.mp checked
  cases checked
  refine ⟨rfl, ?_⟩
  intro other member handle inOther inPolicy
  obtain ⟨_, _, _, accepted, _⟩ := foldEach_accepted handles inPolicy
  obtain ⟨_, _, accepted⟩ := bind_eq_ok.mp accepted
  obtain ⟨_, _, accepted⟩ := bind_eq_ok.mp accepted
  cases shared : earlier.find? fun other => other.handles.contains handle with
  | some =>
    rw [shared] at accepted
    cases accepted
  | none =>
    have absent := List.find?_eq_none.mp shared other member
    simp [inOther] at absent

theorem foldEach_checkPolicy {earlier policies final : List RolePolicy}
    (checked : foldEach checkPolicy earlier policies = .ok final) (apart : earlier.Pairwise Apart) :
    final = earlier ++ policies ∧ final.Pairwise Apart := by
  induction policies generalizing earlier with
  | nil =>
    cases checked
    exact ⟨(List.append_nil _).symm, apart⟩
  | cons policy _ ih =>
    obtain ⟨_, stepped, remaining⟩ := bind_eq_ok.mp checked
    obtain ⟨rfl, others⟩ := checkPolicy_apart stepped
    have extended : (earlier ++ [policy]).Pairwise Apart := by
      refine List.pairwise_append.mpr ⟨apart, List.pairwise_singleton _ _, ?_⟩
      intro other member _ lastMember
      rcases List.mem_singleton.mp lastMember with rfl
      exact others other member
    obtain ⟨equal, whole⟩ := ih remaining extended
    exact ⟨by simpa using equal, whole⟩

/-- The pools of different roles are disjoint. -/
theorem Manager.pool_role {manager : Manager} {role other : Role} (first : manager.Pool role handle)
    (second : manager.Pool other handle) : role = other := by
  obtain ⟨_, _, checked⟩ := bind_eq_ok.mp manager.accepted
  obtain ⟨_, folded, _⟩ := bind_eq_ok.mp checked
  obtain ⟨rfl, apart⟩ := foldEach_checkPolicy folded List.Pairwise.nil
  have everywhere := List.Pairwise.forall_of_forall (fun _ _ _ _ _ => rfl) apart
  obtain ⟨_, found, inPolicy⟩ := first
  obtain ⟨_, otherFound, inOther⟩ := second
  have roles := everywhere (List.mem_of_find?_eq_some found)
    (List.mem_of_find?_eq_some otherFound) handle inPolicy inOther
  have named := List.find?_some found
  have otherNamed := List.find?_some otherFound
  simp only [beq_iff_eq] at named otherNamed
  rw [← named, ← otherNamed, roles]

end Pools

/-- A handle in the pool of a role that the role does not record. -/
structure Fresh (manager : Manager) (snapshot : Snapshot) (role : Role) (handle : Handle) :
    Prop where
  pool : manager.Pool role handle
  active : ∀ state, snapshot.roles.lookup role = some state → handle ≠ state.active.handle
  retiring : ∀ state, snapshot.roles.lookup role = some state →
    ∀ old ∈ state.retiring, handle ≠ old.handle

/-- The recorded handles are in the pools of their roles, and a role records a
handle once. -/
structure Separated (manager : Manager) (snapshot : Snapshot) : Prop where
  active : ∀ role state, snapshot.roles.lookup role = some state →
    manager.Pool role state.active.handle
  retiring : ∀ role state, snapshot.roles.lookup role = some state →
    ∀ old ∈ state.retiring, manager.Pool role old.handle ∧ old.handle ≠ state.active.handle
  pending : ∀ role metadata, snapshot.pending.lookup role = some metadata →
    Fresh manager snapshot role metadata.handle

variable {metadata : KeyMetadata} {role : Role} {state : RoleState}

section Validation

variable {manager : Manager}

def SeenHandles.handles (seen : SeenHandles) : List Handle :=
  seen.map Prod.fst

theorem handle_of_validateMetadata (valid : validateMetadataForPolicy role policy metadata = .ok ())
    : metadata.handle ∈ policy.handles := by
  obtain ⟨_, _, valid⟩ := bind_eq_ok.mp valid
  obtain ⟨_, _, valid⟩ := bind_eq_ok.mp valid
  obtain ⟨_, contained, _⟩ := bind_eq_ok.mp valid
  simpa using contained

end Validation

section Updates

variable {manager : Manager} {snapshot next : Snapshot}

theorem Separated.not_activeAt_retiring (separated : Separated manager snapshot)
    (found : snapshot.roles.lookup role = some state) {old : KeyMetadata}
    (member : old ∈ state.retiring) : ¬ snapshot.ActiveAt old.handle := by
  rintro ⟨other, otherState, otherFound, equal⟩
  obtain ⟨inPool, different⟩ := separated.retiring role state found old member
  have otherPool := separated.active other otherState otherFound
  rw [equal] at otherPool
  obtain rfl := Manager.pool_role inPool otherPool
  cases Option.some.inj (found.symm.trans otherFound)
  exact different equal.symm

theorem Fresh.of_roles_eq (fresh : Fresh manager snapshot role handle)
    (roles : next.roles = snapshot.roles) : Fresh manager next role handle := by
  refine ⟨fresh.pool, ?_, ?_⟩
  · rw [roles]
    exact fresh.active
  · rw [roles]
    exact fresh.retiring

theorem Separated.withPendings (separated : Separated manager snapshot)
    (roles : next.roles = snapshot.roles)
    (pending : ∀ role metadata, next.pending.lookup role = some metadata →
      Fresh manager snapshot role metadata.handle) : Separated manager next := by
  refine ⟨?_, ?_, ?_⟩
  · rw [roles]
    exact separated.active
  · rw [roles]
    exact separated.retiring
  · intro role metadata found
    exact (pending role metadata found).of_roles_eq roles

theorem Separated.withPending (separated : Separated manager snapshot)
    (fresh : Fresh manager snapshot metadata.role metadata.handle) :
    Separated manager (withPending snapshot metadata) := by
  refine separated.withPendings rfl ?_
  intro role pending found
  rcases lookup_insert_cases found with ⟨rfl, rfl⟩ | ⟨_, older⟩
  · exact fresh
  · exact separated.pending role pending older

theorem Separated.withoutPending (separated : Separated manager snapshot) (role : Role) :
    Separated manager (withoutPending snapshot role) := by
  refine separated.withPendings rfl ?_
  intro other pending found
  exact separated.pending other pending (lookup_of_erase found).2

theorem activate_roles (snapshot : Snapshot) (role : Role) (metadata : KeyMetadata) {other : Role}
    (found : (activate snapshot role metadata).roles.lookup other = some state) :
    (other = role ∧ state.active = metadata ∧ ∀ old ∈ state.retiring, ∃ previous,
        snapshot.roles.lookup role = some previous ∧
          (old ∈ previous.retiring ∨ old = previous.active)) ∨
      (other ≠ role ∧ snapshot.roles.lookup other = some state) := by
  rcases lookup_insert_cases found with ⟨same, rfl⟩ | ⟨different, older⟩
  · refine .inl ⟨same, rfl, ?_⟩
    intro _ member
    dsimp only at member
    split at member
    · cases member
    · next previous recorded =>
        rcases List.mem_append.mp member with earlier | last
        · exact ⟨previous, recorded, .inl earlier⟩
        · exact ⟨previous, recorded, .inr (List.mem_singleton.mp last)⟩
  · exact .inr ⟨different, older⟩

theorem Separated.activate (separated : Separated manager snapshot)
    (fresh : Fresh manager snapshot role metadata.handle) :
    Separated manager (activate snapshot role metadata) := by
  refine ⟨?_, ?_, ?_⟩
  · intro other state found
    rcases activate_roles snapshot role metadata found with ⟨rfl, active, _⟩ | ⟨_, older⟩
    · rw [active]
      exact fresh.pool
    · exact separated.active other state older
  · intro other state found old member
    rcases activate_roles snapshot role metadata found with ⟨rfl, active, before⟩ | ⟨_, older⟩
    · rw [active]
      obtain ⟨previous, recorded, retired | rfl⟩ := before old member
      · exact ⟨(separated.retiring other previous recorded old retired).1,
          (fresh.retiring previous recorded old retired).symm⟩
      · exact ⟨separated.active other previous recorded, (fresh.active previous recorded).symm⟩
    · exact separated.retiring other state older old member
  · intro other pending found
    obtain ⟨different, older⟩ := lookup_of_erase found
    have earlier := separated.pending other pending older
    have sameState : (KeyManager.activate snapshot role metadata).roles.lookup other =
        snapshot.roles.lookup other := AList.lookup_insert_ne different
    refine ⟨earlier.pool, ?_, ?_⟩
    · rw [sameState]
      exact earlier.active
    · rw [sameState]
      exact earlier.retiring

theorem ActiveHeld.activate {env : Platform} {objects : Handle → Option Public}
    (held : ActiveHeld env objects snapshot) (role : Role)
    (created : Held env objects metadata) :
    ActiveHeld env objects (activate snapshot role metadata) := by
  intro other state found
  rcases activate_roles snapshot role metadata found with ⟨_, active, _⟩ | ⟨_, older⟩
  · rw [active]
    exact created
  · exact held other state older

/-- The snapshot is another one with fewer keys to be retired. -/
structure Trims (snapshot next : Snapshot) : Prop where
  roles : ∀ role state, next.roles.lookup role = some state → ∃ previous,
    snapshot.roles.lookup role = some previous ∧ state.active = previous.active ∧
      state.retiring ⊆ previous.retiring
  pending : next.pending = snapshot.pending

theorem Trims.refl (snapshot : Snapshot) : Trims snapshot snapshot where
  roles _ state found := ⟨state, found, rfl, List.Subset.refl _⟩
  pending := rfl

theorem Trims.withoutRetiring (trims : Trims snapshot next)
    (found : next.roles.lookup role = some state) :
    Trims snapshot (withoutRetiring next role state) where
  roles := by
    intro other otherState present
    rcases lookup_insert_cases present with ⟨rfl, rfl⟩ | ⟨_, older⟩
    · obtain ⟨previous, recorded, active, _⟩ := trims.roles other state found
      exact ⟨previous, recorded, active, List.nil_subset _⟩
    · exact trims.roles other otherState older
  pending := trims.pending

theorem Trims.separated (trims : Trims snapshot next)
    (separated : Separated manager snapshot) : Separated manager next := by
  refine ⟨?_, ?_, ?_⟩
  · intro role state found
    obtain ⟨previous, recorded, active, _⟩ := trims.roles role state found
    rw [active]
    exact separated.active role previous recorded
  · intro role state found old member
    obtain ⟨previous, recorded, active, fewer⟩ := trims.roles role state found
    rw [active]
    exact separated.retiring role previous recorded old (fewer member)
  · intro role metadata found
    rw [trims.pending] at found
    have fresh := separated.pending role metadata found
    refine ⟨fresh.pool, ?_, ?_⟩
    · intro state present
      obtain ⟨previous, recorded, active, _⟩ := trims.roles role state present
      rw [active]
      exact fresh.active previous recorded
    · intro state present old member
      obtain ⟨previous, recorded, _, fewer⟩ := trims.roles role state present
      exact fresh.retiring previous recorded old (fewer member)

theorem Trims.activeHeld {env : Platform} {objects : Handle → Option Public}
    (trims : Trims snapshot next) (held : ActiveHeld env objects snapshot) :
    ActiveHeld env objects next := by
  intro role state found
  obtain ⟨previous, recorded, active, _⟩ := trims.roles role state found
  rw [active]
  exact held role previous recorded

end Updates

end Sovereignite.KeyManager
