import Mathlib.Data.List.Nodup
import Sovereignite.ErrorValues

/-!
# Folds that collect keys without repetition

A check that walks through a list often accepts an element only if it is good
by itself and brings keys that no earlier element brought.  Such a walk
succeeds exactly when every element is good and all keys are different, and
it ends in a state that does not depend on the checks.
-/

namespace Effect

variable {ε σ α κ : Type} {step : σ → α → Except ε σ} {advance : σ → α → σ}
variable {used : σ → List κ} {keys : α → List κ} {good : α → Prop}

theorem mem_used_foldl
    (collects : ∀ state element key,
      key ∈ used (advance state element) ↔ key ∈ keys element ∨ key ∈ used state)
    {elements : List α} {start : σ} {key : κ} :
    key ∈ used (elements.foldl advance start) ↔ key ∈ elements.flatMap keys ∨ key ∈ used start := by
  induction elements generalizing start with
  | nil => simp
  | cons _ _ ih =>
    rw [List.foldl_cons, ih, collects, List.flatMap_cons, List.mem_append]
    tauto

theorem foldEach_keyed
    (accepts : ∀ state element next, step state element = .ok next ↔
      good element ∧ (∀ key ∈ keys element, key ∉ used state) ∧ next = advance state element)
    (distinct : ∀ element, good element → (keys element).Nodup)
    (collects : ∀ state element key,
      key ∈ used (advance state element) ↔ key ∈ keys element ∨ key ∈ used state)
    {elements : List α} {start finish : σ} :
    foldEach step start elements = .ok finish ↔
      (∀ element ∈ elements, good element) ∧ (elements.flatMap keys).Nodup ∧
        (∀ key ∈ elements.flatMap keys, key ∉ used start) ∧
        finish = elements.foldl advance start := by
  induction elements generalizing start with
  | nil => simp [foldEach, eq_comm]
  | cons element _ ih =>
    simp only [foldEach, bind_eq_ok, accepts, ih, List.forall_mem_cons, List.flatMap_cons,
      List.nodup_append, List.foldl_cons]
    constructor
    · rintro ⟨_, ⟨goodHere, newHere, rfl⟩, goodRest, distinctRest, newRest, rfl⟩
      refine ⟨⟨goodHere, goodRest⟩, ⟨distinct element goodHere, distinctRest, ?_⟩, ?_, rfl⟩
      · rintro key here _ later rfl
        exact newRest key later ((collects _ _ _).mpr (.inl here))
      · intro key member before
        rcases List.mem_append.mp member with here | later
        · exact newHere key here before
        · exact newRest key later ((collects _ _ _).mpr (.inr before))
    · rintro ⟨⟨goodHere, goodRest⟩, ⟨_, distinctRest, apart⟩, new, rfl⟩
      refine ⟨_, ⟨goodHere, fun key here => new key (List.mem_append_left _ here), rfl⟩,
        goodRest, distinctRest, ?_, rfl⟩
      intro key later before
      rcases (collects _ _ _).mp before with here | earlier
      · exact apart key here key later rfl
      · exact new key (List.mem_append_right _ later) earlier

end Effect
