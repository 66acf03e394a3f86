import Mathlib.Data.List.Infix

/-!
# A stored value that a power loss may take back

A write that was not made durable is visible, but a power loss may restore the
value before it, or one further back, until a later write is durable.
-/

/-- The visible value and the older values that a power loss may restore. -/
structure RecoverableCell (Value : Type) where
  visible : Value
  fallbacks : List Value := []

namespace RecoverableCell

variable {Value : Type}

/-- The values that the cell may hold after a power loss. -/
def restorable (cell : RecoverableCell Value) : List Value :=
  cell.visible :: cell.fallbacks

def write (cell : RecoverableCell Value) (next : Value) (durable : Bool) :
    RecoverableCell Value :=
  if durable then ⟨next, []⟩ else ⟨next, cell.restorable⟩

theorem restorable_ne_nil (cell : RecoverableCell Value) : cell.restorable ≠ [] :=
  List.cons_ne_nil _ _

/-- The value below which no power loss goes. -/
def settled (cell : RecoverableCell Value) : Value :=
  cell.restorable.getLast cell.restorable_ne_nil

/-- A power loss takes back some of the newest writes. -/
def PowerLoss (before after : RecoverableCell Value) : Prop :=
  after.restorable <:+ before.restorable

instance [DecidableEq Value] (before after : RecoverableCell Value) :
    Decidable (before.PowerLoss after) :=
  inferInstanceAs (Decidable (after.restorable <:+ before.restorable))

/-- A property of every value the cell may come to hold. -/
def Always (property : Value → Prop) (cell : RecoverableCell Value) : Prop :=
  ∀ value ∈ cell.restorable, property value

variable {cell after : RecoverableCell Value} {property : Value → Prop} {next : Value}

@[simp]
theorem visible_write (durable : Bool) : (cell.write next durable).visible = next := by
  cases durable <;> rfl

theorem settled_write (durable : Bool) :
    (cell.write next durable).settled = if durable then next else cell.settled := by
  cases durable with
  | true => rfl
  | false => exact List.getLast_cons cell.restorable_ne_nil

theorem settled_powerLoss (lost : cell.PowerLoss after) : after.settled = cell.settled :=
  List.IsSuffix.getLast lost after.restorable_ne_nil

/-- Everything that is not settled may be taken back. -/
theorem powerLoss_settled (cell : RecoverableCell Value) : cell.PowerLoss ⟨cell.settled, []⟩ :=
  ⟨cell.restorable.dropLast, List.dropLast_concat_getLast cell.restorable_ne_nil⟩

theorem settled_eq_visible (settled : cell.fallbacks = []) : cell.settled = cell.visible := by
  simp [RecoverableCell.settled, restorable, settled]

theorem Always.visible (always : cell.Always property) : property cell.visible :=
  always cell.visible List.mem_cons_self

theorem Always.write (always : cell.Always property) (holds : property next)
    (durable : Bool) : (cell.write next durable).Always property := by
  intro value member
  cases durable with
  | true =>
    rcases List.mem_singleton.mp member with rfl
    exact holds
  | false =>
    rcases List.mem_cons.mp member with rfl | older
    · exact holds
    · exact always value older

theorem Always.powerLoss (always : cell.Always property) (lost : cell.PowerLoss after) :
    after.Always property :=
  fun value member => always value (lost.subset member)

theorem always_of_settled (settled : cell.fallbacks = []) (holds : property cell.visible) :
    cell.Always property := by
  intro _ member
  rw [restorable, settled] at member
  rcases List.mem_singleton.mp member with rfl
  exact holds

end RecoverableCell
