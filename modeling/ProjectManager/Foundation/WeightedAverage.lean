import Mathlib.Algebra.Order.Field.Basic
import Mathlib.Tactic.Linarith
import Mathlib.Tactic.Ring

/-! # Stock at a weighted average cost

A stock is a quantity and the cost of its unit. What comes in is averaged in by
quantity, what goes out leaves the unit cost alone. Every stock is worth what
came in less what went out, and its unit cost stays between the costs that came in.
-/

namespace Foundation

@[ext]
structure Stock (K : Type*) where
  quantity : K
  unitCost : K

namespace Stock

variable {K : Type*} [Field K]

def value (stock : Stock K) : K := stock.quantity * stock.unitCost

def empty : Stock K := ⟨0, 0⟩

/-- Average a quantity in. -/
def receive (stock : Stock K) (quantity cost : K) : Stock K where
  quantity := stock.quantity + quantity
  unitCost := (stock.quantity * stock.unitCost + quantity * cost) / (stock.quantity + quantity)

/-- Take a quantity out, or put it back, at the present unit cost. -/
def adjust (stock : Stock K) (quantity : K) : Stock K where
  quantity := stock.quantity + quantity
  unitCost := stock.unitCost

theorem value_receive {stock : Stock K} {quantity : K} (h : stock.quantity + quantity ≠ 0)
    (cost : K) : (stock.receive quantity cost).value = stock.value + quantity * cost := by
  unfold value receive
  exact mul_div_cancel₀ _ h

theorem value_adjust (stock : Stock K) (quantity : K) :
    (stock.adjust quantity).value = stock.value + quantity * stock.unitCost := by
  unfold value adjust
  ring

theorem receive_of_empty {stock : Stock K} (hempty : stock.quantity = 0) {quantity : K}
    (h : quantity ≠ 0) (cost : K) : (stock.receive quantity cost).unitCost = cost := by
  unfold receive
  rw [hempty, zero_mul, zero_add, zero_add, mul_div_cancel_left₀ cost h]

variable [LinearOrder K]

/-- A signed movement: what comes in has a cost of its own. -/
def move (stock : Stock K) (quantity cost : K) : Stock K :=
  if 0 < quantity then stock.receive quantity cost else stock.adjust quantity

theorem move_of_pos {stock : Stock K} {quantity : K} (h : 0 < quantity) (cost : K) :
    stock.move quantity cost = stock.receive quantity cost :=
  if_pos h

theorem move_of_nonpos {stock : Stock K} {quantity : K} (h : quantity ≤ 0) (cost : K) :
    stock.move quantity cost = stock.adjust quantity :=
  if_neg (not_lt.mpr h)

theorem move_quantity (stock : Stock K) (quantity cost : K) :
    (stock.move quantity cost).quantity = stock.quantity + quantity := by
  unfold move
  split <;> rfl

theorem move_zero (stock : Stock K) (cost : K) : stock.move 0 cost = stock := by
  rw [move_of_nonpos le_rfl, adjust, add_zero]

variable [IsStrictOrderedRing K]

/-- Moving a quantity from one stock to another at the cost of the first keeps their worth. -/
theorem transfer_value {source destination : Stock K} (hdestination : 0 ≤ destination.quantity)
    {quantity : K} (hquantity : 0 < quantity) :
    (source.move (-quantity) source.unitCost).value +
        (destination.move quantity source.unitCost).value =
      source.value + destination.value := by
  rw [move_of_nonpos (neg_nonpos.mpr hquantity.le), move_of_pos hquantity, value_adjust,
    value_receive (by linarith)]
  ring

/-- A weighted average lies between the two costs. -/
theorem receive_between {stock : Stock K} (hstock : 0 ≤ stock.quantity) {quantity : K}
    (hquantity : 0 < quantity) {cost low high : K} (hlow : low ≤ stock.unitCost ∧ low ≤ cost)
    (hhigh : stock.unitCost ≤ high ∧ cost ≤ high) :
    low ≤ (stock.receive quantity cost).unitCost ∧
      (stock.receive quantity cost).unitCost ≤ high := by
  have hpos : 0 < stock.quantity + quantity := by linarith
  unfold receive
  constructor
  · rw [le_div_iff₀ hpos, mul_add, mul_comm low, mul_comm low]
    exact add_le_add (mul_le_mul_of_nonneg_left hlow.1 hstock)
      (mul_le_mul_of_nonneg_left hlow.2 hquantity.le)
  · rw [div_le_iff₀ hpos, mul_add, mul_comm high, mul_comm high]
    exact add_le_add (mul_le_mul_of_nonneg_left hhigh.1 hstock)
      (mul_le_mul_of_nonneg_left hhigh.2 hquantity.le)

/-- The unit cost lies between the least and the greatest of the costs; without costs there is
nothing in stock. -/
structure Within (costs : List K) (stock : Stock K) : Prop where
  nonneg : 0 ≤ stock.quantity
  none : costs = [] → stock.quantity = 0
  between : costs ≠ [] →
    ∃ low ∈ costs, ∃ high ∈ costs, low ≤ stock.unitCost ∧ stock.unitCost ≤ high

omit [IsStrictOrderedRing K] in
theorem within_empty : Within [] (empty : Stock K) :=
  ⟨le_rfl, fun _ => rfl, fun h => absurd rfl h⟩

/-- A cost that comes in is one more to lie between. -/
theorem Within.receive {costs : List K} {stock : Stock K} (h : Within costs stock) {quantity : K}
    (hquantity : 0 < quantity) (cost : K) : Within (cost :: costs) (stock.receive quantity cost) := by
  refine ⟨(add_pos_of_nonneg_of_pos h.nonneg hquantity).le, fun hnil => (nomatch hnil), ?_⟩
  intro _
  by_cases hcosts : costs = []
  · -- Nothing was in stock: the unit cost is the one that comes in.
    have hunit := receive_of_empty (h.none hcosts) hquantity.ne' cost
    exact ⟨cost, List.mem_cons_self, cost, List.mem_cons_self, hunit.ge, hunit.le⟩
  · obtain ⟨low, hlow, high, hhigh, hge, hle⟩ := h.between hcosts
    have hmin : min low cost ∈ cost :: costs := by
      rcases min_choice low cost with hchoice | hchoice <;> rw [hchoice]
      · exact List.mem_cons_of_mem cost hlow
      · exact List.mem_cons_self
    have hmax : max high cost ∈ cost :: costs := by
      rcases max_choice high cost with hchoice | hchoice <;> rw [hchoice]
      · exact List.mem_cons_of_mem cost hhigh
      · exact List.mem_cons_self
    exact ⟨_, hmin, _, hmax, receive_between h.nonneg hquantity
      ⟨(min_le_left _ _).trans hge, min_le_right _ _⟩ ⟨hle.trans (le_max_left _ _), le_max_right _ _⟩⟩

omit [IsStrictOrderedRing K] in
theorem Within.adjust {costs : List K} {stock : Stock K} (h : Within costs stock) {quantity : K}
    (hquantity : quantity ≤ 0) (hrest : 0 ≤ stock.quantity + quantity) :
    Within costs (stock.adjust quantity) := by
  refine ⟨hrest, ?_, h.between⟩
  intro hcosts
  rw [h.none hcosts, zero_add] at hrest
  change stock.quantity + quantity = 0
  rw [h.none hcosts, zero_add]
  exact le_antisymm hquantity hrest

theorem Within.move {costs : List K} {stock : Stock K} (h : Within costs stock) {quantity : K}
    (hrest : 0 ≤ stock.quantity + quantity) (cost : K) :
    Within (if 0 < quantity then cost :: costs else costs) (stock.move quantity cost) := by
  by_cases hquantity : 0 < quantity
  · rw [if_pos hquantity, move_of_pos hquantity]
    exact h.receive hquantity cost
  · rw [if_neg hquantity, move_of_nonpos (not_lt.mp hquantity)]
    exact h.adjust (not_lt.mp hquantity) hrest

end Stock

end Foundation
