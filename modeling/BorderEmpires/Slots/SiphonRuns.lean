/-
  BorderEmpires.Slots.SiphonRuns
  **SLOTS OVER RUNS OF THE SIPHON LIFECYCLE.**

  The supply is read off the tiles the siphon lifecycle writes.  Whatever
  is cast, cancelled, swept and written, a settled tile goes on counting
  once, for its owner or for the caster that drains it.
-/
import BorderEmpires.Siphon.Runs
import BorderEmpires.Slots.SiphonTransfer

namespace BorderEmpires.ResourceSlots

open Siphon (Lifecycle SiphonOp BringsNoHalf)

variable {W : WorldSize}

/-- The supplies read off tiles the lifecycle wrote are grants and settled
tiles, none lost and none counted twice. -/
def SlotsConserved (s : Lifecycle W) : Prop :=
  ∀ world : SlotWorld W, siphonTiles world.tiles = s.tiles → ∀ players : Finset PlayerId,
    (∀ key playerId, countsFor world.tiles key = some playerId → playerId ∈ players) →
    ∀ r, ∑ playerId ∈ players, resourceSlotSupplyWithSiphonTransfer world playerId r
      = ∑ playerId ∈ players, grantSlots world playerId r
        + ∑ key with (settledOwner world.tiles key).isSome = true, valueAt world r key

/-- **Slots are conserved in every state** of a run whose tile writes bring
no half of a siphon. -/
theorem slots_conserved_along (start : Lifecycle W) (ops : List (SiphonOp W))
    (hstart : Siphon.Sound start) (hmeets : Run.StepsMeet Lifecycle.step BringsNoHalf start ops) :
    Run.Along Lifecycle.step SlotsConserved start ops := by
  have halong := Run.along_of_stepsMeet (I := Siphon.Quiescent [])
    (fun s op hs hbrings => Siphon.quiescent_step op hs hbrings) ops start hstart.quiescent hmeets
  refine halong.mono (fun s hs world htiles players hplayers r => ?_)
  apply sum_supply _ hplayers
  rw [htiles]
  exact hs.linked.inStep

theorem slots_conserved_along_dock :
    Run.Along Lifecycle.step SlotsConserved Siphon.exampleStart [Siphon.castOnDock] :=
  slots_conserved_along _ _ Siphon.exampleStart_sound ⟨trivial, trivial⟩

end BorderEmpires.ResourceSlots
