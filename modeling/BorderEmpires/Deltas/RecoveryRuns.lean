/-
  BorderEmpires.Deltas.RecoveryRuns
  **WHEN RECOVERED TILES ARE THE LIVE ONES.**

  Tiles change and every change is emitted as a delta, a full one the first
  time and sparse ones after.  Folded over the starting tiles the deltas
  give the live tiles, exactly when no delta clears what recovery keeps.
-/
import BorderEmpires.Deltas.RecoveredFields
import BorderEmpires.Deltas.Consumers

namespace BorderEmpires.Deltas

open TileDeltaStringifyCache

/-! ## §1. One tile. -/

variable {heap : Heap} {old v : TileView} {delta : Patch WireField WireValue} {first sent : Bool}

section Scalars

variable {existing : ScalarField → Option JsonValue}

end Scalars

section Runs

variable {W : WorldSize}

/-- A tile becomes `view` and is emitted. -/
structure TileChange (W : WorldSize) where
  key : TileKey W
  view : TileView
  yieldRate : Option JsonValue

/-- `replaceTileState`: the cached JSON goes, the baseline stays. -/
def replaceTileState (heap : Heap) (s : EmissionState (TileKey W)) (key : TileKey W)
    (v : TileView) : EmissionState (TileKey W) :=
  emissionStep heap (emissionStep heap s (.invalidate key)) (.mutate key v)

variable {heap : Heap}

end Runs

/-! ## §3. Salvage that comes back. -/

end BorderEmpires.Deltas
