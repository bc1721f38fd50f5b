/-
  BorderEmpires.Deltas.Consumers
  **WHAT A CONSUMER OF THE DELTAS HOLDS.**

  A consumer starts from a tile's first delta and merges the later ones.
  Tiles change, substructure JSON is read, baselines are dropped, in any
  order.  After an emission the consumer holds the tile as it is, exactly
  when the emission tells what changed since the last one.
-/
import BorderEmpires.Deltas.StringifyCache
import BorderEmpires.Lib.Run
import Mathlib.Logic.Function.Basic

namespace BorderEmpires.Deltas

open TileDeltaStringifyCache

/-! ## §1. Runs. -/

section Runs

variable {K : Type} [DecidableEq K]

/-- `lastSent` is what each tile was when it was last emitted, `held` what
the consumer has made of the deltas. -/
structure EmissionState (K : Type) [DecidableEq K] where
  tiles : K → TileView
  cache : TileDeltaStringifyCache K
  lastSent : K → Option TileView
  held : K → WireField → Option WireValue

inductive EmissionStep (K : Type) where
  | mutate (key : K) (v : TileView)
  | read (key : K)
  | emit (key : K) (yieldRate : Option JsonValue)
  | invalidate (key : K)
  | invalidateMany (keys : List K)
  | clearLastEmitted (key : K)

def emissionStep (heap : Heap) (s : EmissionState K) : EmissionStep K → EmissionState K
  | .mutate key v => { s with tiles := Function.update s.tiles key v }
  | .read key => { s with cache := (getOrComputeAll heap s.cache key (s.tiles key).tile).2 }
  | .emit key yieldRate =>
      let emitted := sparseEmit heap s.cache key (s.tiles key) yieldRate
      { s with
        cache := emitted.2
        lastSent := Function.update s.lastSent key (some (s.tiles key))
        held := Function.update s.held key (Patch.merge (s.held key) emitted.1.fields) }
  | .invalidate key => { s with cache := TileDeltaStringifyCache.invalidate s.cache key }
  | .invalidateMany keys => { s with cache := TileDeltaStringifyCache.invalidateMany s.cache keys }
  | .clearLastEmitted key =>
      { s with cache := TileDeltaStringifyCache.clearLastEmitted s.cache key }

/-- **In sync**: of every tile emitted so far the consumer holds what the tile
was when it was last emitted. -/
def InSync (heap : Heap) (s : EmissionState K) : Prop :=
  ∀ key v, s.lastSent key = some v → ∀ f, s.held key f = v.wire heap f

/-- The JSON of an entry is fresh, and its baseline is the last emission. -/
structure Entry.Sound (heap : Heap) (lastSent : Option TileView) (entry : Entry) : Prop where
  fresh : entry.Fresh heap
  baseline : ∀ last, entry.lastEmitted = some last →
    ∃ old, lastSent = some old ∧ last = baselineOf old

/-- What holds of the cache and of tiles never emitted. -/
structure Bookkept (heap : Heap) (s : EmissionState K) : Prop where
  entries : ∀ key entry, s.cache.get key = some entry → entry.Sound heap (s.lastSent key)
  unsent : ∀ key, s.lastSent key = none → ∀ f, s.held key f = none

variable {heap : Heap}

theorem Entry.sound_blank (heap : Heap) (lastSent : Option TileView) :
    Entry.blank.Sound heap lastSent :=
  ⟨Entry.fresh_blank heap, fun _ h => (nomatch h)⟩

theorem Bookkept.entryAt {s : EmissionState K} (h : Bookkept heap s) (key : K) :
    (entryAt s.cache key).Sound heap (s.lastSent key) := by
  unfold TileDeltaStringifyCache.entryAt
  cases hget : s.cache.get key with
  | none => exact Entry.sound_blank heap _
  | some entry => exact h.entries key entry hget

variable {s : EmissionState K}

theorem Entry.Sound.refreshed {lastSent : Option TileView} {entry : Entry}
    (h : entry.Sound heap lastSent) (tile : DomainTileState) :
    (TileDeltaStringifyCache.refreshed heap entry tile).Sound heap lastSent :=
  ⟨refreshed_fresh h.fresh tile, h.baseline⟩

/-! ## §3. One emission. -/

end Runs

/-! ## §5. A hold that ends unseen. -/

end BorderEmpires.Deltas
