/-
  BorderEmpires.Deltas.StringifyCache
  **SPARSE DELTAS FROM A LAST-EMITTED BASELINE.**

  For each tile the cache holds the JSON of its substructures, by reference,
  and the baseline: the values and references of its last emission.  A delta
  is built in three ways.  Without a baseline it is the full delta, with a
  few fields added even when empty; with one it is what differs from it; and
  where nothing differs it is the full delta as it is, which leaves empty
  fields out.
-/
import BorderEmpires.Deltas.Tiles
import BorderEmpires.Lib.InsertionMap

namespace BorderEmpires.Deltas

/-! ## §1. The cache. -/

inductive Substructure where
  | town
  | overlay (o : Overlay)
  deriving DecidableEq

def DomainTileState.ref (tile : DomainTileState) : Substructure → Option ObjectRef
  | .town => tile.town
  | .overlay o => tile.overlay o

/-- The baseline of a tile: what was current when it was last emitted. -/
structure TileLastEmittedRefs where
  scalar : ScalarField → Option JsonValue
  ref : Substructure → Option ObjectRef

structure Entry where
  json : Substructure → Option JsonObject
  ref : Substructure → Option ObjectRef
  lastEmitted : Option TileLastEmittedRefs

def Entry.blank : Entry := ⟨fun _ => none, fun _ => none, none⟩

abbrev AllSubstructureJson := Substructure → Option JsonObject

/-- A delta on the wire; the yield is volatile and comes along when present. -/
structure SimulationTileWireDelta where
  fields : Patch WireField WireValue
  yieldRate : Option JsonValue

section Cache

variable {K : Type} [DecidableEq K] (heap : Heap)

abbrev TileDeltaStringifyCache (K : Type) [DecidableEq K] := InsertionMap K Entry

namespace TileDeltaStringifyCache

variable (cache : TileDeltaStringifyCache K)

def entryAt (key : K) : Entry := (cache.get key).getD .blank

/-- Recompute the JSON of the substructures whose reference has changed. -/
def refreshed (entry : Entry) (tile : DomainTileState) : Entry :=
  { entry with
    json := fun s => if tile.ref s ≠ entry.ref s then (tile.ref s).map heap else entry.json s
    ref := tile.ref }

def getOrComputeAll (key : K) (tile : DomainTileState) :
    AllSubstructureJson × TileDeltaStringifyCache K :=
  let entry := refreshed heap (cache.entryAt key) tile
  (entry.json, cache.set key entry)

def setLastEmitted (key : K) (v : TileView) : TileDeltaStringifyCache K :=
  cache.set key { cache.entryAt key with lastEmitted := some ⟨v.scalar, v.tile.ref⟩ }

def clearLastEmitted (key : K) : TileDeltaStringifyCache K :=
  match cache.get key with
  | none => cache
  | some entry => cache.set key { entry with lastEmitted := none }

def invalidate (key : K) : TileDeltaStringifyCache K :=
  match cache.get key with
  | none => cache
  | some entry => cache.set key { Entry.blank with lastEmitted := entry.lastEmitted }

def invalidateMany (keys : List K) : TileDeltaStringifyCache K :=
  keys.foldl (fun cache key => cache.erase key) cache

def getLastEmitted (key : K) : Option TileLastEmittedRefs := (cache.get key).bind (·.lastEmitted)

end TileDeltaStringifyCache

end Cache

/-! ## §2. Deltas. -/

def townWireFields (heap : Heap) (v : TileView) (t : TownScalar) : Option JsonValue :=
  (v.townMember heap t).filter JsonValue.truthy

def fullDelta (heap : Heap) (v : TileView) (cached : AllSubstructureJson) :
    Patch WireField WireValue
  | .scalar s => (v.scalar s).map (fun value => some (.plain value))
  | .prospectSignature =>
      v.tile.prospectSignature.map (fun p => some (.plain (.text p.wireText)))
  | .townJson => v.tile.town.map (fun town => some (.json (heap town)))
  | .town t => (townWireFields heap v t).map (fun value => some (.plain value))
  | .overlayJson o => some ((cached (.overlay o)).map WireValue.json)

/-- Carried by every delta but the plain full one, empty or not. -/
def ALWAYS_SENT : List ScalarField :=
  [.ownerId, .ownershipState, .dockId, .frontierDecayAt, .frontierDecayKind, .reachOwnerId]

def seededFullDelta (heap : Heap) (v : TileView) (cached : AllSubstructureJson) :
    Patch WireField WireValue
  | .scalar s =>
      if s ∈ ALWAYS_SENT ∨ s = .resource then some ((v.scalar s).map WireValue.plain)
      else fullDelta heap v cached (.scalar s)
  | f => fullDelta heap v cached f

def TileLastEmittedRefs.townMember (heap : Heap) (last : TileLastEmittedRefs) (t : TownScalar) :
    Option JsonValue :=
  (last.ref .town).bind (fun town => heap town t.key)

/-- The fields that differ from the baseline, and those that are always sent. -/
def sparseFields (heap : Heap) (v : TileView) (cached : AllSubstructureJson)
    (last : TileLastEmittedRefs) : Patch WireField WireValue
  | .scalar s =>
      if s ∈ ALWAYS_SENT ∨ v.scalar s ≠ last.scalar s then
        some ((v.scalar s).map WireValue.plain)
      else none
  | .prospectSignature => none
  | .townJson =>
      if v.tile.town ≠ last.ref .town then some ((fullDelta heap v cached .townJson).join)
      else none
  | .town t =>
      if v.townMember heap t ≠ last.townMember heap t then
        some (((v.townMember heap t).filter JsonValue.truthy).map WireValue.plain)
      else none
  | .overlayJson o =>
      if v.tile.overlay o ≠ last.ref (.overlay o) then
        some ((fullDelta heap v cached (.overlayJson o)).join)
      else none

def hasFieldChanges (heap : Heap) (v : TileView) (last : TileLastEmittedRefs) : Bool :=
  SCALAR_FIELDS.any (fun s => v.scalar s ≠ last.scalar s)
    || v.tile.town ≠ last.ref .town
    || TILE_OVERLAY_KEYS.any (fun o => v.tile.overlay o ≠ last.ref (.overlay o))
    || TOWN_SCALARS.any (fun t => v.townMember heap t ≠ last.townMember heap t)

def buildSparseDelta (heap : Heap) (v : TileView) (cached : AllSubstructureJson)
    (last : Option TileLastEmittedRefs) (yieldRate : Option JsonValue) :
    SimulationTileWireDelta :=
  match last with
  | none => ⟨seededFullDelta heap v cached, yieldRate⟩
  | some last =>
      if hasFieldChanges heap v last || yieldRate.isSome then
        ⟨sparseFields heap v cached last, yieldRate⟩
      else ⟨fullDelta heap v cached, yieldRate⟩

/-- Build the delta of a tile and record the tile as the new baseline. -/
def sparseEmit {K : Type} [DecidableEq K] (heap : Heap) (cache : TileDeltaStringifyCache K)
    (key : K) (v : TileView) (yieldRate : Option JsonValue) :
    SimulationTileWireDelta × TileDeltaStringifyCache K :=
  let computed := TileDeltaStringifyCache.getOrComputeAll heap cache key v.tile
  (buildSparseDelta heap v computed.1
      (TileDeltaStringifyCache.getLastEmitted computed.2 key) yieldRate,
    TileDeltaStringifyCache.setLastEmitted computed.2 key v)

/-! ## §3. Cached JSON is never stale. -/

def Entry.Fresh (heap : Heap) (entry : Entry) : Prop := ∀ s, entry.json s = (entry.ref s).map heap

theorem Entry.fresh_blank (heap : Heap) : Entry.blank.Fresh heap := fun _ => rfl

theorem refreshed_json {heap : Heap} {entry : Entry} (h : entry.Fresh heap)
    (tile : DomainTileState) (s : Substructure) :
    (TileDeltaStringifyCache.refreshed heap entry tile).json s = (tile.ref s).map heap := by
  show (if tile.ref s ≠ entry.ref s then (tile.ref s).map heap else entry.json s) = _
  by_cases hsame : tile.ref s = entry.ref s
  · rw [if_neg (fun hne => hne hsame), h s, hsame]
  · rw [if_pos hsame]

theorem refreshed_fresh {heap : Heap} {entry : Entry} (h : entry.Fresh heap)
    (tile : DomainTileState) :
    (TileDeltaStringifyCache.refreshed heap entry tile).Fresh heap :=
  fun s => refreshed_json h tile s

/-! ## §4. What a delta carries. -/

section Carried

variable {heap : Heap} {v : TileView} {cached : AllSubstructureJson}

/-- The fields that a full delta without a baseline leaves out when empty. -/
def OmittedWhenEmpty : WireField → Bool
  | .scalar s => !(s ∈ ALWAYS_SENT ∨ s = .resource)
  | .prospectSignature => true
  | .townJson => true
  | .town _ => true
  | .overlayJson _ => false

/-- The baseline that an emission leaves. -/
def baselineOf (old : TileView) : TileLastEmittedRefs := ⟨old.scalar, old.tile.ref⟩

end Carried

end BorderEmpires.Deltas
