/-
  BorderEmpires.Vision.WireFilter
  **WHICH TILE DELTAS OF A BATCH A PLAYER MAY SEE.**

  `tile-delta-visibility-filter.ts`: a delta is let through whole, stripped
  of an unrevealed resource, redacted to its ownership, reduced to an
  ownership clear, or dropped.  It depends on the coverage of the player,
  on its locks, on the docks across from its own, and on whom the delta is
  forced to.
-/
import Mathlib.Algebra.Field.Rat
import Mathlib.Data.Rat.Floor
import Mathlib.Logic.Function.Basic
import BorderEmpires.Lib.HostValue
import BorderEmpires.Vision.Footprints

namespace BorderEmpires.Vision

variable {W : WorldSize}

/-! ## §1. Deltas. -/

/-- A delta: its tile and its other members by name.  A member that is there
may be undefined. -/
structure TileDelta (W : WorldSize) where
  tile : TileKey W
  members : String → Option HostValue

namespace TileDelta

/-- `name in delta`. -/
def has (d : TileDelta W) (name : String) : Bool := (d.members name).isSome

/-- `delta[name]`. -/
def read (d : TileDelta W) (name : String) : HostValue := (d.members name).getD .undefined

/-- `{ ...delta, [name]: value }`. -/
def put (d : TileDelta W) (name : String) (value : HostValue) : TileDelta W :=
  { d with members := Function.update d.members name (some value) }

/-- `{ ...base, ...last }`. -/
def spread (base last : TileDelta W) : TileDelta W where
  tile := last.tile
  members := fun name => (last.members name).or (base.members name)

@[simp] theorem read_put_self (d : TileDelta W) (name : String) (value : HostValue) :
    (d.put name value).read name = value := by
  simp [put, read]

end TileDelta

/-! ## §2. What the filter looks up. -/

/-- What the effects of techs and domains say; `none` for no such effect. -/
structure ProgressionCatalog where
  techVisionRadiusBonus : String → Option ℚ
  domainVisionRadiusBonus : String → Option ℚ
  revealResourceCategoryForTech : String → Option String

/-- The part of a player record the filter reads. -/
structure WirePlayer where
  allies : List PlayerId
  techIds : List String
  domainIds : List String
  /-- `mods?.vision`. -/
  visionMod : Option ℚ

structure TileLock (W : WorldSize) where
  playerId : PlayerId
  originKey : TileKey W
  targetKey : TileKey W

structure VisibilityFilterDeps (W : WorldSize) where
  catalog : ProgressionCatalog
  players : PlayerId → Option WirePlayer
  tiles : TileKey W → Option TileOwnership
  locksByTile : List (TileLock W)
  docks : List (TileKey W)
  dockLinksByDockTileKey : TileKey W → List (TileKey W)
  territoryTileKeys : PlayerId → List (TileKey W)
  /-- `isVisible` of the coverage reader, if one is supplied. -/
  visibilityCoverage : Option (PlayerId → TileKey W → Bool)
  hasFullVision : PlayerId → Bool

def VISION_RADIUS : ℚ := 1

def visionRadiusBonusForPlayer (catalog : ProgressionCatalog) (player : WirePlayer) : ℚ :=
  (player.techIds.filterMap catalog.techVisionRadiusBonus).sum
    + (player.domainIds.filterMap catalog.domainVisionRadiusBonus).sum

/-- The radius of the scan that stands in for a coverage reader. -/
def scanRadius (catalog : ProgressionCatalog) (player : WirePlayer) : ℚ :=
  max 1 (((⌊VISION_RADIUS * player.visionMod.getD 1⌋ : ℤ) : ℚ)
    + visionRadiusBonusForPlayer catalog player)

/-- The shorter way round between two coordinates. -/
def wrappedGap (a b size : Nat) : Nat :=
  let raw := ((a : Int) - b).natAbs
  min raw (size - raw)

def isTileWithinTerritoryRadius (key : TileKey W) (territoryTileKeys : List (TileKey W))
    (radius : ℚ) : Bool :=
  territoryTileKeys.any fun t =>
    decide ((wrappedGap key.x t.x W.width : ℚ) ≤ radius)
      && decide ((wrappedGap key.y t.y W.height : ℚ) ≤ radius)

/-- The squares around the docks across from those of the owners. -/
def collectLinkedDockRevealKeysForOwners (visibilityOwnerIds : List PlayerId)
    (docks : List (TileKey W)) (ownerOf : TileKey W → Option PlayerId)
    (dockLinksByDockTileKey : TileKey W → List (TileKey W)) : List (TileKey W) :=
  let ownedDockTileKeys := docks.filter fun dock =>
    (ownerOf dock).any fun owner => owner ∈ visibilityOwnerIds
  ownedDockTileKeys.flatMap fun dock =>
    (dockLinksByDockTileKey dock).flatMap fun linked => (squareOffsets 1).map linked.shift

def settledOwner (tiles : TileKey W → Option TileOwnership) (key : TileKey W) : Option PlayerId :=
  match tiles key with
  | some tile => if tile.ownershipState = some .SETTLED then tile.ownerId else none
  | none => none

/-! ## §3. Resources. -/

def NETWORK_RESOURCES : List String :=
  ["NEURAL_RESIN", "CONDUCTIVE_MINERALS", "CATALYTIC_DEPOSIT", "LUXURY_BIOTA", "PRECURSOR_SALVAGE"]

/-- `REVEAL_CATEGORY_BY_TILE_RESOURCE`, else the lower-case text itself. -/
def resourceRevealCategory (resource : String) : String :=
  match resource.toLower with
  | "farm" => "food"
  | "fish" => "food"
  | "titanium" => "titanium"
  | "gems" => "crystal"
  | "umbrite" => "umbrite"
  | other => other

def resourceRevealedByTechs (resource : String) (techIds : List String)
    (revealCategoryForTech : String → Option String) : Bool :=
  let category := resourceRevealCategory resource
  decide (category = "food") || decide (resource ∈ NETWORK_RESOURCES)
    || techIds.any fun techId => decide (revealCategoryForTech techId = some category)

def isRevealedResource (catalog : ProgressionCatalog) (viewer : WirePlayer) : HostValue → Bool
  | .text resource =>
      decide (resource ≠ "")
        && resourceRevealedByTechs resource viewer.techIds catalog.revealResourceCategoryForTech
  | _ => false

/-! ## §4. The filter. -/

namespace VisibilityFilterDeps

/-- The coverage of a player: what the reader says, or the scan of its own
territory and its allies'. -/
def covers (deps : VisibilityFilterDeps W) (playerId : PlayerId) (primaryPlayer : WirePlayer)
    (key : TileKey W) : Bool :=
  match deps.visibilityCoverage with
  | some isVisible => isVisible playerId key
  | none =>
      isTileWithinTerritoryRadius key (deps.territoryTileKeys playerId)
          (scanRadius deps.catalog primaryPlayer)
        || primaryPlayer.allies.any fun allyId =>
            (deps.players allyId).any fun ally =>
              isTileWithinTerritoryRadius key (deps.territoryTileKeys allyId)
                (scanRadius deps.catalog ally)

def isLockOrigin (deps : VisibilityFilterDeps W) (playerId : PlayerId) (key : TileKey W) : Bool :=
  deps.locksByTile.any fun lock => decide (lock.playerId = playerId ∧ lock.originKey = key)

def isLockTarget (deps : VisibilityFilterDeps W) (playerId : PlayerId) (key : TileKey W) : Bool :=
  deps.locksByTile.any fun lock => decide (lock.playerId = playerId ∧ lock.targetKey = key)

def isDockReveal (deps : VisibilityFilterDeps W) (playerId : PlayerId)
    (primaryPlayer : WirePlayer) (key : TileKey W) : Bool :=
  decide (key ∈ collectLinkedDockRevealKeysForOwners (playerId :: primaryPlayer.allies) deps.docks
    (settledOwner deps.tiles) deps.dockLinksByDockTileKey)

/-- In sight for another reason than being the target of a lock. -/
def sees (deps : VisibilityFilterDeps W) (playerId : PlayerId) (primaryPlayer : WirePlayer)
    (key : TileKey W) : Bool :=
  deps.covers playerId primaryPlayer key || deps.isLockOrigin playerId key
    || deps.isDockReveal playerId primaryPlayer key

end VisibilityFilterDeps

/-- `forceVisibleForPlayerId` is the player, or a list with the player. -/
def isForced (playerId : PlayerId) (d : TileDelta W) : Bool :=
  match d.read "forceVisibleForPlayerId" with
  | .text id => decide (id = playerId.text)
  | .array length item => decide (∃ i : Fin length, isTheText playerId.text (item i) = true)
  | _ => false
where
  isTheText (text : String) : HostValue → Bool
    | .text s => decide (s = text)
    | _ => false

/-- `"ownerId" in delta && !delta.ownerId`. -/
def ownerIdCleared (d : TileDelta W) : Bool := d.has "ownerId" && !(d.read "ownerId").truthy

def ownedByOther (playerId : PlayerId) (primaryPlayer : WirePlayer) (d : TileDelta W) : Bool :=
  (d.read "ownerId").truthy
    && !((playerId :: primaryPlayer.allies).any fun id =>
      isForced.isTheText id.text (d.read "ownerId"))

def ownershipClear (d : TileDelta W) : TileDelta W where
  tile := d.tile
  members := fun name =>
    if name = "ownerId" then some .undefined
    else if name = "ownershipState" then
      if d.has "ownershipState" then some .undefined else none
    else if name = "ownershipClearOnly" then some (.bool true)
    else none

/-- The delta of a tile that only a lock on it brings into sight. -/
def lockTargetRedaction (d : TileDelta W) : TileDelta W where
  tile := d.tile
  members := fun name =>
    if name = "ownerId" then some (d.read "ownerId")
    else if name = "ownershipState" then
      if d.has "ownershipState" then some (d.read "ownershipState") else none
    else if name = "terrain" then
      if (d.read "terrain").truthy then some (d.read "terrain") else none
    else none

def filterDelta (deps : VisibilityFilterDeps W) (playerId : PlayerId) (primaryPlayer : WirePlayer)
    (includeOwnershipClears : Bool) (d : TileDelta W) : Option (TileDelta W) :=
  if isForced playerId d then some d
  else if deps.sees playerId primaryPlayer d.tile = false
      ∧ deps.isLockTarget playerId d.tile = false then
    if includeOwnershipClears && ownerIdCleared d then some (ownershipClear d) else none
  else if deps.sees playerId primaryPlayer d.tile = false
      ∧ ownedByOther playerId primaryPlayer d then
    some (lockTargetRedaction d)
  else if (d.read "resource").truthy
      && !(isRevealedResource deps.catalog primaryPlayer (d.read "resource")) then
    some (d.put "resource" .undefined)
  else some d

def filterTileDeltasForPlayer (deps : VisibilityFilterDeps W) (tileDeltas : List (TileDelta W))
    (playerId : PlayerId) (includeOwnershipClears : Bool) : List (TileDelta W) :=
  match deps.players playerId with
  | none => []
  | some primaryPlayer =>
      if deps.hasFullVision playerId then tileDeltas
      else tileDeltas.filterMap (filterDelta deps playerId primaryPlayer includeOwnershipClears)

/-! ## §5. What gets through. -/

section
variable {deps : VisibilityFilterDeps W} {playerId : PlayerId} {primaryPlayer : WirePlayer}
  {clears : Bool} {d e : TileDelta W}

/-- **What is let through is about the same tile.** -/
theorem filterDelta_tile (h : filterDelta deps playerId primaryPlayer clears d = some e) :
    e.tile = d.tile := by
  unfold filterDelta at h
  split at h
  · simp only [Option.some.injEq] at h
    rw [h]
  · split at h
    · split at h
      · simp only [Option.some.injEq] at h
        rw [← h]
        rfl
      · cases h
    · split at h
      · simp only [Option.some.injEq] at h
        rw [← h]
        rfl
      · split at h
        · simp only [Option.some.injEq] at h
          rw [← h]
          rfl
        · simp only [Option.some.injEq] at h
          rw [h]

/-- **Out of sight only an ownership clear gets through.** -/
theorem filterDelta_of_outOfSight (hforced : isForced playerId d = false)
    (hsees : deps.sees playerId primaryPlayer d.tile = false)
    (htarget : deps.isLockTarget playerId d.tile = false) :
    filterDelta deps playerId primaryPlayer true d
      = if ownerIdCleared d then some (ownershipClear d) else none := by
  unfold filterDelta
  rw [if_neg (by simp [hforced]), if_pos ⟨hsees, htarget⟩, Bool.true_and]

end

theorem filterTileDeltas_tiles_sublist (deps : VisibilityFilterDeps W)
    (tileDeltas : List (TileDelta W)) (playerId : PlayerId) (clears : Bool) :
    ((filterTileDeltasForPlayer deps tileDeltas playerId clears).map TileDelta.tile).Sublist
      (tileDeltas.map TileDelta.tile) := by
  unfold filterTileDeltasForPlayer
  cases deps.players playerId with
  | none => exact List.nil_sublist _
  | some primaryPlayer =>
      dsimp only
      split
      · exact List.Sublist.refl _
      induction tileDeltas with
      | nil => exact List.Sublist.refl _
      | cons d tileDeltas ih =>
          rw [List.filterMap_cons]
          cases hd : filterDelta deps playerId primaryPlayer clears d with
          | none => exact ih.cons d.tile
          | some e =>
              dsimp only
              rw [List.map_cons, List.map_cons, filterDelta_tile hd]
              exact ih.cons_cons d.tile

end BorderEmpires.Vision
