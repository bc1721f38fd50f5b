/-
  BorderEmpires.Indexes.Tiles
  **WHAT THE PER-OWNER BOOKS READ OF A TILE.**

  The owner indexes, the players' summaries and the upkeep caches are all
  derived from the tiles.  This module has the fields they read and the
  tests they share.  A muster is kept by its owner alone, a natural wonder
  by its presence.
-/
import BorderEmpires.Deltas.Tiles
import BorderEmpires.Manpower.Settling
import BorderEmpires.Reach.Anchors

namespace BorderEmpires.Indexes

open Structures (TileStructure StructureType StructureStatus)
open Manpower (TownTier TownTerrainProfileId townIsCoastal)
open Deltas (ResourceType DockId)

/-! ## §1. Tiles. -/

inductive LandBiome where
  | GRASS | SAND | COASTAL_SAND | TUNDRA | PLAINS | JUNGLE | MARSH | SNOW | GRASSLAND
  deriving DecidableEq

structure IndexTown where
  populationTier : Option TownTier
  terrainProfile : Option TownTerrainProfileId
  coastal : Option Bool
  deriving DecidableEq

/-- A tile as the indexes read it. -/
structure IndexTile where
  terrain : Terrain
  landBiome : Option LandBiome
  resource : Option ResourceType
  dockId : Option DockId
  ownerId : Option PlayerId
  ownershipState : Option OwnershipState
  town : Option IndexTown
  fort : Option TileStructure
  observatory : Option TileStructure
  siegeBattery : Option TileStructure
  economicStructure : Option TileStructure
  afc : Option AfcState
  /-- `muster?.ownerId`. -/
  musterOwnerId : Option PlayerId
  hasNaturalWonder : Bool

def IndexTile.isSettled (tile : IndexTile) : Bool := decide (tile.ownershipState = some .SETTLED)

def IndexTile.isFrontier (tile : IndexTile) : Bool :=
  decide (tile.ownershipState = some .FRONTIER)

/-- `structure?.ownerId === ownerId && structure.status === "active"`. -/
def isActiveOwn (held : Option TileStructure) (ownerId : PlayerId) : Bool :=
  held.any fun s => decide (s.ownerId = ownerId) && decide (s.status = .active)

/-! ## §2. Tests of the indexes. -/

def isYieldResource : ResourceType → Bool
  | .FARM | .FISH | .TITANIUM | .UMBRITE | .GEMS => true
  | _ => false

/-- The converters that make a tile bear a yield. -/
def isYieldStructureType : StructureType → Bool
  | .UMBRITE_WORKS | .HIGH_YIELD_UMBRITE_WORKS | .TITANIUM_WORKS | .HIGH_YIELD_TITANIUM_WORKS
  | .AETHER_CONDENSER | .HIGH_YIELD_AETHER_CONDENSER => true
  | _ => false

/-- Owned settled land with something that yields. -/
def isYieldBearingTile (tile : IndexTile) : Bool :=
  tile.ownerId.isSome && tile.isSettled && decide (tile.terrain = .LAND)
    && (tile.town.isSome || tile.dockId.isSome || tile.resource.any isYieldResource
      -- whose structure it is does not matter here
      || tile.economicStructure.any fun s =>
          decide (s.status = .active) && s.type.any isYieldStructureType)

def TOWN_AUTO_FRONTIER_RADIUS : ℕ := 1

/-- A town of the player's past the settlement tier. -/
def isSettledTownAnchor (tile : IndexTile) (playerId : PlayerId) : Bool :=
  decide (tile.ownerId = some playerId) && tile.isSettled && decide (tile.terrain = .LAND)
    && tile.town.any fun town => decide (town.populationTier ≠ some .SETTLEMENT)

def fortSupportAnchorMaxRadius (tile : IndexTile) (ownerId : PlayerId) : ℕ :=
  if isSettledTownAnchor tile ownerId then TOWN_AUTO_FRONTIER_RADIUS else 0

def isSiegeBatteryActive (tile : IndexTile) (ownerId : PlayerId) : Bool :=
  isActiveOwn tile.siegeBattery ownerId

def isObservatoryActive (tile : IndexTile) (ownerId : PlayerId) : Bool :=
  isActiveOwn tile.observatory ownerId

def isEconomicStructureTypeActive (structureType : StructureType) (tile : IndexTile)
    (ownerId : PlayerId) : Bool :=
  tile.economicStructure.any (fun s => decide (s.type = some structureType))
    && isActiveOwn tile.economicStructure ownerId

def isRelayBeaconActive : IndexTile → PlayerId → Bool := isEconomicStructureTypeActive .RELAY_BEACON

def isNeuralWorksActive : IndexTile → PlayerId → Bool := isEconomicStructureTypeActive .NEURAL_WORKS

def isAncillaryDepotActive : IndexTile → PlayerId → Bool :=
  isEconomicStructureTypeActive .ANCILLARY_DEPOT

/-! ## §3. What a tile adds to its owner's summary. -/

def townTerrainProfileForBiome : Option LandBiome → TownTerrainProfileId
  | some .TUNDRA => .TUNDRA
  | some .COASTAL_SAND => .DESERT
  | some .SAND => .DESERT
  | _ => .GRASS

def resolvedTownTerrainProfileId (profile : Option TownTerrainProfileId)
    (biome : Option LandBiome) : TownTerrainProfileId :=
  profile.getD (townTerrainProfileForBiome biome)

def resolvedTownCoastal (profile : Option TownTerrainProfileId) (biome : Option LandBiome)
    (coastal : Bool) : Bool :=
  townIsCoastal profile (coastal || (profile.isNone && decide (biome = some .COASTAL_SAND)))

def PASSIVE_INCOME_MULT : ℚ := 1
def GOLD_RESCALE_DIVISOR : ℚ := 288
def TOWN_BASE_GOLD_PER_MIN : ℚ := 2 / GOLD_RESCALE_DIVISOR
def DOCK_INCOME_PER_MIN : ℚ := (1 / 2) / GOLD_RESCALE_DIVISOR
def SETTLEMENT_BASE_GOLD_PER_MIN : ℚ := 2 / GOLD_RESCALE_DIVISOR

def townPopulationMultiplier : TownTier → ℚ
  | .CITY => 5 / 4
  | .GREAT_CITY => 7 / 4
  | .METROPOLIS => 21 / 10
  | _ => 1

def townGoldPerMinute : Option TownTier → ℚ
  | none | some .SETTLEMENT => SETTLEMENT_BASE_GOLD_PER_MIN * PASSIVE_INCOME_MULT
  | some tier => TOWN_BASE_GOLD_PER_MIN * townPopulationMultiplier tier * PASSIVE_INCOME_MULT

def goldIncomePerMinuteForTile (tile : IndexTile) : ℚ :=
  if tile.isSettled then
    match tile.town with
    | some town => townGoldPerMinute town.populationTier
    | none =>
        if tile.afc.isSome then SETTLEMENT_BASE_GOLD_PER_MIN * PASSIVE_INCOME_MULT
        else if tile.dockId.isSome then DOCK_INCOME_PER_MIN * PASSIVE_INCOME_MULT
        else 0
  else 0

theorem townGoldPerMinute_nonneg (tier : Option TownTier) : 0 ≤ townGoldPerMinute tier := by
  rcases tier with - | (- | - | - | - | -) <;> decide +kernel

theorem goldIncomePerMinuteForTile_nonneg (tile : IndexTile) :
    0 ≤ goldIncomePerMinuteForTile tile := by
  unfold goldIncomePerMinuteForTile
  split
  · split
    · exact townGoldPerMinute_nonneg _
    · split
      · decide +kernel
      · split <;> decide +kernel
  · decide +kernel

/-- One for a structure of the owner's being built or removed. -/
def processCount (held : Option TileStructure) (ownerId : PlayerId) : ℕ :=
  if held.any fun s => decide (s.ownerId = ownerId)
      && (decide (s.status = .under_construction) || decide (s.status = .removing)) then 1
  else 0

def activeStructureProcessCount (tile : IndexTile) (ownerId : PlayerId) : ℕ :=
  processCount tile.fort ownerId + processCount tile.observatory ownerId
    + processCount tile.siegeBattery ownerId + processCount tile.economicStructure ownerId

inductive StrategicResourceKey where
  | FOOD | TITANIUM | CRYSTAL | UMBRITE
  deriving DecidableEq

def strategicResourceForTile : Option ResourceType → Option StrategicResourceKey
  | some .FARM | some .FISH => some .FOOD
  | _ => none

/-- Food is slots now: the rate is zero for every resource. -/
def strategicProductionPerMinuteForResource (_resource : Option ResourceType) : ℚ := 0

/-- `72 / 1440`. -/
def FISH_FOOD_PER_MINUTE : ℚ := 72 / 1440

/-- `tile.afc?.ownerId === tile.ownerId`, of an owned tile. -/
def hasOwnAfc (tile : IndexTile) : Bool :=
  tile.ownerId.any fun ownerId => tile.afc.any fun afc => decide (afc.ownerId = ownerId)

def hasOperationalAfc (tile : IndexTile) : Bool :=
  tile.isSettled && hasOwnAfc tile && tile.afc.any fun afc => decide (afc.status = .active)

end BorderEmpires.Indexes
