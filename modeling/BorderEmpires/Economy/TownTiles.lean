/-
  BorderEmpires.Economy.TownTiles
  **TOWN TILES AND SUPPORT RINGS.**

  What the town rules read of a tile, and the ring of tiles around a town
  whose structures count as its own.
-/
import BorderEmpires.World

namespace BorderEmpires.Economy

variable {W : WorldSize}

/-! ## §1. Tiles. -/

inductive PopulationTier where
  | SETTLEMENT
  | TOWN
  | CITY
  | GREAT_CITY
  | METROPOLIS
  deriving DecidableEq, Repr

structure TownState where
  name : Option String
  populationTier : PopulationTier
  deriving DecidableEq

/-- The structure types the town network asks for; the others are told
apart by their text. -/
inductive EconomicStructureType where
  | CLEARING_HOUSE
  | ANCILLARY_DEPOT
  | NEURAL_WORKS
  | INCUBATION_ENGINE
  | RESERVE_LATTICE
  | ANCILLARY_FACTORY
  | TRADE_NEXUS
  | TITANIUM_WEAPONS_FACTORY
  | UMBRITE_WEAPONS_FACTORY
  | other (type : String)
  deriving DecidableEq, Repr

inductive StructureStatus where
  | under_construction
  | active
  | inactive
  | removing
  deriving DecidableEq, Repr

structure EconomicStructure where
  ownerId : PlayerId
  type : EconomicStructureType
  status : StructureStatus
  deriving DecidableEq

structure TownTile extends TileOwnership where
  terrain : Terrain
  town : Option TownState
  economicStructure : Option EconomicStructure
  deriving DecidableEq

/-! ## §2. Support rings. -/

def supportRingRadiusForTier (populationTier : Option PopulationTier) : Nat :=
  if populationTier = some .GREAT_CITY ∨ populationTier = some .METROPOLIS then 2 else 1

structure SupportRingCandidate (W : WorldSize) where
  key : TileKey W
  tile : TownTile
  dx : Int
  dy : Int

/-- The tiles within `radius` of `center`, the centre left out. -/
def supportRingCandidates (tiles : TileKey W → Option TownTile) (center : TileKey W)
    (radius : Nat) : List (SupportRingCandidate W) :=
  (List.range (2 * radius + 1)).flatMap fun i : Nat =>
    (List.range (2 * radius + 1)).filterMap fun j : Nat =>
      let dy : Int := (i : Int) - radius
      let dx : Int := (j : Int) - radius
      if dx = 0 ∧ dy = 0 then none
      else
        let key := center.shift (dx, dy)
        (tiles key).map fun tile => ⟨key, tile, dx, dy⟩

end BorderEmpires.Economy
