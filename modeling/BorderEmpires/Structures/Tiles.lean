/-
  BorderEmpires.Structures.Tiles
  **STRUCTURES ON A TILE.**

  A tile has one place for each of four kinds of structure.  A structure
  is under construction, standing or being removed; work in progress
  carries the time it completes, and a timer outside the tile does the
  completing.
-/
import BorderEmpires.World

namespace BorderEmpires.Structures

/-! ## §1. Types of structure. -/

inductive StructureField where
  | fort
  | observatory
  | siegeBattery
  | economicStructure
  deriving DecidableEq

/-- The order in which the handlers look at a tile's structures. -/
def STRUCTURE_FIELDS : List StructureField :=
  [.fort, .observatory, .siegeBattery, .economicStructure]

inductive StructureType where
  | PALISADE | FORT | TITANIUM_BASTION | THUNDER_BASTION
  | OBSERVATORY
  | SIEGE_BATTERY | SIEGE_TOWER | DREAD_TOWER
  | RELAY_BEACON
  | HYDROGARDEN | HYDROWORKS | UMBRITE_RIG | MINE
  | RESIN_EXTRACTOR | IMPLANT_FOUNDRY | CATALYST_REFINERY | CULTIVATION_ESTATE
  | RECLAMATION_WORKS
  | MANUFACTORY | INCUBATION_ENGINE | CENSUS_HALL | CLEARING_HOUSE | SKY_DOCK
  | AMBARIC_TRANSFORMER
  | UMBRITE_WORKS | HIGH_YIELD_UMBRITE_WORKS | TITANIUM_WORKS | HIGH_YIELD_TITANIUM_WORKS
  | AETHER_CONDENSER | HIGH_YIELD_AETHER_CONDENSER
  | TRADE_NEXUS | ORE_REFINERY | ANCILLARY_DEPOT | HARBOR_EXCHANGE | NEURAL_WORKS
  | MINISTRY_HALL | RESONANCE_GRID | ANCILLARY_FACTORY | RESERVE_LATTICE
  | WEAPONS_WORKSHOP | TITANIUM_WEAPONS_FACTORY | UMBRITE_WEAPONS_FACTORY
  | IMPERIAL_EXCHANGE_PART_1 | IMPERIAL_EXCHANGE_PART_2 | IMPERIAL_EXCHANGE_PART_3
  | SOVEREIGN_SIEGE_ENGINE_PART_1 | SOVEREIGN_SIEGE_ENGINE_PART_2
  | SOVEREIGN_SIEGE_ENGINE_PART_3
  | AEGIS_DOME_PART_1 | AEGIS_DOME_PART_2 | AEGIS_DOME_PART_3
  | ASTRAL_DOCK_PART_1 | ASTRAL_DOCK_PART_2 | ASTRAL_DOCK_PART_3
  | CENSUS_DIRECTORATE_PART_1 | CENSUS_DIRECTORATE_PART_2 | CENSUS_DIRECTORATE_PART_3
  | TITANIUM_LEVY_PART_1 | TITANIUM_LEVY_PART_2 | TITANIUM_LEVY_PART_3
  | IMPERIAL_EXCHANGE | SOVEREIGN_SIEGE_ENGINE | AEGIS_DOME | ASTRAL_DOCK
  | CENSUS_DIRECTORATE | TITANIUM_LEVY
  deriving DecidableEq

/-- `STRUCTURE_REGISTRY[type]?.tileField`; the Weapons Workshop is retired
and has no entry. -/
def registryField : StructureType → Option StructureField
  | .PALISADE | .FORT | .TITANIUM_BASTION | .THUNDER_BASTION => some .fort
  | .OBSERVATORY => some .observatory
  | .SIEGE_BATTERY | .SIEGE_TOWER | .DREAD_TOWER => some .siegeBattery
  | .WEAPONS_WORKSHOP => none
  | _ => some .economicStructure

/-! ## §2. Tiles. -/

inductive StructureStatus where
  | under_construction
  | active
  | inactive
  | removing
  deriving DecidableEq

structure TileStructure where
  ownerId : PlayerId
  /-- The variant of a fort or siege battery, the type of an economic
  structure. -/
  type : Option StructureType
  status : StructureStatus
  previousStatus : Option StructureStatus
  startedAt : Option Nat
  completesAt : Option Nat
  /-- Set while an attack on the tile holds the construction. -/
  pausedAt : Option Nat
  activatedAt : Option Nat
  /-- The tier that stands while a fort is upgraded. -/
  upgradingFrom : Option StructureType
  salvageLoadsShipped : Nat
  deriving DecidableEq

structure StructureTile where
  ownerId : Option PlayerId
  isLand : Bool
  isSettled : Bool
  /-- The tile's natural wonder is the Watchtower Engine. -/
  hasWatchtowerEngine : Bool
  resource : Option String
  structures : StructureField → Option TileStructure

def StructureTile.setStructure (tile : StructureTile) (field : StructureField)
    (value : Option TileStructure) : StructureTile :=
  { tile with structures := Function.update tile.structures field value }

@[simp] theorem StructureTile.setStructure_self (tile : StructureTile) (field : StructureField)
    (value : Option TileStructure) : (tile.setStructure field value).structures field = value :=
  Function.update_self _ _ _

theorem StructureTile.setStructure_of_ne (tile : StructureTile) {field f : StructureField}
    (h : f ≠ field) (value : Option TileStructure) :
    (tile.setStructure field value).structures f = tile.structures f :=
  Function.update_of_ne h _ _

/-- `tile[field]`, if it belongs to the player. -/
def StructureTile.owned (tile : StructureTile) (playerId : PlayerId) (field : StructureField) :
    Option TileStructure :=
  (tile.structures field).filter fun held => decide (held.ownerId = playerId)

theorem StructureTile.owned_some {tile : StructureTile} {playerId : PlayerId}
    {field : StructureField} {held : TileStructure}
    (h : tile.owned playerId field = some held) :
    tile.structures field = some held ∧ held.ownerId = playerId := by
  unfold StructureTile.owned at h
  rw [Option.filter_eq_some_iff] at h
  exact ⟨h.1, by simpa using h.2⟩

/-- The first of the fields in `fields` with an own structure that meets
the test. -/
def firstOwned (tile : StructureTile) (playerId : PlayerId)
    (test : StructureField → TileStructure → Bool) :
    List StructureField → Option (StructureField × TileStructure)
  | [] => none
  | field :: rest =>
      match (tile.owned playerId field).filter (test field) with
      | some found => some (field, found)
      | none => firstOwned tile playerId test rest

theorem firstOwned_some {tile : StructureTile} {playerId : PlayerId}
    {test : StructureField → TileStructure → Bool} {fields : List StructureField}
    {field : StructureField} {found : TileStructure}
    (h : firstOwned tile playerId test fields = some (field, found)) :
    tile.structures field = some found ∧ found.ownerId = playerId ∧ test field found = true := by
  induction fields with
  | nil => cases h
  | cons f rest ih =>
      unfold firstOwned at h
      cases hf : (tile.owned playerId f).filter (test f) with
      | none =>
          rw [hf] at h
          exact ih h
      | some first =>
          rw [hf] at h
          cases h
          rw [Option.filter_eq_some_iff] at hf
          obtain ⟨hstands, howner⟩ := StructureTile.owned_some hf.1
          exact ⟨hstands, howner, hf.2⟩

/-- What is left of a fort-family construction once the construction is
lost: an upgrade leaves the tier it started from. -/
def standingFortAfterLostUpgrade (fort : TileStructure) : Option TileStructure :=
  if fort.status ≠ .under_construction then none
  else
    match fort.upgradingFrom with
    | none => none
    | some tier =>
        some
          { ownerId := fort.ownerId
            type := some tier
            status := .active
            previousStatus := none
            startedAt := none
            completesAt := none
            pausedAt := none
            activatedAt := fort.activatedAt
            upgradingFrom := none
            salvageLoadsShipped := 0 }

end BorderEmpires.Structures
