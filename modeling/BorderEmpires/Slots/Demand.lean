/-
  BorderEmpires.Slots.Demand
  **RESOURCE SLOTS: WHAT STRUCTURES ASK FOR AND GIVE.**

  Every structure asks for slots of one or more resources; a synthesizer
  gives them.
-/
import BorderEmpires.Structures.Tiles

namespace BorderEmpires.ResourceSlots

open Structures

/-! ## §1. The slot tables. -/

inductive SlotResource where
  | FOOD
  | TITANIUM
  | CRYSTAL
  | UMBRITE
  deriving DecidableEq

abbrev ResourceSlotTotals := SlotResource → ℕ

structure StructureSlotRequirement where
  resource : SlotResource
  count : ℕ

/-- `STRUCTURE_SLOT_REQUIREMENTS[type] ?? []`. -/
def structureSlotRequirements : StructureType → List StructureSlotRequirement
  | .PALISADE | .RELAY_BEACON | .UMBRITE_RIG | .MINE | .INCUBATION_ENGINE | .CENSUS_HALL
  | .HARBOR_EXCHANGE | .MANUFACTORY | .ANCILLARY_DEPOT | .MINISTRY_HALL | .TRADE_NEXUS
  | .CLEARING_HOUSE | .ANCILLARY_FACTORY => [⟨.FOOD, 1⟩]
  | .ORE_REFINERY | .NEURAL_WORKS | .RESONANCE_GRID | .AMBARIC_TRANSFORMER
  | .RESERVE_LATTICE => [⟨.FOOD, 1⟩, ⟨.CRYSTAL, 1⟩]
  | .OBSERVATORY | .AETHER_CONDENSER | .HIGH_YIELD_AETHER_CONDENSER
  | .IMPERIAL_EXCHANGE_PART_1 | .IMPERIAL_EXCHANGE_PART_2 | .IMPERIAL_EXCHANGE_PART_3
  | .SOVEREIGN_SIEGE_ENGINE_PART_1 | .SOVEREIGN_SIEGE_ENGINE_PART_2
  | .SOVEREIGN_SIEGE_ENGINE_PART_3
  | .AEGIS_DOME_PART_1 | .AEGIS_DOME_PART_2 | .AEGIS_DOME_PART_3
  | .ASTRAL_DOCK_PART_1 | .ASTRAL_DOCK_PART_2 | .ASTRAL_DOCK_PART_3
  | .CENSUS_DIRECTORATE_PART_1 | .CENSUS_DIRECTORATE_PART_2 | .CENSUS_DIRECTORATE_PART_3
  | .TITANIUM_LEVY_PART_1 | .TITANIUM_LEVY_PART_2 | .TITANIUM_LEVY_PART_3 => [⟨.CRYSTAL, 1⟩]
  | .SKY_DOCK => [⟨.CRYSTAL, 3⟩]
  | .IMPERIAL_EXCHANGE | .SOVEREIGN_SIEGE_ENGINE | .AEGIS_DOME | .ASTRAL_DOCK
  | .CENSUS_DIRECTORATE | .TITANIUM_LEVY => [⟨.CRYSTAL, 4⟩]
  | .UMBRITE_WORKS | .HIGH_YIELD_UMBRITE_WORKS | .UMBRITE_WEAPONS_FACTORY
  | .SIEGE_BATTERY => [⟨.UMBRITE, 1⟩]
  | .SIEGE_TOWER => [⟨.UMBRITE, 2⟩]
  | .DREAD_TOWER => [⟨.UMBRITE, 3⟩]
  | .TITANIUM_WORKS | .HIGH_YIELD_TITANIUM_WORKS | .TITANIUM_WEAPONS_FACTORY
  | .FORT => [⟨.TITANIUM, 1⟩]
  | .TITANIUM_BASTION => [⟨.TITANIUM, 2⟩]
  | .THUNDER_BASTION => [⟨.TITANIUM, 4⟩]
  | .WEAPONS_WORKSHOP => [⟨.TITANIUM, 1⟩, ⟨.UMBRITE, 1⟩]
  | .HYDROGARDEN | .HYDROWORKS | .RESIN_EXTRACTOR | .IMPLANT_FOUNDRY | .CATALYST_REFINERY
  | .CULTIVATION_ESTATE | .RECLAMATION_WORKS => []

inductive ConverterMode where
  | SYNTHESIZE
  | EXCHANGE
  deriving DecidableEq

def SYNTHESIZER_STRUCTURE_TYPES : List StructureType :=
  [.UMBRITE_WORKS, .HIGH_YIELD_UMBRITE_WORKS, .TITANIUM_WORKS, .HIGH_YIELD_TITANIUM_WORKS,
    .AETHER_CONDENSER, .HIGH_YIELD_AETHER_CONDENSER]

def isSlotSourceConverter (type : StructureType) (mode : ConverterMode) : Bool :=
  decide (type ∈ SYNTHESIZER_STRUCTURE_TYPES) && decide (mode = .SYNTHESIZE)

/-! ## §2. Structures. -/

structure SlotStructure where
  ownerId : PlayerId
  /-- The variant of a fort or siege battery, the type of an economic
  structure. -/
  type : Option StructureType
  status : StructureStatus
  activatedAt : Option ℤ
  /-- `inactiveReason === "manual"`. -/
  inactiveManually : Bool
  converterMode : Option ConverterMode

end BorderEmpires.ResourceSlots
