/-
  BorderEmpires.Slots.Supply
  **WHAT A PLAYER'S TILES SUPPLY.**

  A settled resource tile supplies its base slots, more for the structure
  on it, for the owner's fish tech and for a Hydroworks or an Ore Refinery
  in range; an active converter supplies its own slots.  The supply of a
  list of tiles is the sum of what each supplies alone, in the context of
  their owner's radius structures and tech.
-/
import BorderEmpires.Deltas.Tiles
import BorderEmpires.Lib.Loops
import BorderEmpires.Siphon.InStep
import BorderEmpires.Slots.Demand

namespace BorderEmpires.ResourceSlots

open Structures
open Deltas (ResourceType)

variable {W : WorldSize}

/-! ## §1. The supply tables. -/

structure BaseSlots where
  slotResource : SlotResource
  baseSlots : ℕ

def BASE_SLOTS_BY_TILE_RESOURCE : ResourceType → Option BaseSlots
  | .FARM => some ⟨.FOOD, 1⟩
  | .FISH => some ⟨.FOOD, 2⟩
  | .TITANIUM => some ⟨.TITANIUM, 1⟩
  | .GEMS => some ⟨.CRYSTAL, 1⟩
  | .UMBRITE => some ⟨.UMBRITE, 1⟩
  | _ => none

/-- `TILE_SLOT_BOOST_STRUCTURES[type]`, zero where there is none. -/
def TILE_SLOT_BOOST_STRUCTURES : StructureType → ℕ
  | .HYDROGARDEN => 2
  | .MINE => 1
  | .UMBRITE_RIG => 1
  | _ => 0

def HYDROWORKS_HYDROGARDEN_FOOD_SLOT_BONUS : ℕ := 2
def ORE_REFINERY_MINE_SLOT_BONUS : ℕ := 2
def HYDROWORKS_RADIUS : ℕ := 10
def ORE_REFINERY_RADIUS : ℕ := 5

def emptyResourceSlotTotals : ResourceSlotTotals := fun _ => 0

/-- `totals[resource] += count`. -/
def ResourceSlotTotals.gain (totals : ResourceSlotTotals) (resource : SlotResource) (count : ℕ) :
    ResourceSlotTotals :=
  fun r => if r = resource then totals r + count else totals r

/-! ## §2. Tiles. -/

variable (W) in
/-- A tile as the siphon rules see it, with what the supply reads. -/
structure SupplyTile extends Siphon.Tile W where
  ownershipState : Option OwnershipState
  resourceType : Option ResourceType
  /-- `Boolean(tile.resource)`. -/
  resource_eq : resource = resourceType.isSome
  economicStructure : Option SlotStructure

def activeStructureType (tile : SupplyTile W) : Option StructureType :=
  match tile.economicStructure with
  | some s => if s.status = .active ∧ s.inactiveManually = false then s.type else none
  | none => none

def converterModeOf (held : Option SlotStructure) : ConverterMode :=
  (held.bind SlotStructure.converterMode).getD .SYNTHESIZE

structure RadiusStructureKeys (W : WorldSize) where
  hydroworksKeys : List (TileKey W)
  oreRefineryKeys : List (TileKey W)

def addRadiusStructure (keys : RadiusStructureKeys W) (entry : TileKey W × SupplyTile W) :
    RadiusStructureKeys W :=
  match entry.2.economicStructure with
  | some s =>
      if s.status ≠ .active then keys
      else if s.type = some .HYDROWORKS then
        { keys with hydroworksKeys := InsertionSet.add keys.hydroworksKeys entry.1 }
      else if s.type = some .ORE_REFINERY then
        { keys with oreRefineryKeys := InsertionSet.add keys.oreRefineryKeys entry.1 }
      else keys
  | none => keys

def radiusStructureKeysForSettledTiles (settledTiles : List (TileKey W × SupplyTile W)) :
    RadiusStructureKeys W :=
  settledTiles.foldl addRadiusStructure ⟨[], []⟩

def withinRadiusOfAnyKey (key : TileKey W) (candidateKeys : List (TileKey W)) (radius : ℕ) : Bool :=
  candidateKeys.any fun c => decide (chebyshevWithWrap W key.x key.y c.x c.y ≤ radius)

/-! ## §3. The supply of a list of tiles. -/

def addConverterSlots (totals : ResourceSlotTotals) (tile : SupplyTile W) : ResourceSlotTotals :=
  match activeStructureType tile with
  | some structureType =>
      if isSlotSourceConverter structureType (converterModeOf tile.economicStructure) then
        (structureSlotRequirements structureType).foldl
          (fun totals req => totals.gain req.resource req.count) totals
      else totals
  | none => totals

/-- The slots of a resource tile; the boost of a Hydrogarden counts on farms
alone. -/
def resourceTileSlots (keys : RadiusStructureKeys W) (fishFoodSlotBonus : ℤ) (key : TileKey W)
    (tile : SupplyTile W) (base : BaseSlots) : ℕ :=
  let structureType := activeStructureType tile
  let boostBlockedOnFish :=
    decide (structureType = some .HYDROGARDEN) && decide (tile.resourceType ≠ some .FARM)
  let boost :=
    if boostBlockedOnFish then 0
    else structureType.elim 0 TILE_SLOT_BOOST_STRUCTURES
  let fish :=
    if tile.resourceType = some .FISH ∧ fishFoodSlotBonus > 0 then fishFoodSlotBonus.toNat else 0
  let hydroworks :=
    if structureType = some .HYDROGARDEN ∧ tile.resourceType = some .FARM
        ∧ withinRadiusOfAnyKey key keys.hydroworksKeys HYDROWORKS_RADIUS then
      HYDROWORKS_HYDROGARDEN_FOOD_SLOT_BONUS
    else 0
  let oreRefinery :=
    if structureType = some .MINE
        ∧ withinRadiusOfAnyKey key keys.oreRefineryKeys ORE_REFINERY_RADIUS then
      ORE_REFINERY_MINE_SLOT_BONUS
    else 0
  base.baseSlots + boost + fish + hydroworks + oreRefinery

/-- One turn of the loop over the tiles. -/
def addTileSlots (keys : RadiusStructureKeys W) (fishFoodSlotBonus : ℤ)
    (totals : ResourceSlotTotals) (entry : TileKey W × SupplyTile W) : ResourceSlotTotals :=
  let totals := addConverterSlots totals entry.2
  match entry.2.resourceType.bind BASE_SLOTS_BY_TILE_RESOURCE with
  | some base =>
      totals.gain base.slotResource
        (resourceTileSlots keys fishFoodSlotBonus entry.1 entry.2 base)
  | none => totals

/-- A partial record of counts. -/
abbrev SlotSupply := SlotResource → Option ℤ

/-- `totals[resource] += count` for the positive counts of a grant. -/
def ResourceSlotTotals.addGrant (totals : ResourceSlotTotals) (supply : SlotSupply) :
    ResourceSlotTotals :=
  fun r => totals r + ((supply r).elim 0 fun count => if count > 0 then count.toNat else 0)

def resourceSlotSupplyForPlayer (settledTiles : List (TileKey W × SupplyTile W))
    (keys : RadiusStructureKeys W) (domainGrantedSupply : Option SlotSupply)
    (fishFoodSlotBonus : ℤ) : ResourceSlotTotals :=
  let totals := settledTiles.foldl (addTileSlots keys fishFoodSlotBonus) emptyResourceSlotTotals
  match domainGrantedSupply with
  | some supply => totals.addGrant supply
  | none => totals

/-! ## §4. The supply is a sum over the tiles. -/

def tileSlots (keys : RadiusStructureKeys W) (fishFoodSlotBonus : ℤ)
    (entry : TileKey W × SupplyTile W) : ResourceSlotTotals :=
  addTileSlots keys fishFoodSlotBonus emptyResourceSlotTotals entry

theorem ResourceSlotTotals.gain_apply (totals : ResourceSlotTotals) (resource r : SlotResource)
    (count : ℕ) :
    totals.gain resource count r = totals r + emptyResourceSlotTotals.gain resource count r := by
  unfold ResourceSlotTotals.gain emptyResourceSlotTotals
  split
  · omega
  · omega

theorem addConverterSlots_apply (totals : ResourceSlotTotals) (tile : SupplyTile W)
    (r : SlotResource) :
    addConverterSlots totals tile r
      = totals r + addConverterSlots emptyResourceSlotTotals tile r := by
  unfold addConverterSlots
  cases activeStructureType tile with
  | none => rfl
  | some structureType =>
      by_cases hsource : isSlotSourceConverter structureType (converterModeOf
          tile.economicStructure) = true
      · simp only [hsource, if_true]
        exact Loops.foldl_add_from (fun totals : ResourceSlotTotals => totals r) rfl
          (fun totals req => totals.gain_apply req.resource r req.count)
      · simp only [if_neg hsource]
        rfl

/-- **A tile adds what it supplies alone.** -/
theorem addTileSlots_apply (keys : RadiusStructureKeys W) (fishFoodSlotBonus : ℤ)
    (totals : ResourceSlotTotals) (entry : TileKey W × SupplyTile W) (r : SlotResource) :
    addTileSlots keys fishFoodSlotBonus totals entry r
      = totals r + tileSlots keys fishFoodSlotBonus entry r := by
  have hconverter := addConverterSlots_apply totals entry.2 r
  unfold tileSlots addTileSlots
  cases entry.2.resourceType.bind BASE_SLOTS_BY_TILE_RESOURCE with
  | none => exact hconverter
  | some base =>
      dsimp only
      rw [ResourceSlotTotals.gain_apply, hconverter,
        ResourceSlotTotals.gain_apply (addConverterSlots emptyResourceSlotTotals entry.2)]
      omega

/-- **The supply of a list of tiles is the sum of theirs.** -/
theorem resourceSlotSupplyForPlayer_apply (settledTiles : List (TileKey W × SupplyTile W))
    (keys : RadiusStructureKeys W) (fishFoodSlotBonus : ℤ) (r : SlotResource) :
    resourceSlotSupplyForPlayer settledTiles keys none fishFoodSlotBonus r
      = (settledTiles.map fun entry => tileSlots keys fishFoodSlotBonus entry r).sum := by
  show settledTiles.foldl (addTileSlots keys fishFoodSlotBonus) emptyResourceSlotTotals r = _
  rw [Loops.foldl_add (fun totals : ResourceSlotTotals => totals r) (fun totals entry =>
    addTileSlots_apply keys fishFoodSlotBonus totals entry r)]
  exact zero_add _

end BorderEmpires.ResourceSlots
