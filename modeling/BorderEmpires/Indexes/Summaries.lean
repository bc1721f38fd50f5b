/-
  BorderEmpires.Indexes.Summaries
  **A PLAYER'S SUMMARY, A TILE OUT AND A TILE IN.**

  `removeTileFromPlayerSummary` undoes what `applyTileToPlayerSummary` did
  for the tile as it was, and the new tile is applied.  Counters and rates
  are clamped at zero on the way down, sets and maps drop the key.
-/
import BorderEmpires.Indexes.OwnerIndexes

namespace BorderEmpires.Indexes

open Manpower (TownTier TownTerrainProfileId)
open Tally (total keysWhere collect)

variable {W : WorldSize}

/-! ## §1. Summaries. -/

structure PlayerRuntimeSummary (W : WorldSize) where
  territoryTileKeys : List (TileKey W)
  relicTileKeys : List (TileKey W)
  frontierTileKeys : List (TileKey W)
  settledTileCount : ℕ
  townCount : ℕ
  ownedTownTierByTile : InsertionMap (TileKey W) TownTier
  ownedTownProfileByTile : InsertionMap (TileKey W) TownTerrainProfileId
  ownedTownCoastalByTile : InsertionMap (TileKey W) Bool
  controlledAfcCount : ℕ
  ownedAfcTileKeys : List (TileKey W)
  goldIncomePerMinute : ℚ
  strategicProductionPerMinute : StrategicResourceKey → ℚ
  structureProcessCount : ℕ
  fishFoodPerMinute : ℚ

/-- `createEmptyPlayerRuntimeSummary`. -/
def createEmptyPlayerRuntimeSummary : PlayerRuntimeSummary W :=
  ⟨[], [], [], 0, 0, .empty, .empty, .empty, 0, [], 0, fun _ => 0, 0, 0⟩

def IndexTile.settledTown (tile : IndexTile) : Option IndexTown :=
  if tile.isSettled then tile.town else none

def IndexTile.isSettledFish (tile : IndexTile) : Bool :=
  tile.isSettled && decide (tile.resource = some .FISH)

def IndexTile.settledStrategicResource (tile : IndexTile) : Option StrategicResourceKey :=
  if tile.isSettled then strategicResourceForTile tile.resource else none

def IndexTown.tier (town : IndexTown) : TownTier := town.populationTier.getD .SETTLEMENT

def townProfile (tile : IndexTile) (town : IndexTown) : TownTerrainProfileId :=
  resolvedTownTerrainProfileId town.terrainProfile tile.landBiome

def townCoastal (tile : IndexTile) (town : IndexTown) : Bool :=
  resolvedTownCoastal town.terrainProfile tile.landBiome (town.coastal.getD false)

/-- The most relics a summary may list. -/
def WORLD_RELIC_LIMIT : ℕ := 9

/-- The rest of `applyTileToPlayerSummary`, past the relic limit. -/
def summaryWithTile (summary : PlayerRuntimeSummary W) (tileKey : TileKey W) (tile : IndexTile)
    (ownerId : PlayerId) : PlayerRuntimeSummary W where
  territoryTileKeys := InsertionSet.add summary.territoryTileKeys tileKey
  relicTileKeys :=
    if tile.hasNaturalWonder then InsertionSet.add summary.relicTileKeys tileKey
    else summary.relicTileKeys
  frontierTileKeys :=
    if tile.isFrontier then InsertionSet.add summary.frontierTileKeys tileKey
    else summary.frontierTileKeys
  settledTileCount :=
    if tile.isSettled then summary.settledTileCount + 1 else summary.settledTileCount
  townCount := if tile.settledTown.isSome then summary.townCount + 1 else summary.townCount
  ownedTownTierByTile :=
    tile.settledTown.elim summary.ownedTownTierByTile fun town =>
      summary.ownedTownTierByTile.set tileKey town.tier
  ownedTownProfileByTile :=
    tile.settledTown.elim summary.ownedTownProfileByTile fun town =>
      summary.ownedTownProfileByTile.set tileKey (townProfile tile town)
  ownedTownCoastalByTile :=
    tile.settledTown.elim summary.ownedTownCoastalByTile fun town =>
      summary.ownedTownCoastalByTile.set tileKey (townCoastal tile town)
  controlledAfcCount :=
    if hasOwnAfc tile then summary.controlledAfcCount + 1 else summary.controlledAfcCount
  ownedAfcTileKeys :=
    if hasOperationalAfc tile then InsertionSet.add summary.ownedAfcTileKeys tileKey
    else summary.ownedAfcTileKeys
  goldIncomePerMinute := summary.goldIncomePerMinute + goldIncomePerMinuteForTile tile
  strategicProductionPerMinute :=
    tile.settledStrategicResource.elim summary.strategicProductionPerMinute fun key =>
      Function.update summary.strategicProductionPerMinute key
        (summary.strategicProductionPerMinute key
          + strategicProductionPerMinuteForResource tile.resource)
  structureProcessCount := summary.structureProcessCount + activeStructureProcessCount tile ownerId
  fishFoodPerMinute :=
    if tile.isSettledFish then summary.fishFoodPerMinute + FISH_FOOD_PER_MINUTE
    else summary.fishFoodPerMinute

/-- `none` is the `RangeError` of a tenth relic. -/
def applyTileToPlayerSummary (summary : PlayerRuntimeSummary W) (tileKey : TileKey W)
    (tile : IndexTile) : Option (PlayerRuntimeSummary W) :=
  match tile.ownerId with
  | none => some summary
  | some ownerId =>
      if tile.hasNaturalWonder = true ∧ tileKey ∉ summary.relicTileKeys
          ∧ WORLD_RELIC_LIMIT ≤ summary.relicTileKeys.length then none
      else some (summaryWithTile summary tileKey tile ownerId)

/-- `removeTileFromPlayerSummary` of an owned tile. -/
def summaryWithoutTile (summary : PlayerRuntimeSummary W) (tileKey : TileKey W)
    (tile : IndexTile) (ownerId : PlayerId) : PlayerRuntimeSummary W where
  territoryTileKeys := summary.territoryTileKeys.filter fun key => decide (key ≠ tileKey)
  relicTileKeys := summary.relicTileKeys.filter fun key => decide (key ≠ tileKey)
  frontierTileKeys := summary.frontierTileKeys.filter fun key => decide (key ≠ tileKey)
  settledTileCount :=
    if tile.isSettled then summary.settledTileCount - 1 else summary.settledTileCount
  townCount := if tile.settledTown.isSome then summary.townCount - 1 else summary.townCount
  ownedTownTierByTile :=
    if tile.settledTown.isSome then summary.ownedTownTierByTile.erase tileKey
    else summary.ownedTownTierByTile
  ownedTownProfileByTile :=
    if tile.settledTown.isSome then summary.ownedTownProfileByTile.erase tileKey
    else summary.ownedTownProfileByTile
  ownedTownCoastalByTile :=
    if tile.settledTown.isSome then summary.ownedTownCoastalByTile.erase tileKey
    else summary.ownedTownCoastalByTile
  controlledAfcCount :=
    if hasOwnAfc tile then summary.controlledAfcCount - 1 else summary.controlledAfcCount
  ownedAfcTileKeys := summary.ownedAfcTileKeys.filter fun key => decide (key ≠ tileKey)
  goldIncomePerMinute := max 0 (summary.goldIncomePerMinute - goldIncomePerMinuteForTile tile)
  strategicProductionPerMinute :=
    tile.settledStrategicResource.elim summary.strategicProductionPerMinute fun key =>
      Function.update summary.strategicProductionPerMinute key
        (max 0 (summary.strategicProductionPerMinute key
          - strategicProductionPerMinuteForResource tile.resource))
  structureProcessCount := summary.structureProcessCount - activeStructureProcessCount tile ownerId
  fishFoodPerMinute :=
    if tile.isSettledFish then max 0 (summary.fishFoodPerMinute - FISH_FOOD_PER_MINUTE)
    else summary.fishFoodPerMinute

def removeTileFromPlayerSummary (summary : PlayerRuntimeSummary W) (tileKey : TileKey W)
    (tile : IndexTile) : PlayerRuntimeSummary W :=
  tile.ownerId.elim summary (summaryWithoutTile summary tileKey tile)

/-! ## §2. Counted anew. -/

def owned (ownerId : PlayerId) (test : IndexTile → Bool) (tile : IndexTile) : Bool :=
  decide (tile.ownerId = some ownerId) && test tile

def share {A : Type} [Zero A] (ownerId : PlayerId) (f : IndexTile → A) (tile : IndexTile) : A :=
  if tile.ownerId = some ownerId then f tile else 0

def noted {B : Type} (ownerId : PlayerId) (f : IndexTile → IndexTown → B) (tile : IndexTile) :
    Option B :=
  if tile.ownerId = some ownerId then tile.settledTown.map (f tile) else none

def oneIf (test : IndexTile → Bool) (tile : IndexTile) : ℕ := if test tile then 1 else 0

def strategicShare (key : StrategicResourceKey) (tile : IndexTile) : ℚ :=
  if tile.settledStrategicResource = some key then
    strategicProductionPerMinuteForResource tile.resource
  else 0

def fishFoodShare (tile : IndexTile) : ℚ := if tile.isSettledFish then FISH_FOOD_PER_MINUTE else 0

/-- **A player's summary, recounted from the tiles.** -/
def summaryFromScratch (tiles : TileMap W) (ownerId : PlayerId) : PlayerRuntimeSummary W where
  territoryTileKeys := keysWhere (owned ownerId fun _ => true) tiles
  relicTileKeys := keysWhere (owned ownerId IndexTile.hasNaturalWonder) tiles
  frontierTileKeys := keysWhere (owned ownerId IndexTile.isFrontier) tiles
  settledTileCount := total (share ownerId (oneIf IndexTile.isSettled)) tiles
  townCount := total (share ownerId (oneIf fun tile => tile.settledTown.isSome)) tiles
  ownedTownTierByTile := collect (noted ownerId fun _ => IndexTown.tier) tiles
  ownedTownProfileByTile := collect (noted ownerId townProfile) tiles
  ownedTownCoastalByTile := collect (noted ownerId townCoastal) tiles
  controlledAfcCount := total (share ownerId (oneIf hasOwnAfc)) tiles
  ownedAfcTileKeys := keysWhere (owned ownerId hasOperationalAfc) tiles
  goldIncomePerMinute := total (share ownerId goldIncomePerMinuteForTile) tiles
  strategicProductionPerMinute := fun key => total (share ownerId (strategicShare key)) tiles
  structureProcessCount :=
    total (share ownerId fun tile => activeStructureProcessCount tile ownerId) tiles
  fishFoodPerMinute := total (share ownerId fishFoodShare) tiles

/-- Two summaries with the same numbers, the same sets and the same maps. -/
structure PlayerRuntimeSummary.Agrees (s t : PlayerRuntimeSummary W) : Prop where
  territory : ∀ key, key ∈ s.territoryTileKeys ↔ key ∈ t.territoryTileKeys
  relics : ∀ key, key ∈ s.relicTileKeys ↔ key ∈ t.relicTileKeys
  frontier : ∀ key, key ∈ s.frontierTileKeys ↔ key ∈ t.frontierTileKeys
  settledTiles : s.settledTileCount = t.settledTileCount
  towns : s.townCount = t.townCount
  tiers : ∀ key, s.ownedTownTierByTile.get key = t.ownedTownTierByTile.get key
  profiles : ∀ key, s.ownedTownProfileByTile.get key = t.ownedTownProfileByTile.get key
  coastals : ∀ key, s.ownedTownCoastalByTile.get key = t.ownedTownCoastalByTile.get key
  controlledAfcs : s.controlledAfcCount = t.controlledAfcCount
  ownedAfcs : ∀ key, key ∈ s.ownedAfcTileKeys ↔ key ∈ t.ownedAfcTileKeys
  goldIncome : s.goldIncomePerMinute = t.goldIncomePerMinute
  strategicProduction : s.strategicProductionPerMinute = t.strategicProductionPerMinute
  structureProcesses : s.structureProcessCount = t.structureProcessCount
  fishFood : s.fishFoodPerMinute = t.fishFoodPerMinute

theorem agrees_empty (ownerId : PlayerId) :
    (createEmptyPlayerRuntimeSummary (W := W)).Agrees (summaryFromScratch .empty ownerId) := by
  constructor <;> first | exact fun _ => Iff.rfl | exact fun _ => rfl | rfl

/-! ## §3. A tile out. -/

section Shares

variable {tile : IndexTile} {ownerId : PlayerId}

theorem owned_of_owner (h : tile.ownerId = some ownerId) (test : IndexTile → Bool) :
    owned ownerId test tile = test tile := by
  simp [owned, h]

theorem share_of_owner {A : Type} [Zero A] (h : tile.ownerId = some ownerId)
    (f : IndexTile → A) : share ownerId f tile = f tile :=
  if_pos h

theorem noted_of_owner {B : Type} (h : tile.ownerId = some ownerId)
    (f : IndexTile → IndexTown → B) : noted ownerId f tile = tile.settledTown.map (f tile) :=
  if_pos h

theorem owned_of_ne (h : tile.ownerId ≠ some ownerId) (test : IndexTile → Bool) :
    owned ownerId test tile = false := by
  simp [owned, h]

theorem share_of_ne {A : Type} [Zero A] (h : tile.ownerId ≠ some ownerId)
    (f : IndexTile → A) : share ownerId f tile = 0 :=
  if_neg h

theorem noted_of_ne {B : Type} (h : tile.ownerId ≠ some ownerId)
    (f : IndexTile → IndexTown → B) : noted ownerId f tile = none :=
  if_neg h

theorem share_nonneg {f : IndexTile → ℚ} (hf : ∀ tile, 0 ≤ f tile) (tile : IndexTile) :
    0 ≤ share ownerId f tile := by
  unfold share
  split
  · exact hf tile
  · exact le_refl 0

theorem strategicShare_nonneg (key : StrategicResourceKey) (tile : IndexTile) :
    0 ≤ strategicShare key tile := by
  unfold strategicShare
  split <;> exact le_refl 0

theorem fishFoodShare_nonneg (tile : IndexTile) : 0 ≤ fishFoodShare tile := by
  unfold fishFoodShare
  split <;> decide +kernel

theorem strategicShare_eq (h : tile.ownerId = some ownerId) (key : StrategicResourceKey) :
    share ownerId (strategicShare key) tile
      = if decide (tile.settledStrategicResource = some key) then
          strategicProductionPerMinuteForResource tile.resource
        else 0 := by
  rw [share_of_owner h]
  simp [strategicShare]

theorem update_at_resource (resource : Option StrategicResourceKey) (change : ℚ → ℚ)
    (rates : StrategicResourceKey → ℚ) (key : StrategicResourceKey) :
    (resource.elim rates fun key' => Function.update rates key' (change (rates key'))) key
      = if decide (resource = some key) then change (rates key) else rates key := by
  cases resource with
  | none => simp
  | some key' =>
      rw [Option.elim_some, Function.update_apply]
      by_cases hk : key = key'
      · simp [hk]
      · simp [hk, Ne.symm hk]

end Shares

section Changes

variable {s : PlayerRuntimeSummary W} {tiles : TileMap W} {tileKey : TileKey W}
  {was next : IndexTile} {ownerId : PlayerId}

theorem noted_removed {B : Type} {c : InsertionMap (TileKey W) B} {f : IndexTile → IndexTown → B}
    (h : Tally.Collects c (noted ownerId f) tiles) (hget : tiles.get tileKey = some was)
    (howner : was.ownerId = some ownerId) :
    Tally.Collects (if was.settledTown.isSome then c.erase tileKey else c) (noted ownerId f)
      (tiles.erase tileKey) := by
  split
  · exact h.removed
  rename_i hnone
  refine h.unmissed (fun x hx => ?_)
  rw [hget] at hx
  rw [← Option.some.inj hx, noted_of_owner howner]
  simpa using hnone

theorem PlayerRuntimeSummary.Agrees.withoutTile (h : s.Agrees (summaryFromScratch tiles ownerId))
    (hget : tiles.get tileKey = some was) (howner : was.ownerId = some ownerId) :
    (summaryWithoutTile s tileKey was ownerId).Agrees
      (summaryFromScratch (tiles.erase tileKey) ownerId) where
  territory := Tally.Lists.removed h.territory
  relics := Tally.Lists.removed h.relics
  frontier := Tally.Lists.removed h.frontier
  settledTiles := Tally.counter_erase h.settledTiles hget (share_of_owner howner _)
  towns := Tally.counter_erase h.towns hget (share_of_owner howner _)
  tiers := noted_removed h.tiers hget howner
  profiles := noted_removed h.profiles hget howner
  coastals := noted_removed h.coastals hget howner
  controlledAfcs := Tally.counter_erase h.controlledAfcs hget (share_of_owner howner _)
  ownedAfcs := Tally.Lists.removed h.ownedAfcs
  goldIncome := by
    show max 0 (s.goldIncomePerMinute - goldIncomePerMinuteForTile was) = _
    rw [h.goldIncome, ← share_of_owner howner goldIncomePerMinuteForTile]
    exact Tally.total_erase_clamped _ (share_nonneg goldIncomePerMinuteForTile_nonneg) hget
  strategicProduction := by
    funext key
    refine (update_at_resource was.settledStrategicResource
      (fun rate => max 0 (rate - strategicProductionPerMinuteForResource was.resource))
      s.strategicProductionPerMinute key).trans ?_
    exact Tally.rate_erase (share_nonneg (strategicShare_nonneg key))
      (congrFun h.strategicProduction key) hget (strategicShare_eq howner key)
  structureProcesses := by
    show s.structureProcessCount - activeStructureProcessCount was ownerId = _
    rw [h.structureProcesses,
      ← share_of_owner howner (fun tile => activeStructureProcessCount tile ownerId)]
    exact Tally.total_erase_nat _ hget
  fishFood := Tally.rate_erase (share_nonneg fishFoodShare_nonneg) h.fishFood hget
    (share_of_owner howner _)

theorem PlayerRuntimeSummary.Agrees.removed (h : s.Agrees (summaryFromScratch tiles ownerId))
    (hget : tiles.get tileKey = some was) (howner : was.ownerId = some ownerId) :
    (removeTileFromPlayerSummary s tileKey was).Agrees
      (summaryFromScratch (tiles.erase tileKey) ownerId) := by
  unfold removeTileFromPlayerSummary
  rw [howner]
  exact h.withoutTile hget howner

theorem PlayerRuntimeSummary.Agrees.transport {tiles' : TileMap W}
    (h : s.Agrees (summaryFromScratch tiles ownerId))
    (hlists : ∀ {l : List (TileKey W)} {test : IndexTile → Bool},
      Tally.Lists l (owned ownerId test) tiles → Tally.Lists l (owned ownerId test) tiles')
    (hcollects : ∀ {B : Type} {c : InsertionMap (TileKey W) B} {f : IndexTile → IndexTown → B},
      Tally.Collects c (noted ownerId f) tiles → Tally.Collects c (noted ownerId f) tiles')
    (htotal : ∀ {A : Type} [AddCommMonoid A] {f : IndexTile → A},
      total (share ownerId f) tiles = total (share ownerId f) tiles') :
    s.Agrees (summaryFromScratch tiles' ownerId) where
  territory := hlists h.territory
  relics := hlists h.relics
  frontier := hlists h.frontier
  settledTiles := h.settledTiles.trans htotal
  towns := h.towns.trans htotal
  tiers := hcollects h.tiers
  profiles := hcollects h.profiles
  coastals := hcollects h.coastals
  controlledAfcs := h.controlledAfcs.trans htotal
  ownedAfcs := hlists h.ownedAfcs
  goldIncome := h.goldIncome.trans htotal
  strategicProduction := h.strategicProduction.trans (funext fun _ => htotal)
  structureProcesses := h.structureProcesses.trans htotal
  fishFood := h.fishFood.trans htotal

theorem PlayerRuntimeSummary.Agrees.unmissed (h : s.Agrees (summaryFromScratch tiles ownerId))
    (hother : ∀ was, tiles.get tileKey = some was → was.ownerId ≠ some ownerId) :
    s.Agrees (summaryFromScratch (tiles.erase tileKey) ownerId) :=
  h.transport (fun hl => hl.unmissed (fun was hwas => owned_of_ne (hother was hwas) _))
    (fun hc => hc.unmissed (fun was hwas => noted_of_ne (hother was hwas) _))
    (Tally.total_erase_of_zero _ (fun was hwas => share_of_ne (hother was hwas) _)).symm

/-! ## §4. A tile in. -/

theorem owned_added {l : List (TileKey W)} {test : IndexTile → Bool}
    (h : Tally.Lists l (owned ownerId test) (tiles.erase tileKey))
    (howner : next.ownerId = some ownerId) :
    Tally.Lists (if test next then InsertionSet.add l tileKey else l) (owned ownerId test)
      (tiles.set tileKey next) := by
  split
  · rename_i htest
    exact h.added ((owned_of_owner howner test).trans htest)
  · rename_i htest
    exact h.passed ((owned_of_owner howner test).trans (Bool.eq_false_iff.mpr htest))

theorem noted_added {B : Type} {c : InsertionMap (TileKey W) B} {f : IndexTile → IndexTown → B}
    (h : Tally.Collects c (noted ownerId f) (tiles.erase tileKey))
    (howner : next.ownerId = some ownerId) :
    Tally.Collects (next.settledTown.elim c fun town => c.set tileKey (f next town))
      (noted ownerId f) (tiles.set tileKey next) := by
  have hnoted := noted_of_owner howner f
  cases htown : next.settledTown with
  | none =>
      rw [htown] at hnoted
      exact h.passed hnoted
  | some town =>
      rw [htown] at hnoted
      exact h.added hnoted

theorem PlayerRuntimeSummary.Agrees.withTile
    (h : s.Agrees (summaryFromScratch (tiles.erase tileKey) ownerId))
    (howner : next.ownerId = some ownerId) :
    (summaryWithTile s tileKey next ownerId).Agrees
      (summaryFromScratch (tiles.set tileKey next) ownerId) where
  territory := Tally.Lists.added h.territory (owned_of_owner howner _)
  relics := owned_added h.relics howner
  frontier := owned_added h.frontier howner
  settledTiles := Tally.counter_set h.settledTiles (share_of_owner howner _)
  towns := Tally.counter_set h.towns (share_of_owner howner _)
  tiers := noted_added h.tiers howner
  profiles := noted_added h.profiles howner
  coastals := noted_added h.coastals howner
  controlledAfcs := Tally.counter_set h.controlledAfcs (share_of_owner howner _)
  ownedAfcs := owned_added h.ownedAfcs howner
  goldIncome := by
    show s.goldIncomePerMinute + goldIncomePerMinuteForTile next = total _ _
    rw [Tally.total_set, share_of_owner howner, h.goldIncome]
    rfl
  strategicProduction := by
    funext key
    refine (update_at_resource next.settledStrategicResource
      (fun rate => rate + strategicProductionPerMinuteForResource next.resource)
      s.strategicProductionPerMinute key).trans ?_
    exact Tally.rate_set (congrFun h.strategicProduction key) (strategicShare_eq howner key)
  structureProcesses := by
    show s.structureProcessCount + activeStructureProcessCount next ownerId = total _ _
    rw [Tally.total_set, share_of_owner howner, h.structureProcesses]
    rfl
  fishFood := Tally.rate_set h.fishFood (share_of_owner howner _)

theorem PlayerRuntimeSummary.Agrees.passed
    (h : s.Agrees (summaryFromScratch (tiles.erase tileKey) ownerId))
    (hother : next.ownerId ≠ some ownerId) :
    s.Agrees (summaryFromScratch (tiles.set tileKey next) ownerId) := by
  refine h.transport (fun hl => hl.passed (owned_of_ne hother _))
    (fun hc => hc.passed (noted_of_ne hother _)) ?_
  intro A _ f
  rw [Tally.total_set, share_of_ne hother, add_zero]

/-! ## §5. The relic limit. -/

def relicsOf (tiles : TileMap W) (ownerId : PlayerId) : List (TileKey W) :=
  keysWhere (owned ownerId IndexTile.hasNaturalWonder) tiles

theorem nodup_relics_without (h : s.relicTileKeys.Nodup) :
    (removeTileFromPlayerSummary s tileKey was).relicTileKeys.Nodup := by
  unfold removeTileFromPlayerSummary
  cases was.ownerId with
  | none => exact h
  | some ownerId => exact h.filter _

theorem nodup_relics_with (h : s.relicTileKeys.Nodup) (ownerId : PlayerId) :
    (summaryWithTile s tileKey next ownerId).relicTileKeys.Nodup := by
  show List.Nodup (if next.hasNaturalWonder then _ else _)
  split
  · exact InsertionSet.nodup_add h _
  · exact h

theorem length_relicsOf_set (h : s.Agrees (summaryFromScratch (tiles.erase tileKey) ownerId))
    (hnodup : s.relicTileKeys.Nodup) (howner : next.ownerId = some ownerId) :
    (relicsOf (tiles.set tileKey next) ownerId).length
      = s.relicTileKeys.length + if next.hasNaturalWonder then 1 else 0 := by
  have hlength := Tally.Lists.length_eq (h.withTile howner).relics
    (nodup_relics_with hnodup ownerId)
  have habsent : tileKey ∉ s.relicTileKeys := by
    rw [h.relics tileKey]
    show tileKey ∉ keysWhere _ _
    simp [Tally.mem_keysWhere]
  refine hlength.symm.trans ?_
  show (if next.hasNaturalWonder then InsertionSet.add s.relicTileKeys tileKey
    else s.relicTileKeys).length = _
  cases next.hasNaturalWonder with
  | false => rfl
  | true => simp [InsertionSet.add, habsent]

/-- **The one write that fails** would leave its owner with a tenth
relic. -/
theorem applyTile_eq_none_iff
    (h : ∀ ownerId, next.ownerId = some ownerId →
      s.Agrees (summaryFromScratch (tiles.erase tileKey) ownerId))
    (hnodup : s.relicTileKeys.Nodup) :
    applyTileToPlayerSummary s tileKey next = none
      ↔ next.hasNaturalWonder = true ∧ ∃ ownerId, next.ownerId = some ownerId
          ∧ WORLD_RELIC_LIMIT < (relicsOf (tiles.set tileKey next) ownerId).length := by
  unfold applyTileToPlayerSummary
  cases howner : next.ownerId with
  | none => simp
  | some ownerId =>
      have hlength := length_relicsOf_set (h ownerId howner) hnodup howner
      have habsent : tileKey ∉ s.relicTileKeys := by
        rw [(h ownerId howner).relics tileKey]
        show tileKey ∉ keysWhere _ _
        simp [Tally.mem_keysWhere]
      dsimp only
      constructor
      · intro hnone
        split at hnone
        · rename_i hlimit
          rw [if_pos hlimit.1] at hlength
          exact ⟨hlimit.1, ownerId, rfl, by omega⟩
        · cases hnone
      · rintro ⟨hrelic, ownerId', heq, hlimit⟩
        rw [← Option.some.inj heq, hlength, if_pos hrelic] at hlimit
        exact if_pos ⟨hrelic, habsent, by omega⟩

end Changes

end BorderEmpires.Indexes
