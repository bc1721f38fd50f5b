/-
  BorderEmpires.Slots.SiphonTransfer
  **DRAINED SLOTS CHANGE HANDS, NONE IS LOST.**

  While a tower siphons a resource tile, the tile's slots count for the
  caster and not for its owner.  The owner's side leaves the tile out by
  its stamp; the caster's side finds it through the record of the tower
  and values it in the owner's context.
-/
import Mathlib.Algebra.BigOperators.Ring.Finset
import Mathlib.Algebra.Order.Ring.Nat
import BorderEmpires.Lib.Ledger
import BorderEmpires.Lib.Tally
import BorderEmpires.Slots.Supply

namespace BorderEmpires.ResourceSlots

open Siphon (HoldsTower CarriesStamp Records)

variable {W : WorldSize}

/-! ## §1. The world the supply is read from. -/

abbrev SupplyTiles (W : WorldSize) := InsertionMap (TileKey W) (SupplyTile W)

def siphonTiles (tiles : SupplyTiles W) : Siphon.Tiles W :=
  Tally.collect (fun tile => some tile.toTile) tiles

theorem get_siphonTiles (tiles : SupplyTiles W) (key : TileKey W) :
    (siphonTiles tiles).get key = (tiles.get key).map SupplyTile.toTile := by
  unfold siphonTiles
  rw [Tally.get_collect]
  cases tiles.get key with
  | none => rfl
  | some tile => rfl

variable (W) in
/-- `SiphonSlotSupplyInput` of every player, with the indexes it reads in
step with the tiles: a territory set lists each own tile once, and the
index of active Observatories lists each active tower. -/
structure SlotWorld where
  tiles : SupplyTiles W
  territoryTileKeys : PlayerId → List (TileKey W)
  territory_nodup : ∀ playerId, (territoryTileKeys playerId).Nodup
  territory_lists : ∀ playerId key tile, tiles.get key = some tile →
    tile.ownerId = some playerId → key ∈ territoryTileKeys playerId
  activeObservatoryKeysForPlayer : PlayerId → List (TileKey W)
  towers_listed : ∀ playerId key, HoldsTower (siphonTiles tiles) key playerId →
    key ∈ activeObservatoryKeysForPlayer playerId
  grantsForPlayer : PlayerId → List SlotSupply
  fishFoodSlotBonusForPlayer : PlayerId → ℤ

def isSettledOf (playerId : PlayerId) (tile : SupplyTile W) : Bool :=
  decide (tile.ownerId = some playerId) && decide (tile.ownershipState = some .SETTLED)

def entryWhere (tiles : SupplyTiles W) (test : SupplyTile W → Bool) (key : TileKey W) :
    Option (TileKey W × SupplyTile W) :=
  ((tiles.get key).filter test).map fun tile => (key, tile)

def settledTilesForPlayer (world : SlotWorld W) (playerId : PlayerId) :
    List (TileKey W × SupplyTile W) :=
  (world.territoryTileKeys playerId).filterMap (entryWhere world.tiles (isSettledOf playerId))

/-! ## §2. The transfer. -/

def isResourceTileSiphonedAway (tile : SupplyTile W) (ownerId : PlayerId) : Bool :=
  tile.resource
    && tile.sabotage.any fun s => s.observatoryTileKey.isSome && decide (s.ownerId ≠ ownerId)

/-- The test of the caster's scan, at one of its towers. -/
def isDrainedThrough (casterId : PlayerId) (observatoryKey : TileKey W) (tile : SupplyTile W) :
    Bool :=
  match tile.ownerId with
  | some ownerId =>
      decide (tile.ownershipState = some .SETTLED) && isResourceTileSiphonedAway tile ownerId
        && tile.sabotage.any fun s =>
          decide (s.ownerId = casterId) && decide (s.observatoryTileKey = some observatoryKey)
  | none => false

/-- `tiles.get(observatoryKey)?.observatory?.siphon?.tileKeys ?? []`. -/
def recordedTileKeys (tiles : SupplyTiles W) (observatoryKey : TileKey W) : List (TileKey W) :=
  ((tiles.get observatoryKey).bind fun tile => tile.toTile.siphon).elim []
    Siphon.ObservatorySiphonMode.tileKeys

/-- What the scan sets, in its order. -/
def drainedEntries (world : SlotWorld W) (playerId : PlayerId) : List (TileKey W × SupplyTile W) :=
  (world.activeObservatoryKeysForPlayer playerId).flatMap fun observatoryKey =>
    (recordedTileKeys world.tiles observatoryKey).filterMap
      (entryWhere world.tiles (isDrainedThrough playerId observatoryKey))

def siphonedResourceTilesForPlayer (world : SlotWorld W) (playerId : PlayerId) :
    List (TileKey W × SupplyTile W) :=
  (InsertionMap.ofEntries (drainedEntries world playerId)).entries

/-- What `ownerId` would get from `drained`, in their own context. -/
def ownerSlotsForTiles (world : SlotWorld W) (ownerId : PlayerId)
    (drained : List (TileKey W × SupplyTile W)) : ResourceSlotTotals :=
  resourceSlotSupplyForPlayer drained
    (radiusStructureKeysForSettledTiles (settledTilesForPlayer world ownerId)) none
    (world.fishFoodSlotBonusForPlayer ownerId)

def groupByOwner (drainedByOwner : InsertionMap PlayerId (List (TileKey W × SupplyTile W)))
    (entry : TileKey W × SupplyTile W) :
    InsertionMap PlayerId (List (TileKey W × SupplyTile W)) :=
  match entry.2.ownerId with
  | some ownerId =>
      drainedByOwner.set ownerId ((drainedByOwner.get ownerId).getD [] ++ [entry])
  | none => drainedByOwner

/-- `totals[resource] += slots[resource]` for every resource. -/
def ResourceSlotTotals.add (totals slots : ResourceSlotTotals) : ResourceSlotTotals :=
  fun r => totals r + slots r

def siphonedInSlotsForPlayer (world : SlotWorld W) (playerId : PlayerId) : ResourceSlotTotals :=
  ((siphonedResourceTilesForPlayer world playerId).foldl groupByOwner .empty).entries.foldl
    (fun totals e => totals.add (ownerSlotsForTiles world e.1 e.2)) emptyResourceSlotTotals

def keptTiles (world : SlotWorld W) (playerId : PlayerId) : List (TileKey W × SupplyTile W) :=
  (settledTilesForPlayer world playerId).filter fun entry =>
    !isResourceTileSiphonedAway entry.2 playerId

def resourceSlotSupplyWithSiphonTransfer (world : SlotWorld W) (playerId : PlayerId) :
    ResourceSlotTotals :=
  let totals := resourceSlotSupplyForPlayer (keptTiles world playerId)
    (radiusStructureKeysForSettledTiles (settledTilesForPlayer world playerId)) none
    (world.fishFoodSlotBonusForPlayer playerId)
  let totals := (world.grantsForPlayer playerId).foldl ResourceSlotTotals.addGrant totals
  totals.add (siphonedInSlotsForPlayer world playerId)

/-! ## §3. For whom a tile counts. -/

def settledOwner (tiles : SupplyTiles W) (key : TileKey W) : Option PlayerId :=
  (tiles.get key).bind fun tile =>
    tile.ownerId.filter fun _ => decide (tile.ownershipState = some .SETTLED)

/-- The caster who has the slots of a settled tile from its owner. -/
def drainedFor (tiles : SupplyTiles W) (key : TileKey W) : Option PlayerId :=
  (tiles.get key).bind fun tile =>
    (settledOwner tiles key).bind fun ownerId =>
      if isResourceTileSiphonedAway tile ownerId then tile.sabotage.map Siphon.Sabotage.ownerId
      else none

/-- The caster, or else the owner. -/
def countsFor (tiles : SupplyTiles W) (key : TileKey W) : Option PlayerId :=
  (drainedFor tiles key).or (settledOwner tiles key)

variable {casterId : PlayerId} {tiles : SupplyTiles W} {entry : TileKey W × SupplyTile W}
  (world : SlotWorld W) (playerId : PlayerId)

theorem settledOwner_iff {key : TileKey W} {ownerId : PlayerId} :
    settledOwner tiles key = some ownerId
      ↔ ∃ tile, tiles.get key = some tile ∧ isSettledOf ownerId tile = true := by
  unfold settledOwner isSettledOf
  rw [Option.bind_eq_some_iff]
  simp only [Option.filter_eq_some_iff, Bool.and_eq_true, decide_eq_true_eq]

theorem drainedFor_iff {key : TileKey W} :
    drainedFor tiles key = some casterId
      ↔ ∃ tile ownerId s, tiles.get key = some tile ∧ isSettledOf ownerId tile = true
          ∧ isResourceTileSiphonedAway tile ownerId = true ∧ tile.sabotage = some s
          ∧ s.ownerId = casterId := by
  unfold drainedFor
  simp only [Option.bind_eq_some_iff, settledOwner_iff]
  constructor
  · rintro ⟨tile, htile, ownerId, ⟨tile', htile', hown⟩, hcast⟩
    rw [htile] at htile'
    rw [← Option.some.inj htile'] at hown
    split at hcast
    next haway =>
      obtain ⟨s, hs, hc⟩ := Option.map_eq_some_iff.mp hcast
      exact ⟨tile, ownerId, s, htile, hown, haway, hs, hc⟩
    next => cases hcast
  · rintro ⟨tile, ownerId, s, htile, hown, haway, hs, hc⟩
    refine ⟨tile, htile, ownerId, ⟨tile, htile, hown⟩, ?_⟩
    rw [if_pos haway, hs, Option.map_some, hc]

theorem countsFor_isSome (tiles : SupplyTiles W) (key : TileKey W) :
    (countsFor tiles key).isSome = (settledOwner tiles key).isSome := by
  unfold countsFor
  cases hown : settledOwner tiles key with
  | some ownerId => simp
  | none =>
      have hno : drainedFor tiles key = none := by
        unfold drainedFor
        rw [hown]
        simp
      rw [hno]
      rfl

/-! ## §4. What the two scans find. -/

theorem entryWhere_iff {test : SupplyTile W → Bool} {key : TileKey W} :
    entryWhere tiles test key = some entry
      ↔ key = entry.1 ∧ tiles.get entry.1 = some entry.2 ∧ test entry.2 = true := by
  unfold entryWhere
  rw [Option.map_eq_some_iff]
  constructor
  · rintro ⟨tile, hfilter, rfl⟩
    obtain ⟨htile, htest⟩ := Option.filter_eq_some_iff.mp hfilter
    exact ⟨rfl, htile, htest⟩
  · rintro ⟨rfl, htile, htest⟩
    exact ⟨entry.2, Option.filter_eq_some_iff.mpr ⟨htile, htest⟩, rfl⟩

theorem mem_settledTilesForPlayer {world : SlotWorld W} {playerId : PlayerId} :
    entry ∈ settledTilesForPlayer world playerId
      ↔ world.tiles.get entry.1 = some entry.2 ∧ isSettledOf playerId entry.2 = true := by
  unfold settledTilesForPlayer
  rw [List.mem_filterMap]
  constructor
  · rintro ⟨key, -, hentry⟩
    exact (entryWhere_iff.mp hentry).2
  · rintro ⟨htile, hset⟩
    have hown : entry.2.ownerId = some playerId := by
      unfold isSettledOf at hset
      simp only [Bool.and_eq_true, decide_eq_true_eq] at hset
      exact hset.1
    exact ⟨entry.1, world.territory_lists playerId entry.1 entry.2 htile hown,
      entryWhere_iff.mpr ⟨rfl, htile, hset⟩⟩

theorem keys_filterMap_entryWhere_sublist (tiles : SupplyTiles W) (test : SupplyTile W → Bool)
    (keys : List (TileKey W)) :
    ((keys.filterMap (entryWhere tiles test)).map Prod.fst).Sublist keys := by
  induction keys with
  | nil => exact List.Sublist.slnil
  | cons key keys ih =>
      cases hentry : entryWhere tiles test key with
      | none =>
          rw [List.filterMap_cons_none hentry]
          exact ih.cons key
      | some entry =>
          rw [List.filterMap_cons_some hentry, List.map_cons, (entryWhere_iff.mp hentry).1]
          exact List.Sublist.cons_cons entry.1 ih

theorem nodup_settledTilesForPlayer : ((settledTilesForPlayer world playerId).map Prod.fst).Nodup :=
  (world.territory_nodup playerId).sublist
    (keys_filterMap_entryWhere_sublist world.tiles _ (world.territoryTileKeys playerId))

theorem nodup_siphonedResourceTilesForPlayer :
    ((siphonedResourceTilesForPlayer world playerId).map Prod.fst).Nodup :=
  (InsertionMap.ofEntries (drainedEntries world playerId)).nodupKeys

theorem mem_drainedEntries {world : SlotWorld W} {playerId : PlayerId} :
    entry ∈ drainedEntries world playerId
      ↔ ∃ observatoryKey ∈ world.activeObservatoryKeysForPlayer playerId,
          entry.1 ∈ recordedTileKeys world.tiles observatoryKey
            ∧ world.tiles.get entry.1 = some entry.2
            ∧ isDrainedThrough playerId observatoryKey entry.2 = true := by
  unfold drainedEntries
  simp only [List.mem_flatMap, List.mem_filterMap]
  constructor
  · rintro ⟨observatoryKey, hactive, key, hkey, hentry⟩
    obtain ⟨rfl, htile, htest⟩ := entryWhere_iff.mp hentry
    exact ⟨observatoryKey, hactive, hkey, htile, htest⟩
  · rintro ⟨observatoryKey, hactive, hkey, htile, htest⟩
    exact ⟨observatoryKey, hactive, entry.1, hkey, entryWhere_iff.mpr ⟨rfl, htile, htest⟩⟩

theorem isDrainedThrough_iff {observatoryKey : TileKey W} {tile : SupplyTile W} :
    isDrainedThrough casterId observatoryKey tile = true
      ↔ ∃ ownerId s, isSettledOf ownerId tile = true
          ∧ isResourceTileSiphonedAway tile ownerId = true ∧ tile.sabotage = some s
          ∧ s.ownerId = casterId ∧ s.observatoryTileKey = some observatoryKey := by
  unfold isDrainedThrough isSettledOf
  cases hown : tile.ownerId with
  | none => simp
  | some ownerId =>
      cases hs : tile.sabotage with
      | none => simp
      | some s => simp [and_assoc]

theorem mem_recordedTileKeys_of_records {observatoryKey key : TileKey W}
    (h : Records (siphonTiles tiles) observatoryKey casterId key) :
    key ∈ recordedTileKeys tiles observatoryKey := by
  obtain ⟨tower, observatory, siphon, htower, hobs, -, hsiphon, hmem⟩ := h
  rw [get_siphonTiles] at htower
  obtain ⟨tile, htile, rfl⟩ := Option.map_eq_some_iff.mp htower
  unfold recordedTileKeys Siphon.Tile.siphon
  rw [htile, Option.bind_some, hobs, Option.bind_some, hsiphon]
  exact hmem

theorem carriesStamp_of_drained {key : TileKey W} {tile : SupplyTile W} {ownerId : PlayerId}
    {s : Siphon.Sabotage W} (htile : tiles.get key = some tile)
    (haway : isResourceTileSiphonedAway tile ownerId = true) (hs : tile.sabotage = some s)
    (hc : s.ownerId = casterId) :
    ∃ observatoryKey, s.observatoryTileKey = some observatoryKey
      ∧ CarriesStamp (siphonTiles tiles) key observatoryKey casterId := by
  unfold isResourceTileSiphonedAway at haway
  rw [hs] at haway
  simp only [Option.any_some, Bool.and_eq_true] at haway
  obtain ⟨observatoryKey, hobs⟩ := Option.isSome_iff_exists.mp haway.2.1
  refine ⟨observatoryKey, hobs, tile.toTile, s, ?_, hs, hobs, hc⟩
  rw [get_siphonTiles, htile]
  rfl

/-- **Stamps and records in step: a caster's towers find the tiles its
stamps are on.** -/
theorem mem_siphonedResourceTilesForPlayer {world : SlotWorld W}
    (hstep : Siphon.InStep (siphonTiles world.tiles)) :
    entry ∈ siphonedResourceTilesForPlayer world casterId
      ↔ world.tiles.get entry.1 = some entry.2 ∧ drainedFor world.tiles entry.1 = some casterId := by
  have hfun : ∀ k x x', (k, x) ∈ drainedEntries world casterId →
      (k, x') ∈ drainedEntries world casterId → x = x' := by
    intro k x x' hx hx'
    obtain ⟨_, _, _, hget, _⟩ := mem_drainedEntries.mp hx
    obtain ⟨_, _, _, hget', _⟩ := mem_drainedEntries.mp hx'
    exact Option.some.inj (hget.symm.trans hget')
  unfold siphonedResourceTilesForPlayer
  rw [show entry = (entry.1, entry.2) from rfl, InsertionMap.mem_entries_iff,
    InsertionMap.get_ofEntries_iff hfun, mem_drainedEntries]
  constructor
  · rintro ⟨observatoryKey, -, -, htile, htest⟩
    obtain ⟨ownerId, s, hset, haway, hs, hc, -⟩ := isDrainedThrough_iff.mp htest
    exact ⟨htile, drainedFor_iff.mpr ⟨entry.2, ownerId, s, htile, hset, haway, hs, hc⟩⟩
  · rintro ⟨htile, hdrained⟩
    obtain ⟨tile, ownerId, s, htile', hset, haway, hs, hc⟩ := drainedFor_iff.mp hdrained
    rw [htile] at htile'
    rw [← Option.some.inj htile'] at hset haway hs
    -- the stamp names a tower, and the tower is the caster's and records the tile
    obtain ⟨observatoryKey, hobs, hstamp⟩ := carriesStamp_of_drained htile haway hs hc
    obtain ⟨htower, hrecord⟩ := (hstep entry.1 observatoryKey casterId).mp hstamp
    exact ⟨observatoryKey, world.towers_listed casterId observatoryKey htower,
      mem_recordedTileKeys_of_records hrecord, htile,
      isDrainedThrough_iff.mpr ⟨ownerId, s, hset, haway, hs, hc, hobs⟩⟩

/-! ## §5. One value a tile. -/

def tileValue (world : SlotWorld W) (entry : TileKey W × SupplyTile W) : ResourceSlotTotals :=
  match entry.2.ownerId with
  | some ownerId =>
      tileSlots (radiusStructureKeysForSettledTiles (settledTilesForPlayer world ownerId))
        (world.fishFoodSlotBonusForPlayer ownerId) entry
  | none => emptyResourceSlotTotals

def valueAt (world : SlotWorld W) (r : SlotResource) (key : TileKey W) : ℕ :=
  (world.tiles.get key).elim 0 fun tile => tileValue world (key, tile) r

theorem ownerSlotsForTiles_apply {ownerId : PlayerId} {tiles : List (TileKey W × SupplyTile W)}
    (h : ∀ entry ∈ tiles, entry.2.ownerId = some ownerId) (r : SlotResource) :
    ownerSlotsForTiles world ownerId tiles r
      = (tiles.map fun entry => tileValue world entry r).sum := by
  unfold ownerSlotsForTiles
  rw [resourceSlotSupplyForPlayer_apply]
  congr 1
  refine List.map_congr_left (fun entry hentry => ?_)
  unfold tileValue
  rw [h entry hentry]

theorem groupByOwner_owners (entries : List (TileKey W × SupplyTile W)) :
    ∀ m : InsertionMap PlayerId (List (TileKey W × SupplyTile W)),
      (∀ ownerId l, m.get ownerId = some l → ∀ entry ∈ l, entry.2.ownerId = some ownerId) →
      ∀ ownerId l, (entries.foldl groupByOwner m).get ownerId = some l →
        ∀ entry ∈ l, entry.2.ownerId = some ownerId := by
  induction entries with
  | nil =>
      intro m h
      exact h
  | cons e entries ih =>
      intro m h
      apply ih
      intro ownerId l hl entry hentry
      unfold groupByOwner at hl
      cases hown : e.2.ownerId with
      | none =>
          rw [hown] at hl
          exact h ownerId l hl entry hentry
      | some o =>
          rw [hown] at hl
          dsimp only at hl
          rw [InsertionMap.get_set] at hl
          by_cases ho : o = ownerId
          · subst ho
            rw [if_pos rfl] at hl
            rw [← Option.some.inj hl] at hentry
            rcases List.mem_append.mp hentry with hentry | hentry
            · cases hget : m.get o with
              | none =>
                  rw [hget] at hentry
                  cases hentry
              | some old =>
                  rw [hget] at hentry
                  exact h o old hget entry hentry
            · rw [List.mem_singleton.mp hentry]
              exact hown
          · rw [if_neg ho] at hl
            exact h ownerId l hl entry hentry

theorem total_groupByOwner (value : TileKey W × SupplyTile W → ℕ)
    (entries : List (TileKey W × SupplyTile W)) :
    ∀ m : InsertionMap PlayerId (List (TileKey W × SupplyTile W)),
      (∀ entry ∈ entries, entry.2.ownerId.isSome = true) →
      (entries.foldl groupByOwner m).total (fun _ l => (l.map value).sum)
        = m.total (fun _ l => (l.map value).sum) + (entries.map value).sum := by
  induction entries with
  | nil =>
      intro m _
      rfl
  | cons e entries ih =>
      intro m hown
      obtain ⟨o, ho⟩ := Option.isSome_iff_exists.mp (hown e List.mem_cons_self)
      have hstep : groupByOwner m e = m.set o ((m.get o).getD [] ++ [e]) := by
        unfold groupByOwner
        rw [ho]
      have hset := m.total_set o ((m.get o).getD [] ++ [e]) (fun _ l => (l.map value).sum)
      have hshare : m.share (fun _ l => (l.map value).sum) o
          = (((m.get o).getD []).map value).sum := by
        unfold InsertionMap.share
        cases m.get o with
        | none => rfl
        | some l => rfl
      rw [List.foldl_cons, ih _ (fun entry hentry => hown entry (List.mem_cons_of_mem e hentry)),
        hstep, List.map_cons, List.sum_cons]
      rw [hshare, List.map_append, List.sum_append, List.map_singleton, List.sum_singleton] at hset
      omega

/-- **What comes in is the sum over the drained tiles.** -/
theorem siphonedInSlotsForPlayer_apply
    (howned : ∀ entry ∈ siphonedResourceTilesForPlayer world playerId,
      entry.2.ownerId.isSome = true) (r : SlotResource) :
    siphonedInSlotsForPlayer world playerId r
      = ((siphonedResourceTilesForPlayer world playerId).map fun entry =>
          tileValue world entry r).sum := by
  have htotal := total_groupByOwner (fun entry => tileValue world entry r)
    (siphonedResourceTilesForPlayer world playerId) .empty howned
  have howners := groupByOwner_owners (siphonedResourceTilesForPlayer world playerId)
    .empty (fun ownerId l h => (by cases h))
  unfold siphonedInSlotsForPlayer
  rw [Loops.foldl_add (fun totals : ResourceSlotTotals => totals r) (fun _ _ => rfl)]
  rw [InsertionMap.total_empty, Nat.zero_add] at htotal
  rw [← htotal]
  show 0 + _ = _
  rw [Nat.zero_add]
  unfold InsertionMap.total
  congr 1
  refine List.map_congr_left (fun e he => ?_)
  exact ownerSlotsForTiles_apply world
    (howners e.1 e.2 ((InsertionMap.mem_entries_iff _ e.1 e.2).mp he)) r

/-! ## §6. A player's supply, tile by tile. -/

/-- The tiles a player's supply counts, in the order it counts them. -/
def countedTiles (world : SlotWorld W) (playerId : PlayerId) : List (TileKey W × SupplyTile W) :=
  keptTiles world playerId ++ siphonedResourceTilesForPlayer world playerId

def grantSlots (world : SlotWorld W) (playerId : PlayerId) : ResourceSlotTotals :=
  (world.grantsForPlayer playerId).foldl ResourceSlotTotals.addGrant emptyResourceSlotTotals

theorem mem_keptTiles {world : SlotWorld W} {playerId : PlayerId} :
    entry ∈ keptTiles world playerId
      ↔ world.tiles.get entry.1 = some entry.2 ∧ settledOwner world.tiles entry.1 = some playerId
        ∧ drainedFor world.tiles entry.1 = none := by
  unfold keptTiles
  rw [List.mem_filter, mem_settledTilesForPlayer, Bool.not_eq_true']
  constructor
  · rintro ⟨⟨htile, hset⟩, hkept⟩
    have hown : settledOwner world.tiles entry.1 = some playerId :=
      settledOwner_iff.mpr ⟨entry.2, htile, hset⟩
    refine ⟨htile, hown, ?_⟩
    unfold drainedFor
    rw [htile, Option.bind_some, hown, Option.bind_some, hkept]
    rfl
  · rintro ⟨htile, hown, hno⟩
    obtain ⟨tile, htile', hset⟩ := settledOwner_iff.mp hown
    rw [htile] at htile'
    rw [← Option.some.inj htile'] at hset
    refine ⟨⟨htile, hset⟩, ?_⟩
    by_contra haway
    rw [Bool.not_eq_false] at haway
    -- a tile siphoned away carries the stamp of some caster
    obtain ⟨s, hs⟩ : ∃ s, entry.2.sabotage = some s := by
      unfold isResourceTileSiphonedAway at haway
      cases hs : entry.2.sabotage with
      | none =>
          rw [hs] at haway
          simp at haway
      | some s => exact ⟨s, rfl⟩
    rw [drainedFor_iff.mpr ⟨entry.2, playerId, s, htile, hset, haway, hs, rfl⟩] at hno
    cases hno

/-- **Nobody counts a tile twice.** -/
theorem nodup_countedTiles {world : SlotWorld W} (hstep : Siphon.InStep (siphonTiles world.tiles))
    (playerId : PlayerId) : ((countedTiles world playerId).map Prod.fst).Nodup := by
  unfold countedTiles
  rw [List.map_append, List.nodup_append]
  refine ⟨?_, nodup_siphonedResourceTilesForPlayer world playerId, ?_⟩
  · unfold keptTiles
    exact (nodup_settledTilesForPlayer world playerId).sublist (List.filter_sublist.map Prod.fst)
  · intro a ha b hb hab
    subst hab
    obtain ⟨kept, hkept, rfl⟩ := List.mem_map.mp ha
    obtain ⟨drained, hdrained, hkey⟩ := List.mem_map.mp hb
    have hno := (mem_keptTiles.mp hkept).2.2
    have hyes := ((mem_siphonedResourceTilesForPlayer hstep).mp hdrained).2
    rw [hkey, hno] at hyes
    cases hyes

/-- **A player's supply counts the tiles that count for the player.** -/
theorem mem_countedTiles {world : SlotWorld W} (hstep : Siphon.InStep (siphonTiles world.tiles))
    {playerId : PlayerId} :
    entry ∈ countedTiles world playerId
      ↔ world.tiles.get entry.1 = some entry.2 ∧ countsFor world.tiles entry.1 = some playerId := by
  unfold countedTiles countsFor
  rw [List.mem_append, mem_keptTiles, mem_siphonedResourceTilesForPlayer hstep,
    Option.or_eq_some_iff]
  constructor
  · rintro (⟨htile, hown, hno⟩ | ⟨htile, hdrained⟩)
    · exact ⟨htile, Or.inr ⟨hno, hown⟩⟩
    · exact ⟨htile, Or.inl hdrained⟩
  · rintro ⟨htile, hdrained | ⟨hno, hown⟩⟩
    · exact Or.inr ⟨htile, hdrained⟩
    · exact Or.inl ⟨htile, hown, hno⟩

theorem sum_tileValue {world : SlotWorld W} {l : List (TileKey W × SupplyTile W)}
    (hnodup : (l.map Prod.fst).Nodup)
    (hread : ∀ entry ∈ l, world.tiles.get entry.1 = some entry.2) (r : SlotResource) :
    (l.map fun entry => tileValue world entry r).sum
      = ∑ key ∈ (l.map Prod.fst).toFinset, valueAt world r key := by
  rw [List.sum_toFinset _ hnodup, List.map_map]
  congr 1
  refine List.map_congr_left (fun entry hentry => ?_)
  show _ = valueAt world r entry.1
  unfold valueAt
  rw [hread entry hentry]
  rfl

/-- **A player's supply**: the grants, and the value of every tile that
counts for the player. -/
theorem supply_eq {world : SlotWorld W} (hstep : Siphon.InStep (siphonTiles world.tiles))
    (playerId : PlayerId) (r : SlotResource) :
    resourceSlotSupplyWithSiphonTransfer world playerId r
      = grantSlots world playerId r
        + ∑ key with countsFor world.tiles key = some playerId, valueAt world r key := by
  have hread : ∀ entry ∈ countedTiles world playerId, world.tiles.get entry.1 = some entry.2 :=
    fun entry hentry => ((mem_countedTiles hstep).mp hentry).1
  have hkeys : ((countedTiles world playerId).map Prod.fst).toFinset
      = Finset.univ.filter fun key => countsFor world.tiles key = some playerId := by
    ext key
    rw [List.mem_toFinset, List.mem_map, Finset.mem_filter]
    constructor
    · rintro ⟨entry, hentry, rfl⟩
      exact ⟨Finset.mem_univ _, ((mem_countedTiles hstep).mp hentry).2⟩
    · rintro ⟨-, hcounts⟩
      obtain ⟨tile, htile⟩ : ∃ tile, world.tiles.get key = some tile := by
        cases hget : world.tiles.get key with
        | some tile => exact ⟨tile, rfl⟩
        | none =>
            unfold countsFor drainedFor settledOwner at hcounts
            rw [hget] at hcounts
            cases hcounts
      exact ⟨(key, tile), (mem_countedTiles hstep).mpr ⟨htile, hcounts⟩, rfl⟩
  have hkept : ∀ entry ∈ keptTiles world playerId, entry.2.ownerId = some playerId := by
    intro entry hentry
    unfold keptTiles at hentry
    have hset := (mem_settledTilesForPlayer.mp (List.mem_filter.mp hentry).1).2
    unfold isSettledOf at hset
    simp only [Bool.and_eq_true, decide_eq_true_eq] at hset
    exact hset.1
  have howned : ∀ entry ∈ siphonedResourceTilesForPlayer world playerId,
      entry.2.ownerId.isSome = true := by
    intro entry hentry
    obtain ⟨htile, hdrained⟩ := (mem_siphonedResourceTilesForPlayer hstep).mp hentry
    obtain ⟨tile, ownerId, _, htile', hset, _⟩ := drainedFor_iff.mp hdrained
    rw [htile] at htile'
    rw [← Option.some.inj htile'] at hset
    unfold isSettledOf at hset
    simp only [Bool.and_eq_true, decide_eq_true_eq] at hset
    rw [hset.1]
    rfl
  rw [← hkeys, ← sum_tileValue (nodup_countedTiles hstep playerId) hread]
  unfold countedTiles
  rw [List.map_append, List.sum_append, ← siphonedInSlotsForPlayer_apply world playerId howned,
    ← ownerSlotsForTiles_apply world hkept]
  show (world.grantsForPlayer playerId).foldl ResourceSlotTotals.addGrant
      (ownerSlotsForTiles world playerId (keptTiles world playerId)) r
    + siphonedInSlotsForPlayer world playerId r = _
  rw [Loops.foldl_add_from (o := emptyResourceSlotTotals)
    (fun totals : ResourceSlotTotals => totals r) rfl (fun _ _ => rfl)]
  unfold grantSlots
  omega

/-! ## §7. The same world with no siphon active. -/

/-- The tile without its siphon stamp, its tower without a record. -/
def SupplyTile.unsiphoned (tile : SupplyTile W) : SupplyTile W :=
  { tile with
    sabotage := tile.sabotage.filter fun s => s.observatoryTileKey.isNone
    observatory := tile.observatory.map fun observatory => { observatory with siphon := none } }

theorem get_unsiphoned (tiles : SupplyTiles W) (key : TileKey W) :
    (siphonTiles (tiles.mapValues SupplyTile.unsiphoned)).get key
      = (tiles.get key).map fun tile => tile.unsiphoned.toTile := by
  rw [get_siphonTiles, InsertionMap.get_mapValues, Option.map_map]
  rfl

theorem holdsTower_unsiphoned {key : TileKey W} {playerId : PlayerId}
    (h : HoldsTower (siphonTiles (tiles.mapValues SupplyTile.unsiphoned)) key playerId) :
    HoldsTower (siphonTiles tiles) key playerId := by
  obtain ⟨tower, htower, hcan⟩ := h
  rw [get_unsiphoned] at htower
  obtain ⟨tile, htile, rfl⟩ := Option.map_eq_some_iff.mp htower
  refine ⟨tile.toTile, ?_, ?_⟩
  · rw [get_siphonTiles, htile]
    rfl
  · rw [Siphon.observatoryCanHoldSiphon_iff] at hcan ⊢
    obtain ⟨observatory, hobs, howner, hstatus, hland⟩ := hcan
    obtain ⟨original, horiginal, rfl⟩ := Option.map_eq_some_iff.mp hobs
    exact ⟨original, horiginal, howner, hstatus, hland⟩

theorem territory_lists_unsiphoned (key : TileKey W) (tile : SupplyTile W)
    (htile : (world.tiles.mapValues SupplyTile.unsiphoned).get key = some tile)
    (howner : tile.ownerId = some playerId) : key ∈ world.territoryTileKeys playerId := by
  rw [InsertionMap.get_mapValues] at htile
  obtain ⟨original, horiginal, rfl⟩ := Option.map_eq_some_iff.mp htile
  exact world.territory_lists playerId key original horiginal howner

def withoutSiphons (world : SlotWorld W) : SlotWorld W :=
  { world with
    tiles := world.tiles.mapValues SupplyTile.unsiphoned
    territory_lists := territory_lists_unsiphoned world
    towers_listed := fun playerId key h =>
      world.towers_listed playerId key (holdsTower_unsiphoned h) }

theorem get_withoutSiphons (key : TileKey W) :
    (withoutSiphons world).tiles.get key = (world.tiles.get key).map SupplyTile.unsiphoned :=
  InsertionMap.get_mapValues world.tiles SupplyTile.unsiphoned key

theorem inStep_withoutSiphons : Siphon.InStep (siphonTiles (withoutSiphons world).tiles) := by
  intro tileKey observatoryKey casterId
  constructor
  · rintro ⟨tile, s, htile, hs, hobs, -⟩
    exfalso
    have hget := (get_unsiphoned world.tiles tileKey).symm.trans htile
    obtain ⟨original, -, rfl⟩ := Option.map_eq_some_iff.mp hget
    have htimed := (Option.filter_eq_some_iff.mp hs).2
    rw [hobs] at htimed
    cases htimed
  · rintro ⟨-, tower, observatory, siphon, htower, hobs, -, hsiphon, -⟩
    exfalso
    have hget := (get_unsiphoned world.tiles observatoryKey).symm.trans htower
    obtain ⟨original, -, rfl⟩ := Option.map_eq_some_iff.mp hget
    obtain ⟨originalTower, -, rfl⟩ := Option.map_eq_some_iff.mp hobs
    cases hsiphon

theorem settledOwner_withoutSiphons (key : TileKey W) :
    settledOwner (withoutSiphons world).tiles key = settledOwner world.tiles key := by
  unfold settledOwner
  rw [get_withoutSiphons]
  cases world.tiles.get key with
  | none => rfl
  | some tile => rfl

theorem countsFor_withoutSiphons (key : TileKey W) :
    countsFor (withoutSiphons world).tiles key = settledOwner world.tiles key := by
  have hno : drainedFor (withoutSiphons world).tiles key = none := by
    cases hdrained : drainedFor (withoutSiphons world).tiles key with
    | none => rfl
    | some casterId =>
        exfalso
        obtain ⟨tile, ownerId, s, htile, -, haway, hs, -⟩ := drainedFor_iff.mp hdrained
        rw [get_withoutSiphons] at htile
        obtain ⟨original, -, rfl⟩ := Option.map_eq_some_iff.mp htile
        have htimed := (Option.filter_eq_some_iff.mp hs).2
        unfold isResourceTileSiphonedAway at haway
        rw [hs] at haway
        simp only [Option.any_some, Bool.and_eq_true] at haway
        rw [Option.isNone_iff_eq_none.mp htimed] at haway
        exact absurd haway.2.1 (by simp)
  unfold countsFor
  rw [hno, Option.none_or, settledOwner_withoutSiphons]

theorem entryWhere_withoutSiphons (key : TileKey W) :
    entryWhere (withoutSiphons world).tiles (isSettledOf playerId) key
      = (entryWhere world.tiles (isSettledOf playerId) key).map
          fun entry => (entry.1, entry.2.unsiphoned) := by
  unfold entryWhere
  rw [get_withoutSiphons]
  cases world.tiles.get key with
  | none => rfl
  | some tile =>
      rw [Option.map_some, Option.filter_some, Option.filter_some]
      by_cases hset : isSettledOf playerId tile = true
      · rw [if_pos hset, if_pos (show isSettledOf playerId tile.unsiphoned = true from hset)]
        rfl
      · rw [if_neg hset, if_neg (show ¬ isSettledOf playerId tile.unsiphoned = true from hset)]
        rfl

theorem settledTiles_withoutSiphons :
    settledTilesForPlayer (withoutSiphons world) playerId
      = (settledTilesForPlayer world playerId).map
          fun entry => (entry.1, entry.2.unsiphoned) := by
  unfold settledTilesForPlayer
  rw [List.map_filterMap]
  exact List.filterMap_congr fun key _ => entryWhere_withoutSiphons world playerId key

theorem radiusStructureKeys_withoutSiphons :
    radiusStructureKeysForSettledTiles (settledTilesForPlayer (withoutSiphons world) playerId)
      = radiusStructureKeysForSettledTiles (settledTilesForPlayer world playerId) := by
  rw [settledTiles_withoutSiphons]
  unfold radiusStructureKeysForSettledTiles
  rw [List.foldl_map]
  rfl

/-- **A tile is worth the same with or without a stamp.** -/
theorem valueAt_withoutSiphons (r : SlotResource) (key : TileKey W) :
    valueAt (withoutSiphons world) r key = valueAt world r key := by
  unfold valueAt
  rw [get_withoutSiphons]
  cases world.tiles.get key with
  | none => rfl
  | some tile =>
      show tileValue (withoutSiphons world) (key, tile.unsiphoned) r = tileValue world (key, tile) r
      unfold tileValue
      cases hown : tile.ownerId with
      | none =>
          have hown' : tile.unsiphoned.ownerId = none := hown
          simp only [hown']
      | some ownerId =>
          have hown' : tile.unsiphoned.ownerId = some ownerId := hown
          simp only [hown', radiusStructureKeys_withoutSiphons]
          rfl

/-! ## §8. Conservation. -/

theorem sum_by_player (players : Finset PlayerId) (holder : TileKey W → Option PlayerId)
    (hholder : ∀ key playerId, holder key = some playerId → playerId ∈ players)
    (value : TileKey W → ℕ) :
    ∑ playerId ∈ players, ∑ key with holder key = some playerId, value key
      = ∑ key with (holder key).isSome = true, value key := by
  rw [← Finset.sum_biUnion]
  · congr 1
    ext key
    simp only [Finset.mem_biUnion, Finset.mem_filter, Finset.mem_univ, true_and]
    constructor
    · rintro ⟨playerId, -, hkey⟩
      rw [hkey]
      rfl
    · intro hsome
      obtain ⟨playerId, hkey⟩ := Option.isSome_iff_exists.mp hsome
      exact ⟨playerId, hholder key playerId hkey, hkey⟩
  · intro a _ b _ hab
    apply Finset.disjoint_left.mpr
    intro key ha hb
    rw [Finset.mem_filter] at ha hb
    exact hab (Option.some.inj (ha.2.symm.trans hb.2))

/-- With stamps and records in step, the supplies of any players who include
those a tile counts for add up to their grants and every settled tile once. -/
theorem sum_supply {world : SlotWorld W} (hstep : Siphon.InStep (siphonTiles world.tiles))
    {players : Finset PlayerId} (hplayers : ∀ key playerId,
      countsFor world.tiles key = some playerId → playerId ∈ players) (r : SlotResource) :
    ∑ playerId ∈ players, resourceSlotSupplyWithSiphonTransfer world playerId r
      = ∑ playerId ∈ players, grantSlots world playerId r
        + ∑ key with (settledOwner world.tiles key).isSome = true, valueAt world r key := by
  calc ∑ playerId ∈ players, resourceSlotSupplyWithSiphonTransfer world playerId r
      = ∑ playerId ∈ players, (grantSlots world playerId r
          + ∑ key with countsFor world.tiles key = some playerId, valueAt world r key) :=
        Finset.sum_congr rfl fun playerId _ => supply_eq hstep playerId r
    _ = ∑ playerId ∈ players, grantSlots world playerId r
          + ∑ key with (countsFor world.tiles key).isSome = true, valueAt world r key := by
        rw [Finset.sum_add_distrib, sum_by_player players _ hplayers]
    _ = _ := by simp only [countsFor_isSome]

/-- **The transfer conserves slots.**  With stamps and records in step, the
supplies of any players who include the tiles' owners (and so the casters,
who own their towers) sum to what they would with no siphon active: the
players' grants and the value of every settled tile.  No supply counts a tile
twice. -/
theorem siphonTransfer_conserves (world : SlotWorld W)
    (hstep : Siphon.InStep (siphonTiles world.tiles)) (players : Finset PlayerId)
    (howners : ∀ key tile ownerId, world.tiles.get key = some tile →
      tile.ownerId = some ownerId → ownerId ∈ players) :
    (∀ resource, ∑ playerId ∈ players,
          resourceSlotSupplyWithSiphonTransfer world playerId resource
        = ∑ playerId ∈ players,
            resourceSlotSupplyWithSiphonTransfer (withoutSiphons world) playerId resource
      ∧ ∑ playerId ∈ players,
            resourceSlotSupplyWithSiphonTransfer (withoutSiphons world) playerId resource
        = ∑ playerId ∈ players, grantSlots world playerId resource
          + ∑ key with (settledOwner world.tiles key).isSome = true, valueAt world resource key)
      ∧ ∀ playerId, ((keptTiles world playerId
          ++ siphonedResourceTilesForPlayer world playerId).map Prod.fst).Nodup := by
  refine ⟨?_, nodup_countedTiles hstep⟩
  intro resource
  have hsettled : ∀ key playerId, settledOwner world.tiles key = some playerId →
      playerId ∈ players := by
    intro key playerId hown
    obtain ⟨tile, htile, hset⟩ := settledOwner_iff.mp hown
    unfold isSettledOf at hset
    simp only [Bool.and_eq_true, decide_eq_true_eq] at hset
    exact howners key tile playerId htile hset.1
  -- the caster owns the tile its tower stands on
  have hcounts : ∀ key playerId, countsFor world.tiles key = some playerId →
      playerId ∈ players := by
    intro key playerId hcounts
    unfold countsFor at hcounts
    rcases Option.or_eq_some_iff.mp hcounts with hdrained | ⟨-, hown⟩
    · obtain ⟨tile, ownerId, s, htile, -, haway, hs, hc⟩ := drainedFor_iff.mp hdrained
      obtain ⟨observatoryKey, -, hstamp⟩ := carriesStamp_of_drained htile haway hs hc
      obtain ⟨⟨tower, htower, hcan⟩, -⟩ := (hstep key observatoryKey playerId).mp hstamp
      obtain ⟨_, _, _, _, hland⟩ := Siphon.observatoryCanHoldSiphon_iff.mp hcan
      rw [get_siphonTiles] at htower
      obtain ⟨land, hget, rfl⟩ := Option.map_eq_some_iff.mp htower
      exact howners observatoryKey land playerId hget hland
    · exact hsettled key playerId hown
  have hwithout : ∑ playerId ∈ players,
        resourceSlotSupplyWithSiphonTransfer (withoutSiphons world) playerId resource
      = ∑ playerId ∈ players, grantSlots world playerId resource
        + ∑ key with (settledOwner world.tiles key).isSome = true, valueAt world resource key := by
    have hcounts' : ∀ key playerId, countsFor (withoutSiphons world).tiles key = some playerId →
        playerId ∈ players := by
      simpa only [countsFor_withoutSiphons] using hsettled
    have hsum := sum_supply (inStep_withoutSiphons world) hcounts' resource
    have hsettledness : ∀ key, (settledOwner (withoutSiphons world).tiles key).isSome
        = (settledOwner world.tiles key).isSome := fun key => by
      rw [← countsFor_isSome, countsFor_withoutSiphons]
    simp only [hsettledness, valueAt_withoutSiphons] at hsum
    exact hsum
  exact ⟨(sum_supply hstep hcounts resource).trans hwithout.symm, hwithout⟩

/-! ## §9. A drained farm. -/

def siphoningTower : SupplyTile smallestWorld where
  terrain := .LAND
  ownerId := some playerOne
  town := false
  resource := false
  naturalWonder := none
  sabotage := none
  observatory := some ⟨playerOne, .active, none, none, none,
    some ⟨wrappedTile smallestWorld 20 20, [wrappedTile smallestWorld 20 20], 0⟩⟩
  ownershipState := some .SETTLED
  resourceType := none
  resource_eq := rfl
  economicStructure := none

def drainedFarm : SupplyTile smallestWorld where
  terrain := .LAND
  ownerId := some playerTwo
  town := false
  resource := true
  naturalWonder := none
  sabotage := some ⟨playerOne, Siphon.SIPHON_UNTIL_CANCELLED_ENDS_AT, 0,
    some (wrappedTile smallestWorld 10 10)⟩
  observatory := none
  ownershipState := some .SETTLED
  resourceType := some .FARM
  resource_eq := rfl
  economicStructure := some ⟨playerTwo, some .HYDROGARDEN, .active, none, false, none⟩

def drainedFarmTiles : SupplyTiles smallestWorld :=
  ((InsertionMap.empty).set (wrappedTile smallestWorld 10 10) siphoningTower).set
    (wrappedTile smallestWorld 20 20) drainedFarm

theorem get_drainedFarmTiles {key : TileKey smallestWorld} {tile : SupplyTile smallestWorld}
    (h : drainedFarmTiles.get key = some tile) :
    (key = wrappedTile smallestWorld 20 20 ∧ tile = drainedFarm)
      ∨ (key = wrappedTile smallestWorld 10 10 ∧ tile = siphoningTower) := by
  unfold drainedFarmTiles at h
  rw [InsertionMap.get_set, InsertionMap.get_set] at h
  split at h
  next hk => exact Or.inl ⟨hk.symm, (Option.some.inj h).symm⟩
  next =>
    split at h
    next hk => exact Or.inr ⟨hk.symm, (Option.some.inj h).symm⟩
    next => cases h

/-- Both keys, in the order of the map. -/
def drainedFarmKeys : List (TileKey smallestWorld) :=
  [wrappedTile smallestWorld 10 10, wrappedTile smallestWorld 20 20]

theorem drainedFarmKeys_nodup : drainedFarmKeys.Nodup := by decide

theorem mem_drainedFarmKeys {key : TileKey smallestWorld} {tile : SupplyTile smallestWorld}
    (h : drainedFarmTiles.get key = some tile) : key ∈ drainedFarmKeys := by
  unfold drainedFarmKeys
  rcases get_drainedFarmTiles h with ⟨rfl, -⟩ | ⟨rfl, -⟩
  · simp
  · simp

theorem drainedFarm_tower_listed {key : TileKey smallestWorld} {playerId : PlayerId}
    (h : HoldsTower (siphonTiles drainedFarmTiles) key playerId) : key ∈ drainedFarmKeys := by
  obtain ⟨tower, htower, -⟩ := h
  rw [get_siphonTiles] at htower
  obtain ⟨tile, htile, -⟩ := Option.map_eq_some_iff.mp htower
  exact mem_drainedFarmKeys htile

def drainedFarmWorld : SlotWorld smallestWorld where
  tiles := drainedFarmTiles
  territoryTileKeys := fun _ => drainedFarmKeys
  territory_nodup := fun _ => drainedFarmKeys_nodup
  territory_lists := fun _ _ _ htile _ => mem_drainedFarmKeys htile
  activeObservatoryKeysForPlayer := fun _ => drainedFarmKeys
  towers_listed := fun _ _ h => drainedFarm_tower_listed h
  grantsForPlayer := fun _ => []
  fishFoodSlotBonusForPlayer := fun _ => 0

theorem inStep_drainedFarm : Siphon.InStep (siphonTiles drainedFarmWorld.tiles) := by
  have hread : ∀ key, (siphonTiles drainedFarmTiles).get key
      = (drainedFarmTiles.get key).map SupplyTile.toTile := get_siphonTiles drainedFarmTiles
  intro tileKey observatoryKey casterId
  constructor
  · rintro ⟨tile, s, htile, hs, hobs, hc⟩
    obtain ⟨original, horiginal, rfl⟩ := Option.map_eq_some_iff.mp ((hread tileKey).symm.trans htile)
    rcases get_drainedFarmTiles horiginal with ⟨rfl, rfl⟩ | ⟨rfl, rfl⟩
    · rw [← Option.some.inj hs] at hobs hc
      rw [← Option.some.inj hobs, ← hc]
      refine ⟨⟨siphoningTower.toTile, ?_, by decide⟩, ?_⟩
      · exact hread (wrappedTile smallestWorld 10 10)
      · exact ⟨siphoningTower.toTile, _, _, hread (wrappedTile smallestWorld 10 10), rfl, rfl, rfl,
          List.mem_singleton.mpr rfl⟩
    · cases hs
  · rintro ⟨-, tower, observatory, siphon, htower, hobs, hc, hsiphon, hmem⟩
    obtain ⟨original, horiginal, rfl⟩ :=
      Option.map_eq_some_iff.mp ((hread observatoryKey).symm.trans htower)
    rcases get_drainedFarmTiles horiginal with ⟨rfl, rfl⟩ | ⟨rfl, rfl⟩
    · cases hobs
    · rw [← Option.some.inj hobs] at hc hsiphon
      rw [← Option.some.inj hsiphon] at hmem
      rw [List.mem_singleton.mp hmem, ← hc]
      exact ⟨drainedFarm.toTile, _, hread (wrappedTile smallestWorld 20 20), rfl, rfl, rfl⟩

/-- The farm's slots are the caster's now, and the sum is what it was. -/
theorem siphonTransfer_conserves_drainedFarm :
    ∑ playerId ∈ {playerOne, playerTwo},
        resourceSlotSupplyWithSiphonTransfer drainedFarmWorld playerId .FOOD
      = ∑ playerId ∈ {playerOne, playerTwo},
          resourceSlotSupplyWithSiphonTransfer (withoutSiphons drainedFarmWorld) playerId .FOOD :=
  (siphonTransfer_conserves drainedFarmWorld inStep_drainedFarm {playerOne, playerTwo} (by
    intro key tile ownerId htile hown
    rcases get_drainedFarmTiles htile with ⟨-, rfl⟩ | ⟨-, rfl⟩
    · rw [← Option.some.inj hown]
      simp
    · rw [← Option.some.inj hown]
      simp)).1 .FOOD |>.1

/-- What the two get there. -/
example : resourceSlotSupplyWithSiphonTransfer drainedFarmWorld playerOne .FOOD = 3
    ∧ resourceSlotSupplyWithSiphonTransfer drainedFarmWorld playerTwo .FOOD = 0 := by
  decide +kernel

end BorderEmpires.ResourceSlots
