/-
  BorderEmpires.Indexes.Upkeep
  **UPKEEP, CARRIED BY DIFFERENCE OR BUILT FROM THE TILES.**

  A player's upkeep per minute is a plain sum over their settled tiles.
  The cache subtracts the tile that was and adds the tile that comes; a
  read now and then drops the cache and builds it again, which in exact
  arithmetic changes nothing.
-/
import Mathlib.Algebra.BigOperators.Group.List.Basic
import Mathlib.Algebra.Group.Pi.Basic
import BorderEmpires.Indexes.OwnerIndexes

namespace BorderEmpires.Indexes

open Structures (StructureType)
open Tally (total)

variable {W : WorldSize}

/-! ## §1. Contributions. -/

inductive UpkeepField where
  | gold | food | titanium | crystal | umbrite
  deriving DecidableEq

/-- The record, by its fields; zero is `emptyUpkeepAccrualSnapshot()`. -/
abbrev UpkeepAccrualSnapshot := UpkeepField → ℚ

def UPKEEP_MINUTES_PER_DAY : ℚ := 1440

def goldUpkeepPerDay : StructureType → ℚ
  | .UMBRITE_WORKS => 30
  | .HIGH_YIELD_UMBRITE_WORKS => 45
  | .TITANIUM_WORKS => 30
  | .HIGH_YIELD_TITANIUM_WORKS => 45
  | .AETHER_CONDENSER => 40
  | .HIGH_YIELD_AETHER_CONDENSER => 60
  | _ => 0

def townFoodUpkeepPerMinute (_populationTier : Option Manpower.TownTier) : ℚ := 0

def tileUpkeepContribution (ownerId : PlayerId) (tile : IndexTile) : UpkeepAccrualSnapshot :=
  if tile.ownerId ≠ some ownerId ∨ tile.isSettled = false then 0
  else
    fun
    | .gold =>
        ((tile.economicStructure.filter fun s =>
            decide (s.ownerId = ownerId) && decide (s.status = .active)).bind
          Structures.TileStructure.type).elim 0 fun type =>
            goldUpkeepPerDay type / UPKEEP_MINUTES_PER_DAY
    | .food => tile.town.elim 0 fun town => townFoodUpkeepPerMinute town.populationTier
    | .titanium => 0
    | .crystal => 0
    | .umbrite => 0

def addTileUpkeepToCache (cache : UpkeepAccrualSnapshot) (tile : IndexTile)
    (ownerId : PlayerId) : UpkeepAccrualSnapshot :=
  cache + tileUpkeepContribution ownerId tile

def removeTileUpkeepFromCache (cache : UpkeepAccrualSnapshot) (tile : IndexTile)
    (ownerId : PlayerId) : UpkeepAccrualSnapshot :=
  cache - tileUpkeepContribution ownerId tile

def buildUpkeepAccrualSnapshot (ownerId : PlayerId) (tiles : TileMap W) : UpkeepAccrualSnapshot :=
  tiles.entries.foldl
    (fun cache e =>
      if e.2.ownerId ≠ some ownerId ∨ e.2.isSettled = false then cache
      else addTileUpkeepToCache cache e.2 ownerId)
    0

theorem tileUpkeepContribution_of_ne {ownerId : PlayerId} {tile : IndexTile}
    (h : tile.ownerId ≠ some ownerId) : tileUpkeepContribution ownerId tile = 0 :=
  if_pos (Or.inl h)

theorem buildUpkeepAccrualSnapshot_eq (ownerId : PlayerId) (tiles : TileMap W) :
    buildUpkeepAccrualSnapshot ownerId tiles = total (tileUpkeepContribution ownerId) tiles := by
  have hfold : ∀ (l : List (TileKey W × IndexTile)) (cache : UpkeepAccrualSnapshot),
      l.foldl (fun cache e =>
          if e.2.ownerId ≠ some ownerId ∨ e.2.isSettled = false then cache
          else addTileUpkeepToCache cache e.2 ownerId) cache
        = cache + (l.map fun e => tileUpkeepContribution ownerId e.2).sum := by
    intro l
    induction l with
    | nil =>
        intro cache
        simp
    | cons e rest ih =>
        intro cache
        rw [List.foldl_cons, ih, List.map_cons, List.sum_cons]
        by_cases hskip : e.2.ownerId ≠ some ownerId ∨ e.2.isSettled = false
        · have hzero : tileUpkeepContribution ownerId e.2 = 0 := if_pos hskip
          rw [if_pos hskip, hzero, zero_add]
        · rw [if_neg hskip, addTileUpkeepToCache, add_assoc]
  unfold buildUpkeepAccrualSnapshot
  rw [hfold, zero_add]
  rfl

/-! ## §2. The caches. -/

structure UpkeepCaches where
  /-- The ids of `players`. -/
  players : List PlayerId
  upkeepAccrualCacheByPlayer : InsertionMap PlayerId UpkeepAccrualSnapshot
  upkeepAccrualReadCountByPlayer : InsertionMap PlayerId ℕ

/-- Change the cache of the tile's owner, if they play and have one. -/
def changeOwnerCache (caches : UpkeepCaches) (tile : IndexTile)
    (change : UpkeepAccrualSnapshot → IndexTile → PlayerId → UpkeepAccrualSnapshot) :
    UpkeepCaches :=
  match tile.ownerId with
  | none => caches
  | some ownerId =>
      match caches.upkeepAccrualCacheByPlayer.get ownerId with
      | none => caches
      | some cache =>
          if ownerId ∈ caches.players then
            { caches with
              upkeepAccrualCacheByPlayer :=
                caches.upkeepAccrualCacheByPlayer.set ownerId (change cache tile ownerId) }
          else caches

/-- The fields of `economyRelevantTileFieldsChanged` that the books read,
compared by value. -/
def economyRelevantTileFieldsChanged (previous next : IndexTile) : Bool :=
  decide (previous.ownerId ≠ next.ownerId)
    || decide (previous.ownershipState ≠ next.ownershipState)
    || decide (previous.terrain ≠ next.terrain)
    || decide (previous.resource ≠ next.resource)
    || decide (previous.dockId ≠ next.dockId)
    || decide (previous.town ≠ next.town)
    || decide (previous.fort ≠ next.fort)
    || decide (previous.observatory ≠ next.observatory)
    || decide (previous.siegeBattery ≠ next.siegeBattery)
    || decide (previous.economicStructure ≠ next.economicStructure)

/-- The upkeep part of `refreshEconomyCachesForTileChange`; `otherwise` is
set when the two tiles differ in a field left out here, or hold equal
substructures that are not the same object. -/
def refreshEconomyCachesForTileChange (caches : UpkeepCaches) (previous : Option IndexTile)
    (next : IndexTile) (otherwise : Bool) : UpkeepCaches :=
  if previous.any (fun was => !economyRelevantTileFieldsChanged was next) && !otherwise then caches
  else
    let without := previous.elim caches fun was =>
      changeOwnerCache caches was removeTileUpkeepFromCache
    changeOwnerCache without next addTileUpkeepToCache

def UPKEEP_ACCRUAL_REBUILD_INTERVAL : ℕ := 256

/-- A player's cache is dropped when something else their upkeep depends
on changes. -/
def invalidateUpkeepAccrual (caches : UpkeepCaches) (playerId : PlayerId) : UpkeepCaches :=
  { caches with
    upkeepAccrualCacheByPlayer := caches.upkeepAccrualCacheByPlayer.erase playerId }

def countUpkeepRead (caches : UpkeepCaches) (playerId : PlayerId) : UpkeepCaches :=
  let reads := (caches.upkeepAccrualReadCountByPlayer.get playerId).getD 0 + 1
  let kept :=
    if reads % UPKEEP_ACCRUAL_REBUILD_INTERVAL = 0 then invalidateUpkeepAccrual caches playerId
    else caches
  { kept with
    upkeepAccrualReadCountByPlayer := caches.upkeepAccrualReadCountByPlayer.set playerId reads }

def cachedUpkeepAccrual (caches : UpkeepCaches) (tiles : TileMap W) (playerId : PlayerId) :
    UpkeepCaches × UpkeepAccrualSnapshot :=
  let counted := countUpkeepRead caches playerId
  match counted.upkeepAccrualCacheByPlayer.get playerId with
  | some cached => (counted, cached)
  | none =>
      let snapshot := buildUpkeepAccrualSnapshot playerId tiles
      ({ counted with
        upkeepAccrualCacheByPlayer := counted.upkeepAccrualCacheByPlayer.set playerId snapshot },
        snapshot)

/-- **Every cache holds what a build would.** -/
structure UpkeepInStep (caches : UpkeepCaches) (tiles : TileMap W) : Prop where
  known : ∀ playerId cache, caches.upkeepAccrualCacheByPlayer.get playerId = some cache →
    playerId ∈ caches.players
  built : ∀ playerId cache, caches.upkeepAccrualCacheByPlayer.get playerId = some cache →
    cache = buildUpkeepAccrualSnapshot playerId tiles

/-! ## §3. A tile write. -/

section Writes

variable {caches : UpkeepCaches} {tiles tiles' : TileMap W} {tile : IndexTile}
  {change : UpkeepAccrualSnapshot → IndexTile → PlayerId → UpkeepAccrualSnapshot}

theorem UpkeepInStep.changed (h : UpkeepInStep caches tiles)
    (howner : ∀ ownerId, tile.ownerId = some ownerId →
      change (buildUpkeepAccrualSnapshot ownerId tiles) tile ownerId
        = buildUpkeepAccrualSnapshot ownerId tiles')
    (hother : ∀ playerId, tile.ownerId ≠ some playerId →
      buildUpkeepAccrualSnapshot playerId tiles = buildUpkeepAccrualSnapshot playerId tiles') :
    UpkeepInStep (changeOwnerCache caches tile change) tiles' := by
  unfold changeOwnerCache
  cases hid : tile.ownerId with
  | none =>
      exact ⟨h.known, fun p cache hget =>
        (h.built p cache hget).trans (hother p (by simp [hid]))⟩
  | some ownerId =>
      dsimp only
      have hne : ∀ p, p ≠ ownerId →
          buildUpkeepAccrualSnapshot p tiles = buildUpkeepAccrualSnapshot p tiles' :=
        fun p hp => hother p (by simpa [hid] using Ne.symm hp)
      cases hcache : caches.upkeepAccrualCacheByPlayer.get ownerId with
      | none =>
          refine ⟨h.known, fun p cache hget => (h.built p cache hget).trans (hne p ?_)⟩
          rintro rfl
          rw [hcache] at hget
          cases hget
      | some cache =>
          dsimp only
          rw [if_pos (h.known ownerId cache hcache)]
          constructor
          · intro p cache' hget
            rw [InsertionMap.get_set] at hget
            split at hget
            · rename_i hp
              exact hp ▸ h.known ownerId cache hcache
            · exact h.known p cache' hget
          · intro p cache' hget
            rw [InsertionMap.get_set] at hget
            split at hget
            · rename_i hp
              subst hp
              rw [← Option.some.inj hget, h.built ownerId cache hcache]
              exact howner ownerId hid
            · rename_i hp
              exact (h.built p cache' hget).trans (hne p (Ne.symm hp))

theorem tileUpkeepContribution_congr {previous next : IndexTile}
    (h : economyRelevantTileFieldsChanged previous next = false) (ownerId : PlayerId) :
    tileUpkeepContribution ownerId previous = tileUpkeepContribution ownerId next := by
  simp only [economyRelevantTileFieldsChanged, Bool.or_eq_false_iff, decide_eq_false_iff_not,
    not_not] at h
  obtain ⟨⟨⟨⟨⟨⟨⟨⟨⟨howner, hstate⟩, -⟩, -⟩, -⟩, htown⟩, -⟩, -⟩, -⟩, heconomic⟩ := h
  unfold tileUpkeepContribution IndexTile.isSettled
  rw [howner, hstate, htown, heconomic]

/-- **One tile write keeps every cache equal to the build.** -/
theorem UpkeepInStep.refreshed (h : UpkeepInStep caches tiles) (tileKey : TileKey W)
    (next : IndexTile) (otherwise : Bool) :
    UpkeepInStep
      (refreshEconomyCachesForTileChange caches (tiles.get tileKey) next otherwise)
      (tiles.set tileKey next) := by
  have hset : ∀ ownerId, buildUpkeepAccrualSnapshot ownerId (tiles.set tileKey next)
      = buildUpkeepAccrualSnapshot ownerId (tiles.erase tileKey)
        + tileUpkeepContribution ownerId next := by
    intro ownerId
    rw [buildUpkeepAccrualSnapshot_eq, buildUpkeepAccrualSnapshot_eq, Tally.total_set]
  unfold refreshEconomyCachesForTileChange
  split
  · -- nothing that upkeep reads has changed
    rename_i hsame
    rw [Bool.and_eq_true] at hsame
    obtain ⟨was, hwas, hsame⟩ := (Option.any_eq_true _ _).mp hsame.1
    refine ⟨h.known, fun p cache hget => (h.built p cache hget).trans ?_⟩
    rw [hset, buildUpkeepAccrualSnapshot_eq, buildUpkeepAccrualSnapshot_eq,
      ← tileUpkeepContribution_congr (by simpa using hsame) p]
    exact (Tally.total_erase _ hwas).symm
  · have hwithout : UpkeepInStep
        ((tiles.get tileKey).elim caches fun was =>
          changeOwnerCache caches was removeTileUpkeepFromCache)
        (tiles.erase tileKey) := by
      cases hget : tiles.get tileKey with
      | none =>
          rw [InsertionMap.erase_of_get_none hget]
          exact h
      | some was =>
          refine h.changed (fun ownerId _ => ?_) (fun p hp => ?_)
          · rw [buildUpkeepAccrualSnapshot_eq, buildUpkeepAccrualSnapshot_eq,
              removeTileUpkeepFromCache, ← Tally.total_erase _ hget, add_sub_cancel_right]
          · rw [buildUpkeepAccrualSnapshot_eq, buildUpkeepAccrualSnapshot_eq,
              ← Tally.total_erase _ hget, tileUpkeepContribution_of_ne hp, add_zero]
    refine hwithout.changed (fun ownerId _ => (hset ownerId).symm) (fun p hp => ?_)
    rw [hset, tileUpkeepContribution_of_ne hp, add_zero]

end Writes

/-! ## §4. Reads and drops. -/

theorem UpkeepInStep.invalidated {caches : UpkeepCaches} {tiles : TileMap W}
    (h : UpkeepInStep caches tiles) (playerId : PlayerId) :
    UpkeepInStep (invalidateUpkeepAccrual caches playerId) tiles := by
  have hkept : ∀ p cache,
      (caches.upkeepAccrualCacheByPlayer.erase playerId).get p = some cache →
        caches.upkeepAccrualCacheByPlayer.get p = some cache := by
    intro p cache hget
    rw [InsertionMap.get_erase] at hget
    split at hget
    · cases hget
    · exact hget
  exact ⟨fun p cache hget => h.known p cache (hkept p cache hget),
    fun p cache hget => h.built p cache (hkept p cache hget)⟩

theorem countUpkeepRead_inStep {caches : UpkeepCaches} {tiles : TileMap W}
    (h : UpkeepInStep caches tiles) (playerId : PlayerId) :
    UpkeepInStep (countUpkeepRead caches playerId) tiles := by
  unfold countUpkeepRead
  dsimp only
  split
  · have hdropped := h.invalidated playerId
    exact ⟨hdropped.known, hdropped.built⟩
  · exact ⟨h.known, h.built⟩

theorem countUpkeepRead_players (caches : UpkeepCaches) (playerId : PlayerId) :
    (countUpkeepRead caches playerId).players = caches.players := by
  unfold countUpkeepRead
  dsimp only
  split <;> rfl

/-- **A read keeps the caches.** -/
theorem UpkeepInStep.read {caches : UpkeepCaches} {tiles : TileMap W}
    (h : UpkeepInStep caches tiles) {playerId : PlayerId} (hplayer : playerId ∈ caches.players) :
    UpkeepInStep (cachedUpkeepAccrual caches tiles playerId).1 tiles := by
  have hcounted := countUpkeepRead_inStep h playerId
  rw [← countUpkeepRead_players caches playerId] at hplayer
  unfold cachedUpkeepAccrual
  dsimp only
  split
  · exact hcounted
  constructor
  · intro p cache hget
    rw [InsertionMap.get_set] at hget
    split at hget
    · rename_i hp
      exact hp ▸ hplayer
    · exact hcounted.known p cache hget
  · intro p cache hget
    rw [InsertionMap.get_set] at hget
    split at hget
    · rename_i hp
      subst hp
      exact (Option.some.inj hget).symm
    · exact hcounted.built p cache hget

end BorderEmpires.Indexes
