/-
  BorderEmpires.Siphon.Towers
  **SIPHON: A TOWER'S RECORD AND THE STAMPS IT LEFT.**

  A siphon lives on tiles only.  The caster's Observatory records which
  tiles it drains (`Observatory.siphon`), each drained tile carries a
  sabotage stamp that names the tower.  This file is the translation of
  the tile data, of the tower rules a cast and the shield checks read, and
  of the two pure functions that say which siphons a tile write or a
  returned shield ends.
-/
import BorderEmpires.World
import BorderEmpires.Lib.InsertionMap
import Mathlib.Algebra.Field.Rat

namespace BorderEmpires.Siphon

/-! ## §1. Tiles. -/

/-- A reading of the host's clock: its time values end here. -/
structure Clock where
  ms : Nat
  inRange : ms ≤ 8640000000000000

def SIPHON_UNTIL_CANCELLED_ENDS_AT : Nat := 9007199254740991

theorem Clock.before_siphon_ends (now : Clock) : now.ms < SIPHON_UNTIL_CANCELLED_ENDS_AT := by
  have hrange := now.inRange
  unfold SIPHON_UNTIL_CANCELLED_ENDS_AT
  omega

def SIPHON_SHARE : ℚ := 1

variable (W : WorldSize)

/-- A stamp on a drained tile; a legacy timed one names no tower. -/
structure Sabotage where
  ownerId : PlayerId
  endsAt : Nat
  outputMultiplier : ℚ
  observatoryTileKey : Option (TileKey W)

structure ObservatorySiphonMode where
  target : TileKey W
  tileKeys : List (TileKey W)
  startedAt : Nat

inductive ObservatoryStatus where
  | under_construction
  | active
  | inactive
  | removing
  deriving DecidableEq

structure Observatory where
  ownerId : PlayerId
  status : ObservatoryStatus
  suppressedUntil : Option Nat
  shotsUsedAt : Option (List Nat)
  cooldownUntil : Option Nat
  siphon : Option (ObservatorySiphonMode W)

inductive NaturalWonder where
  | watchtowerEngine (relicVersion : Option Nat)
  | other

/-- The fields of a tile that siphon rules read or write. -/
structure Tile where
  terrain : Terrain
  ownerId : Option PlayerId
  town : Bool
  resource : Bool
  naturalWonder : Option NaturalWonder
  sabotage : Option (Sabotage W)
  observatory : Option (Observatory W)

abbrev Tiles := InsertionMap (TileKey W) (Tile W)

variable {W}

/-- `isSiphonModeSabotage`: the tower the stamp names. -/
def Tile.stampTower (tile : Tile W) : Option (TileKey W) :=
  tile.sabotage.bind Sabotage.observatoryTileKey

def Tile.siphon (tile : Tile W) : Option (ObservatorySiphonMode W) :=
  tile.observatory.bind Observatory.siphon

def isObservatoryInSiphonMode (observatory : Observatory W) : Bool :=
  observatory.siphon.any fun siphon => !siphon.tileKeys.isEmpty

/-- A tower keeps siphoning only while it is an active tower its caster
owns, on land the caster owns. -/
def observatoryCanHoldSiphon (tile : Tile W) (casterId : PlayerId) : Bool :=
  match tile.observatory with
  | some observatory =>
      decide (observatory.ownerId = casterId ∧ observatory.status = .active
        ∧ tile.ownerId = some casterId)
  | none => false

/-! ## §2. Shots and shields. -/

def AETHER_TOWER_SHOT_REFILL_MS : Nat := 24 * 60 * 60000
def AETHER_TOWER_SHOT_HISTORY_CAP : Nat := 12
def OBSERVATORY_PROTECTION_RADIUS : Nat := 20

/-- What the rules read beside the tiles: the clock, which structures lack
their resource slot, how many shots a player's towers hold, and the index
of active towers by owner. -/
structure Moment (W : WorldSize) where
  now : Clock
  isStructureDormant : Tiles W → PlayerId → TileKey W → Bool
  maxShotsFor : PlayerId → Nat
  activeTowerKeysForOwner : Tiles W → PlayerId → List (TileKey W)
  territoryTileKeys : Tiles W → PlayerId → List (TileKey W)
  castRadiusFor : PlayerId → Nat

variable (m : Moment W) (tiles : Tiles W)

/-- Fire times still inside the refill window, oldest first. -/
def liveAetherTowerShots (shotsUsedAt : Option (List Nat)) (now : Nat) : List Nat :=
  ((shotsUsedAt.getD []).filter fun firedAt =>
    decide (firedAt + AETHER_TOWER_SHOT_REFILL_MS > now)).mergeSort

def aetherTowerShotsRemaining (shotsUsedAt : Option (List Nat)) (maxShots now : Nat) : Nat :=
  maxShots - (liveAetherTowerShots shotsUsedAt now).length

def aetherTowerHasShot (tower : Observatory W) (maxShots now : Nat) : Bool :=
  match tower.shotsUsedAt with
  | none => decide (tower.cooldownUntil.getD 0 ≤ now)
  | some _ => decide (aetherTowerShotsRemaining tower.shotsUsedAt maxShots now > 0)

def aetherTowerNextShotAt (shotsUsedAt : Option (List Nat)) (maxShots now : Nat) : Nat :=
  let live := liveAetherTowerShots shotsUsedAt now
  if live.length < maxShots then now
  else live.getD (live.length - maxShots) now + AETHER_TOWER_SHOT_REFILL_MS

def spendAetherTowerShot (tower : Observatory W) (maxShots now : Nat) : Observatory W :=
  let fired := liveAetherTowerShots tower.shotsUsedAt now ++ [now]
  let shotsUsedAt := fired.drop (fired.length - AETHER_TOWER_SHOT_HISTORY_CAP)
  let nextShotAt := aetherTowerNextShotAt (some shotsUsedAt) maxShots now
  { tower with
      shotsUsedAt := some shotsUsedAt
      cooldownUntil := if nextShotAt > now then some nextShotAt else none }

def isAetherTowerSuppressed (tower : Observatory W) (now : Nat) : Bool :=
  decide (tower.suppressedUntil.getD 0 > now)

/-- Active, its owner holds the tower tile, and it has a shot left. -/
def isObservatoryReady (tile : Tile W) : Bool :=
  match tile.observatory with
  | none => false
  | some observatory =>
      decide (observatory.status = .active)
        && !isAetherTowerSuppressed observatory m.now.ms
        && decide (tile.ownerId = some observatory.ownerId)
        && aetherTowerHasShot observatory (m.maxShotsFor observatory.ownerId) m.now.ms

/-- `isObservatoryShielding`: ready and not dormant. -/
def isObservatoryShielding (key : TileKey W) (tile : Tile W) : Bool :=
  match tile.observatory with
  | none => false
  | some observatory =>
      isObservatoryReady m tile && !m.isStructureDormant tiles observatory.ownerId key

def squareOffsets (radius : Nat) : List (Int × Int) :=
  (List.range (2 * radius + 1)).flatMap fun i : Nat =>
    (List.range (2 * radius + 1)).map fun j : Nat => ((j : Int) - radius, (i : Int) - radius)

/-- The keys `someProtectionSquareKey` visits. -/
def protectionSquare (key : TileKey W) : List (TileKey W) :=
  (squareOffsets OBSERVATORY_PROTECTION_RADIUS).map key.shift

/-- `isTileShieldedByOwnersIndexedTowers`, with the runtime's index. -/
def isTileShieldedByOwner (ownerId : PlayerId) (key : TileKey W) : Bool :=
  ((tiles.get key).bind Tile.ownerId == some ownerId)
    && (m.activeTowerKeysForOwner tiles ownerId).any fun towerKey =>
      match tiles.get towerKey with
      | none => false
      | some tower =>
          (tower.ownerId == some ownerId)
            && (tower.observatory.map Observatory.ownerId == some ownerId)
            && decide (chebyshevWithWrap W towerKey.x.val towerKey.y.val key.x.val key.y.val
              ≤ OBSERVATORY_PROTECTION_RADIUS)
            && isObservatoryShielding m tiles towerKey tower

/-- Only the land of another player is ever shielded. -/
def isTileShieldedByEnemyObservatory (actorId : PlayerId) (key : TileKey W) : Bool :=
  match (tiles.get key).bind Tile.ownerId with
  | none => false
  | some targetOwnerId =>
      decide (targetOwnerId ≠ actorId) && isTileShieldedByOwner m tiles targetOwnerId key

/-! ## §3. The tower a cast uses. -/

def OBSERVATORY_CAST_RADIUS : Nat := 20
def WATCHTOWER_ENGINE_OBSERVATORY_RANGE : Nat := OBSERVATORY_CAST_RADIUS + 10

def observatoryRangeForTile (tile : Tile W) (playerRange : Nat) : Nat :=
  match tile.naturalWonder with
  | some (.watchtowerEngine relicVersion) =>
      if relicVersion = some 1 then 50 else WATCHTOWER_ENGINE_OBSERVATORY_RANGE
  | _ => playerRange

/-- The shots and the distance of a tower that can fire at the target. -/
def readyTower (playerId : PlayerId) (target : TileKey W) (tileKey : TileKey W) :
    Option (Nat × Int) :=
  match tiles.get tileKey with
  | none => none
  | some tile =>
      match tile.observatory with
      | none => none
      | some obs =>
          let distance := chebyshevWithWrap W tileKey.x.val tileKey.y.val target.x.val target.y.val
          let shotsRemaining :=
            aetherTowerShotsRemaining obs.shotsUsedAt (m.maxShotsFor playerId) m.now.ms
          if tile.ownerId = some playerId ∧ obs.ownerId = playerId ∧ obs.status = .active
              ∧ distance ≤ observatoryRangeForTile tile (m.castRadiusFor playerId)
              ∧ 0 < shotsRemaining ∧ isAetherTowerSuppressed obs m.now.ms = false
              ∧ isObservatoryInSiphonMode obs = false
              ∧ m.isStructureDormant tiles playerId tileKey = false then
            some (shotsRemaining, distance)
          else none

/-- The best tower so far: its key, its shots, its distance. -/
abbrev BestTower (W : WorldSize) := Option (TileKey W × Nat × Int)

/-- Most shots left first, then closest. -/
def betterTower (playerId : PlayerId) (target : TileKey W) (best : BestTower W)
    (tileKey : TileKey W) : BestTower W :=
  match readyTower m tiles playerId target tileKey with
  | none => best
  | some (shots, distance) =>
      match best with
      | none => some (tileKey, shots, distance)
      | some (bestKey, bestShots, bestDistance) =>
          if shots > bestShots ∨ (shots = bestShots ∧ distance < bestDistance) then
            some (tileKey, shots, distance)
          else some (bestKey, bestShots, bestDistance)

def pickReadyOwnedObservatoryForTarget (playerId : PlayerId) (target : TileKey W) :
    Option (TileKey W) :=
  ((m.territoryTileKeys tiles playerId).foldl (betterTower m tiles playerId target) none).map
    Prod.fst

/-- What every candidate of the search meets. -/
def CanFire (playerId : PlayerId) (tileKey : TileKey W) : Prop :=
  ∃ tile obs, tiles.get tileKey = some tile ∧ tile.observatory = some obs
    ∧ tile.ownerId = some playerId ∧ obs.ownerId = playerId ∧ obs.status = .active
    ∧ isObservatoryInSiphonMode obs = false

theorem canFire_of_readyTower {m : Moment W} {tiles : Tiles W} {playerId : PlayerId}
    {target tileKey : TileKey W} {found : Nat × Int}
    (h : readyTower m tiles playerId target tileKey = some found) :
    CanFire tiles playerId tileKey := by
  unfold readyTower at h
  cases htile : tiles.get tileKey with
  | none =>
      rw [htile] at h
      cases h
  | some tile =>
      rw [htile] at h
      dsimp only at h
      cases hobs : tile.observatory with
      | none =>
          rw [hobs] at h
          cases h
      | some obs =>
          rw [hobs] at h
          dsimp only at h
          split at h
          next hready =>
            obtain ⟨howner, hobsOwner, hactive, -, -, -, hsiphon, -⟩ := hready
            exact ⟨tile, obs, htile, hobs, howner, hobsOwner, hactive, hsiphon⟩
          next => cases h

/-- **A picked tower can fire**: active, of the player, on land of the
player, in no siphon. -/
theorem pickReadyOwnedObservatoryForTarget_spec {m : Moment W} {tiles : Tiles W}
    {playerId : PlayerId} {target tileKey : TileKey W}
    (h : pickReadyOwnedObservatoryForTarget m tiles playerId target = some tileKey) :
    CanFire tiles playerId tileKey := by
  -- the loop keeps: whatever is best so far can fire
  have hloop : ∀ (keys : List (TileKey W)) (best : BestTower W),
      (∀ found, best = some found → CanFire tiles playerId found.1) →
      ∀ found, keys.foldl (betterTower m tiles playerId target) best = some found →
        CanFire tiles playerId found.1 := by
    intro keys
    induction keys with
    | nil =>
        intro best hbest found hfound
        exact hbest found hfound
    | cons key keys ih =>
        intro best hbest found hfound
        refine ih (betterTower m tiles playerId target best key) ?_ found hfound
        intro next hnext
        unfold betterTower at hnext
        cases hready : readyTower m tiles playerId target key with
        | none =>
            rw [hready] at hnext
            exact hbest next hnext
        | some candidate =>
            rw [hready] at hnext
            have hkey := canFire_of_readyTower hready
            cases best with
            | none =>
                obtain rfl := Option.some.inj hnext
                exact hkey
            | some old =>
                dsimp only at hnext
                split at hnext
                · obtain rfl := Option.some.inj hnext
                  exact hkey
                · obtain rfl := Option.some.inj hnext
                  exact hbest old rfl
  unfold pickReadyOwnedObservatoryForTarget at h
  obtain ⟨found, hfound, rfl⟩ := Option.map_eq_some_iff.mp h
  exact hloop _ none (fun _ hnone => (by cases hnone)) found hfound

/-! ## §4. The siphons a write or a returned shield ends. -/

inductive SiphonEndReason where
  | cancelled
  | caster_observatory_lost
  | drained_tile_lost
  | victim_observatory

structure SiphonEndRequest (W : WorldSize) where
  observatoryKey : TileKey W
  casterId : PlayerId
  tileKeys : List (TileKey W)
  reason : SiphonEndReason

/-- What the tower at the key drains by its own record. -/
def drainedBy (observatoryKey : TileKey W) : Option (List (TileKey W)) :=
  ((tiles.get observatoryKey).bind Tile.siphon).map ObservatorySiphonMode.tileKeys

def activeForOwner (tile : Tile W) : Option PlayerId :=
  match tile.observatory with
  | none => none
  | some observatory =>
      if observatory.status = .active ∧ tile.ownerId = some observatory.ownerId then
        some observatory.ownerId
      else none

def newlyActiveObservatoryOwner (previous : Option (Tile W)) (next : Tile W) : Option PlayerId :=
  match activeForOwner next with
  | none => none
  | some ownerId =>
      if previous.bind activeForOwner = some ownerId then none else some ownerId

/-- The tower had a siphon that its new tile cannot hold. -/
def casterLostEnds (tileKey : TileKey W) (previous : Option (Tile W)) (next : Tile W) :
    List (SiphonEndRequest W) :=
  match previous.bind Tile.observatory with
  | none => []
  | some observatory =>
      match observatory.siphon with
      | none => []
      | some siphon =>
          if next.siphon.isNone ∨ observatoryCanHoldSiphon next observatory.ownerId = false then
            [⟨tileKey, observatory.ownerId, siphon.tileKeys, .caster_observatory_lost⟩]
          else []

def drainedLostEnds (tileKey : TileKey W) (previous : Option (Tile W)) (next : Tile W) :
    List (SiphonEndRequest W) :=
  match previous.bind Tile.sabotage with
  | none => []
  | some sabotage =>
      match sabotage.observatoryTileKey with
      | none => []
      | some observatoryKey =>
          if previous.bind Tile.ownerId ≠ next.ownerId
              ∨ next.stampTower ≠ some observatoryKey then
            let tileKeys := (drainedBy tiles observatoryKey).getD [tileKey]
            [⟨observatoryKey, sabotage.ownerId, InsertionSet.addAll [] (tileKeys ++ [tileKey]),
              .drained_tile_lost⟩]
          else []

/-- The scan of the square of a tower of the victim, with the towers
already named. -/
def victimTowerEnds (tiles : Tiles W) (victimId : PlayerId) :
    List (TileKey W) → List (TileKey W) → List (SiphonEndRequest W)
  | [], _ => []
  | drainedKey :: keys, seen =>
      match tiles.get drainedKey with
      | none => victimTowerEnds tiles victimId keys seen
      | some drained =>
          match drained.sabotage with
          | none => victimTowerEnds tiles victimId keys seen
          | some sabotage =>
              match sabotage.observatoryTileKey with
              | none => victimTowerEnds tiles victimId keys seen
              | some observatoryKey =>
                  if drained.ownerId = some victimId ∧ sabotage.ownerId ≠ victimId
                      ∧ observatoryKey ∉ seen then
                    ⟨observatoryKey, sabotage.ownerId,
                      (drainedBy tiles observatoryKey).getD [drainedKey], .victim_observatory⟩
                      :: victimTowerEnds tiles victimId keys (observatoryKey :: seen)
                  else victimTowerEnds tiles victimId keys seen

/-- A tower of the victim that has come on and shields its land. -/
def victimReturnEnds (tileKey : TileKey W) (previous : Option (Tile W)) (next : Tile W) :
    List (SiphonEndRequest W) :=
  match newlyActiveObservatoryOwner previous next with
  | none => []
  | some victimId =>
      if isObservatoryShielding m tiles tileKey next then
        victimTowerEnds tiles victimId (protectionSquare tileKey) []
      else []

def siphonEndsForTileChange (tileKey : TileKey W) (previous : Option (Tile W)) (next : Tile W) :
    List (SiphonEndRequest W) :=
  casterLostEnds tileKey previous next ++ drainedLostEnds tiles tileKey previous next
    ++ victimReturnEnds m tiles tileKey previous next

/-- Whether a tower of the owner shields one of the tiles a tower drains. -/
def shieldReturned (observatory : Observatory W) (tileKeys : List (TileKey W)) : Bool :=
  tileKeys.any fun tileKey =>
    match (tiles.get tileKey).bind Tile.ownerId with
    | none => false
    | some ownerId =>
        decide (ownerId ≠ observatory.ownerId) && isTileShieldedByOwner m tiles ownerId tileKey

def siphonEndsForShieldReturn (towerKeys : List (TileKey W)) : List (SiphonEndRequest W) :=
  towerKeys.filterMap fun observatoryKey =>
    match (tiles.get observatoryKey).bind Tile.observatory with
    | none => none
    | some observatory =>
        match observatory.siphon with
        | none => none
        | some siphon =>
            if shieldReturned m tiles observatory siphon.tileKeys then
              some ⟨observatoryKey, observatory.ownerId, siphon.tileKeys, .victim_observatory⟩
            else none

end BorderEmpires.Siphon
