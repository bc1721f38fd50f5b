/-
  BorderEmpires.Combat.RecoveredTerritory
  **THE OWNERS A RESTART FINDS IN THE EVENT LOG.**

  Recovery folds the emitted events over the starting tiles.  A tile delta
  says what a tile is now; a COMBAT_RESOLVED is interpreted once more, from
  the roll alone: a won fight takes the target, a lost one the launch tile.
  The live runtime also asks who owns the launch tile by then.  Every write
  of a resolution follows its report as a delta, so the two readings part
  only where the log takes a launch tile and the runtime shows no delta of
  it.
-/
import BorderEmpires.Lib.Overwrite
import BorderEmpires.Combat.Restart

namespace BorderEmpires.Combat

open CombatState

variable {W : WorldSize}

/-! ## §1. The recovery fold. -/

structure RecoveredTileState where
  ownerId : Option PlayerId
  ownershipState : Option OwnershipState
  deriving DecidableEq

/-- `cloneRecoveredTile`. -/
def cloneRecoveredTile (tile : DomainTileState W) : RecoveredTileState :=
  ⟨tile.ownerId, tile.ownershipState⟩

abbrev RecoveredTiles (W : WorldSize) := InsertionMap (TileKey W) RecoveredTileState

def createRecoveredSimulationAccumulator
    (tiles : InsertionMap (TileKey W) (DomainTileState W)) : RecoveredTiles W :=
  .ofEntries (tiles.entries.map (fun entry => (entry.1, cloneRecoveredTile entry.2)))

/-- The delta names owner and state, so both are set, or cleared when empty. -/
def applyTileDeltaToRecoveredAccumulator (tiles : RecoveredTiles W) (delta : TileDelta W) :
    RecoveredTiles W :=
  tiles.set delta.tileKey ⟨delta.ownerId, delta.ownershipState⟩

/-- A lost fight takes its launch tile when the roll names a defender and the
launch tile, and the tile is known. -/
def recoverLostOrigin (tiles : RecoveredTiles W) (origin : TileKey W)
    (result : LockedFrontierCombatResult W) : RecoveredTiles W :=
  match result.defenderOwnerId, tiles.get origin with
  | some defenderOwnerId, some _ =>
      if result.changes.any (fun change => change.tileKey = origin) then
        tiles.set origin ⟨some defenderOwnerId, some .FRONTIER⟩
      else tiles
  | _, _ => tiles

/-- `applySimulationEventsToRecoveredAccumulator`, as far as it concerns
owners. -/
def recoverTerritory (tiles : RecoveredTiles W) : SimulationEvent W → RecoveredTiles W
  | .TILE_DELTA_BATCH _ _ tileDeltas => tileDeltas.foldl applyTileDeltaToRecoveredAccumulator tiles
  | .COMBAT_RESOLVED _ playerId _ origin target attackerWon combatResult =>
      if attackerWon then
        tiles.set target ⟨some playerId,
          some (if isBarbarianFaction playerId then .SETTLED else .FRONTIER)⟩
      else match combatResult with
        | some result => recoverLostOrigin tiles origin result
        | none => tiles
  | _ => tiles

/-- The territory recovered from the log over the starting tiles. -/
def recoveredTerritory (start : InsertionMap (TileKey W) (DomainTileState W))
    (events : List (SimulationEvent W)) : RecoveredTiles W :=
  events.foldl recoverTerritory (createRecoveredSimulationAccumulator start)

def CombatState.holding (s : CombatState W) (key : TileKey W) : Option RecoveredTileState :=
  (s.tiles.get key).map cloneRecoveredTile

/-- **The log tells the territory**: every tile has the owner and the
ownership state it has live. -/
def RecoversTerritory (start : InsertionMap (TileKey W) (DomainTileState W))
    (s : CombatState W) : Prop :=
  ∀ key, (recoveredTerritory start s.emitted).get key = s.holding key

/-! ## §2. The condition. -/

def writesOf (events : List (SimulationEvent W)) : List (TileKey W × RecoveredTileState) :=
  events.flatMap (fun event => match event with
    | .TILE_DELTA_BATCH _ _ tileDeltas =>
        tileDeltas.map (fun delta => (delta.tileKey, ⟨delta.ownerId, delta.ownershipState⟩))
    | _ => [])

theorem writesOf_append (events events' : List (SimulationEvent W)) :
    writesOf (events ++ events') = writesOf events ++ writesOf events' := List.flatMap_append

/-- The event reports no fight. -/
def isQuiet : SimulationEvent W → Bool
  | .COMBAT_RESOLVED .. => false
  | _ => true

/-- From one state to the other these events were emitted, no fight among
them, and their deltas tell what changed hands. -/
structure Reported (s t : CombatState W) (events : List (SimulationEvent W)) : Prop where
  emitted : t.emitted = s.emitted ++ events
  quiet : ∀ event ∈ events, isQuiet event = true
  told : Overwritten s.holding t.holding (writesOf events)

theorem holding_of_tiles {s t : CombatState W} (h : t.tiles = s.tiles) (key : TileKey W) :
    t.holding key = s.holding key := by
  unfold CombatState.holding
  rw [h]

namespace Reported

variable {s t u : CombatState W} {events events' : List (SimulationEvent W)}

theorem trans (h : Reported s t events) (h' : Reported t u events') :
    Reported s u (events ++ events') where
  emitted := by rw [h'.emitted, h.emitted, List.append_assoc]
  quiet := by
    intro event hmem
    rcases List.mem_append.mp hmem with hmem | hmem
    · exact h.quiet event hmem
    · exact h'.quiet event hmem
  told := by
    rw [writesOf_append]
    exact h.told.trans h'.told

theorem still (hemitted : t.emitted = s.emitted) (htiles : t.tiles = s.tiles) :
    Reported s t [] where
  emitted := by rw [hemitted, List.append_nil]
  quiet := fun event hmem => absurd hmem List.not_mem_nil
  told := .of_eq (holding_of_tiles htiles)

theorem rewrite {key : TileKey W} {tile tile' : DomainTileState W}
    (htile : s.tiles.get key = some tile)
    (hholder : cloneRecoveredTile tile' = cloneRecoveredTile tile)
    (hemitted : t.emitted = s.emitted) (htiles : t.tiles = s.tiles.set key tile') :
    Reported s t [] where
  emitted := by rw [hemitted, List.append_nil]
  quiet := fun event hmem => absurd hmem List.not_mem_nil
  told := by
    refine .of_eq (fun key' => ?_)
    unfold CombatState.holding
    rw [htiles, InsertionMap.get_set]
    by_cases hkey : key = key'
    · rw [if_pos hkey, ← hkey, htile, Option.map_some, Option.map_some, hholder]
    · rw [if_neg hkey]

theorem write (s : CombatState W) (key : TileKey W) (tile : DomainTileState W)
    (commandId : CommandId) (playerId : PlayerId) :
    Reported s ((s.replaceTileState key tile).emitEvent
        (.TILE_DELTA_BATCH commandId playerId [tileDelta key tile]))
      [.TILE_DELTA_BATCH commandId playerId [tileDelta key tile]] where
  emitted := rfl
  quiet := by
    intro event hmem
    rw [List.mem_singleton.mp hmem]
    rfl
  told := by
    refine Overwritten.single (a := key) (x := cloneRecoveredTile tile) ?_ ?_
    · show ((s.tiles.set key tile).get key).map cloneRecoveredTile = _
      rw [InsertionMap.get_set, if_pos rfl]
      rfl
    · intro key' hkey
      show ((s.tiles.set key tile).get key').map cloneRecoveredTile = _
      rw [InsertionMap.get_set, if_neg hkey]
      rfl

theorem reveal {key : TileKey W} {tile : DomainTileState W} (htile : s.tiles.get key = some tile)
    (commandId : CommandId) (playerId : PlayerId) :
    Reported s (s.emitEvent (.TILE_DELTA_BATCH commandId playerId [tileDelta key tile]))
      [.TILE_DELTA_BATCH commandId playerId [tileDelta key tile]] where
  emitted := rfl
  quiet := by
    intro event hmem
    rw [List.mem_singleton.mp hmem]
    rfl
  told := by
    refine Overwritten.single (a := key) (x := cloneRecoveredTile tile) ?_ (fun key' _ => rfl)
    show (s.tiles.get key).map cloneRecoveredTile = _
    rw [htile]
    rfl

theorem known (h : Reported s t events) {key : TileKey W}
    (hkey : (s.tiles.get key).isSome = true) : (t.tiles.get key).isSome = true := by
  have hold : (s.holding key).isSome = true := by
    unfold CombatState.holding
    rw [Option.isSome_map]
    exact hkey
  have hnew := h.told.isSome hold
  unfold CombatState.holding at hnew
  rw [Option.isSome_map] at hnew
  exact hnew

end Reported

/-! ## §4. Replaying such events. -/

theorem foldl_applyTileDelta (deltas : List (TileDelta W)) :
    ∀ tiles : RecoveredTiles W, deltas.foldl applyTileDeltaToRecoveredAccumulator tiles
      = tiles.setAll (deltas.map (fun delta =>
          (delta.tileKey, ⟨delta.ownerId, delta.ownershipState⟩))) := by
  induction deltas with
  | nil =>
      intro tiles
      rfl
  | cons delta rest ih =>
      intro tiles
      exact ih (applyTileDeltaToRecoveredAccumulator tiles delta)

theorem setAll_append (tiles : RecoveredTiles W)
    (writes writes' : List (TileKey W × RecoveredTileState)) :
    tiles.setAll (writes ++ writes') = (tiles.setAll writes).setAll writes' :=
  List.foldl_append

variable (events : List (SimulationEvent W)) (ctx : RuntimeLockResolutionContext W)
  (s : CombatState W)

variable (lock : LockRecord W) (outcome : LockOutcome W)

/-- **Quiet events replay as their writes.** -/
theorem foldl_recoverTerritory_quiet :
    ∀ tiles : RecoveredTiles W, (∀ event ∈ events, isQuiet event = true) →
      events.foldl recoverTerritory tiles = tiles.setAll (writesOf events) := by
  induction events with
  | nil =>
      intro tiles _
      rfl
  | cons event rest ih =>
      intro tiles hquiet
      have hrest := fun e he => hquiet e (List.mem_cons_of_mem event he)
      have hhead : recoverTerritory tiles event = tiles.setAll (writesOf [event]) := by
        have hevent := hquiet event List.mem_cons_self
        cases event with
        | TILE_DELTA_BATCH commandId playerId tileDeltas =>
            show tileDeltas.foldl applyTileDeltaToRecoveredAccumulator tiles = _
            rw [foldl_applyTileDelta]
            unfold writesOf
            rw [List.flatMap_cons, List.flatMap_nil, List.append_nil]
        | COMBAT_RESOLVED => cases hevent
        | _ => rfl
      show rest.foldl recoverTerritory (recoverTerritory tiles event) = _
      rw [ih _ hrest, hhead, ← setAll_append, ← writesOf_append, List.singleton_append]

/-- A stretch of a resolution: it tells what it changes, and reports exactly
the keys that satisfy the predicate. -/
def Shows (s t : CombatState W) (key : TileKey W) (shown : Prop) : Prop :=
  ∃ events, Reported s t events ∧ (key ∈ (writesOf events).map Prod.fst ↔ shown)

namespace Shows

variable {s t u : CombatState W} {key : TileKey W} {shown shown' : Prop}

theorem trans (h : Shows s t key shown) (h' : Shows t u key shown') :
    Shows s u key (shown ∨ shown') := by
  obtain ⟨events, hevents, hkeys⟩ := h
  obtain ⟨events', hevents', hkeys'⟩ := h'
  refine ⟨events ++ events', hevents.trans hevents', ?_⟩
  rw [writesOf_append, List.map_append, List.mem_append, hkeys, hkeys']

theorem congr (h : Shows s t key shown) (hiff : shown ↔ shown') : Shows s t key shown' := by
  obtain ⟨events, hevents, hkeys⟩ := h
  exact ⟨events, hevents, hkeys.trans hiff⟩

theorem still (hemitted : t.emitted = s.emitted) (htiles : t.tiles = s.tiles) :
    Shows s t key False :=
  ⟨[], .still hemitted htiles, ⟨fun hmem => absurd hmem List.not_mem_nil, False.elim⟩⟩

theorem write (s : CombatState W) (written : TileKey W) (tile : DomainTileState W)
    (commandId : CommandId) (playerId : PlayerId) :
    Shows s ((s.replaceTileState written tile).emitEvent
      (.TILE_DELTA_BATCH commandId playerId [tileDelta written tile])) key (key = written) :=
  ⟨_, .write s written tile commandId playerId, List.mem_singleton⟩

theorem reveal {seen : TileKey W} {tile : DomainTileState W} (htile : s.tiles.get seen = some tile)
    (commandId : CommandId) (playerId : PlayerId) :
    Shows s (s.emitEvent (.TILE_DELTA_BATCH commandId playerId [tileDelta seen tile])) key
      (key = seen) :=
  ⟨_, .reveal htile commandId playerId, List.mem_singleton⟩

theorem known (h : Shows s t key shown) {key' : TileKey W}
    (hkey : (s.tiles.get key').isSome = true) : (t.tiles.get key').isSome = true := by
  obtain ⟨events, hevents, _⟩ := h
  exact hevents.known hkey

end Shows

end BorderEmpires.Combat
