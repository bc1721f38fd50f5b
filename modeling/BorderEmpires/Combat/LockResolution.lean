/-
  BorderEmpires.Combat.LockResolution
  **HOW A LOCK ENDS.**

  A resolution timer calls `resolveLock`, which gives reservations back,
  looks at the target slot alone to see whether the lock is still the one
  contesting its tile, and then either drops it or resolves the fight.
  CANCEL_CAPTURE and the orphan sweep take locks out of the index; a paid
  rush resolves an expansion early.  None of the three unschedules the
  lock's timer.

  Everything a resolution sets off beyond the two tiles it fights over
  (encirclement, breakthrough, respawn, relocation) arrives as a list of
  tile replacements, arbitrary at every resolution.
-/
import BorderEmpires.Combat.FrontierCommand

namespace BorderEmpires.Combat

variable {W : WorldSize}

/-! ## §1. Giving reservations and charges back. -/

/-- `releaseReservedMuster`: never below zero, and a spent entry goes. -/
def releaseReservedMuster (s : CombatState W) (key : TileKey W) (amount : ℚ≥0) : CombatState W :=
  { s with musterReservedByKey := Ledger.debit s.musterReservedByKey key amount }

def releaseMusterReservation (s : CombatState W) (lock : LockRecord W) : CombatState W :=
  let s := match lock.musterSourceKey with
    | some key => releaseReservedMuster s key lock.manpowerCost
    | none => s
  match lock.shield with
  | some shield => releaseReservedMuster s shield.tileKey shield.matched
  | none => s

/-- Hand the charge of an expansion back to its player. -/
def refundExpandManpower (playerManpowerCap : DomainPlayer → ℚ) (s : CombatState W)
    (lock : LockRecord W) : CombatState W :=
  match s.players.get lock.playerId with
  | some player =>
      { s with
        players := s.players.set lock.playerId
          (creditManpowerTo player)
        refunds := s.refunds ++ [lock.commandId] }
  | none => s
where
  creditManpowerTo (player : DomainPlayer) : DomainPlayer :=
    CombatState.creditManpower player lock.manpowerCost (playerManpowerCap player)

/-- Take a lock out of both maps. -/
def dropLock (s : CombatState W) (lock : LockRecord W) : CombatState W :=
  { s with
    locksByTile := s.locksByTile.removeLock lock
    locksByCommandId := s.locksByCommandId.erase lock.commandId }

/-! ## §2. The outcome of a fight. -/

structure RuntimeLockResolutionContext (W : WorldSize) where
  playerManpowerCap : DomainPlayer → ℚ
  roll : CombatRoll
  isTileShieldedByAegisLock : Bool
  /-- The defender's fort is active and its ward has recharged. -/
  fortWardIsReady : Bool
  /-- The target holds a fabrication complex of its owner. -/
  targetHoldsAfc : Bool
  barbarianCaptureCoinBonus : ℚ
  /-- The tiles replaced beyond target and origin. -/
  aftermath : List (TileKey W × DomainTileState W)

def CAPTURE_HOLD_MS : Int := 60000
def AFC_CAPTURE_PLUNDER_SHARE : ℚ := 33 / 100

/-- What `resolveLock` works out before it changes anything. -/
structure LockOutcome (W : WorldSize) where
  previousTarget : Option (DomainTileState W)
  combatResolution : LockedCombatResolution W
  attackerWon : Bool
  originLost : Bool
  /-- Two forces clash, and the target is shown to both sides. -/
  hasDefendingForce : Bool

variable (ctx : RuntimeLockResolutionContext W) (s : CombatState W) (lock : LockRecord W)
  (outcome : LockOutcome W)

def LockOutcome.previousOwnerId : Option PlayerId := outcome.previousTarget.bind (·.ownerId)

/-- A ready ward turns a won roll into a lost one that changes nothing. -/
def wardedResolution (resolution : LockedCombatResolution W) : LockedCombatResolution W :=
  { resolution with
    result := { resolution.result with
      attackerWon := false
      changes := []
      pillagedGold := 0 }
    defenderGoldLoss := 0 }

/-- The defender takes the launch tile on a loss, unless it is no longer the
attacker's to lose. -/
def loseOrigin (result : LockedFrontierCombatResult W) : Bool :=
  let originOwnerId := (s.tiles.get lock.originKey).bind (·.ownerId)
  result.changes.any (fun change => change.tileKey = lock.originKey)
    && (originOwnerId = some lock.playerId || (lock.barbarianLaunch && originOwnerId = none))

def lockOutcome : LockOutcome W :=
  let previousTarget := s.tiles.get lock.targetKey
  let previousOwnerId := previousTarget.bind (·.ownerId)
  let rolled := lock.combatResolution.getD (buildLockedCombatResolution ctx.roll s lock)
  let warded := rolled.result.attackerWon && (lock.actionType = .ATTACK : Bool)
    && previousTarget.isSome && !ctx.isTileShieldedByAegisLock && ctx.fortWardIsReady
  let resolution := if warded then wardedResolution rolled else rolled
  let blockedByAegisLock := (lock.actionType = .ATTACK : Bool) && previousOwnerId.isSome
    && (previousOwnerId ≠ some lock.playerId : Bool) && ctx.isTileShieldedByAegisLock
  { previousTarget := previousTarget
    combatResolution := resolution
    attackerWon := !blockedByAegisLock && resolution.result.attackerWon
    originLost := loseOrigin s lock resolution.result
    hasDefendingForce := (lock.actionType = .ATTACK : Bool) && previousOwnerId.isSome
      && (previousOwnerId ≠ some lock.playerId : Bool)
      && (previousTarget.all (fun t => t.ownershipState ≠ some .FRONTIER)
        || resolution.defendedFrontier || blockedByAegisLock) }

/-! ## §3. What a fight costs and pays. -/

/-- An attack by a known player spends its cost on the flag it names. -/
def spendAttackerMuster : CombatState W :=
  match lock.actionType, s.players.get lock.playerId with
  | .ATTACK, some _ =>
      if isBarbarianFaction lock.playerId then s
      else s.consumeOriginMuster (lock.musterSourceKey.getD lock.originKey) lock.playerId
        lock.manpowerCost
  | _, _ => s

/-- `applyShieldConsumptionAndReveal`: the matched shield is spent, and its
tile shown to the attacker. -/
def applyShieldConsumptionAndReveal : CombatState W :=
  match lock.actionType, outcome.combatResolution.shield, outcome.previousOwnerId with
  | .ATTACK, some shield, some previousOwnerId =>
      let s := s.consumeOriginMuster shield.tileKey previousOwnerId shield.matched
      match s.tiles.get shield.tileKey with
      | some shieldTile => s.emitEvent (.TILE_DELTA_BATCH s!"{lock.commandId}:shield-reveal"
          lock.playerId [CombatState.tileDelta shield.tileKey shieldTile])
      | none => s
  | _, _, _ => s

/-- Change a player's gold; an unknown player has none. -/
def adjustPoints (p : PlayerId) (f : ℚ → ℚ) : CombatState W :=
  match s.players.get p with
  | some player => { s with players := s.players.set p { player with points := f player.points } }
  | none => s

def applySettledCapturePlunder (attacker defender : PlayerId) (gold defenderGoldLoss : ℚ) :
    CombatState W :=
  if gold ≤ 0 then s
  else
    let s := adjustPoints s defender (fun points => max 0 (points - defenderGoldLoss))
    adjustPoints s attacker (fun points => points + gold)

/-- Extra gold for a captured fabrication complex: a third of what the
defender keeps after the regular loss. -/
def afcCapturePlunderGold : ℚ :=
  match outcome.previousOwnerId with
  | none => 0
  | some owner =>
      match s.players.get owner with
      | none => 0
      | some defender =>
          let settled := outcome.previousTarget.any (fun t => t.ownershipState = some .SETTLED)
          let regular := if settled then outcome.combatResolution.defenderGoldLoss else 0
          if outcome.attackerWon && ctx.targetHoldsAfc && (owner ≠ lock.playerId : Bool) then
            ((max 0 (defender.points - regular) * AFC_CAPTURE_PLUNDER_SHARE).floor : ℚ)
          else 0

def afcPlanetaryDefenseBounty : ℚ :=
  if outcome.attackerWon && (lock.actionType = .ATTACK : Bool)
      && outcome.previousOwnerId.any PlayerId.isBarbarian
      && (0 < ctx.barbarianCaptureCoinBonus : Bool)
  then ctx.barbarianCaptureCoinBonus else 0

/-- What a known defender loses: the share taken on settled ground, and the
complex's stock. -/
def plunderDefender (afcPlunder : ℚ) : CombatState W :=
  match outcome.previousOwnerId.filter (fun p => (s.players.get p).isSome) with
  | some owner =>
      let settled := outcome.previousTarget.any (fun t => t.ownershipState = some .SETTLED)
      let s := if outcome.attackerWon && settled then
          applySettledCapturePlunder s lock.playerId owner
            outcome.combatResolution.result.pillagedGold
            outcome.combatResolution.defenderGoldLoss
        else s
      if 0 < afcPlunder then
        applySettledCapturePlunder s lock.playerId owner afcPlunder afcPlunder
      else s
  | none => s

/-- The gold a fight moves. -/
def applyCapturePlunder (afcPlunder bounty : ℚ) : CombatState W :=
  match s.players.get lock.playerId with
  | none => s
  | some _ =>
      let s := plunderDefender s lock outcome afcPlunder
      if 0 < bounty then adjustPoints s lock.playerId (fun points => points + bounty) else s

/-! ## §4. The tiles a fight takes. -/

/-- The captured tile: the attacker's, without the flag that stood on it. -/
def capturedTile (previousTarget : Option (DomainTileState W)) : DomainTileState W :=
  let previousOwnerId := previousTarget.bind (·.ownerId)
  let heldGround := lock.actionType = .ATTACK ∧ isBarbarianFaction lock.playerId = false
    ∧ previousOwnerId.isSome = true ∧ previousOwnerId ≠ some lock.playerId
    ∧ previousOwnerId.any isBarbarianFaction = false
  { terrain := (previousTarget.map (·.terrain)).getD .LAND
    ownerId := some lock.playerId
    ownershipState := some (if isBarbarianFaction lock.playerId then .SETTLED else .FRONTIER)
    captureHoldUntil := if heldGround then some (s.now + CAPTURE_HOLD_MS) else none
    isDock := (previousTarget.map (·.isDock)).getD false
    muster := none }

def applyWinningTileCapture (previousTarget : Option (DomainTileState W)) : CombatState W :=
  let resolvedTarget := capturedTile s lock previousTarget
  (s.replaceTileState lock.targetKey resolvedTarget).emitEvent
    (.TILE_DELTA_BATCH lock.commandId lock.playerId
      [CombatState.tileDelta lock.targetKey resolvedTarget])

/-- The launch tile in the defender's hands, without the flag that stood on
it. -/
def lostOriginTile (previousOrigin : DomainTileState W) (previousOwnerId : PlayerId) :
    DomainTileState W :=
  { previousOrigin with
    ownerId := some previousOwnerId
    ownershipState := some (if isBarbarianFaction previousOwnerId then .SETTLED else .FRONTIER)
    muster := none }

/-- A barbarian defender moves over: it leaves the tile it defended, unless
that tile is locked. -/
def releaseBarbarianDefender : CombatState W :=
  match s.tiles.get lock.targetKey with
  | some defenderTile =>
      let locked := (s.locksByTile.targets.get lock.targetKey).isSome
        || (s.locksByTile.origins.get lock.targetKey).isSome
      if defenderTile.ownerId = some barbarianFaction ∧ locked = false then
        let released := releasedBarbarianTile defenderTile
        (s.replaceTileState lock.targetKey released).emitEvent
          (.TILE_DELTA_BATCH lock.commandId lock.playerId
            [CombatState.tileDelta lock.targetKey released])
      else s
  | none => s

def resolveLostOrigin (previousOwnerId : PlayerId) : CombatState W :=
  match s.tiles.get lock.originKey with
  | none => s
  | some previousOrigin =>
      let resolvedOrigin := lostOriginTile previousOrigin previousOwnerId
      let s := s.replaceTileState lock.originKey resolvedOrigin
      let s := s.emitEvent (.TILE_DELTA_BATCH lock.commandId lock.playerId
        [CombatState.tileDelta lock.originKey resolvedOrigin])
      if isBarbarianFaction previousOwnerId then releaseBarbarianDefender s lock else s

def showHeldTarget : CombatState W :=
  match s.tiles.get lock.targetKey with
  | some tile => s.emitEvent (.TILE_DELTA_BATCH s!"{lock.commandId}:combat" lock.playerId
      [CombatState.tileDelta lock.targetKey tile])
  | none => s

/-- The tiles replaced beyond target and origin, each shown as it is left. -/
def applyAftermath (aftermath : List (TileKey W × DomainTileState W)) : CombatState W :=
  aftermath.foldl (fun s change =>
    (s.replaceTileState change.1 change.2).emitEvent
      (.TILE_DELTA_BATCH lock.commandId lock.playerId [CombatState.tileDelta change.1 change.2])) s

/-- The territory a fight moves. -/
def applyTerritory : CombatState W :=
  let s :=
    if outcome.attackerWon then applyWinningTileCapture s lock outcome.previousTarget
    else
      let s := match outcome.originLost, outcome.previousOwnerId with
        | true, some previousOwnerId => resolveLostOrigin s lock previousOwnerId
        | _, _ => s
      if outcome.hasDefendingForce then showHeldTarget s lock else s
  applyAftermath s lock ctx.aftermath

/-! ## §5. Resolving. -/

/-- The gold beyond the regular plunder: a fabrication complex's stock, and a
bounty. -/
def extraPlunder : ℚ × ℚ :=
  let outcome := lockOutcome ctx s lock
  (afcCapturePlunderGold ctx s lock outcome,
    if (s.players.get lock.playerId).isSome then afcPlanetaryDefenseBounty ctx lock outcome else 0)

/-- The result the fight reports: the locked one, with the extra gold. -/
def reportedResult : LockedFrontierCombatResult W :=
  let result := (lockOutcome ctx s lock).combatResolution.result
  let extra := (extraPlunder ctx s lock).1 + (extraPlunder ctx s lock).2
  if 0 < extra then { result with pillagedGold := result.pillagedGold + extra } else result

def resolvedEvent : SimulationEvent W :=
  .COMBAT_RESOLVED lock.commandId lock.playerId lock.actionType lock.originKey lock.targetKey
    (lockOutcome ctx s lock).attackerWon (some (reportedResult ctx s lock))

def fightSpent : CombatState W :=
  let event := resolvedEvent ctx s lock
  let s := adjustPoints s lock.playerId (fun points => max 0 (points - FRONTIER_CLAIM_COST))
  spendAttackerMuster (s.emitEvent event) lock

/-- The fight itself, for a lock that still holds its target's slot. -/
def resolveFight : CombatState W :=
  let outcome := lockOutcome ctx s lock
  let extra := extraPlunder ctx s lock
  let s := fightSpent ctx s lock
  let s := applyShieldConsumptionAndReveal s lock outcome
  let s := applyCapturePlunder s lock outcome extra.1 extra.2
  applyTerritory ctx s lock outcome

/-- One resolution: reservations first, then the slot decides whether the
lock resolves or is dropped. -/
def resolveLockUnbuffered : CombatState W :=
  let s := releaseMusterReservation s lock
  let targetMatches := s.locksByTile.ownsTargetSlot lock
  let s := dropLock s lock
  if targetMatches then resolveFight ctx s lock
  else match lock.actionType with
    | .EXPAND => refundExpandManpower ctx.playerManpowerCap s lock
    | .ATTACK => s

/-- `CommandDeltaBuffer`: the tile deltas of a resolution leave together,
after its other events. -/
def coalesceTileDeltas (events : List (SimulationEvent W)) : List (SimulationEvent W) :=
  let deltas := events.flatMap (fun event => match event with
    | .TILE_DELTA_BATCH _ _ tileDeltas => tileDeltas
    | _ => [])
  let others := events.filter (fun event => match event with
    | .TILE_DELTA_BATCH _ _ _ => false
    | _ => true)
  others ++ (if deltas = [] then [] else [.TILE_DELTA_BATCH lock.commandId lock.playerId deltas])

def resolveLock : CombatState W :=
  let resolved := resolveLockUnbuffered ctx { s with emitted := [] } lock
  { resolved with emitted := s.emitted ++ coalesceTileDeltas lock resolved.emitted }

/-! ## §6. Cancelling, sweeping, rushing. -/

def activeFrontierLocksForPlayer (index : CombatLockIndex W) (playerId : PlayerId) :
    List (LockRecord W) :=
  (index.values.filter (fun lock => lock.playerId = playerId)).mergeSort
    (fun a b => a.commandId ≤ b.commandId)

/-- One cancelled lock: an expansion's charge goes straight back to the pool,
with no ceiling. -/
def cancelLock (playerId : PlayerId) (s : CombatState W) (lock : LockRecord W) : CombatState W :=
  let s := dropLock s lock
  match lock.actionType, s.players.get playerId with
  | .EXPAND, some actor =>
      { s with
        players := s.players.set playerId
          { actor with manpower := actor.manpower + lock.manpowerCost }
        refunds := s.refunds ++ [lock.commandId] }
  | _, _ => s

def handleCancelCaptureCommand (commandId : CommandId) (playerId : PlayerId) : CombatState W :=
  match s.players.get playerId with
  | none => s.rejectCommand commandId playerId "BAD_COMMAND" "invalid command payload"
  | some _ =>
      let activeLocks := activeFrontierLocksForPlayer s.locksByTile playerId
      if activeLocks = [] then
        s.rejectCommand commandId playerId "NO_ACTIVE_CAPTURE" "no active capture to cancel"
      else
        (activeLocks.foldl (cancelLock playerId) s).emitEvent
          (.COMBAT_CANCELLED commandId playerId (activeLocks.map (·.commandId)))

def ORPHAN_LOCK_GRACE_MS : Int := 60000

/-- One swept lock: dropped without an event, an expansion refunded. -/
def sweepLock : CombatState W :=
  let s := dropLock s lock
  match lock.actionType, s.players.get lock.playerId with
  | .EXPAND, some player =>
      { s with
        players := s.players.set lock.playerId
          { player with manpower := player.manpower + lock.manpowerCost }
        refunds := s.refunds ++ [lock.commandId] }
  | _, _ => s

/-- The locks a sweep finds: unresolved a minute after they were due. -/
def orphanedLocks : List (LockRecord W) :=
  s.locksByTile.values.filter (fun lock => lock.resolvesAt < s.now - ORPHAN_LOCK_GRACE_MS)

def tickOrphanedLockSweep : CombatState W := (orphanedLocks s).foldl sweepLock s

/-- A paid rush on a tile the player is expanding to: the price leaves the
purse and the lock resolves at once. -/
def handleRushBuyExpand (price : ℚ) (s : CombatState W) (commandId : CommandId)
    (playerId : PlayerId) (targetKey : TileKey W) : CombatState W :=
  match s.players.get playerId, s.locksByTile.targetLockAt targetKey with
  | some actor, some expandLock =>
      if expandLock.actionType = .EXPAND ∧ expandLock.playerId = playerId then
        if actor.points < price then
          s.rejectCommand commandId playerId "INSUFFICIENT_GOLD" s!"rush-buy needs {price} coin"
        else
          (resolveLock ctx (adjustPoints s playerId (fun points => points - price))
            expandLock).emitEvent (.COMMAND_RESOLVED commandId playerId)
      else s
  | _, _ => s

/-! ## §7. Reach claims. -/

/-- `applyReachAutoClaim`: every neutral land tile that enters the owner's
reach becomes its frontier, whatever fights are under way there. -/
def reachClaimTile (ownerId : PlayerId) (s : CombatState W) (key : TileKey W) : CombatState W :=
  match s.tiles.get key with
  | some tile =>
      if tile.ownerId = none ∧ tile.terrain = .LAND then
        s.replaceTileState key { tile with
          ownerId := some ownerId, ownershipState := some .FRONTIER, muster := none }
      else s
  | none => s

def applyReachAutoClaim (causeCommandId : CommandId) (ownerId : PlayerId)
    (tileKeys : List (TileKey W)) : CombatState W :=
  let claimable := tileKeys.filter (fun key => (s.tiles.get key).any (fun t =>
    t.ownerId = none && t.terrain = .LAND))
  let claimed := tileKeys.foldl (reachClaimTile ownerId) s
  if claimable = [] then claimed
  else claimed.emitEvent (.TILE_DELTA_BATCH s!"reach-auto-claim:{causeCommandId}" ownerId
    (claimable.map (fun key => ⟨key, some ownerId, some .FRONTIER⟩)))

end BorderEmpires.Combat
