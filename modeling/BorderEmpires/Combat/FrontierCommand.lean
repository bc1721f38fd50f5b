/-
  BorderEmpires.Combat.FrontierCommand
  **ACCEPTING AN ATTACK OR AN EXPAND.**

  `handleFrontierCommandImpl` resolves the launch tile, finds a funding
  flag, validates, reserves or charges manpower, rolls the fight, and arms
  the resolution timer.  What it reads of the rest of the runtime (docks,
  bridges, walls, effects, the roll) is the record
  `RuntimeFrontierCommandContext`, arbitrary at every command.
-/
import BorderEmpires.Combat.Flags

namespace BorderEmpires.Combat

variable {W : WorldSize}

/-! ## §1. Constants and messages. -/

def COMBAT_LOCK_MS : Int := 15000
def MIN_ATTACK_RESOLVE_MS : Int := 5000
def MUSTER_TRANSIT_MS_PER_TILE : Int := 2000
def MUSTER_TRANSIT_MAX_TILES : Int := 15
def FRONTIER_CLAIM_COST : ℚ := 0
def TERRITORY_AUTO_SESSION_PREFIX : String := "system-runtime:territory-automation:"
def COMBAT_LOCK_TARGET_MESSAGE : String := "tile locked in combat"
def COMBAT_LOCK_ORIGIN_UNDER_ATTACK_MESSAGE : String := "launch tile is under attack"

def lockSourceFromSessionId (sessionId : String) : LockSource :=
  if TERRITORY_AUTO_SESSION_PREFIX.toList.isPrefixOf sessionId.toList then .automation
  else .player

/-! ## §2. Commands. -/

structure FrontierPayload (W : WorldSize) where
  /-- `none` when the coordinates name no tile. -/
  fromKey : Option (TileKey W)
  toKey : Option (TileKey W)
  musterSourceKey : Option (TileKey W)
  /-- A finite number; anything else in the payload is dropped. -/
  commitManpower : Option ℚ

structure CommandEnvelope (W : WorldSize) where
  commandId : CommandId
  sessionId : String
  playerId : PlayerId
  /-- `none` when the payload does not parse. -/
  payload : Option (FrontierPayload W)

/-- What a fight reads of the rest of the runtime: its dice, the fort on the
launch tile, and what the target would yield. -/
structure CombatRoll where
  /-- Won, and the manpower lost. -/
  rollFrontierCombat : Bool × ℚ
  originTileHeldByActiveFort : Bool
  targetRecentlyPillaged : Bool
  /-- Gold to the attacker and gold off the defender on a settled capture. -/
  previewSettledCapturePlunder : ℚ × ℚ

structure RuntimeFrontierCommandContext (W : WorldSize) where
  applyManpowerRegen : DomainPlayer → DomainPlayer
  /-- The dock tile, and whether it is an ally's. -/
  findOwnedDockOriginForCrossing : PlayerId → TileKey W → Option (TileKey W × Bool)
  findOwnedAetherBridgeOriginForCrossing : PlayerId → TileKey W → Option (TileKey W)
  /-- The tiles released with a cut-off launch tile. -/
  releaseIfStrandedOrigin : TileKey W → PlayerId → Option (List (TileKey W × DomainTileState W))
  isDockCrossingTarget : TileKey W → TileKey W → Bool
  isAetherBridgeCrossingTarget : PlayerId → TileKey W → TileKey W → Bool
  crossingBlockedByAetherWall : TileKey W → TileKey W → Bool
  isTileWardedByImperialWard : Option PlayerId → Bool
  isAlliedOrTruced : PlayerId → PlayerId → Bool
  frontierClaimDurationMsForCoords : TileKey W → Int
  expandManpowerCost : PlayerId → ℚ≥0
  requiredMusterForTarget : TileKey W → PlayerId → ℚ≥0
  attackResolveSpeedReduceMs : PlayerId → Int
  deepwaterEngineActive : PlayerId → Bool
  roll : CombatRoll

/-! ## §3. Validation. -/

structure ValidateFrontierCommandInput (W : WorldSize) where
  now : Int
  actorId : PlayerId
  actor : DomainPlayer
  actionType : FrontierCommandType
  fromKey : TileKey W
  fromTile : DomainTileState W
  toKey : TileKey W
  toTile : DomainTileState W
  originLock : Option (LockRecord W)
  targetLock : Option (LockRecord W)
  actionGoldCost : ℚ
  isAdjacent : Bool
  isDockCrossing : Bool
  isBridgeCrossing : Bool
  targetShielded : Bool
  crossingBlockedByAetherWall : Bool
  defenderIsAlliedOrTruced : Bool
  originIsAlliedDockCrossing : Bool
  expandClaimDurationMs : Int
  expandManpowerCost : ℚ≥0
  originMuster : ℚ≥0
  requiredMuster : ℚ≥0
  commitManpower : Option ℚ

structure FrontierAcceptance where
  resolvesAt : Int
  manpowerCost : ℚ≥0

variable (ctx : RuntimeFrontierCommandContext W) (s : CombatState W) (lock : LockRecord W)
  (command : CommandEnvelope W)

/-- `x.toFixed(0)` on a nonnegative number. -/
def toFixedZero (x : ℚ≥0) : String := toString ((x : ℚ) + 1 / 2).floor

/-- The commitment asked for, never below the floor. -/
def commitAtLeast (requiredMuster : ℚ≥0) (commitManpower : Option ℚ) : ℚ≥0 :=
  match commitManpower with
  | some commit => max requiredMuster (CombatState.positivePart commit)
  | none => requiredMuster

/-- What the command costs: a barbarian attack nothing, an attack its
commitment, an expansion its price. -/
def effectiveCost (input : ValidateFrontierCommandInput W) : ℚ≥0 :=
  match input.actionType with
  | .ATTACK =>
      if isBarbarianFaction input.actorId then 0
      else commitAtLeast input.requiredMuster input.commitManpower
  | .EXPAND => input.expandManpowerCost

def validateFrontierCommand (input : ValidateFrontierCommandInput W) :
    Except (String × String) FrontierAcceptance :=
  let musterAttack := input.actionType = .ATTACK
  let isBarbarianAttack := musterAttack ∧ isBarbarianFaction input.actorId = true
  let cost := effectiveCost input
  if input.actionType = .EXPAND ∧ input.toTile.ownerId.isSome = true then
    .error ("EXPAND_TARGET_OWNED", "expand only targets neutral land")
  else if musterAttack
      ∧ (input.toTile.ownerId = none ∨ input.toTile.ownerId = some input.actorId) then
    .error ("ATTACK_TARGET_INVALID", "target must be enemy-controlled land")
  else if ¬ (input.isAdjacent = true ∨ input.isDockCrossing = true
      ∨ input.isBridgeCrossing = true) then
    .error ("NOT_ADJACENT",
      "target must be adjacent, valid dock crossing, or active aether bridge target")
  else if input.fromTile.ownerId ≠ some input.actorId
      ∧ input.originIsAlliedDockCrossing = false then
    .error ("NOT_OWNER", "origin not owned")
  else if input.toTile.terrain ≠ .LAND then .error ("BARRIER", "target is barrier")
  else if (input.originLock.any (fun lock =>
      lock.resolvesAt > input.now && lock.playerId ≠ input.actorId)) = true then
    .error ("LOCKED", COMBAT_LOCK_ORIGIN_UNDER_ATTACK_MESSAGE)
  else if (input.targetLock.any (fun lock => lock.resolvesAt > input.now)) = true then
    .error ("LOCKED", COMBAT_LOCK_TARGET_MESSAGE)
  else if input.actor.points < input.actionGoldCost then
    .error ("INSUFFICIENT_GOLD",
      if musterAttack then "insufficient coin for attack"
      else "insufficient coin for frontier claim")
  else if musterAttack ∧ ¬ isBarbarianAttack ∧ input.originMuster < cost then
    .error ("INSUFFICIENT_MUSTER", s!"need {toFixedZero cost} mustered manpower to launch attack")
  else if ¬ (musterAttack ∧ ¬ isBarbarianAttack) ∧ input.actor.manpower < cost then
    .error ("INSUFFICIENT_MANPOWER",
      if musterAttack then s!"need {toFixedZero cost} manpower to launch attack"
      else s!"need {toFixedZero cost} manpower to claim frontier")
  else if input.defenderIsAlliedOrTruced then
    .error ("ALLY_TARGET", "cannot attack allied or truced tile")
  else if input.crossingBlockedByAetherWall then
    .error ("AETHER_WALL_BLOCKED", "that border is sealed by an Aether Wall")
  else if input.targetShielded then .error ("SHIELDED", "target shielded")
  else .ok {
    resolvesAt := input.now + (match input.actionType with
      | .EXPAND => input.expandClaimDurationMs
      | .ATTACK => COMBAT_LOCK_MS)
    manpowerCost := cost }

/-! ## §4. The roll. -/

def isCaptureHoldActive (tile : DomainTileState W) (now : Int) : Bool :=
  tile.ownershipState = some .FRONTIER
    && (match tile.captureHoldUntil with
      | some holdUntil => decide (holdUntil > now)
      | none => false)

def isUndefendedFrontierTile (tile : DomainTileState W) (now : Int) : Bool :=
  tile.ownershipState = some .FRONTIER && !isCaptureHoldActive tile now

def isCommitOddsEligibleTarget (tile : DomainTileState W) (now : Int) : Bool :=
  tile.ownershipState = some .SETTLED || isCaptureHoldActive tile now

/-- The defender's flag that matches the attack on settled ground. -/
def shieldFor (target : DomainTileState W) (defenderOwnerId : PlayerId) :
    Option (ShieldConsumption W) :=
  if isCommitOddsEligibleTarget target s.now && !isBarbarianFaction lock.playerId
      && (target.ownershipState = some .SETTLED : Bool) then
    match s.findShieldForDefender defenderOwnerId lock.targetKey with
    | none => none
    | some (flagKey, amount) =>
        let matched := CombatState.shieldMatchAmount amount lock.manpowerCost
        if 0 < matched then some ⟨flagKey, matched⟩ else none
  else none

/-- The result a lock carries until it resolves.  An expansion and an attack
on undefended frontier ground are certain; any other attack is rolled. -/
def buildLockedCombatResolution (roll : CombatRoll) (s : CombatState W)
    (lock : LockRecord W) : LockedCombatResolution W :=
  let previousTarget := s.tiles.get lock.targetKey
  let defenderOwnerId := previousTarget.bind (·.ownerId)
  let certain := lock.actionType = .EXPAND
    ∨ previousTarget.any (fun t => isUndefendedFrontierTile t s.now) = true
  let attackerWon := if certain then true else roll.rollFrontierCombat.1
  let shield := if certain then none else
    previousTarget.bind (fun target => defenderOwnerId.bind (shieldFor s lock target))
  let targetWasSettled := previousTarget.any (fun t => t.ownershipState = some .SETTLED)
  let plunders := attackerWon && targetWasSettled && !roll.targetRecentlyPillaged
    && (defenderOwnerId.bind s.players.get).isSome
  let plunder := if plunders then roll.previewSettledCapturePlunder else (0, 0)
  let held := previousTarget.any (fun t => isCaptureHoldActive t s.now)
  let manpowerLoss : ℚ := match lock.actionType with
    | .EXPAND => lock.manpowerCost
    | .ATTACK => if targetWasSettled || held then lock.manpowerCost else roll.rollFrontierCombat.2
  { result := {
      attackerWon := attackerWon
      defenderOwnerId := defenderOwnerId
      changes :=
        if attackerWon then
          [⟨lock.targetKey, lock.playerId,
            if isBarbarianFaction lock.playerId then .SETTLED else .FRONTIER⟩]
        else match defenderOwnerId with
          | some defender =>
              if roll.originTileHeldByActiveFort then []
              else [⟨lock.originKey, defender,
                if isBarbarianFaction defender then .SETTLED else .FRONTIER⟩]
          | none => []
      manpowerDelta := -manpowerLoss
      pillagedGold := plunder.1 }
    defenderGoldLoss := plunder.2
    targetRecentlyPillaged := roll.targetRecentlyPillaged
    shield := shield
    defendedFrontier := !certain && previousTarget.any (fun t => t.ownershipState = some .FRONTIER) }

/-! ## §5. The handler. -/

/-- `isFrontierAdjacent`: a neighbour on the torus, not the tile itself. -/
def isFrontierAdjacent (a b : TileKey W) : Bool :=
  let dx := min (Int.natAbs (a.x.val - b.x.val : Int) : Int)
    (W.width - (Int.natAbs (a.x.val - b.x.val : Int) : Int))
  let dy := min (Int.natAbs (a.y.val - b.y.val : Int) : Int)
    (W.height - (Int.natAbs (a.y.val - b.y.val : Int) : Int))
  dx ≤ 1 && dy ≤ 1 && (dx ≠ 0 || dy ≠ 0)

/-- The tile a command launches from, and whether it is an ally's dock: the
submitted tile, an owned tile next to the target, a dock, a bridge. -/
def resolveFrontierOrigin (actorId : PlayerId) (fromKey toKey : TileKey W) : TileKey W × Bool :=
  let ownedBy := fun key => (s.tiles.get key).any (fun t => t.ownerId = some actorId)
  if ownedBy fromKey then (fromKey, false)
  else
    match toKey.neighbors.find? (fun key => (s.tiles.get key).any (fun t =>
        t.ownerId = some actorId && t.terrain = .LAND)) with
    | some key => (key, false)
    | none =>
        match ctx.findOwnedDockOriginForCrossing actorId toKey with
        | some dock => dock
        | none => ((ctx.findOwnedAetherBridgeOriginForCrossing actorId toKey).getD fromKey, false)

/-- The muster an attack must find: its floor, or the commitment above it. -/
def musterNeeded (actorId : PlayerId) (toKey : TileKey W) (payload : FrontierPayload W) : ℚ≥0 :=
  commitAtLeast (ctx.requiredMusterForTarget toKey actorId) payload.commitManpower

/-- The flag that pays for an attack; barbarians need none. -/
def musterSourceFor (actorId : PlayerId) (actionType : FrontierCommandType)
    (fromKey toKey : TileKey W) (payload : FrontierPayload W) : Option (TileKey W × ℚ≥0) :=
  if actionType = .ATTACK ∧ isBarbarianFaction actorId = false then
    s.resolveMusterSource actorId fromKey (musterNeeded ctx actorId toKey payload)
      payload.musterSourceKey
  else none

/-- The muster validation is told of: what the source has free, or else
everything staged on the launch tile by the actor. -/
def originMusterFor (actorId : PlayerId) (musterSource : Option (TileKey W × ℚ≥0))
    (fromTile : DomainTileState W) : ℚ≥0 :=
  match musterSource with
  | some source => source.2
  | none => CombatState.stagedFor fromTile actorId

/-- Travel time of an automated command: from the flag to the launch tile,
one tile at least and fifteen at most. -/
def transitMs (payload : FrontierPayload W) (originKey : TileKey W) : Int :=
  match lockSourceFromSessionId command.sessionId, payload.musterSourceKey with
  | .automation, some flag =>
      min MUSTER_TRANSIT_MAX_TILES (max 1 (chebyshevWithWrap W flag.x.val flag.y.val
        originKey.x.val originKey.y.val)) * MUSTER_TRANSIT_MS_PER_TILE
  | _, _ => 0

/-- When the lock resolves, after effects, transit and the dock relic. -/
def lockResolvesAt (actionType : FrontierCommandType) (payload : FrontierPayload W)
    (originKey : TileKey W) (acceptance : FrontierAcceptance) :
    Int :=
  let transit := transitMs command payload originKey
  match actionType with
  | .EXPAND => acceptance.resolvesAt + transit
  | .ATTACK =>
      let resolvesAt := max (s.now + MIN_ATTACK_RESOLVE_MS)
        (acceptance.resolvesAt - ctx.attackResolveSpeedReduceMs command.playerId) + transit
      if (s.tiles.get originKey).any (·.isDock)
          && ctx.deepwaterEngineActive command.playerId then
        s.now + max MIN_ATTACK_RESOLVE_MS ((3 * (resolvesAt - s.now) + 2) / 4)
      else resolvesAt

/-- The flag a lock names: an attack the one that funds it, an automated
expansion the one it marches from. -/
def lockMusterSourceKey (actionType : FrontierCommandType) (payload : FrontierPayload W)
    (originKey : TileKey W) (musterSource : Option (TileKey W × ℚ≥0)) : Option (TileKey W) :=
  match actionType with
  | .ATTACK =>
      if isBarbarianFaction command.playerId then none
      else some ((musterSource.map (·.1)).getD originKey)
  | .EXPAND =>
      match lockSourceFromSessionId command.sessionId with
      | .automation => payload.musterSourceKey
      | .player => none

def releasedBarbarianTile (tile : DomainTileState W) : DomainTileState W :=
  { tile with ownerId := none, ownershipState := none, captureHoldUntil := none, muster := none }

def launchBarbarianAttack : CombatState W :=
  match s.tiles.get lock.originKey with
  | some origin =>
      if origin.ownerId = some barbarianFaction then
        let released := releasedBarbarianTile origin
        (s.replaceTileState lock.originKey released).emitEvent
          (.TILE_DELTA_BATCH lock.commandId lock.playerId
            [CombatState.tileDelta lock.originKey released])
      else s
  | none => s

def CombatState.reserve (key : TileKey W) (amount : ℚ≥0) : CombatState W :=
  { s with musterReservedByKey := Ledger.credit s.musterReservedByKey key amount }

/-- An attack reserves its cost at the flag it names. -/
def reserveForAttack : CombatState W :=
  match lock.actionType, lock.musterSourceKey with
  | .ATTACK, some key => s.reserve key lock.manpowerCost
  | _, _ => s

def chargeExpansion : CombatState W :=
  match lock.actionType, s.players.get lock.playerId with
  | .EXPAND, some actor =>
      { s with
        players := s.players.set lock.playerId
          { actor with manpower := max 0 (actor.manpower - lock.manpowerCost) } }
  | _, _ => s

def reserveShield : CombatState W :=
  match lock.shield with
  | some shield => s.reserve shield.tileKey shield.matched
  | none => s

/-- `scheduleLockResolution`. -/
def scheduleLockResolution : CombatState W :=
  { s with scheduled := s.scheduled ++ [⟨lock, s.now + max 1 (lock.resolvesAt - s.now)⟩] }

/-- The lock before its roll. -/
def baseLockFor (actionType : FrontierCommandType) (payload : FrontierPayload W)
    (originKey toKey : TileKey W) (musterSource : Option (TileKey W × ℚ≥0))
    (acceptance : FrontierAcceptance) :
    LockRecord W where
  commandId := command.commandId
  playerId := command.playerId
  actionType := actionType
  manpowerCost := acceptance.manpowerCost
  originKey := originKey
  targetKey := toKey
  resolvesAt := lockResolvesAt ctx s command actionType payload originKey acceptance
  source := lockSourceFromSessionId command.sessionId
  combatResolution := none
  musterSourceKey := lockMusterSourceKey command actionType payload originKey musterSource
  barbarianLaunch := false

/-- The lock as it is stored: with the roll of an attack, and marked when a
barbarian launched it. -/
def rolledLock (baseLock : LockRecord W) : LockRecord W :=
  match baseLock.actionType with
  | .EXPAND => baseLock
  | .ATTACK => { baseLock with
      combatResolution := some (buildLockedCombatResolution ctx.roll s baseLock)
      barbarianLaunch := isBarbarianFaction baseLock.playerId }

/-- Everything the handler does once the command is valid. -/
def acceptFrontierCommand (baseLock : LockRecord W) : CombatState W :=
  let s := chargeExpansion (reserveForAttack s baseLock) baseLock
  let lock := rolledLock ctx s baseLock
  let s := reserveShield s lock
  let s := if lock.barbarianLaunch then launchBarbarianAttack s lock else s
  let s := { s with
    locksByTile := s.locksByTile.addLock lock
    locksByCommandId := s.locksByCommandId.set lock.commandId lock }
  let s := s.emitEvent (.COMMAND_ACCEPTED lock.commandId lock.playerId lock.actionType
    lock.originKey lock.targetKey lock.resolvesAt
    (lock.combatResolution.map (·.result)))
  scheduleLockResolution s lock

def frontierValidationInput (actionType : FrontierCommandType) (payload : FrontierPayload W)
    (actor : DomainPlayer) (fromKey toKey : TileKey W) (fromTile toTile : DomainTileState W)
    (isAlliedDock : Bool) (musterSource : Option (TileKey W × ℚ≥0)) :
    ValidateFrontierCommandInput W :=
  let actorId := command.playerId
  let originLock := (s.locksByTile.targetLockAt fromKey).or
    ((s.locksByTile.originLocksAt fromKey).find? (fun lock => lock.playerId ≠ actorId))
  { now := s.now
    actorId := actorId
    actor := actor
    actionType := actionType
    fromKey := fromKey
    fromTile := fromTile
    toKey := toKey
    toTile := toTile
    originLock := originLock
    targetLock := s.locksByTile.targetLockAt toKey
    actionGoldCost := if isBarbarianFaction actorId then 0 else FRONTIER_CLAIM_COST
    isAdjacent := isFrontierAdjacent fromKey toKey
    isDockCrossing := ctx.isDockCrossingTarget fromKey toKey
    isBridgeCrossing := ctx.isAetherBridgeCrossingTarget actorId fromKey toKey
    targetShielded := ctx.isTileWardedByImperialWard toTile.ownerId
    crossingBlockedByAetherWall :=
      !ctx.isDockCrossingTarget fromKey toKey && ctx.crossingBlockedByAetherWall fromKey toKey
    defenderIsAlliedOrTruced := toTile.ownerId.any (fun owner => ctx.isAlliedOrTruced actorId owner)
    originIsAlliedDockCrossing := isAlliedDock
    expandClaimDurationMs := ctx.frontierClaimDurationMsForCoords toKey
    expandManpowerCost := ctx.expandManpowerCost actorId
    originMuster := originMusterFor actorId musterSource fromTile
    requiredMuster := ctx.requiredMusterForTarget toKey actorId
    commitManpower := payload.commitManpower }

def handleFrontierCommandImpl (actionType : FrontierCommandType) : CombatState W :=
  let reject := fun (s : CombatState W) => s.rejectCommand command.commandId command.playerId
  match s.players.get command.playerId, command.payload with
  | some actor, some payload =>
      let actor := ctx.applyManpowerRegen actor
      let s := { s with players := s.players.set command.playerId actor }
      match payload.fromKey, payload.toKey with
      | some submittedKey, some toKey =>
          match s.tiles.get submittedKey, s.tiles.get toKey with
          | some _, some toTile =>
              let (fromKey, isAlliedDock) :=
                resolveFrontierOrigin ctx s command.playerId submittedKey toKey
              match s.tiles.get fromKey with
              | none => reject s "UNKNOWN_TILE" "origin or target tile not found"
              | some fromTile =>
                  let stranded :=
                    if fromTile.ownershipState = some .FRONTIER then
                      ctx.releaseIfStrandedOrigin fromKey command.playerId
                    else none
                  match stranded with
                  | some released =>
                      reject (s.replaceTiles released) "ORIGIN_CUT_OFF"
                        "origin tile is cut off from supply and cannot launch actions"
                  | none =>
                      let musterSource := musterSourceFor ctx s command.playerId actionType
                        fromKey toKey payload
                      match validateFrontierCommand (frontierValidationInput ctx s command
                        actionType payload actor fromKey toKey fromTile toTile isAlliedDock
                        musterSource) with
                      | .error (code, message) => reject s code message
                      | .ok acceptance =>
                          acceptFrontierCommand ctx s (baseLockFor ctx s command actionType
                            payload fromKey toKey musterSource acceptance)
          | _, _ => reject s "UNKNOWN_TILE" "origin or target tile not found"
      | _, _ => reject s "UNKNOWN_TILE" "origin or target tile not found"
  | _, _ => reject s "BAD_COMMAND" "invalid command payload"

/-! ## §6. What the handler decides. -/

inductive FrontierVerdict (W : WorldSize) where
  | rejected (code message : String)
  | cutOff (released : List (TileKey W × DomainTileState W))
  | accepted (baseLock : LockRecord W)

/-- The state a frontier command is decided in: the actor's pool is up to
date. -/
def regenerated : CombatState W :=
  match s.players.get command.playerId, command.payload with
  | some actor, some _ =>
      { s with players := s.players.set command.playerId (ctx.applyManpowerRegen actor) }
  | _, _ => s

/-- The launch tile's frontier component, when it is cut off from supply. -/
def strandedOrigin (fromKey : TileKey W) (fromTile : DomainTileState W) :
    Option (List (TileKey W × DomainTileState W)) :=
  if fromTile.ownershipState = some .FRONTIER then
    ctx.releaseIfStrandedOrigin fromKey command.playerId
  else none

def launchVerdict (actionType : FrontierCommandType) (payload : FrontierPayload W)
    (actor : DomainPlayer) (fromKey toKey : TileKey W) (fromTile toTile : DomainTileState W)
    (isAlliedDock : Bool) : FrontierVerdict W :=
  match strandedOrigin ctx command fromKey fromTile with
  | some released => .cutOff released
  | none =>
      let musterSource := musterSourceFor ctx s command.playerId actionType fromKey toKey payload
      match validateFrontierCommand (frontierValidationInput ctx s command actionType payload
        actor fromKey toKey fromTile toTile isAlliedDock musterSource) with
      | .error (code, message) => .rejected code message
      | .ok acceptance => .accepted
          (baseLockFor ctx s command actionType payload fromKey toKey musterSource acceptance)

def frontierVerdict (actionType : FrontierCommandType) : FrontierVerdict W :=
  match s.players.get command.playerId, command.payload with
  | some actor, some payload =>
      match payload.fromKey, payload.toKey with
      | some submittedKey, some toKey =>
          match s.tiles.get submittedKey, s.tiles.get toKey with
          | some _, some toTile =>
              let origin := resolveFrontierOrigin ctx s command.playerId submittedKey toKey
              match s.tiles.get origin.1 with
              | none => .rejected "UNKNOWN_TILE" "origin or target tile not found"
              | some fromTile => launchVerdict ctx s command actionType payload actor origin.1
                  toKey fromTile toTile origin.2
          | _, _ => .rejected "UNKNOWN_TILE" "origin or target tile not found"
      | _, _ => .rejected "UNKNOWN_TILE" "origin or target tile not found"
  | _, _ => .rejected "BAD_COMMAND" "invalid command payload"

def enactVerdict (verdict : FrontierVerdict W) : CombatState W :=
  match verdict with
  | .rejected code message => s.rejectCommand command.commandId command.playerId code message
  | .cutOff released =>
      (s.replaceTiles released).rejectCommand command.commandId command.playerId
        "ORIGIN_CUT_OFF" "origin tile is cut off from supply and cannot launch actions"
  | .accepted baseLock => acceptFrontierCommand ctx s baseLock

/-- **The handler enacts its verdict.** -/
theorem handleFrontierCommandImpl_eq (actionType : FrontierCommandType) :
    handleFrontierCommandImpl ctx s command actionType
      = enactVerdict ctx (regenerated ctx s command) command
          (frontierVerdict ctx (regenerated ctx s command) command actionType) := by
  unfold handleFrontierCommandImpl frontierVerdict regenerated
  cases hactor : s.players.get command.playerId with
  | none => simp only [hactor, enactVerdict]
  | some actor =>
      cases hpayload : command.payload with
      | none => simp only [hactor, enactVerdict]
      | some payload =>
          simp only [InsertionMap.get_set_self]
          cases payload.fromKey with
          | none => rfl
          | some submittedKey =>
              cases payload.toKey with
              | none => rfl
              | some toKey =>
                  dsimp only
                  cases s.tiles.get submittedKey with
                  | none => rfl
                  | some _ =>
                      cases s.tiles.get toKey with
                      | none => rfl
                      | some toTile =>
                          dsimp only
                          split
                          · rfl
                          unfold launchVerdict strandedOrigin
                          split
                          · simp only [enactVerdict]
                          · dsimp only
                            split <;> simp only [enactVerdict]

/-- What the handler has checked when it accepts a command as a lock. -/
inductive FrontierAccepted (ctx : RuntimeFrontierCommandContext W) (s : CombatState W)
    (command : CommandEnvelope W) (actionType : FrontierCommandType) :
    LockRecord W → Prop
  | intro (payload : FrontierPayload W) (actor : DomainPlayer) (fromKey toKey : TileKey W)
      (fromTile toTile : DomainTileState W) (isAlliedDock : Bool)
      (acceptance : FrontierAcceptance)
      (hactor : s.players.get command.playerId = some actor)
      (hpayload : command.payload = some payload)
      (hfrom : s.tiles.get fromKey = some fromTile) (hto : s.tiles.get toKey = some toTile)
      (hvalid : validateFrontierCommand (frontierValidationInput ctx s command actionType payload
        actor fromKey toKey fromTile toTile isAlliedDock
        (musterSourceFor ctx s command.playerId actionType fromKey toKey payload))
        = .ok acceptance) :
      FrontierAccepted ctx s command actionType
        (baseLockFor ctx s command actionType payload fromKey toKey
          (musterSourceFor ctx s command.playerId actionType fromKey toKey payload) acceptance)

theorem frontierVerdict_accepted {ctx : RuntimeFrontierCommandContext W} {s : CombatState W}
    {command : CommandEnvelope W} {actionType : FrontierCommandType} {lock : LockRecord W}
    (h : frontierVerdict ctx s command actionType = .accepted lock) :
    FrontierAccepted ctx s command actionType lock := by
  unfold frontierVerdict at h
  split at h
  next actor payload hactor hpayload =>
    split at h
    next submittedKey toKey hfrom hto =>
      split at h
      next fromT toTile hsub htile =>
        dsimp only at h
        split at h
        · cases h
        next fromTile hfromTile =>
          unfold launchVerdict at h
          split at h
          · cases h
          dsimp only at h
          split at h
          · cases h
          next acceptance hvalid =>
            cases h
            exact .intro payload actor _ toKey fromTile toTile _ acceptance hactor hpayload
              hfromTile htile hvalid
      · cases h
    · cases h
  · cases h

/-! ## §7. What validation has made sure of. -/

/-- The facts behind an accepted input that later arguments use. -/
structure ValidationFacts (input : ValidateFrontierCommandInput W)
    (acceptance : FrontierAcceptance) : Prop where
  cost : acceptance.manpowerCost = effectiveCost input
  expandsNeutral : input.actionType = .EXPAND → input.toTile.ownerId = none
  attacksEnemy : input.actionType = .ATTACK →
    input.toTile.ownerId ≠ none ∧ input.toTile.ownerId ≠ some input.actorId
  mustered : input.actionType = .ATTACK → isBarbarianFaction input.actorId = false →
    effectiveCost input ≤ input.originMuster

theorem ok_of_guard {E A : Type} {c : Prop} [Decidable c] {e : E} {x : Except E A} {a : A}
    (h : (if c then .error e else x) = .ok a) : ¬ c ∧ x = .ok a := by
  by_cases hc : c
  · rw [if_pos hc] at h
    cases h
  · rw [if_neg hc] at h
    exact ⟨hc, h⟩

theorem validateFrontierCommand_ok {input : ValidateFrontierCommandInput W}
    {acceptance : FrontierAcceptance} (h : validateFrontierCommand input = .ok acceptance) :
    ValidationFacts input acceptance := by
  unfold validateFrontierCommand at h
  -- the checks in the source's order
  obtain ⟨hexpand, h⟩ := ok_of_guard h
  obtain ⟨hattack, h⟩ := ok_of_guard h
  obtain ⟨_hadjacent, h⟩ := ok_of_guard h
  obtain ⟨_howned, h⟩ := ok_of_guard h
  obtain ⟨_hland, h⟩ := ok_of_guard h
  obtain ⟨_horigin, h⟩ := ok_of_guard h
  obtain ⟨_htarget, h⟩ := ok_of_guard h
  obtain ⟨_hgold, h⟩ := ok_of_guard h
  obtain ⟨hmuster, h⟩ := ok_of_guard h
  obtain ⟨_hmanpower, h⟩ := ok_of_guard h
  obtain ⟨_hally, h⟩ := ok_of_guard h
  obtain ⟨_hwall, h⟩ := ok_of_guard h
  obtain ⟨_hward, h⟩ := ok_of_guard h
  cases h
  refine ⟨rfl, ?_, ?_, ?_⟩
  · intro hE
    cases howner : input.toTile.ownerId with
    | none => rfl
    | some owner => exact absurd ⟨hE, by rw [howner]; rfl⟩ hexpand
  · intro hA
    have hnot : ¬ (input.toTile.ownerId = none ∨ input.toTile.ownerId = some input.actorId) :=
      fun hor => hattack ⟨hA, hor⟩
    exact not_or.mp hnot
  · intro hA hbarb
    by_contra hlt
    exact hmuster ⟨hA, fun hb => by simp [hb.2] at hbarb, not_le.mp hlt⟩

end BorderEmpires.Combat
