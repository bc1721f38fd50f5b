/-
  BorderEmpires.Combat.Flags
  **MUSTER FLAGS: STAGING, FUNDING, SHIELDING, SPENDING.**

  A flag stands on a tile and stages manpower.  Attacks are funded from a
  flag (`resolveMusterSource`), defenders are shielded by one
  (`findShieldForDefender`), and both are spent when the attack resolves
  (`consumeOriginMuster`).  Between accept and resolve the amounts are
  only reserved, in `musterReservedByKey`.

  `CombatState` is the part of the runtime these functions share with the
  lock index: tiles, players, reservations, locks, armed timers, and the
  events emitted so far.
-/
import BorderEmpires.Combat.LockIndex
import BorderEmpires.Lib.Ledger

namespace BorderEmpires.Combat

variable {W : WorldSize}

/-! ## §1. Tiles and players. -/

inductive MusterMode where
  | HOLD
  | ADVANCE
  | MARCH
  deriving DecidableEq, Repr

structure MusterState (W : WorldSize) where
  ownerId : PlayerId
  amount : ℚ≥0
  mode : MusterMode
  targetKey : Option (TileKey W)
  commitManpower : Option ℚ
  capLevel : Nat
  setAt : Option Int
  updatedAt : Int
  ratePerMin : Option ℚ
  deriving DecidableEq

structure DomainTileState (W : WorldSize) where
  terrain : Terrain
  ownerId : Option PlayerId
  ownershipState : Option OwnershipState
  captureHoldUntil : Option Int
  isDock : Bool
  muster : Option (MusterState W)
  deriving DecidableEq

structure DomainPlayer where
  isAi : Bool
  points : ℚ
  manpower : ℚ
  waystationManpowerOverflow : Option ℚ
  deriving DecidableEq

/-! ## §2. The shared state. -/

structure TileDelta (W : WorldSize) where
  tileKey : TileKey W
  ownerId : Option PlayerId
  ownershipState : Option OwnershipState
  deriving DecidableEq

inductive SimulationEvent (W : WorldSize) where
  | COMMAND_REJECTED (commandId : CommandId) (playerId : PlayerId) (code message : String)
  | COMMAND_ACCEPTED (commandId : CommandId) (playerId : PlayerId)
      (actionType : FrontierCommandType) (origin target : TileKey W) (resolvesAt : Int)
      (combatResult : Option (LockedFrontierCombatResult W))
  | COMMAND_RESOLVED (commandId : CommandId) (playerId : PlayerId)
  | COMBAT_RESOLVED (commandId : CommandId) (playerId : PlayerId)
      (actionType : FrontierCommandType) (origin target : TileKey W) (attackerWon : Bool)
      (combatResult : Option (LockedFrontierCombatResult W))
  | COMBAT_CANCELLED (commandId : CommandId) (playerId : PlayerId)
      (cancelledCommandIds : List CommandId)
  | TILE_DELTA_BATCH (commandId : CommandId) (playerId : PlayerId)
      (tileDeltas : List (TileDelta W))
  deriving DecidableEq

/-- A resolution timer: the lock it was armed with, and when it is due. -/
structure ScheduledResolution (W : WorldSize) where
  lock : LockRecord W
  dueAt : Int
  deriving DecidableEq

structure CombatState (W : WorldSize) where
  now : Int
  players : InsertionMap PlayerId DomainPlayer
  tiles : InsertionMap (TileKey W) (DomainTileState W)
  musterTilesByOwner : InsertionMap PlayerId (List (TileKey W))
  musterReservedByKey : InsertionMap (TileKey W) ℚ≥0
  locksByTile : CombatLockIndex W
  locksByCommandId : InsertionMap CommandId (LockRecord W)
  scheduled : List (ScheduledResolution W)
  emitted : List (SimulationEvent W)
  /-- The EXPAND charges handed back so far, oldest first. -/
  refunds : List CommandId

namespace CombatState

variable (s : CombatState W)

def emitEvent (event : SimulationEvent W) : CombatState W :=
  { s with emitted := s.emitted ++ [event] }

def rejectCommand (commandId : CommandId) (playerId : PlayerId) (code message : String) :
    CombatState W :=
  s.emitEvent (.COMMAND_REJECTED commandId playerId code message)

/-- `refreshMusterIndexForTile`: the tile moves between the owners' sets when
its flag changes hands. -/
def refreshMusterIndexForTile (index : InsertionMap PlayerId (List (TileKey W)))
    (key : TileKey W) (previous : Option (DomainTileState W)) (next : DomainTileState W) :
    InsertionMap PlayerId (List (TileKey W)) :=
  let prevOwnerId := (previous.bind (·.muster)).map (·.ownerId)
  let nextOwnerId := next.muster.map (·.ownerId)
  if prevOwnerId = nextOwnerId then index
  else
    let index := match prevOwnerId with
      | none => index
      | some owner =>
          match index.get owner with
          | none => index
          | some keys => index.set owner (keys.filter (fun k => k ≠ key))
    match nextOwnerId with
    | none => index
    | some owner => index.set owner (InsertionSet.add ((index.get owner).getD []) key)

def replaceTileState (key : TileKey W) (tile : DomainTileState W) : CombatState W :=
  { s with
    tiles := s.tiles.set key tile
    musterTilesByOwner :=
      refreshMusterIndexForTile s.musterTilesByOwner key (s.tiles.get key) tile }

def tileDelta (key : TileKey W) (tile : DomainTileState W) : TileDelta W :=
  ⟨key, tile.ownerId, tile.ownershipState⟩

def replaceTiles (changes : List (TileKey W × DomainTileState W)) : CombatState W :=
  changes.foldl (fun s change => s.replaceTileState change.1 change.2) s

def flagAt (key : TileKey W) : Option (MusterState W) := (s.tiles.get key).bind (·.muster)

def stagedAt (key : TileKey W) : ℚ≥0 :=
  match s.flagAt key with
  | some muster => muster.amount
  | none => 0

def stagedFor (tile : DomainTileState W) (p : PlayerId) : ℚ≥0 :=
  match tile.muster with
  | some muster => if muster.ownerId = p then muster.amount else 0
  | none => 0

def stagedManpower (p : PlayerId) : ℚ≥0 := s.tiles.total (fun _ tile => stagedFor tile p)

/-! ## §3. Siege, funding and shields. -/

/-- The enemy fight on a tile. -/
def besiegingLockAt (key : TileKey W) (playerId : PlayerId) : Option (LockRecord W) :=
  (s.locksByTile.targetLockAt key).filter (fun lock => lock.playerId ≠ playerId)

def reservedAt (key : TileKey W) : ℚ≥0 := Ledger.balance s.musterReservedByKey key

/-- What the player's unbesieged flag on the tile has beyond its
reservations, when that covers the requirement. -/
def fundableAt (actorId : PlayerId) (required : ℚ≥0) (key : TileKey W) : Option ℚ≥0 :=
  match s.flagAt key with
  | none => none
  | some muster =>
      if muster.ownerId = actorId ∧ s.besiegingLockAt key actorId = none
          ∧ s.reservedAt key + required ≤ muster.amount
      then some (muster.amount - s.reservedAt key) else none

/-- One candidate of the nearest-flag search: strictly nearer, and within
ten tiles. -/
def nearerSource (actorId : PlayerId) (required : ℚ≥0) (originKey : TileKey W)
    (preferredKey : Option (TileKey W)) (best : Option (TileKey W × ℚ≥0 × Int)) (key : TileKey W) :
    Option (TileKey W × ℚ≥0 × Int) :=
  if key = originKey ∨ some key = preferredKey then best
  else
    match s.fundableAt actorId required key with
    | none => best
    | some available =>
        let dist := chebyshevWithWrap W key.x.val key.y.val originKey.x.val originKey.y.val
        match best with
        | some (_, _, bestDist) =>
            if dist ≤ 10 ∧ dist < bestDist then some (key, available, dist) else best
        | none => if dist ≤ 10 then some (key, available, dist) else none

/-- The flag that funds an attack: the origin's own, the preferred one, or
the nearest. -/
def resolveMusterSource (actorId : PlayerId) (originKey : TileKey W) (required : ℚ≥0)
    (preferredKey : Option (TileKey W)) : Option (TileKey W × ℚ≥0) :=
  match s.tiles.get originKey with
  | none => none
  | some _ =>
      match s.fundableAt actorId required originKey with
      | some available => some (originKey, available)
      | none =>
          let preferred := preferredKey.bind (fun key =>
            if key = originKey then none
            else (s.fundableAt actorId required key).map (fun available => (key, available)))
          match preferred with
          | some source => some source
          | none =>
              let musterKeys := (s.musterTilesByOwner.get actorId).getD []
              (musterKeys.foldl (s.nearerSource actorId required originKey preferredKey)
                none).map (fun best => (best.1, best.2.1))

def SHIELD_RADIUS_TILES : Int := 3

/-- One flag of the defender: it must have manpower free, and stand on the
target or hold within the shield radius; the largest counts. -/
def largerShield (defenderOwnerId : PlayerId) (targetKey : TileKey W)
    (best : Option (TileKey W × ℚ≥0)) (flagKey : TileKey W) : Option (TileKey W × ℚ≥0) :=
  match s.flagAt flagKey with
  | none => best
  | some muster =>
      let amount := muster.amount - s.reservedAt flagKey
      let inArea := muster.mode = .HOLD ∧
        chebyshevWithWrap W flagKey.x.val flagKey.y.val targetKey.x.val targetKey.y.val
          ≤ SHIELD_RADIUS_TILES
      if muster.ownerId ≠ defenderOwnerId ∨ amount = 0 ∨ ¬ (flagKey = targetKey ∨ inArea)
      then best
      else match best with
        | none => some (flagKey, amount)
        | some b => if b.2 < amount then some (flagKey, amount) else best

def findShieldForDefender (defenderOwnerId : PlayerId) (targetKey : TileKey W) :
    Option (TileKey W × ℚ≥0) :=
  ((s.musterTilesByOwner.get defenderOwnerId).getD []).foldl
    (s.largerShield defenderOwnerId targetKey) none

def shieldMatchAmount (shieldAvailable attackerCommit : ℚ≥0) : ℚ≥0 :=
  min shieldAvailable attackerCommit

/-- Spend manpower staged on a tile by the player; nothing happens when the
player has no flag there. -/
def consumeOriginMuster (originKey : TileKey W) (playerId : PlayerId) (amount : ℚ≥0) :
    CombatState W :=
  match s.tiles.get originKey with
  | none => s
  | some tile =>
      match tile.muster with
      | none => s
      | some muster =>
          if muster.ownerId = playerId then
            let updatedTile := { tile with
              muster := some { muster with amount := muster.amount - amount, updatedAt := s.now } }
            (s.replaceTileState originKey updatedTile).emitEvent
              (.TILE_DELTA_BATCH s!"muster-spend:{originKey.text}:{s.now}" playerId
                [tileDelta originKey updatedTile])
          else s

/-! ## §4. The pool. -/

def manpowerCeiling (player : DomainPlayer) (cap : ℚ) : ℚ :=
  cap + max 0 (player.waystationManpowerOverflow.getD 0)

def creditManpower (player : DomainPlayer) (amount cap : ℚ) : DomainPlayer :=
  { player with manpower := min (manpowerCeiling player cap) (player.manpower + amount) }

/-! ## §5. Raising, clearing and filling a flag. -/

def MUSTER_FLAG_CAP_MANPOWER_FRACTION : ℚ := 1 / 10
def MUSTER_FLAG_BASE_CAP_FLOOR : ℚ := 150
def MUSTER_BASE_RATE_PER_MIN : ℚ := 180
def MUSTER_STALE_MS : Int := 2 * 24 * 60 * 60 * 1000
def MUSTER_MARCH_MAX_DISTANCE_TILES : Int := 30

def musterFlagCap (manpowerCap : ℚ) (capLevel : Nat) : ℚ :=
  let share := manpowerCap * MUSTER_FLAG_CAP_MANPOWER_FRACTION
  min (max MUSTER_FLAG_BASE_CAP_FLOOR share + capLevel * share) manpowerCap

/-- The smallest level at which the flag's cap holds the commitment, never
below the level it has. -/
def musterCapLevelToFit (manpowerCap : ℚ) (capLevel : Nat) (required : ℚ) : Nat :=
  let target := min required manpowerCap
  if target ≤ musterFlagCap manpowerCap capLevel then capLevel
  else
    let share := manpowerCap * MUSTER_FLAG_CAP_MANPOWER_FRACTION
    if share ≤ 0 then capLevel
    else
      let base := max MUSTER_FLAG_BASE_CAP_FLOOR share
      let fit := max capLevel (((target - base) / share - 1 / 1000000000).ceil.toNat)
      if target ≤ musterFlagCap manpowerCap fit then fit else fit + 1

def fittedCapLevel (manpowerCap : ℚ) (capLevel : Nat) (commitManpower : Option ℚ) : Nat :=
  match commitManpower with
  | none => capLevel
  | some commit => musterCapLevelToFit manpowerCap capLevel commit

/-- What the muster commands read of the rest of the runtime. -/
structure MusterCommandContext where
  playerManpowerCap : DomainPlayer → ℚ
  playerMusterFlagLimit : PlayerId → Nat

structure SetMusterPayload (W : WorldSize) where
  tileKey : TileKey W
  mode : MusterMode
  /-- Off the map when `some none`. -/
  target : Option (Option (TileKey W))
  commitManpower : Option ℚ

def musterMarchTooFarAdvice (distanceTiles : Int) : Option String :=
  if distanceTiles > MUSTER_MARCH_MAX_DISTANCE_TILES then
    some (s!"That target is {distanceTiles} tiles from this flag, and marches are limited to "
      ++ s!"{MUSTER_MARCH_MAX_DISTANCE_TILES} tiles. Raise a muster flag closer to the target "
      ++ "instead: troops take much longer to walk across the map than it takes to muster next to "
      ++ "the fight.")
  else none

def MUSTER_UNDER_SIEGE_MESSAGE : String := "muster flag is under siege"

/-- The checks on a march order: a target off the flag's tile, on the map,
and within marching distance. -/
def marchRejection (payload : SetMusterPayload W) : Option (String × String) :=
  match payload.mode, payload.target with
  | .MARCH, some (some target) =>
      if target = payload.tileKey then
        some ("MUSTER_INVALID", "march target must differ from the flag tile")
      else
        (musterMarchTooFarAdvice (chebyshevWithWrap W payload.tileKey.x.val payload.tileKey.y.val
          target.x.val target.y.val)).map (fun advice => ("MUSTER_MARCH_TOO_FAR", advice))
  | .MARCH, _ => some ("MUSTER_INVALID", "march target must be on the map")
  | _, _ => none

/-- The flag a SET_MUSTER leaves: a new one is empty, a standing one keeps
what it has staged. -/
def musterAfterSet (now : Int) (cap : ℚ) (playerId : PlayerId) (payload : SetMusterPayload W)
    (previous : Option (MusterState W)) : MusterState W :=
  let standing := previous.filter (fun m => m.ownerId = playerId)
  { ownerId := playerId
    amount := (standing.map (·.amount)).getD 0
    mode := payload.mode
    targetKey := payload.target.bind id
    commitManpower := payload.commitManpower.or (previous.bind (·.commitManpower))
    capLevel := fittedCapLevel cap ((standing.map (·.capLevel)).getD 0) payload.commitManpower
    setAt := some ((standing.bind (·.setAt)).getD now)
    updatedAt := now
    ratePerMin := none }

/-- The checks on a SET_MUSTER, in order; `none` lets it through. -/
def setMusterRejection (ctx : MusterCommandContext) (s : CombatState W) (playerId : PlayerId)
    (payload : SetMusterPayload W) (target : DomainTileState W) : Option (String × String) :=
  if target.ownerId ≠ some playerId ∨ target.terrain ≠ .LAND then
    some ("MUSTER_INVALID", "owned LAND tile required to muster")
  else if payload.mode ≠ .HOLD ∧ target.muster.isSome = true
      ∧ (s.besiegingLockAt payload.tileKey playerId).isSome = true then
    some ("MUSTER_UNDER_SIEGE", MUSTER_UNDER_SIEGE_MESSAGE)
  else match marchRejection payload with
    | some rejection => some rejection
    | none =>
        let isNewMuster := target.muster.map (·.ownerId) ≠ some playerId
        let activeMusters := ((s.musterTilesByOwner.get playerId).getD []).length
        let musterLimit := ctx.playerMusterFlagLimit playerId
        if isNewMuster ∧ musterLimit ≤ activeMusters then
          some ("MUSTER_LIMIT", s!"max {musterLimit} muster tiles per player")
        else none

def musteredTile (ctx : MusterCommandContext) (s : CombatState W) (playerId : PlayerId)
    (payload : SetMusterPayload W) (actor : DomainPlayer) (target : DomainTileState W) :
    DomainTileState W :=
  { target with
    muster := some (musterAfterSet s.now (ctx.playerManpowerCap actor) playerId payload
      target.muster) }

def handleSetMusterCommand (ctx : MusterCommandContext) (s : CombatState W)
    (commandId : CommandId) (playerId : PlayerId) (payload : SetMusterPayload W) :
    CombatState W :=
  match s.players.get playerId, s.tiles.get payload.tileKey with
  | none, _ => s.rejectCommand commandId playerId "BAD_COMMAND" "invalid command payload"
  | some _, none => s.rejectCommand commandId playerId "MUSTER_INVALID"
      "owned LAND tile required to muster"
  | some actor, some target =>
      match setMusterRejection ctx s playerId payload target with
      | some (code, message) => s.rejectCommand commandId playerId code message
      | none =>
          let updatedTile := musteredTile ctx s playerId payload actor target
          let s := s.replaceTileState payload.tileKey updatedTile
          let keys := InsertionSet.add ((s.musterTilesByOwner.get playerId).getD [])
            payload.tileKey
          let s := { s with musterTilesByOwner := s.musterTilesByOwner.set playerId keys }
          (s.emitEvent (.TILE_DELTA_BATCH commandId playerId
            [tileDelta payload.tileKey updatedTile])).emitEvent
            (.COMMAND_RESOLVED commandId playerId)

/-- Take the flag off a tile and hand its manpower back to the pool. -/
def refundFlag (cap : ℚ) (playerId : PlayerId) (player : DomainPlayer) (key : TileKey W)
    (tile : DomainTileState W) (muster : MusterState W) : CombatState W :=
  { s.replaceTileState key { tile with muster := none } with
    players := s.players.set playerId (creditManpower player muster.amount cap) }

def clearMusterRejection (playerId : PlayerId) (tileKey : TileKey W) (target : DomainTileState W) :
    Option (String × String) :=
  if target.ownerId ≠ some playerId then some ("MUSTER_INVALID", "no muster on owned tile")
  else if (s.besiegingLockAt tileKey playerId).isSome = true then
    some ("MUSTER_UNDER_SIEGE", MUSTER_UNDER_SIEGE_MESSAGE)
  else none

def handleClearMusterCommand (ctx : MusterCommandContext) (s : CombatState W)
    (commandId : CommandId) (playerId : PlayerId) (tileKey : TileKey W) : CombatState W :=
  match s.players.get playerId, s.tiles.get tileKey with
  | none, _ => s.rejectCommand commandId playerId "BAD_COMMAND" "invalid command payload"
  | some _, none => s.rejectCommand commandId playerId "MUSTER_INVALID" "no muster on owned tile"
  | some actor, some target =>
      match target.muster with
      | none => s.rejectCommand commandId playerId "MUSTER_INVALID" "no muster on owned tile"
      | some muster =>
          match clearMusterRejection s playerId tileKey target with
          | some (code, message) => s.rejectCommand commandId playerId code message
          | none =>
              ((s.refundFlag (ctx.playerManpowerCap actor) playerId actor tileKey target
                muster).emitEvent (.TILE_DELTA_BATCH commandId playerId
                  [tileDelta tileKey { target with muster := none }])).emitEvent
                (.COMMAND_RESOLVED commandId playerId)

/-- What the accumulation tick reads of the rest of the runtime for one
player. -/
structure MusterTickContext (W : WorldSize) where
  playerManpowerCap : DomainPlayer → ℚ
  musterPoolFloor : ℚ
  activeMusterCount : Nat
  /-- Depot bonus times wonder bonus at a flag. -/
  speedMultiplier : TileKey W → ℚ
  aiFlagHasTargetInReach : TileKey W → Bool

/-- `Math.round(rate * 1000) / 1000`. -/
def quantizedRate (rate : ℚ) : ℚ := ((rate * 1000 + 1 / 2).floor : ℚ) / 1000

/-- `Math.max(0, x)`, as an amount. -/
def positivePart (x : ℚ) : ℚ≥0 := ⟨max x 0, le_max_right _ _⟩

def isStale (now : Int) (muster : MusterState W) : Bool :=
  match muster.setAt with
  | some setAt => decide (now - setAt > MUSTER_STALE_MS)
  | none => false

/-- The manpower that flows onto a flag since its last update: its share of
the rate, as far as the flag has room and the pool can give. -/
def musterInflow (ctx : MusterTickContext W) (now : Int) (player : DomainPlayer)
    (key : TileKey W) (muster : MusterState W) : ℚ≥0 :=
  let elapsedMin := max 0 (((now - muster.updatedAt : Int) : ℚ) / 60000)
  let flagCap := musterFlagCap (ctx.playerManpowerCap player) muster.capLevel
  let headroom := max 0 (flagCap - muster.amount)
  let rawRatePerMin := MUSTER_BASE_RATE_PER_MIN / ctx.activeMusterCount * ctx.speedMultiplier key
  let drawable := max 0 (player.manpower - ctx.musterPoolFloor)
  positivePart (min (min (rawRatePerMin * elapsedMin) headroom) drawable)

/-- The flag is given up: it is stale, or an AI's war there is over. -/
def flagExpires (ctx : MusterTickContext W) (now : Int) (player : DomainPlayer)
    (key : TileKey W) (muster : MusterState W) : Bool :=
  isStale now muster || (player.isAi && !ctx.aiFlagHasTargetInReach key)

/-- One flag's turn in `tickMuster`, up to the point where it may fire: a
stale flag and an AI flag with nothing left to attack are refunded, any
other takes its inflow. -/
def tickFlag (ctx : MusterTickContext W) (s : CombatState W) (playerId : PlayerId)
    (key : TileKey W) : CombatState W :=
  match s.players.get playerId, s.tiles.get key with
  | some player, some tile =>
      match tile.muster with
      | none => s
      | some muster =>
          if muster.ownerId ≠ playerId then s
          else if flagExpires ctx s.now player key muster then
            s.refundFlag (ctx.playerManpowerCap player) playerId player key tile muster
          else
            let inflow := musterInflow ctx s.now player key muster
            let ratePerMin := quantizedRate
              (MUSTER_BASE_RATE_PER_MIN / ctx.activeMusterCount * ctx.speedMultiplier key)
            if (1 / 10000 : ℚ) < inflow then
              { s.replaceTileState key { tile with
                  muster := some { muster with
                    amount := muster.amount + inflow, updatedAt := s.now,
                    ratePerMin := some ratePerMin } } with
                players := s.players.set playerId
                  { player with manpower := player.manpower - inflow } }
            else if muster.ratePerMin ≠ some ratePerMin ∨ muster.updatedAt < s.now then
              s.replaceTileState key { tile with
                muster := some { muster with
                  updatedAt := s.now, ratePerMin := some ratePerMin } }
            else s
  | _, _ => s

end CombatState

end BorderEmpires.Combat
