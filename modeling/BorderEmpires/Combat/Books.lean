/-
  BorderEmpires.Combat.Books
  **WHAT EACH HANDLER DOES TO THE BOOKS.**

  The `Books` of a state are the lock index, the reservations, the armed
  timers, the refunds, the players known, and the lock events emitted so
  far.  Most of what a handler does leaves them alone; §1 says so function
  by function, and §2 what the others do to them, so that no later proof
  about them unfolds a handler.
-/
import BorderEmpires.Combat.LockResolution

namespace BorderEmpires.Combat

variable {W : WorldSize}

/-! ## §1. The books, and what leaves them alone. -/

def isLockEvent : SimulationEvent W → Bool
  | .COMMAND_ACCEPTED .. => true
  | .COMBAT_RESOLVED .. => true
  | .COMBAT_CANCELLED .. => true
  | _ => false

/-- What reservations and charges read of a state. -/
structure Books (W : WorldSize) where
  now : Int
  known : PlayerId → Bool
  musterReservedByKey : InsertionMap (TileKey W) ℚ≥0
  locksByTile : CombatLockIndex W
  scheduled : List (ScheduledResolution W)
  refunds : List CommandId
  lockEvents : List (SimulationEvent W)

namespace CombatState

def knows (s : CombatState W) (p : PlayerId) : Bool := (s.players.get p).isSome

def books (s : CombatState W) : Books W where
  now := s.now
  known := s.knows
  musterReservedByKey := s.musterReservedByKey
  locksByTile := s.locksByTile
  scheduled := s.scheduled
  refunds := s.refunds
  lockEvents := s.emitted.filter isLockEvent

variable (s : CombatState W)

theorem books_emitEvent {event : SimulationEvent W} (h : isLockEvent event = false) :
    (s.emitEvent event).books = s.books := by
  have hlog : (s.emitted ++ [event]).filter isLockEvent = s.emitted.filter isLockEvent := by
    simp [h]
  unfold books emitEvent
  dsimp only
  rw [hlog]
  rfl

@[simp] theorem books_rejectCommand (commandId : CommandId) (playerId : PlayerId)
    (code message : String) : (s.rejectCommand commandId playerId code message).books = s.books :=
  s.books_emitEvent rfl

@[simp] theorem books_emitTileDeltas (commandId : CommandId) (playerId : PlayerId)
    (tileDeltas : List (TileDelta W)) :
    (s.emitEvent (.TILE_DELTA_BATCH commandId playerId tileDeltas)).books = s.books :=
  s.books_emitEvent rfl

@[simp] theorem books_emitResolved (commandId : CommandId) (playerId : PlayerId) :
    (s.emitEvent (.COMMAND_RESOLVED commandId playerId)).books = s.books :=
  s.books_emitEvent rfl

@[simp] theorem books_replaceTileState (key : TileKey W) (tile : DomainTileState W) :
    (s.replaceTileState key tile).books = s.books := rfl

theorem books_setPlayer {p : PlayerId} {old : DomainPlayer} (h : s.players.get p = some old)
    (player : DomainPlayer) :
    ({ s with players := s.players.set p player } : CombatState W).books = s.books := by
  have hknows : ({ s with players := s.players.set p player } : CombatState W).knows
      = s.knows := by
    funext q
    show ((s.players.set p player).get q).isSome = (s.players.get q).isSome
    rw [InsertionMap.get_set]
    by_cases hpq : p = q
    · rw [if_pos hpq, ← hpq, h]
      rfl
    · rw [if_neg hpq]
  unfold books
  rw [hknows]

@[simp] theorem books_replaceTiles (changes : List (TileKey W × DomainTileState W)) :
    ∀ s : CombatState W, (s.replaceTiles changes).books = s.books := by
  induction changes with
  | nil =>
      intro s
      rfl
  | cons change rest ih =>
      intro s
      show ((s.replaceTileState change.1 change.2).replaceTiles rest).books = s.books
      rw [ih, books_replaceTileState]

@[simp] theorem books_consumeOriginMuster (key : TileKey W) (playerId : PlayerId) (amount : ℚ≥0) :
    (s.consumeOriginMuster key playerId amount).books = s.books := by
  unfold consumeOriginMuster
  split
  · rfl
  split
  · rfl
  · split
    · rw [books_emitTileDeltas, books_replaceTileState]
    · rfl

@[simp] theorem books_handleSetMusterCommand (ctx : MusterCommandContext) (s : CombatState W)
    (commandId : CommandId) (playerId : PlayerId) (payload : SetMusterPayload W) :
    (s.handleSetMusterCommand ctx commandId playerId payload).books = s.books := by
  unfold handleSetMusterCommand
  split
  · rw [books_rejectCommand]
  · rw [books_rejectCommand]
  split
  · rw [books_rejectCommand]
  · dsimp only
    rw [books_emitResolved, books_emitTileDeltas]
    rfl

theorem books_refundFlag (cap : ℚ) {playerId : PlayerId} {player : DomainPlayer}
    (h : s.players.get playerId = some player) (key : TileKey W) (tile : DomainTileState W)
    (muster : MusterState W) :
    (s.refundFlag cap playerId player key tile muster).books = s.books := by
  show ({ s.replaceTileState key { tile with muster := none } with
    players := (s.replaceTileState key { tile with muster := none }).players.set playerId
      (creditManpower player muster.amount cap) } : CombatState W).books = s.books
  rw [books_setPlayer (s.replaceTileState key { tile with muster := none }) h,
    books_replaceTileState]

@[simp] theorem books_handleClearMusterCommand (ctx : MusterCommandContext) (s : CombatState W)
    (commandId : CommandId) (playerId : PlayerId) (tileKey : TileKey W) :
    (s.handleClearMusterCommand ctx commandId playerId tileKey).books = s.books := by
  unfold handleClearMusterCommand
  split
  · rw [books_rejectCommand]
  · rw [books_rejectCommand]
  next hactor _ =>
    split
    · rw [books_rejectCommand]
    · split
      · rw [books_rejectCommand]
      · rw [books_emitResolved, books_emitTileDeltas, books_refundFlag s _ hactor]

@[simp] theorem books_tickFlag (ctx : MusterTickContext W) (s : CombatState W)
    (playerId : PlayerId) (key : TileKey W) : (s.tickFlag ctx playerId key).books = s.books := by
  unfold tickFlag
  dsimp only
  split
  next hplayer _ =>
    split
    · rfl
    split
    · rfl
    split
    · rw [books_refundFlag s _ hplayer]
    split
    · exact books_setPlayer (s.replaceTileState key _) hplayer _
    · split
      · rfl
      · rfl
  · rfl

end CombatState

open CombatState

variable (ctx : RuntimeLockResolutionContext W) (s : CombatState W)

variable (b : Books W) (lock : LockRecord W)

@[simp] theorem books_adjustPoints (p : PlayerId) (f : ℚ → ℚ) :
    (adjustPoints s p f).books = s.books := by
  unfold adjustPoints
  split
  next hplayer => exact books_setPlayer s hplayer _
  · rfl

@[simp] theorem books_spendAttackerMuster : (spendAttackerMuster s lock).books = s.books := by
  unfold spendAttackerMuster
  split
  · split
    · rfl
    · rw [books_consumeOriginMuster]
  · rfl

@[simp] theorem books_applyShieldConsumptionAndReveal (outcome : LockOutcome W) :
    (applyShieldConsumptionAndReveal s lock outcome).books = s.books := by
  unfold applyShieldConsumptionAndReveal
  split
  · dsimp only
    split
    · rw [books_emitTileDeltas, books_consumeOriginMuster]
    · rw [books_consumeOriginMuster]
  · rfl

section Plunder

variable {α : Type} {view : CombatState W → α}
  (hview : ∀ s p f, view (adjustPoints s p f) = view s)

include hview

theorem view_applySettledCapturePlunder (attacker defender : PlayerId)
    (gold defenderGoldLoss : ℚ) :
    view (applySettledCapturePlunder s attacker defender gold defenderGoldLoss) = view s := by
  unfold applySettledCapturePlunder
  split
  · rfl
  · rw [hview, hview]

theorem view_plunderDefender (lock : LockRecord W) (outcome : LockOutcome W) (afcPlunder : ℚ) :
    view (plunderDefender s lock outcome afcPlunder) = view s := by
  unfold plunderDefender
  split
  · dsimp only
    split
    · rw [view_applySettledCapturePlunder _ hview]
      split
      · rw [view_applySettledCapturePlunder _ hview]
      · rfl
    · split
      · rw [view_applySettledCapturePlunder _ hview]
      · rfl
  · rfl

theorem view_applyCapturePlunder (lock : LockRecord W) (outcome : LockOutcome W)
    (afcPlunder bounty : ℚ) :
    view (applyCapturePlunder s lock outcome afcPlunder bounty) = view s := by
  unfold applyCapturePlunder
  split
  · rfl
  dsimp only
  split
  · rw [hview, view_plunderDefender _ hview]
  · rw [view_plunderDefender _ hview]

end Plunder

@[simp] theorem books_applyCapturePlunder (outcome : LockOutcome W) (afcPlunder bounty : ℚ) :
    (applyCapturePlunder s lock outcome afcPlunder bounty).books = s.books :=
  view_applyCapturePlunder s books_adjustPoints lock outcome afcPlunder bounty

@[simp] theorem books_applyWinningTileCapture (previousTarget : Option (DomainTileState W)) :
    (applyWinningTileCapture s lock previousTarget).books = s.books := by
  unfold applyWinningTileCapture
  rw [books_emitTileDeltas, books_replaceTileState]

@[simp] theorem books_releaseBarbarianDefender :
    (releaseBarbarianDefender s lock).books = s.books := by
  unfold releaseBarbarianDefender
  split
  · dsimp only
    split
    · rw [books_emitTileDeltas, books_replaceTileState]
    · rfl
  · rfl

@[simp] theorem books_resolveLostOrigin (previousOwnerId : PlayerId) :
    (resolveLostOrigin s lock previousOwnerId).books = s.books := by
  unfold resolveLostOrigin
  split
  · rfl
  dsimp only
  split
  · rw [books_releaseBarbarianDefender, books_emitTileDeltas, books_replaceTileState]
  · rw [books_emitTileDeltas, books_replaceTileState]

@[simp] theorem books_showHeldTarget : (showHeldTarget s lock).books = s.books := by
  unfold showHeldTarget
  split
  · rw [books_emitTileDeltas]
  · rfl

@[simp] theorem books_applyAftermath (aftermath : List (TileKey W × DomainTileState W)) :
    ∀ s : CombatState W, (applyAftermath s lock aftermath).books = s.books := by
  induction aftermath with
  | nil =>
      intro s
      rfl
  | cons change rest ih =>
      intro s
      show (applyAftermath ((s.replaceTileState change.1 change.2).emitEvent _) lock rest).books
        = s.books
      rw [ih, books_emitTileDeltas, books_replaceTileState]

@[simp] theorem books_applyTerritory (outcome : LockOutcome W) :
    (applyTerritory ctx s lock outcome).books = s.books := by
  unfold applyTerritory
  dsimp only
  rw [books_applyAftermath]
  split
  · rw [books_applyWinningTileCapture]
  split
  · rw [books_showHeldTarget]
    split
    · rw [books_resolveLostOrigin]
    · rfl
  · split
    · rw [books_resolveLostOrigin]
    · rfl

@[simp] theorem books_launchBarbarianAttack : (launchBarbarianAttack s lock).books = s.books := by
  unfold launchBarbarianAttack
  split
  · split
    · dsimp only
      rw [books_emitTileDeltas, books_replaceTileState]
    · rfl
  · rfl

@[simp] theorem books_chargeExpansion : (chargeExpansion s lock).books = s.books := by
  unfold chargeExpansion
  split
  next hplayer => exact books_setPlayer s hplayer _
  · rfl

@[simp] theorem books_regenerated (ctx : RuntimeFrontierCommandContext W) (s : CombatState W)
    (command : CommandEnvelope W) : (regenerated ctx s command).books = s.books := by
  unfold regenerated
  split
  next hactor _ => exact books_setPlayer s hactor _
  · rfl

@[simp] theorem books_reachClaimTile (ownerId : PlayerId) (s : CombatState W) (key : TileKey W) :
    (reachClaimTile ownerId s key).books = s.books := by
  unfold reachClaimTile
  split
  · split <;> rfl
  · rfl

@[simp] theorem books_applyReachAutoClaim (causeCommandId : CommandId) (ownerId : PlayerId)
    (tileKeys : List (TileKey W)) :
    (applyReachAutoClaim s causeCommandId ownerId tileKeys).books = s.books := by
  have hclaims : (tileKeys.foldl (reachClaimTile ownerId) s).books = s.books :=
    List.foldlRecOn (motive := fun t : CombatState W => t.books = s.books) _ _ rfl
      (fun t ht key _ => (books_reachClaimTile ownerId t key).trans ht)
  unfold applyReachAutoClaim
  dsimp only
  split
  · exact hclaims
  · rw [books_emitTileDeltas]
    exact hclaims

/-! ## §2. What changes the books. -/

namespace Books

def hold (key : TileKey W) (amount : ℚ≥0) : Books W :=
  { b with musterReservedByKey := Ledger.credit b.musterReservedByKey key amount }

/-- Reserve what an attack costs at the flag it names. -/
def holdCost : Books W :=
  match lock.actionType, lock.musterSourceKey with
  | .ATTACK, some key => b.hold key lock.manpowerCost
  | _, _ => b

def holdShield : Books W :=
  match lock.shield with
  | some shield => b.hold shield.tileKey shield.matched
  | none => b

def log (event : SimulationEvent W) : Books W :=
  { b with lockEvents := b.lockEvents ++ [event] }

def index : Books W :=
  { b with locksByTile := b.locksByTile.addLock lock }

def arm : Books W :=
  { b with scheduled := b.scheduled ++ [⟨lock, b.now + max 1 (lock.resolvesAt - b.now)⟩] }

def acceptedEvent : SimulationEvent W :=
  .COMMAND_ACCEPTED lock.commandId lock.playerId lock.actionType lock.originKey lock.targetKey
    lock.resolvesAt (lock.combatResolution.map (·.result))

/-- An accepted lock is held, indexed, logged and armed. -/
def accept : Books W :=
  ((((b.holdCost lock).holdShield lock).index lock).log (acceptedEvent lock)).arm lock

def debit (b : Books W) (key : TileKey W) (amount : ℚ≥0) : Books W :=
  { b with musterReservedByKey := Ledger.debit b.musterReservedByKey key amount }

/-- Give back a lock's cost at the flag it names, whatever its action. -/
def debitCost : Books W :=
  match lock.musterSourceKey with
  | some key => b.debit key lock.manpowerCost
  | none => b

def debitShield : Books W :=
  match lock.shield with
  | some shield => b.debit shield.tileKey shield.matched
  | none => b

def drop : Books W :=
  { b with locksByTile := b.locksByTile.removeLock lock }

/-- A lock that its timer or a rush gets to: reservations back, lock out. -/
def release : Books W := ((b.debitCost lock).debitShield lock).drop lock

/-- The charge of a lock that does not resolve, handed back when it is an
expansion of a known player. -/
def refund : Books W :=
  if lock.actionType = .EXPAND ∧ b.known lock.playerId = true then
    { b with refunds := b.refunds ++ [lock.commandId] }
  else b

/-- A lock dropped with its charges given back. -/
def giveUp : Books W := (b.drop lock).refund lock

/-- A resolution: the lock that holds its target's slot reports a fight, any
other one is dropped. -/
def resolve (event : SimulationEvent W) : Books W :=
  if b.locksByTile.ownsTargetSlot lock = true then (b.release lock).log event
  else (b.release lock).refund lock

def disarm (i : Nat) : Books W :=
  { b with scheduled := b.scheduled.eraseIdx i }

end Books

theorem books_emitLockEvent {event : SimulationEvent W} (h : isLockEvent event = true) :
    (s.emitEvent event).books = s.books.log event := by
  have hlog : (s.emitted ++ [event]).filter isLockEvent
      = s.emitted.filter isLockEvent ++ [event] := by
    simp [h]
  unfold books emitEvent Books.log
  dsimp only
  rw [hlog]
  rfl

def storedLock (ctx : RuntimeFrontierCommandContext W) (s : CombatState W)
    (baseLock : LockRecord W) : LockRecord W :=
  rolledLock ctx (chargeExpansion (reserveForAttack s baseLock) baseLock) baseLock

theorem rolledLock_fields (ctx : RuntimeFrontierCommandContext W) (s : CombatState W)
    (baseLock : LockRecord W) :
    (rolledLock ctx s baseLock).commandId = baseLock.commandId
      ∧ (rolledLock ctx s baseLock).playerId = baseLock.playerId
      ∧ (rolledLock ctx s baseLock).actionType = baseLock.actionType
      ∧ (rolledLock ctx s baseLock).manpowerCost = baseLock.manpowerCost
      ∧ (rolledLock ctx s baseLock).originKey = baseLock.originKey
      ∧ (rolledLock ctx s baseLock).targetKey = baseLock.targetKey
      ∧ (rolledLock ctx s baseLock).musterSourceKey = baseLock.musterSourceKey := by
  unfold rolledLock
  split <;> exact ⟨rfl, rfl, rfl, rfl, rfl, rfl, rfl⟩

theorem books_reserveForAttack : (reserveForAttack s lock).books = s.books.holdCost lock := by
  unfold reserveForAttack Books.holdCost
  cases lock.actionType <;> cases lock.musterSourceKey <;> rfl

theorem books_reserveShield : (reserveShield s lock).books = s.books.holdShield lock := by
  unfold reserveShield Books.holdShield
  cases lock.shield <;> rfl

/-- **Accepting** reserves for the stored lock and adds it. -/
theorem books_acceptFrontierCommand (ctx : RuntimeFrontierCommandContext W) (s : CombatState W)
    (baseLock : LockRecord W) :
    (acceptFrontierCommand ctx s baseLock).books = s.books.accept (storedLock ctx s baseLock) := by
  obtain ⟨_, _, htype, hcost, _, _, hsource⟩ :=
    rolledLock_fields ctx (chargeExpansion (reserveForAttack s baseLock) baseLock) baseLock
  unfold acceptFrontierCommand storedLock
  dsimp only
  generalize rolledLock ctx (chargeExpansion (reserveForAttack s baseLock) baseLock)
    baseLock = lock at *
  -- the base lock and the stored one name the same flag and cost
  have hcharged : (chargeExpansion (reserveForAttack s baseLock) baseLock).books
      = s.books.holdCost lock := by
    rw [books_chargeExpansion, books_reserveForAttack]
    unfold Books.holdCost
    rw [htype, hcost, hsource]
  have hreserved : (reserveShield (chargeExpansion (reserveForAttack s baseLock) baseLock)
      lock).books = (s.books.holdCost lock).holdShield lock := by
    rw [books_reserveShield, hcharged]
  generalize reserveShield (chargeExpansion (reserveForAttack s baseLock) baseLock) lock = s₁
    at *
  have hlaunched : (if lock.barbarianLaunch = true then launchBarbarianAttack s₁ lock
      else s₁).books = (s.books.holdCost lock).holdShield lock := by
    split
    · rw [books_launchBarbarianAttack, hreserved]
    · exact hreserved
  generalize (if lock.barbarianLaunch = true then launchBarbarianAttack s₁ lock else s₁) = s₂
    at *
  show ((CombatState.emitEvent { s₂ with
      locksByTile := s₂.locksByTile.addLock lock
      locksByCommandId := s₂.locksByCommandId.set lock.commandId lock } _).books).arm lock = _
  rw [books_emitLockEvent _ rfl]
  show (((s₂.books.index lock).log _).arm lock) = _
  rw [hlaunched]
  rfl

/-- **A frontier command** changes the books when it is accepted. -/
theorem books_handleFrontierCommandImpl (ctx : RuntimeFrontierCommandContext W)
    (s : CombatState W) (command : CommandEnvelope W) (actionType : FrontierCommandType) :
    (handleFrontierCommandImpl ctx s command actionType).books
      = match frontierVerdict ctx (regenerated ctx s command) command actionType with
        | .accepted baseLock =>
            s.books.accept (storedLock ctx (regenerated ctx s command) baseLock)
        | _ => s.books := by
  rw [handleFrontierCommandImpl_eq]
  cases frontierVerdict ctx (regenerated ctx s command) command actionType with
  | rejected code message =>
      show ((regenerated ctx s command).rejectCommand _ _ _ _).books = s.books
      rw [books_rejectCommand, books_regenerated]
  | cutOff released =>
      show (((regenerated ctx s command).replaceTiles released).rejectCommand _ _ _ _).books
        = s.books
      rw [books_rejectCommand, books_replaceTiles, books_regenerated]
  | accepted baseLock =>
      show (acceptFrontierCommand ctx (regenerated ctx s command) baseLock).books = _
      rw [books_acceptFrontierCommand, books_regenerated]

theorem books_releaseMusterReservation :
    (releaseMusterReservation s lock).books = (s.books.debitCost lock).debitShield lock := by
  unfold releaseMusterReservation Books.debitCost Books.debitShield
  cases lock.musterSourceKey <;> cases lock.shield <;> rfl

theorem books_refundExpandManpower (cap : DomainPlayer → ℚ) (s : CombatState W)
    (lock : LockRecord W) (htype : lock.actionType = .EXPAND) :
    (refundExpandManpower cap s lock).books = s.books.refund lock := by
  unfold refundExpandManpower Books.refund
  have hknown : s.books.known lock.playerId = (s.players.get lock.playerId).isSome := rfl
  rw [hknown]
  cases hplayer : s.players.get lock.playerId with
  | none => simp
  | some player =>
      rw [if_pos ⟨htype, rfl⟩]
      exact congrArg (fun b : Books W => { b with refunds := s.refunds ++ [lock.commandId] })
        (books_setPlayer s hplayer _)

/-- The lock dropped and its reservation released. -/
def released (s : CombatState W) (lock : LockRecord W) : CombatState W :=
  dropLock (releaseMusterReservation s lock) lock

theorem books_released : (released s lock).books = s.books.release lock := by
  show ((releaseMusterReservation s lock).books).drop lock = _
  rw [books_releaseMusterReservation]
  rfl

theorem released_players : (released s lock).players = s.players := by
  unfold released dropLock releaseMusterReservation
  cases lock.musterSourceKey <;> cases lock.shield <;> rfl

theorem released_tiles : (released s lock).tiles = s.tiles := by
  unfold released dropLock releaseMusterReservation
  cases lock.musterSourceKey <;> cases lock.shield <;> rfl

theorem lockEvents_coalesceTileDeltas (events : List (SimulationEvent W)) :
    (coalesceTileDeltas lock events).filter isLockEvent = events.filter isLockEvent := by
  have hbatch : ∀ deltas : List (TileDelta W),
      (if deltas = [] then ([] : List (SimulationEvent W))
        else [.TILE_DELTA_BATCH lock.commandId lock.playerId deltas]).filter isLockEvent = [] := by
    intro deltas
    split <;> rfl
  unfold coalesceTileDeltas
  dsimp only
  rw [List.filter_append, hbatch, List.append_nil, List.filter_filter]
  refine List.filter_congr (fun event _ => ?_)
  cases event <;> rfl

/-- **The fight** reports its result and leaves the books alone otherwise. -/
theorem books_resolveFight :
    (resolveFight ctx s lock).books = s.books.log (resolvedEvent ctx s lock) := by
  unfold resolveFight fightSpent
  dsimp only
  rw [books_applyTerritory, books_applyCapturePlunder, books_applyShieldConsumptionAndReveal,
    books_spendAttackerMuster, books_emitLockEvent _ rfl, books_adjustPoints]

theorem books_resolveLockUnbuffered :
    (resolveLockUnbuffered ctx s lock).books
      = s.books.resolve lock (resolvedEvent ctx (released s lock) lock) := by
  have hslot : (releaseMusterReservation s lock).locksByTile = s.locksByTile := by
    unfold releaseMusterReservation
    cases lock.musterSourceKey <;> cases lock.shield <;> rfl
  unfold resolveLockUnbuffered Books.resolve
  dsimp only
  rw [hslot]
  show _ = if s.locksByTile.ownsTargetSlot lock = true then _ else _
  by_cases howns : s.locksByTile.ownsTargetSlot lock = true
  · rw [if_pos howns, if_pos howns]
    show (resolveFight ctx (released s lock) lock).books = _
    rw [books_resolveFight, books_released]
  · rw [if_neg howns, if_neg howns]
    cases htype : lock.actionType with
    | ATTACK =>
        show (released s lock).books = _
        rw [books_released]
        unfold Books.refund
        rw [if_neg (fun h => by rw [htype] at h; exact absurd h.1 (by decide))]
    | EXPAND =>
        show (refundExpandManpower ctx.playerManpowerCap (released s lock) lock).books = _
        rw [books_refundExpandManpower _ _ _ htype, books_released]

/-- What comes out of a resolution, before its events are batched. -/
def unbuffered (s : CombatState W) : CombatState W := { s with emitted := [] }

theorem Books.resolve_lockEvents (event : SimulationEvent W) :
    { ({ b with lockEvents := [] } : Books W).resolve lock event with
      lockEvents := b.lockEvents
        ++ (({ b with lockEvents := [] } : Books W).resolve lock event).lockEvents }
      = b.resolve lock event := by
  have hrelease : ({ b with lockEvents := [] } : Books W).release lock
      = { b.release lock with lockEvents := [] } := by
    unfold Books.release Books.debitCost Books.debitShield
    cases lock.musterSourceKey <;> cases lock.shield <;> rfl
  have hlog : (b.release lock).lockEvents = b.lockEvents := by
    unfold Books.release Books.debitCost Books.debitShield
    cases lock.musterSourceKey <;> cases lock.shield <;> rfl
  unfold Books.resolve
  by_cases howns : b.locksByTile.ownsTargetSlot lock = true
  · rw [if_pos howns, if_pos howns, hrelease]
    unfold Books.log
    rw [hlog]
    rfl
  · rw [if_neg howns, if_neg howns, hrelease]
    unfold Books.refund
    by_cases hback : lock.actionType = .EXPAND ∧ (b.release lock).known lock.playerId = true
    · rw [if_pos hback, if_pos hback, ← hlog]
      simp
    · rw [if_neg hback, if_neg hback, ← hlog]
      simp

/-- **A resolution**, with its events batched. -/
theorem books_resolveLock :
    (resolveLock ctx s lock).books
      = s.books.resolve lock (resolvedEvent ctx (released (unbuffered s) lock) lock) := by
  have hresolved : (resolveLock ctx s lock).books
      = { (resolveLockUnbuffered ctx (unbuffered s) lock).books with
          lockEvents := s.books.lockEvents
            ++ (resolveLockUnbuffered ctx (unbuffered s) lock).books.lockEvents } := by
    unfold resolveLock CombatState.books unbuffered
    dsimp only
    rw [List.filter_append, lockEvents_coalesceTileDeltas]
    rfl
  have hfresh : (unbuffered s).books = { s.books with lockEvents := [] } := rfl
  rw [hresolved, books_resolveLockUnbuffered, hfresh]
  exact Books.resolve_lockEvents s.books lock _

/-- The expansion a paid rush resolves. -/
def rushedLock (s : CombatState W) (price : ℚ) (playerId : PlayerId) (targetKey : TileKey W) :
    Option (LockRecord W) :=
  match s.players.get playerId, s.locksByTile.targetLockAt targetKey with
  | some actor, some expandLock =>
      if expandLock.actionType = .EXPAND ∧ expandLock.playerId = playerId
          ∧ price ≤ actor.points then some expandLock else none
  | _, _ => none

/-- **A rush** resolves the expansion in the target's slot. -/
theorem books_handleRushBuyExpand (price : ℚ) (s : CombatState W) (commandId : CommandId)
    (playerId : PlayerId) (targetKey : TileKey W) :
    (handleRushBuyExpand ctx price s commandId playerId targetKey).books
      = match rushedLock s price playerId targetKey with
        | some lock => s.books.resolve lock (resolvedEvent ctx
            (released (unbuffered (adjustPoints s playerId (fun points => points - price))) lock)
            lock)
        | none => s.books := by
  unfold handleRushBuyExpand rushedLock
  cases s.players.get playerId with
  | none => rfl
  | some actor =>
      cases s.locksByTile.targetLockAt targetKey with
      | none => rfl
      | some expandLock =>
          dsimp only
          by_cases hown : expandLock.actionType = .EXPAND ∧ expandLock.playerId = playerId
          · rw [if_pos hown]
            by_cases hgold : actor.points < price
            · rw [if_pos hgold, if_neg (fun h => absurd h.2.2 (not_le.mpr hgold)),
                books_rejectCommand]
            · rw [if_neg hgold, if_pos ⟨hown.1, hown.2, not_lt.mp hgold⟩, books_emitResolved,
                books_resolveLock, books_adjustPoints]
          · rw [if_neg hown, if_neg (fun h => hown ⟨h.1, h.2.1⟩)]

def cancelledLocks (s : CombatState W) (playerId : PlayerId) : List (LockRecord W) :=
  match s.players.get playerId with
  | some _ => activeFrontierLocksForPlayer s.locksByTile playerId
  | none => []

theorem books_cancelLock (playerId : PlayerId) (s : CombatState W) (lock : LockRecord W)
    (hplayer : lock.playerId = playerId) (hknown : s.books.known playerId = true) :
    (cancelLock playerId s lock).books = s.books.giveUp lock := by
  obtain ⟨actor, hactor⟩ := Option.isSome_iff_exists.mp hknown
  have hdrop : (dropLock s lock).players.get playerId = some actor := hactor
  have hknown' : (s.books.drop lock).known lock.playerId = true := by
    rw [hplayer]
    exact hknown
  unfold cancelLock Books.giveUp Books.refund
  dsimp only
  rw [hdrop]
  cases lock.actionType with
  | ATTACK =>
      rw [if_neg (fun h => absurd h.1 (by decide))]
      rfl
  | EXPAND =>
      rw [if_pos ⟨rfl, hknown'⟩]
      exact congrArg (fun b : Books W => { b with refunds := s.refunds ++ [lock.commandId] })
        (books_setPlayer (dropLock s lock) hdrop _)

theorem mem_activeFrontierLocks {index : CombatLockIndex W} {playerId : PlayerId}
    {lock : LockRecord W} :
    lock ∈ activeFrontierLocksForPlayer index playerId
      ↔ lock ∈ index.values ∧ lock.playerId = playerId := by
  unfold activeFrontierLocksForPlayer
  rw [List.mem_mergeSort, List.mem_filter, decide_eq_true_eq]

@[simp] theorem Books.known_giveUp : (b.giveUp lock).known = b.known := by
  unfold Books.giveUp Books.refund
  split <;> rfl

/-- **A cancel** gives up every lock of the player. -/
theorem books_handleCancelCaptureCommand (commandId : CommandId) (playerId : PlayerId) :
    (handleCancelCaptureCommand s commandId playerId).books
      = if cancelledLocks s playerId = [] then s.books
        else ((cancelledLocks s playerId).foldl Books.giveUp s.books).log
          (.COMBAT_CANCELLED commandId playerId
            ((cancelledLocks s playerId).map (·.commandId))) := by
  have hfold : ∀ (locks : List (LockRecord W)) (s : CombatState W),
      (∀ lock ∈ locks, lock.playerId = playerId) → s.books.known playerId = true →
      (locks.foldl (cancelLock playerId) s).books = locks.foldl Books.giveUp s.books := by
    intro locks
    induction locks with
    | nil =>
        intro s _ _
        rfl
    | cons lock rest ih =>
        intro s hmine hknown
        have hbooks := books_cancelLock playerId s lock (hmine lock List.mem_cons_self) hknown
        rw [List.foldl_cons, List.foldl_cons, ih, hbooks]
        · intro l hl
          exact hmine l (List.mem_cons_of_mem _ hl)
        · rw [hbooks, Books.known_giveUp, hknown]
  unfold handleCancelCaptureCommand cancelledLocks
  cases hactor : s.players.get playerId with
  | none => simp
  | some actor =>
      dsimp only
      split
      · rw [books_rejectCommand]
      rw [books_emitLockEvent _ rfl, hfold]
      · intro lock hlock
        exact (mem_activeFrontierLocks.mp hlock).2
      · show (s.players.get playerId).isSome = true
        rw [hactor]
        rfl

theorem books_sweepLock : (sweepLock s lock).books = s.books.giveUp lock := by
  have hdrop : (dropLock s lock).players.get lock.playerId = s.players.get lock.playerId := rfl
  have hknown : (s.books.drop lock).known lock.playerId
      = (s.players.get lock.playerId).isSome := rfl
  unfold sweepLock Books.giveUp Books.refund
  dsimp only
  rw [hdrop, hknown]
  cases lock.actionType with
  | ATTACK =>
      rw [if_neg (fun h => absurd h.1 (by decide))]
      rfl
  | EXPAND =>
      cases hplayer : s.players.get lock.playerId with
      | none =>
          rw [if_neg (fun h => absurd h.2 (by simp))]
          rfl
      | some player =>
          rw [if_pos ⟨rfl, rfl⟩]
          exact congrArg (fun b : Books W => { b with refunds := s.refunds ++ [lock.commandId] })
            (books_setPlayer (dropLock s lock) hplayer _)

/-- **The sweep** gives up every orphaned lock. -/
theorem books_tickOrphanedLockSweep :
    (tickOrphanedLockSweep s).books = (orphanedLocks s).foldl Books.giveUp s.books :=
  (List.foldl_hom CombatState.books (fun s lock => (books_sweepLock s lock).symm)).symm

end BorderEmpires.Combat
