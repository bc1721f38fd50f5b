/-
  BorderEmpires.Combat.Runs
  **RUNS OF THE COMBAT RUNTIME.**

  An `Event` is one thing the runtime does to locks, flags or territory:
  a frontier command, a resolution timer that fires (at any time from when
  it is due), a paid rush, a cancel, the orphan sweep, the muster commands
  and their tick, a reach claim, or a change from outside this model.

  In the books an event makes one `BooksMove`: `books_step` says that the
  books follow the moves, `moveOf_sound` what is known of a move.
-/
import BorderEmpires.Combat.Books
import BorderEmpires.Lib.Run

namespace BorderEmpires.Combat

open CombatState

variable {W : WorldSize}

/-! ## §1. Events and steps. -/

inductive Event (W : WorldSize) where
  | frontier (ctx : RuntimeFrontierCommandContext W) (command : CommandEnvelope W)
      (actionType : FrontierCommandType)
  /-- The armed timer at this position fires, if it is due. -/
  | timer (ctx : RuntimeLockResolutionContext W) (i : Nat)
  | rushBuy (ctx : RuntimeLockResolutionContext W) (price : ℚ) (commandId : CommandId)
      (playerId : PlayerId) (targetKey : TileKey W)
  | cancelCapture (commandId : CommandId) (playerId : PlayerId)
  | orphanedLockSweep
  | setMuster (ctx : CombatState.MusterCommandContext) (commandId : CommandId) (playerId : PlayerId)
      (payload : CombatState.SetMusterPayload W)
  | clearMuster (ctx : CombatState.MusterCommandContext) (commandId : CommandId) (playerId : PlayerId)
      (tileKey : TileKey W)
  | musterTick (ctx : CombatState.MusterTickContext W) (playerId : PlayerId) (key : TileKey W)
  | reachAutoClaim (causeCommandId : CommandId) (ownerId : PlayerId) (tileKeys : List (TileKey W))
  /-- Territory changed by anything else. -/
  | territory (changes : List (TileKey W × DomainTileState W))
  /-- A player's gold or manpower changed by anything else. -/
  | account (playerId : PlayerId) (player : DomainPlayer)
  | wait (ms : Nat)

def dueLock (s : CombatState W) (i : Nat) : Option (LockRecord W) :=
  (s.scheduled[i]?).bind (fun timer => if timer.dueAt ≤ s.now then some timer.lock else none)

def fireTimer (ctx : RuntimeLockResolutionContext W) (s : CombatState W) (i : Nat) :
    CombatState W :=
  match dueLock s i with
  | some lock => resolveLock ctx { s with scheduled := s.scheduled.eraseIdx i } lock
  | none => s

def step (s : CombatState W) : Event W → CombatState W
  | .frontier ctx command actionType => handleFrontierCommandImpl ctx s command actionType
  | .timer ctx i => fireTimer ctx s i
  | .rushBuy ctx price commandId playerId targetKey =>
      handleRushBuyExpand ctx price s commandId playerId targetKey
  | .cancelCapture commandId playerId => handleCancelCaptureCommand s commandId playerId
  | .orphanedLockSweep => tickOrphanedLockSweep s
  | .setMuster ctx commandId playerId payload =>
      s.handleSetMusterCommand ctx commandId playerId payload
  | .clearMuster ctx commandId playerId tileKey =>
      s.handleClearMusterCommand ctx commandId playerId tileKey
  | .musterTick ctx playerId key => s.tickFlag ctx playerId key
  | .reachAutoClaim causeCommandId ownerId tileKeys =>
      applyReachAutoClaim s causeCommandId ownerId tileKeys
  | .territory changes => s.replaceTiles changes
  | .account playerId player => { s with players := s.players.set playerId player }
  | .wait ms => { s with now := s.now + ms }

/-- A runtime without fights: any world, any players, any standing flags. -/
def CombatState.opening (now : Int) (players : InsertionMap PlayerId DomainPlayer)
    (tiles : InsertionMap (TileKey W) (DomainTileState W))
    (musterTilesByOwner : InsertionMap PlayerId (List (TileKey W))) : CombatState W where
  now := now
  players := players
  tiles := tiles
  musterTilesByOwner := musterTilesByOwner
  musterReservedByKey := .empty
  locksByTile := .empty
  locksByCommandId := .empty
  scheduled := []
  emitted := []
  refunds := []

/-! ## §2. The move a step makes in the books. -/

def firedEvent (ctx : RuntimeLockResolutionContext W) (s : CombatState W) (i : Nat)
    (lock : LockRecord W) : SimulationEvent W :=
  resolvedEvent ctx
    (released (unbuffered { s with scheduled := s.scheduled.eraseIdx i }) lock) lock

/-- **A timer** resolves the lock it was armed with. -/
theorem books_fireTimer (ctx : RuntimeLockResolutionContext W) (s : CombatState W) (i : Nat) :
    (fireTimer ctx s i).books = match dueLock s i with
      | some lock => (s.books.disarm i).resolve lock (firedEvent ctx s i lock)
      | none => s.books := by
  unfold fireTimer
  cases dueLock s i with
  | none => rfl
  | some lock =>
      dsimp only
      rw [books_resolveLock]
      rfl

inductive BooksMove (W : WorldSize) where
  | still
  | accept (lock : LockRecord W)
  /-- The timer at a position resolves the lock it was armed with. -/
  | fire (i : Nat) (lock : LockRecord W) (event : SimulationEvent W)
  | rush (lock : LockRecord W) (event : SimulationEvent W)
  | cancel (locks : List (LockRecord W)) (event : SimulationEvent W)
  | sweep (locks : List (LockRecord W))
  | meet (playerId : PlayerId)
  | wait (ms : Nat)

def BooksMove.apply (b : Books W) : BooksMove W → Books W
  | .still => b
  | .accept lock => b.accept lock
  | .fire i lock event => (b.disarm i).resolve lock event
  | .rush lock event => b.resolve lock event
  | .cancel locks event => (locks.foldl Books.giveUp b).log event
  | .sweep locks => locks.foldl Books.giveUp b
  | .meet playerId => { b with known := fun p => decide (p = playerId) || b.known p }
  | .wait ms => { b with now := b.now + ms }

def moveOf (s : CombatState W) : Event W → BooksMove W
  | .frontier ctx command actionType =>
      match frontierVerdict ctx (regenerated ctx s command) command actionType with
      | .accepted baseLock => .accept (storedLock ctx (regenerated ctx s command) baseLock)
      | _ => .still
  | .timer ctx i =>
      match dueLock s i with
      | some lock => .fire i lock (firedEvent ctx s i lock)
      | none => .still
  | .rushBuy ctx price _ playerId targetKey =>
      match rushedLock s price playerId targetKey with
      | some lock => .rush lock (resolvedEvent ctx
          (released (unbuffered (adjustPoints s playerId (fun points => points - price))) lock)
          lock)
      | none => .still
  | .cancelCapture commandId playerId =>
      if cancelledLocks s playerId = [] then .still
      else .cancel (cancelledLocks s playerId) (.COMBAT_CANCELLED commandId playerId
        ((cancelledLocks s playerId).map (·.commandId)))
  | .orphanedLockSweep => .sweep (orphanedLocks s)
  | .account playerId _ => .meet playerId
  | .wait ms => .wait ms
  | _ => .still

theorem accepted_of_move {s : CombatState W} {e : Event W} {lock : LockRecord W}
    (h : moveOf s e = .accept lock) :
    ∃ ctx command actionType baseLock, e = .frontier ctx command actionType
      ∧ frontierVerdict ctx (regenerated ctx s command) command actionType = .accepted baseLock
      ∧ lock = storedLock ctx (regenerated ctx s command) baseLock := by
  cases e with
  | frontier ctx command actionType =>
      unfold moveOf at h
      dsimp only at h
      split at h
      next baseLock hv => exact ⟨ctx, command, actionType, baseLock, rfl, hv, by cases h; rfl⟩
      · cases h
  | timer ctx i =>
      unfold moveOf at h
      dsimp only at h
      split at h <;> cases h
  | rushBuy ctx price commandId playerId targetKey =>
      unfold moveOf at h
      dsimp only at h
      split at h <;> cases h
  | cancelCapture commandId playerId =>
      unfold moveOf at h
      dsimp only at h
      split at h <;> cases h
  | _ => cases h

/-- **The books follow the moves.** -/
theorem books_step (s : CombatState W) (e : Event W) :
    (step s e).books = (moveOf s e).apply s.books := by
  cases e with
  | frontier ctx command actionType =>
      show (handleFrontierCommandImpl ctx s command actionType).books = _
      rw [books_handleFrontierCommandImpl]
      unfold moveOf
      dsimp only
      cases frontierVerdict ctx (regenerated ctx s command) command actionType <;> rfl
  | timer ctx i =>
      show (fireTimer ctx s i).books = _
      rw [books_fireTimer]
      unfold moveOf
      dsimp only
      cases dueLock s i <;> rfl
  | rushBuy ctx price commandId playerId targetKey =>
      show (handleRushBuyExpand ctx price s commandId playerId targetKey).books = _
      rw [books_handleRushBuyExpand]
      unfold moveOf
      dsimp only
      cases rushedLock s price playerId targetKey <;> rfl
  | cancelCapture commandId playerId =>
      show (handleCancelCaptureCommand s commandId playerId).books = _
      rw [books_handleCancelCaptureCommand]
      unfold moveOf
      dsimp only
      by_cases hnil : cancelledLocks s playerId = []
      · rw [if_pos hnil, if_pos hnil]
        rfl
      · rw [if_neg hnil, if_neg hnil]
        rfl
  | orphanedLockSweep => exact books_tickOrphanedLockSweep s
  | setMuster ctx commandId playerId payload =>
      exact books_handleSetMusterCommand ctx s commandId playerId payload
  | clearMuster ctx commandId playerId tileKey =>
      exact books_handleClearMusterCommand ctx s commandId playerId tileKey
  | musterTick ctx playerId key => exact books_tickFlag ctx s playerId key
  | reachAutoClaim causeCommandId ownerId tileKeys =>
      exact books_applyReachAutoClaim s causeCommandId ownerId tileKeys
  | territory changes => exact books_replaceTiles changes s
  | account playerId player =>
      have hknows : ({ s with players := s.players.set playerId player } : CombatState W).knows
          = fun p => decide (p = playerId) || s.knows p := by
        funext p
        show ((s.players.set playerId player).get p).isSome = _
        rw [InsertionMap.get_set]
        by_cases hp : playerId = p
        · rw [if_pos hp, hp]
          simp
        · rw [if_neg hp, decide_eq_false (fun h => hp h.symm), Bool.false_or]
          rfl
      show CombatState.books { s with players := s.players.set playerId player } = _
      unfold CombatState.books
      rw [hknows]
      rfl
  | wait ms => rfl

def BooksMove.Sound (b : Books W) : BooksMove W → Prop
  | .still => True
  | .accept lock => b.known lock.playerId = true
  | .fire i lock event => (∃ dueAt, b.scheduled[i]? = some ⟨lock, dueAt⟩)
      ∧ ∃ won result, event = .COMBAT_RESOLVED lock.commandId lock.playerId lock.actionType
          lock.originKey lock.targetKey won result
  | .rush lock event => lock.actionType = .EXPAND
      ∧ (∃ key, b.locksByTile.targets.get key = some lock)
      ∧ ∃ won result, event = .COMBAT_RESOLVED lock.commandId lock.playerId lock.actionType
          lock.originKey lock.targetKey won result
  | .cancel locks event => (∃ playerId, locks = activeFrontierLocksForPlayer b.locksByTile playerId)
      ∧ ∃ commandId playerId, event = .COMBAT_CANCELLED commandId playerId
          (locks.map (·.commandId))
  | .sweep locks => locks = b.locksByTile.values.filter
      (fun lock => lock.resolvesAt < b.now - ORPHAN_LOCK_GRACE_MS)
  | .meet _ => True
  | .wait _ => True

theorem knows_regenerated (ctx : RuntimeFrontierCommandContext W) (s : CombatState W)
    (command : CommandEnvelope W) : (regenerated ctx s command).knows = s.knows :=
  congrArg Books.known (books_regenerated ctx s command)

theorem moveOf_sound (s : CombatState W) (e : Event W) : (moveOf s e).Sound s.books := by
  cases e with
  | frontier ctx command actionType =>
      unfold moveOf
      dsimp only
      split
      next baseLock hv =>
        show s.knows (storedLock ctx (regenerated ctx s command) baseLock).playerId = true
        obtain ⟨_, hplayer, _⟩ := rolledLock_fields ctx (chargeExpansion (reserveForAttack
          (regenerated ctx s command) baseLock) baseLock) baseLock
        unfold storedLock
        rw [hplayer, ← knows_regenerated ctx s command]
        cases frontierVerdict_accepted hv with
        | intro payload actor fromKey toKey fromTile toTile isAlliedDock acceptance hactor =>
            show ((regenerated ctx s command).players.get command.playerId).isSome = true
            rw [hactor]
            rfl
      · trivial
  | timer ctx i =>
      unfold moveOf
      dsimp only
      split
      next lock hdue =>
        refine ⟨?_, _, _, rfl⟩
        unfold dueLock at hdue
        obtain ⟨timer, htimer, hlock⟩ := Option.bind_eq_some_iff.mp hdue
        split at hlock
        · refine ⟨timer.dueAt, ?_⟩
          rw [← Option.some.inj hlock]
          exact htimer
        · cases hlock
      · trivial
  | rushBuy ctx price commandId playerId targetKey =>
      unfold moveOf
      dsimp only
      split
      next lock hrushed =>
        unfold rushedLock at hrushed
        split at hrushed
        next actor expandLock hactor hslot =>
          split at hrushed
          next hown =>
            cases hrushed
            exact ⟨hown.1, ⟨targetKey, hslot⟩, _, _, rfl⟩
          · cases hrushed
        · cases hrushed
      · trivial
  | cancelCapture commandId playerId =>
      unfold moveOf
      dsimp only
      split
      · trivial
      next hne =>
        refine ⟨⟨playerId, ?_⟩, _, _, rfl⟩
        unfold cancelledLocks at hne ⊢
        split
        · rfl
        next hnone =>
          rw [hnone] at hne
          exact absurd rfl hne
  | orphanedLockSweep => rfl
  | _ => trivial

/-! ## §3. A border to run events on. -/

abbrev borderKey (x y : Fin 64) : TileKey smallestWorld := ⟨x, y⟩

/-- The manpower an attack needs and an expansion costs there. -/
def attackPrice : ℚ≥0 := 60
def expandPrice : ℚ≥0 := 10

/-- A frontier command that finds nothing unusual: an attack needs 60
manpower, an expansion costs 10 and takes twenty seconds. -/
def quietFrontier : RuntimeFrontierCommandContext smallestWorld where
  applyManpowerRegen := id
  findOwnedDockOriginForCrossing := fun _ _ => none
  findOwnedAetherBridgeOriginForCrossing := fun _ _ => none
  releaseIfStrandedOrigin := fun _ _ => none
  isDockCrossingTarget := fun _ _ => false
  isAetherBridgeCrossingTarget := fun _ _ _ => false
  crossingBlockedByAetherWall := fun _ _ => false
  isTileWardedByImperialWard := fun _ => false
  isAlliedOrTruced := fun _ _ => false
  frontierClaimDurationMsForCoords := fun _ => 20000
  expandManpowerCost := fun _ => expandPrice
  requiredMusterForTarget := fun _ _ => attackPrice
  attackResolveSpeedReduceMs := fun _ => 0
  deepwaterEngineActive := fun _ => false
  roll := ⟨(true, 0), false, false, (0, 0)⟩

/-- A resolution that meets nothing unusual. -/
def quietResolution : RuntimeLockResolutionContext smallestWorld where
  playerManpowerCap := fun _ => 1000
  roll := ⟨(true, 0), false, false, (0, 0)⟩
  isTileShieldedByAegisLock := false
  fortWardIsReady := false
  targetHoldsAfc := false
  barbarianCaptureCoinBonus := 0
  aftermath := []

def landTile (ownerId : Option PlayerId) (ownershipState : Option OwnershipState)
    (muster : Option (MusterState smallestWorld)) : DomainTileState smallestWorld where
  terrain := .LAND
  ownerId := ownerId
  ownershipState := ownershipState
  captureHoldUntil := none
  isDock := false
  muster := muster

def holdFlag (ownerId : PlayerId) (amount : ℚ≥0) : MusterState smallestWorld where
  ownerId := ownerId
  amount := amount
  mode := .HOLD
  targetKey := none
  commitManpower := none
  capLevel := 0
  setAt := none
  updatedAt := 0
  ratePerMin := none

/-- Player one holds a frontier tile with 60 staged; two frontier tiles of
player two and a neutral tile lie next to it. -/
def border : CombatState smallestWorld :=
  .opening 0
    (.ofEntries [(playerOne, ⟨false, 0, 100, none⟩), (playerTwo, ⟨false, 0, 100, none⟩)])
    (.ofEntries
      [(borderKey 1 1, landTile (some playerOne) (some .FRONTIER) (some (holdFlag playerOne 60))),
        (borderKey 2 1, landTile (some playerTwo) (some .FRONTIER) none),
        (borderKey 2 2, landTile (some playerTwo) (some .FRONTIER) none),
        (borderKey 1 2, landTile none none none)])
    (.ofEntries [(playerOne, [borderKey 1 1])])

def orderTo (commandId : CommandId) (target : TileKey smallestWorld) :
    CommandEnvelope smallestWorld :=
  ⟨commandId, "session", playerOne, some ⟨some (borderKey 1 1), some target, none, none⟩⟩

end BorderEmpires.Combat
