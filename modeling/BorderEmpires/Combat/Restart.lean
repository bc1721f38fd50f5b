/-
  BorderEmpires.Combat.Restart
  **RESOLVING A LOCK AFTER A RESTART.**

  A restarted runtime puts the recovered locks back into its index, each
  without its cost, its funding flag and its shield, and with a roll that
  has lost what the defender stands to lose.  So a hydrated expansion
  resolves as the original would, and a hydrated attack only if it costs
  nothing, meets no shield and takes no gold.
-/
import BorderEmpires.Combat.RecoveredLocks
import BorderEmpires.Combat.DoubleSpend

namespace BorderEmpires.Combat

open CombatState

variable {W : WorldSize}

/-! ## §1. Hydration. -/

def TERRITORY_AUTO_COMMAND_PREFIX : String := "territory-auto:"

def lockSourceFromCommandId (commandId : CommandId) : LockSource :=
  if TERRITORY_AUTO_COMMAND_PREFIX.toList.isPrefixOf commandId.toList then .automation
  else .player

def parseRecoveredCombatResolution (json : CombatResolutionJson W) : LockedCombatResolution W where
  result := json.result
  defenderGoldLoss := json.defenderGoldLoss.getD 0
  targetRecentlyPillaged := json.targetRecentlyPillaged.getD false
  shield := none
  defendedFrontier := json.defendedFrontier.getD false

def hydratedLock (lock : RecoveredLock W) : LockRecord W where
  commandId := lock.commandId
  playerId := lock.playerId
  actionType := lock.actionType
  manpowerCost := 0
  originKey := lock.originKey
  targetKey := lock.targetKey
  resolvesAt := lock.resolvesAt
  source := lockSourceFromCommandId lock.commandId
  combatResolution := lock.combatResolutionJson.map parseRecoveredCombatResolution
  musterSourceKey := none
  barbarianLaunch := false

def createLocksFromInitialState (activeLocks : List (RecoveredLock W)) : CombatLockIndex W :=
  activeLocks.foldl (fun index lock => index.addLock (hydratedLock lock)) .empty

def activeLocks (events : List (SimulationEvent W)) : List (RecoveredLock W) :=
  ((recoveredLocks events).entries.map Prod.snd).mergeSort (fun a b => a.commandId ≤ b.commandId)

/-- The runtime after a restart: players and tiles as they were, the locks
from the log, no reservations. -/
def restarted (s : CombatState W) : CombatState W :=
  let index := createLocksFromInitialState (activeLocks s.emitted)
  { now := s.now
    players := s.players
    tiles := s.tiles
    musterTilesByOwner := s.musterTilesByOwner
    musterReservedByKey := .empty
    locksByTile := index
    locksByCommandId := index.locksByCommandId
    scheduled := index.values.map (fun lock => ⟨lock, s.now + max 1 (lock.resolvesAt - s.now)⟩)
    emitted := []
    refunds := [] }

/-! ## §2. Statements. -/

def CombatState.purse (s : CombatState W) (p : PlayerId) : Option (ℚ × ℚ) :=
  (s.players.get p).map (fun player => (player.points, player.manpower))

def CombatState.stagingAt (s : CombatState W) (key : TileKey W) : Option (PlayerId × ℚ≥0) :=
  (s.flagAt key).map (fun muster => (muster.ownerId, muster.amount))

/-- Every player has the same gold, the same pool and the same staged
musters. -/
def SameHoldings (s t : CombatState W) : Prop :=
  (∀ p, s.purse p = t.purse p) ∧ ∀ key, s.stagingAt key = t.stagingAt key

/-- **A hydrated lock resolves like the original.** -/
def ResolvesAlike (s : CombatState W) : Prop :=
  ∀ id lock hydrated, s.liveLocks.get id = some lock →
    (restarted s).liveLocks.get id = some hydrated →
    ∀ ctx : RuntimeLockResolutionContext W,
      SameHoldings (resolveLock ctx (restarted s) hydrated) (resolveLock ctx s lock)

/-- **Restart equivalence.** -/
def RestartEquivalent (s : CombatState W) : Prop := RecoversLocks s ∧ ResolvesAlike s

def LockRecord.goldAtStake (lock : LockRecord W) : ℚ :=
  (lock.combatResolution.map (·.defenderGoldLoss)).getD 0

/-- A tile carries a flag only in the hands of a player that is no
barbarian. -/
def Grounded (tile : DomainTileState W) : Prop :=
  tile.muster ≠ none → ∃ p, tile.ownerId = some p ∧ isBarbarianFaction p = false

def FlagsGrounded (s : CombatState W) : Prop :=
  ∀ key tile, s.tiles.get key = some tile → Grounded tile

def outsideChanges (s : CombatState W) : Event W → List (TileKey W × DomainTileState W)
  | .frontier ctx command actionType =>
      match frontierVerdict ctx (regenerated ctx s command) command actionType with
      | .cutOff released => released
      | _ => []
  | .timer ctx _ => ctx.aftermath
  | .rushBuy ctx .. => ctx.aftermath
  | .territory changes => changes
  | _ => []

/-- **What a step must meet.** -/
structure SurvivesRestart (s : CombatState W) (e : Event W) : Prop where
  /-- An accepted command id is new. -/
  fresh : FreshCommand s e
  /-- A new lock finds its slot free, a cancel goes by no lock's command id,
  and the sweep finds nothing. -/
  logged : (moveOf s e).KeepsLog s.books
  /-- An accepted attack costs nothing, meets no shield and takes no gold. -/
  unfunded : ∀ lock, moveOf s e = .accept lock → lock.actionType = .ATTACK →
    lock.manpowerCost = 0 ∧ lock.shield = none ∧ lock.goldAtStake = 0
  /-- Flags are raised by players, and changes from outside put none on
  neutral or barbarian ground. -/
  grounded : (∀ change ∈ outsideChanges s e, Grounded change.2)
    ∧ ∀ ctx commandId playerId payload, e = .setMuster ctx commandId playerId payload →
        isBarbarianFaction playerId = false

/-! ## §3. Flags stay on the ground of players. -/

namespace FlagsGrounded

variable {s t : CombatState W}

theorem of_tiles (h : FlagsGrounded s) (htiles : t.tiles = s.tiles) : FlagsGrounded t := by
  intro key tile htile
  rw [htiles] at htile
  exact h key tile htile

theorem write (h : FlagsGrounded s) {key : TileKey W} {tile : DomainTileState W}
    (htile : Grounded tile) (htiles : t.tiles = s.tiles.set key tile) : FlagsGrounded t := by
  intro key' tile' hread
  rw [htiles, InsertionMap.get_set] at hread
  split at hread
  · rw [← Option.some.inj hread]
    exact htile
  · exact h key' tile' hread

theorem replaceTiles (changes : List (TileKey W × DomainTileState W)) :
    ∀ {s : CombatState W}, FlagsGrounded s → (∀ change ∈ changes, Grounded change.2) →
      FlagsGrounded (s.replaceTiles changes) := by
  induction changes with
  | nil =>
      intro s h _
      exact h
  | cons change rest ih =>
      intro s h hchanges
      refine ih (s := s.replaceTileState change.1 change.2) ?_
        (fun c hc => hchanges c (List.mem_cons_of_mem _ hc))
      exact h.write (hchanges change List.mem_cons_self) rfl

end FlagsGrounded

theorem grounded_of_bare {tile : DomainTileState W} (h : tile.muster = none) : Grounded tile :=
  fun hne => absurd h hne

theorem Grounded.rewrite {tile tile' : DomainTileState W} (h : Grounded tile)
    (howner : tile'.ownerId = tile.ownerId) (hflag : tile.muster ≠ none) : Grounded tile' := by
  intro _
  rw [howner]
  exact h hflag

variable {t u : CombatState W} (ctx : RuntimeLockResolutionContext W) {s : CombatState W}

theorem grounded_consumeOriginMuster (h : FlagsGrounded s) (key : TileKey W) (playerId : PlayerId)
    (amount : ℚ≥0) : FlagsGrounded (s.consumeOriginMuster key playerId amount) := by
  unfold consumeOriginMuster
  split
  · exact h
  next tile htile =>
    split
    · exact h
    next muster hmuster =>
      have hkept : ∀ muster' : MusterState W, Grounded { tile with muster := some muster' } :=
        fun _ => (h key tile htile).rewrite rfl (by rw [hmuster]; simp)
      split
      · exact h.write (hkept _) rfl
      · exact h

theorem grounded_handleSetMusterCommand (ctx : MusterCommandContext) (h : FlagsGrounded s)
    (commandId : CommandId) {playerId : PlayerId} (hplayer : isBarbarianFaction playerId = false)
    (payload : SetMusterPayload W) :
    FlagsGrounded (s.handleSetMusterCommand ctx commandId playerId payload) := by
  unfold handleSetMusterCommand
  split
  · exact h.of_tiles rfl
  · exact h.of_tiles rfl
  next actor target hactor htile =>
    split
    · exact h.of_tiles rfl
    next hpasses =>
      have hmustered : Grounded (musteredTile ctx s playerId payload actor target) := by
        refine fun _ => ⟨playerId, ?_, hplayer⟩
        -- the checks let the command through on the player's own tile only
        unfold setMusterRejection at hpasses
        split at hpasses
        · cases hpasses
        next hfails => exact not_not.mp (fun hne => hfails (Or.inl hne))
      exact h.write hmustered rfl

theorem grounded_handleClearMusterCommand (ctx : MusterCommandContext) (h : FlagsGrounded s)
    (commandId : CommandId) (playerId : PlayerId) (tileKey : TileKey W) :
    FlagsGrounded (s.handleClearMusterCommand ctx commandId playerId tileKey) := by
  unfold handleClearMusterCommand
  split
  · exact h.of_tiles rfl
  · exact h.of_tiles rfl
  split
  · exact h.of_tiles rfl
  · split
    · exact h.of_tiles rfl
    · exact h.write (grounded_of_bare rfl) rfl

theorem grounded_tickFlag (ctx : MusterTickContext W) (h : FlagsGrounded s) (playerId : PlayerId)
    (key : TileKey W) : FlagsGrounded (s.tickFlag ctx playerId key) := by
  unfold tickFlag
  dsimp only
  split
  next player tile hplayer htile =>
    split
    · exact h
    next muster hmuster =>
      have hkept : ∀ muster' : MusterState W, Grounded { tile with muster := some muster' } :=
        fun _ => (h key tile htile).rewrite rfl (by rw [hmuster]; simp)
      split
      · exact h
      split
      · exact h.write (grounded_of_bare rfl) rfl
      split
      · exact h.write (hkept _) rfl
      · split
        · exact h.write (hkept _) rfl
        · exact h
  · exact h

theorem grounded_launchBarbarianAttack (h : FlagsGrounded s) (lock : LockRecord W) :
    FlagsGrounded (launchBarbarianAttack s lock) := by
  unfold launchBarbarianAttack
  split
  · split
    · exact h.write (grounded_of_bare rfl) rfl
    · exact h
  · exact h

theorem grounded_acceptFrontierCommand (ctx : RuntimeFrontierCommandContext W) (h : FlagsGrounded s)
    (baseLock : LockRecord W) : FlagsGrounded (acceptFrontierCommand ctx s baseLock) := by
  unfold acceptFrontierCommand
  dsimp only
  generalize rolledLock ctx (chargeExpansion (reserveForAttack s baseLock) baseLock)
    baseLock = lock
  have hreserved : FlagsGrounded (reserveShield (chargeExpansion (reserveForAttack s baseLock)
      baseLock) lock) := by
    refine h.of_tiles ?_
    rw [tiles_reserveShield, tiles_chargeExpansion, tiles_reserveForAttack]
  have hlaunched : FlagsGrounded (if lock.barbarianLaunch = true then launchBarbarianAttack
      (reserveShield (chargeExpansion (reserveForAttack s baseLock) baseLock) lock) lock
      else reserveShield (chargeExpansion (reserveForAttack s baseLock) baseLock) lock) := by
    split
    · exact grounded_launchBarbarianAttack hreserved lock
    · exact hreserved
  exact hlaunched.of_tiles rfl

theorem grounded_handleFrontierCommandImpl (ctx : RuntimeFrontierCommandContext W)
    (h : FlagsGrounded s) (command : CommandEnvelope W) (actionType : FrontierCommandType)
    (houtside : ∀ change ∈ outsideChanges s (.frontier ctx command actionType), Grounded change.2) :
    FlagsGrounded (handleFrontierCommandImpl ctx s command actionType) := by
  have hregen : FlagsGrounded (regenerated ctx s command) :=
    h.of_tiles (tiles_regenerated ctx s command)
  rw [handleFrontierCommandImpl_eq]
  unfold outsideChanges at houtside
  dsimp only at houtside
  cases hv : frontierVerdict ctx (regenerated ctx s command) command actionType with
  | rejected code message => exact hregen.of_tiles rfl
  | cutOff released =>
      rw [hv] at houtside
      exact (hregen.replaceTiles released houtside).of_tiles rfl
  | accepted baseLock => exact grounded_acceptFrontierCommand ctx hregen baseLock

theorem grounded_fightPaid (h : FlagsGrounded s) (lock : LockRecord W) :
    FlagsGrounded (fightPaid ctx s lock) := by
  have hspent : FlagsGrounded (fightSpent ctx s lock) := by
    unfold fightSpent spendAttackerMuster
    dsimp only
    have hbefore : FlagsGrounded ((adjustPoints s lock.playerId (fun points =>
        max 0 (points - FRONTIER_CLAIM_COST))).emitEvent (resolvedEvent ctx s lock)) :=
      h.of_tiles (tiles_adjustPoints s lock.playerId _)
    split
    · split
      · exact hbefore
      · exact grounded_consumeOriginMuster hbefore _ _ _
    · exact hbefore
  refine FlagsGrounded.of_tiles ?_ (tiles_applyCapturePlunder _ lock _ _ _)
  unfold applyShieldConsumptionAndReveal
  split
  · dsimp only
    split
    · exact (grounded_consumeOriginMuster hspent _ _ _).of_tiles rfl
    · exact grounded_consumeOriginMuster hspent _ _ _
  · exact hspent

theorem grounded_resolveLostOrigin (h : FlagsGrounded s) (lock : LockRecord W)
    (previousOwnerId : PlayerId) : FlagsGrounded (resolveLostOrigin s lock previousOwnerId) := by
  unfold resolveLostOrigin
  split
  · exact h
  next previousOrigin horigin =>
    dsimp only
    have hlost : FlagsGrounded ((s.replaceTileState lock.originKey
        (lostOriginTile previousOrigin previousOwnerId)).emitEvent
        (.TILE_DELTA_BATCH lock.commandId lock.playerId [tileDelta lock.originKey
          (lostOriginTile previousOrigin previousOwnerId)])) :=
      h.write (grounded_of_bare rfl) rfl
    split
    · unfold releaseBarbarianDefender
      split
      · dsimp only
        split
        · exact hlost.write (grounded_of_bare rfl) rfl
        · exact hlost
      · exact hlost
    · exact hlost

/-- The territory of a fight before its aftermath. -/
def fightLanded (s : CombatState W) (lock : LockRecord W) (outcome : LockOutcome W) :
    CombatState W :=
  if outcome.attackerWon then applyWinningTileCapture s lock outcome.previousTarget
  else
    let s := match outcome.originLost, outcome.previousOwnerId with
      | true, some previousOwnerId => resolveLostOrigin s lock previousOwnerId
      | _, _ => s
    if outcome.hasDefendingForce then showHeldTarget s lock else s

theorem tiles_showHeldTarget (s : CombatState W) (lock : LockRecord W) :
    (showHeldTarget s lock).tiles = s.tiles := by
  unfold showHeldTarget
  split <;> rfl

theorem grounded_fightLanded (h : FlagsGrounded s) (lock : LockRecord W) (outcome : LockOutcome W) :
    FlagsGrounded (fightLanded s lock outcome) := by
  unfold fightLanded
  split
  · have hcaptured : Grounded (capturedTile s lock outcome.previousTarget) := grounded_of_bare rfl
    exact h.write hcaptured rfl
  · dsimp only
    have horigin : FlagsGrounded (match outcome.originLost, outcome.previousOwnerId with
        | true, some previousOwnerId => resolveLostOrigin s lock previousOwnerId
        | _, _ => s) := by
      split
      · exact grounded_resolveLostOrigin h lock _
      · exact h
    split
    · exact horigin.of_tiles (tiles_showHeldTarget _ lock)
    · exact horigin

theorem grounded_resolveFight (h : FlagsGrounded s) (lock : LockRecord W)
    (haftermath : ∀ change ∈ ctx.aftermath, Grounded change.2) :
    FlagsGrounded (resolveFight ctx s lock) := by
  have hlanded := grounded_fightLanded (grounded_fightPaid ctx h lock) lock (lockOutcome ctx s lock)
  exact (hlanded.replaceTiles ctx.aftermath haftermath).of_tiles
    (tiles_applyAftermath lock ctx.aftermath _ _ rfl)

theorem grounded_resolveLock (h : FlagsGrounded s) (lock : LockRecord W)
    (haftermath : ∀ change ∈ ctx.aftermath, Grounded change.2) :
    FlagsGrounded (resolveLock ctx s lock) := by
  have hreleased : FlagsGrounded (released (unbuffered s) lock) :=
    h.of_tiles (released_tiles (unbuffered s) lock)
  refine FlagsGrounded.of_tiles (s := resolveLockUnbuffered ctx (unbuffered s) lock) ?_ rfl
  unfold resolveLockUnbuffered
  dsimp only
  split
  · exact grounded_resolveFight ctx hreleased lock haftermath
  · split
    · exact hreleased.of_tiles (tiles_refundExpandManpower _ _ lock)
    · exact hreleased

theorem grounded_applyReachAutoClaim (h : FlagsGrounded s) (causeCommandId : CommandId)
    (ownerId : PlayerId) (tileKeys : List (TileKey W)) :
    FlagsGrounded (applyReachAutoClaim s causeCommandId ownerId tileKeys) := by
  refine FlagsGrounded.of_tiles ?_ (tiles_applyReachAutoClaim s causeCommandId ownerId tileKeys)
  have hfold : ∀ (keys : List (TileKey W)) {t : CombatState W}, FlagsGrounded t →
      FlagsGrounded (keys.foldl (reachClaimTile ownerId) t) := by
    intro keys
    induction keys with
    | nil =>
        intro t ht
        exact ht
    | cons key rest ih =>
        intro t ht
        refine ih (t := reachClaimTile ownerId t key) ?_
        unfold reachClaimTile
        split
        · split
          · exact ht.write (grounded_of_bare rfl) rfl
          · exact ht
        · exact ht
  exact hfold tileKeys h

/-- **Step lemma**: flags stay on the ground of players. -/
theorem flagsGrounded_step (h : FlagsGrounded s) {e : Event W}
    (houtside : ∀ change ∈ outsideChanges s e, Grounded change.2)
    (hraised : ∀ ctx commandId playerId payload, e = .setMuster ctx commandId playerId payload →
      isBarbarianFaction playerId = false) : FlagsGrounded (step s e) := by
  cases e with
  | frontier ctx command actionType =>
      exact grounded_handleFrontierCommandImpl ctx h command actionType houtside
  | timer ctx i =>
      show FlagsGrounded (fireTimer ctx s i)
      unfold fireTimer
      split
      · exact grounded_resolveLock ctx (s := { s with scheduled := s.scheduled.eraseIdx i })
          (h.of_tiles rfl) _ houtside
      · exact h
  | rushBuy ctx price commandId playerId targetKey =>
      have htiles := handleRushBuyExpand_eq ctx price s commandId playerId targetKey
      show FlagsGrounded (handleRushBuyExpand ctx price s commandId playerId targetKey)
      cases hrushed : rushedLock s price playerId targetKey with
      | none =>
          rw [hrushed] at htiles
          exact h.of_tiles htiles
      | some lock =>
          rw [hrushed] at htiles
          refine FlagsGrounded.of_tiles ?_ htiles
          exact grounded_resolveLock ctx (h.of_tiles (tiles_adjustPoints s playerId _)) lock houtside
  | cancelCapture commandId playerId =>
      exact h.of_tiles (tiles_handleCancelCaptureCommand s commandId playerId)
  | orphanedLockSweep => exact h.of_tiles (tiles_tickOrphanedLockSweep s)
  | setMuster ctx commandId playerId payload =>
      exact grounded_handleSetMusterCommand ctx h commandId (hraised _ _ _ _ rfl) payload
  | clearMuster ctx commandId playerId tileKey =>
      exact grounded_handleClearMusterCommand ctx h commandId playerId tileKey
  | musterTick ctx playerId key => exact grounded_tickFlag ctx h playerId key
  | reachAutoClaim causeCommandId ownerId tileKeys =>
      exact grounded_applyReachAutoClaim h causeCommandId ownerId tileKeys
  | territory changes => exact h.replaceTiles changes houtside
  | account playerId player => exact h.of_tiles rfl
  | wait ms => exact h.of_tiles rfl

/-! ## §4. The index after a restart. -/

/-- The hydrated index holds every recovered lock, and every slot that one
of them contests. -/
structure Hydrates (locks : List (RecoveredLock W)) (index : CombatLockIndex W) : Prop where
  keyed : index.Keyed
  found : ∀ lock ∈ locks, index.locksByCommandId.get lock.commandId = some (hydratedLock lock)
  only : ∀ id hydrated, index.locksByCommandId.get id = some hydrated →
    ∃ lock ∈ locks, hydratedLock lock = hydrated
  slotOf : ∀ lock ∈ locks, (index.targets.get lock.targetKey).isSome = true
  slotFrom : ∀ key hydrated, index.targets.get key = some hydrated →
    ∃ lock ∈ locks, hydratedLock lock = hydrated ∧ lock.targetKey = key

theorem hydrates_createLocks (locks : List (RecoveredLock W))
    (hids : (locks.map (·.commandId)).Nodup) :
    Hydrates locks (createLocksFromInitialState locks) := by
  induction locks using List.reverseRecOn with
  | nil =>
      refine ⟨CombatLockIndex.keyed_empty, ?_, ?_, ?_, ?_⟩
      · intro lock h
        exact absurd h List.not_mem_nil
      · intro id hydrated h
        exact absurd h (by simp [createLocksFromInitialState, CombatLockIndex.empty])
      · intro lock h
        exact absurd h List.not_mem_nil
      · intro key hydrated h
        exact absurd h (by simp [createLocksFromInitialState, CombatLockIndex.empty])
  | append_singleton rest last ih =>
      rw [List.map_append, List.nodup_append] at hids
      obtain ⟨hrest, _, hdisjoint⟩ := hids
      have h := ih hrest
      have hnew : ∀ lock ∈ rest, lock.commandId ≠ last.commandId := fun lock hlock =>
        hdisjoint _ (List.mem_map_of_mem hlock) _ (List.mem_singleton_self _)
      have hstep : createLocksFromInitialState (rest ++ [last])
          = (createLocksFromInitialState rest).addLock (hydratedLock last) := by
        unfold createLocksFromInitialState
        rw [List.foldl_append]
        rfl
      have hfresh : (createLocksFromInitialState rest).locksByCommandId.get
          (hydratedLock last).commandId = none := by
        cases hget : (createLocksFromInitialState rest).locksByCommandId.get
            (hydratedLock last).commandId with
        | none => rfl
        | some hydrated =>
            obtain ⟨lock, hlock, rfl⟩ := h.only _ _ hget
            exact absurd (h.keyed _ _ hget) (hnew lock hlock)
      have htargets : ((createLocksFromInitialState rest).addLock (hydratedLock last)).targets
          = (createLocksFromInitialState rest).targets.set last.targetKey (hydratedLock last) := by
        unfold CombatLockIndex.addLock
        dsimp only
        rw [hfresh]
        rfl
      rw [hstep]
      refine ⟨h.keyed.addLock _, ?_, ?_, ?_, ?_⟩
      · intro lock hlock
        rw [CombatLockIndex.get_addLock h.keyed]
        rcases List.mem_append.mp hlock with hold | hlast
        · rw [if_neg (fun heq => hnew lock hold heq.symm)]
          exact h.found lock hold
        · rw [List.mem_singleton.mp hlast]
          exact if_pos rfl
      · intro id hydrated hget
        rw [CombatLockIndex.get_addLock h.keyed] at hget
        split at hget
        · exact ⟨last, List.mem_append_right _ (List.mem_singleton_self _), Option.some.inj hget⟩
        · obtain ⟨lock, hlock, hhyd⟩ := h.only id hydrated hget
          exact ⟨lock, List.mem_append_left _ hlock, hhyd⟩
      · intro lock hlock
        rw [htargets, InsertionMap.get_set]
        split
        · rfl
        next hne =>
          rcases List.mem_append.mp hlock with hold | hlast
          · exact h.slotOf lock hold
          · rw [List.mem_singleton.mp hlast] at hne
            exact absurd rfl hne
      · intro key hydrated hget
        rw [htargets, InsertionMap.get_set] at hget
        split at hget
        next hkey =>
          exact ⟨last, List.mem_append_right _ (List.mem_singleton_self _),
            Option.some.inj hget, hkey⟩
        · obtain ⟨lock, hlock, hhyd⟩ := h.slotFrom key hydrated hget
          exact ⟨lock, List.mem_append_left _ hlock, hhyd⟩

theorem recoveredLocks_keyed (events : List (SimulationEvent W)) :
    ∀ id lock, (recoveredLocks events).get id = some lock → lock.commandId = id := by
  have herase : ∀ (m : InsertionMap CommandId (RecoveredLock W)) (id : CommandId),
      (∀ i lock, m.get i = some lock → lock.commandId = i) →
      ∀ i lock, (m.erase id).get i = some lock → lock.commandId = i := by
    intro m id h i lock hget
    rw [InsertionMap.get_erase] at hget
    split at hget
    · cases hget
    · exact h i lock hget
  have hfold : ∀ (events : List (SimulationEvent W))
      (m : InsertionMap CommandId (RecoveredLock W)),
      (∀ i lock, m.get i = some lock → lock.commandId = i) →
      ∀ i lock, (events.foldl recoverLocks m).get i = some lock → lock.commandId = i := by
    intro events
    induction events with
    | nil =>
        intro m h
        exact h
    | cons event rest ih =>
        intro m h
        refine ih (recoverLocks m event) ?_
        cases event with
        | COMMAND_ACCEPTED commandId playerId actionType origin target resolvesAt combatResult =>
            intro i lock hget
            have hset : (m.set commandId _).get i = some lock := hget
            rw [InsertionMap.get_set] at hset
            split at hset
            next hid =>
              rw [← Option.some.inj hset]
              exact hid
            · exact h i lock hset
        | COMBAT_CANCELLED commandId playerId cancelledCommandIds =>
            intro i lock hget
            have hall : ((cancelledCommandIds.foldl (fun locks id => locks.erase id)
                (m.erase commandId)).get i) = some lock := hget
            rw [InsertionMap.get_eraseAll] at hall
            split at hall
            · cases hall
            · exact herase m commandId h i lock hall
        | COMBAT_RESOLVED commandId playerId actionType origin target won result =>
            exact herase m commandId h
        | COMMAND_REJECTED => exact h
        | COMMAND_RESOLVED => exact h
        | TILE_DELTA_BATCH => exact h
  exact hfold events .empty (fun i lock h => by simp at h)

theorem hydrates_restarted (s : CombatState W) :
    Hydrates (activeLocks s.emitted) (restarted s).locksByTile := by
  refine hydrates_createLocks (activeLocks s.emitted) ?_
  have hkeyed := recoveredLocks_keyed s.emitted
  have hnames : ((recoveredLocks s.emitted).entries.map Prod.snd).map
      (fun lock : RecoveredLock W => lock.commandId)
      = (recoveredLocks s.emitted).entries.map Prod.fst := by
    rw [List.map_map]
    exact List.map_congr_left (fun entry hentry => hkeyed entry.1 entry.2
      (((recoveredLocks s.emitted).mem_entries_iff entry.1 entry.2).mp hentry))
  have hperm := (List.mergeSort_perm ((recoveredLocks s.emitted).entries.map Prod.snd)
    (fun a b => a.commandId ≤ b.commandId)).map (fun lock : RecoveredLock W => lock.commandId)
  refine hperm.nodup_iff.mpr ?_
  rw [hnames]
  exact (recoveredLocks s.emitted).nodupKeys

theorem mem_activeLocks_iff (events : List (SimulationEvent W)) (lock : RecoveredLock W) :
    lock ∈ activeLocks events ↔ (recoveredLocks events).get lock.commandId = some lock := by
  unfold activeLocks
  rw [List.mem_mergeSort, List.mem_map]
  constructor
  · rintro ⟨entry, hentry, rfl⟩
    have hget := ((recoveredLocks events).mem_entries_iff entry.1 entry.2).mp hentry
    rw [recoveredLocks_keyed events entry.1 entry.2 hget]
    exact hget
  · intro hget
    exact ⟨(lock.commandId, lock),
      ((recoveredLocks events).mem_entries_iff lock.commandId lock).mpr hget, rfl⟩

/-- When the log names the live locks, the restarted index holds each of
them, hydrated and in its slot. -/
theorem restarted_live (hkeyed : s.locksByTile.Keyed) (hlog : RecoversLocks s)
    (hslotted : s.locksByTile.Slotted) {id : CommandId} {lock hydrated : LockRecord W}
    (hlive : s.liveLocks.get id = some lock)
    (hrestored : (restarted s).liveLocks.get id = some hydrated) :
    hydrated = hydratedLock lock.announced
      ∧ (restarted s).locksByTile.ownsTargetSlot hydrated = true := by
  have h := hydrates_restarted s
  have hid := hkeyed id lock hlive
  have hrecovered : (recoveredLocks s.emitted).get id = some lock.announced := by
    rw [hlog id, hlive]
    rfl
  have hmem : lock.announced ∈ activeLocks s.emitted := by
    rw [mem_activeLocks_iff]
    show (recoveredLocks s.emitted).get lock.commandId = _
    rw [hid]
    exact hrecovered
  have hfound := h.found _ hmem
  have hsame : hydrated = hydratedLock lock.announced := by
    have hget : (restarted s).locksByTile.locksByCommandId.get lock.commandId = some hydrated := by
      rw [hid]
      exact hrestored
    rw [show lock.announced.commandId = lock.commandId from rfl, hget] at hfound
    exact Option.some.inj hfound
  refine ⟨hsame, ?_⟩
  obtain ⟨holder, hholder⟩ := Option.isSome_iff_exists.mp (h.slotOf _ hmem)
  obtain ⟨other, hother, rfl, hkey⟩ := h.slotFrom _ _ hholder
  -- two recovered locks on one target are announced by one live lock
  rw [mem_activeLocks_iff, hlog other.commandId] at hother
  obtain ⟨live, hget, hannounced⟩ := Option.map_eq_some_iff.mp hother
  have hliveOther : s.locksByTile.Live live := by
    unfold CombatLockIndex.Live
    rw [hkeyed _ live hget]
    exact hget
  have hliveLock : s.locksByTile.Live lock := by
    unfold CombatLockIndex.Live
    rw [hid]
    exact hlive
  have htarget : live.targetKey = lock.targetKey := by
    rw [← hannounced] at hkey
    exact hkey
  have hslot := hslotted live hliveOther
  rw [htarget, hslotted lock hliveLock] at hslot
  refine (CombatLockIndex.ownsTargetSlot_iff _ _).mpr ⟨hydratedLock other, ?_, ?_⟩
  · rw [hsame]
    exact hholder
  · rw [hsame, ← hannounced, Option.some.inj hslot]

/-! ## §5. The same roll, the same outcome. -/

/-- Nothing of the lock is lost in a restart that its resolution pays or
takes. -/
structure LockRecord.Restorable (lock : LockRecord W) : Prop where
  unrolled : lock.actionType = .EXPAND → lock.combatResolution = none
  rolled : lock.actionType = .ATTACK → lock.combatResolution.isSome = true
  unfunded : lock.actionType = .ATTACK →
    lock.manpowerCost = 0 ∧ lock.shield = none ∧ lock.goldAtStake = 0
  launched : lock.barbarianLaunch = true → isBarbarianFaction lock.playerId = true

theorem restorable_hydrated {lock : LockRecord W} (h : lock.Restorable) :
    (hydratedLock lock.announced).Restorable where
  unrolled := by
    intro htype
    show (lock.combatResolution.map _).map _ = none
    rw [h.unrolled htype]
    rfl
  rolled := by
    intro htype
    show ((lock.combatResolution.map _).map _).isSome = true
    rw [Option.isSome_map, Option.isSome_map]
    exact h.rolled htype
  unfunded := by
    intro _
    unfold LockRecord.shield LockRecord.goldAtStake hydratedLock LockRecord.announced
    cases lock.combatResolution <;> exact ⟨rfl, rfl, rfl⟩
  launched := fun hlaunch => by cases hlaunch

structure SameRoll (a b : LockedCombatResolution W) : Prop where
  attackerWon : a.result.attackerWon = b.result.attackerWon
  changes : a.result.changes = b.result.changes
  pillagedGold : a.result.pillagedGold = b.result.pillagedGold
  defenderGoldLoss : a.defenderGoldLoss = b.defenderGoldLoss

theorem SameRoll.warded {a b : LockedCombatResolution W} (_h : SameRoll a b) :
    SameRoll (wardedResolution a) (wardedResolution b) := ⟨rfl, rfl, rfl, rfl⟩

/-- The states differ in nothing that a fight reads. -/
structure SameField (t u : CombatState W) : Prop where
  now : t.now = u.now
  players : t.players = u.players
  tiles : t.tiles = u.tiles

theorem sameRoll_hydrated (roll : CombatRoll) (hfield : SameField t u) {lock : LockRecord W}
    (h : lock.Restorable) :
    SameRoll (lock.combatResolution.getD (buildLockedCombatResolution roll t lock))
      ((hydratedLock lock.announced).combatResolution.getD
        (buildLockedCombatResolution roll u (hydratedLock lock.announced))) := by
  cases htype : lock.actionType with
  | EXPAND =>
      have hnone := h.unrolled htype
      have hnone' := (restorable_hydrated h).unrolled htype
      rw [hnone, hnone', Option.getD_none, Option.getD_none]
      -- an expansion's roll is certain, and its cost shows in the report only
      unfold buildLockedCombatResolution
      dsimp only [hydratedLock, LockRecord.announced]
      rw [hfield.tiles, hfield.players, hfield.now]
      exact ⟨rfl, rfl, rfl, rfl⟩
  | ATTACK =>
      obtain ⟨resolution, hresolution⟩ := Option.isSome_iff_exists.mp (h.rolled htype)
      have hgold : resolution.defenderGoldLoss = 0 := by
        have hstake := (h.unfunded htype).2.2
        unfold LockRecord.goldAtStake at hstake
        rw [hresolution] at hstake
        exact hstake
      have hhydrated : (hydratedLock lock.announced).combatResolution
          = some (parseRecoveredCombatResolution (storedResolution resolution.result)) := by
        unfold hydratedLock LockRecord.announced
        rw [hresolution]
        rfl
      rw [hresolution, hhydrated, Option.getD_some, Option.getD_some]
      exact ⟨rfl, rfl, rfl, hgold⟩

/-- The parts of an outcome that gold and captures depend on. -/
structure SameOutcome (o o' : LockOutcome W) : Prop where
  previousTarget : o.previousTarget = o'.previousTarget
  attackerWon : o.attackerWon = o'.attackerWon
  roll : SameRoll o.combatResolution o'.combatResolution

theorem SameOutcome.previousOwnerId {o o' : LockOutcome W} (h : SameOutcome o o') :
    o.previousOwnerId = o'.previousOwnerId := by
  unfold LockOutcome.previousOwnerId
  rw [h.previousTarget]

theorem sameOutcome_hydrated (hfield : SameField t u) {lock : LockRecord W} (h : lock.Restorable) :
    SameOutcome (lockOutcome ctx t lock) (lockOutcome ctx u (hydratedLock lock.announced)) := by
  have hroll := sameRoll_hydrated ctx.roll hfield h
  unfold lockOutcome
  dsimp only
  generalize lock.combatResolution.getD (buildLockedCombatResolution ctx.roll t lock) = a at *
  generalize (hydratedLock lock.announced).combatResolution.getD
    (buildLockedCombatResolution ctx.roll u (hydratedLock lock.announced)) = b at *
  have htype : (hydratedLock lock.announced).actionType = lock.actionType := rfl
  have htarget : (hydratedLock lock.announced).targetKey = lock.targetKey := rfl
  have hplayer : (hydratedLock lock.announced).playerId = lock.playerId := rfl
  rw [htype, htarget, hplayer, hfield.tiles, hroll.attackerWon]
  refine ⟨rfl, ?_, ?_⟩
  · dsimp only
    congr 1
    split
    · rfl
    · exact hroll.attackerWon
  · dsimp only
    split
    · exact hroll.warded
    · exact hroll

theorem originLost_hydrated (hfield : SameField t u) {lock : LockRecord W} (h : lock.Restorable)
    (hgrounded : FlagsGrounded t) :
    (lockOutcome ctx t lock).originLost
        = (lockOutcome ctx u (hydratedLock lock.announced)).originLost
      ∨ t.stagingAt lock.originKey = none := by
  have hroll := (sameOutcome_hydrated ctx hfield h).roll
  show loseOrigin t lock (lockOutcome ctx t lock).combatResolution.result
    = loseOrigin u (hydratedLock lock.announced)
        (lockOutcome ctx u (hydratedLock lock.announced)).combatResolution.result ∨ _
  unfold loseOrigin
  dsimp only
  rw [hroll.changes]
  show (_ && (_ || (lock.barbarianLaunch && _))) = (_ && (_ || (false && _))) ∨ _
  have htiles : (u.tiles.get (hydratedLock lock.announced).originKey)
      = t.tiles.get lock.originKey := by
    rw [hfield.tiles]
    rfl
  rw [htiles]
  cases howner : (t.tiles.get lock.originKey).bind (·.ownerId) with
  | some p =>
      refine Or.inl ?_
      simp [hydratedLock, LockRecord.announced]
  | none =>
      refine Or.inr ?_
      unfold stagingAt flagAt
      cases htile : t.tiles.get lock.originKey with
      | none => rfl
      | some tile =>
          rw [htile] at howner
          have hneutral : tile.ownerId = none := howner
          show (tile.muster).map _ = none
          cases hmuster : tile.muster with
          | none => rfl
          | some muster =>
              obtain ⟨p, hp, _⟩ := hgrounded _ tile htile (by rw [hmuster]; simp)
              rw [hneutral] at hp
              cases hp

/-! ## §6. The same gold. -/

theorem players_adjustPoints {s t : CombatState W} (h : s.players = t.players) (p : PlayerId)
    (f : ℚ → ℚ) : (adjustPoints s p f).players = (adjustPoints t p f).players := by
  unfold adjustPoints
  rw [h]
  split
  · rfl
  · exact h

theorem players_applySettledCapturePlunder {s t : CombatState W} (h : s.players = t.players)
    (attacker defender : PlayerId) (gold defenderGoldLoss : ℚ) :
    (applySettledCapturePlunder s attacker defender gold defenderGoldLoss).players
      = (applySettledCapturePlunder t attacker defender gold defenderGoldLoss).players := by
  unfold applySettledCapturePlunder
  split
  · exact h
  · exact players_adjustPoints (players_adjustPoints h _ _) _ _

theorem players_plunderDefender {s t : CombatState W} (h : s.players = t.players)
    {lock lock' : LockRecord W} (hplayer : lock.playerId = lock'.playerId) {o o' : LockOutcome W}
    (ho : SameOutcome o o') (afcPlunder : ℚ) :
    (plunderDefender s lock o afcPlunder).players
      = (plunderDefender t lock' o' afcPlunder).players := by
  unfold plunderDefender
  rw [ho.previousOwnerId, ho.previousTarget, ho.attackerWon, ho.roll.pillagedGold,
    ho.roll.defenderGoldLoss, hplayer, h]
  split
  · dsimp only
    split
    · split
      · exact players_applySettledCapturePlunder (players_applySettledCapturePlunder h _ _ _ _) _ _ _ _
      · exact players_applySettledCapturePlunder h _ _ _ _
    · split
      · exact players_applySettledCapturePlunder h _ _ _ _
      · exact h
  · exact h

theorem players_applyCapturePlunder {s t : CombatState W} (h : s.players = t.players)
    {lock lock' : LockRecord W} (hplayer : lock.playerId = lock'.playerId) {o o' : LockOutcome W}
    (ho : SameOutcome o o') (afcPlunder bounty : ℚ) :
    (applyCapturePlunder s lock o afcPlunder bounty).players
      = (applyCapturePlunder t lock' o' afcPlunder bounty).players := by
  have hdefender := players_plunderDefender h hplayer ho afcPlunder
  unfold applyCapturePlunder
  rw [hplayer, h]
  split
  · exact h
  dsimp only
  split
  · exact players_adjustPoints hdefender _ _
  · exact hdefender

theorem extraPlunder_hydrated (hfield : SameField t u) {lock : LockRecord W} (h : lock.Restorable) :
    extraPlunder ctx t lock = extraPlunder ctx u (hydratedLock lock.announced) := by
  have ho := sameOutcome_hydrated ctx hfield h
  have htype : (hydratedLock lock.announced).actionType = lock.actionType := rfl
  have hplayer : (hydratedLock lock.announced).playerId = lock.playerId := rfl
  unfold extraPlunder afcCapturePlunderGold afcPlanetaryDefenseBounty
  dsimp only
  rw [ho.previousOwnerId, ho.previousTarget, ho.attackerWon, ho.roll.defenderGoldLoss,
    hfield.players, htype, hplayer]

theorem consumeOriginMuster_players (s : CombatState W) (key : TileKey W) (p : PlayerId)
    (amount : ℚ≥0) : (s.consumeOriginMuster key p amount).players = s.players := by
  unfold consumeOriginMuster
  split
  · rfl
  · split
    · rfl
    · split <;> rfl

theorem fightSpent_players (s : CombatState W) (lock : LockRecord W) :
    (fightSpent ctx s lock).players
      = (adjustPoints s lock.playerId (fun points => max 0 (points - FRONTIER_CLAIM_COST))).players := by
  unfold fightSpent spendAttackerMuster
  dsimp only
  split
  · split
    · rfl
    · exact consumeOriginMuster_players _ _ _ _
  · rfl

theorem shieldConsumed_players (s : CombatState W) (lock : LockRecord W)
    (outcome : LockOutcome W) :
    (applyShieldConsumptionAndReveal s lock outcome).players = s.players := by
  unfold applyShieldConsumptionAndReveal
  split
  · dsimp only
    split
    · exact consumeOriginMuster_players _ _ _ _
    · exact consumeOriginMuster_players _ _ _ _
  · rfl

/-- **The same gold**: a fight pays the same to and by everyone. -/
theorem fightPaid_players_hydrated (hfield : SameField t u) {lock : LockRecord W}
    (h : lock.Restorable) :
    (fightPaid ctx t lock).players = (fightPaid ctx u (hydratedLock lock.announced)).players := by
  unfold fightPaid
  rw [extraPlunder_hydrated ctx hfield h]
  refine players_applyCapturePlunder ?_ rfl (sameOutcome_hydrated ctx hfield h) _ _
  rw [shieldConsumed_players, shieldConsumed_players, fightSpent_players, fightSpent_players]
  exact players_adjustPoints hfield.players _ _

/-! ## §7. The same musters. -/

theorem stagingAt_of_tiles {s t : CombatState W} (h : t.tiles = s.tiles) (key : TileKey W) :
    t.stagingAt key = s.stagingAt key := by
  unfold stagingAt flagAt
  rw [h]

theorem stagingAt_replaceTileState (s : CombatState W) (key key' : TileKey W)
    (tile : DomainTileState W) :
    (s.replaceTileState key tile).stagingAt key'
      = if key = key' then tile.muster.map (fun m => (m.ownerId, m.amount))
        else s.stagingAt key' := by
  unfold stagingAt
  rw [flagAt_replaceTileState]
  split <;> rfl

theorem stagingAt_consume_zero (s : CombatState W) (key : TileKey W) (p : PlayerId)
    (key' : TileKey W) : (s.consumeOriginMuster key p 0).stagingAt key' = s.stagingAt key' := by
  unfold consumeOriginMuster
  split
  · rfl
  next tile htile =>
    split
    · rfl
    next muster hmuster =>
      split
      · refine (stagingAt_replaceTileState s key key' _).trans ?_
        by_cases hkey : key = key'
        · rw [if_pos hkey, ← hkey]
          unfold stagingAt
          rw [flagAt_of_get htile, hmuster]
          simp
        · rw [if_neg hkey]
      · rfl

theorem stagingAt_fightPaid (s : CombatState W) {lock : LockRecord W} (h : lock.Restorable)
    (key : TileKey W) : (fightPaid ctx s lock).stagingAt key = s.stagingAt key := by
  have hspent : (fightSpent ctx s lock).stagingAt key = s.stagingAt key := by
    have htiles : ((adjustPoints s lock.playerId (fun points =>
        max 0 (points - FRONTIER_CLAIM_COST))).emitEvent (resolvedEvent ctx s lock)).tiles
        = s.tiles := tiles_adjustPoints s lock.playerId _
    unfold fightSpent spendAttackerMuster
    dsimp only
    split
    next htype _ =>
      split
      · exact stagingAt_of_tiles htiles key
      · rw [(h.unfunded htype).1, stagingAt_consume_zero]
        exact stagingAt_of_tiles htiles key
    · exact stagingAt_of_tiles htiles key
  unfold fightPaid
  rw [stagingAt_of_tiles (tiles_applyCapturePlunder _ lock _ _ _), ← hspent]
  unfold applyShieldConsumptionAndReveal
  split
  next shield previousOwnerId htype hshield _ =>
    rw [lockOutcome_shield ctx s (h.rolled htype), (h.unfunded htype).2.1] at hshield
    cases hshield
  · rfl

theorem stagingAt_releaseBarbarianDefender (h : FlagsGrounded s) (lock : LockRecord W)
    (key : TileKey W) : (releaseBarbarianDefender s lock).stagingAt key = s.stagingAt key := by
  unfold releaseBarbarianDefender
  split
  next defenderTile hdefender =>
    dsimp only
    split
    next hleaves =>
      refine (stagingAt_replaceTileState s lock.targetKey key _).trans ?_
      by_cases hkey : lock.targetKey = key
      · rw [if_pos hkey, ← hkey]
        unfold stagingAt
        rw [flagAt_of_get hdefender]
        cases hmuster : defenderTile.muster with
        | none => rfl
        | some muster =>
            obtain ⟨p, hp, hplayer⟩ := h _ defenderTile hdefender (by rw [hmuster]; simp)
            rw [hleaves.1] at hp
            rw [← Option.some.inj hp] at hplayer
            exact absurd hplayer (by decide)
      · rw [if_neg hkey]
    · rfl
  · rfl

/-- What is staged once a fight has landed: nothing on a captured tile or on
a lost launch tile. -/
theorem stagingAt_fightLanded (h : FlagsGrounded s) (lock : LockRecord W) (outcome : LockOutcome W)
    (key : TileKey W) :
    (fightLanded s lock outcome).stagingAt key
      = if outcome.attackerWon then (if lock.targetKey = key then none else s.stagingAt key)
        else if outcome.originLost = true ∧ outcome.previousOwnerId.isSome = true
          ∧ lock.originKey = key then none else s.stagingAt key := by
  unfold fightLanded
  by_cases hwon : outcome.attackerWon = true
  · rw [if_pos hwon, if_pos hwon]
    exact stagingAt_replaceTileState s lock.targetKey key _
  · rw [if_neg hwon, if_neg hwon]
    have hshown : ∀ t : CombatState W, (if outcome.hasDefendingForce = true
        then showHeldTarget t lock else t).stagingAt key = t.stagingAt key := by
      intro t
      split
      · exact stagingAt_of_tiles (tiles_showHeldTarget t lock) key
      · rfl
    dsimp only
    rw [hshown]
    cases outcome.originLost with
    | false => exact (if_neg (fun hlost => by cases hlost.1)).symm
    | true =>
        cases outcome.previousOwnerId with
        | none => exact (if_neg (fun hlost => by cases hlost.2.1)).symm
        | some previousOwnerId =>
            dsimp only
            unfold resolveLostOrigin
            split
            next hnone =>
              by_cases hkey : lock.originKey = key
              · rw [if_pos ⟨rfl, rfl, hkey⟩, ← hkey]
                unfold stagingAt flagAt
                rw [hnone]
                rfl
              · rw [if_neg (fun hlost => hkey hlost.2.2)]
            next previousOrigin horigin =>
              dsimp only
              have hlost : ((s.replaceTileState lock.originKey (lostOriginTile previousOrigin
                  previousOwnerId)).emitEvent (.TILE_DELTA_BATCH lock.commandId lock.playerId
                    [tileDelta lock.originKey (lostOriginTile previousOrigin
                      previousOwnerId)])).stagingAt key
                  = if true = true ∧ (some previousOwnerId).isSome = true
                    ∧ lock.originKey = key then none else s.stagingAt key := by
                refine (stagingAt_replaceTileState s lock.originKey key _).trans ?_
                by_cases hkey : lock.originKey = key
                · rw [if_pos hkey, if_pos ⟨rfl, rfl, hkey⟩]
                  rfl
                · rw [if_neg hkey, if_neg (fun hlost => hkey hlost.2.2)]
              split
              · rw [stagingAt_releaseBarbarianDefender (h.write (grounded_of_bare rfl) rfl), hlost]
              · exact hlost

theorem stagingAt_replaceTiles {s t : CombatState W}
    (changes : List (TileKey W × DomainTileState W)) {key : TileKey W}
    (h : s.stagingAt key = t.stagingAt key) :
    (s.replaceTiles changes).stagingAt key = (t.replaceTiles changes).stagingAt key := by
  unfold stagingAt flagAt at h ⊢
  rw [tiles_replaceTiles, tiles_replaceTiles, InsertionMap.get_setAll, InsertionMap.get_setAll]
  cases AssocEntries.lookup key changes.reverse with
  | none =>
      rw [Option.none_or, Option.none_or]
      exact h
  | some tile => rfl

theorem fightLanded_players (s : CombatState W) (lock : LockRecord W) (outcome : LockOutcome W) :
    (fightLanded s lock outcome).players = s.players := by
  have hshown : ∀ t : CombatState W, (if outcome.hasDefendingForce = true
      then showHeldTarget t lock else t).players = t.players := by
    intro t
    split
    · unfold showHeldTarget
      split <;> rfl
    · rfl
  unfold fightLanded
  split
  · rfl
  dsimp only
  rw [hshown]
  split
  · unfold resolveLostOrigin releaseBarbarianDefender
    split
    · rfl
    dsimp only
    split
    · split
      · split <;> rfl
      · rfl
    · rfl
  · rfl

theorem applyAftermath_players (lock : LockRecord W)
    (aftermath : List (TileKey W × DomainTileState W)) :
    ∀ s : CombatState W, (applyAftermath s lock aftermath).players = s.players := by
  induction aftermath with
  | nil =>
      intro s
      rfl
  | cons change rest ih =>
      intro s
      exact (ih _).trans rfl

/-- **One fight, before and after a restart**: the same gold, the same pools,
the same staged musters. -/
theorem resolveFight_hydrated (hfield : SameField t u) {lock : LockRecord W} (h : lock.Restorable)
    (hgrounded : FlagsGrounded t) :
    SameHoldings (resolveFight ctx u (hydratedLock lock.announced)) (resolveFight ctx t lock) := by
  have ho := sameOutcome_hydrated ctx hfield h
  have hgrounded' : FlagsGrounded u := hgrounded.of_tiles hfield.tiles.symm
  have hgold := fightPaid_players_hydrated ctx hfield h
  have hlanded : ∀ (s : CombatState W) (l : LockRecord W), resolveFight ctx s l
      = applyAftermath (fightLanded (fightPaid ctx s l) l (lockOutcome ctx s l)) l ctx.aftermath :=
    fun s l => rfl
  refine ⟨fun p => ?_, fun key => ?_⟩
  · unfold purse
    rw [hlanded, hlanded, applyAftermath_players, applyAftermath_players, fightLanded_players,
      fightLanded_players, hgold]
  · rw [hlanded, hlanded, stagingAt_of_tiles (tiles_applyAftermath _ ctx.aftermath _ _ rfl),
      stagingAt_of_tiles (tiles_applyAftermath lock ctx.aftermath _ _ rfl)]
    refine stagingAt_replaceTiles ctx.aftermath ?_
    rw [stagingAt_fightLanded (grounded_fightPaid ctx hgrounded' _),
      stagingAt_fightLanded (grounded_fightPaid ctx hgrounded _),
      stagingAt_fightPaid ctx u (restorable_hydrated h), stagingAt_fightPaid ctx t h,
      ← ho.attackerWon, ← ho.previousOwnerId, stagingAt_of_tiles hfield.tiles.symm]
    have horigin : (hydratedLock lock.announced).originKey = lock.originKey := rfl
    have htarget : (hydratedLock lock.announced).targetKey = lock.targetKey := rfl
    rw [horigin, htarget]
    split
    · rfl
    rcases originLost_hydrated ctx hfield h hgrounded with hsame | hbare
    · rw [hsame]
    · by_cases hkey : lock.originKey = key
      · -- nothing is staged there in any case
        rw [← hkey, hbare]
        split <;> split <;> rfl
      · rw [if_neg (fun hlost => hkey hlost.2.2), if_neg (fun hlost => hkey hlost.2.2)]

/-- **One lock, resolved before and after a restart.** -/
theorem resolves_alike {lock : LockRecord W} (h : lock.Restorable) (hgrounded : FlagsGrounded s)
    (howns : s.locksByTile.ownsTargetSlot lock = true)
    (howns' : (restarted s).locksByTile.ownsTargetSlot (hydratedLock lock.announced) = true)
    (ctx : RuntimeLockResolutionContext W) :
    SameHoldings (resolveLock ctx (restarted s) (hydratedLock lock.announced))
      (resolveLock ctx s lock) := by
  have hresolve : ∀ (t : CombatState W) (l : LockRecord W),
      t.locksByTile.ownsTargetSlot l = true →
      resolveLockUnbuffered ctx (unbuffered t) l
        = resolveFight ctx (released (unbuffered t) l) l := by
    intro t l hl
    have hslot : (releaseMusterReservation (unbuffered t) l).locksByTile = t.locksByTile := by
      unfold releaseMusterReservation
      cases l.musterSourceKey <;> cases l.shield <;> rfl
    unfold resolveLockUnbuffered
    dsimp only
    rw [hslot, if_pos hl]
    rfl
  have hfield : SameField (released (unbuffered s) lock)
      (released (unbuffered (restarted s)) (hydratedLock lock.announced)) := by
    refine ⟨?_, ?_, ?_⟩
    · have hnow : ∀ (t : CombatState W) (l : LockRecord W),
          (released (unbuffered t) l).now = t.now := by
        intro t l
        unfold released dropLock releaseMusterReservation
        cases l.musterSourceKey <;> cases l.shield <;> rfl
      rw [hnow, hnow]
      rfl
    · rw [released_players, released_players]
      rfl
    · rw [released_tiles, released_tiles]
      rfl
  have hfight := resolveFight_hydrated ctx hfield h
    (hgrounded.of_tiles (released_tiles (unbuffered s) lock))
  rw [← hresolve s lock howns, ← hresolve (restarted s) _ howns'] at hfight
  exact hfight

/-! ## §8. Every run. -/

/-- **The invariant**: the log names the live locks, each holds its slot and
can be restored, and flags stand on the ground of players. -/
structure SafeToRestart (s : CombatState W) : Prop where
  recovers : s.books.Recovers
  slotted : s.locksByTile.Slotted
  restorable : ∀ lock, s.locksByTile.Live lock → lock.Restorable
  grounded : FlagsGrounded s

/-- **Step lemma**: a restart stays safe. -/
theorem safeToRestart_step {e : Event W} (hlife : s.books.LockLife) (h : SafeToRestart s)
    (hmeet : SurvivesRestart s e) : SafeToRestart (step s e) := by
  have hsole : ∀ lock, (moveOf s e).resolved = some lock → s.books.Sole lock := by
    intro lock hlock
    exact sole_of_resolvingLock (e := e) hlife (by rw [resolvingLock_eq]; exact hlock)
  have hmove := (moveOf s e).recovers hlife (moveOf_sound s e) hsole hmeet.fresh hmeet.logged
    h.recovers h.slotted
  rw [← books_step] at hmove
  refine ⟨hmove.1, hmove.2, ?_, ?_⟩
  · intro lock hlive
    rcases live_of_step hlife hlive with ⟨hold, _⟩ | hnew
    · exact h.restorable lock hold
    · exact ⟨accepted_unrolled hnew, (accepted_furnished hnew).rolled, hmeet.unfunded lock hnew,
        accepted_launched hnew⟩
  · exact flagsGrounded_step h.grounded hmeet.grounded.1 hmeet.grounded.2

theorem restartEquivalent_of_safe (hlife : s.books.LockLife) (h : SafeToRestart s) :
    RestartEquivalent s := by
  have hlog := (recoversLocks_iff s).mpr h.recovers
  refine ⟨hlog, ?_⟩
  intro id lock hydrated hlive hrestored ctx
  obtain ⟨rfl, howns'⟩ := restarted_live hlife.keyed hlog h.slotted hlive hrestored
  have hid := hlife.keyed id lock hlive
  have hlock : s.locksByTile.Live lock := by
    unfold CombatLockIndex.Live
    rw [hid]
    exact hlive
  have howns : s.locksByTile.ownsTargetSlot lock = true :=
    (CombatLockIndex.ownsTargetSlot_iff _ _).mpr ⟨lock, h.slotted lock hlock, rfl⟩
  exact resolves_alike (h.restorable lock hlock) h.grounded howns howns' ctx

/-- **Over every run** whose steps survive a restart, the event log names
exactly the live locks, and each of them resolves after a restart as it
would have. -/
theorem restart_keeps_locks (now : Int) (players : InsertionMap PlayerId DomainPlayer)
    (tiles : InsertionMap (TileKey W) (DomainTileState W))
    (flags : InsertionMap PlayerId (List (TileKey W))) (events : List (Event W))
    (hgrounded : FlagsGrounded (.opening now players tiles flags))
    (hmeet : Run.StepsMeet step SurvivesRestart (.opening now players tiles flags) events) :
    Run.Along step RestartEquivalent (.opening now players tiles flags) events := by
  have hinv : Run.Along step (fun s => s.books.LockLife ∧ SafeToRestart s)
      (.opening now players tiles flags) events := by
    refine Run.along_of_stepsMeet (C := SurvivesRestart) ?_ events _
      ⟨opening_lockLife now players tiles flags, ⟨?_, ?_, ?_, hgrounded⟩⟩ hmeet
    · intro s e hs hstep
      exact ⟨lockLife_step s e hs.1 hstep.fresh, safeToRestart_step hs.1 hs.2 hstep⟩
    · intro id
      rfl
    · intro lock h
      exact absurd h (by simp [CombatLockIndex.Live, CombatState.opening, CombatLockIndex.empty])
    · intro lock h
      exact absurd h (by simp [CombatLockIndex.Live, CombatState.opening, CombatLockIndex.empty])
  exact hinv.mono (fun s hs => restartEquivalent_of_safe hs.1 hs.2) events

/-- An expansion that nothing disturbs survives a restart at any time. -/
theorem restart_keeps_locks_quiet :
    Run.Along step RestartEquivalent border
      [.frontier quietFrontier (orderTo "expand" (borderKey 1 2)) .EXPAND, .wait 20000,
        .timer quietResolution 0] := by
  have hmove : moveOf border (.frontier quietFrontier
      (orderTo "expand" (borderKey 1 2)) .EXPAND) = .accept expandLock := rfl
  have hground : FlagsGrounded border := by
    intro key tile htile
    have hmem := (border.tiles.mem_entries_iff key tile).mpr htile
    have hentries : border.tiles.entries
        = [(borderKey 1 1, landTile (some playerOne) (some .FRONTIER) (some (holdFlag playerOne 60))),
          (borderKey 2 1, landTile (some playerTwo) (some .FRONTIER) none),
          (borderKey 2 2, landTile (some playerTwo) (some .FRONTIER) none),
          (borderKey 1 2, landTile none none none)] := by decide +kernel
    rw [hentries] at hmem
    simp only [List.mem_cons, Prod.mk.injEq, List.not_mem_nil, or_false] at hmem
    rcases hmem with ⟨-, rfl⟩ | ⟨-, rfl⟩ | ⟨-, rfl⟩ | ⟨-, rfl⟩
    · exact fun _ => ⟨playerOne, rfl, by decide⟩
    · exact grounded_of_bare rfl
    · exact grounded_of_bare rfl
    · exact grounded_of_bare rfl
  have haccept : SurvivesRestart border (.frontier quietFrontier
      (orderTo "expand" (borderKey 1 2)) .EXPAND) := by
    refine ⟨?_, ?_, ?_, ?_, ?_⟩
    · unfold FreshCommand
      rw [hmove]
      rfl
    · rw [hmove]
      show border.books.locksByTile.targets.get (borderKey 1 2) = none
      decide +kernel
    · intro lock hlock htype
      rw [hmove] at hlock
      cases hlock
      cases htype
    · intro change hchange
      exact absurd hchange List.not_mem_nil
    · intro ctx commandId playerId payload h
      cases h
  have hwait : ∀ s : CombatState smallestWorld, SurvivesRestart s (.wait 20000) := by
    intro s
    refine ⟨trivial, trivial, fun lock hlock => (nomatch hlock), ?_, ?_⟩
    · intro change hchange
      exact absurd hchange List.not_mem_nil
    · intro ctx commandId playerId payload h
      cases h
  have htimer : ∀ s : CombatState smallestWorld,
      SurvivesRestart s (.timer quietResolution 0) := by
    intro s
    refine ⟨freshCommand_timer _ _ _, ?_, ?_, ?_, ?_⟩
    · unfold moveOf
      dsimp only
      split <;> trivial
    · intro lock hlock
      unfold moveOf at hlock
      dsimp only at hlock
      split at hlock <;> cases hlock
    · intro change hchange
      exact absurd hchange List.not_mem_nil
    · intro ctx commandId playerId payload h
      cases h
  exact restart_keeps_locks _ _ _ _ _ hground ⟨haccept, hwait _, htimer _, trivial⟩

/-- An attack in flight would have cost 60 and costs nothing after a
restart; a swept expansion comes back with one. -/
theorem restart_forgets_cost_and_sweep :
    ¬ Run.Along step RestartEquivalent border
        [.frontier quietFrontier (orderTo "attack" (borderKey 2 1)) .ATTACK]
      ∧ ¬ Run.Along step RestartEquivalent border
        [.frontier quietFrontier (orderTo "expand" (borderKey 1 2)) .EXPAND, .wait 80001,
          .orphanedLockSweep] := by
  constructor
  · intro h
    have halike := h.2.2 "attack" attackLock (hydratedLock attackLock.announced)
      (by decide +kernel) (by decide +kernel) quietResolution
    have hflag := halike.2 (borderKey 1 1)
    revert hflag
    decide +kernel
  · intro h
    have hlog := h.2.2.2.1 "expand"
    revert hlog
    decide +kernel

end BorderEmpires.Combat
