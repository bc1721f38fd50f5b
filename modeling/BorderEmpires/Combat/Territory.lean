/-
  BorderEmpires.Combat.Territory
  **WHO HOLDS WHICH TILE, STEP BY STEP.**

  `Hands s t given`: on the way from `s` to `t` every tile keeps its owner,
  is released, or goes to a player that `given` names for it.  Each handler
  gets its list; `hands_step` is the sum of them.
-/
import BorderEmpires.Combat.Runs

namespace BorderEmpires.Combat

open CombatState

variable {W : WorldSize}

/-! ## §1. Owners. -/

/-- Whose tile it is. -/
def CombatState.ownerAt (s : CombatState W) (key : TileKey W) : Option PlayerId :=
  (s.tiles.get key).bind (·.ownerId)

/-- Tiles handed over, each with its new owner. -/
abbrev Given (W : WorldSize) := List (TileKey W × PlayerId)

/-- **What a step hands over**: a tile keeps its owner, loses it, or goes to one that is
listed. -/
def Hands (s t : CombatState W) (given : Given W) : Prop :=
  ∀ key, t.ownerAt key = s.ownerAt key ∨ t.ownerAt key = none
    ∨ ∃ p, t.ownerAt key = some p ∧ (key, p) ∈ given

namespace Hands

variable {s t u : CombatState W} {given given' : Given W}

/-- A step that writes no tile hands none over. -/
theorem of_tiles (h : t.tiles = s.tiles) : Hands s t [] := by
  intro key
  refine Or.inl ?_
  unfold ownerAt
  rw [h]

/-- More may be listed. -/
theorem mono (h : Hands s t given) (hsub : ∀ g ∈ given, g ∈ given') : Hands s t given' := by
  intro key
  rcases h key with hsame | hnone | ⟨p, hp, hmem⟩
  · exact Or.inl hsame
  · exact Or.inr (Or.inl hnone)
  · exact Or.inr (Or.inr ⟨p, hp, hsub _ hmem⟩)

/-- Two steps hand over what either does. -/
theorem trans (h : Hands s t given) (h' : Hands t u given') : Hands s u (given ++ given') := by
  intro key
  rcases h' key with hsame | hnone | ⟨p, hp, hmem⟩
  · rw [hsame]
    rcases h key with hs | hn | ⟨p, hp, hmem⟩
    · exact Or.inl hs
    · exact Or.inr (Or.inl hn)
    · exact Or.inr (Or.inr ⟨p, hp, List.mem_append_left _ hmem⟩)
  · exact Or.inr (Or.inl hnone)
  · exact Or.inr (Or.inr ⟨p, hp, List.mem_append_right _ hmem⟩)

/-- A step that hands nothing over may follow. -/
theorem still (h : Hands s t given) (h' : Hands t u []) : Hands s u given := by
  have htrans := h.trans h'
  rw [List.append_nil] at htrans
  exact htrans

/-- A step that hands nothing over may come first. -/
theorem after (h : Hands s t []) (h' : Hands t u given) : Hands s u given := h.trans h'

end Hands

variable (ctx : RuntimeFrontierCommandContext W) (s : CombatState W)

variable (lock : LockRecord W)

/-- A write sets the owner of its tile and of no other. -/
theorem ownerAt_replaceTileState (key key' : TileKey W) (tile : DomainTileState W) :
    (s.replaceTileState key tile).ownerAt key'
      = if key = key' then tile.ownerId else s.ownerAt key' := by
  show ((s.tiles.set key tile).get key').bind _ = _
  rw [InsertionMap.get_set]
  by_cases hkey : key = key'
  · rw [if_pos hkey, if_pos hkey]
    rfl
  · rw [if_neg hkey, if_neg hkey]
    rfl

/-- What a list of writes gives to whom. -/
def givenBy (changes : List (TileKey W × DomainTileState W)) : Given W :=
  changes.filterMap (fun change => change.2.ownerId.map (fun p => (change.1, p)))

/-- A write hands over its own tile. -/
theorem hands_replaceTileState (key : TileKey W) (tile : DomainTileState W) :
    Hands s (s.replaceTileState key tile) (givenBy [(key, tile)]) := by
  intro key'
  rw [ownerAt_replaceTileState]
  by_cases hkey : key = key'
  · rw [if_pos hkey, ← hkey]
    cases howner : tile.ownerId with
    | none => exact Or.inr (Or.inl rfl)
    | some p => exact Or.inr (Or.inr ⟨p, rfl, by simp [givenBy, howner]⟩)
  · rw [if_neg hkey]
    exact Or.inl rfl

/-- A tile rewritten for its owner, or left without one, is not handed over. -/
theorem hands_rewrite {s t : CombatState W} {key : TileKey W} {tile old : DomainTileState W}
    (hold : s.tiles.get key = some old) (htiles : t.tiles = s.tiles.set key tile)
    (howner : tile.ownerId = old.ownerId ∨ tile.ownerId = none) : Hands s t [] := by
  intro key'
  have hread : t.ownerAt key' = (s.replaceTileState key tile).ownerAt key' := by
    unfold ownerAt
    rw [htiles]
    rfl
  rw [hread, ownerAt_replaceTileState]
  by_cases hkey : key = key'
  · rw [if_pos hkey, ← hkey]
    cases howner with
    | inl hsame =>
        refine Or.inl ?_
        unfold ownerAt
        rw [hold, hsame]
        rfl
    | inr hnone => exact Or.inr (Or.inl hnone)
  · rw [if_neg hkey]
    exact Or.inl rfl

/-- Writes in a row hand over what they write. -/
theorem hands_replaceTiles (changes : List (TileKey W × DomainTileState W)) :
    ∀ s : CombatState W, Hands s (s.replaceTiles changes) (givenBy changes) := by
  induction changes with
  | nil =>
      intro s
      exact Hands.of_tiles rfl
  | cons change rest ih =>
      intro s
      have h := (hands_replaceTileState s change.1 change.2).trans
        (ih (s.replaceTileState change.1 change.2))
      refine h.mono (fun g hg => ?_)
      have hsplit : givenBy (change :: rest) = givenBy [(change.1, change.2)] ++ givenBy rest := by
        unfold givenBy
        rw [← List.filterMap_append]
        rfl
      rw [hsplit]
      exact hg

/-! ## §2. Handlers that hand nothing over. -/

/-- Muster that is spent leaves its tile where it was. -/
theorem hands_consumeOriginMuster (key : TileKey W) (playerId : PlayerId) (amount : ℚ≥0) :
    Hands s (s.consumeOriginMuster key playerId amount) [] := by
  unfold consumeOriginMuster
  split
  · exact Hands.of_tiles rfl
  next tile htile =>
    split
    · exact Hands.of_tiles rfl
    · split
      · exact hands_rewrite htile rfl (Or.inl rfl)
      · exact Hands.of_tiles rfl

/-- A flag is set on the player's own tile. -/
theorem hands_handleSetMusterCommand (ctx : MusterCommandContext) (s : CombatState W)
    (commandId : CommandId) (playerId : PlayerId) (payload : SetMusterPayload W) :
    Hands s (s.handleSetMusterCommand ctx commandId playerId payload) [] := by
  unfold handleSetMusterCommand
  split
  · exact Hands.of_tiles rfl
  · exact Hands.of_tiles rfl
  next htile =>
    split
    · exact Hands.of_tiles rfl
    · exact hands_rewrite htile rfl (Or.inl rfl)

/-- A flag is cleared on the player's own tile. -/
theorem hands_handleClearMusterCommand (ctx : MusterCommandContext) (s : CombatState W)
    (commandId : CommandId) (playerId : PlayerId) (tileKey : TileKey W) :
    Hands s (s.handleClearMusterCommand ctx commandId playerId tileKey) [] := by
  unfold handleClearMusterCommand
  split
  · exact Hands.of_tiles rfl
  · exact Hands.of_tiles rfl
  next htile =>
    split
    · exact Hands.of_tiles rfl
    · split
      · exact Hands.of_tiles rfl
      · exact hands_rewrite htile rfl (Or.inl rfl)

/-- The muster pass rewrites a flag's tile for its owner. -/
theorem hands_tickFlag (ctx : MusterTickContext W) (s : CombatState W) (playerId : PlayerId)
    (key : TileKey W) : Hands s (s.tickFlag ctx playerId key) [] := by
  unfold tickFlag
  dsimp only
  split
  next htile =>
    split
    · exact Hands.of_tiles rfl
    split
    · exact Hands.of_tiles rfl
    split
    · exact hands_rewrite htile rfl (Or.inl rfl)
    split
    · exact hands_rewrite htile rfl (Or.inl rfl)
    · split
      · exact hands_rewrite htile rfl (Or.inl rfl)
      · exact Hands.of_tiles rfl
  · exact Hands.of_tiles rfl

/-! ## §3. Tiles that a handler leaves as they are. -/

/-- Regeneration writes no tile. -/
theorem tiles_regenerated (command : CommandEnvelope W) :
    (regenerated ctx s command).tiles = s.tiles := by
  unfold regenerated
  split <;> rfl

/-- Points are no tile's. -/
theorem tiles_adjustPoints (p : PlayerId) (f : ℚ → ℚ) : (adjustPoints s p f).tiles = s.tiles := by
  unfold adjustPoints
  split <;> rfl

/-- Plunder moves between players only. -/
theorem tiles_applyCapturePlunder (outcome : LockOutcome W) (afcPlunder bounty : ℚ) :
    (applyCapturePlunder s lock outcome afcPlunder bounty).tiles = s.tiles :=
  view_applyCapturePlunder s tiles_adjustPoints lock outcome afcPlunder bounty

/-- A charge is on the player. -/
theorem tiles_chargeExpansion : (chargeExpansion s lock).tiles = s.tiles := by
  unfold chargeExpansion
  split <;> rfl

/-- A reservation is on the books. -/
theorem tiles_reserveForAttack : (reserveForAttack s lock).tiles = s.tiles := by
  unfold reserveForAttack
  split <;> rfl

/-- So is a shield's. -/
theorem tiles_reserveShield : (reserveShield s lock).tiles = s.tiles := by
  unfold reserveShield
  split <;> rfl

/-- A refund goes to the player. -/
theorem tiles_refundExpandManpower (cap : DomainPlayer → ℚ) (s : CombatState W)
    (lock : LockRecord W) : (refundExpandManpower cap s lock).tiles = s.tiles := by
  unfold refundExpandManpower
  split <;> rfl

/-- A cancel drops locks and writes no tile. -/
theorem tiles_handleCancelCaptureCommand (commandId : CommandId) (playerId : PlayerId) :
    (handleCancelCaptureCommand s commandId playerId).tiles = s.tiles := by
  have hlock : ∀ (s : CombatState W) (lock : LockRecord W),
      (cancelLock playerId s lock).tiles = s.tiles := by
    intro s lock
    unfold cancelLock
    dsimp only
    split <;> rfl
  unfold handleCancelCaptureCommand
  split
  · rfl
  dsimp only
  split
  · rfl
  · exact List.foldlRecOn (motive := fun t : CombatState W => t.tiles = s.tiles) _ _ rfl
      (fun t ht lock _ => (hlock t lock).trans ht)

/-- Nor does the sweep. -/
theorem tiles_tickOrphanedLockSweep : (tickOrphanedLockSweep s).tiles = s.tiles := by
  have hlock : ∀ (s : CombatState W) (lock : LockRecord W), (sweepLock s lock).tiles = s.tiles := by
    intro s lock
    unfold sweepLock
    dsimp only
    split <;> rfl
  exact List.foldlRecOn (motive := fun t : CombatState W => t.tiles = s.tiles) _ _ rfl
    (fun t ht lock _ => (hlock t lock).trans ht)

/-! ## §4. Handlers that hand tiles over. -/

/-- A barbarian attack gives up the tile that it leaves. -/
theorem hands_launchBarbarianAttack : Hands s (launchBarbarianAttack s lock) [] := by
  unfold launchBarbarianAttack
  split
  next origin horigin =>
    split
    · exact hands_rewrite horigin rfl (Or.inr rfl)
    · exact Hands.of_tiles rfl
  · exact Hands.of_tiles rfl

/-- What an acceptance books writes no tile. -/
theorem tiles_reserved (baseLock lock : LockRecord W) :
    (reserveShield (chargeExpansion (reserveForAttack s baseLock) baseLock) lock).tiles
      = s.tiles := by
  rw [tiles_reserveShield, tiles_chargeExpansion, tiles_reserveForAttack]

/-- Accepting a command hands no tile over. -/
theorem hands_acceptFrontierCommand (baseLock : LockRecord W) :
    Hands s (acceptFrontierCommand ctx s baseLock) [] := by
  unfold acceptFrontierCommand
  dsimp only
  generalize rolledLock ctx (chargeExpansion (reserveForAttack s baseLock) baseLock)
    baseLock = lock
  have hreserved := tiles_reserved s baseLock lock
  generalize reserveShield _ lock = reserved at hreserved ⊢
  have hlaunched : Hands s (if lock.barbarianLaunch = true then launchBarbarianAttack reserved lock
      else reserved) [] := by
    split
    · exact (Hands.of_tiles hreserved).after (hands_launchBarbarianAttack _ lock)
    · exact Hands.of_tiles hreserved
  exact hlaunched.still (Hands.of_tiles rfl)

/-- The tiles a frontier command hands over, with a cut-off launch tile. -/
def frontierGives (ctx : RuntimeFrontierCommandContext W) (s : CombatState W)
    (command : CommandEnvelope W) (actionType : FrontierCommandType) : Given W :=
  match frontierVerdict ctx (regenerated ctx s command) command actionType with
  | .cutOff released => givenBy released
  | _ => []

/-- **A frontier command** hands over no more than `frontierGives` lists. -/
theorem hands_handleFrontierCommandImpl (command : CommandEnvelope W)
    (actionType : FrontierCommandType) :
    Hands s (handleFrontierCommandImpl ctx s command actionType)
      (frontierGives ctx s command actionType) := by
  have hregen : Hands s (regenerated ctx s command) [] :=
    Hands.of_tiles (tiles_regenerated ctx s command)
  rw [handleFrontierCommandImpl_eq]
  unfold frontierGives
  cases frontierVerdict ctx (regenerated ctx s command) command actionType with
  | rejected code message => exact hregen.still (Hands.of_tiles rfl)
  | cutOff released =>
      exact (hregen.after (hands_replaceTiles released _)).still (Hands.of_tiles rfl)
  | accepted baseLock => exact hregen.after (hands_acceptFrontierCommand ctx _ baseLock)

/-- Spent muster leaves its tile where it was. -/
theorem hands_spendAttackerMuster : Hands s (spendAttackerMuster s lock) [] := by
  unfold spendAttackerMuster
  split
  · split
    · exact Hands.of_tiles rfl
    · exact hands_consumeOriginMuster s _ _ _
  · exact Hands.of_tiles rfl

/-- So does a consumed shield. -/
theorem hands_applyShieldConsumptionAndReveal (outcome : LockOutcome W) :
    Hands s (applyShieldConsumptionAndReveal s lock outcome) [] := by
  unfold applyShieldConsumptionAndReveal
  split
  · dsimp only
    split
    · exact (hands_consumeOriginMuster s _ _ _).still (Hands.of_tiles rfl)
    · exact hands_consumeOriginMuster s _ _ _
  · exact Hands.of_tiles rfl

/-- A lost launch tile goes to whom it was lost. -/
theorem hands_resolveLostOrigin (previousOwnerId : PlayerId) :
    Hands s (resolveLostOrigin s lock previousOwnerId) [(lock.originKey, previousOwnerId)] := by
  unfold resolveLostOrigin
  split
  · exact (Hands.of_tiles rfl).mono (fun g hg => absurd hg List.not_mem_nil)
  next previousOrigin horigin =>
    dsimp only
    have hlost := (hands_replaceTileState s lock.originKey
      (lostOriginTile previousOrigin previousOwnerId)).still
      (u := (s.replaceTileState lock.originKey (lostOriginTile previousOrigin
        previousOwnerId)).emitEvent (.TILE_DELTA_BATCH lock.commandId lock.playerId
          [tileDelta lock.originKey (lostOriginTile previousOrigin previousOwnerId)]))
      (Hands.of_tiles rfl)
    split
    · refine hlost.still ?_
      unfold releaseBarbarianDefender
      split
      next defenderTile hdefender =>
        dsimp only
        split
        · exact hands_rewrite hdefender rfl (Or.inr rfl)
        · exact Hands.of_tiles rfl
      · exact Hands.of_tiles rfl
    · exact hlost

/-- The aftermath writes its tiles and nothing more. -/
theorem tiles_applyAftermath (changes : List (TileKey W × DomainTileState W)) :
    ∀ s t : CombatState W, s.tiles = t.tiles →
      (applyAftermath s lock changes).tiles = (t.replaceTiles changes).tiles := by
  induction changes with
  | nil =>
      intro s t h
      exact h
  | cons change rest ih =>
      intro s t h
      refine ih _ _ ?_
      show s.tiles.set change.1 change.2 = t.tiles.set change.1 change.2
      rw [h]

/-- It hands over what it writes. -/
theorem hands_applyAftermath (aftermath : List (TileKey W × DomainTileState W)) (s : CombatState W)
    :
    Hands s (applyAftermath s lock aftermath) (givenBy aftermath) :=
  (hands_replaceTiles aftermath s).still
    (Hands.of_tiles (tiles_applyAftermath lock aftermath s s rfl))

/-- The tiles a fight hands over beyond its target. -/
def besidesGives (ctx : RuntimeLockResolutionContext W) (lock : LockRecord W)
    (outcome : LockOutcome W) : Given W :=
  (if outcome.attackerWon then [] else
    match outcome.originLost, outcome.previousOwnerId with
    | true, some previousOwnerId => [(lock.originKey, previousOwnerId)]
    | _, _ => [])
  ++ givenBy ctx.aftermath

/-- The outcome hands over the target and what comes besides. -/
theorem hands_applyTerritory (ctx : RuntimeLockResolutionContext W) (s : CombatState W)
    (lock : LockRecord W) (outcome : LockOutcome W) :
    Hands s (applyTerritory ctx s lock outcome)
      ((lock.targetKey, lock.playerId) :: besidesGives ctx lock outcome) := by
  unfold applyTerritory besidesGives
  dsimp only
  by_cases hwon : outcome.attackerWon = true
  · rw [if_pos hwon, if_pos hwon]
    have hcapture : Hands s (applyWinningTileCapture s lock outcome.previousTarget)
        [(lock.targetKey, lock.playerId)] :=
      (hands_replaceTileState s lock.targetKey
        (capturedTile s lock outcome.previousTarget)).still (Hands.of_tiles rfl)
    exact hcapture.trans (hands_applyAftermath lock ctx.aftermath _)
  · rw [if_neg hwon, if_neg hwon]
    have hlost : Hands s (match outcome.originLost, outcome.previousOwnerId with
        | true, some previousOwnerId => resolveLostOrigin s lock previousOwnerId
        | _, _ => s)
        (match outcome.originLost, outcome.previousOwnerId with
        | true, some previousOwnerId => [(lock.originKey, previousOwnerId)]
        | _, _ => []) := by
      cases outcome.originLost with
      | false => exact Hands.of_tiles rfl
      | true =>
          cases outcome.previousOwnerId with
          | none => exact Hands.of_tiles rfl
          | some previousOwnerId => exact hands_resolveLostOrigin s lock previousOwnerId
    have hshown : ∀ t : CombatState W,
        Hands t (if outcome.hasDefendingForce = true then showHeldTarget t lock else t) [] := by
      intro t
      split
      · unfold showHeldTarget
        split <;> exact Hands.of_tiles rfl
      · exact Hands.of_tiles rfl
    refine ((hlost.still (hshown _)).trans (hands_applyAftermath lock ctx.aftermath _)).mono ?_
    intro g hg
    exact List.mem_cons_of_mem _ hg

/-- The outcome that a lock is resolved with. -/
def fightOutcome (ctx : RuntimeLockResolutionContext W) (s : CombatState W)
    (lock : LockRecord W) : LockOutcome W :=
  lockOutcome ctx (released (unbuffered s) lock) lock

/-- The target, for the player whose lock owns its slot. -/
def foughtFor (s : CombatState W) (lock : LockRecord W) : Given W :=
  if s.locksByTile.ownsTargetSlot lock = true then [(lock.targetKey, lock.playerId)] else []

/-- What a resolution hands over beside it. -/
def resolutionGives (ctx : RuntimeLockResolutionContext W) (s : CombatState W)
    (lock : LockRecord W) : Given W :=
  if s.locksByTile.ownsTargetSlot lock = true then
    besidesGives ctx lock (fightOutcome ctx s lock)
  else []

/-- What a fight does before it moves territory. -/
def fightPaid (ctx : RuntimeLockResolutionContext W) (s : CombatState W)
    (lock : LockRecord W) : CombatState W :=
  applyCapturePlunder (applyShieldConsumptionAndReveal (fightSpent ctx s lock) lock
    (lockOutcome ctx s lock)) lock (lockOutcome ctx s lock) (extraPlunder ctx s lock).1
    (extraPlunder ctx s lock).2

theorem hands_fightPaid (ctx : RuntimeLockResolutionContext W) (s : CombatState W)
    (lock : LockRecord W) : Hands s (fightPaid ctx s lock) [] := by
  unfold fightPaid fightSpent
  dsimp only
  refine Hands.still ?_ (Hands.of_tiles (tiles_applyCapturePlunder _ lock _ _ _))
  refine Hands.still ?_ (hands_applyShieldConsumptionAndReveal _ lock _)
  refine Hands.still ?_ (hands_spendAttackerMuster _ lock)
  exact Hands.of_tiles (tiles_adjustPoints _ lock.playerId _)

theorem locksByTile_released (s : CombatState W) (lock : LockRecord W) :
    (releaseMusterReservation (unbuffered s) lock).locksByTile = s.locksByTile := by
  unfold releaseMusterReservation
  cases lock.musterSourceKey <;> cases lock.shield <;> rfl

/-- **A resolved lock** hands over its target and what comes besides. -/
theorem hands_resolveLock (ctx : RuntimeLockResolutionContext W) (s : CombatState W)
    (lock : LockRecord W) :
    Hands s (resolveLock ctx s lock) (foughtFor s lock ++ resolutionGives ctx s lock) := by
  have hreleased : Hands s (released (unbuffered s) lock) [] :=
    Hands.of_tiles (released_tiles (unbuffered s) lock)
  have hunbuffered : Hands s (resolveLockUnbuffered ctx (unbuffered s) lock)
      (foughtFor s lock ++ resolutionGives ctx s lock) := by
    unfold resolveLockUnbuffered foughtFor resolutionGives
    dsimp only
    rw [locksByTile_released]
    by_cases howns : s.locksByTile.ownsTargetSlot lock = true
    · rw [if_pos howns, if_pos howns, if_pos howns]
      refine hreleased.after ?_
      exact (hands_fightPaid ctx _ lock).after (hands_applyTerritory ctx _ lock _)
    · rw [if_neg howns, if_neg howns, if_neg howns]
      split
      · exact hreleased.still (Hands.of_tiles (tiles_refundExpandManpower _ _ lock))
      · exact hreleased
  exact hunbuffered.still (Hands.of_tiles rfl)

/-- The neutral land a reach claim finds. -/
def claimable (s : CombatState W) (tileKeys : List (TileKey W)) : List (TileKey W) :=
  tileKeys.filter (fun key => (s.tiles.get key).any (fun t =>
    t.ownerId = none && t.terrain = .LAND))

/-- Reach claims take claimable tiles for their owner and leave the others. -/
theorem reachClaims_spec (ownerId : PlayerId) (tileKeys : List (TileKey W)) :
    ∀ key, (tileKeys.foldl (reachClaimTile ownerId) s).tiles.get key = s.tiles.get key
      ∨ ((tileKeys.foldl (reachClaimTile ownerId) s).ownerAt key = some ownerId
        ∧ key ∈ claimable s tileKeys) := by
  have hfold : ∀ (keys : List (TileKey W)), (∀ key ∈ keys, key ∈ tileKeys) →
      ∀ t : CombatState W, (∀ key, t.tiles.get key = s.tiles.get key
        ∨ (t.ownerAt key = some ownerId ∧ key ∈ claimable s tileKeys)) →
      ∀ key, (keys.foldl (reachClaimTile ownerId) t).tiles.get key = s.tiles.get key
        ∨ ((keys.foldl (reachClaimTile ownerId) t).ownerAt key = some ownerId
          ∧ key ∈ claimable s tileKeys) := by
    intro keys
    induction keys with
    | nil =>
        intro _ t h
        exact h
    | cons claimed rest ih =>
        intro hsub t h
        rw [List.foldl_cons]
        refine ih (fun key hkey => hsub key (List.mem_cons_of_mem _ hkey)) _ ?_
        intro key
        unfold reachClaimTile
        cases htile : t.tiles.get claimed with
        | none => exact h key
        | some tile =>
            dsimp only
            by_cases hneutral : tile.ownerId = none ∧ tile.terrain = .LAND
            · rw [if_pos hneutral]
              by_cases hkey : claimed = key
              · refine Or.inr ⟨?_, ?_⟩
                · rw [ownerAt_replaceTileState, if_pos hkey]
                · rw [← hkey]
                  rcases h claimed with hsame | ⟨howner, _⟩
                  · refine List.mem_filter.mpr ⟨hsub claimed List.mem_cons_self, ?_⟩
                    rw [← hsame, htile]
                    simp [hneutral]
                  · unfold ownerAt at howner
                    rw [htile] at howner
                    exact absurd (hneutral.1.symm.trans howner) (by simp)
              · rw [ownerAt_replaceTileState, if_neg hkey]
                show (t.tiles.set claimed _).get key = _ ∨ _
                rw [InsertionMap.get_set_ne _ hkey]
                exact h key
            · rw [if_neg hneutral]
              exact h key
  exact hfold tileKeys (fun key hkey => hkey) s (fun key => Or.inl rfl)

/-- The automatic claim is its tile writes. -/
theorem tiles_applyReachAutoClaim (causeCommandId : CommandId) (ownerId : PlayerId)
    (tileKeys : List (TileKey W)) :
    (applyReachAutoClaim s causeCommandId ownerId tileKeys).tiles
      = (tileKeys.foldl (reachClaimTile ownerId) s).tiles := by
  unfold applyReachAutoClaim
  dsimp only
  split <;> rfl

/-- It hands the claimable tiles over. -/
theorem hands_applyReachAutoClaim (causeCommandId : CommandId) (ownerId : PlayerId)
    (tileKeys : List (TileKey W)) :
    Hands s (applyReachAutoClaim s causeCommandId ownerId tileKeys)
      ((claimable s tileKeys).map (fun key => (key, ownerId))) := by
  have hhands : Hands s (tileKeys.foldl (reachClaimTile ownerId) s)
      ((claimable s tileKeys).map (fun key => (key, ownerId))) := by
    intro key
    rcases reachClaims_spec s ownerId tileKeys key with hsame | ⟨howner, hmem⟩
    · refine Or.inl ?_
      unfold ownerAt
      rw [hsame]
    · exact Or.inr (Or.inr ⟨ownerId, howner, List.mem_map_of_mem hmem⟩)
  exact hhands.still
    (Hands.of_tiles (tiles_applyReachAutoClaim s causeCommandId ownerId tileKeys))

/-! ## §5. Every step. -/

/-- The lock that an event resolves. -/
def resolvingLock (s : CombatState W) : Event W → Option (LockRecord W)
  | .timer _ i => dueLock s i
  | .rushBuy _ price _ playerId targetKey => rushedLock s price playerId targetKey
  | _ => none

/-- The lock that a move of the books resolves. -/
def BooksMove.resolved : BooksMove W → Option (LockRecord W)
  | .fire _ lock _ => some lock
  | .rush lock _ => some lock
  | _ => none

/-- They are the same. -/
theorem resolvingLock_eq (e : Event W) : resolvingLock s e = (moveOf s e).resolved := by
  cases e with
  | frontier ctx command actionType =>
      unfold moveOf
      dsimp only
      split <;> rfl
  | timer ctx i =>
      unfold moveOf resolvingLock
      dsimp only
      cases dueLock s i <;> rfl
  | rushBuy ctx price commandId playerId targetKey =>
      unfold moveOf resolvingLock
      dsimp only
      cases rushedLock s price playerId targetKey <;> rfl
  | cancelCapture commandId playerId =>
      unfold moveOf
      dsimp only
      split <;> rfl
  | _ => rfl

/-- What an event's lock is fought for. -/
def foughtOver (s : CombatState W) (e : Event W) : Given W :=
  match resolvingLock s e with
  | some lock => foughtFor s lock
  | none => []

/-- The tiles a step hands over beside the target of a fight it resolves. -/
def gives (s : CombatState W) : Event W → Given W
  | .frontier ctx command actionType => frontierGives ctx s command actionType
  | .timer ctx i =>
      match dueLock s i with
      | some lock => resolutionGives ctx { s with scheduled := s.scheduled.eraseIdx i } lock
      | none => []
  | .rushBuy ctx price _ playerId targetKey =>
      match rushedLock s price playerId targetKey with
      | some lock => resolutionGives ctx
          (adjustPoints s playerId (fun points => points - price)) lock
      | none => []
  | .reachAutoClaim _ ownerId tileKeys => (claimable s tileKeys).map (fun key => (key, ownerId))
  | .territory changes => givenBy changes
  | _ => []

/-- A rush resolves its lock, as far as tiles go. -/
theorem handleRushBuyExpand_eq (ctx : RuntimeLockResolutionContext W) (price : ℚ)
    (s : CombatState W) (commandId : CommandId) (playerId : PlayerId) (targetKey : TileKey W) :
    (handleRushBuyExpand ctx price s commandId playerId targetKey).tiles
      = match rushedLock s price playerId targetKey with
        | some lock => (resolveLock ctx
            (adjustPoints s playerId (fun points => points - price)) lock).tiles
        | none => s.tiles := by
  unfold handleRushBuyExpand rushedLock
  cases s.players.get playerId with
  | none => rfl
  | some actor =>
      cases s.locksByTile.targetLockAt targetKey with
      | none => rfl
      | some expandLock =>
          dsimp only
          by_cases hown : expandLock.actionType = .EXPAND ∧ expandLock.playerId = playerId
          · rw [if_pos hown]
            by_cases hgold : actor.points < price
            · rw [if_pos hgold, if_neg (fun h => absurd h.2.2 (not_le.mpr hgold))]
              rfl
            · rw [if_neg hgold, if_pos ⟨hown.1, hown.2, not_lt.mp hgold⟩]
              rfl
          · rw [if_neg hown, if_neg (fun h => hown ⟨h.1, h.2.1⟩)]

/-- **Step lemma**: tiles change hands as listed. -/
theorem hands_step (e : Event W) : Hands s (step s e) (foughtOver s e ++ gives s e) := by
  cases e with
  | frontier ctx command actionType =>
      exact hands_handleFrontierCommandImpl ctx s command actionType
  | timer ctx i =>
      show Hands s (fireTimer ctx s i) _
      unfold fireTimer foughtOver gives resolvingLock
      dsimp only
      cases dueLock s i with
      | none => exact Hands.of_tiles rfl
      | some lock =>
          exact (Hands.of_tiles rfl).after (hands_resolveLock ctx
            { s with scheduled := s.scheduled.eraseIdx i } lock)
  | rushBuy ctx price commandId playerId targetKey =>
      have htiles := handleRushBuyExpand_eq ctx price s commandId playerId targetKey
      show Hands s (handleRushBuyExpand ctx price s commandId playerId targetKey) _
      unfold foughtOver gives resolvingLock
      dsimp only
      cases hrushed : rushedLock s price playerId targetKey with
      | none =>
          rw [hrushed] at htiles
          exact Hands.of_tiles htiles
      | some lock =>
          rw [hrushed] at htiles
          have hpaid : Hands s (adjustPoints s playerId (fun points => points - price)) [] :=
            Hands.of_tiles (tiles_adjustPoints s playerId _)
          have hslot : foughtFor (adjustPoints s playerId (fun points => points - price)) lock
              = foughtFor s lock := by
            unfold foughtFor
            rw [show (adjustPoints s playerId (fun points => points - price)).locksByTile
              = s.locksByTile from congrArg Books.locksByTile (books_adjustPoints s playerId _)]
          have hresolved := hpaid.after (hands_resolveLock ctx
            (adjustPoints s playerId (fun points => points - price)) lock)
          rw [hslot] at hresolved
          exact hresolved.still (Hands.of_tiles htiles)
  | cancelCapture commandId playerId =>
      exact Hands.of_tiles (tiles_handleCancelCaptureCommand s commandId playerId)
  | orphanedLockSweep => exact Hands.of_tiles (tiles_tickOrphanedLockSweep s)
  | setMuster ctx commandId playerId payload =>
      exact hands_handleSetMusterCommand ctx s commandId playerId payload
  | clearMuster ctx commandId playerId tileKey =>
      exact hands_handleClearMusterCommand ctx s commandId playerId tileKey
  | musterTick ctx playerId key => exact hands_tickFlag ctx s playerId key
  | reachAutoClaim causeCommandId ownerId tileKeys =>
      exact hands_applyReachAutoClaim s causeCommandId ownerId tileKeys
  | territory changes => exact hands_replaceTiles changes s
  | account playerId player => exact Hands.of_tiles rfl
  | wait ms => exact Hands.of_tiles rfl

end BorderEmpires.Combat
