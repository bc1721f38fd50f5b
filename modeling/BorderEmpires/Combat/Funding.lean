/-
  BorderEmpires.Combat.Funding
  **WHAT AN ACCEPTED ATTACK HAS BEEN PROMISED.**

  The flag that funds an attack has its cost free beyond all reservations,
  and the flag that shields its target has the match free beyond those and
  the cost.  One accepted attack has been promised nothing: when no flag
  qualifies, validation falls back on everything staged on the launch tile,
  reserved or not.
-/
import BorderEmpires.Combat.Staging

namespace BorderEmpires.Combat

open CombatState

variable {W : WorldSize}

/-! ## §1. The searches. -/

theorem fundableAt_spec {s : CombatState W} {actorId : PlayerId} {required : ℚ≥0}
    {key : TileKey W} {available : ℚ≥0}
    (h : s.fundableAt actorId required key = some available) :
    ∃ muster, s.flagAt key = some muster ∧ muster.ownerId = actorId
      ∧ s.reservedAt key + required ≤ muster.amount := by
  unfold fundableAt at h
  split at h
  · cases h
  next muster hmuster =>
    split at h
    next hfree => exact ⟨muster, hmuster, hfree.1, hfree.2.2⟩
    · cases h

theorem nearerSource_fundable (s : CombatState W) (actorId : PlayerId) (required : ℚ≥0)
    (originKey : TileKey W) (preferredKey : Option (TileKey W)) (keys : List (TileKey W)) :
    ∀ best : Option (TileKey W × ℚ≥0 × Int),
      (∀ b, best = some b → s.fundableAt actorId required b.1 = some b.2.1) →
      ∀ b, keys.foldl (s.nearerSource actorId required originKey preferredKey) best = some b →
        s.fundableAt actorId required b.1 = some b.2.1 := by
  induction keys with
  | nil =>
      intro best hbest b hb
      exact hbest b hb
  | cons key rest ih =>
      intro best hbest
      refine ih _ ?_
      intro b hb
      unfold nearerSource at hb
      dsimp only at hb
      split at hb
      · exact hbest b hb
      split at hb
      · exact hbest b hb
      next available havailable =>
        split at hb
        · split at hb
          · cases hb
            exact havailable
          · exact hbest b hb
        · split at hb
          · cases hb
            exact havailable
          · cases hb

/-- **The funding flag** has the requirement free. -/
theorem resolveMusterSource_fundable {s : CombatState W} {actorId : PlayerId}
    {originKey : TileKey W} {required : ℚ≥0} {preferredKey : Option (TileKey W)}
    {source : TileKey W × ℚ≥0}
    (h : s.resolveMusterSource actorId originKey required preferredKey = some source) :
    s.fundableAt actorId required source.1 = some source.2 := by
  unfold resolveMusterSource at h
  split at h
  · cases h
  split at h
  next available horigin =>
    cases h
    exact horigin
  · dsimp only at h
    split at h
    next preferred hpreferred =>
      cases h
      obtain ⟨key, _, hkey⟩ := Option.bind_eq_some_iff.mp hpreferred
      split at hkey
      · cases hkey
      · obtain ⟨available, havailable, hsource⟩ := Option.map_eq_some_iff.mp hkey
        rw [← hsource]
        exact havailable
    · obtain ⟨best, hbest, hsource⟩ := Option.map_eq_some_iff.mp h
      rw [← hsource]
      exact nearerSource_fundable s actorId required originKey preferredKey _ none
        (fun b hb => by cases hb) best hbest

theorem largerShield_free (s : CombatState W) (defenderOwnerId : PlayerId)
    (targetKey : TileKey W) (keys : List (TileKey W)) :
    ∀ best : Option (TileKey W × ℚ≥0),
      (∀ b, best = some b → b.2 ≠ 0 ∧ b.2 = s.stagedAt b.1 - s.reservedAt b.1) →
      ∀ b, keys.foldl (s.largerShield defenderOwnerId targetKey) best = some b →
        b.2 ≠ 0 ∧ b.2 = s.stagedAt b.1 - s.reservedAt b.1 := by
  induction keys with
  | nil =>
      intro best hbest b hb
      exact hbest b hb
  | cons key rest ih =>
      intro best hbest
      refine ih _ ?_
      intro b hb
      unfold largerShield at hb
      split at hb
      · exact hbest b hb
      next muster hmuster =>
        dsimp only at hb
        split at hb
        · exact hbest b hb
        next hfits =>
          have hfree : muster.amount - s.reservedAt key ≠ 0 :=
            fun hzero => hfits (Or.inr (Or.inl hzero))
          have hstaged : s.stagedAt key = muster.amount := by
            unfold stagedAt
            rw [hmuster]
          rw [← hstaged] at hfree hb
          split at hb
          · cases hb
            exact ⟨hfree, rfl⟩
          · split at hb
            · cases hb
              exact ⟨hfree, rfl⟩
            · exact hbest b hb

/-- **The matching shield** has its match free. -/
theorem shieldFor_free {s : CombatState W} {lock : LockRecord W} {target : DomainTileState W}
    {defenderOwnerId : PlayerId} {shield : ShieldConsumption W}
    (h : shieldFor s lock target defenderOwnerId = some shield) :
    isBarbarianFaction lock.playerId = false
      ∧ s.reservedAt shield.tileKey + shield.matched ≤ s.stagedAt shield.tileKey := by
  unfold shieldFor at h
  split at h
  next helig =>
    have hbarb : isBarbarianFaction lock.playerId = false := by
      simp only [Bool.and_eq_true, Bool.not_eq_true'] at helig
      exact helig.1.2
    refine ⟨hbarb, ?_⟩
    split at h
    · cases h
    next flagKey amount hfind =>
      dsimp only at h
      split at h
      next hmatched =>
        cases h
        obtain ⟨hne, hamount⟩ := largerShield_free s defenderOwnerId lock.targetKey _ none
          (fun b hb => by cases hb) (flagKey, amount) hfind
        dsimp only at hne hamount ⊢
        have hle : s.reservedAt flagKey ≤ s.stagedAt flagKey := by
          by_contra hlt
          rw [tsub_eq_zero_of_le (le_of_not_ge hlt)] at hamount
          exact hne hamount
        calc s.reservedAt flagKey + shieldMatchAmount amount lock.manpowerCost
            ≤ s.reservedAt flagKey + amount := add_le_add_right (min_le_left _ _) _
          _ = s.stagedAt flagKey := by rw [hamount, add_tsub_cancel_of_le hle]
      · cases h
  · cases h

/-! ## §2. What a new lock carries. -/

theorem flagAt_regenerated (ctx : RuntimeFrontierCommandContext W) (s : CombatState W)
    (command : CommandEnvelope W) (key : TileKey W) :
    (regenerated ctx s command).flagAt key = s.flagAt key := by
  unfold flagAt
  rw [tiles_regenerated]

theorem fundableAt_regenerated (ctx : RuntimeFrontierCommandContext W) (s : CombatState W)
    (command : CommandEnvelope W) :
    (regenerated ctx s command).fundableAt = s.fundableAt := by
  unfold regenerated
  split <;> rfl

theorem reservedAt_regenerated (ctx : RuntimeFrontierCommandContext W) (s : CombatState W)
    (command : CommandEnvelope W) (key : TileKey W) :
    (regenerated ctx s command).reservedAt key = s.reservedAt key := by
  unfold regenerated
  split <;> rfl

theorem reservedAt_charged (s : CombatState W) (lock : LockRecord W) (key : TileKey W) :
    (chargeExpansion (reserveForAttack s lock) lock).reservedAt key
      = s.reservedAt key + lock.fundedAt key := by
  have hcharge : (chargeExpansion (reserveForAttack s lock) lock).reservedAt key
      = (reserveForAttack s lock).reservedAt key := by
    unfold chargeExpansion
    split <;> rfl
  rw [hcharge]
  unfold reserveForAttack LockRecord.fundedAt
  cases lock.actionType with
  | EXPAND => simp
  | ATTACK =>
      cases lock.musterSourceKey with
      | none => simp
      | some source =>
          show Ledger.balance (Ledger.credit _ _ _) key = _
          rw [Ledger.balance_credit]
          simp [reservedAt]

theorem shield_of_rolledLock {ctx : RuntimeFrontierCommandContext W} {s : CombatState W}
    {baseLock : LockRecord W} (hbase : baseLock.combatResolution = none)
    {shield : ShieldConsumption W} (h : (rolledLock ctx s baseLock).shield = some shield) :
    baseLock.actionType = .ATTACK
      ∧ ∃ target defender, shieldFor s baseLock target defender = some shield := by
  unfold rolledLock at h
  cases htype : baseLock.actionType with
  | EXPAND =>
      rw [htype] at h
      unfold LockRecord.shield at h
      rw [hbase] at h
      cases h
  | ATTACK =>
      rw [htype] at h
      refine ⟨rfl, ?_⟩
      unfold LockRecord.shield buildLockedCombatResolution at h
      dsimp only [Option.bind_some] at h
      split at h
      · cases h
      · obtain ⟨target, _, htarget⟩ := Option.bind_eq_some_iff.mp h
        obtain ⟨defender, _, hdefender⟩ := Option.bind_eq_some_iff.mp htarget
        exact ⟨target, defender, hdefender⟩

/-- A verdict's lock has no roll yet, and an attack that is no barbarian's
names a flag. -/
theorem baseLock_spec {ctx : RuntimeFrontierCommandContext W} {s : CombatState W}
    {command : CommandEnvelope W} {actionType : FrontierCommandType} {baseLock : LockRecord W}
    (h : FrontierAccepted ctx s command actionType baseLock) :
    baseLock.combatResolution = none
      ∧ (baseLock.actionType = .ATTACK → (baseLock.musterSourceKey.isSome = true
        ↔ isBarbarianFaction baseLock.playerId = false)) := by
  cases h with
  | intro payload actor fromKey toKey fromTile toTile isAlliedDock acceptance =>
      refine ⟨rfl, fun hattack => ?_⟩
      have htype : actionType = .ATTACK := hattack
      show (lockMusterSourceKey command actionType payload fromKey _).isSome = true
        ↔ isBarbarianFaction command.playerId = false
      unfold lockMusterSourceKey
      rw [htype]
      dsimp only
      by_cases hbarb : isBarbarianFaction command.playerId = true
      · rw [if_pos hbarb, hbarb]
        simp
      · rw [if_neg hbarb, Bool.eq_false_iff.mpr hbarb]
        simp

variable {s : CombatState W} {e : Event W} {lock : LockRecord W}

theorem accepted_furnished (h : moveOf s e = .accept lock) : lock.Furnished := by
  obtain ⟨ctx, command, actionType, baseLock, rfl, hv, rfl⟩ := accepted_of_move h
  obtain ⟨_, hplayer, htype, _, _, _, hsource⟩ := rolledLock_fields ctx
    (chargeExpansion (reserveForAttack (regenerated ctx s command) baseLock) baseLock) baseLock
  obtain ⟨_, hnamed⟩ := baseLock_spec (frontierVerdict_accepted hv)
  refine ⟨fun hattack => ?_, fun hattack hbarb => ?_⟩
  · have hbase : baseLock.actionType = .ATTACK := htype.symm.trans hattack
    unfold storedLock rolledLock
    rw [hbase]
    rfl
  · have hbase : baseLock.actionType = .ATTACK := htype.symm.trans hattack
    unfold storedLock at hbarb ⊢
    rw [hsource]
    rw [hplayer] at hbarb
    exact (hnamed hbase).mpr hbarb

theorem accepted_unrolled (h : moveOf s e = .accept lock) (hexpand : lock.actionType = .EXPAND) :
    lock.combatResolution = none := by
  obtain ⟨ctx, command, actionType, baseLock, rfl, hv, rfl⟩ := accepted_of_move h
  obtain ⟨_, _, htype, _, _, _, _⟩ := rolledLock_fields ctx
    (chargeExpansion (reserveForAttack (regenerated ctx s command) baseLock) baseLock) baseLock
  have hbase : baseLock.actionType = .EXPAND := htype.symm.trans hexpand
  unfold storedLock rolledLock
  rw [hbase]
  exact (baseLock_spec (frontierVerdict_accepted hv)).1

theorem accepted_launched (h : moveOf s e = .accept lock)
    (hlaunch : lock.barbarianLaunch = true) : isBarbarianFaction lock.playerId = true := by
  obtain ⟨ctx, command, actionType, baseLock, rfl, hv, rfl⟩ := accepted_of_move h
  unfold storedLock rolledLock at hlaunch ⊢
  cases htype : baseLock.actionType with
  | EXPAND =>
      rw [htype] at hlaunch
      cases frontierVerdict_accepted hv with
      | intro => cases hlaunch
  | ATTACK =>
      rw [htype] at hlaunch
      exact hlaunch

theorem accepted_shield (h : moveOf s e = .accept lock) {key : TileKey W}
    (hshielded : lock.shieldedAt key ≠ 0) :
    isBarbarianFaction lock.playerId = false
      ∧ s.reservedAt key + lock.fundedAt key + lock.shieldedAt key ≤ s.stagedAt key := by
  obtain ⟨ctx, command, actionType, baseLock, rfl, hv, rfl⟩ := accepted_of_move h
  obtain ⟨_, hplayer, htype, hcost, _, _, hsource⟩ := rolledLock_fields ctx
    (chargeExpansion (reserveForAttack (regenerated ctx s command) baseLock) baseLock) baseLock
  obtain ⟨hbase, _⟩ := baseLock_spec (frontierVerdict_accepted hv)
  have hfunded : (storedLock ctx (regenerated ctx s command) baseLock).fundedAt key
      = baseLock.fundedAt key := by
    unfold storedLock LockRecord.fundedAt
    rw [htype, hsource, hcost]
  unfold LockRecord.shieldedAt at hshielded ⊢
  cases hshield : (storedLock ctx (regenerated ctx s command) baseLock).shield with
  | none =>
      rw [hshield] at hshielded
      exact absurd rfl hshielded
  | some shield =>
      rw [hshield] at hshielded
      dsimp only at hshielded ⊢
      by_cases hkey : shield.tileKey = key
      · rw [if_pos hkey]
        obtain ⟨_, target, defender, hfound⟩ := shield_of_rolledLock hbase hshield
        obtain ⟨hbarb, hfree⟩ := shieldFor_free hfound
        refine ⟨by unfold storedLock; rw [hplayer]; exact hbarb, ?_⟩
        have hstaged : (chargeExpansion (reserveForAttack (regenerated ctx s command) baseLock)
            baseLock).stagedAt key = s.stagedAt key := by
          unfold stagedAt flagAt
          rw [tiles_chargeExpansion, tiles_reserveForAttack, tiles_regenerated]
        rw [hkey, reservedAt_charged, reservedAt_regenerated, hstaged] at hfree
        rw [hfunded]
        exact hfree
      · rw [if_neg hkey] at hshielded
        exact absurd rfl hshielded

theorem accepted_barbarian (h : moveOf s e = .accept lock)
    (hbarb : isBarbarianFaction lock.playerId = true) (key : TileKey W) :
    lock.reserves key = 0 := by
  have hshielded : lock.shieldedAt key = 0 := by
    by_contra hne
    rw [(accepted_shield h hne).1] at hbarb
    cases hbarb
  have hfunded : lock.fundedAt key = 0 := by
    obtain ⟨ctx, command, actionType, baseLock, rfl, hv, rfl⟩ := accepted_of_move h
    obtain ⟨_, hplayer, htype, _, _, _, hsource⟩ := rolledLock_fields ctx
      (chargeExpansion (reserveForAttack (regenerated ctx s command) baseLock) baseLock) baseLock
    obtain ⟨_, hnamed⟩ := baseLock_spec (frontierVerdict_accepted hv)
    unfold storedLock at hbarb ⊢
    unfold LockRecord.fundedAt
    refine if_neg (fun hfunds => ?_)
    rw [htype, hsource] at hfunds
    have hfree := (hnamed hfunds.1).mp (by rw [hfunds.2]; rfl)
    rw [hplayer, hfree] at hbarb
    cases hbarb
  unfold LockRecord.reserves
  rw [hfunded, hshielded, add_zero]

/-- **The fallback**: an attack on a flag without its cost free still finds
there a flag of its own, unless it costs nothing. -/
theorem accepted_source (h : moveOf s e = .accept lock) {source : TileKey W}
    (hattack : lock.actionType = .ATTACK) (hsource : lock.musterSourceKey = some source)
    (hfree : s.fundableAt lock.playerId lock.manpowerCost source = none) :
    lock.manpowerCost = 0
      ∨ ∃ muster, s.flagAt source = some muster ∧ muster.ownerId = lock.playerId := by
  obtain ⟨ctx, command, actionType, baseLock, rfl, hv, rfl⟩ := accepted_of_move h
  obtain ⟨_, hplayer, htype, hcost, _, _, hnamed⟩ := rolledLock_fields ctx
    (chargeExpansion (reserveForAttack (regenerated ctx s command) baseLock) baseLock) baseLock
  unfold storedLock at hattack hsource hfree ⊢
  rw [htype] at hattack
  rw [hnamed] at hsource
  rw [hplayer, hcost, ← fundableAt_regenerated ctx s command] at hfree
  rw [hplayer, hcost]
  cases frontierVerdict_accepted hv with
  | intro payload actor fromKey toKey fromTile toTile isAlliedDock acceptance hactor hpayload
      hfrom hto hvalid =>
      have hfacts := validateFrontierCommand_ok hvalid
      have hkind : actionType = .ATTACK := hattack
      have hsource' : lockMusterSourceKey command actionType payload fromKey
          (musterSourceFor ctx (regenerated ctx s command) command.playerId actionType fromKey
            toKey payload) = some source := hsource
      unfold lockMusterSourceKey at hsource'
      rw [hkind] at hsource'
      dsimp only at hsource'
      by_cases hbarb : isBarbarianFaction command.playerId = true
      · rw [if_pos hbarb] at hsource'
        cases hsource'
      · rw [if_neg hbarb] at hsource'
        have hbarb' : isBarbarianFaction command.playerId = false := Bool.eq_false_iff.mpr hbarb
        have hcost' : acceptance.manpowerCost = musterNeeded ctx command.playerId toKey payload := by
          rw [hfacts.cost]
          unfold effectiveCost musterNeeded
          simp [frontierValidationInput, hkind, hbarb']
        have hfree' : (regenerated ctx s command).fundableAt command.playerId
            acceptance.manpowerCost source = none := hfree
        have hmuster := hfacts.mustered hkind hbarb'
        rw [← hfacts.cost] at hmuster
        have hmuster' : acceptance.manpowerCost ≤ originMusterFor command.playerId
            (musterSourceFor ctx (regenerated ctx s command) command.playerId actionType fromKey
              toKey payload) fromTile := hmuster
        show acceptance.manpowerCost = 0 ∨ ∃ muster, s.flagAt source = some muster
          ∧ muster.ownerId = command.playerId
        rw [hkind] at hmuster'
        cases hfound : musterSourceFor ctx (regenerated ctx s command) command.playerId .ATTACK
            fromKey toKey payload with
        | some found =>
            -- a flag that was found is fundable
            rw [hfound] at hsource'
            have hkey : found.1 = source := Option.some.inj hsource'
            unfold musterSourceFor at hfound
            rw [if_pos ⟨rfl, hbarb'⟩] at hfound
            have hfundable := resolveMusterSource_fundable hfound
            rw [hkey, ← hcost', hfree'] at hfundable
            cases hfundable
        | none =>
            rw [hfound] at hsource' hmuster'
            have hkey : fromKey = source := Option.some.inj hsource'
            have hflag : s.flagAt source = fromTile.muster := by
              rw [← flagAt_regenerated ctx s command, ← hkey]
              exact flagAt_of_get hfrom
            unfold originMusterFor stagedFor at hmuster'
            dsimp only at hmuster'
            rw [hflag]
            cases hmuster'' : fromTile.muster with
            | none =>
                rw [hmuster''] at hmuster'
                exact Or.inl (nonpos_iff_eq_zero.mp hmuster')
            | some muster =>
                rw [hmuster''] at hmuster'
                dsimp only at hmuster'
                by_cases howner : muster.ownerId = command.playerId
                · exact Or.inr ⟨muster, rfl, howner⟩
                · rw [if_neg howner] at hmuster'
                  exact Or.inl (nonpos_iff_eq_zero.mp hmuster')

end BorderEmpires.Combat
