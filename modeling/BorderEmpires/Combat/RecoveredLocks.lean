/-
  BorderEmpires.Combat.RecoveredLocks
  **THE LOCKS A RESTART FINDS IN THE EVENT LOG.**

  Recovery folds the emitted events: an accept enters a lock, a report or a
  cancel takes it out.  A lock that leaves the live index without an event
  (swept, or dropped by its timer for want of its slot) stays in the log
  for ever, and `createLocksFromInitialState` puts it back into the index.
-/
import BorderEmpires.Combat.Reservations
import BorderEmpires.Combat.Expansion

namespace BorderEmpires.Combat

open CombatState

variable {W : WorldSize}

/-! ## §1. The recovery fold. -/

/-- What is stored of a lock's roll as JSON; an absent field is `none`. -/
structure CombatResolutionJson (W : WorldSize) where
  result : LockedFrontierCombatResult W
  defenderGoldLoss : Option ℚ
  targetRecentlyPillaged : Option Bool
  defendedFrontier : Option Bool
  deriving DecidableEq

structure RecoveredLock (W : WorldSize) where
  commandId : CommandId
  playerId : PlayerId
  actionType : FrontierCommandType
  originKey : TileKey W
  targetKey : TileKey W
  resolvesAt : Int
  combatResolutionJson : Option (CombatResolutionJson W)
  deriving DecidableEq

/-- The roll an accept event carries, as recovery stores it. -/
def storedResolution (result : LockedFrontierCombatResult W) : CombatResolutionJson W :=
  ⟨result, some 0, none, none⟩

/-- `applySimulationEventsToRecoveredAccumulator`, as far as it concerns
locks. -/
def recoverLocks (activeLocks : InsertionMap CommandId (RecoveredLock W)) :
    SimulationEvent W → InsertionMap CommandId (RecoveredLock W)
  | .COMMAND_ACCEPTED commandId playerId actionType origin target resolvesAt combatResult =>
      activeLocks.set commandId ⟨commandId, playerId, actionType, origin, target, resolvesAt,
        combatResult.map storedResolution⟩
  | .COMBAT_CANCELLED commandId _ cancelledCommandIds =>
      cancelledCommandIds.foldl (fun locks id => locks.erase id) (activeLocks.erase commandId)
  | .COMBAT_RESOLVED commandId .. => activeLocks.erase commandId
  | _ => activeLocks

def recoveredLocks (events : List (SimulationEvent W)) : InsertionMap CommandId (RecoveredLock W) :=
  events.foldl recoverLocks .empty

def LockRecord.announced (lock : LockRecord W) : RecoveredLock W where
  commandId := lock.commandId
  playerId := lock.playerId
  actionType := lock.actionType
  originKey := lock.originKey
  targetKey := lock.targetKey
  resolvesAt := lock.resolvesAt
  combatResolutionJson := lock.combatResolution.map (fun r => storedResolution r.result)

/-- **The log names the live locks**: what is recovered is what is live, as
announced. -/
def RecoversLocks (s : CombatState W) : Prop :=
  ∀ id, (recoveredLocks s.emitted).get id = (s.liveLocks.get id).map LockRecord.announced

/-! ## §2. The fold reads lock events only. -/

theorem recoverLocks_of_other (locks : InsertionMap CommandId (RecoveredLock W))
    {event : SimulationEvent W} (h : isLockEvent event = false) :
    recoverLocks locks event = locks := by
  cases event <;> first | rfl | cases h

theorem recoveredLocks_filter (events : List (SimulationEvent W)) :
    recoveredLocks events = recoveredLocks (events.filter isLockEvent) := by
  have hfold : ∀ (events : List (SimulationEvent W)) (locks),
      events.foldl recoverLocks locks = (events.filter isLockEvent).foldl recoverLocks locks := by
    intro events
    induction events with
    | nil =>
        intro locks
        rfl
    | cons event rest ih =>
        intro locks
        by_cases hlock : isLockEvent event = true
        · rw [List.filter_cons_of_pos hlock, List.foldl_cons, List.foldl_cons, ih]
        · rw [List.filter_cons_of_neg hlock, List.foldl_cons,
            recoverLocks_of_other locks (Bool.eq_false_iff.mpr hlock), ih]
  exact hfold events .empty

namespace Books

def recovered (b : Books W) : InsertionMap CommandId (RecoveredLock W) :=
  recoveredLocks b.lockEvents

def Recovers (b : Books W) : Prop :=
  ∀ id, b.recovered.get id = (b.locksByTile.locksByCommandId.get id).map LockRecord.announced

end Books

theorem recoversLocks_iff (s : CombatState W) : RecoversLocks s ↔ s.books.Recovers := by
  unfold RecoversLocks
  rw [recoveredLocks_filter]
  rfl

/-! ## §3. One move. -/

def CombatLockIndex.Slotted (index : CombatLockIndex W) : Prop :=
  ∀ lock, index.Live lock → index.targets.get lock.targetKey = some lock

/-- **What a move must meet**: a new lock finds its target's slot free, a
cancel goes by no live lock's command id, and the sweep finds nothing. -/
def BooksMove.KeepsLog (b : Books W) : BooksMove W → Prop
  | .accept lock => b.locksByTile.targets.get lock.targetKey = none
  | .cancel locks event => match event with
      | .COMBAT_CANCELLED commandId .. => b.locksByTile.locksByCommandId.get commandId = none
          ∨ commandId ∈ locks.map (·.commandId)
      | _ => True
  | .sweep locks => locks = []
  | _ => True

namespace CombatLockIndex

theorem Slotted.addLock {index : CombatLockIndex W} (hkeyed : index.Keyed) (h : index.Slotted)
    {lock : LockRecord W} (hfresh : index.locksByCommandId.get lock.commandId = none)
    (hfree : index.targets.get lock.targetKey = none) : (index.addLock lock).Slotted := by
  intro l hlive
  have htargets : (index.addLock lock).targets = index.targets.set lock.targetKey lock := by
    unfold CombatLockIndex.addLock
    dsimp only
    rw [hfresh]
  unfold Live at hlive
  rw [get_addLock hkeyed] at hlive
  rw [htargets, InsertionMap.get_set]
  split at hlive
  · rw [Option.some.inj hlive, if_pos rfl]
  have hslot := h l hlive
  by_cases hkey : lock.targetKey = l.targetKey
  · rw [hkey, hslot] at hfree
    cases hfree
  · rw [if_neg hkey]
    exact hslot

theorem Slotted.removeLock {index : CombatLockIndex W} (h : index.Slotted)
    (lock : LockRecord W) : (index.removeLock lock).Slotted := by
  intro l hlive
  obtain ⟨hold, hne⟩ := live_removeLock_iff.mp hlive
  have hslot := h l hold
  show (if index.ownsTargetSlot lock = true then index.targets.erase lock.targetKey
    else index.targets).get l.targetKey = some l
  split
  next howns =>
    obtain ⟨holder, hholder, hid⟩ := (ownsTargetSlot_iff index lock).mp howns
    rw [InsertionMap.get_erase]
    by_cases hkey : lock.targetKey = l.targetKey
    · rw [hkey, hslot] at hholder
      rw [Option.some.inj hholder] at hne
      exact absurd hid hne
    · rw [if_neg hkey]
      exact hslot
  · exact hslot

theorem Slotted.not_live {index : CombatLockIndex W} (h : index.Slotted) {lock : LockRecord W}
    (howns : index.ownsTargetSlot lock ≠ true) : ¬ index.Live lock := by
  intro hlive
  refine howns ((ownsTargetSlot_iff index lock).mpr ⟨lock, h lock hlive, rfl⟩)

end CombatLockIndex

namespace Books

theorem recovered_append {b b' : Books W} {event : SimulationEvent W}
    (h : b'.lockEvents = b.lockEvents ++ [event]) :
    b'.recovered = recoverLocks b.recovered event := by
  unfold recovered recoveredLocks
  rw [h, List.foldl_append]
  rfl

theorem giveUps_lockEvents (locks : List (LockRecord W)) (b : Books W) :
    (locks.foldl giveUp b).lockEvents = b.lockEvents :=
  List.foldlRecOn (motive := fun b' : Books W => b'.lockEvents = b.lockEvents) _ _ rfl
    (fun b' hb lock _ => (refund_fields (b'.drop lock) lock).2.2.trans hb)

theorem slotted_giveUps (locks : List (LockRecord W)) :
    ∀ b : Books W, b.locksByTile.Slotted → (locks.foldl giveUp b).locksByTile.Slotted := by
  induction locks with
  | nil =>
      intro b h
      exact h
  | cons lock rest ih =>
      intro b h
      refine ih (b.giveUp lock) ?_
      rw [giveUp_locksByTile]
      exact h.removeLock lock

variable {b : Books W}

/-- **A resolution** reports the lock it takes out, and a timer without a
slot takes out nothing. -/
theorem recovers_resolve (h : b.Recovers) (hslotted : b.locksByTile.Slotted)
    {lock : LockRecord W} (hsole : b.Sole lock) {won : Bool}
    {result : Option (LockedFrontierCombatResult W)} :
    (b.resolve lock (.COMBAT_RESOLVED lock.commandId lock.playerId lock.actionType lock.originKey
      lock.targetKey won result)).Recovers := by
  intro id
  have hevents := resolve_lockEvents_eq b lock (.COMBAT_RESOLVED lock.commandId lock.playerId
    lock.actionType lock.originKey lock.targetKey won result)
  rw [resolve_locksByTile, CombatLockIndex.removeLock_locksByCommandId, InsertionMap.get_erase]
  split at hevents
  · rw [recovered_append hevents]
    show (b.recovered.erase lock.commandId).get id = _
    rw [InsertionMap.get_erase]
    by_cases hid : lock.commandId = id
    · rw [if_pos hid, if_pos hid]
      rfl
    · rw [if_neg hid, if_neg hid]
      exact h id
  next howns =>
    have hsame : (b.resolve lock (.COMBAT_RESOLVED lock.commandId lock.playerId lock.actionType
        lock.originKey lock.targetKey won result)).recovered = b.recovered := by
      unfold recovered
      rw [hevents]
    rw [hsame, h id]
    by_cases hid : lock.commandId = id
    · rw [if_pos hid, ← hid]
      cases hget : b.locksByTile.locksByCommandId.get lock.commandId with
      | none => rfl
      | some l =>
          have hlive : b.locksByTile.Live lock := by
            unfold CombatLockIndex.Live
            rw [hget, hsole l hget]
          exact absurd hlive (hslotted.not_live howns)
    · rw [if_neg hid]

end Books

/-- **Move lemma**: the log keeps naming the live locks, and they keep their
slots. -/
theorem BooksMove.recovers {b : Books W} {m : BooksMove W} (hlife : b.LockLife)
    (hsound : m.Sound b) (hsole : ∀ lock, m.resolved = some lock → b.Sole lock)
    (hfresh : m.Fresh b) (hmeet : m.KeepsLog b)
    (h : b.Recovers) (hslotted : b.locksByTile.Slotted) :
    (m.apply b).Recovers ∧ (m.apply b).locksByTile.Slotted := by
  cases m with
  | still => exact ⟨h, hslotted⟩
  | meet playerId => exact ⟨h, hslotted⟩
  | wait ms => exact ⟨h, hslotted⟩
  | accept lock =>
      have hnone : b.locksByTile.locksByCommandId.get lock.commandId = none := by
        cases hget : b.locksByTile.locksByCommandId.get lock.commandId with
        | none => rfl
        | some l =>
            have hid := hlife.keyed _ l hget
            have hlive : b.locksByTile.Live l := by
              unfold CombatLockIndex.Live
              rw [hid]
              exact hget
            have haccepted := hlife.liveAccepted l hlive
            rw [hid] at haccepted
            have hzero : b.acceptedCount lock.commandId = 0 := hfresh
            omega
      refine ⟨fun id => ?_, ?_⟩
      · show (b.accept lock).recovered.get id
          = ((b.accept lock).locksByTile.locksByCommandId.get id).map LockRecord.announced
        rw [Books.recovered_append (Books.accept_lockEvents b lock), Books.accept_locksByTile,
          CombatLockIndex.get_addLock hlife.keyed]
        show (b.recovered.set lock.commandId _).get id = _
        rw [InsertionMap.get_set]
        by_cases hid : lock.commandId = id
        · rw [if_pos hid, if_pos hid, Option.map_some]
          unfold LockRecord.announced
          rw [Option.map_map]
          rfl
        · rw [if_neg hid, if_neg hid]
          exact h id
      · show (b.accept lock).locksByTile.Slotted
        rw [Books.accept_locksByTile]
        exact hslotted.addLock hlife.keyed hnone hmeet
  | fire i lock event =>
      obtain ⟨_, won, result, rfl⟩ := hsound
      refine ⟨Books.recovers_resolve (b := b.disarm i) h hslotted (hsole lock rfl), ?_⟩
      show ((b.disarm i).resolve lock _).locksByTile.Slotted
      rw [Books.resolve_locksByTile]
      exact hslotted.removeLock lock
  | rush lock event =>
      obtain ⟨_, _, won, result, rfl⟩ := hsound
      refine ⟨Books.recovers_resolve h hslotted (hsole lock rfl), ?_⟩
      show (b.resolve lock _).locksByTile.Slotted
      rw [Books.resolve_locksByTile]
      exact hslotted.removeLock lock
  | cancel locks event =>
      obtain ⟨_, commandId, playerId, rfl⟩ := hsound
      refine ⟨fun id => ?_, Books.slotted_giveUps locks b hslotted⟩
      have hevents : ((locks.foldl Books.giveUp b).log (.COMBAT_CANCELLED commandId playerId
          (locks.map (·.commandId)))).lockEvents = b.lockEvents
          ++ [.COMBAT_CANCELLED commandId playerId (locks.map (·.commandId))] := by
        show (locks.foldl Books.giveUp b).lockEvents ++ _ = _
        rw [Books.giveUps_lockEvents]
      show ((locks.foldl Books.giveUp b).log _).recovered.get id
        = ((locks.foldl Books.giveUp b).locksByTile.locksByCommandId.get id).map _
      rw [Books.recovered_append hevents, (Books.giveUps_spec locks b).2]
      show ((locks.map (·.commandId)).foldl (fun locks id => locks.erase id)
        (b.recovered.erase commandId)).get id = ((Escrow.voidAll _ _).get id).map _
      unfold Escrow.voidAll
      rw [InsertionMap.get_eraseAll, InsertionMap.get_eraseAll]
      by_cases hid : id ∈ locks.map (·.commandId)
      · rw [if_pos hid, if_pos hid]
        rfl
      · rw [if_neg hid, if_neg hid, InsertionMap.get_erase]
        by_cases hown : commandId = id
        · rw [if_pos hown]
          rcases hmeet with hnone | hmem
          · rw [← hown, hnone]
            rfl
          · rw [hown] at hmem
            exact absurd hmem hid
        · rw [if_neg hown]
          exact h id
  | sweep locks =>
      have hnone : locks = [] := hmeet
      rw [hnone]
      exact ⟨h, hslotted⟩

end BorderEmpires.Combat
