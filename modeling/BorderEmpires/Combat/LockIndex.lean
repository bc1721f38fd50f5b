/-
  BorderEmpires.Combat.LockIndex
  **UNRESOLVED COMBAT LOCKS, BY COMMAND, TARGET AND ORIGIN.**

  A lock is an accepted ATTACK or EXPAND whose timer has not resolved it.
  `CombatLockIndex` keeps each lock once under its command id, at most one
  lock per contested target tile, and any number per launch tile.  A newer
  lock on a target takes the slot over; the older lock stays live under
  its command id until something removes it.

  Manpower and gold are exact rationals: the source computes them in
  doubles, and no rounding is modelled.
-/
import Mathlib.Algebra.Field.Rat
import Mathlib.Algebra.Order.Ring.NNRat
import BorderEmpires.World
import BorderEmpires.Lib.InsertionMap

namespace BorderEmpires.Combat

/-! ## §1. Locks. -/

abbrev CommandId := String

inductive FrontierCommandType where
  | ATTACK
  | EXPAND
  deriving DecidableEq, Repr

inductive LockSource where
  | automation
  | player
  deriving DecidableEq, Repr

/-- The barbarian faction's player id is `"barbarian-1"`. -/
def isBarbarianFaction (p : PlayerId) : Bool := p.text = "barbarian-1"

def barbarianFaction : PlayerId := ⟨"barbarian-1", by decide⟩

/-- The shield a defender's flag put up: which flag, and how much of the
attacker's commitment it matched. -/
structure ShieldConsumption (W : WorldSize) where
  tileKey : TileKey W
  matched : ℚ≥0
  deriving DecidableEq

/-- One tile a locked combat result hands over. -/
structure CombatChange (W : WorldSize) where
  tileKey : TileKey W
  ownerId : PlayerId
  ownershipState : OwnershipState
  deriving DecidableEq

/-- The roll made when the attack was accepted. -/
structure LockedFrontierCombatResult (W : WorldSize) where
  attackerWon : Bool
  defenderOwnerId : Option PlayerId
  changes : List (CombatChange W)
  manpowerDelta : ℚ
  pillagedGold : ℚ
  deriving DecidableEq

structure LockedCombatResolution (W : WorldSize) where
  result : LockedFrontierCombatResult W
  defenderGoldLoss : ℚ
  targetRecentlyPillaged : Bool
  shield : Option (ShieldConsumption W)
  /-- The fight was rolled on frontier ground inside its capture hold. -/
  defendedFrontier : Bool
  deriving DecidableEq

structure LockRecord (W : WorldSize) where
  commandId : CommandId
  playerId : PlayerId
  actionType : FrontierCommandType
  manpowerCost : ℚ≥0
  originKey : TileKey W
  targetKey : TileKey W
  resolvesAt : Int
  source : LockSource
  combatResolution : Option (LockedCombatResolution W)
  /-- The flag that funds an attack; an automated EXPAND names the flag it
  marches from. -/
  musterSourceKey : Option (TileKey W)
  /-- A barbarian that left its origin tile when its attack started. -/
  barbarianLaunch : Bool
  deriving DecidableEq

variable {W : WorldSize}

def LockRecord.shield (lock : LockRecord W) : Option (ShieldConsumption W) :=
  lock.combatResolution.bind (·.shield)

/-! ## §2. The index. -/

structure CombatLockIndex (W : WorldSize) where
  locksByCommandId : InsertionMap CommandId (LockRecord W)
  targets : InsertionMap (TileKey W) (LockRecord W)
  origins : InsertionMap (TileKey W) (List (LockRecord W))

namespace CombatLockIndex

variable (index : CombatLockIndex W) (lock : LockRecord W)

def empty : CombatLockIndex W := ⟨.empty, .empty, .empty⟩

def ownsTargetSlot : Bool :=
  match index.targets.get lock.targetKey with
  | some holder => holder.commandId = lock.commandId
  | none => false

/-- The origin entry of a lock, without the locks of its command id. -/
def dropOrigin (origins : InsertionMap (TileKey W) (List (LockRecord W)))
    (lock : LockRecord W) : InsertionMap (TileKey W) (List (LockRecord W)) :=
  match origins.get lock.originKey with
  | none => origins
  | some atOrigin =>
      let kept := atOrigin.filter (fun candidate => candidate.commandId ≠ lock.commandId)
      if kept = [] then origins.erase lock.originKey else origins.set lock.originKey kept

def removeLock : CombatLockIndex W where
  locksByCommandId := index.locksByCommandId.erase lock.commandId
  targets :=
    if index.ownsTargetSlot lock then index.targets.erase lock.targetKey else index.targets
  origins := dropOrigin index.origins lock

/-- A lock under the same command id makes room first, so no set of
origins can hold the record twice. -/
def addLock : CombatLockIndex W :=
  let index := match index.locksByCommandId.get lock.commandId with
    | some existing => index.removeLock existing
    | none => index
  { locksByCommandId := index.locksByCommandId.set lock.commandId lock
    targets := index.targets.set lock.targetKey lock
    origins := index.origins.set lock.originKey
      ((index.origins.get lock.originKey).getD [] ++ [lock]) }

def targetLockAt (key : TileKey W) : Option (LockRecord W) := index.targets.get key

def originLocksAt (key : TileKey W) : List (LockRecord W) := (index.origins.get key).getD []

/-- Each unresolved lock once. -/
def values : List (LockRecord W) := index.locksByCommandId.entries.map Prod.snd

/-! ## §3. What the operations do to the live locks. -/

def Keyed : Prop := ∀ id lock, index.locksByCommandId.get id = some lock → lock.commandId = id

/-- The lock is among the unresolved ones. -/
def Live : Prop := index.locksByCommandId.get lock.commandId = some lock

theorem keyed_empty : (empty : CombatLockIndex W).Keyed := by
  intro id lock h
  exact absurd h (by simp [empty])

@[simp] theorem removeLock_locksByCommandId :
    (index.removeLock lock).locksByCommandId = index.locksByCommandId.erase lock.commandId := rfl

theorem addLock_locksByCommandId {index : CombatLockIndex W} (hkeyed : index.Keyed)
    (lock : LockRecord W) :
    (index.addLock lock).locksByCommandId
      = (index.locksByCommandId.erase lock.commandId).set lock.commandId lock := by
  unfold addLock
  dsimp only
  cases hget : index.locksByCommandId.get lock.commandId with
  | none =>
      dsimp only
      rw [InsertionMap.erase_of_get_none hget]
  | some existing =>
      dsimp only
      rw [removeLock_locksByCommandId, hkeyed _ _ hget]

theorem get_addLock {index : CombatLockIndex W} (hkeyed : index.Keyed)
    (lock : LockRecord W) (id : CommandId) :
    (index.addLock lock).locksByCommandId.get id
      = if lock.commandId = id then some lock else index.locksByCommandId.get id := by
  rw [addLock_locksByCommandId hkeyed, InsertionMap.get_set]
  by_cases hid : lock.commandId = id
  · rw [if_pos hid, if_pos hid]
  · rw [if_neg hid, if_neg hid, InsertionMap.get_erase_ne _ hid]

theorem Keyed.removeLock {index : CombatLockIndex W} (h : index.Keyed) (lock : LockRecord W) :
    (index.removeLock lock).Keyed := by
  intro id l hl
  rw [removeLock_locksByCommandId, InsertionMap.get_erase] at hl
  split at hl
  · exact absurd hl (by simp)
  · exact h id l hl

theorem Keyed.addLock {index : CombatLockIndex W} (h : index.Keyed) (lock : LockRecord W) :
    (index.addLock lock).Keyed := by
  intro id l hl
  rw [get_addLock h] at hl
  split at hl
  next heq =>
    have hl' : lock = l := by simpa using hl
    rw [← hl', heq]
  next => exact h id l hl

def SlotsLive : Prop :=
  ∀ key lock, index.targets.get key = some lock → lock.targetKey = key ∧ index.Live lock

theorem slotsLive_empty : (empty : CombatLockIndex W).SlotsLive := by
  intro key lock h
  exact absurd h (by simp [empty])

theorem ownsTargetSlot_iff :
    index.ownsTargetSlot lock = true
      ↔ ∃ holder, index.targets.get lock.targetKey = some holder
          ∧ holder.commandId = lock.commandId := by
  unfold ownsTargetSlot
  cases index.targets.get lock.targetKey with
  | none => simp
  | some holder => simp

theorem SlotsLive.removeLock {index : CombatLockIndex W} (hslots : index.SlotsLive)
    {lock : LockRecord W}
    (hown : ∀ l, index.locksByCommandId.get lock.commandId = some l → l = lock) :
    (index.removeLock lock).SlotsLive := by
  intro key l hl
  have hget : index.targets.get key = some l ∧ ¬ (l.commandId = lock.commandId) := by
    unfold CombatLockIndex.removeLock at hl
    dsimp only at hl
    by_cases howns : index.ownsTargetSlot lock = true
    · rw [if_pos howns, InsertionMap.get_erase] at hl
      by_cases hkey : lock.targetKey = key
      · rw [if_pos hkey] at hl
        cases hl
      · rw [if_neg hkey] at hl
        refine ⟨hl, fun hid => hkey ?_⟩
        -- a second slot of the same lock would contest the same tile
        obtain ⟨htarget, hlive⟩ := hslots key l hl
        have hlock : l = lock := hown l (hid ▸ hlive)
        rw [← hlock, htarget]
    · rw [if_neg howns] at hl
      refine ⟨hl, fun hid => howns ?_⟩
      obtain ⟨htarget, hlive⟩ := hslots key l hl
      have hlock : l = lock := hown l (hid ▸ hlive)
      rw [ownsTargetSlot_iff, ← hlock, htarget]
      exact ⟨l, hl, rfl⟩
  obtain ⟨htarget, hlive⟩ := hslots key l hget.1
  refine ⟨htarget, ?_⟩
  unfold Live
  rw [removeLock_locksByCommandId, InsertionMap.get_erase_ne _ (fun h => hget.2 h.symm)]
  exact hlive

theorem SlotsLive.addLock {index : CombatLockIndex W} (hkeyed : index.Keyed)
    (hslots : index.SlotsLive) (lock : LockRecord W) : (index.addLock lock).SlotsLive := by
  -- the index with room for the new lock
  have hroom : ∃ room : CombatLockIndex W, room.SlotsLive
      ∧ room.locksByCommandId.get lock.commandId = none
      ∧ (index.addLock lock).targets = room.targets.set lock.targetKey lock
      ∧ (index.addLock lock).locksByCommandId = room.locksByCommandId.set lock.commandId lock := by
    unfold CombatLockIndex.addLock
    cases hget : index.locksByCommandId.get lock.commandId with
    | none => exact ⟨index, hslots, hget, rfl, rfl⟩
    | some existing =>
        have hid := hkeyed _ _ hget
        refine ⟨index.removeLock existing, hslots.removeLock ?_, ?_, rfl, rfl⟩
        · intro l hl
          rw [hid, hget] at hl
          exact (Option.some.inj hl).symm
        · rw [removeLock_locksByCommandId, hid, InsertionMap.get_erase_self]
  obtain ⟨room, hlive, hfree, htargets, hlocks⟩ := hroom
  intro key l hl
  unfold Live
  rw [htargets, InsertionMap.get_set] at hl
  rw [hlocks, InsertionMap.get_set]
  by_cases hkey : lock.targetKey = key
  · rw [if_pos hkey] at hl
    have hl' : lock = l := Option.some.inj hl
    rw [← hl', if_pos rfl]
    exact ⟨hkey, rfl⟩
  · rw [if_neg hkey] at hl
    obtain ⟨htarget, hget⟩ := hlive key l hl
    refine ⟨htarget, ?_⟩
    by_cases hid : lock.commandId = l.commandId
    · unfold Live at hget
      rw [← hid, hfree] at hget
      cases hget
    · rw [if_neg hid]
      exact hget

theorem targets_of_removeLock {index : CombatLockIndex W} {lock l : LockRecord W}
    {key : TileKey W} (h : (index.removeLock lock).targets.get key = some l) :
    index.targets.get key = some l
      ∧ ¬ (index.ownsTargetSlot lock = true ∧ lock.targetKey = key) := by
  unfold CombatLockIndex.removeLock at h
  dsimp only at h
  by_cases howns : index.ownsTargetSlot lock = true
  · rw [if_pos howns, InsertionMap.get_erase] at h
    by_cases hkey : lock.targetKey = key
    · rw [if_pos hkey] at h
      cases h
    · rw [if_neg hkey] at h
      exact ⟨h, fun hc => hkey hc.2⟩
  · rw [if_neg howns] at h
    exact ⟨h, fun hc => howns hc.1⟩

theorem targets_of_addLock {index : CombatLockIndex W} {lock l : LockRecord W}
    {key : TileKey W} (h : (index.addLock lock).targets.get key = some l) :
    (l = lock ∧ lock.targetKey = key) ∨ index.targets.get key = some l := by
  unfold CombatLockIndex.addLock at h
  dsimp only at h
  rw [InsertionMap.get_set] at h
  by_cases hkey : lock.targetKey = key
  · rw [if_pos hkey] at h
    exact Or.inl ⟨(Option.some.inj h).symm, hkey⟩
  · rw [if_neg hkey] at h
    refine Or.inr ?_
    split at h
    · exact (targets_of_removeLock h).1
    · exact h

theorem mem_values_iff {index : CombatLockIndex W} (h : index.Keyed) (lock : LockRecord W) :
    lock ∈ index.values ↔ index.Live lock := by
  unfold values Live
  rw [List.mem_map]
  constructor
  · rintro ⟨⟨id, l⟩, hmem, rfl⟩
    have hget := (index.locksByCommandId.mem_entries_iff id l).mp hmem
    rw [h id l hget]
    exact hget
  · intro hget
    exact ⟨(lock.commandId, lock), (index.locksByCommandId.mem_entries_iff _ _).mpr hget, rfl⟩

end CombatLockIndex

end BorderEmpires.Combat
