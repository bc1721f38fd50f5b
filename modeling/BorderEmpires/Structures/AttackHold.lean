/-
  BorderEmpires.Structures.AttackHold
  **BUILDS ON A TILE UNDER ATTACK.**

  An accepted ATTACK pauses what is under construction on its target, and
  the end of the fight slides the deadline by the time paused and arms a
  new timer.  No timer is ever taken back: a timer completes a build only
  if the build still carries the deadline the timer was armed for.
-/
import BorderEmpires.Structures.Tiles
import BorderEmpires.Combat.LockIndex
import BorderEmpires.Lib.Run

namespace BorderEmpires.Structures

open BorderEmpires.Combat

variable {W : WorldSize}

/-! ## §1. Holding and releasing. -/

/-- The monuments themselves; their parts are ordinary builds. -/
def isMonumentBaseType : StructureType → Bool
  | .IMPERIAL_EXCHANGE | .SOVEREIGN_SIEGE_ENGINE | .AEGIS_DOME | .ASTRAL_DOCK
  | .CENSUS_DIRECTORATE | .TITANIUM_LEVY => true
  | _ => false

def structureTypeForField (field : StructureField) (held : TileStructure) : Option StructureType :=
  match field with
  | .fort => some (held.type.getD .FORT)
  | .siegeBattery => some (held.type.getD .SIEGE_BATTERY)
  | .observatory => some .OBSERVATORY
  | .economicStructure => held.type

def isUnderConstruction (held : TileStructure) : Bool := decide (held.status = .under_construction)

def isPausedConstruction (held : TileStructure) : Bool :=
  isUnderConstruction held && held.pausedAt.isSome

/-- A build in progress stops; one already paused keeps its date. -/
def pauseForAttack (now : Nat) (held : TileStructure) : TileStructure :=
  if isUnderConstruction held && held.pausedAt.isNone && held.completesAt.isSome then
    { held with pausedAt := some now }
  else held

/-- A rival's attack pauses every build of the tile. -/
def holdDevelopmentForAttack (now : Nat) (attackerId : PlayerId) (tile : StructureTile) :
    StructureTile :=
  match tile.ownerId with
  | none => tile
  | some ownerId =>
      if ownerId = attackerId then tile
      else { tile with structures := fun field => (tile.structures field).map (pauseForAttack now) }

/-- The deadline of a construction that resumes: later by the time paused. -/
def resumedDeadline (now pausedAt : Nat) (held : TileStructure) : Nat :=
  held.completesAt.getD now + (now - pausedAt)

/-- The build goes on, its dates moved by the time it stood still. -/
def resumeConstruction (now : Nat) (held : TileStructure) : TileStructure :=
  match held.pausedAt with
  | none => held
  | some pausedAt =>
      if isUnderConstruction held then
        { held with
          pausedAt := none
          startedAt := held.startedAt.map fun startedAt => startedAt + (now - pausedAt)
          completesAt := some (resumedDeadline now pausedAt held) }
      else held

structure CompletionTimer where
  dueAt : Nat
  ownerId : PlayerId
  field : StructureField
  structureType : Option StructureType
  completesAt : Nat
  deriving DecidableEq

/-- `scheduleStructureCompletion`: `Math.max(0, completesAt - now)` from
now. -/
def scheduleStructureCompletion (now : Nat) (ownerId : PlayerId) (field : StructureField)
    (structureType : Option StructureType) (completesAt : Nat) : CompletionTimer where
  dueAt := now + (completesAt - now)
  ownerId := ownerId
  field := field
  structureType := structureType
  completesAt := completesAt

def resumeTimer (now : Nat) (ownerId : PlayerId) (tile : StructureTile) (field : StructureField) :
    Option CompletionTimer :=
  match tile.structures field with
  | none => none
  | some held =>
      match held.pausedAt with
      | none => none
      | some pausedAt =>
          if isUnderConstruction held then
            some (scheduleStructureCompletion now ownerId field (structureTypeForField field held)
              (resumedDeadline now pausedAt held))
          else none

def releaseDevelopmentHold (now : Nat) (tile : StructureTile) :
    StructureTile × List CompletionTimer :=
  match tile.ownerId with
  | none => (tile, [])
  | some ownerId =>
      ({ tile with
         structures := fun field => (tile.structures field).map (resumeConstruction now) },
        STRUCTURE_FIELDS.filterMap (resumeTimer now ownerId tile))

/-! ## §2. Completion. -/

/-- A monument whose race a rival has won is dissolved instead. -/
inductive CompletionOutcome where
  | active
  | lostRace
  deriving DecidableEq

def activated (now : Nat) (held : TileStructure) : TileStructure :=
  { held with
    status := .active
    startedAt := none
    completesAt := none
    upgradingFrom := none
    activatedAt := some now }

def completeStructureBuild (now : Nat) (rivalClaimed : Bool) (latest : StructureTile)
    (ownerId : PlayerId) (structureType : Option StructureType) :
    Option (StructureTile × StructureField × CompletionOutcome) :=
  match structureType.bind registryField with
  | none => none
  | some field =>
      if latest.ownerId ≠ some ownerId then none
      else
        match latest.structures field with
        | none => none
        | some held =>
            if decide (held.ownerId ≠ ownerId) || !isUnderConstruction held then none
            else if held.pausedAt.isSome then none
            else if decide (field = .economicStructure) && decide (held.type ≠ structureType) then
              none
            else if rivalClaimed && structureType.any isMonumentBaseType then
              some (latest.setStructure field none, field, .lostRace)
            else some (latest.setStructure field (some (activated now held)), field, .active)

/-- A timer's own check comes first: the deadline it was armed for, and no
pause. -/
def runCompletionTimer (now : Nat) (rivalClaimed : Bool) (tile : StructureTile)
    (timer : CompletionTimer) : Option (StructureTile × StructureField × CompletionOutcome) :=
  match tile.structures timer.field with
  | none => none
  | some live =>
      if decide (live.completesAt ≠ some timer.completesAt) || live.pausedAt.isSome then none
      else completeStructureBuild now rivalClaimed tile timer.ownerId timer.structureType

/-! ## §3. Runs. -/

def isUnderAttack (locks : CombatLockIndex W) (key : TileKey W) : Bool :=
  match locks.targetLockAt key with
  | none => false
  | some lock => decide (lock.actionType = .ATTACK)

structure Completion where
  field : StructureField
  completedAt : Nat
  underAttack : Bool
  outcome : CompletionOutcome
  deriving DecidableEq

/-- One tile, the locks and the completion timers.  `pausedFor` and
`completions` only record: the time each place has stood paused, and what
has completed. -/
structure HoldState (W : WorldSize) where
  tileKey : TileKey W
  now : Nat
  tile : StructureTile
  locks : CombatLockIndex W
  timers : List CompletionTimer
  pausedFor : StructureField → Nat
  completions : List Completion

inductive HoldOp (W : WorldSize) where
  | wait (ms : Nat)
  /-- A frontier command is accepted. -/
  | accept (lock : LockRecord W)
  /-- A lock is resolved, cancelled or swept. -/
  | release (commandId : CommandId)
  | fire (index : Nat) (rivalClaimed : Bool)

def isPaused (tile : StructureTile) (field : StructureField) : Bool :=
  (tile.structures field).any isPausedConstruction

def stepWait (ms : Nat) (state : HoldState W) : HoldState W :=
  { state with
    now := state.now + ms
    pausedFor := fun field =>
      state.pausedFor field + if isPaused state.tile field then ms else 0 }

/-- `onAttackTargetReleased`. -/
def thaw (state : HoldState W) : HoldState W :=
  { state with
    tile := (releaseDevelopmentHold state.now state.tile).1
    timers := state.timers ++ (releaseDevelopmentHold state.now state.tile).2 }

def endsAttackHere (state : HoldState W) (lock : LockRecord W) : Bool :=
  state.locks.ownsTargetSlot lock && decide (lock.actionType = .ATTACK)
    && decide (lock.targetKey = state.tileKey)

/-- `removeLock` with the listener installed. -/
def takeOut (lock : LockRecord W) (state : HoldState W) : HoldState W :=
  if endsAttackHere state lock then
    thaw { state with locks := state.locks.removeLock lock }
  else { state with locks := state.locks.removeLock lock }

def stepRelease (commandId : CommandId) (state : HoldState W) : HoldState W :=
  match state.locks.locksByCommandId.get commandId with
  | none => state
  | some lock => takeOut lock state

/-- What `validateFrontierCommand` asks of a command against this tile: an
owned tile can only be attacked, by another player, and once the fight in
its slot is due. -/
def acceptsLock (state : HoldState W) (lock : LockRecord W) : Bool :=
  if lock.targetKey = state.tileKey then
    (match state.tile.ownerId with
      | none => decide (lock.actionType = .EXPAND)
      | some ownerId => decide (lock.actionType = .ATTACK) && decide (ownerId ≠ lock.playerId))
      && (state.locks.targetLockAt lock.targetKey).all fun held : LockRecord W =>
        decide (held.resolvesAt ≤ (state.now : Int))
  else true

/-- `addLock` and, for an ATTACK, the hold on its target. -/
def putIn (lock : LockRecord W) (state : HoldState W) : HoldState W :=
  if decide (lock.actionType = .ATTACK) && decide (lock.targetKey = state.tileKey) then
    { state with
      locks := state.locks.addLock lock
      tile := holdDevelopmentForAttack state.now lock.playerId state.tile }
  else { state with locks := state.locks.addLock lock }

def stepAccept (lock : LockRecord W) (state : HoldState W) : HoldState W :=
  if acceptsLock state lock then putIn lock (stepRelease lock.commandId state) else state

def dueCompletion (state : HoldState W) (index : Nat) : Option CompletionTimer :=
  (state.timers[index]?).filter fun timer => decide (timer.dueAt ≤ state.now)

def spend (index : Nat) (rivalClaimed : Bool) (timer : CompletionTimer) (state : HoldState W) :
    HoldState W :=
  match runCompletionTimer state.now rivalClaimed state.tile timer with
  | none => { state with timers := state.timers.eraseIdx index }
  | some (tile, field, outcome) =>
      { state with
        tile := tile
        timers := state.timers.eraseIdx index
        completions := state.completions
          ++ [⟨field, state.now, isUnderAttack state.locks state.tileKey, outcome⟩] }

def HoldState.step (state : HoldState W) : HoldOp W → HoldState W
  | .wait ms => stepWait ms state
  | .accept lock => stepAccept lock state
  | .release commandId => stepRelease commandId state
  | .fire index rivalClaimed =>
      match dueCompletion state index with
      | none => state
      | some timer => spend index rivalClaimed timer state

/-! ## §4. Starting a build. -/

/-- A build the handler has priced: its type and place, the tier it
resolved for a fort or siege battery, and how long it takes. -/
structure BuildOrder where
  structureType : StructureType
  field : StructureField
  registered : registryField structureType = some field
  variant : Option StructureType
  family : ∀ tier, variant = some tier → registryField tier = some field
  buildMs : Nat

def BuildOrder.storedType (order : BuildOrder) : Option StructureType :=
  match order.field with
  | .fort | .siegeBattery => order.variant
  | .observatory => none
  | .economicStructure => some order.structureType

/-- A fort upgrade keeps the standing tier and its activation. -/
def BuildOrder.started (order : BuildOrder) (now : Nat) (playerId : PlayerId)
    (standing : Option TileStructure) : TileStructure where
  ownerId := playerId
  type := order.storedType
  status := .under_construction
  previousStatus := none
  startedAt := some now
  completesAt := some (now + order.buildMs)
  pausedAt := none
  activatedAt := standing.bind TileStructure.activatedAt
  upgradingFrom := standing.bind TileStructure.type
  salvageLoadsShipped := 0

def withBuild (order : BuildOrder) (playerId : PlayerId) (standing : Option TileStructure)
    (state : HoldState W) : HoldState W :=
  { state with
    tile := state.tile.setStructure order.field
      (some (order.started state.now playerId standing))
    timers := state.timers
      ++ [scheduleStructureCompletion state.now playerId order.field
            (some order.structureType) (state.now + order.buildMs)] }

/-- `handleBuildStructureCommand`, from its last checks on.  `payloadKey` is
the tile the command names; a town's support structure goes up on this
tile, an open one beside it. -/
def startBuild (order : BuildOrder) (playerId : PlayerId) (payloadKey : TileKey W)
    (standing : Option TileStructure) (state : HoldState W) : Option (HoldState W) :=
  if state.tile.ownerId ≠ some playerId then none
  else if isUnderAttack state.locks payloadKey then none
  else some (withBuild order playerId standing state)

/-! ## §5. The lock in the target slot. -/

theorem isUnderAttack_congr {locks locks' : CombatLockIndex W} {key : TileKey W}
    (h : locks'.targets.get key = locks.targets.get key) :
    isUnderAttack locks' key = isUnderAttack locks key := by
  unfold isUnderAttack CombatLockIndex.targetLockAt
  rw [h]

variable {type : Option StructureType} {ownerId : PlayerId} {rivalClaimed : Bool} {now : Nat}
  {f : TileStructure → TileStructure} {tile : StructureTile} {state : HoldState W}

theorem isUnderAttack_ended {lock : LockRecord W} (h : endsAttackHere state lock = true) :
    isUnderAttack (state.locks.removeLock lock) state.tileKey = false := by
  simp only [endsAttackHere, Bool.and_eq_true, decide_eq_true_eq] at h
  have hgone : (state.locks.removeLock lock).targets.get state.tileKey = none := by
    show (if state.locks.ownsTargetSlot lock then state.locks.targets.erase lock.targetKey
      else state.locks.targets).get state.tileKey = none
    rw [if_pos h.1.1, h.2, InsertionMap.get_erase_self]
  unfold isUnderAttack CombatLockIndex.targetLockAt
  rw [hgone]

theorem isUnderAttack_removeLock {lock : LockRecord W} (hslots : state.locks.SlotsLive)
    (hlive : state.locks.Live lock) (h : ¬ endsAttackHere state lock = true) :
    isUnderAttack (state.locks.removeLock lock) state.tileKey
      = isUnderAttack state.locks state.tileKey := by
  by_cases howns : state.locks.ownsTargetSlot lock = true
  · have htargets : (state.locks.removeLock lock).targets
        = state.locks.targets.erase lock.targetKey := if_pos howns
    by_cases hkey : lock.targetKey = state.tileKey
    · -- The slot held this lock, and it is no attack.
      obtain ⟨holder, hholder, hid⟩ := (state.locks.ownsTargetSlot_iff lock).mp howns
      have hsame : holder = lock := by
        have hheld := (hslots _ _ hholder).2
        unfold CombatLockIndex.Live at hheld hlive
        rw [hid, hlive] at hheld
        exact (Option.some.inj hheld).symm
      have hexpand : lock.actionType ≠ .ATTACK := by
        intro hattack
        exact h (by simp [endsAttackHere, howns, hattack, hkey])
      subst hsame
      rw [hkey] at hholder
      unfold isUnderAttack CombatLockIndex.targetLockAt
      rw [htargets, hkey, InsertionMap.get_erase_self, hholder]
      simp [hexpand]
    · refine isUnderAttack_congr ?_
      rw [htargets, InsertionMap.get_erase_ne _ hkey]
  · refine isUnderAttack_congr ?_
    have htargets : (state.locks.removeLock lock).targets = state.locks.targets := if_neg howns
    rw [htargets]

theorem addLock_targets {locks : CombatLockIndex W} {lock : LockRecord W}
    (h : locks.locksByCommandId.get lock.commandId = none) :
    (locks.addLock lock).targets = locks.targets.set lock.targetKey lock := by
  unfold CombatLockIndex.addLock
  rw [h]

/-! ## §6. What pausing, resuming and completing do to one structure. -/

@[simp] theorem pauseForAttack_ownerId (now : Nat) (held : TileStructure) :
    (pauseForAttack now held).ownerId = held.ownerId := by
  unfold pauseForAttack
  split <;> rfl

@[simp] theorem pauseForAttack_status (now : Nat) (held : TileStructure) :
    (pauseForAttack now held).status = held.status := by
  unfold pauseForAttack
  split <;> rfl

@[simp] theorem pauseForAttack_type (now : Nat) (held : TileStructure) :
    (pauseForAttack now held).type = held.type := by
  unfold pauseForAttack
  split <;> rfl

@[simp] theorem resumeConstruction_ownerId (now : Nat) (held : TileStructure) :
    (resumeConstruction now held).ownerId = held.ownerId := by
  unfold resumeConstruction
  split
  · rfl
  · split <;> rfl

@[simp] theorem resumeConstruction_status (now : Nat) (held : TileStructure) :
    (resumeConstruction now held).status = held.status := by
  unfold resumeConstruction
  split
  · rfl
  · split <;> rfl

@[simp] theorem resumeConstruction_type (now : Nat) (held : TileStructure) :
    (resumeConstruction now held).type = held.type := by
  unfold resumeConstruction
  split
  · rfl
  · split <;> rfl

/-- A structure's stored type names its own place, where it names any. -/
def WellTyped (tile : StructureTile) : Prop :=
  ∀ field held, tile.structures field = some held →
    ∀ g, (structureTypeForField field held).bind registryField = some g → g = field

theorem structureTypeForField_congr {field : StructureField} {held held' : TileStructure}
    (h : held'.type = held.type) :
    structureTypeForField field held' = structureTypeForField field held := by
  cases field <;> simp [structureTypeForField, h]

theorem WellTyped.map (h : WellTyped tile) (hf : ∀ held, (f held).type = held.type) :
    WellTyped { tile with structures := fun field => (tile.structures field).map f } := by
  intro field held' hheld g hg
  obtain ⟨held, hold, rfl⟩ := Option.map_eq_some_iff.mp hheld
  rw [structureTypeForField_congr (hf held)] at hg
  exact h field held hold g hg

theorem WellTyped.setStructure (h : WellTyped tile) {field : StructureField}
    {value : Option TileStructure}
    (hvalue : ∀ held, value = some held →
      ∀ g, (structureTypeForField field held).bind registryField = some g → g = field) :
    WellTyped (tile.setStructure field value) := by
  intro f held hheld g hg
  by_cases hf : f = field
  · subst hf
    rw [StructureTile.setStructure_self] at hheld
    exact hvalue held hheld g hg
  · rw [StructureTile.setStructure_of_ne _ hf] at hheld
    exact h f held hheld g hg

/-- A timer that can complete names the place it was armed for, and it is
due no earlier than its deadline. -/
structure CompletionTimer.Fits (timer : CompletionTimer) : Prop where
  punctual : timer.completesAt ≤ timer.dueAt
  typed : ∀ g, timer.structureType.bind registryField = some g → g = timer.field

theorem scheduleStructureCompletion_fits {now completesAt : Nat} {field : StructureField}
    (htype : ∀ g, type.bind registryField = some g → g = field) :
    (scheduleStructureCompletion now ownerId field type completesAt).Fits where
  punctual := by
    show completesAt ≤ now + (completesAt - now)
    omega
  typed := htype

theorem resumeTimer_some {field : StructureField} {timer : CompletionTimer}
    (h : resumeTimer now ownerId tile field = some timer) :
    ∃ held pausedAt, tile.structures field = some held ∧ held.pausedAt = some pausedAt
      ∧ timer = scheduleStructureCompletion now ownerId field (structureTypeForField field held)
          (resumedDeadline now pausedAt held) := by
  unfold resumeTimer at h
  cases hheld : tile.structures field with
  | none => rw [hheld] at h; cases h
  | some held =>
      rw [hheld] at h
      dsimp only at h
      cases hpaused : held.pausedAt with
      | none => rw [hpaused] at h; cases h
      | some pausedAt =>
          rw [hpaused] at h
          dsimp only at h
          split at h
          · exact ⟨held, pausedAt, rfl, hpaused, (Option.some.inj h).symm⟩
          · cases h

theorem mem_STRUCTURE_FIELDS (field : StructureField) : field ∈ STRUCTURE_FIELDS := by
  cases field <;> simp [STRUCTURE_FIELDS]

/-- What a completion does: it takes one running construction of the
timer's owner out of construction. -/
theorem completeStructureBuild_some {latest tile : StructureTile} {field : StructureField}
    {outcome : CompletionOutcome}
    (h : completeStructureBuild now rivalClaimed latest ownerId type = some (tile, field, outcome))
    :
    type.bind registryField = some field
      ∧ ∃ held value, latest.structures field = some held
        ∧ held.status = .under_construction ∧ held.pausedAt = none
        ∧ tile = latest.setStructure field value
        ∧ ∀ left, value = some left → left.type = held.type ∧ left.status = .active := by
  unfold completeStructureBuild at h
  cases hfield : type.bind registryField with
  | none => rw [hfield] at h; cases h
  | some place =>
      rw [hfield] at h
      dsimp only at h
      split at h
      · cases h
      cases hheld : latest.structures place with
      | none => rw [hheld] at h; cases h
      | some held =>
          rw [hheld] at h
          dsimp only at h
          split at h
          · cases h
          rename_i hguard
          have hstatus : held.status = .under_construction := by
            simp only [isUnderConstruction, Bool.or_eq_true, not_or] at hguard
            simpa using hguard.2
          split at h
          · cases h
          rename_i hpause
          have hpaused : held.pausedAt = none := by simpa using hpause
          split at h
          · cases h
          split at h
          · cases h
            refine ⟨rfl, held, none, hheld, hstatus, hpaused, rfl, ?_⟩
            intro left hleft
            exact absurd hleft (Option.some_ne_none left).symm
          · cases h
            refine ⟨rfl, held, _, hheld, hstatus, hpaused, rfl, ?_⟩
            intro left hleft
            cases hleft
            exact ⟨rfl, rfl⟩

theorem completeStructureBuild_isSome {latest : StructureTile} {field : StructureField}
    {held : TileStructure} (htype : type.bind registryField = some field)
    (howner : latest.ownerId = some ownerId) (hheld : latest.structures field = some held)
    (hown : held.ownerId = ownerId) (hstatus : held.status = .under_construction)
    (hpaused : held.pausedAt = none) (hsame : field = .economicStructure → held.type = type) :
    ∃ tile outcome, completeStructureBuild now rivalClaimed latest ownerId type
      = some (tile, field, outcome) := by
  unfold completeStructureBuild
  rw [htype]
  dsimp only
  rw [if_neg (not_not.mpr howner), hheld]
  dsimp only
  have heconomic : (decide (field = .economicStructure) && decide (held.type ≠ type)) = false := by
    by_cases hf : field = .economicStructure
    · simp [hsame hf]
    · simp [hf]
  have hrunning : (decide (held.ownerId ≠ ownerId) || !isUnderConstruction held) = false := by
    simp [hown, isUnderConstruction, hstatus]
  rw [hrunning, hpaused, heconomic]
  simp only [Option.isSome_none, Bool.false_eq_true, if_false]
  split
  · exact ⟨_, _, rfl⟩
  · exact ⟨_, _, rfl⟩

/-! ## §7. The book of one build. -/

def completionsOf (state : HoldState W) (field : StructureField) : List Completion :=
  state.completions.filter fun completion => decide (completion.field = field)

/-- The build at `field` as its handler left it, paused or not. -/
structure Building (owner : PlayerId) (field : StructureField) (held : TileStructure) : Prop where
  ownerId : held.ownerId = owner
  status : held.status = .under_construction
  typed : (structureTypeForField field held).bind registryField = some field

/-- A pending timer completes the build: it is due at the deadline, or at
once if that has passed. -/
structure Completes (owner : PlayerId) (field : StructureField) (held : TileStructure)
    (now deadline : Nat) (timer : CompletionTimer) : Prop where
  place : timer.field = field
  ownerId : timer.ownerId = owner
  typed : timer.structureType.bind registryField = some field
  same : field = .economicStructure → held.type = timer.structureType
  completesAt : timer.completesAt = deadline
  dueAt : timer.dueAt ≤ max now deadline

variable (owner : PlayerId) (field : StructureField) (original : Nat)

/-- The build runs: its deadline is the original one and the time paused. -/
def Running (state : HoldState W) (held : TileStructure) : Prop :=
  held.pausedAt = none
    ∧ held.completesAt = some (original + state.pausedFor field)
    ∧ ∃ timer ∈ state.timers,
        Completes owner field held state.now (original + state.pausedFor field) timer

/-- The build stands still: the running pause is what its deadline lacks. -/
def Paused (state : HoldState W) (held : TileStructure) : Prop :=
  ∃ pausedAt completesAt, held.pausedAt = some pausedAt ∧ held.completesAt = some completesAt
    ∧ pausedAt ≤ state.now
    ∧ completesAt + (state.now - pausedAt) = original + state.pausedFor field

/-- Not finished: running, or paused while an attack lasts. -/
def Underway (state : HoldState W) : Prop :=
  completionsOf state field = []
    ∧ ∃ held, state.tile.structures field = some held ∧ Building owner field held
      ∧ ((Running owner field original state held
            ∧ isUnderAttack state.locks state.tileKey = false)
          ∨ (Paused field original state held ∧ isUnderAttack state.locks state.tileKey = true))

/-- Finished exactly once, out of attack and not early. -/
def Done (state : HoldState W) : Prop :=
  ∃ completion, completionsOf state field = [completion]
    ∧ completion.underAttack = false
    ∧ original + state.pausedFor field ≤ completion.completedAt
    ∧ ∀ held, state.tile.structures field = some held → held.status ≠ .under_construction

/-- What every step of a run keeps. -/
structure Kept (state : HoldState W) : Prop where
  keyed : state.locks.Keyed
  slots : state.locks.SlotsLive
  ownerId : state.tile.ownerId = some owner
  typed : WellTyped state.tile
  fits : ∀ timer ∈ state.timers, timer.Fits
  phase : Underway owner field original state ∨ Done field original state

variable {owner field original}

theorem isPaused_of_held {held : TileStructure} (h : tile.structures field = some held) :
    isPaused tile field = isPausedConstruction held := by
  unfold isPaused
  rw [h]
  rfl

theorem isPaused_of_done (h : Done field original state) : isPaused state.tile field = false := by
  obtain ⟨_, _, _, _, hstands⟩ := h
  cases hheld : state.tile.structures field with
  | none => simp [isPaused, hheld]
  | some held =>
      rw [isPaused_of_held hheld]
      simp [isPausedConstruction, isUnderConstruction, hstands held hheld]

theorem Kept.wait (h : Kept owner field original state) (ms : Nat) :
    Kept owner field original (stepWait ms state) := by
  refine { h with phase := ?_ }
  rcases h.phase with ⟨hnone, held, hheld, hbuild, hphase⟩ | hdone
  · refine Or.inl ⟨hnone, held, hheld, hbuild, ?_⟩
    rcases hphase with ⟨⟨hrun, hdeadline, timer, htimer, hcomplete⟩, hfree⟩
      | ⟨⟨pausedAt, completesAt, hpausedAt, hdeadline, hle, hsum⟩, hattack⟩
    · have hsame : (stepWait ms state).pausedFor field = state.pausedFor field := by
        show state.pausedFor field + (if isPaused state.tile field then ms else 0) = _
        rw [isPaused_of_held hheld]
        simp [isPausedConstruction, hrun]
      refine Or.inl ⟨⟨hrun, by rw [hsame]; exact hdeadline, timer, htimer, ?_⟩, hfree⟩
      rw [hsame]
      refine { hcomplete with dueAt := ?_ }
      show timer.dueAt ≤ max (state.now + ms) _
      have := hcomplete.dueAt
      omega
    · have hmore : (stepWait ms state).pausedFor field = state.pausedFor field + ms := by
        show state.pausedFor field + (if isPaused state.tile field then ms else 0) = _
        rw [isPaused_of_held hheld]
        simp [isPausedConstruction, isUnderConstruction, hpausedAt, hbuild.status]
      refine Or.inr ⟨⟨pausedAt, completesAt, hpausedAt, hdeadline, ?_, ?_⟩, hattack⟩
      · show pausedAt ≤ state.now + ms
        omega
      · show completesAt + (state.now + ms - pausedAt) = _
        omega
  · have hpause := isPaused_of_done hdone
    obtain ⟨completion, hone, hfree, hle, hstands⟩ := hdone
    refine Or.inr ⟨completion, hone, hfree, ?_, hstands⟩
    show original + (state.pausedFor field + if isPaused state.tile field then ms else 0) ≤ _
    rw [hpause]
    exact hle

/-! ## §8. The two ends of a fight. -/

theorem holdDevelopment_structures {attackerId : PlayerId} (howner : tile.ownerId = some owner)
    (hother : owner ≠ attackerId) :
    holdDevelopmentForAttack now attackerId tile
      = { tile with structures := fun f => (tile.structures f).map (pauseForAttack now) } := by
  unfold holdDevelopmentForAttack
  rw [howner]
  exact if_neg hother

theorem release_fst (howner : tile.ownerId = some owner) :
    (releaseDevelopmentHold now tile).1
      = { tile with structures := fun f => (tile.structures f).map (resumeConstruction now) } := by
  unfold releaseDevelopmentHold
  rw [howner]

theorem release_snd (howner : tile.ownerId = some owner) :
    (releaseDevelopmentHold now tile).2
      = STRUCTURE_FIELDS.filterMap (resumeTimer now owner tile) := by
  unfold releaseDevelopmentHold
  rw [howner]

theorem Paused.thaw {state : HoldState W} {held : TileStructure}
    (howner : state.tile.ownerId = some owner)
    (hheld : state.tile.structures field = some held) (hbuild : Building owner field held)
    (hpaused : Paused field original state held) :
    Running owner field original (Structures.thaw state) (resumeConstruction state.now held) := by
  obtain ⟨pausedAt, completesAt, hpausedAt, hdeadline, hle, hsum⟩ := hpaused
  have hconstruction : isUnderConstruction held = true := by
    simp [isUnderConstruction, hbuild.status]
  have hresumed : resumedDeadline state.now pausedAt held
      = original + state.pausedFor field := by
    unfold resumedDeadline
    rw [hdeadline]
    exact hsum
  have hvalue : (resumeConstruction state.now held).pausedAt = none
      ∧ (resumeConstruction state.now held).completesAt
        = some (resumedDeadline state.now pausedAt held) := by
    unfold resumeConstruction
    rw [hpausedAt]
    dsimp only
    rw [if_pos hconstruction]
    exact ⟨rfl, rfl⟩
  refine ⟨hvalue.1, by rw [hvalue.2, hresumed]; rfl, ?_⟩
  refine ⟨scheduleStructureCompletion state.now owner field (structureTypeForField field held)
    (resumedDeadline state.now pausedAt held), ?_, ?_⟩
  · refine List.mem_append.mpr (Or.inr ?_)
    rw [release_snd howner, List.mem_filterMap]
    refine ⟨field, mem_STRUCTURE_FIELDS field, ?_⟩
    unfold resumeTimer
    rw [hheld]
    dsimp only
    rw [hpausedAt]
    exact if_pos hconstruction
  · refine { place := rfl, ownerId := rfl, typed := hbuild.typed, same := ?_,
             completesAt := hresumed, dueAt := ?_ }
    · intro heconomic
      subst heconomic
      rw [resumeConstruction_type]
      rfl
    · show state.now + (resumedDeadline state.now pausedAt held - state.now)
        ≤ max state.now (original + state.pausedFor field)
      omega

theorem Building.map {held : TileStructure} (h : Building owner field held)
    (howner : (f held).ownerId = held.ownerId) (hstatus : (f held).status = held.status)
    (htype : (f held).type = held.type) :
    Building owner field (f held) where
  ownerId := howner.trans h.ownerId
  status := hstatus.trans h.status
  typed := by
    rw [structureTypeForField_congr htype]
    exact h.typed

theorem Done.map {state next : HoldState W} (h : Done field original state)
    (hf : ∀ held, (f held).status = held.status)
    (htile : next.tile.structures field = (state.tile.structures field).map f)
    (hpaused : next.pausedFor = state.pausedFor) (hdone : next.completions = state.completions) :
    Done field original next := by
  obtain ⟨completion, hone, hfree, hle, hstands⟩ := h
  refine ⟨completion, ?_, hfree, by rw [hpaused]; exact hle, ?_⟩
  · unfold completionsOf
    rw [hdone]
    exact hone
  · intro held' hheld'
    rw [htile] at hheld'
    obtain ⟨held, hheld, rfl⟩ := Option.map_eq_some_iff.mp hheld'
    rw [hf]
    exact hstands held hheld

theorem Kept.thaw {state : HoldState W} (h : Kept owner field original state)
    {locks : CombatLockIndex W} (hkeyed : locks.Keyed) (hslots : locks.SlotsLive)
    (hended : isUnderAttack locks state.tileKey = false) :
    Kept owner field original (Structures.thaw { state with locks := locks }) := by
  refine { keyed := hkeyed, slots := hslots, ownerId := ?_, typed := ?_, fits := ?_, phase := ?_ }
  · show (releaseDevelopmentHold state.now state.tile).1.ownerId = some owner
    rw [release_fst h.ownerId]
    exact h.ownerId
  · show WellTyped (releaseDevelopmentHold state.now state.tile).1
    rw [release_fst h.ownerId]
    exact h.typed.map (resumeConstruction_type state.now)
  · intro timer htimer
    rcases List.mem_append.mp htimer with hold | hnew
    · exact h.fits timer hold
    · rw [release_snd h.ownerId, List.mem_filterMap] at hnew
      obtain ⟨f, _, hsome⟩ := hnew
      obtain ⟨held, pausedAt, hheld, _, rfl⟩ := resumeTimer_some hsome
      exact scheduleStructureCompletion_fits (h.typed f held hheld)
  · have htile : (Structures.thaw { state with locks := locks }).tile.structures field
        = (state.tile.structures field).map (resumeConstruction state.now) := by
      show (releaseDevelopmentHold state.now state.tile).1.structures field = _
      rw [release_fst h.ownerId]
    rcases h.phase with ⟨hnone, held, hheld, hbuild, hphase⟩ | hdone
    · refine Or.inl ⟨hnone, resumeConstruction state.now held, by rw [htile, hheld]; rfl,
        hbuild.map (resumeConstruction_ownerId _ _) (resumeConstruction_status _ _)
          (resumeConstruction_type _ _), Or.inl ⟨?_, hended⟩⟩
      rcases hphase with ⟨⟨hrun, hdeadline, timer, htimer, hcomplete⟩, _⟩ | ⟨hpaused, _⟩
      · have hsame : resumeConstruction state.now held = held := by
          unfold resumeConstruction
          rw [hrun]
        rw [hsame]
        exact ⟨hrun, hdeadline, timer, List.mem_append.mpr (Or.inl htimer), hcomplete⟩
      · exact @Paused.thaw _ _ _ _ { state with locks := locks } _ h.ownerId hheld hbuild hpaused
    · exact Or.inr (hdone.map (resumeConstruction_status state.now) htile rfl rfl)

theorem Kept.sameAttack (h : Kept owner field original state) {locks : CombatLockIndex W}
    (hkeyed : locks.Keyed) (hslots : locks.SlotsLive)
    (hsame : isUnderAttack locks state.tileKey = isUnderAttack state.locks state.tileKey) :
    Kept owner field original { state with locks := locks } := by
  refine { h with keyed := hkeyed, slots := hslots, phase := ?_ }
  rcases h.phase with ⟨hnone, held, hheld, hbuild, hphase⟩ | hdone
  · refine Or.inl ⟨hnone, held, hheld, hbuild, ?_⟩
    show (Running owner field original state held ∧ isUnderAttack locks state.tileKey = false)
      ∨ (Paused field original state held ∧ isUnderAttack locks state.tileKey = true)
    rw [hsame]
    exact hphase
  · exact Or.inr hdone

theorem Kept.takeOut (h : Kept owner field original state) {lock : LockRecord W}
    (hlive : state.locks.Live lock) :
    Kept owner field original (Structures.takeOut lock state) := by
  have hslots : (state.locks.removeLock lock).SlotsLive :=
    h.slots.removeLock fun l hl => Option.some.inj (hl.symm.trans hlive)
  unfold Structures.takeOut
  by_cases hends : endsAttackHere state lock = true
  · rw [if_pos hends]
    exact h.thaw (h.keyed.removeLock lock) hslots (isUnderAttack_ended hends)
  · rw [if_neg hends]
    exact h.sameAttack (h.keyed.removeLock lock) hslots
      (isUnderAttack_removeLock h.slots hlive hends)

theorem Kept.release (h : Kept owner field original state) (commandId : CommandId) :
    Kept owner field original (stepRelease commandId state) := by
  unfold stepRelease
  cases hget : state.locks.locksByCommandId.get commandId with
  | none => exact h
  | some lock =>
      refine h.takeOut ?_
      unfold CombatLockIndex.Live
      rw [h.keyed commandId lock hget]
      exact hget

theorem stepRelease_free (hkeyed : state.locks.Keyed) (commandId : CommandId) :
    (stepRelease commandId state).locks.locksByCommandId.get commandId = none := by
  unfold stepRelease
  cases hget : state.locks.locksByCommandId.get commandId with
  | none => exact hget
  | some lock =>
      have hlocks : (takeOut lock state).locks = state.locks.removeLock lock := by
        unfold takeOut
        split <;> rfl
      dsimp only
      rw [hlocks, CombatLockIndex.removeLock_locksByCommandId, hkeyed commandId lock hget,
        InsertionMap.get_erase_self]

theorem stepRelease_tileKey (state : HoldState W) (commandId : CommandId) :
    (stepRelease commandId state).tileKey = state.tileKey := by
  unfold stepRelease
  split
  · rfl
  · unfold takeOut
    split <;> rfl

theorem pause_paused {held : TileStructure} (hbuild : Building owner field held)
    (h : Running owner field original state held ∨ Paused field original state held) :
    Paused field original state (pauseForAttack state.now held) := by
  rcases h with ⟨hrun, hdeadline, _⟩ | ⟨pausedAt, completesAt, hpausedAt, hdeadline, hle, hsum⟩
  · have hcond : (isUnderConstruction held && held.pausedAt.isNone
        && held.completesAt.isSome) = true := by
      simp [isUnderConstruction, hbuild.status, hrun, hdeadline]
    have hvalue : pauseForAttack state.now held = { held with pausedAt := some state.now } := by
      unfold pauseForAttack
      exact if_pos hcond
    rw [hvalue]
    exact ⟨state.now, _, rfl, hdeadline, le_refl _, by omega⟩
  · have hcond : ¬ (isUnderConstruction held && held.pausedAt.isNone
        && held.completesAt.isSome) = true := by
      simp [hpausedAt]
    have hvalue : pauseForAttack state.now held = held := by
      unfold pauseForAttack
      exact if_neg hcond
    rw [hvalue]
    exact ⟨pausedAt, completesAt, hpausedAt, hdeadline, hle, hsum⟩

theorem Kept.putIn (h : Kept owner field original state) {lock : LockRecord W}
    (hfree : state.locks.locksByCommandId.get lock.commandId = none)
    (haccepts : lock.targetKey = state.tileKey → lock.actionType = .ATTACK ∧ owner ≠ lock.playerId)
    :
    Kept owner field original (Structures.putIn lock state) := by
  have hkeyed := h.keyed.addLock lock
  have hslots := h.slots.addLock h.keyed lock
  have htargets := addLock_targets hfree
  unfold Structures.putIn
  by_cases hhere : lock.targetKey = state.tileKey
  · obtain ⟨hattack, hother⟩ := haccepts hhere
    rw [if_pos (by simp [hattack, hhere]), holdDevelopment_structures h.ownerId hother]
    refine { keyed := hkeyed, slots := hslots, ownerId := h.ownerId, fits := h.fits,
             typed := h.typed.map (pauseForAttack_type state.now), phase := ?_ }
    have hunder : isUnderAttack (state.locks.addLock lock) state.tileKey = true := by
      unfold isUnderAttack CombatLockIndex.targetLockAt
      rw [htargets, ← hhere, InsertionMap.get_set_self]
      simp [hattack]
    rcases h.phase with ⟨hnone, held, hheld, hbuild, hphase⟩ | hdone
    · refine Or.inl ⟨hnone, pauseForAttack state.now held, ?_,
        hbuild.map (pauseForAttack_ownerId _ _) (pauseForAttack_status _ _)
          (pauseForAttack_type _ _), Or.inr ⟨?_, hunder⟩⟩
      · show (state.tile.structures field).map (pauseForAttack state.now) = _
        rw [hheld]
        rfl
      · exact pause_paused hbuild (hphase.imp And.left And.left)
    · exact Or.inr (hdone.map (pauseForAttack_status state.now) rfl rfl rfl)
  · rw [if_neg (by simp [hhere])]
    refine h.sameAttack hkeyed hslots (isUnderAttack_congr ?_)
    rw [htargets, InsertionMap.get_set_ne _ hhere]

theorem Kept.accept (h : Kept owner field original state) (lock : LockRecord W) :
    Kept owner field original (stepAccept lock state) := by
  unfold stepAccept
  by_cases haccepts : acceptsLock state lock = true
  · rw [if_pos haccepts]
    refine (h.release lock.commandId).putIn (stepRelease_free h.keyed lock.commandId) ?_
    intro hhere
    rw [stepRelease_tileKey] at hhere
    unfold acceptsLock at haccepts
    rw [if_pos hhere, h.ownerId] at haccepts
    simp only [Bool.and_eq_true, decide_eq_true_eq] at haccepts
    exact haccepts.1
  · rw [if_neg haccepts]
    exact h

/-! ## §9. Timers. -/

theorem runCompletionTimer_some {tile tile' : StructureTile} {timer : CompletionTimer}
    {f : StructureField} {outcome : CompletionOutcome}
    (h : runCompletionTimer now rivalClaimed tile timer = some (tile', f, outcome)) :
    (∃ live, tile.structures timer.field = some live
        ∧ live.completesAt = some timer.completesAt)
      ∧ completeStructureBuild now rivalClaimed tile timer.ownerId timer.structureType
        = some (tile', f, outcome) := by
  unfold runCompletionTimer at h
  cases hlive : tile.structures timer.field with
  | none => rw [hlive] at h; cases h
  | some live =>
      rw [hlive] at h
      dsimp only at h
      split at h
      · cases h
      · rename_i hguard
        simp only [Bool.or_eq_true, not_or, decide_eq_true_eq, not_not] at hguard
        exact ⟨⟨live, rfl, hguard.1⟩, h⟩

theorem Completes.runs {tile : StructureTile} {held : TileStructure} {now due deadline : Nat}
    {timer : CompletionTimer} (h : Completes owner field held due deadline timer)
    (howner : tile.ownerId = some owner) (hheld : tile.structures field = some held)
    (hbuild : Building owner field held) (hrun : held.pausedAt = none)
    (hdeadline : held.completesAt = some deadline) (rivalClaimed : Bool) :
    ∃ tile' outcome, runCompletionTimer now rivalClaimed tile timer
      = some (tile', field, outcome) := by
  unfold runCompletionTimer
  rw [h.place, hheld]
  dsimp only
  have hguard : ¬ (decide (held.completesAt ≠ some timer.completesAt)
      || held.pausedAt.isSome) = true := by
    simp [hdeadline, h.completesAt, hrun]
  rw [if_neg hguard, h.ownerId]
  exact completeStructureBuild_isSome h.typed howner hheld hbuild.ownerId hbuild.status hrun h.same

theorem completionsOf_append (state : HoldState W) (completion : Completion)
    {next : HoldState W} (h : next.completions = state.completions ++ [completion]) :
    completionsOf next field
      = completionsOf state field ++ if completion.field = field then [completion] else [] := by
  unfold completionsOf
  rw [h, List.filter_append]
  by_cases hfield : completion.field = field
  · simp [hfield]
  · simp [hfield]

theorem mem_eraseIdx_of_ne {α : Type} {l : List α} {i : Nat} {a b : α} (ha : l[i]? = some a)
    (hb : b ∈ l) (hne : b ≠ a) : b ∈ l.eraseIdx i := by
  obtain ⟨j, hj⟩ := List.mem_iff_getElem?.mp hb
  refine List.mem_eraseIdx_iff_getElem?.mpr ⟨j, ?_, hj⟩
  rintro rfl
  exact hne (Option.some.inj (hj.symm.trans ha))

theorem Kept.spend (h : Kept owner field original state) {index : Nat} {timer : CompletionTimer}
    (hdue : dueCompletion state index = some timer) :
    Kept owner field original (Structures.spend index rivalClaimed timer state) := by
  obtain ⟨hat, hpast⟩ := Option.filter_eq_some_iff.mp hdue
  have hpast : timer.dueAt ≤ state.now := by simpa using hpast
  have htimer : timer ∈ state.timers := List.mem_of_getElem? hat
  have hfits := h.fits timer htimer
  have hkept : ∀ t ∈ state.timers.eraseIdx index, t.Fits :=
    fun t ht => h.fits t (List.mem_of_mem_eraseIdx ht)
  unfold Structures.spend
  cases hrun : runCompletionTimer state.now rivalClaimed state.tile timer with
  | none =>
      refine { h with fits := hkept, phase := ?_ }
      rcases h.phase with ⟨hnone, held, hheld, hbuild, hphase⟩ | hdone
      · refine Or.inl ⟨hnone, held, hheld, hbuild, ?_⟩
        rcases hphase with ⟨⟨hidle, hdeadline, armed, harmed, hcomplete⟩, hfree⟩ | hpaused
        · -- The timer spent is not the one that waits for this deadline.
          have hne : armed ≠ timer := by
            rintro rfl
            obtain ⟨tile', outcome, hsome⟩ := @Completes.runs _ _ _ _ state.now _ _ _ hcomplete
              h.ownerId hheld hbuild hidle hdeadline rivalClaimed
            rw [hsome] at hrun
            cases hrun
          exact Or.inl ⟨⟨hidle, hdeadline, armed, mem_eraseIdx_of_ne hat harmed hne, hcomplete⟩,
            hfree⟩
        · exact Or.inr hpaused
      · exact Or.inr hdone
  | some result =>
      obtain ⟨tile, place, outcome⟩ := result
      obtain ⟨⟨live, hlive, hstamp⟩, hcompleted⟩ := runCompletionTimer_some hrun
      obtain ⟨htype, was, value, hwas, hstatus, hidle, rfl, hvalue⟩ :=
        completeStructureBuild_some hcompleted
      obtain rfl : place = timer.field := hfits.typed place htype
      have htyped : WellTyped (state.tile.setStructure timer.field value) := by
        refine h.typed.setStructure fun left hleft g hg => ?_
        rw [structureTypeForField_congr (hvalue left hleft).1] at hg
        exact h.typed timer.field was hwas g hg
      refine { h with ownerId := h.ownerId, fits := hkept, typed := htyped, phase := ?_ }
      by_cases hfield : timer.field = field
      · subst hfield
        rcases h.phase with ⟨hnone, held, hheld, hbuild, hphase⟩ | ⟨_, _, _, _, hstands⟩
        · -- The build completes: unpaused, so no attack is on, and at its deadline.
          have hsame : was = held := Option.some.inj (hwas.symm.trans hheld)
          subst hsame
          rcases hphase with ⟨⟨_, hdeadline, _⟩, hfree⟩ | ⟨⟨pausedAt, _, hpausedAt, _⟩, _⟩
          · have hlater : original + state.pausedFor timer.field ≤ state.now := by
              rw [hlive] at hheld
              obtain rfl := Option.some.inj hheld
              have hsum := Option.some.inj (hstamp.symm.trans hdeadline)
              have := hfits.punctual
              omega
            refine Or.inr ⟨⟨timer.field, state.now, isUnderAttack state.locks state.tileKey,
              outcome⟩, ?_, hfree, hlater, ?_⟩
            · rw [completionsOf_append state _ rfl, hnone]
              exact if_pos rfl
            · intro left hleft
              rw [StructureTile.setStructure_self] at hleft
              rw [(hvalue left hleft).2]
              decide
          · rw [hpausedAt] at hidle
            cases hidle
        · exact absurd hstatus (hstands was hwas)
      · -- Another place of the tile completes.
        have hstays : (state.tile.setStructure timer.field value).structures field
            = state.tile.structures field :=
          state.tile.setStructure_of_ne (fun heq => hfield heq.symm) value
        rcases h.phase with ⟨hnone, held, hheld, hbuild, hphase⟩
          | ⟨completion, hone, hfree, hle, hstands⟩
        · refine Or.inl ⟨?_, held, hstays.trans hheld, hbuild, ?_⟩
          · rw [completionsOf_append state _ rfl, hnone]
            exact if_neg hfield
          · rcases hphase with ⟨⟨hidle', hdeadline, armed, harmed, hcomplete⟩, hfree⟩ | hpaused
            · have hne : armed ≠ timer := by
                rintro rfl
                exact hfield hcomplete.place
              exact Or.inl ⟨⟨hidle', hdeadline, armed, mem_eraseIdx_of_ne hat harmed hne,
                hcomplete⟩, hfree⟩
            · exact Or.inr hpaused
        · refine Or.inr ⟨completion, ?_, hfree, hle, ?_⟩
          · rw [completionsOf_append state _ rfl, hone, if_neg hfield, List.append_nil]
          · intro left hleft
            exact hstands left (hstays.symm.trans hleft)

/-- **Step lemma**: every step keeps the book. -/
theorem Kept.step {state : HoldState W} (h : Kept owner field original state) (op : HoldOp W) :
    Kept owner field original (state.step op) := by
  cases op with
  | wait ms => exact h.wait ms
  | accept lock => exact h.accept lock
  | release commandId => exact h.release commandId
  | fire index rivalClaimed =>
      show Kept owner field original (match dueCompletion state index with
        | none => state
        | some timer => Structures.spend index rivalClaimed timer state)
      cases hdue : dueCompletion state index with
      | none => exact h
      | some timer => exact h.spend hdue

/-! ## §10. A build from start to end. -/

/-- The world a build starts in; its log is empty. -/
structure HoldState.Ready (state : HoldState W) : Prop where
  keyed : state.locks.Keyed
  slots : state.locks.SlotsLive
  typed : WellTyped state.tile
  fits : ∀ timer ∈ state.timers, timer.Fits
  pausedFor : ∀ f, state.pausedFor f = 0
  completions : state.completions = []

/-- What a build promises: it completes at most once, never under attack
and not before its deadline and the time it stood paused; and once that has
passed, with no attack on and every due timer run, it has completed. -/
structure BuildKept (field : StructureField) (deadline : Nat) (state : HoldState W) : Prop where
  once : (completionsOf state field).length ≤ 1
  sound : ∀ completion ∈ completionsOf state field, completion.underAttack = false
    ∧ deadline + state.pausedFor field ≤ completion.completedAt
  due : isUnderAttack state.locks state.tileKey = false →
    deadline + state.pausedFor field ≤ state.now →
    (∀ timer ∈ state.timers, state.now < timer.dueAt) →
    (completionsOf state field).length = 1

theorem Kept.buildKept (h : Kept owner field original state) : BuildKept field original state := by
  rcases h.phase with ⟨hnone, held, _, _, hphase⟩ | ⟨completion, hone, hfree, hle, _⟩
  · refine { once := by simp [hnone], sound := by simp [hnone], due := ?_ }
    intro hfree hpast hrun
    rcases hphase with ⟨⟨_, _, timer, htimer, hcomplete⟩, _⟩ | ⟨_, hattack⟩
    · have hlate := hrun timer htimer
      have hdue := hcomplete.dueAt
      omega
    · rw [hfree] at hattack
      cases hattack
  · refine { once := by simp [hone], sound := ?_, due := by simp [hone] }
    intro c hc
    rw [hone] at hc
    obtain rfl := List.mem_singleton.mp hc
    exact ⟨hfree, hle⟩

theorem BuildOrder.storedType_typed (order : BuildOrder) (now : Nat) (playerId : PlayerId)
    (standing : Option TileStructure) :
    (structureTypeForField order.field (order.started now playerId standing)).bind registryField
      = some order.field := by
  obtain ⟨type, f, hregistered, variant, hfamily, ms⟩ := order
  cases f with
  | observatory => rfl
  | economicStructure => exact hregistered
  | fort =>
      cases variant with
      | none => rfl
      | some tier => exact hfamily tier rfl
  | siegeBattery =>
      cases variant with
      | none => rfl
      | some tier => exact hfamily tier rfl

theorem BuildOrder.timer_completes (order : BuildOrder) (now : Nat) (playerId : PlayerId)
    (standing : Option TileStructure) :
    Completes playerId order.field (order.started now playerId standing) now
      (now + order.buildMs)
      (scheduleStructureCompletion now playerId order.field (some order.structureType)
        (now + order.buildMs)) where
  place := rfl
  ownerId := rfl
  typed := order.registered
  same := by
    intro heconomic
    show order.storedType = some order.structureType
    unfold BuildOrder.storedType
    rw [heconomic]
  completesAt := rfl
  dueAt := by
    show now + (now + order.buildMs - now) ≤ max now (now + order.buildMs)
    omega

theorem startBuild_some {order : BuildOrder} {playerId : PlayerId} {payloadKey : TileKey W}
    {standing : Option TileStructure} {state started : HoldState W}
    (h : startBuild order playerId payloadKey standing state = some started) :
    state.tile.ownerId = some playerId ∧ started = withBuild order playerId standing state := by
  unfold startBuild at h
  split at h
  · cases h
  rename_i howner
  split at h
  · cases h
  · exact ⟨not_not.mp howner, (Option.some.inj h).symm⟩

theorem Kept.of_startBuild {order : BuildOrder} {playerId : PlayerId} {payloadKey : TileKey W}
    {standing : Option TileStructure} {state started : HoldState W} (hready : state.Ready)
    (h : startBuild order playerId payloadKey standing state = some started)
    (hfree : isUnderAttack state.locks state.tileKey = false) :
    Kept playerId order.field (state.now + order.buildMs) started := by
  obtain ⟨howner, rfl⟩ := startBuild_some h
  have htyped := order.storedType_typed state.now playerId standing
  refine { keyed := hready.keyed, slots := hready.slots, ownerId := howner, typed := ?_,
           fits := ?_, phase := ?_ }
  · refine hready.typed.setStructure fun held hheld g hg => ?_
    cases hheld
    rw [htyped] at hg
    exact (Option.some.inj hg).symm
  · intro timer htimer
    rcases List.mem_append.mp htimer with hold | hnew
    · exact hready.fits timer hold
    · obtain rfl := List.mem_singleton.mp hnew
      refine scheduleStructureCompletion_fits fun g hg => ?_
      exact (Option.some.inj (order.registered.symm.trans hg)).symm
  · refine Or.inl ⟨?_, order.started state.now playerId standing,
      state.tile.setStructure_self _ _, ⟨rfl, rfl, htyped⟩, Or.inl ⟨?_, hfree⟩⟩
    · show state.completions.filter _ = []
      rw [hready.completions]
      rfl
    · have hzero : state.pausedFor order.field = 0 := hready.pausedFor order.field
      refine ⟨rfl, ?_, _, List.mem_append.mpr (Or.inr (List.mem_singleton.mpr rfl)), ?_⟩
      · show some (state.now + order.buildMs)
          = some (state.now + order.buildMs + state.pausedFor order.field)
        rw [hzero]
        rfl
      · show Completes playerId order.field _ state.now
          (state.now + order.buildMs + state.pausedFor order.field) _
        rw [hzero]
        exact order.timer_completes state.now playerId standing

/-- Left alone under the attack it started in, the build completes under
it. -/
theorem startBuild_completes_attacked {order : BuildOrder} {playerId : PlayerId}
    {payloadKey : TileKey W} {standing : Option TileStructure} {state started : HoldState W}
    (hready : state.Ready) (h : startBuild order playerId payloadKey standing state = some started)
    (hattack : isUnderAttack state.locks state.tileKey = true) :
    ∃ outcome, completionsOf
        ((started.step (.wait order.buildMs)).step (.fire state.timers.length false)) order.field
      = [⟨order.field, state.now + order.buildMs, true, outcome⟩] := by
  obtain ⟨howner, rfl⟩ := startBuild_some h
  have htyped := order.storedType_typed state.now playerId standing
  have hcomplete := order.timer_completes state.now playerId standing
  obtain ⟨tile', outcome, hrun⟩ := @Completes.runs _ _
    (state.tile.setStructure order.field (some (order.started state.now playerId standing))) _
    (state.now + order.buildMs) _ _ _ hcomplete howner (state.tile.setStructure_self _ _) ⟨rfl, rfl, htyped⟩ rfl rfl false
  refine ⟨outcome, ?_⟩
  set waited := stepWait order.buildMs (withBuild order playerId standing state)
  have hdue : dueCompletion waited state.timers.length = some (scheduleStructureCompletion state.now playerId order.field
          (some order.structureType) (state.now + order.buildMs)) := by
    refine Option.filter_eq_some_iff.mpr ⟨List.getElem?_concat_length, ?_⟩
    show decide (state.now + (state.now + order.buildMs - state.now)
      ≤ state.now + order.buildMs) = true
    simp
  have hfired : (waited.step
      (.fire state.timers.length false)).completions
        = [⟨order.field, state.now + order.buildMs, true, outcome⟩] := by
    show (match dueCompletion waited
        state.timers.length with
      | none => stepWait order.buildMs (withBuild order playerId standing state)
      | some timer => spend state.timers.length false timer
          waited).completions = _
    rw [hdue]
    show (spend _ _ _ _).completions = _
    unfold spend
    have hrun' : runCompletionTimer waited.now false waited.tile
        (scheduleStructureCompletion state.now playerId order.field (some order.structureType)
          (state.now + order.buildMs)) = some (tile', order.field, outcome) := hrun
    rw [hrun']
    show state.completions ++ [⟨order.field, state.now + order.buildMs,
      isUnderAttack state.locks state.tileKey, outcome⟩] = _
    rw [hready.completions, hattack]
    rfl
  unfold completionsOf
  show List.filter _ (HoldState.step waited (.fire state.timers.length false)).completions = _
  rw [hfired]
  simp

/-- **A build holds its promises through every run of attacks, releases and
timers exactly when no attack is on its tile as it starts.** -/
theorem build_kept_iff {order : BuildOrder} {playerId : PlayerId} {payloadKey : TileKey W}
    {standing : Option TileStructure} {state started : HoldState W} (hready : state.Ready)
    (h : startBuild order playerId payloadKey standing state = some started) :
    (∀ ops, Run.Along HoldState.step (BuildKept order.field (state.now + order.buildMs))
        started ops)
      ↔ isUnderAttack state.locks state.tileKey = false := by
  constructor
  · intro hall
    by_contra hattack
    have hattack : isUnderAttack state.locks state.tileKey = true := by simpa using hattack
    obtain ⟨outcome, hdone⟩ := startBuild_completes_attacked hready h hattack
    have hlast : BuildKept order.field (state.now + order.buildMs)
        ((started.step (.wait order.buildMs)).step (.fire state.timers.length false)) :=
      (hall [.wait order.buildMs, .fire state.timers.length false]).2.2
    have hsound := (hlast.sound _ (by rw [hdone]; exact List.mem_singleton.mpr rfl)).1
    cases hsound
  · intro hfree ops
    have hrun : Run.Along HoldState.step (Kept playerId order.field (state.now + order.buildMs))
        started ops :=
      Run.along_of_step (fun s op hs => hs.step op) ops started (.of_startBuild hready h hfree)
    exact Run.Along.mono (fun s hs => hs.buildKept) ops started hrun

/-! ## §11. A support tile and its town. -/

theorem manufactory_registered : registryField .MANUFACTORY = some .economicStructure := rfl

theorem manufactory_family (tier : StructureType) (h : (none : Option StructureType) = some tier) :
    registryField tier = some .economicStructure := absurd h (Option.some_ne_none tier).symm

/-- A Manufactory: a minute, or at once with the Universal Fabrication
Line. -/
def manufactoryOrder (buildMs : Nat) : BuildOrder where
  structureType := .MANUFACTORY
  field := .economicStructure
  registered := manufactory_registered
  variant := none
  family := manufactory_family
  buildMs := buildMs

def supportKey : TileKey smallestWorld := wrappedTile smallestWorld 10 10
def townKey : TileKey smallestWorld := wrappedTile smallestWorld 11 10

/-- The second player's attack on the support tile, due in fifteen
seconds. -/
def supportAttack : LockRecord smallestWorld where
  commandId := "attack-1"
  playerId := playerTwo
  actionType := .ATTACK
  manpowerCost := ((60 : Nat) : ℚ≥0)
  originKey := wrappedTile smallestWorld 9 10
  targetKey := supportKey
  resolvesAt := 15000
  source := .player
  combatResolution := none
  musterSourceKey := none
  barbarianLaunch := false

def quietSupport : HoldState smallestWorld where
  tileKey := supportKey
  now := 0
  tile :=
    { ownerId := some playerOne
      isLand := true
      isSettled := true
      hasWatchtowerEngine := false
      resource := none
      structures := fun _ => none }
  locks := .empty
  timers := []
  pausedFor := fun _ => 0
  completions := []

/-- The same tile under attack. -/
def attackedSupport : HoldState smallestWorld :=
  { quietSupport with locks := CombatLockIndex.empty.addLock supportAttack }

theorem quietSupport_ready : quietSupport.Ready where
  keyed := CombatLockIndex.keyed_empty
  slots := CombatLockIndex.slotsLive_empty
  typed := fun _ _ hheld => absurd hheld (Option.some_ne_none _).symm
  fits := by simp [quietSupport]
  pausedFor := fun _ => rfl
  completions := rfl

/-- Begun on a quiet tile, the Manufactory keeps its promises. -/
theorem build_kept_iff_quiet :
    (∀ ops, Run.Along HoldState.step (BuildKept .economicStructure (0 + 60000))
        (withBuild (manufactoryOrder 60000) playerOne none quietSupport) ops)
      ↔ isUnderAttack quietSupport.locks quietSupport.tileKey = false := by
  have hstart : startBuild (manufactoryOrder 60000) playerOne townKey none quietSupport
      = some (withBuild (manufactoryOrder 60000) playerOne none quietSupport) := rfl
  exact build_kept_iff quietSupport_ready hstart

/-- Ordered on the town, the Manufactory begins on the support tile under
attack, and completes at once with the fight still on. -/
theorem build_not_kept :
    startBuild (manufactoryOrder 0) playerOne townKey none attackedSupport
        = some (withBuild (manufactoryOrder 0) playerOne none attackedSupport)
      ∧ ¬ Run.Along HoldState.step (BuildKept .economicStructure 0)
          (withBuild (manufactoryOrder 0) playerOne none attackedSupport) [.fire 0 false] := by
  have hdone : completionsOf ((withBuild (manufactoryOrder 0) playerOne none attackedSupport).step
      (.fire 0 false)) .economicStructure = [⟨.economicStructure, 0, true, .active⟩] := by decide
  refine ⟨rfl, fun h => ?_⟩
  have hlast : BuildKept .economicStructure 0
      ((withBuild (manufactoryOrder 0) playerOne none attackedSupport).step (.fire 0 false)) := h.2
  have hsound := (hlast.sound _ (by rw [hdone]; exact List.mem_singleton.mpr rfl)).1
  cases hsound

end BorderEmpires.Structures
