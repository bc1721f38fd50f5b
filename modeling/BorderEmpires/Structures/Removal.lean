/-
  BorderEmpires.Structures.Removal
  **TEARING STRUCTURES DOWN, AND THE TIMERS LEFT BEHIND.**

  REMOVE_STRUCTURE marks a structure and arms a timer; CANCEL takes the
  mark off again and leaves the timer.  When a timer fires it deletes
  whatever the owner has marked on the tile at that moment: it does not
  ask which removal armed it.
-/
import BorderEmpires.Structures.Tiles
import BorderEmpires.Lib.Run

namespace BorderEmpires.Structures

/-! ## §1. Handlers. -/

def STRUCTURE_REMOVAL_MS : Nat := 30000

/-- `structureRemovalDurationMsForManpowerCost`, over the cost table. -/
def structureRemovalDurationMs (manpowerCost : Option StructureType → Nat)
    (type : Option StructureType) : Nat :=
  if 0 < manpowerCost type then STRUCTURE_REMOVAL_MS else 0

def isRemovable (tile : StructureTile) (field : StructureField) (_ : TileStructure) : Bool :=
  !(decide (field = .observatory) && tile.hasWatchtowerEngine)

/-- What a cancelled removal goes back to. -/
def removalPreviousStatus (field : StructureField) (held : TileStructure) : StructureStatus :=
  match field with
  | .fort | .siegeBattery => .active
  | .observatory | .economicStructure =>
      if held.status = .inactive then .inactive else .active

inductive RemoveRejection where
  | TILE_NOT_GARRISONED
  | NO_OWNED_STRUCTURE
  | CANCEL_CONSTRUCTION_INSTEAD
  | ALREADY_BEING_REMOVED
  | DEVELOPMENT_SLOTS_BUSY
  deriving DecidableEq

/-- The marked tile, the field, and how long the removal takes. -/
def handleRemoveStructureCommand (manpowerCost : Option StructureType → Nat)
    (hasFreeSlot : Bool) (now : Nat) (playerId : PlayerId) (target : StructureTile) :
    Except RemoveRejection (StructureTile × StructureField × Nat) :=
  if !target.isLand || decide (target.ownerId ≠ some playerId) || !target.isSettled then
    .error .TILE_NOT_GARRISONED
  else
    match firstOwned target playerId (isRemovable target) STRUCTURE_FIELDS with
    | none => .error .NO_OWNED_STRUCTURE
    | some (field, held) =>
        if held.status = .under_construction then .error .CANCEL_CONSTRUCTION_INSTEAD
        else if held.status = .removing then .error .ALREADY_BEING_REMOVED
        else if !hasFreeSlot then .error .DEVELOPMENT_SLOTS_BUSY
        else
          let removeDurationMs := structureRemovalDurationMs manpowerCost held.type
          .ok
            (target.setStructure field
              (some
                { held with
                  status := .removing
                  previousStatus := some (removalPreviousStatus field held)
                  startedAt := some now
                  completesAt := some (now + removeDurationMs) }),
              field, removeDurationMs)

def isInWork (_ : StructureField) (held : TileStructure) : Bool :=
  decide (held.status = .under_construction) || decide (held.status = .removing)

def cancelledConstruction (field : StructureField) (held : TileStructure) : Option TileStructure :=
  match field with
  | .fort => standingFortAfterLostUpgrade held
  | .observatory | .siegeBattery | .economicStructure => none

def cancelledRemoval (field : StructureField) (held : TileStructure) : TileStructure :=
  let fallback := if field = .economicStructure then StructureStatus.inactive else .active
  { held with
    status := held.previousStatus.getD fallback
    previousStatus := none
    completesAt := none
    startedAt := none }

def cancelStructureActionTile (target : StructureTile) (playerId : PlayerId) :
    Option (StructureTile × StructureField) :=
  match firstOwned target playerId isInWork STRUCTURE_FIELDS with
  | none => none
  | some (field, held) =>
      if held.status = .under_construction then
        some (target.setStructure field (cancelledConstruction field held), field)
      else some (target.setStructure field (some (cancelledRemoval field held)), field)

def isBeingRemoved (_ : StructureField) (held : TileStructure) : Bool :=
  decide (held.status = .removing)

/-- The structure a firing timer would delete. -/
def removalTarget (latest : StructureTile) (ownerId : PlayerId) :
    Option (StructureField × TileStructure) :=
  if latest.ownerId = some ownerId then
    firstOwned latest ownerId isBeingRemoved STRUCTURE_FIELDS
  else none

def isStripped (field : StructureField) (held : TileStructure) : Bool :=
  decide (field = .economicStructure) && decide (held.type = some .RECLAMATION_WORKS)
    && decide (0 < held.salvageLoadsShipped)

def completeStructureRemoval (latest : StructureTile) (ownerId : PlayerId) :
    Option (StructureTile × StructureField × TileStructure) :=
  match removalTarget latest ownerId with
  | none => none
  | some (field, held) =>
      let cleared := latest.setStructure field none
      some
        (if isStripped field held then { cleared with resource := none } else cleared, field, held)

/-! ## §2. Runs. -/

/-- What anything else may write in one place of the tile: a structure that
is not being removed.  Removals are marked by the handler alone. -/
inductive FieldWrite where
  | keep
  | clear
  | put (held : TileStructure) (standing : held.status ≠ .removing)

def FieldWrite.value (current : Option TileStructure) : FieldWrite → Option TileStructure
  | .keep => current
  | .clear => none
  | .put held _ => some held

/-- Captures, abandonment, builds: new owner, new ground, new structures. -/
structure TileWrite where
  ownerId : Option PlayerId
  isLand : Bool
  isSettled : Bool
  hasWatchtowerEngine : Bool
  resource : Option String
  fields : StructureField → FieldWrite

def TileWrite.apply (write : TileWrite) (tile : StructureTile) : StructureTile where
  ownerId := write.ownerId
  isLand := write.isLand
  isSettled := write.isSettled
  hasWatchtowerEngine := write.hasWatchtowerEngine
  resource := write.resource
  structures := fun field => (write.fields field).value (tile.structures field)

/-- A timer of `scheduleAfter`; `removal` numbers the removal that armed
it. -/
structure RemovalTimer where
  removal : Nat
  ownerId : PlayerId
  dueAt : Nat
  deriving DecidableEq

/-- One deletion: when, by which removal's timer, the stamp of the structure
deleted, and whether the timer's removal had been cancelled. -/
structure Deletion where
  deletedAt : Nat
  removal : Nat
  completesAt : Option Nat
  cancelled : Bool
  deriving DecidableEq

/-- The tile and its timers.  The last four fields only record: the next
number, the removal in progress in each place, the cancelled removals and
the deletions. -/
structure RemovalState where
  now : Nat
  tile : StructureTile
  timers : List RemovalTimer
  nextRemoval : Nat
  inProgress : StructureField → Option Nat
  cancelled : List Nat
  deletions : List Deletion

inductive RemovalOp where
  | wait (ms : Nat)
  | remove (playerId : PlayerId) (hasFreeSlot : Bool)
  | cancel (playerId : PlayerId)
  | fire (index : Nat)
  | write (write : TileWrite)

variable (manpowerCost : Option StructureType → Nat)

def stepRemove (playerId : PlayerId) (hasFreeSlot : Bool) (state : RemovalState) : RemovalState :=
  match handleRemoveStructureCommand manpowerCost hasFreeSlot state.now playerId state.tile with
  | .error _ => state
  | .ok (tile, field, removeDurationMs) =>
      { state with
        tile := tile
        timers := state.timers ++ [⟨state.nextRemoval, playerId, state.now + removeDurationMs⟩]
        nextRemoval := state.nextRemoval + 1
        inProgress := Function.update state.inProgress field (some state.nextRemoval) }

def stepCancel (playerId : PlayerId) (state : RemovalState) : RemovalState :=
  match cancelStructureActionTile state.tile playerId with
  | none => state
  | some (tile, field) =>
      { state with
        tile := tile
        inProgress := Function.update state.inProgress field none
        cancelled := state.cancelled ++ (state.inProgress field).toList }

def stepFire (index : Nat) (timer : RemovalTimer) (state : RemovalState) : RemovalState :=
  match completeStructureRemoval state.tile timer.ownerId with
  | none => { state with timers := state.timers.eraseIdx index }
  | some (tile, field, held) =>
      { state with
        tile := tile
        timers := state.timers.eraseIdx index
        inProgress := Function.update state.inProgress field none
        deletions := state.deletions
          ++ [⟨state.now, timer.removal, held.completesAt,
                decide (timer.removal ∈ state.cancelled)⟩] }

/-- The timer at `index`, if it is due. -/
def dueTimer (state : RemovalState) (index : Nat) : Option RemovalTimer :=
  (state.timers[index]?).filter fun timer => decide (timer.dueAt ≤ state.now)

def isKept : FieldWrite → Bool
  | .keep => true
  | .clear | .put _ _ => false

def RemovalState.step (state : RemovalState) : RemovalOp → RemovalState
  | .wait ms => { state with now := state.now + ms }
  | .remove playerId hasFreeSlot => stepRemove manpowerCost playerId hasFreeSlot state
  | .cancel playerId => stepCancel playerId state
  | .fire index =>
      match dueTimer state index with
      | none => state
      | some timer => stepFire index timer state
  | .write write =>
      { state with
        tile := write.apply state.tile
        inProgress := fun field =>
          if isKept (write.fields field) then state.inProgress field else none }

/-! ## §3. What a removal promises. -/

/-- Not before the stamp, and not by a cancelled removal. -/
def Deletion.Sound (deletion : Deletion) : Prop :=
  deletion.cancelled = false
    ∧ ∃ completesAt, deletion.completesAt = some completesAt ∧ completesAt ≤ deletion.deletedAt

def DeletionsSound (state : RemovalState) : Prop := ∀ deletion ∈ state.deletions, deletion.Sound

/-- A timer that fires while its player has a removal in progress on the
tile is the one that removal armed. -/
def FiresForItself (state : RemovalState) : RemovalOp → Prop
  | .fire index => ∀ timer, dueTimer state index = some timer →
      ∀ field held, removalTarget state.tile timer.ownerId = some (field, held) →
        state.inProgress field = some timer.removal
  | .wait _ | .remove _ _ | .cancel _ | .write _ => True

/-- A tile with nothing in removal and no timer armed. -/
structure RemovalState.Initial (state : RemovalState) : Prop where
  timers : state.timers = []
  inProgress : ∀ field, state.inProgress field = none
  deletions : state.deletions = []
  cancelled : state.cancelled = []

/-- The timer of a removal in progress is due at the stamp, and the removal
is not cancelled. -/
structure Armed (state : RemovalState) : Prop where
  stamp : ∀ timer ∈ state.timers, ∀ field, state.inProgress field = some timer.removal →
    ∃ held, state.tile.structures field = some held ∧ held.completesAt = some timer.dueAt
  fresh : ∀ timer ∈ state.timers, timer.removal < state.nextRemoval
  live : ∀ field removal, state.inProgress field = some removal →
    removal ∉ state.cancelled ∧ removal < state.nextRemoval
  apart : ∀ f g removal, state.inProgress f = some removal → state.inProgress g = some removal →
    f = g
  old : ∀ removal ∈ state.cancelled, removal < state.nextRemoval
  sound : DeletionsSound state

/-! ## §4. Every step keeps the timers' book. -/

variable {state : RemovalState} {field : StructureField}

theorem handleRemove_ok {hasFreeSlot : Bool} {now : Nat} {playerId : PlayerId}
    {target tile : StructureTile} {ms : Nat}
    (h : handleRemoveStructureCommand manpowerCost hasFreeSlot now playerId target
      = .ok (tile, field, ms)) :
    ∃ held, tile = target.setStructure field (some held) ∧ held.completesAt = some (now + ms) := by
  unfold handleRemoveStructureCommand at h
  dsimp only at h
  split at h
  · cases h
  split at h
  · cases h
  · repeat' split at h
    all_goals cases h
    exact ⟨_, rfl, rfl⟩

theorem cancel_some {target tile : StructureTile} {playerId : PlayerId}
    (h : cancelStructureActionTile target playerId = some (tile, field)) :
    ∃ value, tile = target.setStructure field value := by
  unfold cancelStructureActionTile at h
  split at h
  · cases h
  split at h
  · cases h
    exact ⟨_, rfl⟩
  · cases h
    exact ⟨_, rfl⟩

theorem complete_some {latest tile : StructureTile} {ownerId : PlayerId} {held : TileStructure}
    (h : completeStructureRemoval latest ownerId = some (tile, field, held)) :
    removalTarget latest ownerId = some (field, held)
      ∧ tile.structures = (latest.setStructure field none).structures := by
  unfold completeStructureRemoval at h
  cases hfound : removalTarget latest ownerId with
  | none => rw [hfound] at h; cases h
  | some found =>
      obtain ⟨foundField, foundHeld⟩ := found
      rw [hfound] at h
      cases h
      refine ⟨rfl, ?_⟩
      split <;> rfl

theorem removalTarget_stands {latest : StructureTile} {ownerId : PlayerId} {held : TileStructure}
    (h : removalTarget latest ownerId = some (field, held)) :
    latest.structures field = some held := by
  unfold removalTarget at h
  split at h
  · exact (firstOwned_some h).1
  · cases h

theorem Armed.remove (h : Armed state) (playerId : PlayerId) (hasFreeSlot : Bool) :
    Armed (stepRemove manpowerCost playerId hasFreeSlot state) := by
  unfold stepRemove
  split
  · exact h
  rename_i tile field ms hok
  obtain ⟨held, rfl, hstamp⟩ := handleRemove_ok manpowerCost hok
  -- The new number is above every timer's and every removal's in progress.
  have hnew : ∀ f, state.inProgress f ≠ some state.nextRemoval := by
    intro f hf
    have := (h.live f _ hf).2
    omega
  refine { stamp := ?_, fresh := ?_, live := ?_, apart := ?_, old := ?_, sound := h.sound }
  · intro timer htimer f hf
    rcases List.mem_append.mp htimer with hold | hadded
    · have hne : f ≠ field := by
        rintro rfl
        have hid : state.nextRemoval = timer.removal := by simpa using hf
        have := h.fresh timer hold
        omega
      obtain ⟨was, hwas, hdue⟩ := h.stamp timer hold f (by simpa [hne] using hf)
      exact ⟨was, by simpa [hne] using (state.tile.setStructure_of_ne hne _).trans hwas, hdue⟩
    · obtain rfl := List.mem_singleton.mp hadded
      by_cases hfield : f = field
      · subst hfield
        exact ⟨held, state.tile.setStructure_self f _, hstamp⟩
      · exact absurd (by simpa [hfield] using hf) (hnew f)
  · intro timer htimer
    show timer.removal < state.nextRemoval + 1
    rcases List.mem_append.mp htimer with hold | hadded
    · have := h.fresh timer hold
      omega
    · obtain rfl := List.mem_singleton.mp hadded
      exact Nat.lt_succ_self _
  · intro f removal hf
    show removal ∉ state.cancelled ∧ removal < state.nextRemoval + 1
    by_cases hfield : f = field
    · subst hfield
      have hid : state.nextRemoval = removal := by simpa using hf
      refine ⟨fun hmem => ?_, by omega⟩
      have := h.old removal hmem
      omega
    · obtain ⟨hlive, hlt⟩ := h.live f removal (by simpa [hfield] using hf)
      exact ⟨hlive, by omega⟩
  · intro f g removal hf hg
    by_cases hff : f = field <;> by_cases hgf : g = field
    · rw [hff, hgf]
    · subst hff
      have hid : state.nextRemoval = removal := by simpa using hf
      exact absurd (by simpa [hgf, hid] using hg) (hnew g)
    · subst hgf
      have hid : state.nextRemoval = removal := by simpa using hg
      exact absurd (by simpa [hff, hid] using hf) (hnew f)
    · exact h.apart f g removal (by simpa [hff] using hf) (by simpa [hgf] using hg)
  · intro removal hmem
    show removal < state.nextRemoval + 1
    have := h.old removal hmem
    omega

theorem Armed.cancel (h : Armed state) (playerId : PlayerId) :
    Armed (stepCancel playerId state) := by
  unfold stepCancel
  split
  · exact h
  rename_i tile field hsome
  obtain ⟨value, rfl⟩ := cancel_some hsome
  -- What is still in progress is in another place.
  have hother : ∀ {f removal}, Function.update state.inProgress field none f = some removal →
      f ≠ field ∧ state.inProgress f = some removal := by
    intro f removal hf
    have hne : f ≠ field := by
      rintro rfl
      simp at hf
    exact ⟨hne, by simpa [hne] using hf⟩
  refine { stamp := ?_, fresh := h.fresh, live := ?_, apart := ?_, old := ?_, sound := h.sound }
  · intro timer htimer f hf
    obtain ⟨hne, hwas⟩ := hother hf
    obtain ⟨held, hheld, hdue⟩ := h.stamp timer htimer f hwas
    exact ⟨held, (state.tile.setStructure_of_ne hne _).trans hheld, hdue⟩
  · intro f removal hf
    obtain ⟨hne, hwas⟩ := hother hf
    obtain ⟨hlive, hlt⟩ := h.live f removal hwas
    refine ⟨fun hmem => ?_, hlt⟩
    rcases List.mem_append.mp hmem with hold | hadded
    · exact hlive hold
    · exact hne (h.apart f field removal hwas (by simpa using hadded))
  · intro f g removal hf hg
    exact h.apart f g removal (hother hf).2 (hother hg).2
  · intro removal hmem
    rcases List.mem_append.mp hmem with hold | hadded
    · exact h.old removal hold
    · exact (h.live field removal (by simpa using hadded)).2

theorem Armed.fire (h : Armed state) {index : Nat} {timer : RemovalTimer}
    (hdue : dueTimer state index = some timer) (hmeet : FiresForItself state (.fire index)) :
    Armed (stepFire index timer state) := by
  obtain ⟨hat, hpast⟩ := Option.filter_eq_some_iff.mp hdue
  have htimer : timer ∈ state.timers := List.mem_of_getElem? hat
  have hpast : timer.dueAt ≤ state.now := by simpa using hpast
  have hkept : ∀ t ∈ state.timers.eraseIdx index, t ∈ state.timers :=
    fun t ht => List.mem_of_mem_eraseIdx ht
  unfold stepFire
  split
  · exact { h with
      stamp := fun t ht => h.stamp t (hkept t ht)
      fresh := fun t ht => h.fresh t (hkept t ht) }
  · rename_i tile field held hsome
    obtain ⟨hfound, htile⟩ := complete_some hsome
    have hown := hmeet timer hdue field held hfound
    have hother : ∀ {f removal}, Function.update state.inProgress field none f = some removal →
        f ≠ field ∧ state.inProgress f = some removal := by
      intro f removal hf
      have hne : f ≠ field := by
        rintro rfl
        simp at hf
      exact ⟨hne, by simpa [hne] using hf⟩
    refine { stamp := ?_, fresh := fun t ht => h.fresh t (hkept t ht), live := ?_, apart := ?_,
             old := h.old, sound := ?_ }
    · intro t ht f hf
      obtain ⟨hne, hwas⟩ := hother hf
      obtain ⟨was, hstands, hstamp⟩ := h.stamp t (hkept t ht) f hwas
      refine ⟨was, ?_, hstamp⟩
      show tile.structures f = some was
      rw [htile]
      exact (state.tile.setStructure_of_ne hne _).trans hstands
    · intro f removal hf
      exact h.live f removal (hother hf).2
    · intro f g removal hf hg
      exact h.apart f g removal (hother hf).2 (hother hg).2
    · intro deletion hmem
      rcases List.mem_append.mp hmem with hold | hadded
      · exact h.sound deletion hold
      · -- The deletion made now: the timer is the one the removal armed.
        obtain rfl := List.mem_singleton.mp hadded
        obtain ⟨was, hstands, hstamp⟩ := h.stamp timer htimer field hown
        have hsame : was = held :=
          Option.some.inj (hstands.symm.trans (removalTarget_stands hfound))
        subst hsame
        refine ⟨?_, timer.dueAt, hstamp, hpast⟩
        simpa using (h.live field timer.removal hown).1

theorem Armed.write {state : RemovalState} (h : Armed state) (write : TileWrite) :
    Armed (state.step manpowerCost (.write write)) := by
  have hkept : ∀ {f removal},
      (if isKept (write.fields f) then state.inProgress f else none) = some removal →
        isKept (write.fields f) = true ∧ state.inProgress f = some removal := by
    intro f removal hf
    split at hf
    · exact ⟨by assumption, hf⟩
    · cases hf
  refine { stamp := ?_, fresh := h.fresh, live := ?_, apart := ?_, old := h.old, sound := h.sound }
  · intro timer htimer f hf
    obtain ⟨hkeep, hwas⟩ := hkept hf
    obtain ⟨held, hheld, hdue⟩ := h.stamp timer htimer f hwas
    refine ⟨held, ?_, hdue⟩
    show (write.fields f).value (state.tile.structures f) = some held
    cases hfield : write.fields f with
    | keep => exact hheld
    | clear => simp [hfield, isKept] at hkeep
    | put => simp [hfield, isKept] at hkeep
  · intro f removal hf
    exact h.live f removal (hkept hf).2
  · intro f g removal hf hg
    exact h.apart f g removal (hkept hf).2 (hkept hg).2

/-- **Step lemma**: a step whose timer fires for its own removal keeps the
book. -/
theorem Armed.step {state : RemovalState} (h : Armed state) (op : RemovalOp)
    (hmeet : FiresForItself state op) : Armed (state.step manpowerCost op) := by
  cases op with
  | wait ms => exact { h with }
  | remove playerId hasFreeSlot => exact h.remove manpowerCost playerId hasFreeSlot
  | cancel playerId => exact h.cancel playerId
  | write write => exact h.write manpowerCost write
  | fire index =>
      show Armed (match dueTimer state index with
        | none => state
        | some timer => stepFire index timer state)
      cases hdue : dueTimer state index with
      | none => exact h
      | some timer => exact h.fire hdue hmeet

theorem RemovalState.Initial.armed (h : state.Initial) : Armed state where
  stamp := by simp [h.timers]
  fresh := by simp [h.timers]
  live := by simp [h.inProgress]
  apart := by simp [h.inProgress]
  old := by simp [h.cancelled]
  sound := by simp [DeletionsSound, h.deletions]

/-! ## §5. Runs. -/

/-- **A removal deletes at its stamp or later, and a cancelled one never**:
all along every run in which a timer that finds a removal in progress is
the one that removal armed. -/
theorem removal_sound (state : RemovalState) (hinit : state.Initial) (ops : List RemovalOp)
    (hmeet : Run.StepsMeet (RemovalState.step manpowerCost) FiresForItself state ops) :
    Run.Along (RemovalState.step manpowerCost) DeletionsSound state ops := by
  have hrun : Run.Along (RemovalState.step manpowerCost) Armed state ops :=
    Run.along_of_stepsMeet (fun s op hs hop => hs.step manpowerCost op hop) ops state hinit.armed
      hmeet
  exact Run.Along.mono (fun s hs => hs.sound) ops state hrun

def standingFort : TileStructure where
  ownerId := playerOne
  type := some .FORT
  status := .active
  previousStatus := none
  startedAt := none
  completesAt := none
  pausedAt := none
  activatedAt := none
  upgradingFrom := none
  salvageLoadsShipped := 0

/-- A settled tile with a standing fort, nothing in removal. -/
def fortAlone : RemovalState where
  now := 0
  tile :=
    { ownerId := some playerOne
      isLand := true
      isSettled := true
      hasWatchtowerEngine := false
      resource := none
      structures := fun field => if field = .fort then some standingFort else none }
  timers := []
  nextRemoval := 0
  inProgress := fun _ => none
  cancelled := []
  deletions := []

theorem fortAlone_initial : fortAlone.Initial := ⟨rfl, fun _ => rfl, rfl, rfl⟩

/-- Removed at 0 and cancelled at 10 s, its timer past at 30 s; then removed
again. -/
def cancelledThenRemoved : List RemovalOp :=
  [.remove playerOne true, .wait 10000, .cancel playerOne, .wait 20000, .fire 0,
    .remove playerOne true, .wait 30000]

/-- The first timer finds nothing, the second deletes the fort. -/
theorem removal_sound_cancelled :
    Run.Along (RemovalState.step fun _ => 80) DeletionsSound fortAlone
        (cancelledThenRemoved ++ [RemovalOp.fire 0])
      ∧ ((cancelledThenRemoved ++ [RemovalOp.fire 0]).foldl (RemovalState.step fun _ => 80)
          fortAlone).deletions = [⟨60000, 1, some 60000, false⟩] := by
  refine ⟨removal_sound (fun _ => 80) fortAlone fortAlone_initial _
    ⟨trivial, trivial, trivial, trivial, fun timer hdue field held hfound => ?_, trivial, trivial,
      fun timer hdue field held hfound => ?_, trivial⟩, by decide⟩
  · have htimer : timer = ⟨0, playerOne, 30000⟩ := by
      have hthere : dueTimer ((cancelledThenRemoved.take 4).foldl
          (RemovalState.step fun _ => 80) fortAlone) 0 = some ⟨0, playerOne, 30000⟩ := by decide
      exact Option.some.inj (hdue.symm.trans hthere)
    subst htimer
    have hnone : (removalTarget ((cancelledThenRemoved.take 4).foldl
        (RemovalState.step fun _ => 80) fortAlone).tile playerOne).map Prod.fst = none := by decide
    cases (congrArg (Option.map Prod.fst) hfound).symm.trans hnone
  · have htimer : timer = ⟨1, playerOne, 60000⟩ := by
      have hthere : dueTimer (cancelledThenRemoved.foldl
          (RemovalState.step fun _ => 80) fortAlone) 0 = some ⟨1, playerOne, 60000⟩ := by decide
      exact Option.some.inj (hdue.symm.trans hthere)
    subst htimer
    have hfort : field = .fort := by
      have hthere : (removalTarget (cancelledThenRemoved.foldl (RemovalState.step fun _ => 80)
          fortAlone).tile playerOne).map Prod.fst = some .fort := by decide
      exact Option.some.inj ((congrArg (Option.map Prod.fst) hfound).symm.trans hthere)
    subst hfort
    rfl

/-- Removed at 0, cancelled at 10 s and removed again at 20 s, to be gone at
50 s: the first removal's timer deletes the fort at 30 s. -/
theorem removal_not_sound :
    (([.remove playerOne true, .wait 10000, .cancel playerOne, .wait 10000,
        .remove playerOne true, .wait 10000, .fire 0] : List RemovalOp).foldl
          (RemovalState.step fun _ => 80) fortAlone).deletions = [⟨30000, 0, some 50000, true⟩]
      ∧ ¬ Run.Along (RemovalState.step fun _ => 80) DeletionsSound fortAlone
          [.remove playerOne true, .wait 10000, .cancel playerOne, .wait 10000,
            .remove playerOne true, .wait 10000, .fire 0] := by
  refine ⟨by decide, fun h => ?_⟩
  have hlast : DeletionsSound _ := h.2.2.2.2.2.2.2
  have hsound := hlast ⟨30000, 0, some 50000, true⟩ (by decide)
  exact absurd hsound.1 (by decide)

end BorderEmpires.Structures
