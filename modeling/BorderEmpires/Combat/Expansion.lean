/-
  BorderEmpires.Combat.Expansion
  **WHAT AN EXPANSION FINDS WHEN IT RESOLVES.**

  An EXPAND is validated against a neutral target, and resolves for certain
  up to minutes later.  `TargetsOpen`: the target of every expansion that
  holds its slot is still neutral, or already its player's.  The fights
  over the tile itself cannot break this, because the tile has one slot;
  what can is a tile handed over past the slot: a reach claim, a launch
  tile lost to a defender, the aftermath of another fight, or any change
  of territory from outside.
-/
import BorderEmpires.Combat.Lifecycle
import BorderEmpires.Combat.Territory

namespace BorderEmpires.Combat

open CombatState

variable {W : WorldSize}

/-! ## §1. Statements. -/

def OpenTo (s : CombatState W) (key : TileKey W) (p : PlayerId) : Prop :=
  s.ownerAt key = none ∨ s.ownerAt key = some p

/-- **No tile of another player is taken**: an expansion that a step resolves
finds its target neutral or its own. -/
def TakesNeutral (s : CombatState W) (e : Event W) : Prop :=
  ∀ lock, resolvingLock s e = some lock → lock.actionType = .EXPAND →
    s.locksByTile.ownsTargetSlot lock = true → OpenTo s lock.targetKey lock.playerId

/-- **What a step must meet**: an accepted command id is new, and no tile
that another player is expanding to is handed over, the fight over the tile
itself apart. -/
def LeavesExpansions (s : CombatState W) (e : Event W) : Prop :=
  FreshCommand s e ∧ ∀ g ∈ gives s e, ∀ holder,
    s.locksByTile.targets.get g.1 = some holder → holder.actionType = .EXPAND →
      g.2 = holder.playerId

theorem leavesExpansions_of_nil {s : CombatState W} {e : Event W} (hfresh : FreshCommand s e)
    (h : gives s e = []) : LeavesExpansions s e := by
  refine ⟨hfresh, fun g hg => ?_⟩
  rw [h] at hg
  exact absurd hg List.not_mem_nil

def TargetsOpen (s : CombatState W) : Prop :=
  ∀ key lock, s.locksByTile.targets.get key = some lock → lock.actionType = .EXPAND →
    OpenTo s key lock.playerId

/-! ## §2. Slots after a step. -/

theorem Books.targets_of_giveUps (locks : List (LockRecord W)) :
    ∀ {b : Books W} {key : TileKey W} {l : LockRecord W},
      (locks.foldl Books.giveUp b).locksByTile.targets.get key = some l →
      b.locksByTile.targets.get key = some l := by
  induction locks with
  | nil =>
      intro b key l h
      exact h
  | cons lock rest ih =>
      intro b key l h
      have hrest := ih (b := b.giveUp lock) h
      rw [Books.giveUp_locksByTile] at hrest
      exact (CombatLockIndex.targets_of_removeLock hrest).1

theorem BooksMove.targets_of_apply {b : Books W} {m : BooksMove W} {key : TileKey W}
    {l : LockRecord W} (h : (m.apply b).locksByTile.targets.get key = some l) :
    b.locksByTile.targets.get key = some l ∨ (m = .accept l ∧ l.targetKey = key) := by
  cases m with
  | still => exact Or.inl h
  | accept lock =>
      have hadd : (b.accept lock).locksByTile.targets.get key = some l := h
      rw [Books.accept_locksByTile] at hadd
      rcases CombatLockIndex.targets_of_addLock hadd with ⟨rfl, hkey⟩ | hold
      · exact Or.inr ⟨rfl, hkey⟩
      · exact Or.inl hold
  | fire i lock event =>
      have hresolve : ((b.disarm i).resolve lock event).locksByTile.targets.get key = some l := h
      rw [Books.resolve_locksByTile] at hresolve
      exact Or.inl (CombatLockIndex.targets_of_removeLock hresolve).1
  | rush lock event =>
      have hresolve : (b.resolve lock event).locksByTile.targets.get key = some l := h
      rw [Books.resolve_locksByTile] at hresolve
      exact Or.inl (CombatLockIndex.targets_of_removeLock hresolve).1
  | cancel locks event => exact Or.inl (Books.targets_of_giveUps locks h)
  | sweep locks => exact Or.inl (Books.targets_of_giveUps locks h)
  | meet playerId => exact Or.inl h
  | wait ms => exact Or.inl h

theorem index_of_resolvingLock {s : CombatState W} {e : Event W} {lock : LockRecord W}
    (h : resolvingLock s e = some lock) :
    (step s e).locksByTile = s.locksByTile.removeLock lock := by
  have hbooks : (step s e).locksByTile = ((moveOf s e).apply s.books).locksByTile :=
    congrArg Books.locksByTile (books_step s e)
  rw [hbooks]
  cases e with
  | timer ctx i =>
      unfold resolvingLock at h
      unfold moveOf
      dsimp only at h ⊢
      rw [h]
      exact Books.resolve_locksByTile (s.books.disarm i) lock _
  | rushBuy ctx price commandId playerId targetKey =>
      unfold resolvingLock at h
      unfold moveOf
      dsimp only at h ⊢
      rw [h]
      exact Books.resolve_locksByTile s.books lock _
  | _ => cases h

theorem not_fought_of_targets {s : CombatState W} {e : Event W} {key : TileKey W}
    {l : LockRecord W} {p : PlayerId} (h : (step s e).locksByTile.targets.get key = some l) :
    (key, p) ∉ foughtOver s e := by
  unfold foughtOver foughtFor
  cases hlock : resolvingLock s e with
  | none => exact List.not_mem_nil
  | some lock =>
      dsimp only
      rw [index_of_resolvingLock hlock] at h
      have hfree := (CombatLockIndex.targets_of_removeLock h).2
      split
      next howns =>
        intro hmem
        rw [List.mem_singleton] at hmem
        exact hfree ⟨howns, (Prod.mk.inj hmem).1.symm⟩
      · exact List.not_mem_nil

/-! ## §3. A new expansion. -/

theorem accepted_expand_neutral {s : CombatState W} {e : Event W} {lock : LockRecord W}
    (h : moveOf s e = .accept lock) (hexpand : lock.actionType = .EXPAND) :
    s.ownerAt lock.targetKey = none ∧ gives s e = [] := by
  obtain ⟨ctx, command, actionType, baseLock, rfl, hv, rfl⟩ := accepted_of_move h
  obtain ⟨_, _, htype, _, _, htarget, _⟩ := rolledLock_fields ctx
    (chargeExpansion (reserveForAttack (regenerated ctx s command) baseLock) baseLock) baseLock
  have hbase : baseLock.actionType = .EXPAND := htype.symm.trans hexpand
  have hkey : (storedLock ctx (regenerated ctx s command) baseLock).targetKey
      = baseLock.targetKey := htarget
  refine ⟨?_, ?_⟩
  · rw [hkey]
    cases frontierVerdict_accepted hv with
    | intro payload actor fromKey toKey fromTile toTile isAlliedDock acceptance hactor
        hpayload hfrom hto hvalid =>
        have hneutral := (validateFrontierCommand_ok hvalid).expandsNeutral hbase
        rw [tiles_regenerated] at hto
        show (s.tiles.get toKey).bind _ = none
        rw [hto]
        exact hneutral
  · show frontierGives ctx s command actionType = []
    unfold frontierGives
    rw [hv]

/-! ## §4. Every run. -/

/-- **Step lemma**: open targets stay open. -/
theorem targetsOpen_step (s : CombatState W) (e : Event W) (hopen : TargetsOpen s)
    (hmeet : LeavesExpansions s e) : TargetsOpen (step s e) := by
  intro key l hslot hexpand
  have hmove : ((moveOf s e).apply s.books).locksByTile.targets.get key = some l := by
    rw [← books_step]
    exact hslot
  have hbefore : OpenTo s key l.playerId := by
    rcases BooksMove.targets_of_apply hmove with hold | ⟨hnew, hkey⟩
    · exact hopen key l hold hexpand
    · rw [← hkey]
      exact Or.inl (accepted_expand_neutral hnew hexpand).1
  rcases hands_step s e key with hsame | hnone | ⟨p, howner, hmem⟩
  · unfold OpenTo
    rw [hsame]
    exact hbefore
  · exact Or.inl hnone
  · rcases List.mem_append.mp hmem with hfought | hgiven
    · exact absurd hfought (not_fought_of_targets hslot)
    · refine Or.inr ?_
      rw [howner]
      rcases BooksMove.targets_of_apply hmove with hold | ⟨hnew, hkey⟩
      · exact congrArg some (hmeet.2 (key, p) hgiven l hold hexpand)
      · rw [(accepted_expand_neutral hnew hexpand).2] at hgiven
        exact absurd hgiven List.not_mem_nil

theorem sole_of_resolvingLock {s : CombatState W} {e : Event W} (hlife : s.books.LockLife)
    {lock : LockRecord W} (h : resolvingLock s e = some lock) : s.books.Sole lock := by
  have hsound := moveOf_sound s e
  cases e with
  | timer ctx i =>
      unfold resolvingLock at h
      unfold moveOf at hsound
      dsimp only at h hsound
      rw [h] at hsound
      obtain ⟨⟨dueAt, htimer⟩, _⟩ := hsound
      exact hlife.armedAgrees _ (List.mem_of_getElem? htimer)
  | rushBuy ctx price commandId playerId targetKey =>
      unfold resolvingLock at h
      unfold moveOf at hsound
      dsimp only at h hsound
      rw [h] at hsound
      obtain ⟨_, ⟨key, hslot⟩, _⟩ := hsound
      exact Books.sole_of_live (hlife.slots key lock hslot).2
  | _ => cases h

theorem takesNeutral_of_targetsOpen {s : CombatState W} (hlife : s.books.LockLife)
    (hopen : TargetsOpen s) (e : Event W) : TakesNeutral s e := by
  intro lock hlock hexpand howns
  obtain ⟨holder, hslot, hid⟩ := (CombatLockIndex.ownsTargetSlot_iff s.locksByTile lock).mp howns
  have hlive := (hlife.slots _ holder hslot).2
  -- the slot holder has the lock's command id, so it is the lock
  have hsame : holder = lock := by
    refine sole_of_resolvingLock hlife hlock holder ?_
    rw [← hid]
    exact hlive
  rw [hsame] at hslot
  exact hopen lock.targetKey lock hslot hexpand

/-- **Over every run** whose steps leave the targets of pending expansions
alone, no expansion takes another player's tile. -/
theorem expansions_take_neutral (now : Int) (players : InsertionMap PlayerId DomainPlayer)
    (tiles : InsertionMap (TileKey W) (DomainTileState W))
    (flags : InsertionMap PlayerId (List (TileKey W))) (events : List (Event W))
    (hmeet : Run.StepsMeet step LeavesExpansions (.opening now players tiles flags) events) :
    Run.StepsMeet step TakesNeutral (.opening now players tiles flags) events := by
  have hinv : Run.Along step (fun s => s.books.LockLife ∧ TargetsOpen s)
      (.opening now players tiles flags) events := by
    refine Run.along_of_stepsMeet (C := LeavesExpansions) ?_ events _
      ⟨opening_lockLife now players tiles flags, ?_⟩ hmeet
    · intro s e hs hstep
      exact ⟨lockLife_step s e hs.1 hstep.1, targetsOpen_step s e hs.2 hstep⟩
    · intro key lock h
      exact absurd h (by simp [CombatState.opening, CombatLockIndex.empty])
  refine Run.StepsMeet.of_along (fun s e hs _ => ?_) events _ hinv hmeet
  exact takesNeutral_of_targetsOpen hs.1 hs.2 e

def expandLock : LockRecord smallestWorld where
  commandId := "expand"
  playerId := playerOne
  actionType := .EXPAND
  manpowerCost := expandPrice
  originKey := borderKey 1 1
  targetKey := borderKey 1 2
  resolvesAt := 20000
  source := .player
  combatResolution := none
  musterSourceKey := none
  barbarianLaunch := false

/-- An expansion that nothing disturbs. -/
theorem expansions_take_neutral_quiet :
    Run.StepsMeet step TakesNeutral border
      [.frontier quietFrontier (orderTo "expand" (borderKey 1 2)) .EXPAND, .wait 20000,
        .timer quietResolution 0] := by
  have hmove : moveOf border (.frontier quietFrontier
      (orderTo "expand" (borderKey 1 2)) .EXPAND) = .accept expandLock := rfl
  have hfresh : FreshCommand border (.frontier quietFrontier
      (orderTo "expand" (borderKey 1 2)) .EXPAND) := by
    unfold FreshCommand
    rw [hmove]
    rfl
  exact expansions_take_neutral _ _ _ _ _
    ⟨leavesExpansions_of_nil hfresh (by decide +kernel), leavesExpansions_of_nil trivial rfl,
      leavesExpansions_of_nil (freshCommand_timer _ _ _) (by decide +kernel), trivial⟩

/-- Player two's reach claims the tile player one is expanding to; the
expansion takes it all the same. -/
theorem reach_claim_is_overrun :
    ¬ Run.StepsMeet step TakesNeutral border
      [.frontier quietFrontier (orderTo "expand" (borderKey 1 2)) .EXPAND,
        .reachAutoClaim "reach" playerTwo [borderKey 1 2], .wait 20000,
        .timer quietResolution 0] := by
  intro h
  have htaken := h.2.2.2.1 expandLock (by decide +kernel) rfl (by decide +kernel)
  revert htaken
  unfold OpenTo
  decide +kernel

end BorderEmpires.Combat
