/-
  BorderEmpires.Combat.Lifecycle
  **THE LIFE OF A LOCK: ACCEPTED, ARMED, LIVE, GONE.**

  A lock is accepted once under its command id, its timer keeps the record
  it was armed with, and whatever is live under that id is that record.
  Replayed command ids are turned away before they reach the handler, so
  the step condition `FreshCommand` asks that an accepted command id was
  not accepted before; under it `LockLife` holds in every state of a run.
-/
import BorderEmpires.Combat.Runs

namespace BorderEmpires.Combat

open CombatState

variable {W : WorldSize}

/-! ## §1. Every lock stays under its own command id. -/

namespace Books

variable (b : Books W)

theorem holdCost_locksByTile (lock : LockRecord W) :
    ((b.holdCost lock).holdShield lock).locksByTile = b.locksByTile := by
  unfold holdShield holdCost
  cases lock.shield <;> cases lock.actionType <;> cases lock.musterSourceKey <;> rfl

theorem accept_locksByTile (lock : LockRecord W) :
    (b.accept lock).locksByTile = b.locksByTile.addLock lock := by
  show ((b.holdCost lock).holdShield lock).locksByTile.addLock lock = _
  rw [holdCost_locksByTile]

theorem release_locksByTile (lock : LockRecord W) :
    (b.release lock).locksByTile = b.locksByTile.removeLock lock := by
  unfold release debitShield debitCost
  cases lock.shield <;> cases lock.musterSourceKey <;> rfl

theorem refund_locksByTile (lock : LockRecord W) : (b.refund lock).locksByTile = b.locksByTile := by
  unfold refund
  split <;> rfl

theorem resolve_locksByTile (lock : LockRecord W) (event : SimulationEvent W) :
    (b.resolve lock event).locksByTile = b.locksByTile.removeLock lock := by
  unfold resolve
  split
  · exact release_locksByTile b lock
  · rw [refund_locksByTile, release_locksByTile]

theorem giveUp_locksByTile (lock : LockRecord W) :
    (b.giveUp lock).locksByTile = b.locksByTile.removeLock lock :=
  refund_locksByTile (b.drop lock) lock

theorem keyed_giveUps (locks : List (LockRecord W)) :
    ∀ b : Books W, b.locksByTile.Keyed → (locks.foldl giveUp b).locksByTile.Keyed := by
  induction locks with
  | nil =>
      intro b h
      exact h
  | cons lock rest ih =>
      intro b h
      refine ih _ ?_
      rw [giveUp_locksByTile]
      exact h.removeLock lock

end Books

theorem BooksMove.keyed (b : Books W) (m : BooksMove W) (h : b.locksByTile.Keyed) :
    (m.apply b).locksByTile.Keyed := by
  cases m with
  | still => exact h
  | accept lock =>
      show (b.accept lock).locksByTile.Keyed
      rw [Books.accept_locksByTile]
      exact h.addLock lock
  | fire i lock event =>
      show ((b.disarm i).resolve lock event).locksByTile.Keyed
      rw [Books.resolve_locksByTile]
      exact CombatLockIndex.Keyed.removeLock h lock
  | rush lock event =>
      show (b.resolve lock event).locksByTile.Keyed
      rw [Books.resolve_locksByTile]
      exact h.removeLock lock
  | cancel locks event => exact Books.keyed_giveUps locks b h
  | sweep locks => exact Books.keyed_giveUps locks b h
  | meet playerId => exact h
  | wait ms => exact h

/-- **Step lemma**: the index stays keyed. -/
theorem keyed_step (s : CombatState W) (e : Event W) (hs : s.books.locksByTile.Keyed) :
    (step s e).books.locksByTile.Keyed := by
  rw [books_step]
  exact (moveOf s e).keyed s.books hs

/-! ## §2. Accepted once. -/

def acceptsId (id : CommandId) : SimulationEvent W → Bool
  | .COMMAND_ACCEPTED commandId .. => commandId = id
  | _ => false

def Books.acceptedCount (b : Books W) (id : CommandId) : Nat := b.lockEvents.countP (acceptsId id)

/-- **Locks live one life**: what is live or armed was accepted, belongs to
a known player, and is one record under its command id; and the target
slots hold live locks. -/
structure Books.LockLife (b : Books W) : Prop where
  keyed : b.locksByTile.Keyed
  slots : b.locksByTile.SlotsLive
  liveAccepted : ∀ lock, b.locksByTile.Live lock → 1 ≤ b.acceptedCount lock.commandId
  liveKnown : ∀ lock, b.locksByTile.Live lock → b.known lock.playerId = true
  liveArmed : ∀ lock, b.locksByTile.Live lock → ∃ timer ∈ b.scheduled, timer.lock = lock
  armedAccepted : ∀ timer ∈ b.scheduled, 1 ≤ b.acceptedCount timer.lock.commandId
  armedKnown : ∀ timer ∈ b.scheduled, b.known timer.lock.playerId = true
  armedAgrees : ∀ timer ∈ b.scheduled, ∀ lock,
    b.locksByTile.locksByCommandId.get timer.lock.commandId = some lock → lock = timer.lock

def BooksMove.Fresh (b : Books W) : BooksMove W → Prop
  | .accept lock => b.acceptedCount lock.commandId = 0
  | _ => True

/-- **The replay guarantee**, as a condition on a step. -/
def FreshCommand (s : CombatState W) (e : Event W) : Prop := (moveOf s e).Fresh s.books

theorem freshCommand_timer (s : CombatState W) (ctx : RuntimeLockResolutionContext W) (i : Nat) :
    FreshCommand s (.timer ctx i) := by
  unfold FreshCommand moveOf
  dsimp only
  split <;> trivial

namespace Books

variable (b : Books W)

variable (lock : LockRecord W)

theorem accept_known : (b.accept lock).known = b.known := by
  show ((b.holdCost lock).holdShield lock).known = b.known
  unfold holdShield holdCost
  cases lock.shield <;> cases lock.actionType <;> cases lock.musterSourceKey <;> rfl

theorem accept_lockEvents : (b.accept lock).lockEvents = b.lockEvents ++ [acceptedEvent lock] := by
  show ((b.holdCost lock).holdShield lock).lockEvents ++ _ = _
  unfold holdShield holdCost
  cases lock.shield <;> cases lock.actionType <;> cases lock.musterSourceKey <;> rfl

theorem accept_scheduled :
    (b.accept lock).scheduled
      = b.scheduled ++ [⟨lock, b.now + max 1 (lock.resolvesAt - b.now)⟩] := by
  show ((b.holdCost lock).holdShield lock).scheduled ++ _ = _
  unfold holdShield holdCost
  cases lock.shield <;> cases lock.actionType <;> cases lock.musterSourceKey <;> rfl

theorem accept_refunds : (b.accept lock).refunds = b.refunds := by
  show ((b.holdCost lock).holdShield lock).refunds = b.refunds
  unfold holdShield holdCost
  cases lock.shield <;> cases lock.actionType <;> cases lock.musterSourceKey <;> rfl

theorem release_fields :
    (b.release lock).known = b.known ∧ (b.release lock).scheduled = b.scheduled
      ∧ (b.release lock).lockEvents = b.lockEvents ∧ (b.release lock).refunds = b.refunds := by
  unfold release debitShield debitCost
  cases lock.shield <;> cases lock.musterSourceKey <;> exact ⟨rfl, rfl, rfl, rfl⟩

theorem refund_fields :
    (b.refund lock).known = b.known ∧ (b.refund lock).scheduled = b.scheduled
      ∧ (b.refund lock).lockEvents = b.lockEvents := by
  unfold refund
  split <;> exact ⟨rfl, rfl, rfl⟩

theorem resolve_known (event : SimulationEvent W) : (b.resolve lock event).known = b.known := by
  unfold resolve
  split
  · exact (release_fields b lock).1
  · exact (refund_fields _ lock).1.trans (release_fields b lock).1

theorem resolve_scheduled (event : SimulationEvent W) :
    (b.resolve lock event).scheduled = b.scheduled := by
  unfold resolve
  split
  · exact (release_fields b lock).2.1
  · exact (refund_fields _ lock).2.1.trans (release_fields b lock).2.1

theorem resolve_lockEvents_eq (event : SimulationEvent W) :
    (b.resolve lock event).lockEvents
      = if b.locksByTile.ownsTargetSlot lock = true then b.lockEvents ++ [event]
        else b.lockEvents := by
  unfold resolve
  split
  · show (b.release lock).lockEvents ++ [event] = _
    rw [(release_fields b lock).2.2.1]
  · exact (refund_fields _ lock).2.2.trans (release_fields b lock).2.2.1

end Books

/-! ## §3. Every move keeps the locks to one life. -/

def Books.Sole (b : Books W) (lock : LockRecord W) : Prop :=
  ∀ l, b.locksByTile.locksByCommandId.get lock.commandId = some l → l = lock

variable {b : Books W}

theorem Books.sole_of_live {lock : LockRecord W} (h : b.locksByTile.Live lock) : b.Sole lock := by
  intro l hl
  unfold CombatLockIndex.Live at h
  rw [h] at hl
  exact (Option.some.inj hl).symm

theorem CombatLockIndex.live_removeLock_iff {index : CombatLockIndex W} {lock l : LockRecord W} :
    (index.removeLock lock).Live l ↔ index.Live l ∧ l.commandId ≠ lock.commandId := by
  unfold CombatLockIndex.Live
  rw [CombatLockIndex.removeLock_locksByCommandId, InsertionMap.get_erase]
  by_cases hid : lock.commandId = l.commandId
  · rw [if_pos hid]
    exact ⟨fun h => absurd h (by simp), fun h => absurd hid.symm h.2⟩
  · rw [if_neg hid]
    exact ⟨fun h => ⟨h, fun hc => hid hc.symm⟩, fun h => h.1⟩

namespace Books.LockLife

theorem remove {b b' : Books W} (h : b.LockLife) {lock : LockRecord W} (hsole : b.Sole lock)
    (hindex : b'.locksByTile = b.locksByTile.removeLock lock) (hknown : b'.known = b.known)
    (hcount : ∀ id, b.acceptedCount id ≤ b'.acceptedCount id)
    (hsched : ∀ timer ∈ b'.scheduled, timer ∈ b.scheduled)
    (hkept : ∀ timer ∈ b.scheduled, timer.lock.commandId ≠ lock.commandId →
      timer ∈ b'.scheduled) : b'.LockLife where
  keyed := by
    rw [hindex]
    exact h.keyed.removeLock lock
  slots := by
    rw [hindex]
    exact h.slots.removeLock hsole
  liveAccepted := by
    intro l hl
    rw [hindex] at hl
    exact le_trans (h.liveAccepted l (CombatLockIndex.live_removeLock_iff.mp hl).1) (hcount _)
  liveKnown := by
    intro l hl
    rw [hindex] at hl
    rw [hknown]
    exact h.liveKnown l (CombatLockIndex.live_removeLock_iff.mp hl).1
  liveArmed := by
    intro l hl
    rw [hindex] at hl
    obtain ⟨hlive, hne⟩ := CombatLockIndex.live_removeLock_iff.mp hl
    obtain ⟨timer, htimer, hlock⟩ := h.liveArmed l hlive
    exact ⟨timer, hkept timer htimer (hlock ▸ hne), hlock⟩
  armedAccepted := by
    intro timer htimer
    exact le_trans (h.armedAccepted timer (hsched timer htimer)) (hcount _)
  armedKnown := by
    intro timer htimer
    rw [hknown]
    exact h.armedKnown timer (hsched timer htimer)
  armedAgrees := by
    intro timer htimer l hl
    rw [hindex, CombatLockIndex.removeLock_locksByCommandId, InsertionMap.get_erase] at hl
    split at hl
    · cases hl
    · exact h.armedAgrees timer (hsched timer htimer) l hl

theorem acceptedCount_accept (b : Books W) (lock : LockRecord W) (id : CommandId) :
    (b.accept lock).acceptedCount id
      = b.acceptedCount id + if lock.commandId = id then 1 else 0 := by
  unfold Books.acceptedCount
  rw [Books.accept_lockEvents, List.countP_append]
  by_cases hid : lock.commandId = id
  · rw [if_pos hid]
    simp [Books.acceptedEvent, acceptsId, hid]
  · rw [if_neg hid]
    simp [Books.acceptedEvent, acceptsId, hid]

/-- What is live after an accepted lock is that lock, or was live before. -/
theorem live_accept {b : Books W} (hkeyed : b.locksByTile.Keyed) {lock l : LockRecord W}
    (hl : (b.accept lock).locksByTile.Live l) :
    l = lock ∨ lock.commandId ≠ l.commandId ∧ b.locksByTile.Live l := by
  unfold CombatLockIndex.Live at hl
  rw [Books.accept_locksByTile, CombatLockIndex.get_addLock hkeyed] at hl
  split at hl
  · exact Or.inl (Option.some.inj hl).symm
  next hne => exact Or.inr ⟨hne, hl⟩

/-- **A new lock** under a command id not accepted before. -/
theorem accept {b : Books W} (h : b.LockLife) {lock : LockRecord W}
    (hfresh : b.acceptedCount lock.commandId = 0) (hknown : b.known lock.playerId = true) :
    (b.accept lock).LockLife where
  keyed := by
    rw [Books.accept_locksByTile]
    exact h.keyed.addLock lock
  slots := by
    rw [Books.accept_locksByTile]
    exact h.slots.addLock h.keyed lock
  liveAccepted := by
    intro l hl
    rw [acceptedCount_accept]
    rcases live_accept h.keyed hl with rfl | ⟨hid, hl⟩
    · rw [if_pos rfl]
      omega
    · rw [if_neg hid]
      exact h.liveAccepted l hl
  liveKnown := by
    intro l hl
    rw [Books.accept_known]
    rcases live_accept h.keyed hl with rfl | ⟨-, hl⟩
    · exact hknown
    · exact h.liveKnown l hl
  liveArmed := by
    intro l hl
    rw [Books.accept_scheduled]
    rcases live_accept h.keyed hl with rfl | ⟨-, hl⟩
    · exact ⟨_, List.mem_append_right _ (List.mem_singleton_self _), rfl⟩
    · obtain ⟨timer, htimer, hlock⟩ := h.liveArmed l hl
      exact ⟨timer, List.mem_append_left _ htimer, hlock⟩
  armedAccepted := by
    intro timer htimer
    rw [Books.accept_scheduled, List.mem_append, List.mem_singleton] at htimer
    rw [acceptedCount_accept]
    cases htimer with
    | inl hold =>
        have hcount := h.armedAccepted timer hold
        omega
    | inr hnew =>
        rw [hnew, if_pos rfl]
        omega
  armedKnown := by
    intro timer htimer
    rw [Books.accept_scheduled, List.mem_append, List.mem_singleton] at htimer
    rw [Books.accept_known]
    cases htimer with
    | inl hold => exact h.armedKnown timer hold
    | inr hnew =>
        rw [hnew]
        exact hknown
  armedAgrees := by
    intro timer htimer l hl
    rw [Books.accept_locksByTile, CombatLockIndex.get_addLock h.keyed] at hl
    rw [Books.accept_scheduled, List.mem_append, List.mem_singleton] at htimer
    cases htimer with
    | inl hold =>
        -- an older timer was armed under another command id
        have hne : lock.commandId ≠ timer.lock.commandId := by
          intro hid
          have hcount := h.armedAccepted timer hold
          rw [← hid, hfresh] at hcount
          omega
        rw [if_neg hne] at hl
        exact h.armedAgrees timer hold l hl
    | inr hnew =>
        rw [hnew] at hl ⊢
        rw [if_pos rfl] at hl
        exact (Option.some.inj hl).symm

theorem giveUps (locks : List (LockRecord W)) :
    ∀ {b : Books W}, b.LockLife → (∀ lock ∈ locks, b.Sole lock) →
      (locks.foldl Books.giveUp b).LockLife := by
  induction locks with
  | nil =>
      intro b h _
      exact h
  | cons lock rest ih =>
      intro b h hsole
      have hfields := Books.refund_fields (b.drop lock) lock
      refine ih (h.remove (hsole lock List.mem_cons_self) (Books.giveUp_locksByTile b lock)
        hfields.1 ?_ ?_ ?_) ?_
      · intro id
        show _ ≤ ((b.drop lock).refund lock).lockEvents.countP _
        rw [hfields.2.2]
        exact le_refl _
      · intro timer htimer
        have hsame : (b.giveUp lock).scheduled = b.scheduled := hfields.2.1
        rw [hsame] at htimer
        exact htimer
      · intro timer htimer _
        have hsame : (b.giveUp lock).scheduled = b.scheduled := hfields.2.1
        rw [hsame]
        exact htimer
      · intro l hl l' hget
        rw [Books.giveUp_locksByTile, CombatLockIndex.removeLock_locksByCommandId,
          InsertionMap.get_erase] at hget
        split at hget
        · cases hget
        · exact hsole l (List.mem_cons_of_mem _ hl) l' hget

end Books.LockLife

theorem acceptedCount_log {event : SimulationEvent W} (id : CommandId)
    (h : acceptsId id event = false) : (b.log event).acceptedCount id = b.acceptedCount id := by
  show (b.lockEvents ++ [event]).countP _ = _
  rw [List.countP_append]
  simp [h, Books.acceptedCount]

theorem acceptedCount_resolve {lock : LockRecord W} {event : SimulationEvent W} (id : CommandId)
    (h : acceptsId id event = false) :
    (b.resolve lock event).acceptedCount id = b.acceptedCount id := by
  unfold Books.acceptedCount
  rw [Books.resolve_lockEvents_eq]
  split
  · rw [List.countP_append]
    simp [h]
  · rfl

theorem BooksMove.Sound.live (hkeyed : b.locksByTile.Keyed) {locks : List (LockRecord W)}
    {event : SimulationEvent W} (h : (BooksMove.cancel locks event).Sound b) :
    ∀ lock ∈ locks, b.locksByTile.Live lock := by
  obtain ⟨⟨playerId, rfl⟩, _⟩ := h
  intro lock hlock
  exact (CombatLockIndex.mem_values_iff hkeyed lock).mp (mem_activeFrontierLocks.mp hlock).1

theorem BooksMove.Sound.swept_live (hkeyed : b.locksByTile.Keyed) {locks : List (LockRecord W)}
    (h : (BooksMove.sweep locks).Sound b) : ∀ lock ∈ locks, b.locksByTile.Live lock := by
  intro lock hlock
  have hlocks : locks = _ := h
  rw [hlocks] at hlock
  exact (CombatLockIndex.mem_values_iff hkeyed lock).mp (List.mem_of_mem_filter hlock)

/-- **Move lemma**: a sound and fresh move keeps the locks to one life. -/
theorem BooksMove.lockLife {m : BooksMove W} (h : b.LockLife) (hsound : m.Sound b)
    (hfresh : m.Fresh b) : (m.apply b).LockLife := by
  cases m with
  | still => exact h
  | accept lock => exact h.accept hfresh hsound
  | fire i lock event =>
      obtain ⟨⟨dueAt, htimer⟩, won, result, rfl⟩ := hsound
      have hmem : (⟨lock, dueAt⟩ : ScheduledResolution W) ∈ b.scheduled :=
        List.mem_of_getElem? htimer
      show ((b.disarm i).resolve lock _).LockLife
      have hsame := Books.resolve_scheduled (b.disarm i) lock
      refine h.remove (h.armedAgrees _ hmem) (Books.resolve_locksByTile (b.disarm i) lock _)
        (Books.resolve_known (b.disarm i) lock _) ?_ ?_ ?_
      · intro id
        show b.acceptedCount id ≤ ((b.disarm i).resolve lock _).acceptedCount id
        rw [acceptedCount_resolve id rfl]
        exact le_refl _
      · intro timer hmem'
        rw [hsame] at hmem'
        exact (List.eraseIdx_sublist b.scheduled i).subset hmem'
      · intro timer hmem' hne
        rw [hsame]
        refine List.mem_eraseIdx_iff_getElem?.mpr ?_
        -- a timer of another lock stands at another position
        obtain ⟨j, hj⟩ := List.getElem?_of_mem hmem'
        refine ⟨j, fun hij => hne ?_, hj⟩
        rw [hij, htimer] at hj
        rw [← Option.some.inj hj]
  | rush lock event =>
      obtain ⟨_, ⟨key, hslot⟩, won, result, rfl⟩ := hsound
      show (b.resolve lock _).LockLife
      have hsame := Books.resolve_scheduled b lock
      refine h.remove (Books.sole_of_live (h.slots key lock hslot).2)
        (Books.resolve_locksByTile b lock _) (Books.resolve_known b lock _) ?_ ?_ ?_
      · intro id
        show b.acceptedCount id ≤ (b.resolve lock _).acceptedCount id
        rw [acceptedCount_resolve id rfl]
      · intro timer hmem'
        rw [hsame] at hmem'
        exact hmem'
      · intro timer hmem' _
        rw [hsame]
        exact hmem'
  | cancel locks event =>
      have hlive := hsound.live h.keyed
      obtain ⟨_, commandId, playerId, rfl⟩ := hsound
      have hdropped := Books.LockLife.giveUps locks h
        (fun lock hlock => Books.sole_of_live (hlive lock hlock))
      exact {
        hdropped with
        liveAccepted := by
          intro l hl
          show 1 ≤ ((locks.foldl Books.giveUp b).log _).acceptedCount l.commandId
          rw [acceptedCount_log _ rfl]
          exact hdropped.liveAccepted l hl
        armedAccepted := by
          intro timer htimer
          show 1 ≤ ((locks.foldl Books.giveUp b).log _).acceptedCount timer.lock.commandId
          rw [acceptedCount_log _ rfl]
          exact hdropped.armedAccepted timer htimer }
  | sweep locks =>
      have hlive := hsound.swept_live h.keyed
      exact Books.LockLife.giveUps locks h
        (fun lock hlock => Books.sole_of_live (hlive lock hlock))
  | meet playerId =>
      exact {
        h with
        liveKnown := by
          intro l hl
          show (decide (l.playerId = playerId) || b.known l.playerId) = true
          rw [h.liveKnown l hl, Bool.or_true]
        armedKnown := by
          intro timer htimer
          show (decide (timer.lock.playerId = playerId) || b.known timer.lock.playerId) = true
          rw [h.armedKnown timer htimer, Bool.or_true] }
  | wait ms => exact { h with }

/-- **Step lemma.** -/
theorem lockLife_step (s : CombatState W) (e : Event W) (h : s.books.LockLife)
    (hfresh : FreshCommand s e) : (step s e).books.LockLife := by
  rw [books_step]
  exact BooksMove.lockLife h (moveOf_sound s e) hfresh

theorem opening_lockLife (now : Int) (players : InsertionMap PlayerId DomainPlayer)
    (tiles : InsertionMap (TileKey W) (DomainTileState W))
    (flags : InsertionMap PlayerId (List (TileKey W))) :
    (CombatState.opening now players tiles flags).books.LockLife where
  keyed := CombatLockIndex.keyed_empty
  slots := CombatLockIndex.slotsLive_empty
  liveAccepted := fun lock h => absurd (show none = some lock from h) (by simp)
  liveKnown := fun lock h => absurd (show none = some lock from h) (by simp)
  liveArmed := fun lock h => absurd (show none = some lock from h) (by simp)
  armedAccepted := fun timer h => absurd h List.not_mem_nil
  armedKnown := fun timer h => absurd h List.not_mem_nil
  armedAgrees := fun timer h => absurd h List.not_mem_nil

end BorderEmpires.Combat
