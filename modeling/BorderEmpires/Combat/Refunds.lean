/-
  BorderEmpires.Combat.Refunds
  **WHERE THE CHARGE OF AN EXPANSION GOES.**

  An accepted EXPAND is charged to its player's pool at once.  The charge
  is then at stake in the live lock until the lock resolves, which spends
  it, or is dropped, which hands it back.  A cancel, the sweep and a rush
  all leave the lock's timer armed, and `resolveLock` refunds every
  expansion that finds its slot in other hands, so a charge can be handed
  back a second time.
-/
import BorderEmpires.Combat.Lifecycle

namespace BorderEmpires.Combat

open CombatState

variable {W : WorldSize}

/-! ## §1. The account of a charge. -/

def acceptsExpand (id : CommandId) : SimulationEvent W → Bool
  | .COMMAND_ACCEPTED commandId _ .EXPAND .. => commandId = id
  | _ => false

def resolvesExpand (id : CommandId) : SimulationEvent W → Bool
  | .COMBAT_RESOLVED commandId _ .EXPAND .. => commandId = id
  | _ => false

namespace Books

def chargedCount (b : Books W) (id : CommandId) : Nat := b.lockEvents.countP (acceptsExpand id)

def resolvedCount (b : Books W) (id : CommandId) : Nat := b.lockEvents.countP (resolvesExpand id)

/-- Charges handed back under it. -/
def refundedCount (b : Books W) (id : CommandId) : Nat := b.refunds.count id

/-- One when an expansion is live under the command id. -/
def atStake (b : Books W) (id : CommandId) : Nat :=
  match b.locksByTile.locksByCommandId.get id with
  | some lock => if lock.actionType = .EXPAND then 1 else 0
  | none => 0

/-- **Every charge is in one place**: at stake in the live lock, handed back
by a refund, or spent by resolving. -/
structure ChargesSettled (b : Books W) : Prop where
  acceptedOnce : ∀ id, b.acceptedCount id ≤ 1
  settled : ∀ id, b.atStake id + b.refundedCount id + b.resolvedCount id = b.chargedCount id

theorem chargedCount_le (b : Books W) (id : CommandId) :
    b.chargedCount id ≤ b.acceptedCount id := by
  refine List.countP_mono_left (fun event _ h => ?_)
  unfold acceptsExpand at h
  split at h
  · exact h
  · cases h

variable {b : Books W}

theorem ChargesSettled.refunded_le (h : b.ChargesSettled) (id : CommandId) :
    b.refundedCount id ≤ 1 := by
  have hsettled := h.settled id
  have haccepted := h.acceptedOnce id
  have hcharged := b.chargedCount_le id
  omega

/-! ## §2. Taking one lock out. -/

/-- The lock leaves the index, and if it is an expansion its charge is
handed back or spent. -/
structure Settles (b b' : Books W) (lock : LockRecord W) : Prop where
  index : b'.locksByTile = b.locksByTile.removeLock lock
  charged : ∀ id, b'.chargedCount id = b.chargedCount id
  accepted : ∀ id, b'.acceptedCount id = b.acceptedCount id
  closed : ∀ id, b'.refundedCount id + b'.resolvedCount id
    = b.refundedCount id + b.resolvedCount id
      + if lock.actionType = .EXPAND ∧ lock.commandId = id then 1 else 0

theorem atStake_removeLock {b' : Books W} {lock : LockRecord W}
    (h : b'.locksByTile = b.locksByTile.removeLock lock) (id : CommandId) :
    b'.atStake id = if lock.commandId = id then 0 else b.atStake id := by
  unfold atStake
  rw [h, CombatLockIndex.removeLock_locksByCommandId, InsertionMap.get_erase]
  by_cases hid : lock.commandId = id
  · rw [if_pos hid, if_pos hid]
  · rw [if_neg hid, if_neg hid]

theorem atStake_of_live {lock : LockRecord W} (h : b.locksByTile.Live lock) :
    b.atStake lock.commandId = if lock.actionType = .EXPAND then 1 else 0 := by
  unfold atStake
  unfold CombatLockIndex.Live at h
  rw [h]

/-- **The charges stay settled exactly when an expansion that is taken out
was live.** -/
theorem charges_settled_remove_iff {b' : Books W} {lock : LockRecord W}
    (h : b.ChargesSettled) (hsole : b.Sole lock) (hsettles : b.Settles b' lock) :
    b'.ChargesSettled ↔ (lock.actionType = .EXPAND → b.locksByTile.Live lock) := by
  have hown := h.settled lock.commandId
  have hstake := atStake_removeLock hsettles.index
  constructor
  · intro h' hexpand
    have hown' := h'.settled lock.commandId
    have hclosed := hsettles.closed lock.commandId
    have hcharged := hsettles.charged lock.commandId
    have hnone := hstake lock.commandId
    rw [if_pos rfl] at hnone
    rw [if_pos ⟨hexpand, rfl⟩] at hclosed
    -- something is at stake under the command id, and it can only be the lock
    have hone : b.atStake lock.commandId = 1 := by omega
    unfold atStake at hone
    cases hget : b.locksByTile.locksByCommandId.get lock.commandId with
    | none =>
        rw [hget] at hone
        cases hone
    | some l =>
        have hl : l = lock := hsole l hget
        unfold CombatLockIndex.Live
        rw [hget, hl]
  · intro hlive
    refine ⟨fun id => ?_, fun id => ?_⟩
    · rw [hsettles.accepted]
      exact h.acceptedOnce id
    · have hid := h.settled id
      have hclosed := hsettles.closed id
      rw [hsettles.charged, hstake]
      by_cases hsame : lock.commandId = id
      · subst hsame
        rw [if_pos rfl]
        cases htype : lock.actionType with
        | EXPAND =>
            have hone := atStake_of_live (hlive htype)
            rw [if_pos htype] at hone
            rw [if_pos ⟨htype, rfl⟩] at hclosed
            omega
        | ATTACK =>
            have hzero : b.atStake lock.commandId = 0 := by
              unfold atStake
              cases hget : b.locksByTile.locksByCommandId.get lock.commandId with
              | none => rfl
              | some l =>
                  rw [hsole l hget]
                  simp [htype]
            rw [if_neg (fun h => by rw [htype] at h; cases h.1)] at hclosed
            omega
      · rw [if_neg hsame]
        rw [if_neg (fun h => hsame h.2)] at hclosed
        omega

/-! ## §3. The moves that take locks out. -/

theorem count_append_singleton (ids : List CommandId) (id id' : CommandId) :
    (ids ++ [id]).count id' = ids.count id' + if id = id' then 1 else 0 := by
  rw [List.count_append, List.count_singleton]
  simp only [beq_iff_eq]

theorem settles_resolve {lock : LockRecord W} (hknown : b.known lock.playerId = true)
    (won : Bool) (result : Option (LockedFrontierCombatResult W)) :
    b.Settles (b.resolve lock (.COMBAT_RESOLVED lock.commandId lock.playerId lock.actionType
      lock.originKey lock.targetKey won result)) lock where
  index := resolve_locksByTile b lock _
  charged := by
    intro id
    unfold chargedCount
    rw [resolve_lockEvents_eq]
    split
    · rw [List.countP_append]
      rfl
    · rfl
  accepted := fun id => acceptedCount_resolve id rfl
  closed := by
    intro id
    obtain ⟨hknown', _, hevents, hrefunds⟩ := release_fields b lock
    unfold resolvedCount refundedCount
    rw [resolve_lockEvents_eq]
    unfold resolve
    by_cases howns : b.locksByTile.ownsTargetSlot lock = true
    · rw [if_pos howns, if_pos howns, List.countP_append]
      show (b.release lock).refunds.count id + _ = _
      rw [hrefunds]
      cases htype : lock.actionType with
      | EXPAND =>
          by_cases hid : lock.commandId = id
          · simp [resolvesExpand, hid]
            omega
          · simp [resolvesExpand, hid]
      | ATTACK => simp [resolvesExpand]
    · rw [if_neg howns, if_neg howns]
      unfold refund
      cases htype : lock.actionType with
      | EXPAND =>
          rw [if_pos ⟨rfl, hknown'.symm ▸ hknown⟩]
          show ((b.release lock).refunds ++ [lock.commandId]).count id + _ = _
          rw [hrefunds, count_append_singleton]
          simp only [true_and]
          omega
      | ATTACK =>
          rw [if_neg (fun h => by cases h.1), hrefunds]
          simp

theorem settles_giveUp {lock : LockRecord W} (hknown : b.known lock.playerId = true) :
    b.Settles (b.giveUp lock) lock where
  index := giveUp_locksByTile b lock
  charged := by
    intro id
    show ((b.drop lock).refund lock).lockEvents.countP _ = _
    rw [(refund_fields (b.drop lock) lock).2.2]
    rfl
  accepted := by
    intro id
    show ((b.drop lock).refund lock).lockEvents.countP _ = _
    rw [(refund_fields (b.drop lock) lock).2.2]
    rfl
  closed := by
    intro id
    unfold resolvedCount refundedCount giveUp
    rw [(refund_fields (b.drop lock) lock).2.2]
    show ((b.drop lock).refund lock).refunds.count id + b.lockEvents.countP _ = _
    unfold refund
    cases htype : lock.actionType with
    | EXPAND =>
        rw [if_pos ⟨rfl, hknown⟩]
        show (b.refunds ++ [lock.commandId]).count id + _ = _
        rw [count_append_singleton]
        simp only [true_and]
        omega
    | ATTACK =>
        rw [if_neg (fun h => by cases h.1)]
        simp [drop]

theorem charges_settled_giveUps (locks : List (LockRecord W)) :
    ∀ {b : Books W}, b.ChargesSettled → (∀ lock ∈ locks, b.locksByTile.Live lock) →
      (∀ lock ∈ locks, b.known lock.playerId = true) →
      (locks.map (·.commandId)).Nodup →
      (locks.foldl giveUp b).ChargesSettled := by
  induction locks with
  | nil =>
      intro b h _ _ _
      exact h
  | cons lock rest ih =>
      intro b h hlive hknown hnodup
      rw [List.map_cons, List.nodup_cons] at hnodup
      have hlock := hlive lock List.mem_cons_self
      refine ih ?_ ?_ ?_ hnodup.2
      · exact (charges_settled_remove_iff h (sole_of_live hlock)
          (settles_giveUp (hknown lock List.mem_cons_self))).mpr (fun _ => hlock)
      · intro l hl
        have hne : lock.commandId ≠ l.commandId := by
          intro hid
          apply hnodup.1
          rw [hid]
          exact List.mem_map_of_mem hl
        unfold CombatLockIndex.Live
        rw [giveUp_locksByTile, CombatLockIndex.removeLock_locksByCommandId,
          InsertionMap.get_erase_ne _ hne]
        exact hlive l (List.mem_cons_of_mem _ hl)
      · intro l hl
        rw [known_giveUp]
        exact hknown l (List.mem_cons_of_mem _ hl)

theorem charges_settled_log {event : SimulationEvent W}
    (h : ∀ id, acceptsExpand id event = false ∧ resolvesExpand id event = false
      ∧ acceptsId id event = false) :
    (b.log event).ChargesSettled ↔ b.ChargesSettled := by
  have hcounts : ∀ id, (b.log event).chargedCount id = b.chargedCount id
      ∧ (b.log event).resolvedCount id = b.resolvedCount id := by
    intro id
    unfold chargedCount resolvedCount
    show (b.lockEvents ++ [event]).countP _ = _ ∧ (b.lockEvents ++ [event]).countP _ = _
    rw [List.countP_append, List.countP_append]
    simp [h id]
  constructor
  · intro hs
    refine ⟨fun id => ?_, fun id => ?_⟩
    · rw [← acceptedCount_log id (h id).2.2]
      exact hs.acceptedOnce id
    · rw [← (hcounts id).1, ← (hcounts id).2]
      exact hs.settled id
  · intro hs
    refine ⟨fun id => ?_, fun id => ?_⟩
    · rw [acceptedCount_log id (h id).2.2]
      exact hs.acceptedOnce id
    · rw [(hcounts id).1, (hcounts id).2]
      exact hs.settled id

/-! ## §4. A new charge. -/

theorem chargedCount_accept (b : Books W) (lock : LockRecord W) (id : CommandId) :
    (b.accept lock).chargedCount id
      = b.chargedCount id + if lock.actionType = .EXPAND ∧ lock.commandId = id then 1 else 0 := by
  unfold chargedCount
  rw [accept_lockEvents, List.countP_append]
  cases htype : lock.actionType with
  | EXPAND => simp [acceptedEvent, acceptsExpand, htype, List.countP_singleton]
  | ATTACK => simp [acceptedEvent, acceptsExpand, htype]

theorem resolvedCount_accept (b : Books W) (lock : LockRecord W) (id : CommandId) :
    (b.accept lock).resolvedCount id = b.resolvedCount id := by
  unfold resolvedCount
  rw [accept_lockEvents, List.countP_append]
  rfl

theorem atStake_accept (hkeyed : b.locksByTile.Keyed) (lock : LockRecord W) (id : CommandId) :
    (b.accept lock).atStake id
      = if lock.commandId = id then (if lock.actionType = .EXPAND then 1 else 0)
        else b.atStake id := by
  unfold atStake
  rw [accept_locksByTile, CombatLockIndex.get_addLock hkeyed]
  by_cases hid : lock.commandId = id
  · rw [if_pos hid, if_pos hid]
  · rw [if_neg hid, if_neg hid]

/-- **Accepting** keeps the charges settled exactly when the command id is
new. -/
theorem charges_settled_accept_iff (hlife : b.LockLife) (h : b.ChargesSettled)
    (lock : LockRecord W) :
    (b.accept lock).ChargesSettled ↔ b.acceptedCount lock.commandId = 0 := by
  constructor
  · intro h'
    have hcount := h'.acceptedOnce lock.commandId
    rw [LockLife.acceptedCount_accept, if_pos rfl] at hcount
    omega
  · intro hfresh
    -- nothing is live under a command id never accepted
    have hnone : b.atStake lock.commandId = 0 := by
      unfold atStake
      cases hget : b.locksByTile.locksByCommandId.get lock.commandId with
      | none => rfl
      | some l =>
          have hid := hlife.keyed _ _ hget
          have hlive : b.locksByTile.Live l := by
            unfold CombatLockIndex.Live
            rw [hid, hget]
          have hcount := hlife.liveAccepted l hlive
          rw [hid, hfresh] at hcount
          omega
    refine ⟨fun id => ?_, fun id => ?_⟩
    · rw [LockLife.acceptedCount_accept]
      by_cases hid : lock.commandId = id
      · rw [if_pos hid, ← hid, hfresh]
      · rw [if_neg hid]
        exact h.acceptedOnce id
    · have hid := h.settled id
      rw [chargedCount_accept, resolvedCount_accept, atStake_accept hlife.keyed]
      unfold refundedCount at hid ⊢
      rw [accept_refunds]
      by_cases hsame : lock.commandId = id
      · subst hsame
        rw [if_pos rfl]
        cases lock.actionType with
        | EXPAND =>
            simp only [if_true, and_self]
            omega
        | ATTACK =>
            simp only [reduceCtorEq, if_false, false_and]
            omega
      · rw [if_neg hsame, if_neg (fun hc => hsame hc.2)]
        omega

end Books

/-! ## §5. Every run. -/

/-- **What a move must meet**: an accepted command id is new, and the timer
of an expansion fires while its lock is live. -/
def BooksMove.SettlesCharges (b : Books W) : BooksMove W → Prop
  | .accept lock => b.acceptedCount lock.commandId = 0
  | .fire _ lock _ => lock.actionType = .EXPAND → b.locksByTile.Live lock
  | _ => True

theorem BooksMove.SettlesCharges.fresh {b : Books W} {m : BooksMove W}
    (h : m.SettlesCharges b) : m.Fresh b := by
  cases m with
  | accept lock => exact h
  | _ => trivial

theorem CombatLockIndex.nodup_values {index : CombatLockIndex W} (h : index.Keyed) :
    (index.values.map (·.commandId)).Nodup := by
  have hkeys : index.values.map (·.commandId)
      = index.locksByCommandId.entries.map Prod.fst := by
    unfold values
    rw [List.map_map]
    refine List.map_congr_left (fun e he => ?_)
    exact h e.1 e.2 ((index.locksByCommandId.mem_entries_iff e.1 e.2).mp he)
  rw [hkeys]
  exact index.locksByCommandId.nodupKeys

/-- **Move lemma**: a sound move keeps the charges settled exactly when it
meets its condition. -/
theorem BooksMove.charges_settled_iff {b : Books W} (hlife : b.LockLife) (h : b.ChargesSettled)
    {m : BooksMove W} (hsound : m.Sound b) :
    (m.apply b).ChargesSettled ↔ m.SettlesCharges b := by
  cases m with
  | still => exact ⟨fun _ => trivial, fun _ => h⟩
  | accept lock => exact Books.charges_settled_accept_iff hlife h lock
  | fire i lock event =>
      obtain ⟨⟨dueAt, htimer⟩, won, result, rfl⟩ := hsound
      have hmem : (⟨lock, dueAt⟩ : ScheduledResolution W) ∈ b.scheduled :=
        List.mem_of_getElem? htimer
      have hdisarmed : (b.disarm i).ChargesSettled := ⟨h.acceptedOnce, h.settled⟩
      exact Books.charges_settled_remove_iff (b := b.disarm i) hdisarmed (hlife.armedAgrees _ hmem)
        (Books.settles_resolve (b := b.disarm i) (hlife.armedKnown _ hmem) won result)
  | rush lock event =>
      obtain ⟨_, ⟨key, hslot⟩, won, result, rfl⟩ := hsound
      have hlive := (hlife.slots key lock hslot).2
      refine ⟨fun _ => trivial, fun _ => ?_⟩
      exact (Books.charges_settled_remove_iff h (Books.sole_of_live hlive)
        (Books.settles_resolve (hlife.liveKnown lock hlive) won result)).mpr (fun _ => hlive)
  | cancel locks event =>
      have hlive := hsound.live hlife.keyed
      obtain ⟨⟨playerId, hlocks⟩, commandId, actorId, rfl⟩ := hsound
      refine ⟨fun _ => trivial, fun _ => ?_⟩
      have hgiven := Books.charges_settled_giveUps locks h hlive
        (fun lock hlock => hlife.liveKnown lock (hlive lock hlock)) (by
          rw [hlocks]
          unfold activeFrontierLocksForPlayer
          refine (List.Perm.nodup_iff ((List.mergeSort_perm _ _).map _)).mpr ?_
          exact (CombatLockIndex.nodup_values hlife.keyed).sublist (List.filter_sublist.map _))
      exact (Books.charges_settled_log (fun id => ⟨rfl, rfl, rfl⟩)).mpr hgiven
  | sweep locks =>
      have hlive := hsound.swept_live hlife.keyed
      refine ⟨fun _ => trivial, fun _ => ?_⟩
      refine Books.charges_settled_giveUps locks h hlive
        (fun lock hlock => hlife.liveKnown lock (hlive lock hlock)) ?_
      have hlocks : locks = _ := hsound
      rw [hlocks]
      exact (CombatLockIndex.nodup_values hlife.keyed).sublist (List.filter_sublist.map _)
  | meet playerId => exact ⟨fun _ => trivial, fun _ => ⟨h.acceptedOnce, h.settled⟩⟩
  | wait ms => exact ⟨fun _ => trivial, fun _ => ⟨h.acceptedOnce, h.settled⟩⟩

def SettlesCharges (s : CombatState W) (e : Event W) : Prop := (moveOf s e).SettlesCharges s.books

/-- **Over every run**: every charge is in one place in every state exactly
when every step meets its condition. -/
theorem expand_charges_settled_iff (now : Int) (players : InsertionMap PlayerId DomainPlayer)
    (tiles : InsertionMap (TileKey W) (DomainTileState W))
    (flags : InsertionMap PlayerId (List (TileKey W))) (events : List (Event W)) :
    Run.Along step (·.books.ChargesSettled) (.opening now players tiles flags) events
      ↔ Run.StepsMeet step SettlesCharges (.opening now players tiles flags) events := by
  refine Run.along_iff_stepsMeet (I := fun s => s.books.LockLife)
    (fun s e hlife _ hmeet => lockLife_step s e hlife hmeet.fresh) ?_ events _
    (opening_lockLife now players tiles flags) ⟨fun _ => Nat.zero_le 1, fun _ => rfl⟩
  intro s e hlife hsettled
  rw [books_step]
  exact BooksMove.charges_settled_iff hlife hsettled (moveOf_sound s e)

/-- An expansion is cancelled, and its timer fires. -/
theorem cancelled_expansion_refunded_twice :
    ¬ Run.Along step (·.books.ChargesSettled) border
      [.frontier quietFrontier (orderTo "expand" (borderKey 1 2)) .EXPAND,
        .cancelCapture "cancel" playerOne, .wait 20000, .timer quietResolution 0] := by
  intro h
  have htwice := h.2.2.2.2.refunded_le "expand"
  revert htwice
  decide +kernel

end BorderEmpires.Combat
