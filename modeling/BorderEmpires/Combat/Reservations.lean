/-
  BorderEmpires.Combat.Reservations
  **MUSTER RESERVATIONS AGAINST LIVE LOCKS.**

  An accepted attack reserves its cost at the flag that funds it, and its
  target's shield reserves what it matched.  The reservations are right
  when every flag shows the sum over the live locks: an escrow with the
  locks as its holds.  What a resolution gives back is not quite what the
  accept took: the cost comes off the flag a lock names, and an automated
  expansion names a flag without having reserved there.  Cancels and sweeps
  drop locks and give nothing back.
-/
import BorderEmpires.Combat.Lifecycle
import BorderEmpires.Lib.Escrow

namespace BorderEmpires.Combat

open CombatState

variable {W : WorldSize}

/-! ## §1. What a lock takes and gives back. -/

/-- What an attack has reserved at a flag. -/
def LockRecord.fundedAt (lock : LockRecord W) (key : TileKey W) : ℚ≥0 :=
  if lock.actionType = .ATTACK ∧ lock.musterSourceKey = some key then lock.manpowerCost else 0

def LockRecord.shieldedAt (lock : LockRecord W) (key : TileKey W) : ℚ≥0 :=
  match lock.shield with
  | some shield => if shield.tileKey = key then shield.matched else 0
  | none => 0

/-- What releasing a lock takes off a flag for its cost. -/
def LockRecord.namedAt (lock : LockRecord W) (key : TileKey W) : ℚ≥0 :=
  if lock.musterSourceKey = some key then lock.manpowerCost else 0

def LockRecord.reserves (lock : LockRecord W) (key : TileKey W) : ℚ≥0 :=
  lock.fundedAt key + lock.shieldedAt key

def LockRecord.releases (lock : LockRecord W) (key : TileKey W) : ℚ≥0 :=
  lock.namedAt key + lock.shieldedAt key

abbrev CombatState.liveLocks (s : CombatState W) : InsertionMap CommandId (LockRecord W) :=
  s.locksByTile.locksByCommandId

/-- **The reservations are right**: every flag shows what the live attacks
funded from it cost, and what the live locks it shields against matched. -/
def ReservationsBalanced (s : CombatState W) : Prop :=
  ∀ key, s.reservedAt key = s.liveLocks.total (fun _ lock => lock.fundedAt key)
    + s.liveLocks.total (fun _ lock => lock.shieldedAt key)

namespace Books

def Balanced (b : Books W) : Prop :=
  Escrow.Balanced b.musterReservedByKey b.locksByTile.locksByCommandId LockRecord.reserves

/-- What the live lock under a command id has reserved at a flag. -/
def reservedUnder (b : Books W) (id : CommandId) (key : TileKey W) : ℚ≥0 :=
  Escrow.heldUnder b.locksByTile.locksByCommandId LockRecord.reserves id key

end Books

theorem reservationsBalanced_iff (s : CombatState W) :
    ReservationsBalanced s ↔ s.books.Balanced := by
  have hsplit : ∀ key, s.liveLocks.total (fun _ lock => lock.fundedAt key)
      + s.liveLocks.total (fun _ lock => lock.shieldedAt key)
      = Escrow.held s.liveLocks LockRecord.reserves key := by
    intro key
    exact (s.liveLocks.total_add _ _).symm
  unfold ReservationsBalanced
  simp only [hsplit]
  exact Iff.rfl

/-! ## §2. One move of the books. -/

namespace Books

theorem balance_hold (b : Books W) (key key' : TileKey W) (amount : ℚ≥0) :
    Ledger.balance (b.hold key amount).musterReservedByKey key'
      = Ledger.balance b.musterReservedByKey key' + if key = key' then amount else 0 :=
  Ledger.balance_credit b.musterReservedByKey key key' amount

theorem balance_accept (b : Books W) (lock : LockRecord W) (key : TileKey W) :
    Ledger.balance (b.accept lock).musterReservedByKey key
      = Ledger.balance b.musterReservedByKey key + lock.reserves key := by
  have hcost : Ledger.balance (b.holdCost lock).musterReservedByKey key
      = Ledger.balance b.musterReservedByKey key + lock.fundedAt key := by
    unfold holdCost LockRecord.fundedAt
    cases lock.actionType with
    | EXPAND => simp
    | ATTACK =>
        cases lock.musterSourceKey with
        | none => simp
        | some source => simp [balance_hold]
  show Ledger.balance ((b.holdCost lock).holdShield lock).musterReservedByKey key = _
  unfold holdShield LockRecord.reserves LockRecord.shieldedAt
  cases lock.shield with
  | none => simp [hcost]
  | some shield => simp only [balance_hold, hcost, add_assoc]

theorem balance_release (b : Books W) (lock : LockRecord W) (key : TileKey W) :
    Ledger.balance (b.release lock).musterReservedByKey key
      = Ledger.balance b.musterReservedByKey key - lock.releases key := by
  have hcost : Ledger.balance (b.debitCost lock).musterReservedByKey key
      = Ledger.balance b.musterReservedByKey key - lock.namedAt key := by
    unfold debitCost LockRecord.namedAt
    cases lock.musterSourceKey with
    | none => simp
    | some source =>
        show Ledger.balance (Ledger.debit _ _ _) key = _
        rw [Ledger.balance_debit]
        by_cases hkey : source = key
        · simp [hkey]
        · simp [hkey]
  show Ledger.balance ((b.debitCost lock).debitShield lock).musterReservedByKey key = _
  unfold debitShield LockRecord.releases LockRecord.shieldedAt
  rw [← tsub_tsub, ← hcost]
  cases lock.shield with
  | none => simp
  | some shield =>
      show Ledger.balance (Ledger.debit _ _ _) key = _
      rw [Ledger.balance_debit]
      by_cases hkey : shield.tileKey = key
      · simp [hkey]
      · simp [hkey]

/-- **Accepting** keeps the reservations right exactly when no live lock of
the same command id holds a reservation. -/
theorem balanced_accept_iff {b : Books W} (hkeyed : b.locksByTile.Keyed) (hbal : b.Balanced)
    (lock : LockRecord W) :
    (b.accept lock).Balanced ↔ ∀ key, b.reservedUnder lock.commandId key = 0 := by
  have hlocks : (b.accept lock).locksByTile.locksByCommandId
      = (b.locksByTile.locksByCommandId.erase lock.commandId).set lock.commandId lock := by
    rw [accept_locksByTile]
    exact CombatLockIndex.addLock_locksByCommandId hkeyed lock
  unfold Balanced
  rw [hlocks]
  exact Escrow.balanced_place_iff hbal lock.commandId lock (fun key => balance_accept b lock key)

/-- What a lock gives back when it is released is what the live lock of its
command id has reserved, as far as the flags show it. -/
def ReleasesItsOwn (b : Books W) (lock : LockRecord W) : Prop :=
  ∀ key, min (lock.releases key) (Ledger.balance b.musterReservedByKey key)
    = b.reservedUnder lock.commandId key

theorem balanced_release_iff {b : Books W} (hbal : b.Balanced) (lock : LockRecord W) :
    (b.release lock).Balanced ↔ b.ReleasesItsOwn lock := by
  unfold Balanced
  rw [release_locksByTile]
  exact Escrow.balanced_release_iff hbal lock.commandId lock.releases
    (fun key => balance_release b lock key)

/-- **A resolution** keeps the reservations right exactly when the lock gives
back its own. -/
theorem balanced_resolve_iff {b : Books W} (hbal : b.Balanced) (lock : LockRecord W)
    (event : SimulationEvent W) :
    (b.resolve lock event).Balanced ↔ b.ReleasesItsOwn lock := by
  rw [← balanced_release_iff hbal lock]
  unfold resolve refund
  split
  · exact Iff.rfl
  · split
    · exact Iff.rfl
    · exact Iff.rfl

theorem giveUps_spec (locks : List (LockRecord W)) :
    ∀ b : Books W, (locks.foldl giveUp b).musterReservedByKey = b.musterReservedByKey
      ∧ (locks.foldl giveUp b).locksByTile.locksByCommandId
        = Escrow.voidAll b.locksByTile.locksByCommandId
            (locks.map (·.commandId)) := by
  induction locks with
  | nil =>
      intro b
      exact ⟨rfl, rfl⟩
  | cons lock rest ih =>
      intro b
      have hstep : (giveUp b lock).musterReservedByKey = b.musterReservedByKey
          ∧ (giveUp b lock).locksByTile.locksByCommandId
            = b.locksByTile.locksByCommandId.erase lock.commandId := by
        unfold giveUp refund
        split <;> exact ⟨rfl, rfl⟩
      obtain ⟨hreserved, hlocks⟩ := ih (giveUp b lock)
      refine ⟨hreserved.trans hstep.1, ?_⟩
      rw [List.foldl_cons, hlocks, hstep.2]
      rfl

/-- **Giving up locks** keeps the reservations right exactly when none of
them holds a reservation. -/
theorem balanced_giveUps_iff {b : Books W} (hbal : b.Balanced) (locks : List (LockRecord W)) :
    (locks.foldl giveUp b).Balanced
      ↔ ∀ lock ∈ locks, ∀ key, b.reservedUnder lock.commandId key = 0 := by
  obtain ⟨hreserved, hlocks⟩ := giveUps_spec locks b
  unfold Balanced
  rw [hreserved, hlocks, Escrow.balanced_voidAll_iff hbal]
  constructor
  · intro h lock hlock
    exact h lock.commandId (List.mem_map_of_mem hlock)
  · intro h id hid
    obtain ⟨lock, hlock, rfl⟩ := List.mem_map.mp hid
    exact h lock hlock

end Books

/-! ## §3. Every run. -/

/-- **What a move must meet**: an accepted command brings a command id under
which nothing is reserved, a lock that is resolved or rushed gives back its
own, and the locks a cancel or a sweep drops hold no reservation. -/
def BooksMove.KeepsReservations (b : Books W) : BooksMove W → Prop
  | .accept lock => ∀ key, b.reservedUnder lock.commandId key = 0
  | .fire _ lock _ => b.ReleasesItsOwn lock
  | .rush lock _ => b.ReleasesItsOwn lock
  | .cancel locks _ => ∀ lock ∈ locks, ∀ key, b.reservedUnder lock.commandId key = 0
  | .sweep locks => ∀ lock ∈ locks, ∀ key, b.reservedUnder lock.commandId key = 0
  | _ => True

/-- **Move lemma**: from right reservations, a move leaves right ones exactly
when it meets its condition. -/
theorem BooksMove.balanced_iff {b : Books W} (hkeyed : b.locksByTile.Keyed) (hbal : b.Balanced)
    (m : BooksMove W) : (m.apply b).Balanced ↔ m.KeepsReservations b := by
  cases m with
  | still => exact ⟨fun _ => trivial, fun _ => hbal⟩
  | accept lock => exact Books.balanced_accept_iff hkeyed hbal lock
  | fire i lock event =>
      -- the disarmed timer is no part of the balance
      exact Books.balanced_resolve_iff (b := b.disarm i) hbal lock event
  | rush lock event => exact Books.balanced_resolve_iff hbal lock event
  | cancel locks event => exact Books.balanced_giveUps_iff hbal locks
  | sweep locks => exact Books.balanced_giveUps_iff hbal locks
  | meet playerId => exact ⟨fun _ => trivial, fun _ => hbal⟩
  | wait ms => exact ⟨fun _ => trivial, fun _ => hbal⟩

def KeepsReservations (s : CombatState W) (e : Event W) : Prop :=
  (moveOf s e).KeepsReservations s.books

/-- **Over every run**: the reservations are right in every state exactly
when every step meets its condition. -/
theorem reservations_balanced_iff (now : Int) (players : InsertionMap PlayerId DomainPlayer)
    (tiles : InsertionMap (TileKey W) (DomainTileState W))
    (flags : InsertionMap PlayerId (List (TileKey W))) (events : List (Event W)) :
    Run.Along step ReservationsBalanced (.opening now players tiles flags) events
      ↔ Run.StepsMeet step KeepsReservations (.opening now players tiles flags) events := by
  refine Run.along_iff_stepsMeet (I := fun s => s.books.locksByTile.Keyed)
    (fun s e hkeyed _ _ => keyed_step s e hkeyed) ?_ events _
    (opening_lockLife now players tiles flags).keyed ?_
  · intro s e hkeyed hbal
    rw [reservationsBalanced_iff, books_step]
    exact (moveOf s e).balanced_iff hkeyed ((reservationsBalanced_iff s).mp hbal)
  · intro key
    exact (add_zero 0).symm

/-- An attack is cancelled: its lock is gone, its reservation stays. -/
theorem cancel_strands_reservation :
    ¬ Run.Along step ReservationsBalanced border
      [.frontier quietFrontier (orderTo "attack" (borderKey 2 1)) .ATTACK,
        .cancelCapture "cancel" playerOne] := by
  intro h
  have hflag := h.2.2 (borderKey 1 1)
  revert hflag
  decide +kernel

end BorderEmpires.Combat
