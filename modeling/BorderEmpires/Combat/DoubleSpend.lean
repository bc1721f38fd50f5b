/-
  BorderEmpires.Combat.DoubleSpend
  **NO MANPOWER IS STAGED TWICE.**

  The live locks charge the flags that fund and shield them.  As long as no
  flag is charged for more than it has staged, every resolved attack finds
  its whole cost on the flag.  The reservations keep new locks within
  bounds, and three things get past them: the fallback of validation, an
  automated expansion that releases what it never reserved, and a flag that
  is taken away under the locks it carries.
-/
import BorderEmpires.Combat.Funding
import BorderEmpires.Combat.Expansion

namespace BorderEmpires.Combat

open CombatState

variable {W : WorldSize}

/-! ## §1. Statements. -/

/-- What the live locks charge to a flag: the cost of the attacks it funds
and what it matched as a shield. -/
def CombatState.charged (s : CombatState W) (key : TileKey W) : ℚ≥0 :=
  s.liveLocks.total (fun _ lock => lock.fundedAt key)
    + s.liveLocks.total (fun _ lock => lock.shieldedAt key)

/-- **No flag is charged for more than it has staged.** -/
def ChargesStaged (s : CombatState W) : Prop := ∀ key, s.charged key ≤ s.stagedAt key

/-- **An attack is paid in full**: the timer that resolves an attack, a
barbarian's apart, takes exactly its cost from the player's staged
manpower. -/
def PaysItsCost (s : CombatState W) : Event W → Prop
  | .timer ctx i => ∀ lock, dueLock s i = some lock → s.locksByTile.ownsTargetSlot lock = true →
      lock.actionType = .ATTACK → isBarbarianFaction lock.playerId = false →
      (fightSpent ctx (released (unbuffered { s with scheduled := s.scheduled.eraseIdx i }) lock)
        lock).stagedManpower lock.playerId + lock.manpowerCost = s.stagedManpower lock.playerId
  | _ => True

/-- **What a step must meet.** -/
structure SparesFlags (s : CombatState W) (e : Event W) : Prop where
  /-- An accepted command id is new. -/
  fresh : FreshCommand s e
  /-- An attack accepted on a flag that has not its cost free beyond the
  reservations stays within what the live locks leave there. -/
  fallback : ∀ lock source, moveOf s e = .accept lock → lock.actionType = .ATTACK →
    lock.musterSourceKey = some source →
    s.fundableAt lock.playerId lock.manpowerCost source = none →
      s.charged source + lock.manpowerCost ≤ s.stagedAt source
  /-- An expansion that is resolved takes no reservation off a flag. -/
  expansion : ∀ lock, resolvingLock s e = some lock → lock.actionType = .EXPAND →
    ∀ key, min (lock.releases key) (s.reservedAt key) = 0
  /-- A flag that is lost carries no live lock, the one that is resolved
  apart. -/
  carried : ∀ key ∈ loses s e, ∀ lock, s.locksByTile.Live lock →
    resolvingLock s e ≠ some lock → lock.reserves key = 0

def Books.armedCharge (b : Books W) (key : TileKey W) : ℚ≥0 :=
  (b.scheduled.map (fun timer => timer.lock.reserves key)).sum

/-- **The invariant**: armed locks can fight, the reservations cover them,
the flags cover the live locks, and an attack's flag is its player's. -/
structure FlagsCover (s : CombatState W) : Prop where
  furnished : ∀ timer ∈ s.scheduled, timer.lock.Furnished
  reserved : ∀ key, s.books.armedCharge key ≤ s.reservedAt key
  staged : ChargesStaged s
  owned : ∀ lock, s.locksByTile.Live lock → ∀ key, lock.fundedAt key ≠ 0 →
    ∃ muster, s.flagAt key = some muster ∧ muster.ownerId = lock.playerId

/-! ## §2. Charges. -/

theorem charged_eq_held (s : CombatState W) (key : TileKey W) :
    s.charged key = Escrow.held s.liveLocks LockRecord.reserves key :=
  (s.liveLocks.total_add _ _).symm

variable {e : Event W} {s : CombatState W}

theorem charged_le_armed (hlife : s.books.LockLife) (key : TileKey W) :
    s.charged key ≤ s.books.armedCharge key := by
  rw [charged_eq_held]
  have hsum := Escrow.held_le_sum s.liveLocks LockRecord.reserves
    (·.commandId) (s.scheduled.map (·.lock))
    hlife.keyed (fun id lock hget => ?_) key
  · rw [List.map_map] at hsum
    exact hsum
  · have hlive : s.books.locksByTile.Live lock := by
      unfold CombatLockIndex.Live
      rw [hlife.keyed id lock hget]
      exact hget
    obtain ⟨timer, hmem, hlock⟩ := hlife.liveArmed lock hlive
    exact List.mem_map.mpr ⟨timer, hmem, hlock⟩

theorem reserves_le_charged {lock : LockRecord W} (hlive : s.locksByTile.Live lock)
    (key : TileKey W) : lock.reserves key ≤ s.charged key := by
  rw [charged_eq_held, ← Escrow.heldUnder_of_get LockRecord.reserves hlive key]
  exact Escrow.heldUnder_le _ _ _ _

/-- What a move adds to the charges. -/
def BooksMove.takes (m : BooksMove W) (key : TileKey W) : ℚ≥0 :=
  match m with
  | .accept lock => lock.reserves key
  | _ => 0

theorem BooksMove.held_apply_le {b : Books W} (hkeyed : b.locksByTile.Keyed) (m : BooksMove W)
    (key : TileKey W) :
    Escrow.held (m.apply b).locksByTile.locksByCommandId LockRecord.reserves key
      ≤ Escrow.held b.locksByTile.locksByCommandId LockRecord.reserves key + m.takes key := by
  have hremove : ∀ lock : LockRecord W,
      Escrow.held (b.locksByTile.removeLock lock).locksByCommandId LockRecord.reserves key
        ≤ Escrow.held b.locksByTile.locksByCommandId LockRecord.reserves key + 0 := by
    intro lock
    rw [CombatLockIndex.removeLock_locksByCommandId, add_zero,
      ← Escrow.held_void b.locksByTile.locksByCommandId LockRecord.reserves lock.commandId key]
    exact le_self_add
  have hgiveUps : ∀ locks : List (LockRecord W),
      Escrow.held (locks.foldl Books.giveUp b).locksByTile.locksByCommandId
        LockRecord.reserves key
        ≤ Escrow.held b.locksByTile.locksByCommandId LockRecord.reserves key + 0 := by
    intro locks
    rw [(Books.giveUps_spec locks b).2, add_zero]
    exact Escrow.held_voidAll_le _ _ _ key
  cases m with
  | accept lock =>
      show Escrow.held (b.accept lock).locksByTile.locksByCommandId _ key ≤ _
      rw [Books.accept_locksByTile, CombatLockIndex.addLock_locksByCommandId hkeyed]
      have hplace := Escrow.held_place b.locksByTile.locksByCommandId LockRecord.reserves
        lock.commandId lock key
      exact le_self_add.trans (le_of_eq hplace)
  | fire i lock event =>
      show Escrow.held ((b.disarm i).resolve lock event).locksByTile.locksByCommandId _ key ≤ _
      rw [Books.resolve_locksByTile]
      exact hremove lock
  | rush lock event =>
      show Escrow.held (b.resolve lock event).locksByTile.locksByCommandId _ key ≤ _
      rw [Books.resolve_locksByTile]
      exact hremove lock
  | cancel locks event => exact hgiveUps locks
  | sweep locks => exact hgiveUps locks
  | still => exact le_of_eq (add_zero _).symm
  | meet playerId => exact le_of_eq (add_zero _).symm
  | wait ms => exact le_of_eq (add_zero _).symm

theorem live_of_resolving (hlife : s.books.LockLife) {lock : LockRecord W}
    (hlock : resolvingLock s e = some lock) (howns : s.locksByTile.ownsTargetSlot lock = true) :
    s.locksByTile.Live lock := by
  obtain ⟨holder, hslot, hid⟩ := (CombatLockIndex.ownsTargetSlot_iff s.locksByTile lock).mp howns
  have hlive : s.locksByTile.Live holder := (hlife.slots _ holder hslot).2
  have hsame : holder = lock := by
    refine sole_of_resolvingLock hlife hlock holder ?_
    rw [← hid]
    exact hlive
  rw [← hsame]
  exact hlive

/-- **What a step does to the charges**: a resolved fight takes off what it
spends, an accepted lock adds what it reserves. -/
theorem charged_step (hlife : s.books.LockLife) (e : Event W) (key : TileKey W) :
    (step s e).charged key + spends s e key ≤ s.charged key + (moveOf s e).takes key := by
  have hmoved : (step s e).liveLocks
      = ((moveOf s e).apply s.books).locksByTile.locksByCommandId := by
    rw [← books_step]
    rfl
  have hle := BooksMove.held_apply_le hlife.keyed (moveOf s e) key
  rw [← hmoved] at hle
  rw [charged_eq_held, charged_eq_held]
  unfold spends
  cases hlock : resolvingLock s e with
  | none => exact le_trans (le_of_eq (add_zero _)) hle
  | some lock =>
      dsimp only
      unfold resolutionSpends
      by_cases howns : s.locksByTile.ownsTargetSlot lock = true
      · rw [if_pos howns]
        have hunder := Escrow.heldUnder_of_get LockRecord.reserves
          (live_of_resolving hlife hlock howns) key
        have hvoid := Escrow.held_void s.liveLocks LockRecord.reserves lock.commandId key
        have herase : (step s e).liveLocks = s.liveLocks.erase lock.commandId :=
          congrArg CombatLockIndex.locksByCommandId (index_of_resolvingLock hlock)
        rw [herase, ← hunder, hvoid]
        exact le_self_add
      · rw [if_neg howns]
        exact le_trans (le_of_eq (add_zero _)) hle

theorem BooksMove.live_of_apply {b : Books W} (hkeyed : b.locksByTile.Keyed) {m : BooksMove W}
    {l : LockRecord W} (h : (m.apply b).locksByTile.Live l) :
    b.locksByTile.Live l ∨ m = .accept l := by
  have hgiveUps : ∀ (locks : List (LockRecord W)) {b : Books W},
      (locks.foldl Books.giveUp b).locksByTile.Live l → b.locksByTile.Live l := by
    intro locks
    induction locks with
    | nil =>
        intro b h
        exact h
    | cons lock rest ih =>
        intro b h
        have hrest := ih (b := b.giveUp lock) h
        rw [Books.giveUp_locksByTile] at hrest
        exact (CombatLockIndex.live_removeLock_iff.mp hrest).1
  cases m with
  | accept lock =>
      rcases Books.LockLife.live_accept hkeyed h with rfl | ⟨-, hold⟩
      · exact Or.inr rfl
      · exact Or.inl hold
  | fire i lock event =>
      have hresolve : ((b.disarm i).resolve lock event).locksByTile.Live l := h
      rw [Books.resolve_locksByTile] at hresolve
      exact Or.inl (CombatLockIndex.live_removeLock_iff.mp hresolve).1
  | rush lock event =>
      have hresolve : (b.resolve lock event).locksByTile.Live l := h
      rw [Books.resolve_locksByTile] at hresolve
      exact Or.inl (CombatLockIndex.live_removeLock_iff.mp hresolve).1
  | cancel locks event => exact Or.inl (hgiveUps locks h)
  | sweep locks => exact Or.inl (hgiveUps locks h)
  | still => exact Or.inl h
  | meet playerId => exact Or.inl h
  | wait ms => exact Or.inl h

theorem live_of_step (hlife : s.books.LockLife) {lock : LockRecord W}
    (h : (step s e).locksByTile.Live lock) :
    (s.locksByTile.Live lock ∧ resolvingLock s e ≠ some lock) ∨ moveOf s e = .accept lock := by
  have hmoved : ((moveOf s e).apply s.books).locksByTile.Live lock := by
    rw [← books_step]
    exact h
  rcases BooksMove.live_of_apply hlife.keyed hmoved with hold | hnew
  · refine Or.inl ⟨hold, fun hlock => ?_⟩
    rw [index_of_resolvingLock hlock] at h
    exact (CombatLockIndex.live_removeLock_iff.mp h).2 rfl
  · exact Or.inr hnew

/-! ## §3. Reservations against armed locks. -/

theorem Books.giveUps_scheduled (locks : List (LockRecord W)) (b : Books W) :
    (locks.foldl Books.giveUp b).scheduled = b.scheduled :=
  List.foldlRecOn (motive := fun b' : Books W => b'.scheduled = b.scheduled) _ _ rfl
    (fun b' hb lock _ => (Books.refund_fields (b'.drop lock) lock).2.1.trans hb)

theorem LockRecord.releases_of_attack {lock : LockRecord W} (h : lock.actionType = .ATTACK)
    (key : TileKey W) : lock.releases key = lock.reserves key := by
  unfold LockRecord.releases LockRecord.reserves LockRecord.namedAt LockRecord.fundedAt
  rw [h]
  simp

namespace Books

theorem resolve_reserved (b : Books W) (lock : LockRecord W) (event : SimulationEvent W) :
    (b.resolve lock event).musterReservedByKey = (b.release lock).musterReservedByKey := by
  unfold resolve refund
  split
  · rfl
  · split <;> rfl

theorem armedCharge_accept (b : Books W) (lock : LockRecord W) (key : TileKey W) :
    (b.accept lock).armedCharge key = b.armedCharge key + lock.reserves key := by
  unfold armedCharge
  rw [accept_scheduled, List.map_append, List.sum_append]
  simp

theorem armedCharge_disarm {b : Books W} {i : Nat} {timer : ScheduledResolution W}
    (h : b.scheduled[i]? = some timer) (key : TileKey W) :
    timer.lock.reserves key + (b.disarm i).armedCharge key = b.armedCharge key := by
  obtain ⟨hi, htimer⟩ := List.getElem?_eq_some_iff.mp h
  have hperm := (List.getElem_cons_eraseIdx_perm hi).map
    (fun timer : ScheduledResolution W => timer.lock.reserves key)
  rw [htimer] at hperm
  have hsum := hperm.sum_eq
  rw [List.map_cons, List.sum_cons] at hsum
  exact hsum

/-- **Reservations cover the armed locks** after every move that takes none
off for an expansion. -/
theorem armedCharge_apply_le {b : Books W} {m : BooksMove W} (hsound : m.Sound b)
    (hcover : ∀ key, b.armedCharge key ≤ Ledger.balance b.musterReservedByKey key)
    (hexpand : ∀ lock, m.resolved = some lock → lock.actionType = .EXPAND →
      ∀ key, min (lock.releases key) (Ledger.balance b.musterReservedByKey key) = 0)
    (key : TileKey W) :
    (m.apply b).armedCharge key ≤ Ledger.balance (m.apply b).musterReservedByKey key := by
  -- an expansion that may release nothing leaves the flag as it is
  have huntouched : ∀ lock : LockRecord W, m.resolved = some lock → lock.actionType = .EXPAND →
      Ledger.balance b.musterReservedByKey key - lock.releases key
        = Ledger.balance b.musterReservedByKey key := by
    intro lock hm htype
    have hsplit := tsub_add_min (a := Ledger.balance b.musterReservedByKey key)
      (b := lock.releases key)
    rw [min_comm, hexpand lock hm htype key, add_zero] at hsplit
    exact hsplit
  cases m with
  | accept lock =>
      show (b.accept lock).armedCharge key ≤ Ledger.balance (b.accept lock).musterReservedByKey key
      rw [armedCharge_accept, balance_accept]
      exact add_le_add_left (hcover key) _
  | fire i lock event =>
      obtain ⟨⟨dueAt, htimer⟩, _⟩ := hsound
      have hdisarm := armedCharge_disarm htimer key
      have harmed : ((b.disarm i).resolve lock event).armedCharge key
          = (b.disarm i).armedCharge key := by
        unfold armedCharge
        rw [resolve_scheduled]
      show ((b.disarm i).resolve lock event).armedCharge key
        ≤ Ledger.balance ((b.disarm i).resolve lock event).musterReservedByKey key
      rw [harmed, resolve_reserved, balance_release]
      show _ ≤ Ledger.balance b.musterReservedByKey key - lock.releases key
      cases htype : lock.actionType with
      | EXPAND =>
          rw [huntouched lock rfl htype]
          refine le_trans ?_ (hcover key)
          rw [← hdisarm]
          exact le_add_self
      | ATTACK =>
          rw [LockRecord.releases_of_attack htype]
          have hle := hcover key
          rw [← hdisarm] at hle
          exact le_tsub_of_add_le_left hle
  | rush lock event =>
      have harmed : (b.resolve lock event).armedCharge key = b.armedCharge key := by
        unfold armedCharge
        rw [resolve_scheduled]
      show (b.resolve lock event).armedCharge key
        ≤ Ledger.balance (b.resolve lock event).musterReservedByKey key
      rw [harmed, resolve_reserved, balance_release, huntouched lock rfl hsound.1]
      exact hcover key
  | cancel locks event =>
      show (locks.foldl giveUp b).armedCharge key
        ≤ Ledger.balance (locks.foldl giveUp b).musterReservedByKey key
      unfold armedCharge
      rw [giveUps_scheduled, (giveUps_spec locks b).1]
      exact hcover key
  | sweep locks =>
      show (locks.foldl giveUp b).armedCharge key
        ≤ Ledger.balance (locks.foldl giveUp b).musterReservedByKey key
      unfold armedCharge
      rw [giveUps_scheduled, (giveUps_spec locks b).1]
      exact hcover key
  | still => exact hcover key
  | meet playerId => exact hcover key
  | wait ms => exact hcover key

end Books

/-! ## §4. One step. -/

theorem BooksMove.armed_of_apply {b : Books W} {m : BooksMove W}
    {timer : ScheduledResolution W} (h : timer ∈ (m.apply b).scheduled) :
    timer ∈ b.scheduled ∨ m = .accept timer.lock := by
  cases m with
  | accept lock =>
      have harmed : timer ∈ (b.accept lock).scheduled := h
      rw [Books.accept_scheduled] at harmed
      rcases List.mem_append.mp harmed with hold | hnew
      · exact Or.inl hold
      · rw [List.mem_singleton] at hnew
        exact Or.inr (by rw [hnew])
  | fire i lock event =>
      have harmed : timer ∈ ((b.disarm i).resolve lock event).scheduled := h
      rw [Books.resolve_scheduled] at harmed
      exact Or.inl (List.mem_of_mem_eraseIdx harmed)
  | rush lock event =>
      have harmed : timer ∈ (b.resolve lock event).scheduled := h
      rw [Books.resolve_scheduled] at harmed
      exact Or.inl harmed
  | cancel locks event =>
      have harmed : timer ∈ (locks.foldl Books.giveUp b).scheduled := h
      rw [Books.giveUps_scheduled] at harmed
      exact Or.inl harmed
  | sweep locks =>
      have harmed : timer ∈ (locks.foldl Books.giveUp b).scheduled := h
      rw [Books.giveUps_scheduled] at harmed
      exact Or.inl harmed
  | still => exact Or.inl h
  | meet playerId => exact Or.inl h
  | wait ms => exact Or.inl h

theorem armed_of_resolving (hlife : s.books.LockLife) {lock : LockRecord W}
    (h : resolvingLock s e = some lock) : ∃ timer ∈ s.scheduled, timer.lock = lock := by
  have hsound := moveOf_sound s e
  rw [resolvingLock_eq] at h
  cases hmove : moveOf s e with
  | fire i l event =>
      rw [hmove] at h hsound
      cases h
      obtain ⟨⟨dueAt, htimer⟩, _⟩ := hsound
      exact ⟨_, List.mem_of_getElem? htimer, rfl⟩
  | rush l event =>
      rw [hmove] at h hsound
      cases h
      obtain ⟨_, ⟨key, hslot⟩, _⟩ := hsound
      exact hlife.liveArmed lock (hlife.slots key lock hslot).2
  | _ =>
      rw [hmove] at h
      cases h

theorem barbarian_of_accepted_loses {lock : LockRecord W} (h : moveOf s e = .accept lock)
    {key : TileKey W} (hkey : key ∈ loses s e) : isBarbarianFaction lock.playerId = true := by
  obtain ⟨ctx, command, actionType, baseLock, rfl, hv, rfl⟩ := accepted_of_move h
  have hlost : key ∈ frontierLoses ctx s command actionType := hkey
  unfold frontierLoses at hlost
  rw [hv] at hlost
  dsimp only at hlost
  unfold launchLoses at hlost
  split at hlost
  next hlaunch => exact accepted_launched h hlaunch.1
  · exact absurd hlost List.not_mem_nil

theorem stagedAt_of_flagAt {key : TileKey W} {muster : MusterState W}
    (h : s.flagAt key = some muster) : s.stagedAt key = muster.amount := by
  unfold stagedAt
  rw [h]

theorem LockRecord.fundedAt_ne_zero {lock : LockRecord W} {key : TileKey W}
    (h : lock.fundedAt key ≠ 0) : lock.actionType = .ATTACK ∧ lock.musterSourceKey = some key
      ∧ lock.fundedAt key = lock.manpowerCost := by
  unfold LockRecord.fundedAt at h ⊢
  by_cases hnames : lock.actionType = .ATTACK ∧ lock.musterSourceKey = some key
  · rw [if_pos hnames]
    exact ⟨hnames.1, hnames.2, rfl⟩
  · rw [if_neg hnames] at h
    exact absurd rfl h

/-- **A new lock fits**: the flags cover it beside the live ones. -/
theorem accepted_covered {lock : LockRecord W} (hlife : s.books.LockLife) (hcover : FlagsCover s)
    (hmeet : SparesFlags s e) (h : moveOf s e = .accept lock) (key : TileKey W) :
    s.charged key + lock.reserves key ≤ s.stagedAt key := by
  have hreserved : s.charged key ≤ s.reservedAt key :=
    (charged_le_armed hlife key).trans (hcover.reserved key)
  by_cases hshielded : lock.shieldedAt key = 0
  · unfold LockRecord.reserves
    rw [hshielded, add_zero]
    by_cases hfunded : lock.fundedAt key = 0
    · rw [hfunded, add_zero]
      exact hcover.staged key
    · obtain ⟨hattack, hsource, hcost⟩ := LockRecord.fundedAt_ne_zero hfunded
      rw [hcost]
      cases hfree : s.fundableAt lock.playerId lock.manpowerCost key with
      | none => exact hmeet.fallback lock key h hattack hsource hfree
      | some available =>
          obtain ⟨muster, hflag, _, hle⟩ := fundableAt_spec hfree
          rw [stagedAt_of_flagAt hflag]
          exact (add_le_add_left hreserved _).trans hle
  · have hfree := (accepted_shield h hshielded).2
    calc s.charged key + lock.reserves key
        = s.charged key + lock.fundedAt key + lock.shieldedAt key := (add_assoc _ _ _).symm
      _ ≤ s.reservedAt key + lock.fundedAt key + lock.shieldedAt key :=
        add_le_add_left (add_le_add_left hreserved _) _
      _ ≤ s.stagedAt key := hfree

theorem accepted_owned {lock : LockRecord W} (h : moveOf s e = .accept lock) {key : TileKey W}
    (hfunded : lock.fundedAt key ≠ 0) :
    ∃ muster, s.flagAt key = some muster ∧ muster.ownerId = lock.playerId := by
  obtain ⟨hattack, hsource, hcost⟩ := LockRecord.fundedAt_ne_zero hfunded
  cases hfree : s.fundableAt lock.playerId lock.manpowerCost key with
  | none =>
      rcases accepted_source h hattack hsource hfree with hzero | howned
      · rw [hcost] at hfunded
        exact absurd hzero hfunded
      · exact howned
  | some available =>
      obtain ⟨muster, hflag, howner, _⟩ := fundableAt_spec hfree
      exact ⟨muster, hflag, howner⟩

theorem uncharged_of_loses (hlife : s.books.LockLife) (hmeet : SparesFlags s e) {key : TileKey W}
    (hkey : key ∈ loses s e) {lock : LockRecord W} (hlive : (step s e).locksByTile.Live lock) :
    lock.reserves key = 0 := by
  rcases live_of_step hlife hlive with ⟨hold, hother⟩ | hnew
  · exact hmeet.carried key hkey lock hold hother
  · exact accepted_barbarian hnew (barbarian_of_accepted_loses hnew hkey) key

theorem FlagKept.staged_le {s t : CombatState W} {key : TileKey W} {spent : ℚ≥0}
    (h : FlagKept (s.flagAt key) (t.flagAt key) spent) :
    s.stagedAt key ≤ t.stagedAt key + spent := by
  unfold stagedAt
  cases hbefore : s.flagAt key with
  | none => exact zero_le
  | some m =>
      rw [hbefore] at h
      cases hafter : t.flagAt key with
      | none =>
          rw [hafter] at h
          exact absurd h id
      | some m' =>
          rw [hafter] at h
          exact h.2

/-- **Step lemma**: the flags keep covering the locks. -/
theorem flagsCover_step (s : CombatState W) (e : Event W) (hlife : s.books.LockLife)
    (hcover : FlagsCover s) (hmeet : SparesFlags s e) : FlagsCover (step s e) := by
  have hlife' : (step s e).books.LockLife := lockLife_step s e hlife hmeet.fresh
  have hbooks := books_step s e
  have hfurnished : ∀ lock, resolvingLock s e = some lock → lock.Furnished := by
    intro lock hlock
    obtain ⟨timer, hmem, rfl⟩ := armed_of_resolving hlife hlock
    exact hcover.furnished timer hmem
  have hkeeps := keeps_step s e hfurnished
  refine ⟨?_, ?_, ?_, ?_⟩
  · intro timer htimer
    have harmed : timer ∈ ((moveOf s e).apply s.books).scheduled := by
      rw [← hbooks]
      exact htimer
    rcases BooksMove.armed_of_apply harmed with hold | hnew
    · exact hcover.furnished timer hold
    · exact accepted_furnished hnew
  · intro key
    have hle := Books.armedCharge_apply_le (moveOf_sound s e) hcover.reserved
      (fun lock hlock htype => hmeet.expansion lock (by rw [resolvingLock_eq]; exact hlock) htype)
      key
    rw [← hbooks] at hle
    exact hle
  · intro key
    rcases hkeeps key with hlost | hkept
    · -- nothing is charged to a flag that is lost
      have hzero : (step s e).charged key = 0 := by
        rw [charged_eq_held]
        refine Escrow.held_eq_zero (fun id lock hget => ?_)
        refine uncharged_of_loses hlife hmeet hlost ?_
        unfold CombatLockIndex.Live
        rw [hlife'.keyed id lock hget]
        exact hget
      rw [hzero]
      exact zero_le
    · have hstep := charged_step hlife e key
      have hbefore : s.charged key + (moveOf s e).takes key ≤ s.stagedAt key := by
        cases hmove : moveOf s e with
        | accept lock => exact accepted_covered hlife hcover hmeet hmove key
        | _ => exact (le_of_eq (add_zero _)).trans (hcover.staged key)
      exact le_of_add_le_add_right (hstep.trans (hbefore.trans hkept.staged_le))
  · intro lock hlive key hfunded
    have hcharges : lock.reserves key ≠ 0 := by
      intro hzero
      exact hfunded (add_eq_zero.mp hzero).1
    have hbefore : ∃ muster, s.flagAt key = some muster ∧ muster.ownerId = lock.playerId := by
      rcases live_of_step hlife hlive with ⟨hold, _⟩ | hnew
      · exact hcover.owned lock hold key hfunded
      · exact accepted_owned hnew hfunded
    obtain ⟨muster, hflag, howner⟩ := hbefore
    rcases hkeeps key with hlost | hkept
    · exact absurd (uncharged_of_loses hlife hmeet hlost hlive) hcharges
    · rw [hflag] at hkept
      cases hafter : (step s e).flagAt key with
      | none =>
          rw [hafter] at hkept
          exact absurd hkept id
      | some muster' =>
          rw [hafter] at hkept
          exact ⟨muster', rfl, hkept.1.trans howner⟩

/-! ## §5. Paying. -/

theorem stagedManpower_consumeOriginMuster {key : TileKey W} {muster : MusterState W}
    (hflag : s.flagAt key = some muster) {amount : ℚ≥0} (hle : amount ≤ muster.amount) :
    (s.consumeOriginMuster key muster.ownerId amount).stagedManpower muster.ownerId + amount
      = s.stagedManpower muster.ownerId := by
  obtain ⟨tile, htile, hmuster⟩ := Option.bind_eq_some_iff.mp hflag
  unfold consumeOriginMuster
  rw [htile]
  dsimp only
  rw [hmuster]
  dsimp only
  rw [if_pos rfl]
  show (s.tiles.set key _).total (fun _ tile => stagedFor tile muster.ownerId) + amount
    = s.tiles.total (fun _ tile => stagedFor tile muster.ownerId)
  have hset := s.tiles.total_set key
    { tile with muster := some { muster with amount := muster.amount - amount, updatedAt := s.now } }
    (fun _ tile => stagedFor tile muster.ownerId)
  have hshare : s.tiles.share (fun _ tile => stagedFor tile muster.ownerId) key
      = muster.amount := by
    unfold InsertionMap.share
    rw [htile]
    show stagedFor tile muster.ownerId = _
    unfold stagedFor
    rw [hmuster]
    exact if_pos rfl
  have hleft : stagedFor { tile with muster := some { muster with
      amount := muster.amount - amount, updatedAt := s.now } } muster.ownerId
      = muster.amount - amount := if_pos rfl
  rw [hshare, hleft] at hset
  refine add_right_cancel (b := muster.amount - amount) ?_
  rw [add_assoc, add_tsub_cancel_of_le hle]
  exact hset

theorem consumeOriginMuster_of_not_owned {key : TileKey W} {p : PlayerId}
    (h : ¬ ∃ muster, s.flagAt key = some muster ∧ muster.ownerId = p) (amount : ℚ≥0) :
    s.consumeOriginMuster key p amount = s := by
  unfold consumeOriginMuster
  split
  · rfl
  next tile htile =>
    split
    · rfl
    next muster hmuster =>
      split
      next howner =>
        exact absurd ⟨muster, by rw [flagAt_of_get htile, hmuster], howner⟩ h
      · rfl

/-- **An attack pays**: in a state whose flags cover the locks, a step that
resolves an attack takes its whole cost. -/
theorem paysItsCost_of_flagsCover (hlife : s.books.LockLife) (hcover : FlagsCover s) (e : Event W) :
    PaysItsCost s e := by
  cases e with
  | timer ctx i =>
      intro lock hdue howns htype hbarb
      have hresolving : resolvingLock s (.timer ctx i) = some lock := hdue
      have hlive := live_of_resolving hlife hresolving howns
      obtain ⟨timer, hmem, htimer⟩ := armed_of_resolving hlife hresolving
      have hfurnished : lock.Furnished := htimer ▸ hcover.furnished timer hmem
      obtain ⟨source, hsource⟩ := Option.isSome_iff_exists.mp (hfurnished.funded htype hbarb)
      generalize hfight : released (unbuffered { s with scheduled := s.scheduled.eraseIdx i })
        lock = t
      -- up to the spending the tiles are those of the state before
      have htiles : ((adjustPoints t lock.playerId (fun points =>
          max 0 (points - FRONTIER_CLAIM_COST))).emitEvent (resolvedEvent ctx t lock)).tiles
          = s.tiles := by
        show (adjustPoints t lock.playerId _).tiles = s.tiles
        rw [tiles_adjustPoints, ← hfight, released_tiles]
        rfl
      have hknown : ((adjustPoints t lock.playerId (fun points =>
          max 0 (points - FRONTIER_CLAIM_COST))).emitEvent (resolvedEvent ctx t lock)).knows
          lock.playerId = true := by
        show (adjustPoints t lock.playerId _).books.known lock.playerId = true
        rw [books_adjustPoints, ← hfight]
        show ((released (unbuffered { s with scheduled := s.scheduled.eraseIdx i })
          lock).players.get lock.playerId).isSome = true
        rw [released_players]
        exact hlife.liveKnown lock hlive
      unfold fightSpent
      dsimp only
      generalize (adjustPoints t lock.playerId (fun points =>
        max 0 (points - FRONTIER_CLAIM_COST))).emitEvent (resolvedEvent ctx t lock) = u at *
      obtain ⟨player, hplayer⟩ := Option.isSome_iff_exists.mp hknown
      have hread : ∀ key, u.flagAt key = s.flagAt key := by
        intro key
        unfold flagAt
        rw [htiles]
      have hpool : u.stagedManpower lock.playerId = s.stagedManpower lock.playerId := by
        unfold stagedManpower
        rw [htiles]
      unfold spendAttackerMuster
      rw [htype, hplayer, hsource]
      dsimp only
      rw [if_neg (by rw [hbarb]; decide), Option.getD_some, ← hpool]
      have hfunded : lock.fundedAt source = lock.manpowerCost := if_pos ⟨htype, hsource⟩
      by_cases howned : ∃ muster, s.flagAt source = some muster ∧ muster.ownerId = lock.playerId
      · obtain ⟨muster, hflag, howner⟩ := howned
        have hcharge := (reserves_le_charged hlive source).trans (hcover.staged source)
        rw [stagedAt_of_flagAt hflag] at hcharge
        have hle : lock.manpowerCost ≤ muster.amount := by
          rw [← hfunded]
          exact le_self_add.trans hcharge
        rw [← howner]
        exact stagedManpower_consumeOriginMuster ((hread source).trans hflag) hle
      · have hzero : lock.manpowerCost = 0 := by
          by_contra hne
          exact howned (hcover.owned lock hlive source (by rw [hfunded]; exact hne))
        rw [consumeOriginMuster_of_not_owned (by rw [hread]; exact howned), hzero, add_zero]
  | _ => trivial

/-! ## §6. Every run. -/

theorem opening_flagsCover (now : Int) (players : InsertionMap PlayerId DomainPlayer)
    (tiles : InsertionMap (TileKey W) (DomainTileState W))
    (flags : InsertionMap PlayerId (List (TileKey W))) :
    FlagsCover (CombatState.opening now players tiles flags) where
  furnished := fun timer h => absurd h List.not_mem_nil
  reserved := fun key => le_refl _
  staged := fun key => (add_zero (0 : ℚ≥0)).le.trans zero_le
  owned := fun lock h => absurd h (by simp [CombatLockIndex.Live, CombatState.opening,
    CombatLockIndex.empty])

/-- **Over every run** whose steps spare the flags, no flag is charged for
more than it has staged, and every attack that resolves pays its cost. -/
theorem staged_covers_charges (now : Int) (players : InsertionMap PlayerId DomainPlayer)
    (tiles : InsertionMap (TileKey W) (DomainTileState W))
    (flags : InsertionMap PlayerId (List (TileKey W))) (events : List (Event W))
    (hmeet : Run.StepsMeet step SparesFlags (.opening now players tiles flags) events) :
    Run.Along step ChargesStaged (.opening now players tiles flags) events
      ∧ Run.StepsMeet step PaysItsCost (.opening now players tiles flags) events := by
  have hinv : Run.Along step (fun s => s.books.LockLife ∧ FlagsCover s)
      (.opening now players tiles flags) events := by
    refine Run.along_of_stepsMeet (C := SparesFlags) ?_ events _
      ⟨opening_lockLife now players tiles flags, opening_flagsCover now players tiles flags⟩ hmeet
    intro s e hs hstep
    exact ⟨lockLife_step s e hs.1 hstep.fresh, flagsCover_step s e hs.1 hs.2 hstep⟩
  refine ⟨hinv.mono (fun s hs => hs.2.staged) events, ?_⟩
  exact Run.StepsMeet.of_along (fun s e hs _ => paysItsCost_of_flagsCover hs.1 hs.2 e) events _
    hinv hmeet

def BooksMove.accepted : BooksMove W → Option (LockRecord W)
  | .accept lock => some lock
  | _ => none

def attackLock : LockRecord smallestWorld where
  commandId := "attack"
  playerId := playerOne
  actionType := .ATTACK
  manpowerCost := attackPrice
  originKey := borderKey 1 1
  targetKey := borderKey 2 1
  resolvesAt := 15000
  source := .player
  combatResolution := some (buildLockedCombatResolution quietFrontier.roll border
    { commandId := "attack", playerId := playerOne, actionType := .ATTACK, manpowerCost := attackPrice,
      originKey := borderKey 1 1, targetKey := borderKey 2 1, resolvesAt := 15000,
      source := .player, combatResolution := none, musterSourceKey := some (borderKey 1 1),
      barbarianLaunch := false })
  musterSourceKey := some (borderKey 1 1)
  barbarianLaunch := false

/-- One attack, paid from the flag it leaves from. -/
theorem staged_covers_charges_one_attack :
    Run.Along step ChargesStaged border
        [.frontier quietFrontier (orderTo "attack" (borderKey 2 1)) .ATTACK, .wait 15000,
          .timer quietResolution 0]
      ∧ Run.StepsMeet step PaysItsCost border
        [.frontier quietFrontier (orderTo "attack" (borderKey 2 1)) .ATTACK, .wait 15000,
          .timer quietResolution 0] := by
  have hlock : (moveOf border (.frontier quietFrontier
      (orderTo "attack" (borderKey 2 1)) .ATTACK)).accepted = some attackLock := by
    decide +kernel
  -- the attack is funded by its flag, so the fallback is not needed
  have haccept : SparesFlags border (.frontier quietFrontier
      (orderTo "attack" (borderKey 2 1)) .ATTACK) := by
    refine ⟨?_, ?_, ?_, ?_⟩
    · unfold FreshCommand
      cases moveOf border (.frontier quietFrontier
        (orderTo "attack" (borderKey 2 1)) .ATTACK) <;> first | rfl | trivial
    · intro lock source hmove _ hsource hfree
      rw [hmove] at hlock
      cases Option.some.inj hlock
      cases Option.some.inj hsource
      revert hfree
      decide +kernel
    · intro lock h
      cases h
    · intro key hkey
      rw [show loses border (.frontier quietFrontier
        (orderTo "attack" (borderKey 2 1)) .ATTACK) = [] by decide +kernel] at hkey
      exact absurd hkey List.not_mem_nil
  have hwait : ∀ s : CombatState smallestWorld, SparesFlags s (.wait 15000) := by
    intro s
    refine ⟨trivial, ?_, ?_, ?_⟩
    · intro lock source h
      cases h
    · intro lock h
      cases h
    · intro key hkey
      exact absurd hkey List.not_mem_nil
  -- the timer takes the captured tile's flag, and its lock is the only one
  have htimer : SparesFlags (step (step border (.frontier quietFrontier
      (orderTo "attack" (borderKey 2 1)) .ATTACK)) (.wait 15000)) (.timer quietResolution 0) := by
    have hresolving : resolvingLock (step (step border (.frontier quietFrontier
        (orderTo "attack" (borderKey 2 1)) .ATTACK)) (.wait 15000)) (.timer quietResolution 0)
        = some attackLock := by decide +kernel
    refine ⟨freshCommand_timer _ _ _, ?_, ?_, ?_⟩
    · intro lock source hmove
      obtain ⟨_, _, _, _, hframe, _⟩ := accepted_of_move hmove
      cases hframe
    · intro lock h htype
      rw [hresolving] at h
      cases Option.some.inj h
      cases htype
    · intro key _ lock hlive hother
      have hvalues : (step (step border (.frontier quietFrontier
          (orderTo "attack" (borderKey 2 1)) .ATTACK)) (.wait 15000)).locksByTile.values
          = [attackLock] := by decide +kernel
      have hmem := AssocEntries.mem_of_lookup hlive
      have hvalue : lock ∈ (step (step border (.frontier quietFrontier
          (orderTo "attack" (borderKey 2 1)) .ATTACK)) (.wait 15000)).locksByTile.values :=
        List.mem_map.mpr ⟨_, hmem, rfl⟩
      rw [hvalues, List.mem_singleton] at hvalue
      rw [hvalue] at hother
      exact absurd hresolving hother
  exact staged_covers_charges _ _ _ _ _ ⟨haccept, hwait _, htimer, trivial⟩

/-- Two attacks have left from one flag, and the first has been resolved. -/
def afterFirst : CombatState smallestWorld :=
  step (step (step (step border
    (.frontier quietFrontier (orderTo "attack" (borderKey 2 1)) .ATTACK))
    (.frontier quietFrontier (orderTo "second" (borderKey 2 2)) .ATTACK)) (.wait 15000))
    (.timer quietResolution 0)

/-- Two attacks leave from a flag that stages 60: no flag has the second's
cost free, and validation lets it through on the 60 the first has reserved.
The second finds the flag empty. -/
theorem fallback_spends_twice :
    ¬ Run.Along step ChargesStaged border
        [.frontier quietFrontier (orderTo "attack" (borderKey 2 1)) .ATTACK,
          .frontier quietFrontier (orderTo "second" (borderKey 2 2)) .ATTACK]
      ∧ ¬ Run.StepsMeet step PaysItsCost border
        [.frontier quietFrontier (orderTo "attack" (borderKey 2 1)) .ATTACK,
          .frontier quietFrontier (orderTo "second" (borderKey 2 2)) .ATTACK, .wait 15000,
          .timer quietResolution 0, .timer quietResolution 0] := by
  constructor
  · intro h
    have hflag := h.2.2 (borderKey 1 1)
    revert hflag
    decide +kernel
  · intro h
    have hsecond : (dueLock afterFirst 0).any (fun lock =>
        afterFirst.locksByTile.ownsTargetSlot lock && (lock.actionType = .ATTACK : Bool)
          && (isBarbarianFaction lock.playerId = false : Bool)
          && ((fightSpent quietResolution (released (unbuffered { afterFirst with
              scheduled := afterFirst.scheduled.eraseIdx 0 }) lock) lock).stagedManpower
                lock.playerId + lock.manpowerCost
            ≠ afterFirst.stagedManpower lock.playerId : Bool)) = true := by decide +kernel
    obtain ⟨lock, hdue, hlock⟩ := (Option.any_eq_true _ _).mp hsecond
    simp only [Bool.and_eq_true, decide_eq_true_eq] at hlock
    obtain ⟨⟨⟨howns, htype⟩, hbarb⟩, hunpaid⟩ := hlock
    exact hunpaid (h.2.2.2.2.1 lock hdue howns htype hbarb)

end BorderEmpires.Combat
