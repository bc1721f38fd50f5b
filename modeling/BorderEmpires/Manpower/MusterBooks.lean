/-
  BorderEmpires.Manpower.MusterBooks
  **THE BOOKS OF A MUSTER PASS.**

  What flags gain their pool loses, and what a cleared flag held goes back
  to the pool up to its ceiling.  Visits are read through `FlagVisit`; a
  pass over one player's flags is a list induction over visits, and the
  passes of other players leave everything of this player alone.  All of it
  is exact arithmetic.
-/
import BorderEmpires.Manpower.MusterTick

namespace BorderEmpires.Manpower

/-! ## §1. Amounts. -/

variable {Key : Type}

variable (nowMs : ℚ) (world : MusterWorld Key)

/-- What a player's flag on a tile holds, zero without one. -/
def amountOn (playerId : String) (key : Key) : ℚ :=
  ((ownFlag world playerId key).map MusterState.amount).getD 0

def staged (playerId : String) (musterKeys : List Key) : ℚ :=
  (musterKeys.map (amountOn world playerId)).sum

def poolOf (playerId : String) : ℚ :=
  ((world.players playerId).map fun player => player.record.pool).getD 0

/-- The part of a refund that is cut off at the ceiling. -/
def MusterEntry.cutOff (entry : MusterEntry Key) : ℚ :=
  match entry.move with
  | .REFUND ceiling => max 0 (entry.poolBefore + entry.flag.amount - ceiling)
  | .INFLOW _ _ _ => 0

def entriesOf (report : List (MusterEntry Key)) (playerId : String) : List (MusterEntry Key) :=
  report.filter fun entry => decide (entry.playerId = playerId)

/-- The movements lead from one pool to another, each from where the one before
left it. -/
def Chained : ℚ → List (MusterEntry Key) → ℚ → Prop
  | pool, [], final => pool = final
  | pool, entry :: entries, final => entry.poolBefore = pool ∧ Chained entry.poolAfter entries final

theorem Chained.append {mid final : ℚ} {entries' : List (MusterEntry Key)}
    (h' : Chained mid entries' final) {entries : List (MusterEntry Key)} :
    ∀ {pool : ℚ}, Chained pool entries mid → Chained pool (entries ++ entries') final := by
  induction entries with
  | nil => exact fun h => h ▸ h'
  | cons entry entries ih => exact fun h => ⟨h.1, ih h.2⟩

/-- An entry keeps its limits; `player` is the owner as the pass settled
it. -/
def EntrySound (input : MusterTickInput Key) (playerId : String) (player : MusterPlayer)
    (entry : MusterEntry Key) : Prop :=
  entry.playerId = playerId ∧ 0 ≤ entry.poolAfter ∧
    match entry.move with
    | .REFUND ceiling =>
        ceiling = manpowerCeiling player.record (input.cap playerId)
          ∧ entry.poolBefore ≤ ceiling
          ∧ entry.poolAfter = min ceiling (entry.poolBefore + entry.flag.amount)
    | .INFLOW inflow flagCap floor =>
        flagCap = musterFlagCap (input.cap playerId) entry.flag.capLevel
          ∧ floor = musterPoolFloorFor player
          ∧ 0 < inflow
          ∧ entry.poolAfter = entry.poolBefore - inflow
          ∧ entry.flag.amount + inflow ≤ flagCap
          ∧ floor ≤ entry.poolAfter

def isRefundOf (key : Key) (core : FlagCore) (entry : MusterEntry Key) : Prop :=
  entry.key = key ∧ entry.flag.core = core ∧ ∃ ceiling, entry.move = .REFUND ceiling

theorem amountOn_eq_core (playerId : String) (key : Key) :
    amountOn world playerId key = ((ownCore world playerId key).map FlagCore.amount).getD 0 := by
  rw [← ownFlag_core, Option.map_map]
  rfl

theorem ownCore_congr {world world' : MusterWorld Key} (playerId : String) {key : Key}
    (h : coreAt world' key = coreAt world key) :
    ownCore world' playerId key = ownCore world playerId key := by
  unfold ownCore
  rw [h]

theorem floor_nonneg (player : MusterPlayer) : 0 ≤ musterPoolFloorFor player := by
  unfold musterPoolFloorFor AI_BUILD_MANPOWER_FLOOR SETTLE_MANPOWER_COST RELAY_BEACON_MANPOWER
  split <;> norm_num

theorem creditManpower_pool {record : RuntimePlayer} {cap : ℚ} (h : Solvent record cap)
    (amount : ℚ) :
    (creditManpower record amount cap).pool = min (manpowerCeiling record cap)
      (record.pool + amount) := by
  unfold creditManpower RuntimePlayer.pool
  dsimp only
  rw [h.finite]
  rfl

/-! ## §2. One visit. -/

section Visit

variable {input : MusterTickInput Key} {playerId : String} {player : MusterPlayer}
  {activeCount : Nat} {key : Key} {flag : MusterState} {core : Option FlagCore}
  {record : RuntimePlayer} {entries : List (MusterEntry Key)}
  (h : FlagVisit input playerId player activeCount key flag core record entries)

include h

/-- **A visit keeps the books**: pool, flag and cut-off add up. -/
theorem FlagVisit.balance
    (hsolvent : Solvent player.record (input.cap playerId)) :
    record.pool + (core.map FlagCore.amount).getD 0 + (entries.map MusterEntry.cutOff).sum
      = player.record.pool + flag.amount := by
  cases h with
  | cleared cause =>
      rw [creditManpower_pool hsolvent]
      simp only [Option.map_none, Option.getD_none, List.map_cons, List.map_nil, List.sum_cons,
        List.sum_nil, MusterEntry.cutOff]
      rcases le_total (player.record.pool + flag.amount)
        (manpowerCeiling player.record (input.cap playerId)) with hle | hle
      · rw [min_eq_right hle, max_eq_left (by linarith)]
        ring
      · rw [min_eq_left hle, max_eq_right (by linarith)]
        ring
  | drawn live inflow hinflow hpos =>
      simp only [RuntimePlayer.pool, Option.map_some, Option.getD_some, List.map_cons,
        List.map_nil, List.sum_cons, List.sum_nil, MusterEntry.cutOff]
      ring
  | idle live =>
      simp [MusterState.core]

omit h in
theorem inflow_le_drawable (hpos : INFLOW_EPSILON
      < flagInflow input playerId player activeCount key flag) :
    0 < flagInflow input playerId player activeCount key flag
      ∧ musterPoolFloorFor player
          ≤ player.record.pool - flagInflow input playerId player activeCount key flag
      ∧ flag.amount + flagInflow input playerId player activeCount key flag
          ≤ musterFlagCap (input.cap playerId) flag.capLevel := by
  have hzero : 0 < flagInflow input playerId player activeCount key flag := by
    refine lt_trans ?_ hpos
    unfold INFLOW_EPSILON
    norm_num
  have hdrawable : flagInflow input playerId player activeCount key flag
      ≤ max 0 (player.record.pool - musterPoolFloorFor player) := min_le_right _ _
  have hheadroom : flagInflow input playerId player activeCount key flag
      ≤ max 0 (musterFlagCap (input.cap playerId) flag.capLevel - flag.amount) :=
    le_trans (min_le_left _ _) (min_le_right _ _)
  refine ⟨hzero, ?_, ?_⟩
  · -- a positive inflow means that the pool stands above its floor
    rcases le_total 0 (player.record.pool - musterPoolFloorFor player) with h | h
    · rw [max_eq_right h] at hdrawable
      linarith
    · rw [max_eq_left h] at hdrawable
      linarith
  · rcases le_total 0 (musterFlagCap (input.cap playerId) flag.capLevel - flag.amount) with h | h
    · rw [max_eq_right h] at hheadroom
      linarith
    · rw [max_eq_left h] at hheadroom
      linarith

theorem FlagVisit.ceiling :
    manpowerCeiling record (input.cap playerId)
      = manpowerCeiling player.record (input.cap playerId) := by
  cases h with
  | cleared cause => rfl
  | drawn live inflow hinflow hpos => rfl
  | idle live => rfl

theorem FlagVisit.solvent
    (hsolvent : Solvent player.record (input.cap playerId)) (hamount : 0 ≤ flag.amount) :
    Solvent record (input.cap playerId) := by
  have hnonneg : 0 ≤ player.record.pool := hsolvent.nonneg
  have hle : player.record.pool ≤ manpowerCeiling player.record (input.cap playerId) :=
    hsolvent.le_ceiling
  have hceiling := h.ceiling
  cases h with
  | cleared cause =>
      have hpool := creditManpower_pool hsolvent flag.amount
      have hsome : (creditManpower player.record flag.amount (input.cap playerId)).manpower
          = some (min (manpowerCeiling player.record (input.cap playerId))
              (player.record.pool + flag.amount)) := by
        unfold creditManpower RuntimePlayer.pool
        dsimp only
        rw [hsolvent.finite]
        rfl
      refine Solvent.of_some hsome (le_min (by linarith) (by linarith)) ?_
      rw [hceiling]
      exact min_le_left _ _
  | drawn live inflow hinflow hpos =>
      subst hinflow
      obtain ⟨hzero, hfloor, -⟩ := inflow_le_drawable hpos
      have hfloor0 := floor_nonneg player
      refine Solvent.of_some rfl (by linarith) ?_
      rw [hceiling]
      linarith
  | idle live => exact hsolvent

theorem FlagVisit.entries_sound
    (hsolvent : Solvent player.record (input.cap playerId)) (hamount : 0 ≤ flag.amount) :
    ∀ entry ∈ entries, EntrySound input playerId player entry := by
  have hrecord := h.solvent hsolvent hamount
  have hle : player.record.pool ≤ manpowerCeiling player.record (input.cap playerId) :=
    hsolvent.le_ceiling
  cases h with
  | cleared cause =>
      intro entry hentry
      rw [List.mem_singleton.mp hentry]
      exact ⟨rfl, hrecord.nonneg, rfl, hle, creditManpower_pool hsolvent flag.amount⟩
  | drawn live inflow hinflow hpos =>
      subst hinflow
      obtain ⟨hzero, hfloor, hcap⟩ := inflow_le_drawable hpos
      intro entry hentry
      rw [List.mem_singleton.mp hentry]
      exact ⟨rfl, hrecord.nonneg, rfl, rfl, hzero, rfl, hcap, hfloor⟩
  | idle live => exact fun entry hentry => absurd hentry List.not_mem_nil

theorem FlagVisit.chained :
    Chained player.record.pool entries record.pool := by
  cases h with
  | cleared cause => exact ⟨rfl, rfl⟩
  | drawn live inflow hinflow hpos => exact ⟨rfl, rfl⟩
  | idle live => exact rfl

/-- The flag is cleared with a refund, or stands with no less than it
held. -/
theorem FlagVisit.outcome :
    (core = none ∧ ∃ entry ∈ entries, isRefundOf key flag.core entry)
      ∨ (isStale input.nowMs flag = false ∧ ∃ kept, core = some kept
          ∧ kept.ownerId = flag.ownerId ∧ kept.setAt = flag.setAt
          ∧ flag.amount ≤ kept.amount) := by
  cases h with
  | cleared cause => exact .inl ⟨rfl, _, List.mem_singleton.mpr rfl, rfl, rfl, _, rfl⟩
  | drawn live inflow hinflow hpos =>
      subst hinflow
      have hzero := (inflow_le_drawable hpos).1
      exact .inr ⟨live, _, rfl, rfl, rfl, by dsimp only; linarith⟩
  | idle live => exact .inr ⟨live, _, rfl, rfl, rfl, le_rfl⟩

end Visit

/-! ## §3. One player's flags. -/

/-- What a pass over `musterKeys` leaves, for a player settled as
`player`. -/
structure Books (input : MusterTickInput Key) (playerId : String) (player : MusterPlayer)
    (musterKeys : List Key) (before after : TickState Key) (record : RuntimePlayer)
    (entries : List (MusterEntry Key)) : Prop where
  report : after.report = before.report ++ entries
  record_eq : after.world.players playerId = some (player.withRecord record)
  solvent : Solvent record (input.cap playerId)
  frame : ∀ k, k ∉ musterKeys → coreAt after.world k = coreAt before.world k
  balance : record.pool + staged after.world playerId musterKeys
      + (entries.map MusterEntry.cutOff).sum
    = player.record.pool + staged before.world playerId musterKeys
  sound : ∀ entry ∈ entries, EntrySound input playerId player entry
  unflagged : ∀ k ∈ musterKeys, ownCore before.world playerId k = none →
    ownCore after.world playerId k = none
  outcome : ∀ k ∈ musterKeys, ∀ core, ownCore before.world playerId k = some core →
    (ownCore after.world playerId k = none ∧ ∃ entry ∈ entries, isRefundOf k core entry)
      ∨ ∃ kept, ownCore after.world playerId k = some kept ∧ kept.setAt = core.setAt
          ∧ core.amount ≤ kept.amount
  chained : Chained player.record.pool entries record.pool

theorem Books.still (input : MusterTickInput Key) {playerId : String} {player : MusterPlayer}
    (musterKeys : List Key) {state : TickState Key}
    (hplayer : state.world.players playerId = some player)
    (hsolvent : Solvent player.record (input.cap playerId)) :
    Books input playerId player musterKeys state state player.record [] where
  report := (List.append_nil _).symm
  record_eq := hplayer
  solvent := hsolvent
  frame := fun _ _ => rfl
  balance := add_zero _
  sound := fun _ hentry => absurd hentry List.not_mem_nil
  unflagged := fun _ _ h => h
  outcome := fun _ _ core h => .inr ⟨core, h, rfl, le_rfl⟩
  chained := rfl

theorem staged_cons (playerId : String) (key : Key) (rest : List Key) :
    staged world playerId (key :: rest)
      = amountOn world playerId key + staged world playerId rest := rfl

theorem staged_congr {world world' : MusterWorld Key} (playerId : String) {musterKeys : List Key}
    (h : ∀ k ∈ musterKeys, coreAt world' k = coreAt world k) :
    staged world' playerId musterKeys = staged world playerId musterKeys := by
  unfold staged
  congr 1
  refine List.map_congr_left fun k hk => ?_
  rw [amountOn_eq_core, amountOn_eq_core, ownCore_congr playerId (h k hk)]

section Flags

variable [DecidableEq Key] {input : MusterTickInput Key} {playerId : String} {activeCount : Nat}

/-- No flag of the player on the tiles is stale. -/
def Fresh (playerId : String) (musterKeys : List Key) : Prop :=
  ∀ k ∈ musterKeys, ∀ core, ownCore world playerId k = some core →
    staleSetAt nowMs core.setAt = false

omit [DecidableEq Key] in
theorem Books.cons_passed {player : MusterPlayer} {key : Key} {rest : List Key}
    {before after : TickState Key} {record : RuntimePlayer} {entries : List (MusterEntry Key)}
    (hkey : key ∉ rest) (hnone : ownCore before.world playerId key = none)
    (h : Books input playerId player rest before after record entries) :
    Books input playerId player (key :: rest) before after record entries := by
  have hafter : ownCore after.world playerId key = none :=
    (ownCore_congr playerId (h.frame key hkey)).trans hnone
  refine ⟨h.report, h.record_eq, h.solvent, ?_, ?_, h.sound, ?_, ?_, h.chained⟩
  · exact fun k hk => h.frame k fun hmem => hk (List.mem_cons_of_mem key hmem)
  · have hbalance := h.balance
    rw [staged_cons, staged_cons, amountOn_eq_core, amountOn_eq_core, hafter, hnone]
    linarith
  · intro k hk hbefore
    rcases List.mem_cons.mp hk with rfl | hk
    · exact hafter
    · exact h.unflagged k hk hbefore
  · intro k hk core hsome
    rcases List.mem_cons.mp hk with rfl | hk
    · rw [hnone] at hsome
      cases hsome
    · exact h.outcome k hk core hsome

section Visited

variable {player : MusterPlayer} {key : Key} {flag : MusterState} {before mid : TickState Key}
  {core : Option FlagCore} {record : RuntimePlayer} {entries : List (MusterEntry Key)}
  (h : Visited input playerId player activeCount key flag before mid core record entries)

include h

theorem Visited.core_of_ne
    {k : Key} (hk : k ≠ key) : coreAt mid.world k = coreAt before.world k := by
  rw [h.cores k, if_neg hk]

theorem Visited.ownCore_key
    (howner : flag.ownerId = playerId) : ownCore mid.world playerId key = core := by
  unfold ownCore
  rw [h.cores key, if_pos rfl]
  rcases h.visit.outcome with ⟨hnone, -⟩ | ⟨-, kept, hkept, hown, -, -⟩
  · rw [hnone]
    rfl
  · rw [hkept, Option.filter_eq_some_iff]
    exact ⟨rfl, by simpa using hown.trans howner⟩

theorem Visited.sound_of_withRecord
    {entry : MusterEntry Key} (hentry : EntrySound input playerId (player.withRecord record) entry) :
    EntrySound input playerId player entry := by
  unfold EntrySound at hentry ⊢
  rw [← h.visit.ceiling]
  exact hentry

omit h in
/-- **A visit in front of a pass.** -/
theorem Books.cons_visited {rest : List Key} {after : TickState Key} {record' : RuntimePlayer}
    {entries' : List (MusterEntry Key)}
    (hvisited : Visited input playerId player activeCount key flag before mid core record entries)
    (hkey : key ∉ rest) (hflag : ownFlag before.world playerId key = some flag)
    (hsolvent : Solvent player.record (input.cap playerId)) (hamount : 0 ≤ flag.amount)
    (h : Books input playerId (player.withRecord record) rest mid after record' entries') :
    Books input playerId player (key :: rest) before after record' (entries ++ entries') := by
  have hbefore : ownCore before.world playerId key = some flag.core := by
    rw [← ownFlag_core, hflag]
    rfl
  have hafter : ownCore after.world playerId key = core :=
    (ownCore_congr playerId (h.frame key hkey)).trans
      (hvisited.ownCore_key (ownFlag_some hflag).2)
  have hsame : ∀ k ∈ rest, coreAt mid.world k = coreAt before.world k :=
    fun k hk => hvisited.core_of_ne fun heq : k = key => hkey (heq ▸ hk)
  refine ⟨?_, h.record_eq, h.solvent, ?_, ?_, ?_, ?_, ?_, h.chained.append hvisited.visit.chained⟩
  · rw [h.report, hvisited.report, List.append_assoc]
  · intro k hk
    rw [h.frame k fun hmem => hk (List.mem_cons_of_mem key hmem)]
    exact hvisited.core_of_ne fun heq : k = key => hk (heq ▸ List.mem_cons_self)
  · -- the visit's own balance, and the balance of the rest
    have hfirst := hvisited.visit.balance hsolvent
    have hothers : record'.pool + staged after.world playerId rest
          + (entries'.map MusterEntry.cutOff).sum
        = record.pool + staged before.world playerId rest := by
      rw [← staged_congr playerId hsame]
      exact h.balance
    have hheld : amountOn before.world playerId key = flag.amount := by
      rw [amountOn_eq_core, hbefore]
      rfl
    rw [staged_cons, staged_cons, hheld, amountOn_eq_core, hafter, List.map_append, List.sum_append]
    linarith
  · intro entry hentry
    rcases List.mem_append.mp hentry with hmem | hmem
    · exact hvisited.visit.entries_sound hsolvent hamount entry hmem
    · exact hvisited.sound_of_withRecord (h.sound entry hmem)
  · intro k hk hnone
    rcases List.mem_cons.mp hk with rfl | hk
    · rw [hbefore] at hnone
      cases hnone
    · exact h.unflagged k hk ((ownCore_congr playerId (hsame k hk)).trans hnone)
  · intro k hk c hsome
    rcases List.mem_cons.mp hk with rfl | hk
    · rw [hbefore] at hsome
      cases hsome
      rw [hafter]
      rcases hvisited.visit.outcome with ⟨hnone, entry, hentry, hrefund⟩
        | ⟨-, kept, hkept, -, hset, hle⟩
      · exact .inl ⟨hnone, entry, List.mem_append_left _ hentry, hrefund⟩
      · exact .inr ⟨kept, hkept, hset, hle⟩
    · rcases h.outcome k hk c ((ownCore_congr playerId (hsame k hk)).trans hsome) with
        ⟨hnone, entry, hentry, hrefund⟩ | hkept
      · exact .inl ⟨hnone, entry, List.mem_append_right _ hentry, hrefund⟩
      · exact .inr hkept

theorem Visited.fresh :
    ∀ kept, core = some kept → staleSetAt input.nowMs kept.setAt = false := by
  intro kept hkept
  rcases h.visit.outcome with ⟨hnone, -⟩ | ⟨hlive, left, hleft, -, hset, -⟩
  · rw [hnone] at hkept
    cases hkept
  · rw [hleft] at hkept
    cases hkept
    rw [hset]
    exact hlive

end Visited

/-- **The pass over one player's flags**: the books are kept, and no stale
flag is left. -/
theorem tickFlags_books : ∀ (musterKeys : List Key), musterKeys.Nodup →
    ∀ (state : TickState Key) (player : MusterPlayer),
      state.world.players playerId = some player →
      Solvent player.record (input.cap playerId) →
      (∀ k ∈ musterKeys, ∀ core, ownCore state.world playerId k = some core → 0 ≤ core.amount) →
      ∃ record entries,
        Books input playerId player musterKeys state
            (musterKeys.foldl (tickFlag input playerId activeCount) state) record entries
          ∧ Fresh input.nowMs (musterKeys.foldl (tickFlag input playerId activeCount) state).world
              playerId musterKeys := by
  intro musterKeys
  induction musterKeys with
  | nil =>
      intro _ state player hplayer hsolvent _
      exact ⟨_, _, Books.still input [] hplayer hsolvent, fun k hk => absurd hk List.not_mem_nil⟩
  | cons key rest ih =>
      intro hnodup state player hplayer hsolvent hfunded
      obtain ⟨hkey, hrest⟩ := List.nodup_cons.mp hnodup
      rw [List.foldl_cons]
      cases hflag : ownFlag state.world playerId key with
      | none =>
          -- passed by: the rest of the pass starts from the same state
          have hnone : ownCore state.world playerId key = none := by
            rw [← ownFlag_core, hflag]
            rfl
          rw [tickFlag_of_none input playerId activeCount hflag]
          obtain ⟨record, entries, hbooks, hfresh⟩ := ih hrest state player hplayer hsolvent
            (fun k hk => hfunded k (List.mem_cons_of_mem key hk))
          refine ⟨record, entries, hbooks.cons_passed hkey hnone, fun k hk core hsome => ?_⟩
          rcases List.mem_cons.mp hk with rfl | hk
          · rw [ownCore_congr playerId (hbooks.frame k hkey), hnone] at hsome
            cases hsome
          · exact hfresh k hk core hsome
      | some flag =>
          obtain ⟨core, record, entries, hvisited⟩ :=
            tickFlag_visited input activeCount hflag hplayer
          have hbefore : ownCore state.world playerId key = some flag.core := by
            rw [← ownFlag_core, hflag]
            rfl
          have hamount : 0 ≤ flag.amount := hfunded key List.mem_cons_self flag.core hbefore
          have hsame : ∀ k ∈ rest, coreAt (tickFlag input playerId activeCount state key).world k
              = coreAt state.world k :=
            fun k hk => hvisited.core_of_ne fun heq : k = key => hkey (heq ▸ hk)
          obtain ⟨record', entries', hbooks, hfresh⟩ := ih hrest
            (tickFlag input playerId activeCount state key) (player.withRecord record)
            (by rw [hvisited.players, Function.update_self])
            (hvisited.visit.solvent hsolvent hamount)
            (fun k hk c hc => hfunded k (List.mem_cons_of_mem key hk) c
              ((ownCore_congr playerId (hsame k hk)).symm.trans hc))
          refine ⟨record', entries ++ entries',
            Books.cons_visited hvisited hkey hflag hsolvent hamount hbooks,
            fun k hk c hsome => ?_⟩
          rcases List.mem_cons.mp hk with rfl | hk
          · rw [ownCore_congr playerId (hbooks.frame k hkey),
              hvisited.ownCore_key (ownFlag_some hflag).2] at hsome
            exact hvisited.fresh c hsome
          · exact hfresh k hk c hsome

/-! ## §4. The passes of other players. -/

structure SameFor (playerId : String) (before after : TickState Key) : Prop where
  players : after.world.players playerId = before.world.players playerId
  cores : ∀ k, ownCore after.world playerId k = ownCore before.world playerId k
  report : entriesOf after.report playerId = entriesOf before.report playerId

omit [DecidableEq Key] in
theorem SameFor.refl (playerId : String) (state : TickState Key) : SameFor playerId state state :=
  ⟨rfl, fun _ => rfl, rfl⟩

omit [DecidableEq Key] in
theorem SameFor.trans {viewer : String} {s₁ s₂ s₃ : TickState Key} (h₁ : SameFor viewer s₁ s₂)
    (h₂ : SameFor viewer s₂ s₃) : SameFor viewer s₁ s₃ :=
  ⟨h₂.players.trans h₁.players, fun k => (h₂.cores k).trans (h₁.cores k), h₂.report.trans h₁.report⟩

theorem ownCore_of_owner_ne {viewer : String} {core : Option FlagCore}
    (h : ∀ c, core = some c → c.ownerId ≠ viewer) :
    core.filter (fun c => decide (c.ownerId = viewer)) = none := by
  cases core with
  | none => rfl
  | some c => simp [Option.filter, h c rfl]

theorem Visited.sameFor {viewer : String} (hviewer : viewer ≠ playerId) {player : MusterPlayer}
    {key : Key} {flag : MusterState} {before mid : TickState Key} {core : Option FlagCore}
    {record : RuntimePlayer} {entries : List (MusterEntry Key)}
    (h : Visited input playerId player activeCount key flag before mid core record entries)
    (hflag : ownFlag before.world playerId key = some flag) : SameFor viewer before mid := by
  have howner : flag.ownerId ≠ viewer := fun heq => hviewer (heq.symm.trans (ownFlag_some hflag).2)
  refine ⟨?_, fun k => ?_, ?_⟩
  · rw [h.players, Function.update_of_ne hviewer]
  · by_cases hk : k = key
    · -- the visited flag is somebody else's before and after
      have hbefore : ownCore before.world viewer key = none := by
        refine ownCore_of_owner_ne fun c hc => ?_
        rw [coreAt, (ownFlag_some hflag).1] at hc
        cases hc
        exact howner
      have hafter : ownCore mid.world viewer key = none := by
        unfold ownCore
        rw [h.cores key, if_pos rfl]
        refine ownCore_of_owner_ne fun c hc => ?_
        rcases h.visit.outcome with ⟨hnone, -⟩ | ⟨-, kept, hkept, hown, -, -⟩
        · rw [hnone] at hc
          cases hc
        · rw [hkept] at hc
          cases hc
          rw [hown]
          exact howner
      rw [hk, hbefore, hafter]
    · exact ownCore_congr viewer (h.core_of_ne hk)
  · have hothers : entriesOf entries viewer = [] := by
      cases h.visit with
      | cleared cause => simp [entriesOf, hviewer.symm]
      | drawn live inflow hinflow hpos => simp [entriesOf, hviewer.symm]
      | idle live => rfl
    rw [h.report]
    unfold entriesOf at hothers ⊢
    rw [List.filter_append, hothers, List.append_nil]

theorem tickFlags_sameFor {viewer : String} (hviewer : viewer ≠ playerId) (musterKeys : List Key) :
    ∀ state : TickState Key,
      SameFor viewer state (musterKeys.foldl (tickFlag input playerId activeCount) state) := by
  induction musterKeys with
  | nil => exact SameFor.refl viewer
  | cons key rest ih =>
      intro state
      rw [List.foldl_cons]
      refine SameFor.trans ?_ (ih _)
      cases hflag : ownFlag state.world playerId key with
      | none =>
          rw [tickFlag_of_none input playerId activeCount hflag]
          exact SameFor.refl viewer state
      | some flag =>
          cases hplayer : state.world.players playerId with
          | none =>
              have hsame : tickFlag input playerId activeCount state key = state := by
                unfold tickFlag
                rw [hflag, hplayer]
              rw [hsame]
              exact SameFor.refl viewer state
          | some player =>
              obtain ⟨core, record, entries, hvisited⟩ :=
                tickFlag_visited input activeCount hflag hplayer
              exact hvisited.sameFor hviewer hflag

theorem tickPlayer_sameFor {viewer : String} (state : TickState Key) {entry : String × List Key}
    (hviewer : viewer ≠ entry.1) : SameFor viewer state (tickPlayer input state entry) := by
  unfold tickPlayer
  split
  · exact SameFor.refl viewer state
  split
  · exact SameFor.refl viewer state
  next player hplayer =>
    have hsettled : SameFor viewer state
        { state with world := applyManpowerRegen input entry.1 player state.world } :=
      ⟨Function.update_of_ne hviewer _ _, fun _ => rfl, rfl⟩
    dsimp only
    split
    · exact hsettled
    · exact hsettled.trans (tickFlags_sameFor hviewer entry.2 _)

theorem tickPlayers_sameFor {viewer : String} (passes : List (String × List Key)) :
    viewer ∉ passes.map Prod.fst →
      ∀ state : TickState Key, SameFor viewer state (passes.foldl (tickPlayer input) state) := by
  induction passes with
  | nil => exact fun _ => SameFor.refl viewer
  | cons entry rest ih =>
      intro hviewer state
      rw [List.map_cons, List.mem_cons, not_or] at hviewer
      rw [List.foldl_cons]
      exact (tickPlayer_sameFor state hviewer.1).trans (ih hviewer.2 _)

/-- **A whole pass, seen from one player**: all that matters is the
player's own part of it. -/
theorem tickMuster_at {musterTilesByOwner : List (String × List Key)}
    (hnodup : (musterTilesByOwner.map Prod.fst).Nodup) {musterKeys : List Key}
    (hmem : (playerId, musterKeys) ∈ musterTilesByOwner) (world : MusterWorld Key) :
    ∃ state : TickState Key, SameFor playerId ⟨world, []⟩ state
      ∧ SameFor playerId (tickPlayer input state (playerId, musterKeys))
          (tickMuster input musterTilesByOwner world) := by
  obtain ⟨before, after, hsplit⟩ := List.append_of_mem hmem
  rw [hsplit, List.map_append, List.map_cons, List.nodup_append, List.nodup_cons] at hnodup
  obtain ⟨-, ⟨hafter, -⟩, hbefore⟩ := hnodup
  have hnot : playerId ∉ before.map Prod.fst := fun h => hbefore _ h _ List.mem_cons_self rfl
  refine ⟨before.foldl (tickPlayer input) ⟨world, []⟩, tickPlayers_sameFor before hnot _, ?_⟩
  unfold tickMuster
  rw [hsplit, List.foldl_append, List.foldl_cons]
  exact tickPlayers_sameFor after hafter _

/-! ## §5. A player's part of the pass. -/

def settledPlayer (input : MusterTickInput Key) (playerId : String) (player : MusterPlayer) :
    MusterPlayer :=
  player.withRecord
    (refreshManpowerOnlyForPlayer (input.rules playerId) player.record input.nowMs)

omit [DecidableEq Key] in
theorem isLiveFlag_eq_core (key : Key) :
    isLiveFlag nowMs world playerId key
      = (ownCore world playerId key).any fun core => !staleSetAt nowMs core.setAt := by
  rw [← ownFlag_core]
  unfold isLiveFlag
  cases ownFlag world playerId key <;> rfl

/-- Some flag of the player is not stale. -/
def HasLive (playerId : String) (musterKeys : List Key) : Prop :=
  ∃ k ∈ musterKeys, ∃ core, ownCore world playerId k = some core
    ∧ staleSetAt nowMs core.setAt = false

omit [DecidableEq Key] in
theorem activeMusterCount_ne_zero_iff (musterKeys : List Key) :
    activeMusterCount nowMs world playerId musterKeys ≠ 0
      ↔ HasLive nowMs world playerId musterKeys := by
  unfold activeMusterCount HasLive
  rw [← Nat.pos_iff_ne_zero, List.countP_pos_iff]
  constructor
  · rintro ⟨k, hk, hlive⟩
    rw [isLiveFlag_eq_core, Option.any_eq_true] at hlive
    obtain ⟨core, hcore, hlive⟩ := hlive
    exact ⟨k, hk, core, hcore, by simpa using hlive⟩
  · rintro ⟨k, hk, core, hcore, hlive⟩
    refine ⟨k, hk, ?_⟩
    rw [isLiveFlag_eq_core, Option.any_eq_true]
    exact ⟨core, hcore, by simpa using hlive⟩

/-- **One player's part of the pass** starts from the settled pool; where
some flag is live no stale flag is left, and where none is nothing is
touched. -/
theorem tickPlayer_books {musterKeys : List Key} (hkeys : musterKeys.Nodup) (hsome : musterKeys ≠ [])
    {state : TickState Key} {player : MusterPlayer}
    (hplayer : state.world.players playerId = some player)
    (hfunded : ∀ k ∈ musterKeys, ∀ core, ownCore state.world playerId k = some core →
      0 ≤ core.amount) :
    ∃ record entries,
      Books input playerId (settledPlayer input playerId player) musterKeys
          { state with world := applyManpowerRegen input playerId player state.world }
          (tickPlayer input state (playerId, musterKeys)) record entries
        ∧ (HasLive input.nowMs state.world playerId musterKeys →
            Fresh input.nowMs (tickPlayer input state (playerId, musterKeys)).world playerId
              musterKeys)
        ∧ (¬ HasLive input.nowMs state.world playerId musterKeys →
            ∀ k, ownCore (tickPlayer input state (playerId, musterKeys)).world playerId k
              = ownCore state.world playerId k) := by
  have hsettled : (applyManpowerRegen input playerId player state.world).players playerId
      = some (settledPlayer input playerId player) := Function.update_self _ _ _
  have hsolvent : Solvent (settledPlayer input playerId player).record (input.cap playerId) :=
    refresh_solvent (input.rules playerId) (playerManpowerCap_nonneg _ _) _ _
  have hlive : HasLive input.nowMs state.world playerId musterKeys
      ↔ activeMusterCount input.nowMs (applyManpowerRegen input playerId player state.world)
          playerId musterKeys ≠ 0 :=
    (activeMusterCount_ne_zero_iff input.nowMs _ musterKeys).symm
  unfold tickPlayer
  dsimp only
  rw [if_neg hsome, hplayer]
  dsimp only
  split
  · next hzero =>
      exact ⟨_, _, Books.still input musterKeys hsettled hsolvent,
        fun h => absurd hzero (hlive.mp h), fun _ _ => rfl⟩
  · next hcount =>
      obtain ⟨record, entries, hbooks, hfresh⟩ := @tickFlags_books Key _ input playerId
        (activeMusterCount input.nowMs (applyManpowerRegen input playerId player state.world)
          playerId musterKeys) musterKeys hkeys
        { state with world := applyManpowerRegen input playerId player state.world }
        (settledPlayer input playerId player) hsettled hsolvent hfunded
      exact ⟨record, entries, hbooks, fun _ => hfresh, fun h => absurd (hlive.mpr hcount) h⟩

end Flags

/-! ## §6. The whole pass. -/

/-- What a pass does to one ticked player's pool and flags; `settled` is
the player after the settle that opens the pass. -/
structure KeepsBooks (input : MusterTickInput Key) (playerId : String) (settled : MusterPlayer)
    (musterKeys : List Key) (world : MusterWorld Key) (after : TickState Key) : Prop where
  /-- Pool and flags add up to what they were, less what a ceiling cut
  off. -/
  conserved : poolOf after.world playerId + staged after.world playerId musterKeys
      + ((entriesOf after.report playerId).map MusterEntry.cutOff).sum
    = settled.record.pool + staged world playerId musterKeys
  /-- Only refunds are cut, and by no more than the refund. -/
  cutOff_le : ∀ entry ∈ entriesOf after.report playerId,
    0 ≤ entry.cutOff ∧ (entry.cutOff ≠ 0 → ∃ ceiling, entry.move = .REFUND ceiling
      ∧ ceiling = manpowerCeiling settled.record (input.cap playerId)
      ∧ entry.cutOff ≤ entry.flag.amount)
  /-- A flag is cleared with a refund, or holds no less than before. -/
  flags : ∀ k ∈ musterKeys, ∀ flag, ownFlag world playerId k = some flag →
    (ownFlag after.world playerId k = none
        ∧ ∃ entry ∈ entriesOf after.report playerId, isRefundOf k flag.core entry)
      ∨ ∃ kept, ownFlag after.world playerId k = some kept ∧ flag.amount ≤ kept.amount
  /-- Inflow stops at the flag's cap and at the pool's floor. -/
  inflows : ∀ entry ∈ entriesOf after.report playerId, ∀ inflow flagCap floor,
    entry.move = .INFLOW inflow flagCap floor →
      flagCap = musterFlagCap (input.cap playerId) entry.flag.capLevel
        ∧ entry.flag.amount + inflow ≤ flagCap
        ∧ floor = musterPoolFloorFor settled
        ∧ floor ≤ entry.poolAfter
  pool_nonneg : 0 ≤ poolOf after.world playerId
    ∧ ∀ entry ∈ entriesOf after.report playerId, 0 ≤ entry.poolAfter

structure IsMusterIndex (musterTilesByOwner : List (String × List Key)) : Prop where
  players_nodup : (musterTilesByOwner.map Prod.fst).Nodup
  keys_nodup : ∀ entry ∈ musterTilesByOwner, entry.2.Nodup

/-- No flag holds less than nothing: flags are set with none, gain by
inflow and are spent down to zero. -/
def Funded : Prop := ∀ k flag, world.musters k = some flag → 0 ≤ flag.amount

theorem Funded.core {world : MusterWorld Key} (h : Funded world) {playerId : String} {k : Key}
    {core : FlagCore} (hcore : ownCore world playerId k = some core) : 0 ≤ core.amount := by
  rw [← ownFlag_core, Option.map_eq_some_iff] at hcore
  obtain ⟨flag, hflag, rfl⟩ := hcore
  exact h k flag (ownFlag_some hflag).1

section Whole

variable [DecidableEq Key] {input : MusterTickInput Key}

/-- A player's books, read in the whole pass. -/
structure Share (input : MusterTickInput Key) (playerId : String) (settled : MusterPlayer)
    (musterKeys : List Key) (world : MusterWorld Key) (after : TickState Key)
    (record : RuntimePlayer) (entries : List (MusterEntry Key)) : Prop where
  report : entriesOf after.report playerId = entries
  record_eq : after.world.players playerId = some (settled.withRecord record)
  solvent : Solvent record (input.cap playerId)
  balance : record.pool + staged after.world playerId musterKeys
      + (entries.map MusterEntry.cutOff).sum
    = settled.record.pool + staged world playerId musterKeys
  sound : ∀ entry ∈ entries, EntrySound input playerId settled entry
  unflagged : ∀ k ∈ musterKeys, ownCore world playerId k = none →
    ownCore after.world playerId k = none
  outcome : ∀ k ∈ musterKeys, ∀ core, ownCore world playerId k = some core →
    (ownCore after.world playerId k = none ∧ ∃ entry ∈ entries, isRefundOf k core entry)
      ∨ ∃ kept, ownCore after.world playerId k = some kept ∧ kept.setAt = core.setAt
          ∧ core.amount ≤ kept.amount
  fresh : HasLive input.nowMs world playerId musterKeys →
    Fresh input.nowMs after.world playerId musterKeys
  still : ¬ HasLive input.nowMs world playerId musterKeys →
    ∀ k, ownCore after.world playerId k = ownCore world playerId k
  chained : Chained settled.record.pool entries record.pool

omit [DecidableEq Key] in
theorem Share.poolOf_eq {playerId : String} {settled : MusterPlayer} {musterKeys : List Key}
    {world : MusterWorld Key} {after : TickState Key} {record : RuntimePlayer}
    {entries : List (MusterEntry Key)}
    (h : Share input playerId settled musterKeys world after record entries) :
    poolOf after.world playerId = record.pool := by
  unfold poolOf
  rw [h.record_eq]
  rfl

omit [DecidableEq Key] in
theorem staged_congr_own {world world' : MusterWorld Key} {playerId : String}
    (h : ∀ k, ownCore world' playerId k = ownCore world playerId k) (musterKeys : List Key) :
    staged world' playerId musterKeys = staged world playerId musterKeys := by
  unfold staged
  congr 1
  refine List.map_congr_left fun k _ => ?_
  rw [amountOn_eq_core, amountOn_eq_core, h k]

theorem tickMuster_share {musterTilesByOwner : List (String × List Key)}
    (hindex : IsMusterIndex musterTilesByOwner) {world : MusterWorld Key} (hfunded : Funded world)
    {playerId : String} {musterKeys : List Key} {player : MusterPlayer}
    (hmem : (playerId, musterKeys) ∈ musterTilesByOwner) (hsome : musterKeys ≠ [])
    (hplayer : world.players playerId = some player) :
    ∃ record entries, Share input playerId (settledPlayer input playerId player) musterKeys world
      (tickMuster input musterTilesByOwner world) record entries := by
  obtain ⟨state, hfirst, hlast⟩ := @tickMuster_at _ _ input _ _ hindex.players_nodup _ hmem world
  have hcores : ∀ k, ownCore state.world playerId k = ownCore world playerId k := hfirst.cores
  have hlive : HasLive input.nowMs state.world playerId musterKeys
      ↔ HasLive input.nowMs world playerId musterKeys := by
    unfold HasLive
    simp only [hcores]
  obtain ⟨record, entries, hbooks, hfresh, hstill⟩ := @tickPlayer_books _ _ input _ _
    (hindex.keys_nodup _ hmem) hsome _ _ (hfirst.players.trans hplayer)
    (fun k _ core hcore => hfunded.core ((hcores k).symm.trans hcore))
  -- what the settle leaves of the flags is what the pass found
  have hsettled : ∀ k, ownCore (applyManpowerRegen input playerId player state.world) playerId k
      = ownCore world playerId k := hcores
  have hown : ∀ entry ∈ entries, entry.playerId = playerId := fun entry h => (hbooks.sound entry h).1
  have hentries : entriesOf (tickMuster input musterTilesByOwner world).report playerId
      = entries := by
    rw [hlast.report, hbooks.report]
    show entriesOf (state.report ++ entries) playerId = entries
    have hprefix : entriesOf state.report playerId = [] := hfirst.report
    unfold entriesOf at hprefix ⊢
    rw [List.filter_append, hprefix, List.nil_append, List.filter_eq_self]
    exact fun entry h => by simpa using hown entry h
  refine ⟨record, entries, hentries, hlast.players.trans hbooks.record_eq, hbooks.solvent, ?_,
    hbooks.sound, ?_, ?_, ?_, ?_, hbooks.chained⟩
  · rw [staged_congr_own hlast.cores, ← staged_congr_own hsettled]
    exact hbooks.balance
  · exact fun k hk hnone => (hlast.cores k).trans
      (hbooks.unflagged k hk ((hsettled k).trans hnone))
  · intro k hk core hcore
    rw [hlast.cores k]
    exact hbooks.outcome k hk core ((hsettled k).trans hcore)
  · intro h k hk core hcore
    exact hfresh (hlive.mpr h) k hk core ((hlast.cores k).symm.trans hcore)
  · exact fun h k => (hlast.cores k).trans ((hstill (fun hl => h (hlive.mp hl)) k).trans (hcores k))

/-- **A pass keeps the books** of every player it ticks, and leaves every
other player alone. -/
theorem tickMuster_keepsBooks (input : MusterTickInput Key)
    (musterTilesByOwner : List (String × List Key)) (hindex : IsMusterIndex musterTilesByOwner)
    (world : MusterWorld Key) (hfunded : Funded world) :
    (∀ playerId musterKeys player, (playerId, musterKeys) ∈ musterTilesByOwner →
        musterKeys ≠ [] → world.players playerId = some player →
        KeepsBooks input playerId (settledPlayer input playerId player) musterKeys world
          (tickMuster input musterTilesByOwner world))
      ∧ ∀ playerId, playerId ∉ musterTilesByOwner.map Prod.fst →
          SameFor playerId ⟨world, []⟩ (tickMuster input musterTilesByOwner world) := by
  refine ⟨fun playerId musterKeys player hmem hsome hplayer => ?_,
    fun playerId hnot => tickPlayers_sameFor musterTilesByOwner hnot _⟩
  obtain ⟨record, entries, hshare⟩ := @tickMuster_share _ _ input _ hindex _ hfunded _ _ _ hmem hsome
    hplayer
  have hpool := hshare.poolOf_eq
  refine ⟨?_, ?_, ?_, ?_, ?_⟩
  · rw [hpool, hshare.report]
    exact hshare.balance
  · rw [hshare.report]
    intro entry hentry
    obtain ⟨-, -, hmove⟩ := hshare.sound entry hentry
    unfold MusterEntry.cutOff
    cases hkind : entry.move with
    | REFUND ceiling =>
        rw [hkind] at hmove
        obtain ⟨hceiling, hbefore, -⟩ := hmove
        refine ⟨le_max_left 0 _, fun hcut => ⟨ceiling, rfl, hceiling, ?_⟩⟩
        change max 0 (entry.poolBefore + entry.flag.amount - ceiling) ≠ 0 at hcut
        show max 0 (entry.poolBefore + entry.flag.amount - ceiling) ≤ entry.flag.amount
        -- something was cut, so the overshoot is positive and below the refund
        rcases max_choice 0 (entry.poolBefore + entry.flag.amount - ceiling) with h | h
        · exact absurd h hcut
        · rw [h]
          linarith
    | INFLOW inflow flagCap floor => exact ⟨le_rfl, fun h => absurd rfl h⟩
  · rw [hshare.report]
    intro k hk flag hflag
    have hcore : ownCore world playerId k = some flag.core := by
      rw [← ownFlag_core, hflag]
      rfl
    rcases hshare.outcome k hk flag.core hcore with ⟨hnone, hentry⟩ | ⟨kept, hkept, -, hle⟩
    · rw [← ownFlag_core, Option.map_eq_none_iff] at hnone
      exact .inl ⟨hnone, hentry⟩
    · rw [← ownFlag_core, Option.map_eq_some_iff] at hkept
      obtain ⟨left, hleft, rfl⟩ := hkept
      exact .inr ⟨left, hleft, hle⟩
  · rw [hshare.report]
    intro entry hentry inflow flagCap floor hkind
    obtain ⟨-, -, hmove⟩ := hshare.sound entry hentry
    rw [hkind] at hmove
    obtain ⟨hcap, hfloor, -, -, hle, hdrawn⟩ := hmove
    exact ⟨hcap, hle, hfloor, hdrawn⟩
  · rw [hpool, hshare.report]
    exact ⟨hshare.solvent.nonneg, fun entry hentry => (hshare.sound entry hentry).2.1⟩

/-- No stale flag of a ticked player is left, and each flag that is gone
was credited to the pool up to the ceiling, by one of the movements that lead
from the settled pool to the one that the pass leaves. -/
def ClearsStale (input : MusterTickInput Key) (musterTilesByOwner : List (String × List Key))
    (world : MusterWorld Key) : Prop :=
  ∀ playerId musterKeys player, (playerId, musterKeys) ∈ musterTilesByOwner →
    world.players playerId = some player →
    (∀ k ∈ musterKeys, ∀ flag,
        ownFlag (tickMuster input musterTilesByOwner world).world playerId k = some flag →
        isStale input.nowMs flag = false)
      ∧ (∀ k ∈ musterKeys, ∀ flag, ownFlag world playerId k = some flag →
          ownFlag (tickMuster input musterTilesByOwner world).world playerId k = none →
          ∃ entry ∈ entriesOf (tickMuster input musterTilesByOwner world).report playerId,
            isRefundOf k flag.core entry
              ∧ entry.poolAfter = min
                  (manpowerCeiling (settledPlayer input playerId player).record
                    (input.cap playerId))
                  (entry.poolBefore + flag.amount))
      ∧ (musterKeys ≠ [] → Chained (settledPlayer input playerId player).record.pool
          (entriesOf (tickMuster input musterTilesByOwner world).report playerId)
          (poolOf (tickMuster input musterTilesByOwner world).world playerId))

/-- Where some flag of a ticked player is stale, another one is not. -/
def SomeFlagLive (musterTilesByOwner : List (String × List Key)) (world : MusterWorld Key) : Prop :=
  ∀ playerId musterKeys player, (playerId, musterKeys) ∈ musterTilesByOwner →
    world.players playerId = some player →
    (∃ k ∈ musterKeys, ∃ flag, ownFlag world playerId k = some flag ∧ isStale nowMs flag = true) →
    ∃ k ∈ musterKeys, ∃ flag, ownFlag world playerId k = some flag ∧ isStale nowMs flag = false

omit [DecidableEq Key] in
theorem hasLive_iff (playerId : String) (musterKeys : List Key) :
    HasLive nowMs world playerId musterKeys
      ↔ ∃ k ∈ musterKeys, ∃ flag, ownFlag world playerId k = some flag
          ∧ isStale nowMs flag = false := by
  constructor
  · rintro ⟨k, hk, core, hcore, hlive⟩
    rw [← ownFlag_core, Option.map_eq_some_iff] at hcore
    obtain ⟨flag, hflag, rfl⟩ := hcore
    exact ⟨k, hk, flag, hflag, hlive⟩
  · rintro ⟨k, hk, flag, hflag, hlive⟩
    refine ⟨k, hk, flag.core, ?_, hlive⟩
    rw [← ownFlag_core, hflag]
    rfl

/-- **Stale flags are cleared exactly where a player has a live one**: the
count that splits the throughput skips a player without any before the
clearing is reached. -/
theorem tickMuster_clears_stale_iff (input : MusterTickInput Key)
    (musterTilesByOwner : List (String × List Key)) (hindex : IsMusterIndex musterTilesByOwner)
    (world : MusterWorld Key) (hfunded : Funded world) :
    ClearsStale input musterTilesByOwner world
      ↔ SomeFlagLive input.nowMs musterTilesByOwner world := by
  constructor
  · intro hclears playerId musterKeys player hmem hplayer hstale
    by_contra hnone
    obtain ⟨k, hk, flag, hflag, hstale⟩ := hstale
    have hsome : musterKeys ≠ [] := List.ne_nil_of_mem hk
    obtain ⟨record, entries, hshare⟩ := @tickMuster_share _ _ input _ hindex _ hfunded _ _ _ hmem
      hsome hplayer
    have hdead : ¬ HasLive input.nowMs world playerId musterKeys :=
      fun h => hnone ((hasLive_iff _ _ _ _).mp h)
    -- nothing was touched: the stale flag still stands
    have hcore : ownCore (tickMuster input musterTilesByOwner world).world playerId k
        = some flag.core := by
      rw [hshare.still hdead k, ← ownFlag_core, hflag]
      rfl
    rw [← ownFlag_core, Option.map_eq_some_iff] at hcore
    obtain ⟨left, hleft, hsame⟩ := hcore
    have hfresh := (hclears playerId musterKeys player hmem hplayer).1 k hk left hleft
    have hset : left.setAt = flag.setAt := congrArg FlagCore.setAt hsame
    unfold isStale at hfresh hstale
    rw [hset, hstale] at hfresh
    cases hfresh
  · intro hlive playerId musterKeys player hmem hplayer
    by_cases hsome : musterKeys = []
    · rw [hsome]
      exact ⟨fun k hk => absurd hk List.not_mem_nil, fun k hk => absurd hk List.not_mem_nil,
        fun hsome => absurd rfl hsome⟩
    obtain ⟨record, entries, hshare⟩ := @tickMuster_share _ _ input _ hindex _ hfunded _ _ _ hmem
      hsome hplayer
    refine ⟨fun k hk flag hflag => ?_, fun k hk flag hflag hgone => ?_, fun _ => ?_⟩
    · have hcore : ownCore (tickMuster input musterTilesByOwner world).world playerId k
          = some flag.core := by
        rw [← ownFlag_core, hflag]
        rfl
      by_cases hany : HasLive input.nowMs world playerId musterKeys
      · exact hshare.fresh hany k hk flag.core hcore
      · -- no live flag, hence no stale one either: the player has no flag at all
        rw [hshare.still hany k, ← ownFlag_core, Option.map_eq_some_iff] at hcore
        obtain ⟨found, hfound, hsame⟩ := hcore
        have hset : found.setAt = flag.setAt := congrArg FlagCore.setAt hsame
        cases hstale : isStale input.nowMs flag with
        | false => rfl
        | true =>
            have hstale' : isStale input.nowMs found = true := by
              unfold isStale at hstale ⊢
              rw [hset]
              exact hstale
            exact absurd ((hasLive_iff _ _ _ _).mpr
              (hlive playerId musterKeys player hmem hplayer ⟨k, hk, found, hfound, hstale'⟩)) hany
    · have hcore : ownCore world playerId k = some flag.core := by
        rw [← ownFlag_core, hflag]
        rfl
      rcases hshare.outcome k hk flag.core hcore with ⟨-, entry, hentry, hrefund⟩
        | ⟨kept, hkept, -, -⟩
      · obtain ⟨-, -, hmove⟩ := hshare.sound entry hentry
        obtain ⟨ceiling, hkind⟩ := hrefund.2.2
        rw [hkind] at hmove
        obtain ⟨hceiling, -, hafter⟩ := hmove
        have hamount : entry.flag.amount = flag.amount := congrArg FlagCore.amount hrefund.2.1
        refine ⟨entry, by rw [hshare.report]; exact hentry, hrefund, ?_⟩
        rw [hafter, hceiling, hamount]
      · rw [← ownFlag_core, hgone] at hkept
        cases hkept
    · rw [hshare.report, hshare.poolOf_eq]
      exact hshare.chained

end Whole

/-! ## §7. Two passes. -/

/-- A capital, one manpower a minute, no target in reach and nothing to
fire at. -/
def quietPass : MusterTickInput Nat :=
  { nowMs := 200000000
    capSources := fun _ => ⟨[], 0, 0, none, 1, false, 0, 0⟩
    regenPerMinute := fun _ => 1
    seasonStartedAt := none
    musterSpeedMultiplier := fun _ _ => 1
    aiFlagHasTargetInReach := fun _ _ _ => false
    maybeAdvanceFire := fun _ _ _ => []
    maybeMarchFire := fun _ _ _ => [] }

def quietPlayer : MusterPlayer :=
  ⟨⟨"player-1", some 100, none, some 150000000, some 870, none, true⟩, some false, none⟩

def flagsWorld (flags : List (Nat × MusterState)) : MusterWorld Nat :=
  { players := fun id => if id = "player-1" then some quietPlayer else none
    musters := fun k => (flags.find? fun row => row.1 = k).map Prod.snd }

def flagSetAt (setAt amount : ℚ) : MusterState :=
  ⟨"player-1", amount, .HOLD, some setAt, 200000000, none, none⟩

theorem flagsWorld_funded (flags : List (Nat × MusterState))
    (h : ∀ row ∈ flags, 0 ≤ row.2.amount) : Funded (flagsWorld flags) := by
  intro k flag hflag
  obtain ⟨row, hrow, rfl⟩ := Option.map_eq_some_iff.mp hflag
  exact h row (List.mem_of_find?_eq_some hrow)

theorem flagsWorld_index (musterKeys : List Nat) (h : musterKeys.Nodup) :
    IsMusterIndex [("player-1", musterKeys)] := by
  refine ⟨by simp, fun entry hentry => ?_⟩
  rw [List.mem_singleton.mp hentry]
  exact h

/-- A pass over a stale and a live flag keeps the books. -/
theorem tickMuster_keepsBooks_quiet :
    KeepsBooks quietPass "player-1" (settledPlayer quietPass "player-1" quietPlayer) [0, 1]
      (flagsWorld [(0, flagSetAt 0 40), (1, flagSetAt 190000000 10)])
      (tickMuster quietPass [("player-1", [0, 1])]
        (flagsWorld [(0, flagSetAt 0 40), (1, flagSetAt 190000000 10)])) :=
  (tickMuster_keepsBooks quietPass [("player-1", [0, 1])]
    (flagsWorld_index [0, 1] (by decide))
    (flagsWorld [(0, flagSetAt 0 40), (1, flagSetAt 190000000 10)])
    (flagsWorld_funded _ (by decide +kernel))).1
    "player-1" [0, 1] quietPlayer (List.mem_singleton.mpr rfl) (by decide) rfl

/-- The settle that opens the pass pays regeneration out: pool and flags
together hold more after it than before, with nothing cut off. -/
theorem tickMuster_pays_regen :
    ((entriesOf (tickMuster quietPass [("player-1", [0])]
        (flagsWorld [(0, flagSetAt 190000000 10)])).report "player-1").map
          MusterEntry.cutOff).sum = 0
      ∧ poolOf (flagsWorld [(0, flagSetAt 190000000 10)]) "player-1"
          + staged (flagsWorld [(0, flagSetAt 190000000 10)]) "player-1" [0]
        < poolOf (tickMuster quietPass [("player-1", [0])]
            (flagsWorld [(0, flagSetAt 190000000 10)])).world "player-1"
            + staged (tickMuster quietPass [("player-1", [0])]
              (flagsWorld [(0, flagSetAt 190000000 10)])).world "player-1" [0] := by
  decide +kernel

/-- The condition and the clearing, for a stale flag beside a live one. -/
theorem tickMuster_clears_stale_iff_quiet :
    ClearsStale quietPass [("player-1", [0, 1])]
        (flagsWorld [(0, flagSetAt 0 40), (1, flagSetAt 190000000 10)])
      ↔ SomeFlagLive 200000000 [("player-1", [0, 1])]
        (flagsWorld [(0, flagSetAt 0 40), (1, flagSetAt 190000000 10)]) :=
  tickMuster_clears_stale_iff quietPass [("player-1", [0, 1])]
    (flagsWorld_index [0, 1] (by decide))
    (flagsWorld [(0, flagSetAt 0 40), (1, flagSetAt 190000000 10)])
    (flagsWorld_funded _ (by decide +kernel))

/-- A player whose only flag is stale keeps it. -/
theorem tickMuster_keeps_lone_stale :
    ¬ ClearsStale quietPass [("player-1", [0])] (flagsWorld [(0, flagSetAt 0 40)]) := by
  intro h
  have hstands : ownFlag (tickMuster quietPass [("player-1", [0])]
      (flagsWorld [(0, flagSetAt 0 40)])).world "player-1" 0 = some (flagSetAt 0 40) := by
    decide +kernel
  have hfresh := (h "player-1" [0] quietPlayer (List.mem_singleton.mpr rfl) rfl).1 0
    (List.mem_singleton.mpr rfl) (flagSetAt 0 40) hstands
  have hstale : isStale quietPass.nowMs (flagSetAt 0 40) = true := by decide +kernel
  rw [hstale] at hfresh
  cases hfresh

end BorderEmpires.Manpower
