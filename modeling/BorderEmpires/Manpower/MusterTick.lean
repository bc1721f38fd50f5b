/-
  BorderEmpires.Manpower.MusterTick
  **ONE PASS OVER THE MUSTER FLAGS.**

  Flags draw manpower from their owner's pool.  A pass settles the pool of
  each player with flags, splits the throughput over the flags that are
  not stale, and visits the flags in order: a stale flag, or an AI flag
  whose war is over, is cleared with a refund; every other flag takes its
  inflow and may fire.

  Firing is a list of status edits: it may change what a flag is doing and
  how far it is expanded, never what it holds, when it was set or whose it
  is.  Deltas are left out; `report` records what the pass moved instead.
-/
import Mathlib.Algebra.Order.BigOperators.Group.List
import Mathlib.Logic.Function.Basic
import BorderEmpires.Manpower.Settling

namespace BorderEmpires.Manpower

/-! ## §1. Flags and players. -/

inductive MusterMode where
  | HOLD
  | ADVANCE
  | MARCH
  deriving DecidableEq

/-- A flag on a tile. -/
structure MusterState where
  ownerId : String
  amount : ℚ
  mode : MusterMode
  setAt : Option ℚ
  updatedAt : ℚ
  capLevel : Option Nat
  ratePerMin : Option ℚ
  deriving DecidableEq

structure MusterPlayer where
  record : RuntimePlayer
  isAi : Option Bool
  wonderMusterRateMultiplier : Option ℚ
  deriving DecidableEq

/-- The pool as arithmetic reads it; a settle leaves it finite. -/
def RuntimePlayer.pool (player : RuntimePlayer) : ℚ := player.manpower.getD 0

variable {Key : Type}

/-- The players, and the flag of each tile. -/
structure MusterWorld (Key : Type) where
  players : String → Option MusterPlayer
  musters : Key → Option MusterState

/-- One status change an auto-fire search makes: `syncMusterStatus`,
`markAdvanceClearing`, or the end of an order. -/
structure StatusEdit (Key : Type) where
  key : Key
  mode : MusterMode
  capLevel : Option Nat

section Edits

variable [DecidableEq Key]

def setMuster (world : MusterWorld Key) (key : Key) (flag : Option MusterState) : MusterWorld Key :=
  { world with musters := Function.update world.musters key flag }

def setRecord (world : MusterWorld Key) (playerId : String) (player : MusterPlayer)
    (record : RuntimePlayer) : MusterWorld Key :=
  { world with
    players := Function.update world.players playerId (some { player with record := record }) }

def applyEdit (world : MusterWorld Key) (edit : StatusEdit Key) : MusterWorld Key :=
  match world.musters edit.key with
  | none => world
  | some flag =>
      setMuster world edit.key (some { flag with mode := edit.mode, capLevel := edit.capLevel })

end Edits

/-! ## §2. Limits. -/

def MUSTER_BASE_RATE_PER_MIN : ℚ := 180
def MUSTER_STALE_MS : ℚ := 2 * 24 * 60 * 60 * 1000
def MUSTER_FLAG_CAP_MANPOWER_FRACTION : ℚ := 1 / 10
def MUSTER_FLAG_BASE_CAP_FLOOR : ℚ := 150
def SETTLE_MANPOWER_COST : ℚ := 20
def RELAY_BEACON_MANPOWER : ℚ := 100
def AI_BUILD_MANPOWER_FLOOR : ℚ := SETTLE_MANPOWER_COST + RELAY_BEACON_MANPOWER

def musterFlagCap (manpowerCap : ℚ) (capLevel : Option Nat) : ℚ :=
  let share := manpowerCap * MUSTER_FLAG_CAP_MANPOWER_FRACTION
  let raw := max MUSTER_FLAG_BASE_CAP_FLOOR share + (capLevel.getD 0 : ℕ) * share
  min raw manpowerCap

def musterPoolFloorFor (player : MusterPlayer) : ℚ :=
  if player.isAi = some true then AI_BUILD_MANPOWER_FLOOR else 0

/-- A refund never lifts the pool past its ceiling. -/
def creditManpower (player : RuntimePlayer) (amount cap : ℚ) : RuntimePlayer :=
  { player with
    manpower := player.manpower.map fun manpower =>
      min (manpowerCeiling player cap) (manpower + amount) }

def staleSetAt (nowMs : ℚ) : Option ℚ → Bool
  | none => false
  | some setAt => decide (MUSTER_STALE_MS < nowMs - setAt)

def isStale (nowMs : ℚ) (flag : MusterState) : Bool := staleSetAt nowMs flag.setAt

/-! ## §3. The pass. -/

/-- What a pass reads beside the world.  The searches are parameters: one
says whether an AI flag has a target in reach, the others what firing
does. -/
structure MusterTickInput (Key : Type) where
  nowMs : ℚ
  capSources : String → ManpowerCapSources
  regenPerMinute : String → ℚ
  seasonStartedAt : Option ℚ
  musterSpeedMultiplier : String → Key → ℚ
  aiFlagHasTargetInReach : MusterWorld Key → Key → String → Bool
  maybeAdvanceFire : MusterWorld Key → Key → String → List (StatusEdit Key)
  maybeMarchFire : MusterWorld Key → Key → String → List (StatusEdit Key)

variable (input : MusterTickInput Key) (world : MusterWorld Key)

def MusterTickInput.cap (playerId : String) : ℚ :=
  playerManpowerCap playerId (input.capSources playerId)

def MusterTickInput.rules (playerId : String) : SettleRules :=
  ⟨input.cap playerId, input.regenPerMinute playerId, input.seasonStartedAt, MANPOWER_EPSILON⟩

inductive MusterMove where
  | REFUND (ceiling : ℚ)
  | INFLOW (inflow flagCap floor : ℚ)

/-- One movement between a pool and a flag, with the limit it met; `flag`
is as it stood before. -/
structure MusterEntry (Key : Type) where
  playerId : String
  key : Key
  flag : MusterState
  move : MusterMove
  poolBefore : ℚ
  poolAfter : ℚ

/-- The world in mid-pass and the credits reported so far. -/
structure TickState (Key : Type) where
  world : MusterWorld Key
  report : List (MusterEntry Key)

/-- The flag of `playerId` on a tile. -/
def ownFlag (playerId : String) (key : Key) : Option MusterState :=
  (world.musters key).filter fun flag => decide (flag.ownerId = playerId)

/-- A flag that shares in the player's throughput. -/
def isLiveFlag (nowMs : ℚ) (world : MusterWorld Key) (playerId : String) (key : Key) : Bool :=
  (ownFlag world playerId key).any fun flag => !isStale nowMs flag

/-- The flags the throughput is split over. -/
def activeMusterCount (nowMs : ℚ) (world : MusterWorld Key) (playerId : String)
    (musterKeys : List Key) : Nat :=
  musterKeys.countP (isLiveFlag nowMs world playerId)

section Pass

variable [DecidableEq Key]

/-- The flag is taken down and what it holds goes back to the pool. -/
def clearFlag (playerId : String) (player : MusterPlayer) (key : Key) (flag : MusterState)
    (state : TickState Key) : TickState Key :=
  let credited := creditManpower player.record flag.amount (input.cap playerId)
  { world := setMuster (setRecord state.world playerId player credited) key none
    report := state.report
      ++ [⟨playerId, key, flag, .REFUND (manpowerCeiling player.record (input.cap playerId)),
            player.record.pool, credited.pool⟩] }

/-- `Math.round(rate * 1000) / 1000`. -/
def quantizedRate (rate : ℚ) : ℚ := (⌊rate * 1000 + 1 / 2⌋ : ℚ) / 1000

def rawRatePerMin (playerId : String) (player : MusterPlayer) (activeCount : Nat) (key : Key) : ℚ :=
  MUSTER_BASE_RATE_PER_MIN / activeCount * input.musterSpeedMultiplier playerId key
    * player.wonderMusterRateMultiplier.getD 1

def elapsedMin (nowMs : ℚ) (flag : MusterState) : ℚ := max 0 ((nowMs - flag.updatedAt) / 60000)

/-- What the pool gives the flag: the least of the three limits. -/
def flagInflow (playerId : String) (player : MusterPlayer) (activeCount : Nat) (key : Key)
    (flag : MusterState) : ℚ :=
  let headroom := max 0 (musterFlagCap (input.cap playerId) flag.capLevel - flag.amount)
  let drawable := max 0 (player.record.pool - musterPoolFloorFor player)
  min (min (rawRatePerMin input playerId player activeCount key * elapsedMin input.nowMs flag)
    headroom) drawable

def INFLOW_EPSILON : ℚ := 1 / 10000

/-- Draws the inflow from the pool, or moves the stamp only. -/
def accrueFlag (playerId : String) (player : MusterPlayer) (activeCount : Nat) (key : Key)
    (flag : MusterState) (state : TickState Key) :
    TickState Key :=
  let inflow := flagInflow input playerId player activeCount key flag
  let ratePerMin := quantizedRate (rawRatePerMin input playerId player activeCount key)
  let restamped := { flag with updatedAt := input.nowMs, ratePerMin := some ratePerMin }
  if INFLOW_EPSILON < inflow then
    let drawn := { player.record with manpower := some (player.record.pool - inflow) }
    { world := setMuster (setRecord state.world playerId player drawn) key
        (some { restamped with amount := flag.amount + inflow })
      report := state.report
        ++ [⟨playerId, key, flag,
              .INFLOW inflow (musterFlagCap (input.cap playerId) flag.capLevel)
                (musterPoolFloorFor player),
              player.record.pool, player.record.pool - inflow⟩] }
  else if flag.ratePerMin ≠ some ratePerMin then
    -- the new rate is sent to the client
    { state with world := setMuster state.world key (some restamped) }
  else if 0 < elapsedMin input.nowMs flag then
    -- nothing to send: only the stamp moves
    { state with world := setMuster state.world key (some restamped) }
  else state

/-- The flag's own march or advance. -/
def fireFlag (playerId : String) (key : Key) (mode : MusterMode) (state : TickState Key) :
    TickState Key :=
  match mode with
  | .HOLD => state
  | .ADVANCE =>
      { state with
        world := (input.maybeAdvanceFire state.world key playerId).foldl applyEdit state.world }
  | .MARCH =>
      { state with
        world := (input.maybeMarchFire state.world key playerId).foldl applyEdit state.world }

/-- An AI flag with nothing left to attack. -/
def warOver (playerId : String) (player : MusterPlayer) (key : Key) : Bool :=
  decide (player.isAi = some true) && !input.aiFlagHasTargetInReach world key playerId

/-- One visit of the pass. -/
def tickFlag (playerId : String) (activeCount : Nat) (state : TickState Key) (key : Key) :
    TickState Key :=
  match ownFlag state.world playerId key, state.world.players playerId with
  | some flag, some player =>
      if isStale input.nowMs flag || warOver input state.world playerId player key then
        clearFlag input playerId player key flag state
      else
        fireFlag input playerId key flag.mode
          (accrueFlag input playerId player activeCount key flag state)
  | _, _ => state

/-- The pool is settled before anything is drawn. -/
def applyManpowerRegen (playerId : String) (player : MusterPlayer) (world : MusterWorld Key) :
    MusterWorld Key :=
  setRecord world playerId player
    (refreshManpowerOnlyForPlayer (input.rules playerId) player.record input.nowMs)

/-- One player: the pool is settled, then each flag visited. -/
def tickPlayer (state : TickState Key) (entry : String × List Key) : TickState Key :=
  if entry.2 = [] then state
  else
    match state.world.players entry.1 with
    | none => state
    | some player =>
        let settled := applyManpowerRegen input entry.1 player state.world
        let activeCount := activeMusterCount input.nowMs settled entry.1 entry.2
        if activeCount = 0 then { state with world := settled }
        else entry.2.foldl (tickFlag input entry.1 activeCount) { state with world := settled }

/-- The whole pass, player by player. -/
def tickMuster (musterTilesByOwner : List (String × List Key)) (world : MusterWorld Key) :
    TickState Key :=
  musterTilesByOwner.foldl (tickPlayer input) ⟨world, []⟩

end Pass

/-! ## §4. What a visit can do. -/

/-- What firing never touches. -/
structure FlagCore where
  ownerId : String
  amount : ℚ
  setAt : Option ℚ
  deriving DecidableEq

def MusterState.core (flag : MusterState) : FlagCore := ⟨flag.ownerId, flag.amount, flag.setAt⟩

def coreAt (key : Key) : Option FlagCore := (world.musters key).map MusterState.core

def ownCore (playerId : String) (key : Key) : Option FlagCore :=
  (coreAt world key).filter fun core => decide (core.ownerId = playerId)

theorem ownFlag_core (playerId : String) (key : Key) :
    (ownFlag world playerId key).map MusterState.core = ownCore world playerId key := by
  unfold ownFlag ownCore coreAt
  cases h : world.musters key with
  | none => rfl
  | some flag =>
      by_cases howner : flag.ownerId = playerId
      · simp [Option.filter, MusterState.core, howner]
      · simp [Option.filter, MusterState.core, howner]

theorem ownFlag_some {world : MusterWorld Key} {playerId : String} {key : Key} {flag : MusterState}
    (h : ownFlag world playerId key = some flag) :
    world.musters key = some flag ∧ flag.ownerId = playerId := by
  unfold ownFlag at h
  rw [Option.filter_eq_some_iff] at h
  exact ⟨h.1, by simpa using h.2⟩

section Visits

variable [DecidableEq Key]

theorem coreAt_setMuster (key k : Key) (flag : Option MusterState) :
    coreAt (setMuster world key flag) k
      = if k = key then flag.map MusterState.core else coreAt world k := by
  unfold coreAt setMuster
  dsimp only
  by_cases h : k = key
  · rw [if_pos h, h, Function.update_self]
  · rw [if_neg h, Function.update_of_ne h]

theorem applyEdit_keeps (edit : StatusEdit Key) :
    (applyEdit world edit).players = world.players
      ∧ ∀ k, coreAt (applyEdit world edit) k = coreAt world k := by
  unfold applyEdit
  cases h : world.musters edit.key with
  | none => exact ⟨rfl, fun _ => rfl⟩
  | some flag =>
      refine ⟨rfl, fun k => ?_⟩
      dsimp only
      rw [coreAt_setMuster]
      split
      · next hk => rw [hk, coreAt, h]; rfl
      · rfl

/-- **Firing** moves no manpower and touches no flag's core. -/
theorem fireFlag_keeps (playerId : String) (key : Key) (mode : MusterMode) (state : TickState Key) :
    (fireFlag input playerId key mode state).report = state.report
      ∧ (fireFlag input playerId key mode state).world.players = state.world.players
      ∧ ∀ k, coreAt (fireFlag input playerId key mode state).world k = coreAt state.world k := by
  have hedits : ∀ (edits : List (StatusEdit Key)) (world : MusterWorld Key),
      (edits.foldl applyEdit world).players = world.players
        ∧ ∀ k, coreAt (edits.foldl applyEdit world) k = coreAt world k := by
    intro edits
    induction edits with
    | nil => exact fun _ => ⟨rfl, fun _ => rfl⟩
    | cons edit rest ih =>
        intro world
        obtain ⟨hplayers, hcores⟩ := ih (applyEdit world edit)
        obtain ⟨hplayers', hcores'⟩ := applyEdit_keeps world edit
        exact ⟨hplayers.trans hplayers', fun k => (hcores k).trans (hcores' k)⟩
  cases mode with
  | HOLD => exact ⟨rfl, rfl, fun _ => rfl⟩
  | ADVANCE => exact ⟨rfl, hedits _ _⟩
  | MARCH => exact ⟨rfl, hedits _ _⟩

/-- The player of `world`, with the books at `record`. -/
def MusterPlayer.withRecord (player : MusterPlayer) (record : RuntimePlayer) : MusterPlayer :=
  { player with record := record }

/-- All that a visit to a player's own flag can do to it, to the pool and
to the report. -/
inductive FlagVisit (input : MusterTickInput Key) (playerId : String) (player : MusterPlayer)
    (activeCount : Nat) (key : Key) (flag : MusterState) :
    Option FlagCore → RuntimePlayer → List (MusterEntry Key) → Prop
  | cleared (cause : isStale input.nowMs flag = true ∨ player.isAi = some true) :
      FlagVisit input playerId player activeCount key flag none
        (creditManpower player.record flag.amount (input.cap playerId))
        [⟨playerId, key, flag, .REFUND (manpowerCeiling player.record (input.cap playerId)),
            player.record.pool,
            (creditManpower player.record flag.amount (input.cap playerId)).pool⟩]
  | drawn (live : isStale input.nowMs flag = false) (inflow : ℚ)
      (hinflow : inflow = flagInflow input playerId player activeCount key flag)
      (hpos : INFLOW_EPSILON < inflow) :
      FlagVisit input playerId player activeCount key flag
        (some ⟨flag.ownerId, flag.amount + inflow, flag.setAt⟩)
        { player.record with manpower := some (player.record.pool - inflow) }
        [⟨playerId, key, flag,
            .INFLOW inflow (musterFlagCap (input.cap playerId) flag.capLevel)
              (musterPoolFloorFor player),
            player.record.pool, player.record.pool - inflow⟩]
  | idle (live : isStale input.nowMs flag = false) :
      FlagVisit input playerId player activeCount key flag (some flag.core) player.record []

/-- The state after a visit: off the visited tile nothing changes, and
nobody else's record does. -/
structure Visited (input : MusterTickInput Key) (playerId : String) (player : MusterPlayer)
    (activeCount : Nat) (key : Key) (flag : MusterState) (before after : TickState Key)
    (core : Option FlagCore) (record : RuntimePlayer) (entries : List (MusterEntry Key)) :
    Prop where
  visit : FlagVisit input playerId player activeCount key flag core record entries
  report : after.report = before.report ++ entries
  players : after.world.players
    = Function.update before.world.players playerId (some (player.withRecord record))
  cores : ∀ k, coreAt after.world k = if k = key then core else coreAt before.world k

/-- **One visit.** -/
theorem tickFlag_visited {playerId : String} {player : MusterPlayer} (activeCount : Nat) {key : Key}
    {flag : MusterState} {state : TickState Key}
    (hflag : ownFlag state.world playerId key = some flag)
    (hplayer : state.world.players playerId = some player) :
    ∃ core record entries,
      Visited input playerId player activeCount key flag state
        (tickFlag input playerId activeCount state key) core record entries := by
  have hself : Function.update state.world.players playerId (some (player.withRecord player.record))
      = state.world.players := by
    have hrecord : some (player.withRecord player.record) = state.world.players playerId :=
      hplayer.symm
    rw [hrecord]
    exact Function.update_eq_self playerId state.world.players
  have hcore : coreAt state.world key = some flag.core := by
    unfold coreAt
    rw [(ownFlag_some hflag).1]
    rfl
  unfold tickFlag
  rw [hflag, hplayer]
  dsimp only
  by_cases hclear : (isStale input.nowMs flag
      || warOver input state.world playerId player key) = true
  · rw [if_pos hclear]
    have hcause : isStale input.nowMs flag = true ∨ player.isAi = some true := by
      rcases (by simpa using hclear : isStale input.nowMs flag = true
        ∨ warOver input state.world playerId player key = true) with h | h
      · exact .inl h
      · simp [warOver] at h
        exact .inr h.1
    refine ⟨_, _, _, .cleared hcause, rfl, rfl, fun k => ?_⟩
    exact coreAt_setMuster _ key k none
  · rw [if_neg hclear]
    have hlive : isStale input.nowMs flag = false := by
      cases h : isStale input.nowMs flag with
      | false => rfl
      | true => exact absurd (by rw [h]; rfl) hclear
    -- what accruing leaves, before the flag fires
    obtain ⟨core, record, entries, haccrued⟩ : ∃ core record entries,
        Visited input playerId player activeCount key flag state
          (accrueFlag input playerId player activeCount key flag state) core record entries := by
      unfold accrueFlag
      dsimp only
      split
      · next hpos =>
          exact ⟨_, _, _, .drawn hlive _ rfl hpos, rfl, rfl, fun k => coreAt_setMuster _ key k _⟩
      · split
        · exact ⟨_, _, _, .idle hlive, (List.append_nil _).symm, hself.symm,
            fun k => coreAt_setMuster _ key k _⟩
        · split
          · exact ⟨_, _, _, .idle hlive, (List.append_nil _).symm, hself.symm,
              fun k => coreAt_setMuster _ key k _⟩
          · refine ⟨_, _, _, .idle hlive, (List.append_nil _).symm, hself.symm, fun k => ?_⟩
            split
            · next hk => rw [hk, hcore]
            · rfl
    obtain ⟨hfire, hfirePlayers, hfireCores⟩ := fireFlag_keeps input playerId key flag.mode
      (accrueFlag input playerId player activeCount key flag state)
    exact ⟨core, record, entries, haccrued.visit, hfire.trans haccrued.report,
      hfirePlayers.trans haccrued.players, fun k => (hfireCores k).trans (haccrued.cores k)⟩

theorem tickFlag_of_none (playerId : String) (activeCount : Nat) {state : TickState Key} {key : Key}
    (h : ownFlag state.world playerId key = none) :
    tickFlag input playerId activeCount state key = state := by
  unfold tickFlag
  rw [h]

end Visits

end BorderEmpires.Manpower
