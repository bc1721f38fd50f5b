/-
  BorderEmpires.Commands.ReplayCache
  **COMMANDS AND THE CACHE OF THEIR OUTCOMES.**

  A submitted command is answered from the cache when its id has recorded
  events, or when the player's sequence number belongs to a command that
  has; otherwise the sequence number is registered and the command queued.

  `overflowed` is not in the source: it notes that a bound of the cache was
  exceeded at some point, whichever of the three it was.
-/
import BorderEmpires.World
import BorderEmpires.Lib.InsertionMap

namespace BorderEmpires.Commands

/-! ## §1. Commands. -/

inductive CommandType where
  | ATTACK | EXPAND | SETTLE | BUILD_FORT | BUILD_OBSERVATORY | BUILD_SIEGE_BATTERY
  | BUILD_ECONOMIC_STRUCTURE | CANCEL_FORT_BUILD | CANCEL_STRUCTURE_BUILD | RUSH_BUY
  | CANCEL_SETTLE | REMOVE_STRUCTURE | CANCEL_SIEGE_BATTERY_BUILD | CANCEL_CAPTURE
  | UNCAPTURE_TILE | CHOOSE_TECH | CHOOSE_DOMAIN | SET_CONVERTER_STRUCTURE_ENABLED
  | SET_CONVERTER_STRUCTURE_MODE | SET_OBSERVATORY_ENABLED | REVEAL_EMPIRE
  | REVEAL_EMPIRE_STATS | SURVEY_SWEEP | AETHER_LANCE | AETHER_EMP | SUPPRESS_AETHER_TOWER
  | HIJACK_AETHER_TOWER | RECRUIT_ANCILLARIES | SHIP_SALVAGE_TO_COURT
  | FORCED_ANCILLARIFICATION | CAST_AETHER_BRIDGE | CAST_AETHER_WALL | SIPHON_TILE
  | PURGE_SIPHON | CANCEL_SIPHON | CREATE_MOUNTAIN | REMOVE_MOUNTAIN | RETORT_RECAST
  | REDEPLOY_AFC_MODULE | BUILD_AFC | WITHDRAW_AND_REDEPLOY | SKY_DOCK_BOMBARD
  | IMPERIAL_EXCHANGE_LEVY | SOVEREIGN_SIEGE_ENGINE_STRIKE | AEGIS_LOCK | ASTRAL_DOCK_LAUNCH
  | TITANIUM_LEVY_MUSTER | ACTIVATE_IMPERIAL_WARD | UPGRADE_TOWN_TIER | SET_MUSTER
  | CLEAR_MUSTER | UPGRADE_MUSTER_CAP | DEV_QUEUE_ENQUEUE | DEV_QUEUE_CANCEL
  | DEV_QUEUE_MOVE_TO_FRONT | WAYPOINT_ENQUEUE | WAYPOINT_CANCEL | WAYPOINT_CANCEL_ALL
  | CLAIM_CONTINUATION_SET | SET_AUTO_SETTLE_PREFS | NAME_ISLAND
  | SYNC_ALLIANCE | SYNC_TRUCE | SETTLE_DIPLOMACY_TERMS | CANCEL_RESOURCE_SUPPLY
  | WATCH_MUSTER | UNWATCH_MUSTER | CHECK_STRANDED_REGION
  deriving DecidableEq

open CommandType

/-- A command id; the envelope schema refuses the empty text. -/
@[ext] structure CommandId where
  text : String
  nonempty : text ≠ ""

instance : DecidableEq CommandId := fun a b => decidable_of_iff (a.text = b.text) CommandId.ext_iff.symm

structure CommandEnvelope where
  commandId : CommandId
  sessionId : String
  playerId : PlayerId
  clientSeq : Nat
  type : CommandType
  deriving DecidableEq

/-- Internal social commands reuse sequence zero. -/
def IDENTITY_ONLY_COMMAND_TYPES : List CommandType :=
  [SYNC_TRUCE, SYNC_ALLIANCE, SETTLE_DIPLOMACY_TERMS, CANCEL_RESOURCE_SUPPLY]

def usesPlayerCommandSequence (type : CommandType) : Bool :=
  !(IDENTITY_ONLY_COMMAND_TYPES.any (fun value => value == type))

/-- The cache reserves the player's sequence number of such a command. -/
def CommandEnvelope.playerSequenced (command : CommandEnvelope) : Bool :=
  usesPlayerCommandSequence command.type && command.type != CHECK_STRANDED_REGION

/-- The text "playerId:clientSeq"; a number holds no colon, so the text
tells the two apart. -/
abbrev PlayerSeqKey := PlayerId × Nat

def CommandEnvelope.playerSeqKey (command : CommandEnvelope) : PlayerSeqKey :=
  (command.playerId, command.clientSeq)

/-! ## §2. Events. -/

inductive EventType where
  | COMMAND_ACCEPTED | COMMAND_REJECTED | COMMAND_RESOLVED | COMBAT_CANCELLED | COMBAT_RESOLVED
  | COLLECT_RESULT | TILE_DELTA_BATCH | SETTLEMENT_STARTED | REACH_BORDER_CHANGED | TECH_UPDATE
  | DOMAIN_UPDATE | PLAYER_MESSAGE | BARB_ATE_TILE | BARB_MULTIPLIED
  deriving DecidableEq

/-- An event, as far as the cache reads it. -/
structure SimulationEvent where
  eventType : EventType
  commandId : CommandId
  cancelledCommandIds : List CommandId

def isTerminalCommandEvent (event : SimulationEvent) : Bool :=
  event.eventType == .COMMAND_REJECTED || event.eventType == .COMBAT_RESOLVED
    || event.eventType == .COMBAT_CANCELLED || event.eventType == .COMMAND_RESOLVED

def SERVER_GENERATED_COMMAND_ID_PREFIXES : List String :=
  [ "ai-runtime", "system-runtime", "territory-auto:", "population-growth-tick:", "accrual:",
    "resource-supply:", "fort-attrition:", "muster-spend:", "ops-seed-barbs:", "recovered-build:",
    "recovered-settle:", "startup-gross-income-settlement:", "tile-owner-change:", "income-tick:",
    "breach:", "auto-fill:", "reach-update:", "island-names:" ]

/-- Server-generated commands are never submitted again and leave no record. -/
def isReplayTrackedCommandId (commandId : CommandId) : Bool :=
  !(SERVER_GENERATED_COMMAND_ID_PREFIXES.any
    (fun lead => lead.toList.isPrefixOf commandId.text.toList))

/-! ## §3. The cache. -/

structure ReplayBounds where
  maxTerminalCommandReplayHistory : Nat
  maxPlayerSeqReplayEntries : Nat
  maxRecordedCommandHistory : Nat

structure RuntimeReplayCache where
  recordedEventsByCommandId : InsertionMap CommandId (List SimulationEvent)
  commandIdsByPlayerSeq : InsertionMap PlayerSeqKey CommandId
  terminalReplayCommandIds : InsertionMap CommandId Unit
  terminalOnlyReplayCommandIds : List CommandId
  overflowed : Bool

namespace RuntimeReplayCache

variable (bounds : ReplayBounds) (c : RuntimeReplayCache)

def empty : RuntimeReplayCache := ⟨.empty, .empty, .empty, [], false⟩

def markTerminalReplayCommand (commandId : CommandId) : RuntimeReplayCache :=
  { c with
    terminalReplayCommandIds := (c.terminalReplayCommandIds.erase commandId).set commandId () }

def markTerminalOnlyReplayCommand (commandId : CommandId) : RuntimeReplayCache :=
  { c with
    recordedEventsByCommandId := c.recordedEventsByCommandId.erase commandId
    terminalOnlyReplayCommandIds := InsertionSet.add c.terminalOnlyReplayCommandIds commandId }

def isTerminalOnlyReplayCommand (commandId : CommandId) : Bool :=
  commandId ∈ c.terminalOnlyReplayCommandIds

def seqKeysOf (commandId : CommandId) : List PlayerSeqKey :=
  (c.commandIdsByPlayerSeq.entries.filter (fun entry => entry.2 = commandId)).map Prod.fst

def dropReplayHistoryForCommand (commandId : CommandId) : RuntimeReplayCache :=
  { c with
    recordedEventsByCommandId := c.recordedEventsByCommandId.erase commandId
    terminalReplayCommandIds := c.terminalReplayCommandIds.erase commandId
    terminalOnlyReplayCommandIds := c.terminalOnlyReplayCommandIds.erase commandId
    commandIdsByPlayerSeq := (c.seqKeysOf commandId).foldl
      (fun m key => m.erase key) c.commandIdsByPlayerSeq }

def dropOldestPlayerSeq : RuntimeReplayCache :=
  match c.commandIdsByPlayerSeq.entries.head? with
  | none => c
  | some (oldestPlayerSeqKey, oldestCommandId) =>
      { c with
        commandIdsByPlayerSeq := c.commandIdsByPlayerSeq.erase oldestPlayerSeqKey
        terminalOnlyReplayCommandIds := c.terminalOnlyReplayCommandIds.erase oldestCommandId }

def dropOldestTerminal : RuntimeReplayCache :=
  match c.terminalReplayCommandIds.keys.head? with
  | none => c
  | some oldest => c.dropReplayHistoryForCommand oldest

def dropOldestRecorded : RuntimeReplayCache :=
  match c.recordedEventsByCommandId.keys.head? with
  | none => c
  | some oldest => c.dropReplayHistoryForCommand oldest

def within : Bool :=
  c.terminalReplayCommandIds.keys.length ≤ bounds.maxTerminalCommandReplayHistory
    && c.commandIdsByPlayerSeq.keys.length ≤ bounds.maxPlayerSeqReplayEntries
    && c.recordedEventsByCommandId.keys.length ≤ max 1 bounds.maxRecordedCommandHistory

/-- `while (table.size > bound)`: every turn drops an entry of the table, so
as many turns as it has entries are enough. -/
def dropWhileOver (size : RuntimeReplayCache → Nat) (bound : Nat)
    (dropOldest : RuntimeReplayCache → RuntimeReplayCache) :
    Nat → RuntimeReplayCache → RuntimeReplayCache
  | 0, c => c
  | turns + 1, c =>
      if bound < size c then dropWhileOver size bound dropOldest turns (dropOldest c) else c

def terminalSize : Nat := c.terminalReplayCommandIds.keys.length

def playerSeqSize : Nat := c.commandIdsByPlayerSeq.keys.length

def recordedSize : Nat := c.recordedEventsByCommandId.keys.length

def pruneReplayCaches : RuntimeReplayCache :=
  let terminal := dropWhileOver terminalSize bounds.maxTerminalCommandReplayHistory
    dropOldestTerminal c.terminalSize c
  let playerSeq := dropWhileOver playerSeqSize bounds.maxPlayerSeqReplayEntries
    dropOldestPlayerSeq terminal.playerSeqSize terminal
  let recorded := dropWhileOver recordedSize (max 1 bounds.maxRecordedCommandHistory)
    dropOldestRecorded playerSeq.recordedSize playerSeq
  { recorded with overflowed := c.overflowed || !c.within bounds }

def recordTracked (event : SimulationEvent) : RuntimeReplayCache :=
  if isReplayTrackedCommandId event.commandId then
    let recorded := { c with
      recordedEventsByCommandId := c.recordedEventsByCommandId.set event.commandId
        ((c.recordedEventsByCommandId.get event.commandId).getD [] ++ [event]) }
    if isTerminalCommandEvent event then recorded.markTerminalReplayCommand event.commandId
    else recorded
  else c

def recordCancelled (event : SimulationEvent) : RuntimeReplayCache :=
  if event.eventType = .COMBAT_CANCELLED then
    (event.cancelledCommandIds.filter (fun id => id ≠ event.commandId)).foldl
      markTerminalOnlyReplayCommand c
  else c

def recordEvent (event : SimulationEvent) : RuntimeReplayCache :=
  if event.eventType = .REACH_BORDER_CHANGED then c
  else ((c.recordTracked event).recordCancelled event).pruneReplayCaches bounds

def replay (commandId : CommandId) : Option (List SimulationEvent) :=
  if c.isTerminalOnlyReplayCommand commandId then some []
  else c.recordedEventsByCommandId.get commandId

/-- What is replayed for the command that holds a sequence number. -/
def replaySequence (key : PlayerSeqKey) : Option (List SimulationEvent) :=
  (c.commandIdsByPlayerSeq.get key).bind c.replay

/-- Replays a recorded outcome, or reserves the player's sequence number;
`none` when there is nothing to replay. -/
def replayOrRegister (command : CommandEnvelope) :
    Option (List SimulationEvent) × RuntimeReplayCache :=
  let pruned := c.pruneReplayCaches bounds
  match pruned.replay command.commandId with
  | some events => (some events, pruned)
  | none =>
      if command.playerSequenced then
        match pruned.replaySequence command.playerSeqKey with
        | some events => (some events, pruned)
        | none => (none, { pruned with
            commandIdsByPlayerSeq :=
              pruned.commandIdsByPlayerSeq.set command.playerSeqKey command.commandId })
      else (none, pruned)

/-! ## §4. Within the bounds nothing is forgotten. -/

def Answers (commandId : CommandId) : Prop := (c.replay commandId).isSome = true

theorem dropWhileOver_of_le {size : RuntimeReplayCache → Nat} {bound : Nat}
    {c : RuntimeReplayCache} (h : size c ≤ bound)
    (dropOldest : RuntimeReplayCache → RuntimeReplayCache) (turns : Nat) :
    dropWhileOver size bound dropOldest turns c = c := by
  cases turns with
  | zero => rfl
  | succ turns => exact if_neg (Nat.not_lt.mpr h)

/-- **A cache that never overflowed** is as it was before pruning. -/
theorem pruneReplayCaches_eq {bounds : ReplayBounds} {c : RuntimeReplayCache}
    (h : (c.pruneReplayCaches bounds).overflowed = false) :
    c.pruneReplayCaches bounds = c ∧ c.overflowed = false := by
  have hflag : (c.overflowed || !c.within bounds) = false := h
  rw [Bool.or_eq_false_iff, Bool.not_eq_false'] at hflag
  obtain ⟨hover, hwithin⟩ := hflag
  have hsizes := hwithin
  unfold within at hsizes
  rw [Bool.and_eq_true, Bool.and_eq_true, decide_eq_true_iff, decide_eq_true_iff,
    decide_eq_true_iff] at hsizes
  obtain ⟨⟨hterminal, hseq⟩, hrecorded⟩ := hsizes
  refine ⟨?_, hover⟩
  unfold pruneReplayCaches
  dsimp only
  rw [@dropWhileOver_of_le terminalSize _ c hterminal, @dropWhileOver_of_le playerSeqSize _ c hseq,
    @dropWhileOver_of_le recordedSize _ c hrecorded, hwithin, Bool.not_true, Bool.or_false]

theorem recordCancelled_seq (event : SimulationEvent) :
    (c.recordCancelled event).commandIdsByPlayerSeq = c.commandIdsByPlayerSeq
      ∧ (c.recordCancelled event).overflowed = c.overflowed := by
  have hfold : ∀ (ids : List CommandId) (c : RuntimeReplayCache),
      (ids.foldl markTerminalOnlyReplayCommand c).commandIdsByPlayerSeq = c.commandIdsByPlayerSeq
        ∧ (ids.foldl markTerminalOnlyReplayCommand c).overflowed = c.overflowed := by
    intro ids
    induction ids with
    | nil => exact fun c => ⟨rfl, rfl⟩
    | cons id rest ih => exact fun c => ih (c.markTerminalOnlyReplayCommand id)
  unfold recordCancelled
  split
  · exact hfold _ c
  · exact ⟨rfl, rfl⟩

theorem recordTracked_seq (event : SimulationEvent) :
    (c.recordTracked event).commandIdsByPlayerSeq = c.commandIdsByPlayerSeq
      ∧ (c.recordTracked event).overflowed = c.overflowed := by
  unfold recordTracked
  dsimp only
  split
  · split <;> exact ⟨rfl, rfl⟩
  · exact ⟨rfl, rfl⟩

/-- **Recording events** keeps the sequence numbers, unless a bound was
exceeded. -/
theorem recordEvent_seq {bounds : ReplayBounds} {c : RuntimeReplayCache} {event : SimulationEvent}
    (h : (c.recordEvent bounds event).overflowed = false) :
    (c.recordEvent bounds event).commandIdsByPlayerSeq = c.commandIdsByPlayerSeq
      ∧ c.overflowed = false := by
  unfold recordEvent at h ⊢
  by_cases hborder : event.eventType = .REACH_BORDER_CHANGED
  · rw [if_pos hborder] at h ⊢
    exact ⟨rfl, h⟩
  · rw [if_neg hborder] at h ⊢
    obtain ⟨heq, hover⟩ := pruneReplayCaches_eq h
    rw [heq, (recordCancelled_seq _ event).1, (recordTracked_seq c event).1]
    rw [(recordCancelled_seq _ event).2, (recordTracked_seq c event).2] at hover
    exact ⟨rfl, hover⟩

theorem recordEvents_seq {bounds : ReplayBounds} (events : List SimulationEvent) :
    ∀ {c : RuntimeReplayCache}, (events.foldl (recordEvent bounds) c).overflowed = false →
      (events.foldl (recordEvent bounds) c).commandIdsByPlayerSeq = c.commandIdsByPlayerSeq
        ∧ c.overflowed = false := by
  induction events with
  | nil =>
      intro c h
      exact ⟨rfl, h⟩
  | cons event rest ih =>
      intro c h
      obtain ⟨hrest, hover⟩ := @ih (c.recordEvent bounds event) h
      obtain ⟨hone, hover'⟩ := recordEvent_seq hover
      exact ⟨hrest.trans hone, hover'⟩

end RuntimeReplayCache

end BorderEmpires.Commands
