/-
  BorderEmpires.PendingCommands.Runs
  **THE PENDING-COMMAND LEDGER OVER RUNS.**

  `processSimulationEvent` marks commands in a loop over the sockets of the
  event's player, after several early returns.  Beside the gateway a run
  keeps which frontier commands have been stored and not ended
  (`LedgerRun.unended`); the ledger is right when the list of unresolved
  commands is that.
-/
import BorderEmpires.PendingCommands.Store
import BorderEmpires.Lib.Run

namespace BorderEmpires.PendingCommands

/-! ## §1. Submissions. -/

/-- `GatewaySocketSession`: the counters of a socket. -/
structure GatewaySocketSession where
  sessionId : String
  playerId : String
  nextClientSeq : Int
  nextServerAssignedClientSeq : Int

structure SubmitDurableCommandMessage where
  type : CommandType
  payloadJson : String
  commandId : Option String
  clientSeq : Option Int

/-- What a submission leaves: the counters, the store, the id and number
sent back as queued, the command given to the simulation. -/
structure Submission where
  session : GatewaySocketSession
  store : CommandStore
  queued : Option (String × Int)
  submitted : Option CommandEnvelope

/-- `submitDurableCommand` when the store answers and the simulation
acknowledges.  `created` is the id drawn for a message without one. -/
def submitDurableCommand (store : CommandStore) (session : GatewaySocketSession)
    (message : SubmitDurableCommandMessage) (created : String) (now : Nat) : Submission :=
  let clientSeq := message.clientSeq.getD (session.nextServerAssignedClientSeq - 1)
  let durableCommand : CommandEnvelope :=
    { commandId := message.commandId.getD created
      clientSeq := clientSeq
      issuedAt := now
      type := message.type
      sessionId := session.sessionId
      playerId := session.playerId
      payloadJson := message.payloadJson }
  let outcome := store.persistQueuedCommand durableCommand now
  { session :=
      { session with
          nextClientSeq := max session.nextClientSeq (clientSeq + 1)
          nextServerAssignedClientSeq :=
            if message.clientSeq.isSome then session.nextServerAssignedClientSeq else clientSeq }
    store := outcome.1
    queued := outcome.2.map fun stored => (stored.commandId, stored.clientSeq)
    submitted :=
      if outcome.2.any (fun stored => decide (stored.commandId = durableCommand.commandId)) then
        some durableCommand
      else none }

theorem submitDurableCommand_store (store : CommandStore) (session : GatewaySocketSession)
    (message : SubmitDurableCommandMessage) (created : String) (now : Nat) :
    ∃ command, (submitDurableCommand store session message created now).store
      = (store.persistQueuedCommand command now).1 := ⟨_, rfl⟩

/-! ## §2. Sockets. -/

inductive SocketChannel where
  | control
  | bulk
  deriving DecidableEq

structure SocketSession where
  playerId : Option String
  channel : SocketChannel
  fogDisabled : Bool

/-- `isOpen` is `readyState === OPEN`. -/
structure Socket where
  id : Nat
  isOpen : Bool
  session : Option SocketSession

/-- The store, the sockets attached to each player, and the commands whose
first tile batch has come. -/
structure Gateway where
  store : CommandStore
  sockets : List (String × Socket)
  persistedTileDeltaCommandIds : List String

namespace Gateway

def socketsForPlayer (g : Gateway) (playerId : String) : List Socket :=
  (g.sockets.filter fun row => decide (row.1 = playerId)).map Prod.snd

def attachSocket (g : Gateway) (playerId : String) (socket : Socket) : Gateway :=
  if (g.socketsForPlayer playerId).any (fun other => other.id == socket.id) then g
  else { g with sockets := g.sockets ++ [(playerId, socket)] }

def removeSocket (g : Gateway) (playerId : String) (id : Nat) : Gateway :=
  { g with sockets := g.sockets.filter fun row => decide (¬ (row.1 = playerId ∧ row.2.id = id)) }

/-- A socket starts to close, logs in, or toggles its fog. -/
def changeSocket (g : Gateway) (socket : Socket) : Gateway :=
  { g with
      sockets := g.sockets.map fun row =>
        if row.2.id = socket.id then (row.1, socket) else row }

end Gateway

def hasChannel (channel : SocketChannel) (socket : Socket) : Bool :=
  socket.isOpen && socket.session.any fun session => decide (session.channel = channel)

/-- `selectSocketsForEvent`, for every event but a tile batch: the control
sockets, else the bulk ones. -/
def selectSocketsForEvent (sockets : List Socket) : List Socket :=
  let controlSockets := sockets.filter (hasChannel .control)
  if controlSockets.isEmpty then sockets.filter (hasChannel .bulk) else controlSockets

/-! ## §3. Events. -/

/-- The event types, with the fields that decide marks and early returns. -/
inductive SimulationEventType where
  | COMMAND_ACCEPTED
  | COMMAND_REJECTED (code message : String)
  | COMMAND_RESOLVED
  | COMBAT_CANCELLED (cancelledCommandIds : List String)
  | COMBAT_RESOLVED
  | TILE_DELTA_BATCH
  | COLLECT_RESULT
  | TECH_UPDATE
  | DOMAIN_UPDATE
  | PLAYER_MESSAGE (messageType : String) (payloadType : Option String)

structure SimulationClientEvent where
  commandId : String
  playerId : String
  eventType : SimulationEventType

def ONBOARDING_MILESTONE_MESSAGE_TYPE : String := "ONBOARDING_MILESTONE"
def DIPLOMACY_SETTLEMENT_COMMAND_PREFIX : String := "diplomacy-settle:"
def persistedTileDeltaCommandIdsMaxEntries : Nat := 10000

def isAttackAlertLikeMessage (messageType : String) : Bool :=
  decide (messageType = "ATTACK_ALERT" ∨ messageType = "AETHER_PURGE_ALERT"
    ∨ messageType = "AETHER_HIJACK_ALERT")

def isSeasonRolloverEvent (e : SimulationClientEvent) : Bool :=
  match e.eventType with
  | .PLAYER_MESSAGE _ payloadType =>
      decide ((e.playerId = "" ∨ e.playerId = "__broadcast__")
        ∧ payloadType = some "SEASON_ROLLOVER")
  | _ => false

/-- The event returns before its player's sockets are asked for: a
milestone, an alert for the offline, a relayed broadcast, a strike. -/
def handledBeforeSockets (e : SimulationClientEvent) : Bool :=
  match e.eventType with
  | .PLAYER_MESSAGE messageType _ =>
      decide (messageType = ONBOARDING_MILESTONE_MESSAGE_TYPE)
        || decide (messageType = "MANPOWER_FULL_ALERT")
        || isSeasonRolloverEvent e
        || decide (e.playerId = "__broadcast__"
          ∧ messageType = "SOVEREIGN_SIEGE_ENGINE_STRIKE_ANNOUNCEMENT")
  | .TILE_DELTA_BATCH => decide (e.playerId = "__broadcast__")
  | _ => false

def hasPrefix (start text : String) : Bool := start.toList.isPrefixOf text.toList

/-- A rejection is passed over at a socket of another player, and when the
simulation rejected a command of its own. -/
def visits (e : SimulationClientEvent) (socket : Socket) : Bool :=
  match e.eventType with
  | .COMMAND_REJECTED _ _ =>
      decide (socket.session.bind SocketSession.playerId = some e.playerId)
        && !hasPrefix "territory-auto:" e.commandId
        && !hasPrefix DIPLOMACY_SETTLEMENT_COMMAND_PREFIX e.commandId
  | _ => true

/-- The marks made at one socket. -/
def verdicts (e : SimulationClientEvent) : List LedgerCall :=
  match e.eventType with
  | .COMMAND_ACCEPTED => [.markAccepted e.commandId]
  | .COMMAND_REJECTED code message => [.markRejected e.commandId code message]
  | .COMBAT_CANCELLED cancelledCommandIds =>
      .markResolved e.commandId
        :: (cancelledCommandIds.filter fun id => decide (id ≠ e.commandId)).map .markResolved
  | .PLAYER_MESSAGE messageType _ =>
      if messageType = "SOCIAL_STATE_SYNCED" ∨ isAttackAlertLikeMessage messageType = true then []
      else [.markResolved e.commandId]
  | .TILE_DELTA_BATCH => []
  | .COMMAND_RESOLVED | .COMBAT_RESOLVED | .COLLECT_RESULT | .TECH_UPDATE | .DOMAIN_UPDATE =>
      [.markResolved e.commandId]

/-- The first tile batch of a command resolves it, unless it is a frontier
command; half of the remembered ids go when there are too many. -/
def processTileDeltaBatch (g : Gateway) (e : SimulationClientEvent) (now : Nat) : Gateway :=
  if e.commandId ∈ g.persistedTileDeltaCommandIds then g
  else
    let added := g.persistedTileDeltaCommandIds ++ [e.commandId]
    let kept :=
      if added.length > persistedTileDeltaCommandIdsMaxEntries then
        added.drop (added.length - persistedTileDeltaCommandIdsMaxEntries / 2)
      else added
    let store :=
      match g.store.commands.get e.commandId with
      | none => g.store
      | some command =>
          if command.type.isFrontier then g.store else g.store.markResolved e.commandId now
    { g with store := store, persistedTileDeltaCommandIds := kept }

/-- `processSimulationEvent`, as far as it reaches the store. -/
def processSimulationEvent (g : Gateway) (e : SimulationClientEvent) (now : Nat) : Gateway :=
  if handledBeforeSockets e then g
  else
    let sockets := g.socketsForPlayer e.playerId
    if sockets.isEmpty then g
    else
      match e.eventType with
      | .TILE_DELTA_BATCH => processTileDeltaBatch g e now
      | _ =>
          let calls := (selectSocketsForEvent sockets).flatMap fun socket =>
            if visits e socket then verdicts e else []
          { g with store := applyCalls now calls g.store }

/-! ## §4. What a run should show. -/

def SimulationClientEvent.ends (e : SimulationClientEvent) : List String :=
  match e.eventType with
  | .COMMAND_REJECTED _ _ | .COMBAT_RESOLVED => [e.commandId]
  | .COMBAT_CANCELLED cancelledCommandIds => e.commandId :: cancelledCommandIds
  | _ => []

/-- The gateway, and the frontier commands stored and not ended since. -/
structure LedgerRun where
  gateway : Gateway
  unended : List String

inductive LedgerStep where
  | submit (session : GatewaySocketSession) (message : SubmitDurableCommandMessage)
      (created : String) (now : Nat)
  | event (e : SimulationClientEvent) (now : Nat)
  | attach (playerId : String) (socket : Socket)
  | detach (playerId : String) (id : Nat)
  | change (socket : Socket)

def newlyStored (old new : CommandStore) : List String :=
  (new.commands.values.filter fun command =>
    (old.commands.get command.commandId).isNone && command.type.isFrontier).map
      StoredGatewayCommand.commandId

def LedgerRun.step (w : LedgerRun) : LedgerStep → LedgerRun
  | .submit session message created now =>
      let store := (submitDurableCommand w.gateway.store session message created now).store
      ⟨{ w.gateway with store := store }, w.unended ++ newlyStored w.gateway.store store⟩
  | .event e now =>
      ⟨processSimulationEvent w.gateway e now, w.unended.filter fun id => decide (id ∉ e.ends)⟩
  | .attach playerId socket => ⟨w.gateway.attachSocket playerId socket, w.unended⟩
  | .detach playerId id => ⟨w.gateway.removeSocket playerId id, w.unended⟩
  | .change socket => ⟨w.gateway.changeSocket socket, w.unended⟩

def LedgerRun.initial : LedgerRun := ⟨⟨.empty, [], []⟩, []⟩

/-- **The ledger is right**: of the frontier commands the list of a player
has exactly those of the player that are stored and not ended. -/
def LedgerRun.Right (w : LedgerRun) : Prop :=
  ∀ playerId command, command.type.isFrontier = true →
    (command ∈ w.gateway.store.listUnresolvedForPlayer playerId ↔
      w.gateway.store.commands.get command.commandId = some command
        ∧ command.playerId = playerId ∧ command.commandId ∈ w.unended)

/-! ## §5. What an event does to a row. -/

/-- Some socket of the player makes the event's marks. -/
def Gateway.reaches (g : Gateway) (e : SimulationClientEvent) : Bool :=
  !handledBeforeSockets e
    && (selectSocketsForEvent (g.socketsForPlayer e.playerId)).any (visits e)

def SimulationClientEvent.marks (e : SimulationClientEvent) : List String :=
  (verdicts e).map LedgerCall.commandId

def SimulationClientEvent.accepts (e : SimulationClientEvent) : Bool :=
  match e.eventType with
  | .COMMAND_ACCEPTED => true
  | _ => false

variable {command : StoredGatewayCommand} (g : Gateway) (e : SimulationClientEvent) (now : Nat)

theorem verdicts_closes : ∀ call ∈ verdicts e, call.closes = !e.accepts := by
  intro call hcall
  unfold verdicts at hcall
  unfold SimulationClientEvent.accepts
  cases htype : e.eventType with
  | COMBAT_CANCELLED cancelledCommandIds =>
      rw [htype] at hcall
      rcases List.mem_cons.mp hcall with rfl | hcall
      · rfl
      · obtain ⟨id, -, rfl⟩ := List.mem_map.mp hcall
        rfl
  | PLAYER_MESSAGE messageType payloadType =>
      rw [htype] at hcall
      dsimp only at hcall
      split at hcall
      · cases hcall
      · obtain rfl := List.mem_singleton.mp hcall
        rfl
  | TILE_DELTA_BATCH =>
      rw [htype] at hcall
      cases hcall
  | COMMAND_ACCEPTED =>
      rw [htype] at hcall
      obtain rfl := List.mem_singleton.mp hcall
      rfl
  | COMMAND_REJECTED code message =>
      rw [htype] at hcall
      obtain rfl := List.mem_singleton.mp hcall
      rfl
  | COMMAND_RESOLVED | COMBAT_RESOLVED | COLLECT_RESULT | TECH_UPDATE | DOMAIN_UPDATE =>
      rw [htype] at hcall
      obtain rfl := List.mem_singleton.mp hcall
      rfl

theorem SimulationClientEvent.marks_of_ends {e : SimulationClientEvent} {id : String}
    (h : id ∈ e.ends) : id ∈ e.marks := by
  unfold SimulationClientEvent.ends at h
  unfold SimulationClientEvent.marks verdicts
  cases htype : e.eventType with
  | COMBAT_CANCELLED cancelledCommandIds =>
      rw [htype] at h
      dsimp only at h ⊢
      rw [List.map_cons, List.map_map, List.mem_cons]
      rcases List.mem_cons.mp h with heq | hmem
      · exact Or.inl heq
      · by_cases hid : id = e.commandId
        · exact Or.inl hid
        · refine Or.inr (List.mem_map.mpr ⟨id, ?_, rfl⟩)
          exact List.mem_filter.mpr ⟨hmem, decide_eq_true hid⟩
  | COMMAND_REJECTED code message =>
      rw [htype] at h
      exact h
  | COMBAT_RESOLVED =>
      rw [htype] at h
      exact h
  | COMMAND_ACCEPTED | COMMAND_RESOLVED | TILE_DELTA_BATCH | COLLECT_RESULT | TECH_UPDATE
  | DOMAIN_UPDATE | PLAYER_MESSAGE messageType payloadType =>
      rw [htype] at h
      cases h

theorem SimulationClientEvent.ends_of_accepts {e : SimulationClientEvent} (h : e.accepts = true) :
    e.ends = [] := by
  unfold SimulationClientEvent.accepts at h
  unfold SimulationClientEvent.ends
  split at h
  next htype => rw [htype]
  next => cases h

theorem processSimulationEvent_store (htype : e.eventType ≠ .TILE_DELTA_BATCH) :
    (processSimulationEvent g e now).store
        = applyCalls now (if handledBeforeSockets e then [] else
          (selectSocketsForEvent (g.socketsForPlayer e.playerId)).flatMap fun socket =>
            if visits e socket then verdicts e else []) g.store := by
  unfold processSimulationEvent
  by_cases hbefore : handledBeforeSockets e = true
  · rw [if_pos hbefore, if_pos hbefore]
    rfl
  · rw [if_neg hbefore, if_neg hbefore]
    dsimp only
    by_cases hempty : (g.socketsForPlayer e.playerId).isEmpty = true
    · rw [if_pos hempty, List.isEmpty_iff.mp hempty]
      rfl
    · rw [if_neg hempty]
      split
      next hbatch => exact absurd hbatch htype
      next => rfl

theorem mem_calls_iff (id : String) :
    id ∈ (if handledBeforeSockets e then [] else
        (selectSocketsForEvent (g.socketsForPlayer e.playerId)).flatMap fun socket =>
          if visits e socket then verdicts e else []).map LedgerCall.commandId
      ↔ g.reaches e = true ∧ id ∈ e.marks := by
  unfold Gateway.reaches SimulationClientEvent.marks
  by_cases hbefore : handledBeforeSockets e = true
  · rw [if_pos hbefore, hbefore]
    simp
  · rw [if_neg hbefore, Bool.not_eq_true] at *
    rw [hbefore]
    simp only [List.mem_map, List.mem_flatMap, List.any_eq_true, Bool.not_false, Bool.true_and]
    constructor
    · rintro ⟨call, ⟨socket, hsocket, hcall⟩, hid⟩
      split at hcall
      next hvisits => exact ⟨⟨socket, hsocket, hvisits⟩, call, hcall, hid⟩
      next => cases hcall
    · rintro ⟨⟨socket, hsocket, hvisits⟩, call, hcall, hid⟩
      refine ⟨call, ⟨socket, hsocket, ?_⟩, hid⟩
      rw [if_pos hvisits]
      exact hcall

theorem processTileDeltaBatch_get (id : String) :
    ((processTileDeltaBatch g e now).store.commands.get id = none
        ↔ g.store.commands.get id = none)
      ∧ ∀ command, g.store.commands.get id = some command → command.type.isFrontier = true →
        (processTileDeltaBatch g e now).store.commands.get id = some command := by
  unfold processTileDeltaBatch
  by_cases hknown : e.commandId ∈ g.persistedTileDeltaCommandIds
  · rw [if_pos hknown]
    exact ⟨Iff.rfl, fun command h _ => h⟩
  · rw [if_neg hknown]
    dsimp only
    cases hcommand : g.store.commands.get e.commandId with
    | none => exact ⟨Iff.rfl, fun command h _ => h⟩
    | some stored =>
        dsimp only
        by_cases hfrontier : stored.type.isFrontier = true
        · rw [if_pos hfrontier]
          exact ⟨Iff.rfl, fun command h _ => h⟩
        · rw [if_neg hfrontier]
          unfold CommandStore.markResolved
          rw [CommandStore.get_updateCommand]
          constructor
          · exact Option.map_eq_none_iff
          · intro command hget hf
            have hne : e.commandId ≠ id := by
              rintro rfl
              rw [hcommand] at hget
              obtain rfl := Option.some.inj hget
              exact hfrontier hf
            rw [hget, Option.map_some, if_neg hne]

theorem tileDelta_of_marks {e : SimulationClientEvent} (htype : e.eventType = .TILE_DELTA_BATCH) :
    e.marks = [] := by
  unfold SimulationClientEvent.marks verdicts
  rw [htype]
  rfl

/-- **What an event does to a frontier command**: it keeps its row, and gets
the event's verdict if the event reaches a socket and marks it. -/
theorem processSimulationEvent_get {id : String} (hget : g.store.commands.get id = some command)
    (hfrontier : command.type.isFrontier = true) :
    ∃ command', (processSimulationEvent g e now).store.commands.get id = some command'
      ∧ SameCommand command command'
      ∧ (command'.isUnresolved = true ↔
        if g.reaches e = true ∧ id ∈ e.marks then e.accepts = true
        else command.isUnresolved = true) := by
  by_cases htype : e.eventType = .TILE_DELTA_BATCH
  · refine ⟨command, ?_, SameCommand.refl command, ?_⟩
    · unfold processSimulationEvent
      rw [htype]
      dsimp only
      split
      · exact hget
      · split
        · exact hget
        · exact (processTileDeltaBatch_get g e now id).2 command hget hfrontier
    · rw [tileDelta_of_marks htype]
      simp
  · rw [processSimulationEvent_store g e now htype]
    have hkind : ∀ call ∈ (if handledBeforeSockets e then [] else
        (selectSocketsForEvent (g.socketsForPlayer e.playerId)).flatMap fun socket =>
          if visits e socket then verdicts e else []), call.closes = !e.accepts := by
      intro call hcall
      split at hcall
      · cases hcall
      obtain ⟨socket, -, hcall⟩ := List.mem_flatMap.mp hcall
      split at hcall
      · exact verdicts_closes e call hcall
      · cases hcall
    obtain ⟨command', hget', hsame, hstatus⟩ :=
      (applyCalls_get now (!e.accepts) id _ g.store hkind).2 command hget
    refine ⟨command', hget', hsame, ?_⟩
    rw [hstatus]
    by_cases hmarked : g.reaches e = true ∧ id ∈ e.marks
    · rw [if_pos hmarked, if_pos ((mem_calls_iff g e id).mpr hmarked), Bool.not_not]
    · rw [if_neg hmarked, if_neg (fun h => hmarked ((mem_calls_iff g e id).mp h))]

theorem processSimulationEvent_none {id : String} (hget : g.store.commands.get id = none) :
    (processSimulationEvent g e now).store.commands.get id = none := by
  by_cases htype : e.eventType = .TILE_DELTA_BATCH
  · unfold processSimulationEvent
    rw [htype]
    dsimp only
    split
    · exact hget
    · split
      · exact hget
      · exact (processTileDeltaBatch_get g e now id).1.mpr hget
  · rw [processSimulationEvent_store g e now htype]
    generalize (if handledBeforeSockets e then [] else
      (selectSocketsForEvent (g.socketsForPlayer e.playerId)).flatMap fun socket =>
        if visits e socket then verdicts e else []) = calls
    -- a mark leaves the ids of the rows
    induction calls generalizing g with
    | nil => exact hget
    | cons call calls ih =>
        obtain ⟨change, happly, -⟩ := call.apply_eq now g.store
        refine ih { g with store := call.apply now g.store } ?_
        show (call.apply now g.store).commands.get id = none
        rw [happly, CommandStore.get_updateCommand, hget]
        rfl

theorem processTileDeltaBatch_type {id : String} (hget : g.store.commands.get id = some command) :
    ((processTileDeltaBatch g e now).store.commands.get id).map StoredGatewayCommand.type
      = some command.type := by
  have hsame : (g.store.commands.get id).map StoredGatewayCommand.type = some command.type := by
    rw [hget]
    rfl
  unfold processTileDeltaBatch
  split
  · exact hsame
  dsimp only
  split
  · exact hsame
  split
  · exact hsame
  · unfold CommandStore.markResolved
    rw [CommandStore.get_updateCommand, hget, Option.map_some, Option.map_some]
    split <;> rfl

theorem processSimulationEvent_type {id : String} (hget : g.store.commands.get id = some command) :
    ((processSimulationEvent g e now).store.commands.get id).map StoredGatewayCommand.type
      = some command.type := by
  have hsame : (g.store.commands.get id).map StoredGatewayCommand.type = some command.type := by
    rw [hget]
    rfl
  by_cases htype : e.eventType = .TILE_DELTA_BATCH
  · unfold processSimulationEvent
    rw [htype]
    dsimp only
    split
    · exact hsame
    · split
      · exact hsame
      · exact processTileDeltaBatch_type g e now hget
  · rw [processSimulationEvent_store g e now htype]
    generalize (if handledBeforeSockets e then [] else
      (selectSocketsForEvent (g.socketsForPlayer e.playerId)).flatMap fun socket =>
        if visits e socket then verdicts e else []) = calls
    clear hsame
    induction calls generalizing g command with
    | nil =>
        show (g.store.commands.get id).map _ = _
        rw [hget]
        rfl
    | cons call calls ih =>
        obtain ⟨change, happly, hchange⟩ := call.apply_eq now g.store
        have hnext : (call.apply now g.store).commands.get id
            = some (if call.commandId = id then change command else command) := by
          rw [happly, CommandStore.get_updateCommand, hget]
          rfl
        have hrest := ih { g with store := call.apply now g.store } hnext
        have htype' : (if call.commandId = id then change command else command).type
            = command.type := by
          split
          · exact (hchange command).1.type
          · rfl
        rw [← htype']
        exact hrest

/-! ## §6. Steps. -/

/-- Rows under their own id; what is not ended is a stored frontier
command. -/
structure LedgerRun.Booked (w : LedgerRun) : Prop where
  keyed : w.gateway.store.Keyed
  stored : ∀ id ∈ w.unended, ∃ command, w.gateway.store.commands.get id = some command
    ∧ command.type.isFrontier = true

/-- The rows themselves tell what is not ended. -/
def LedgerRun.Exact (w : LedgerRun) : Prop :=
  ∀ id command, w.gateway.store.commands.get id = some command → command.type.isFrontier = true →
    (command.isUnresolved = true ↔ id ∈ w.unended)

theorem LedgerRun.right_iff_exact {w : LedgerRun} (hb : w.Booked) : w.Right ↔ w.Exact := by
  constructor
  · intro hright id command hget hfrontier
    have hkey := hb.keyed.ids id command hget
    have hlisted := hright command.playerId command hfrontier
    rw [CommandStore.mem_listUnresolvedForPlayer, hkey] at hlisted
    constructor
    · intro hopen
      exact (hlisted.mp ⟨⟨id, hget⟩, rfl, hopen⟩).2.2
    · intro hmem
      exact (hlisted.mpr ⟨hget, rfl, hmem⟩).2.2
  · intro hexact playerId command hfrontier
    rw [CommandStore.mem_listUnresolvedForPlayer]
    constructor
    · rintro ⟨⟨id, hget⟩, hplayer, hopen⟩
      have hkey := hb.keyed.ids id command hget
      rw [hkey]
      exact ⟨hget, hplayer, (hexact id command hget hfrontier).mp hopen⟩
    · rintro ⟨hget, hplayer, hmem⟩
      exact ⟨⟨_, hget⟩, hplayer, (hexact _ command hget hfrontier).mpr hmem⟩

theorem keyed_processTileDeltaBatch {g : Gateway} (h : g.store.Keyed) (e : SimulationClientEvent)
    (now : Nat) : (processTileDeltaBatch g e now).store.Keyed := by
  unfold processTileDeltaBatch
  split
  · exact h
  dsimp only
  split
  · exact h
  · split
    · exact h
    · exact h.applyCall now (.markResolved e.commandId)

theorem keyed_processSimulationEvent {g : Gateway} (h : g.store.Keyed) (e : SimulationClientEvent)
    (now : Nat) : (processSimulationEvent g e now).store.Keyed := by
  by_cases htype : e.eventType = .TILE_DELTA_BATCH
  · unfold processSimulationEvent
    rw [htype]
    dsimp only
    split
    · exact h
    · split
      · exact h
      · exact keyed_processTileDeltaBatch h e now
  · rw [processSimulationEvent_store g e now htype]
    exact CommandStore.Keyed.applyCalls _ h

theorem mem_newlyStored {old new : CommandStore} (hkeyed : new.Keyed) {id : String} :
    id ∈ newlyStored old new ↔ ∃ command, new.commands.get id = some command
      ∧ old.commands.get id = none ∧ command.type.isFrontier = true := by
  unfold newlyStored
  rw [List.mem_map]
  constructor
  · rintro ⟨command, hmem, rfl⟩
    rw [List.mem_filter, InsertionMap.mem_values_iff, Bool.and_eq_true,
      Option.isNone_iff_eq_none] at hmem
    obtain ⟨⟨key, hget⟩, hold, hfrontier⟩ := hmem
    have hkey := hkeyed.ids key command hget
    exact ⟨command, hkey ▸ hget, hold, hfrontier⟩
  · rintro ⟨command, hget, hold, hfrontier⟩
    have hkey := hkeyed.ids id command hget
    refine ⟨command, ?_, hkey⟩
    rw [List.mem_filter, InsertionMap.mem_values_iff, Bool.and_eq_true,
      Option.isNone_iff_eq_none, hkey]
    exact ⟨⟨id, hget⟩, hold, hfrontier⟩

theorem booked_initial : LedgerRun.initial.Booked where
  keyed := CommandStore.keyed_empty
  stored := fun _ h => (by cases h)

theorem submit_rows (w : LedgerRun) (command : CommandEnvelope) (now : Nat) {id : String}
    {row : StoredGatewayCommand}
    (h : (w.gateway.store.persistQueuedCommand command now).1.commands.get id = some row) :
    w.gateway.store.commands.get id = some row
      ∨ (w.gateway.store.commands.get id = none ∧ row.isUnresolved = true) := by
  rcases w.gateway.store.persistQueuedCommand_cases command now with hsame | ⟨hnone, hcommands, -⟩
  · rw [hsame] at h
    exact Or.inl h
  · rw [hcommands, InsertionMap.get_set] at h
    by_cases hid : command.commandId = id
    · rw [if_pos hid] at h
      obtain rfl := Option.some.inj h
      exact Or.inr ⟨hid ▸ hnone, rfl⟩
    · rw [if_neg hid] at h
      exact Or.inl h

theorem submit_keeps (w : LedgerRun) (command : CommandEnvelope) (now : Nat) {id : String}
    {row : StoredGatewayCommand} (h : w.gateway.store.commands.get id = some row) :
    (w.gateway.store.persistQueuedCommand command now).1.commands.get id = some row := by
  rcases w.gateway.store.persistQueuedCommand_cases command now with hsame | ⟨hnone, hcommands, -⟩
  · rw [hsame]
    exact h
  · rw [hcommands, InsertionMap.get_set_ne]
    · exact h
    · rintro rfl
      rw [hnone] at h
      cases h

theorem booked_step {w : LedgerRun} (hb : w.Booked) (l : LedgerStep) : (w.step l).Booked := by
  cases l with
  | submit session message created now =>
      obtain ⟨command, hstore⟩ :=
        submitDurableCommand_store w.gateway.store session message created now
      unfold LedgerRun.step
      dsimp only
      rw [hstore]
      have hkeyed := hb.keyed.persist command now
      refine ⟨hkeyed, ?_⟩
      intro id hmem
      rcases List.mem_append.mp hmem with hmem | hmem
      · obtain ⟨row, hget, hfrontier⟩ := hb.stored id hmem
        exact ⟨row, submit_keeps w command now hget, hfrontier⟩
      · obtain ⟨row, hget, -, hfrontier⟩ := (mem_newlyStored hkeyed).mp hmem
        exact ⟨row, hget, hfrontier⟩
  | event e now =>
      refine ⟨keyed_processSimulationEvent hb.keyed e now, ?_⟩
      intro id hmem
      obtain ⟨row, hget, hfrontier⟩ := hb.stored id (List.mem_filter.mp hmem).1
      obtain ⟨row', hget', hsame, -⟩ := processSimulationEvent_get w.gateway e now hget hfrontier
      exact ⟨row', hget', by rw [hsame.type]; exact hfrontier⟩
  | attach playerId socket =>
      have hstore : (w.gateway.attachSocket playerId socket).store = w.gateway.store := by
        unfold Gateway.attachSocket
        split <;> rfl
      refine ⟨?_, ?_⟩
      · show (w.gateway.attachSocket playerId socket).store.Keyed
        rw [hstore]
        exact hb.keyed
      · intro id hmem
        show ∃ row, (w.gateway.attachSocket playerId socket).store.commands.get id = some row ∧ _
        rw [hstore]
        exact hb.stored id hmem
  | detach playerId id => exact ⟨hb.keyed, hb.stored⟩
  | change socket => exact ⟨hb.keyed, hb.stored⟩

/-- The condition on a step.  An event that ends an open frontier command
reaches a socket; an event that reaches a socket marks an open frontier
command resolved only when it ends it, and accepts only an open one. -/
def LedgerRun.Covered (w : LedgerRun) : LedgerStep → Prop
  | .event e _ =>
      (∀ id ∈ e.ends, id ∈ w.unended → w.gateway.reaches e = true)
        ∧ (w.gateway.reaches e = true → e.accepts = false →
          ∀ id ∈ e.marks, id ∈ w.unended → id ∈ e.ends)
        ∧ (w.gateway.reaches e = true → e.accepts = true →
          ∀ id ∈ e.marks, ∀ command, w.gateway.store.commands.get id = some command →
            command.type.isFrontier = true → id ∈ w.unended)
  | .submit .. | .attach .. | .detach .. | .change _ => True

theorem exact_submit {w : LedgerRun} (hb : w.Booked) (hexact : w.Exact)
    (session : GatewaySocketSession) (message : SubmitDurableCommandMessage) (created : String)
    (now : Nat) : (w.step (.submit session message created now)).Exact := by
  obtain ⟨command, hstore⟩ := submitDurableCommand_store w.gateway.store session message created now
  unfold LedgerRun.step LedgerRun.Exact
  dsimp only
  rw [hstore]
  have hkeyed := hb.keyed.persist command now
  intro id row hget hfrontier
  rw [List.mem_append, mem_newlyStored hkeyed]
  rcases submit_rows w command now hget with hold | ⟨hnone, hopen⟩
  · rw [hexact id row hold hfrontier]
    constructor
    · exact Or.inl
    · rintro (hmem | ⟨-, -, hnone, -⟩)
      · exact hmem
      · rw [hold] at hnone
        cases hnone
  · exact ⟨fun _ => Or.inr ⟨row, hget, hnone, hfrontier⟩, fun _ => hopen⟩

/-- **One step keeps the ledger right exactly when it is covered.** -/
theorem exact_step_iff {w : LedgerRun} (hb : w.Booked) (hexact : w.Exact) (l : LedgerStep) :
    (w.step l).Exact ↔ w.Covered l := by
  cases l with
  | submit session message created now =>
      exact ⟨fun _ => trivial, fun _ => exact_submit hb hexact session message created now⟩
  | attach playerId socket =>
      refine ⟨fun _ => trivial, fun _ id row hget hfrontier => ?_⟩
      have hstore : (w.gateway.attachSocket playerId socket).store = w.gateway.store := by
        unfold Gateway.attachSocket
        split <;> rfl
      have hget : (w.gateway.attachSocket playerId socket).store.commands.get id = some row := hget
      rw [hstore] at hget
      exact hexact id row hget hfrontier
  | detach playerId id => exact ⟨fun _ => trivial, fun _ => hexact⟩
  | change socket => exact ⟨fun _ => trivial, fun _ => hexact⟩
  | event e now =>
      have hunended : ∀ id, id ∈ (w.step (.event e now)).unended ↔ id ∈ w.unended ∧ id ∉ e.ends := by
        intro id
        show id ∈ w.unended.filter _ ↔ _
        rw [List.mem_filter, decide_eq_true_eq]
      constructor
      · intro hnext
        -- the row of a command, before and after
        have hrow : ∀ id command, w.gateway.store.commands.get id = some command →
            command.type.isFrontier = true →
            ((if w.gateway.reaches e = true ∧ id ∈ e.marks then e.accepts = true
              else id ∈ w.unended) ↔ id ∈ w.unended ∧ id ∉ e.ends) := by
          intro id command hget hfrontier
          obtain ⟨command', hget', hsame, hstatus⟩ :=
            processSimulationEvent_get w.gateway e now hget hfrontier
          rw [← hunended id, ← hnext id command' hget' (by rw [hsame.type]; exact hfrontier), hstatus,
            hexact id command hget hfrontier]
        refine ⟨?_, ?_, ?_⟩
        · intro id hends hmem
          obtain ⟨command, hget, hfrontier⟩ := hb.stored id hmem
          have hiff := hrow id command hget hfrontier
          by_cases hreaches : w.gateway.reaches e = true
          · exact hreaches
          · rw [if_neg (fun h => hreaches h.1)] at hiff
            exact absurd hends (hiff.mp hmem).2
        · intro hreaches haccepts id hmarks hmem
          obtain ⟨command, hget, hfrontier⟩ := hb.stored id hmem
          have hiff := hrow id command hget hfrontier
          rw [if_pos ⟨hreaches, hmarks⟩, haccepts] at hiff
          by_contra hnot
          exact absurd (hiff.mpr ⟨hmem, hnot⟩) (by decide)
        · intro hreaches haccepts id hmarks command hget hfrontier
          have hiff := hrow id command hget hfrontier
          rw [if_pos ⟨hreaches, hmarks⟩] at hiff
          exact (hiff.mp haccepts).1
      · rintro ⟨hended, hresolved, haccepted⟩ id command' hget' hfrontier'
        rw [hunended id]
        have hget' : (processSimulationEvent w.gateway e now).store.commands.get id
          = some command' := hget'
        cases hget : w.gateway.store.commands.get id with
        | none =>
            rw [processSimulationEvent_none w.gateway e now hget] at hget'
            cases hget'
        | some command =>
            have hfrontier : command.type.isFrontier = true := by
              have htype := processSimulationEvent_type w.gateway e now hget
              rw [hget', Option.map_some] at htype
              rw [← Option.some.inj htype]
              exact hfrontier'
            obtain ⟨row, hrow, hsame, hstatus⟩ :=
              processSimulationEvent_get w.gateway e now hget hfrontier
            rw [hget'] at hrow
            obtain rfl := Option.some.inj hrow
            rw [hstatus, hexact id command hget hfrontier]
            by_cases hreaches : w.gateway.reaches e = true
            · by_cases hmarks : id ∈ e.marks
              · rw [if_pos ⟨hreaches, hmarks⟩]
                cases haccepts : e.accepts with
                | true =>
                    have hmem := haccepted hreaches haccepts id hmarks command hget hfrontier
                    rw [SimulationClientEvent.ends_of_accepts haccepts]
                    exact ⟨fun _ => ⟨hmem, List.not_mem_nil⟩, fun _ => rfl⟩
                | false =>
                    constructor
                    · exact fun h => (by cases h)
                    · rintro ⟨hmem, hnot⟩
                      exact absurd (hresolved hreaches haccepts id hmarks hmem) hnot
              · rw [if_neg (fun h => hmarks h.2)]
                have hnot : id ∉ e.ends := fun h => hmarks (SimulationClientEvent.marks_of_ends h)
                exact ⟨fun hmem => ⟨hmem, hnot⟩, fun h => h.1⟩
            · rw [if_neg (fun h => hreaches h.1)]
              exact ⟨fun hmem => ⟨hmem, fun hends => hreaches (hended id hends hmem)⟩, fun h => h.1⟩

/-- **The pending-command ledger is right exactly in covered runs**: from an
empty gateway, in every state on the way the unresolved frontier commands
are those stored and not ended, iff every event that ends one finds a
logged-in socket and no other event closes or reopens one. -/
theorem ledger_right_iff (steps : List LedgerStep) :
    Run.Along LedgerRun.step LedgerRun.Right LedgerRun.initial steps
      ↔ Run.StepsMeet LedgerRun.step LedgerRun.Covered LedgerRun.initial steps := by
  refine Run.along_iff_stepsMeet (I := LedgerRun.Booked) ?_ ?_ steps LedgerRun.initial
    booked_initial ?_
  · exact fun w l hb _ _ => booked_step hb l
  · intro w l hb hright
    rw [LedgerRun.right_iff_exact (booked_step hb l)]
    exact exact_step_iff hb ((LedgerRun.right_iff_exact hb).mp hright) l
  · exact (LedgerRun.right_iff_exact booked_initial).mpr (fun _ _ h _ => (by cases h))

/-! ## §7. Two wrong runs. -/

def exampleSocket : Socket := ⟨1, true, some ⟨some "duke", .control, false⟩⟩

def expandSent : List LedgerStep :=
  [.attach "duke" exampleSocket,
    .submit ⟨"session", "duke", 1, 0⟩ ⟨.EXPAND, "payload", some "expand", some 1⟩ "drawn" 10]

/-- The socket goes before the claim resolves. -/
def resolvedOffline : List LedgerStep :=
  expandSent ++ [.detach "duke" 1, .event ⟨"expand", "duke", .COMBAT_RESOLVED⟩ 40]

/-- The wallet update that follows an accepted EXPAND carries its id. -/
def walletUpdated : List LedgerStep :=
  expandSent ++ [.event ⟨"expand", "duke", .COMMAND_ACCEPTED⟩ 20,
    .event ⟨"expand", "duke", .PLAYER_MESSAGE "PLAYER_UPDATE" (some "PLAYER_UPDATE")⟩ 30]

def expandRow (status : StoredGatewayCommandStatus) (acceptedAt resolvedAt : Option Nat) :
    StoredGatewayCommand where
  commandId := "expand"
  sessionId := "session"
  playerId := "duke"
  clientSeq := 1
  type := .EXPAND
  payloadJson := "payload"
  queuedAt := 10
  status := status
  acceptedAt := acceptedAt
  rejectedAt := none
  rejectedCode := none
  rejectedMessage := none
  resolvedAt := resolvedAt

/-- **A claim that resolves while its player is away stays pending, and one
whose wallet update comes back is closed before it resolves.** -/
theorem ledger_wrong_offline_and_online :
    ¬ Run.Along LedgerRun.step LedgerRun.Right LedgerRun.initial resolvedOffline
      ∧ ¬ Run.Along LedgerRun.step LedgerRun.Right LedgerRun.initial walletUpdated := by
  constructor
  · rintro ⟨-, -, -, -, hright⟩
    -- the row is still listed, though the command has ended
    have hlisted := (hright "duke" (expandRow .QUEUED none none) rfl).mp
      ((CommandStore.mem_listUnresolvedForPlayer _ _ _).mpr ⟨⟨"expand", rfl⟩, rfl, rfl⟩)
    cases hlisted.2.2
  · rintro ⟨-, -, -, -, hright⟩
    -- the row is resolved, though the command has not ended
    have hlisted := (hright "duke" (expandRow .RESOLVED (some 20) (some 30)) rfl).mpr
      ⟨rfl, rfl, List.mem_singleton_self _⟩
    have hopen := ((CommandStore.mem_listUnresolvedForPlayer _ _ _).mp hlisted).2.2
    cases hopen

end BorderEmpires.PendingCommands
