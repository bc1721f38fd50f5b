/-
  BorderEmpires.PendingCommands.Store
  **THE GATEWAY'S COMMAND STORE.**

  Every durable command is stored before it goes to the simulation, and
  keeps its row for good: an id or a player's sequence number that is known
  is not stored again.  What is neither rejected nor resolved is offered to
  the client when it reconnects.
-/
import BorderEmpires.Lib.InsertionMap
import Mathlib.Data.List.Sort

namespace BorderEmpires.PendingCommands

/-! ## §1. Commands. -/

inductive CommandType where
  | ATTACK
  | EXPAND
  | other (name : String)
  deriving DecidableEq

/-- `FrontierCommandType`. -/
def CommandType.isFrontier : CommandType → Bool
  | .ATTACK | .EXPAND => true
  | .other _ => false

structure CommandEnvelope where
  commandId : String
  clientSeq : Int
  issuedAt : Nat
  type : CommandType
  sessionId : String
  playerId : String
  payloadJson : String

inductive StoredGatewayCommandStatus where
  | QUEUED
  | ACCEPTED
  | REJECTED
  | RESOLVED
  deriving DecidableEq

structure StoredGatewayCommand where
  commandId : String
  sessionId : String
  playerId : String
  clientSeq : Int
  type : CommandType
  payloadJson : String
  queuedAt : Nat
  status : StoredGatewayCommandStatus
  acceptedAt : Option Nat
  rejectedAt : Option Nat
  rejectedCode : Option String
  rejectedMessage : Option String
  resolvedAt : Option Nat

def StoredGatewayCommand.isUnresolved (command : StoredGatewayCommand) : Bool :=
  decide (command.status ≠ .REJECTED ∧ command.status ≠ .RESOLVED)

/-! ## §2. The store. -/

/-- `InMemoryGatewayCommandStore`; a sequence number is found by player and
number. -/
structure CommandStore where
  commands : InsertionMap String StoredGatewayCommand
  commandIdsByPlayerSeq : InsertionMap (String × Int) String
  maxClientSeqByPlayer : InsertionMap String Int

namespace CommandStore

variable (store : CommandStore)

def empty : CommandStore := ⟨.empty, .empty, .empty⟩

def queuedCommand (command : CommandEnvelope) (queuedAt : Nat) : StoredGatewayCommand where
  commandId := command.commandId
  sessionId := command.sessionId
  playerId := command.playerId
  clientSeq := command.clientSeq
  type := command.type
  payloadJson := command.payloadJson
  queuedAt := queuedAt
  status := .QUEUED
  acceptedAt := none
  rejectedAt := none
  rejectedCode := none
  rejectedMessage := none
  resolvedAt := none

/-- The id stored under the player's sequence number; an empty id counts
as none. -/
def idOfSeq (playerId : String) (clientSeq : Int) : Option String :=
  (store.commandIdsByPlayerSeq.get (playerId, clientSeq)).filter fun id => decide (id ≠ "")

/-- Store a command, or find the one that has its id or its number. -/
def persistQueuedCommand (command : CommandEnvelope) (queuedAt : Nat) :
    CommandStore × Option StoredGatewayCommand :=
  match store.commands.get command.commandId with
  | some existing => (store, some existing)
  | none =>
      match store.idOfSeq command.playerId command.clientSeq with
      | some existingCommandId => (store, store.commands.get existingCommandId)
      | none =>
          let stored := queuedCommand command queuedAt
          let previousMax := (store.maxClientSeqByPlayer.get command.playerId).getD 0
          ({ commands := store.commands.set command.commandId stored
             commandIdsByPlayerSeq := store.commandIdsByPlayerSeq.set
               (command.playerId, command.clientSeq) command.commandId
             maxClientSeqByPlayer :=
               if command.clientSeq > previousMax then
                 store.maxClientSeqByPlayer.set command.playerId command.clientSeq
               else store.maxClientSeqByPlayer }, some stored)

/-- Replace the row of a known command. -/
def updateCommand (commandId : String) (change : StoredGatewayCommand → StoredGatewayCommand) :
    CommandStore :=
  match store.commands.get commandId with
  | none => store
  | some existing => { store with commands := store.commands.set commandId (change existing) }

def markAccepted (commandId : String) (acceptedAt : Nat) : CommandStore :=
  store.updateCommand commandId fun existing =>
    { existing with status := .ACCEPTED, acceptedAt := some acceptedAt }

def markRejected (commandId : String) (rejectedAt : Nat) (code message : String) : CommandStore :=
  store.updateCommand commandId fun existing =>
    { existing with
        status := .REJECTED
        rejectedAt := some rejectedAt
        rejectedCode := some code
        rejectedMessage := some message }

def markResolved (commandId : String) (resolvedAt : Nat) : CommandStore :=
  store.updateCommand commandId fun existing =>
    { existing with status := .RESOLVED, resolvedAt := some resolvedAt }

def listUnresolvedForPlayer (playerId : String) : List StoredGatewayCommand :=
  (store.commands.values.filter fun command =>
    decide (command.playerId = playerId) && command.isUnresolved).mergeSort
      fun left right => decide (left.clientSeq ≤ right.clientSeq)

theorem mem_listUnresolvedForPlayer (playerId : String) (command : StoredGatewayCommand) :
    command ∈ store.listUnresolvedForPlayer playerId ↔
      (∃ id, store.commands.get id = some command) ∧ command.playerId = playerId
        ∧ command.isUnresolved = true := by
  unfold listUnresolvedForPlayer
  rw [List.mem_mergeSort, List.mem_filter, InsertionMap.mem_values_iff]
  simp

end CommandStore

/-! ## §3. Rows stay. -/

/-- Rows are found under their own id, and every number under which an id
is stored leads to a row. -/
structure CommandStore.Keyed (store : CommandStore) : Prop where
  ids : ∀ id command, store.commands.get id = some command → command.commandId = id
  seqs : ∀ seq id, store.commandIdsByPlayerSeq.get seq = some id → (store.commands.get id).isSome

theorem CommandStore.keyed_empty : CommandStore.empty.Keyed where
  ids := fun _ _ h => (by cases h)
  seqs := fun _ _ h => (by cases h)

/-- **A store call adds one row or none.** -/
theorem CommandStore.persistQueuedCommand_cases (store : CommandStore) (command : CommandEnvelope)
    (queuedAt : Nat) :
    (store.persistQueuedCommand command queuedAt).1 = store
      ∨ (store.commands.get command.commandId = none
        ∧ (store.persistQueuedCommand command queuedAt).1.commands
          = store.commands.set command.commandId (queuedCommand command queuedAt)
        ∧ (store.persistQueuedCommand command queuedAt).1.commandIdsByPlayerSeq
          = store.commandIdsByPlayerSeq.set (command.playerId, command.clientSeq)
            command.commandId) := by
  unfold persistQueuedCommand
  cases hknown : store.commands.get command.commandId with
  | some existing => exact Or.inl rfl
  | none =>
      cases hseq : store.idOfSeq command.playerId command.clientSeq with
      | some existingCommandId => exact Or.inl rfl
      | none => exact Or.inr ⟨rfl, rfl, rfl⟩

theorem CommandStore.Keyed.persist {store : CommandStore} (h : store.Keyed)
    (command : CommandEnvelope) (queuedAt : Nat) :
    (store.persistQueuedCommand command queuedAt).1.Keyed := by
  rcases store.persistQueuedCommand_cases command queuedAt with hsame | ⟨-, hcommands, hseqs⟩
  · rw [hsame]
    exact h
  · constructor
    · intro id stored hget
      rw [hcommands, InsertionMap.get_set] at hget
      by_cases hid : command.commandId = id
      · rw [if_pos hid] at hget
        obtain rfl := Option.some.inj hget
        exact hid
      · rw [if_neg hid] at hget
        exact h.ids id stored hget
    · intro seq id hget
      rw [hseqs, InsertionMap.get_set] at hget
      rw [hcommands, InsertionMap.get_set]
      by_cases hid : command.commandId = id
      · rw [if_pos hid]
        rfl
      · rw [if_neg hid]
        by_cases hseq : (command.playerId, command.clientSeq) = seq
        · rw [if_pos hseq] at hget
          exact absurd (Option.some.inj hget) hid
        · rw [if_neg hseq] at hget
          exact h.seqs seq id hget

/-! ## §4. Marks. -/

inductive LedgerCall where
  | markAccepted (commandId : String)
  | markRejected (commandId code message : String)
  | markResolved (commandId : String)

def LedgerCall.commandId : LedgerCall → String
  | .markAccepted commandId | .markRejected commandId _ _ | .markResolved commandId => commandId

/-- Whether the mark takes the command off the list. -/
def LedgerCall.closes : LedgerCall → Bool
  | .markAccepted _ => false
  | .markRejected .. | .markResolved _ => true

def LedgerCall.apply (now : Nat) (store : CommandStore) : LedgerCall → CommandStore
  | .markAccepted commandId => store.markAccepted commandId now
  | .markRejected commandId code message => store.markRejected commandId now code message
  | .markResolved commandId => store.markResolved commandId now

def applyCalls (now : Nat) (calls : List LedgerCall) (store : CommandStore) : CommandStore :=
  calls.foldl (LedgerCall.apply now) store

/-- What never changes in a row. -/
structure SameCommand (old new : StoredGatewayCommand) : Prop where
  commandId : new.commandId = old.commandId
  playerId : new.playerId = old.playerId
  type : new.type = old.type

theorem SameCommand.refl (command : StoredGatewayCommand) : SameCommand command command :=
  ⟨rfl, rfl, rfl⟩

theorem SameCommand.trans {a b c : StoredGatewayCommand} (h : SameCommand a b)
    (h' : SameCommand b c) : SameCommand a c :=
  ⟨h'.commandId.trans h.commandId, h'.playerId.trans h.playerId, h'.type.trans h.type⟩

theorem LedgerCall.apply_eq (now : Nat) (store : CommandStore) (call : LedgerCall) :
    ∃ change : StoredGatewayCommand → StoredGatewayCommand,
      call.apply now store = store.updateCommand call.commandId change
        ∧ ∀ command, SameCommand command (change command)
          ∧ (change command).isUnresolved = !call.closes := by
  cases call with
  | markAccepted commandId => exact ⟨_, rfl, fun _ => ⟨⟨rfl, rfl, rfl⟩, rfl⟩⟩
  | markRejected commandId code message => exact ⟨_, rfl, fun _ => ⟨⟨rfl, rfl, rfl⟩, rfl⟩⟩
  | markResolved commandId => exact ⟨_, rfl, fun _ => ⟨⟨rfl, rfl, rfl⟩, rfl⟩⟩

theorem CommandStore.get_updateCommand (store : CommandStore) (commandId id : String)
    (change : StoredGatewayCommand → StoredGatewayCommand) :
    (store.updateCommand commandId change).commands.get id
      = (store.commands.get id).map fun command =>
          if commandId = id then change command else command := by
  unfold updateCommand
  cases hknown : store.commands.get commandId with
  | none =>
      dsimp only
      cases hid : store.commands.get id with
      | none => rfl
      | some command =>
          have hne : commandId ≠ id := by
            rintro rfl
            rw [hknown] at hid
            cases hid
          rw [Option.map_some, if_neg hne]
  | some existing =>
      show (store.commands.set commandId (change existing)).get id = _
      rw [InsertionMap.get_set]
      by_cases hid : commandId = id
      · subst hid
        rw [if_pos rfl, hknown, Option.map_some, if_pos rfl]
      · rw [if_neg hid]
        cases store.commands.get id with
        | none => rfl
        | some command => rw [Option.map_some, if_neg hid]

theorem CommandStore.Keyed.applyCall {store : CommandStore} (h : store.Keyed) (now : Nat)
    (call : LedgerCall) : (call.apply now store).Keyed := by
  obtain ⟨change, happly, hchange⟩ := call.apply_eq now store
  have hseqs : (store.updateCommand call.commandId change).commandIdsByPlayerSeq
      = store.commandIdsByPlayerSeq := by
    unfold CommandStore.updateCommand
    split <;> rfl
  rw [happly]
  constructor
  · intro id command hget
    rw [CommandStore.get_updateCommand] at hget
    obtain ⟨old, hold, hnew⟩ := Option.map_eq_some_iff.mp hget
    have hkey := h.ids id old hold
    by_cases hid : call.commandId = id
    · rw [if_pos hid] at hnew
      rw [← hnew, (hchange old).1.commandId]
      exact hkey
    · rw [if_neg hid] at hnew
      rw [← hnew]
      exact hkey
  · intro seq id hget
    rw [hseqs] at hget
    rw [CommandStore.get_updateCommand, Option.isSome_map]
    exact h.seqs seq id hget

/-- **A batch of marks of one kind**: every row stays, those named by the
batch get the batch's verdict, the others keep their status. -/
theorem applyCalls_get (now : Nat) (closing : Bool) (id : String) (calls : List LedgerCall) :
    ∀ store : CommandStore, (∀ call ∈ calls, call.closes = closing) →
      (store.commands.get id = none → (applyCalls now calls store).commands.get id = none)
        ∧ ∀ command, store.commands.get id = some command →
          ∃ command', (applyCalls now calls store).commands.get id = some command'
            ∧ SameCommand command command'
            ∧ command'.isUnresolved
              = if id ∈ calls.map LedgerCall.commandId then !closing else command.isUnresolved := by
  induction calls with
  | nil =>
      intro store _
      exact ⟨fun h => h, fun command h => ⟨command, h, SameCommand.refl command, rfl⟩⟩
  | cons call calls ih =>
      intro store hkind
      obtain ⟨change, happly, hchange⟩ := call.apply_eq now store
      have hfirst : ∀ i, (call.apply now store).commands.get i
          = (store.commands.get i).map fun command =>
              if call.commandId = i then change command else command := by
        intro i
        rw [happly]
        exact store.get_updateCommand call.commandId i change
      obtain ⟨hnone, hsome⟩ := ih (call.apply now store)
        (fun c hc => hkind c (List.mem_cons_of_mem _ hc))
      constructor
      · intro h
        refine hnone ?_
        rw [hfirst id, h]
        rfl
      · intro command hcommand
        have hnext := hfirst id
        rw [hcommand, Option.map_some] at hnext
        obtain ⟨command', hget, hsame, hstatus⟩ := hsome _ hnext
        refine ⟨command', hget, ?_, ?_⟩
        · by_cases hid : call.commandId = id
          · rw [if_pos hid] at hsame
            exact (hchange command).1.trans hsame
          · rw [if_neg hid] at hsame
            exact hsame
        · rw [hstatus, List.map_cons]
          by_cases hrest : id ∈ calls.map LedgerCall.commandId
          · rw [if_pos hrest, if_pos (List.mem_cons_of_mem _ hrest)]
          · rw [if_neg hrest]
            by_cases hid : call.commandId = id
            · subst hid
              rw [if_pos rfl, if_pos List.mem_cons_self, (hchange command).2,
                hkind call List.mem_cons_self]
            · have hnot : id ∉ call.commandId :: calls.map LedgerCall.commandId := by
                rw [List.mem_cons, not_or]
                exact ⟨fun heq => hid heq.symm, hrest⟩
              rw [if_neg hid, if_neg hnot]

theorem CommandStore.Keyed.applyCalls {now : Nat} (calls : List LedgerCall) :
    ∀ {store : CommandStore}, store.Keyed → (applyCalls now calls store).Keyed := by
  induction calls with
  | nil => exact fun h => h
  | cons call calls ih => exact fun h => ih (h.applyCall now call)

end BorderEmpires.PendingCommands
