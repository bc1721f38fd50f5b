/-
  BorderEmpires.Persistence.Queue
  **THE SIMULATION'S PERSISTENCE QUEUE.**

  Events and commands are written to the stores by tasks on one promise
  chain.  A task retries its writes, tells of failures and diagnostics by
  callbacks, and takes itself off the pending counter at its end.

  A callback throws or returns; a store operation fails or resolves.  The
  waiting times of the retries are the time between two answers.
-/
import BorderEmpires.Lib.SerialQueue
import BorderEmpires.Commands.ReplayCache

namespace BorderEmpires.Persistence

open SerialQueue
open Commands (CommandEnvelope)

/-! ## §1. Events and store calls. -/

/-- The event types the queue tells apart; the others go by their text. -/
inductive SimulationEvent where
  | COMMAND_ACCEPTED (commandId : String)
  | COMMAND_REJECTED (commandId code message : String)
  | COMBAT_RESOLVED (commandId : String)
  | COMMAND_RESOLVED (commandId : String)
  | COMBAT_CANCELLED (commandId : String) (cancelledCommandIds : List String)
  | PLAYER_MESSAGE (commandId : String)
  | other (eventType commandId : String)
  deriving DecidableEq

inductive StoreCall where
  | markAccepted (commandId : String) (createdAt : ℤ)
  | markRejected (commandId : String) (createdAt : ℤ) (code message : String)
  | markResolved (commandId : String) (createdAt : ℤ)
  | appendEvent (event : SimulationEvent) (createdAt : ℤ)
  | persistQueuedCommand (command : CommandEnvelope) (queuedAt : ℤ)
  deriving DecidableEq

/-- An error by the lower-case text of its message. -/
structure StoreError where
  message : String
  deriving DecidableEq

def isTransientPersistenceError (error : StoreError) : Bool :=
  ["timeout", "timed out", "econnreset", "connection terminated", "connection reset",
    "database is locked", "sqlite_busy", "sqlite_locked"].any fun text =>
      decide (text.toList <:+: error.message.toList)

/-- The calls of `persistCommandStatus`, in order. -/
def persistCommandStatus (event : SimulationEvent) (createdAt : ℤ) : List StoreCall :=
  match event with
  | .COMMAND_ACCEPTED commandId => [.markAccepted commandId createdAt]
  | .COMMAND_REJECTED commandId code message => [.markRejected commandId createdAt code message]
  | .COMBAT_RESOLVED commandId => [.markResolved commandId createdAt]
  | .COMMAND_RESOLVED commandId => [.markResolved commandId createdAt]
  | .COMBAT_CANCELLED commandId cancelledCommandIds =>
      .markResolved commandId createdAt
        :: (cancelledCommandIds.filter fun id => decide (id ≠ commandId)).map fun id =>
          .markResolved id createdAt
  | .PLAYER_MESSAGE _ => []
  | .other _ _ => []

def shouldPersistEvent : SimulationEvent → Bool
  | .PLAYER_MESSAGE _ => false
  | _ => true

/-! ## §2. Tasks. -/

inductive Task where
  | event (event : SimulationEvent) (createdAt : ℤ)
  | queuedCommand (command : CommandEnvelope) (queuedAt : ℤ)
  deriving DecidableEq

/-- The `phase` of a diagnostic: the part of a task it is about. -/
inductive Part where
  | command_status
  | event_store
  | queued_command
  deriving DecidableEq

/-- The answer to a store operation or a callback. -/
inductive Reply where
  | done
  | fails (error : StoreError)
  deriving DecidableEq

/-- What a task waits for. -/
inductive Phase where
  /-- a store call of this attempt, and the calls left after it -/
  | writing (part : Part) (attempt : ℕ) (call : StoreCall) (left : List StoreCall)
  /-- `onPersistenceFailure`, in the handler of a failed write -/
  | reporting (part : Part)
  /-- `onDiagnostic`, at the end of the part; `thrown` if an exception is
  on its way -/
  | diagnosing (part : Part) (thrown : Bool)
  deriving DecidableEq

def Phase.part : Phase → Part
  | .writing part _ _ _ => part
  | .reporting part => part
  | .diagnosing part _ => part

/-- Where a task ended, how its promise settles, and whether it took
itself off the pending counter. -/
structure TaskExit where
  part : Part
  outcome : Outcome
  released : Bool
  deriving DecidableEq

def storeCalls (task : Task) (part : Part) : List StoreCall :=
  match task, part with
  | .event event createdAt, .command_status => persistCommandStatus event createdAt
  | .event event createdAt, .event_store => [.appendEvent event createdAt]
  | .queuedCommand command queuedAt, .queued_command => [.persistQueuedCommand command queuedAt]
  | _, _ => []

/-- An attempt begins with its first store call, or is over if it has none. -/
def startAttempt (task : Task) (part : Part) (attempt : ℕ) : Phase :=
  match storeCalls task part with
  | [] => .diagnosing part false
  | call :: left => .writing part attempt call left

def firstPart : Task → Part
  | .event _ _ => .command_status
  | .queuedCommand _ _ => .queued_command

def Task.persistable : Task → Bool
  | .event simEvent _ => shouldPersistEvent simEvent
  | .queuedCommand _ _ => false

/-- `withPersistenceRetry`: a store call is answered. -/
def onWrite (retryBackoffMs : List ℕ) (task : Task) (part : Part) (attempt : ℕ)
    (left : List StoreCall) : Reply → Phase
  | .done =>
      match left with
      | [] => .diagnosing part false
      | call :: left => .writing part attempt call left
  | .fails error =>
      if isTransientPersistenceError error = false ∨ retryBackoffMs.length ≤ attempt then
        .reporting part
      else startAttempt task part (attempt + 1)

/-- The end of a part, `thrown` if an exception leaves it. -/
def endPart (task : Task) (part : Part) (thrown : Bool) (diagnosticThrew : Bool) :
    Next Phase TaskExit :=
  let outcome : Outcome := if thrown || diagnosticThrew then .rejected else .fulfilled
  match part with
  | .command_status =>
      if (thrown || diagnosticThrew) = true ∨ task.persistable = false then
        .leave ⟨part, outcome, true⟩
      else .goto (startAttempt task .event_store 0)
  | .event_store => .leave ⟨part, outcome, true⟩
  -- the counter comes after the diagnostic, in the same `finally`
  | .queued_command => .leave ⟨part, outcome, !diagnosticThrew⟩

def Reply.threw : Reply → Bool
  | .done => false
  | .fails _ => true

def onAnswer (retryBackoffMs : List ℕ) (task : Task) (phase : Phase) (reply : Reply) :
    Next Phase TaskExit :=
  match phase with
  | .writing part attempt _ left => .goto (onWrite retryBackoffMs task part attempt left reply)
  | .reporting part => .goto (.diagnosing part reply.threw)
  | .diagnosing part thrown => endPart task part thrown reply.threw

/-- The tasks as a kind of job. -/
def tasks (retryBackoffMs : List ℕ) : Machine Task Phase Reply TaskExit where
  first task := startAttempt task (firstPart task) 0
  answer := onAnswer retryBackoffMs
  outcome exit := exit.outcome
  releases exit := exit.released

abbrev PersistenceQueue := State Task Phase TaskExit

/-- `enqueueEvent` and `enqueueQueuedCommand`, and the answers. -/
abbrev QueueInput := Input Task Reply

def PersistenceQueue.step (retryBackoffMs : List ℕ) (q : PersistenceQueue) (input : QueueInput) :
    PersistenceQueue :=
  SerialQueue.step (tasks retryBackoffMs) q input

/-! ## §3. What should hold. -/

/-- The append of an event was attempted: its task has entered the write
whose first call it is. -/
def AppendAttempted (q : PersistenceQueue) (number : ℕ) (event : SimulationEvent)
    (createdAt : ℤ) : Prop :=
  Entry.entered number (Phase.writing .event_store 0 (.appendEvent event createdAt) []) ∈ q.log

/-- Tasks run one at a time in order, each finished task of a persistable
event has attempted its append, and the counter is right. -/
structure PersistenceQueue.Sound (q : PersistenceQueue) : Prop where
  orderly : Orderly q
  appended : ∀ number event createdAt, number ∈ q.finishes →
    q.jobs[number]? = some (.event event createdAt) → shouldPersistEvent event = true →
    AppendAttempted q number event createdAt
  counted : Counted q

/-- The answer does not end the command status of a persistable event with
an exception, and it is no exception of a queued command's diagnostic. -/
def HarmlessAt (task : Task) (phase : Phase) (reply : Reply) : Prop :=
  match phase with
  | .diagnosing .command_status thrown => task.persistable = true → thrown = false ∧ reply = .done
  | .diagnosing .queued_command _ => reply = .done
  | _ => True

def Harmless (q : PersistenceQueue) : QueueInput → Prop
  | .enqueue _ => True
  | .answer reply => ∀ number phase task, q.running = some (number, phase) →
      q.jobs[number]? = some task → HarmlessAt task phase reply

/-! ## §4. Every task ends. -/

/-- The answers that are needed at most once a part is written. -/
def tail (retryBackoffMs : List ℕ) : Part → ℕ
  | .command_status => retryBackoffMs.length + 4
  | .event_store => 1
  | .queued_command => 1

/-- The answers a task needs at most. -/
def weight (retryBackoffMs : List ℕ) (task : Task) : Phase → ℕ
  | .writing part attempt _ left =>
      (retryBackoffMs.length - attempt) * (storeCalls task part).length + (left.length + 1)
        + (tail retryBackoffMs part + 1)
  | .reporting part => tail retryBackoffMs part + 1
  | .diagnosing part _ => tail retryBackoffMs part

theorem tail_pos (retryBackoffMs : List ℕ) (part : Part) : 0 < tail retryBackoffMs part := by
  cases part <;> simp [tail]

theorem weight_startAttempt_le (retryBackoffMs : List ℕ) (task : Task) (part : Part)
    (attempt : ℕ) :
    weight retryBackoffMs task (startAttempt task part attempt)
      ≤ (retryBackoffMs.length - attempt + 1) * (storeCalls task part).length
        + (tail retryBackoffMs part + 1) := by
  unfold startAttempt
  cases hcalls : storeCalls task part with
  | nil =>
      simp only [weight]
      omega
  | cons call left =>
      simp only [weight, hcalls, List.length_cons, Nat.add_mul, Nat.one_mul]
      omega

theorem weight_onWrite_lt (retryBackoffMs : List ℕ) (task : Task) (part : Part) (attempt : ℕ)
    (call : StoreCall) (left : List StoreCall) (reply : Reply) :
    weight retryBackoffMs task (onWrite retryBackoffMs task part attempt left reply)
      < weight retryBackoffMs task (.writing part attempt call left) := by
  cases reply with
  | done =>
      cases left with
      | nil =>
          simp only [onWrite, weight]
          omega
      | cons next left =>
          simp only [onWrite, weight, List.length_cons]
          omega
  | fails error =>
      simp only [onWrite]
      split
      · simp only [weight]
        omega
      next hretry =>
        -- the calls of a new attempt are taken from the attempts to come
        have hattempt : retryBackoffMs.length - (attempt + 1) + 1
            = retryBackoffMs.length - attempt := by
          rw [not_or] at hretry
          omega
        have hle := weight_startAttempt_le retryBackoffMs task part (attempt + 1)
        rw [hattempt] at hle
        show _ < (retryBackoffMs.length - attempt) * (storeCalls task part).length
          + (left.length + 1) + (tail retryBackoffMs part + 1)
        omega

theorem weight_append_lt (retryBackoffMs : List ℕ) (task : Task) :
    weight retryBackoffMs task (startAttempt task .event_store 0)
      < tail retryBackoffMs .command_status := by
  cases task with
  | event simEvent createdAt => simp [startAttempt, storeCalls, weight, tail]
  | queuedCommand command queuedAt => simp [startAttempt, storeCalls, weight, tail]

/-- **Every answer brings a task nearer to its end.** -/
theorem wearing (retryBackoffMs : List ℕ) :
    Wearing (tasks retryBackoffMs) (weight retryBackoffMs) where
  pos task phase := by
    cases phase with
    | writing part attempt call left =>
        simp only [weight]
        omega
    | reporting part =>
        simp only [weight]
        omega
    | diagnosing part thrown => exact tail_pos retryBackoffMs part
  lt task phase reply phase' h := by
    cases phase with
    | writing part attempt call left =>
        obtain rfl : onWrite retryBackoffMs task part attempt left reply = phase' := by
          injection h
        exact weight_onWrite_lt retryBackoffMs task part attempt call left reply
    | reporting part =>
        obtain rfl : Phase.diagnosing part reply.threw = phase' := by injection h
        exact Nat.lt_succ_self _
    | diagnosing part thrown =>
        have hend : endPart task part thrown reply.threw = .goto phase' := h
        unfold endPart at hend
        cases part with
        | command_status =>
            dsimp only at hend
            split at hend
            · cases hend
            · obtain rfl : startAttempt task .event_store 0 = phase' := by injection hend
              exact weight_append_lt retryBackoffMs task
        | event_store => cases hend
        | queued_command => cases hend

/-! ## §5. What a task did when it ended. -/

/-- Where a task can be: a command is written in its own part, an event in
its two, and past the first the append was attempted. -/
structure Placed (task : Task) (phases : List Phase) (phase : Phase) : Prop where
  status : phase.part = .command_status → ∀ p ∈ phases, p.part = .command_status
  store : phase.part = .event_store → ∀ event createdAt, task = .event event createdAt →
    .writing .event_store 0 (.appendEvent event createdAt) [] ∈ phases
  queued : phase.part = .queued_command ↔ ∃ command queuedAt, task = .queuedCommand command queuedAt

theorem part_startAttempt (task : Task) (part : Part) (attempt : ℕ) :
    (startAttempt task part attempt).part = part := by
  unfold startAttempt
  split <;> rfl

theorem part_onWrite (retryBackoffMs : List ℕ) (task : Task) (part : Part) (attempt : ℕ)
    (left : List StoreCall) (reply : Reply) :
    (onWrite retryBackoffMs task part attempt left reply).part = part := by
  cases reply with
  | done => cases left <;> rfl
  | fails error =>
      simp only [onWrite]
      split
      · rfl
      · exact part_startAttempt task part (attempt + 1)

theorem Placed.same {task : Task} {phases : List Phase} {phase phase' : Phase}
    (h : Placed task phases phase) (hpart : phase'.part = phase.part) :
    Placed task (phases ++ [phase']) phase' where
  status hstatus p hp := by
    rcases List.mem_append.mp hp with hp | hp
    · exact h.status (hpart ▸ hstatus) p hp
    · rw [List.mem_singleton.mp hp]
      exact hstatus
  store hstore event createdAt htask :=
    List.mem_append_left _ (h.store (hpart ▸ hstore) event createdAt htask)
  queued := hpart ▸ h.queued

theorem placed_of_path {retryBackoffMs : List ℕ} {task : Task} {phases : List Phase}
    {phase : Phase} (h : Path (tasks retryBackoffMs) task phases phase) :
    Placed task phases phase := by
  induction h with
  | first =>
      have hpart : ((tasks retryBackoffMs).first task).part = firstPart task :=
        part_startAttempt task (firstPart task) 0
      refine ⟨fun hstatus p hp => ?_, fun hstore => ?_, ?_⟩
      · rw [List.mem_singleton.mp hp]
        exact hstatus
      · rw [hpart] at hstore
        cases task <;> cases hstore
      · rw [hpart]
        cases task with
        | event simEvent createdAt => simp [firstPart]
        | queuedCommand command queuedAt => simp [firstPart]
  | @next phases phase phase' reply _ hans ih =>
      cases phase with
      | writing part attempt call left =>
          obtain rfl : onWrite retryBackoffMs task part attempt left reply = phase' := by
            injection hans
          exact ih.same (part_onWrite retryBackoffMs task part attempt left reply)
      | reporting part =>
          obtain rfl : Phase.diagnosing part reply.threw = phase' := by injection hans
          exact ih.same rfl
      | diagnosing part thrown =>
          have hend : endPart task part thrown reply.threw = .goto phase' := hans
          unfold endPart at hend
          cases part with
          | event_store => cases hend
          | queued_command => cases hend
          | command_status =>
              dsimp only at hend
              split at hend
              · cases hend
              obtain rfl : startAttempt task .event_store 0 = phase' := by injection hend
              have hpart := part_startAttempt task .event_store 0
              refine ⟨fun hstatus => ?_, fun _ simEvent createdAt htask => ?_, ?_⟩
              · rw [hpart] at hstatus
                cases hstatus
              · subst htask
                exact List.mem_append_right _ (List.mem_singleton.mpr rfl)
              · rw [hpart]
                refine ⟨fun h => (by cases h), fun hqueued => ?_⟩
                have hstill := ih.queued.mpr hqueued
                cases hstill

/-- **A finished event attempted its append** exactly when its task got past
its command status. -/
theorem exit_of_path {retryBackoffMs : List ℕ} {event : SimulationEvent} {createdAt : ℤ}
    {phases : List Phase} {phase : Phase} {reply : Reply} {exit : TaskExit}
    (hpath : Path (tasks retryBackoffMs) (.event event createdAt) phases phase)
    (hleave : (tasks retryBackoffMs).answer (.event event createdAt) phase reply = .leave exit) :
    .writing .event_store 0 (.appendEvent event createdAt) [] ∈ phases
      ↔ exit.part ≠ .command_status := by
  have hplaced := placed_of_path hpath
  have hpart : exit.part = phase.part := by
    cases phase with
    | writing part attempt call left => cases hleave
    | reporting part => cases hleave
    | diagnosing part thrown =>
        have hend : endPart (.event event createdAt) part thrown reply.threw = .leave exit := hleave
        unfold endPart at hend
        cases part with
        | command_status =>
            dsimp only at hend
            split at hend
            · injection hend with hexit
              rw [← hexit]
              rfl
            · cases hend
        | event_store =>
            injection hend with hexit
            rw [← hexit]
            rfl
        | queued_command =>
            injection hend with hexit
            rw [← hexit]
            rfl
  rw [hpart]
  constructor
  · intro hmem hstatus
    have hin := hplaced.status hstatus _ hmem
    cases hin
  · intro hstatus
    cases hwhere : phase.part with
    | command_status => exact absurd hwhere hstatus
    | event_store => exact hplaced.store hwhere event createdAt rfl
    | queued_command =>
        obtain ⟨command, queuedAt, htask⟩ := hplaced.queued.mp hwhere
        cases htask

/-! ## §6. When a step is sound. -/

/-- A task got past its command status, if its event has to be appended. -/
def PastStatus (task : Task) (exit : TaskExit) : Prop :=
  task.persistable = true → exit.part ≠ .command_status

variable {retryBackoffMs : List ℕ}

theorem appended_iff_exits {q : PersistenceQueue} (ht : Traced (tasks retryBackoffMs) q) :
    (∀ number event createdAt, number ∈ q.finishes →
        q.jobs[number]? = some (.event event createdAt) → shouldPersistEvent event = true →
        AppendAttempted q number event createdAt)
      ↔ Exits PastStatus q := by
  have hentered : ∀ number event createdAt, AppendAttempted q number event createdAt
      ↔ .writing .event_store 0 (.appendEvent event createdAt) [] ∈ q.phasesOf number := by
    intro number event createdAt
    unfold AppendAttempted State.phasesOf
    rw [List.mem_filterMap]
    constructor
    · intro hmem
      exact ⟨_, hmem, by simp [phaseOf]⟩
    · rintro ⟨entry, hmem, hphase⟩
      cases entry with
      | started n => cases hphase
      | finished n exit => cases hphase
      | entered n phase =>
          simp only [phaseOf] at hphase
          split at hphase
          next hn =>
            subst hn
            rw [← Option.some.inj hphase]
            exact hmem
          · cases hphase
  constructor
  · intro happended number exit task hmem hjob hpersist
    cases task with
    | queuedCommand command queuedAt => cases hpersist
    | event event createdAt =>
        obtain ⟨phase, reply, hpath, hleave⟩ := ht.finished number exit _ hmem hjob
        have hattempted := happended number event createdAt (mem_finishes hmem) hjob hpersist
        exact (exit_of_path hpath hleave).mp ((hentered _ _ _).mp hattempted)
  · intro hexits number event createdAt hin hjob hpersist
    obtain ⟨entry, hmem, hentry⟩ := List.mem_filterMap.mp hin
    cases entry with
    | started n => cases hentry
    | entered n phase => cases hentry
    | finished n exit =>
        obtain rfl : n = number := Option.some.inj hentry
        obtain ⟨phase, reply, hpath, hleave⟩ := ht.finished n exit _ hmem hjob
        have hpast := hexits n exit _ hmem hjob hpersist
        exact (hentered _ _ _).mpr ((exit_of_path hpath hleave).mpr hpast)

theorem threw_eq_false_iff {reply : Reply} : reply.threw = false ↔ reply = .done := by
  cases reply with
  | done => simp [Reply.threw]
  | fails error => simp [Reply.threw]

/-- **The harmless answers** are those after which no task leaves early or
stays on the counter. -/
theorem harmlessAt_iff (task : Task) (phase : Phase) (reply : Reply) :
    HarmlessAt task phase reply
      ↔ ∀ exit, onAnswer retryBackoffMs task phase reply = .leave exit →
          PastStatus task exit ∧ exit.released = true := by
  cases phase with
  | writing part attempt call left =>
      exact ⟨fun _ exit h => (by cases h), fun _ => trivial⟩
  | reporting part => exact ⟨fun _ exit h => (by cases h), fun _ => trivial⟩
  | diagnosing part thrown =>
      show _ ↔ ∀ exit, endPart task part thrown reply.threw = .leave exit → _
      cases part with
      | command_status =>
          show (task.persistable = true → thrown = false ∧ reply = .done) ↔ _
          rw [← threw_eq_false_iff]
          unfold endPart
          dsimp only
          split
          next hleaves =>
            constructor
            · intro hharmless exit hexit
              injection hexit with hexit
              rw [← hexit]
              refine ⟨fun hpersist => ?_, rfl⟩
              obtain ⟨hthrown, hreply⟩ := hharmless hpersist
              rw [hthrown, hreply, hpersist] at hleaves
              simp at hleaves
            · intro hall hpersist
              exact absurd rfl ((hall _ rfl).1 hpersist)
          next hgoes =>
            rw [not_or, Bool.not_eq_true, Bool.or_eq_false_iff] at hgoes
            exact ⟨fun _ exit h => (by cases h), fun _ _ => hgoes.1⟩
      | event_store =>
          refine ⟨fun _ exit hexit => ?_, fun _ => trivial⟩
          injection hexit with hexit
          rw [← hexit]
          exact ⟨fun _ h => (by cases h), rfl⟩
      | queued_command =>
          show reply = .done ↔ _
          rw [← threw_eq_false_iff]
          constructor
          · intro hreply exit hexit
            injection hexit with hexit
            rw [← hexit]
            exact ⟨fun _ h => (by cases h), by show (!reply.threw) = true; rw [hreply]; rfl⟩
          · intro hall
            have hreleased : (!reply.threw) = true := (hall _ rfl).2
            simpa using hreleased

theorem harmless_iff (q : PersistenceQueue) (input : QueueInput) :
    Harmless q input
      ↔ ¬ LeavesBy (tasks retryBackoffMs) (fun task exit => ¬ PastStatus task exit) q input
        ∧ ¬ LeavesBy (tasks retryBackoffMs)
          (fun _ exit => (tasks retryBackoffMs).releases exit = false) q input := by
  cases input with
  | enqueue task => exact ⟨fun _ => ⟨fun h => h, fun h => h⟩, fun _ => trivial⟩
  | answer reply =>
      constructor
      · intro hharmless
        constructor
        · rintro ⟨number, phase, task, exit, hrun, hjob, hans, hbad⟩
          exact hbad ((harmlessAt_iff task phase reply).mp (hharmless number phase task hrun hjob)
            exit hans).1
        · rintro ⟨number, phase, task, exit, hrun, hjob, hans, hkeeps⟩
          have hreleased := ((harmlessAt_iff task phase reply).mp
            (hharmless number phase task hrun hjob) exit hans).2
          rw [show exit.released = false from hkeeps] at hreleased
          cases hreleased
      · rintro ⟨hpast, hreleased⟩ number phase task hrun hjob
        rw [@harmlessAt_iff retryBackoffMs]
        intro exit hans
        constructor
        · by_contra hbad
          exact hpast ⟨number, phase, task, exit, hrun, hjob, hans, hbad⟩
        · cases hval : exit.released with
          | true => rfl
          | false => exact absurd ⟨number, phase, task, exit, hrun, hjob, hans, hval⟩ hreleased

/-- **One step**: order is always kept; appends and counter stay right
exactly when the answer is harmless. -/
theorem sound_step_iff {q : PersistenceQueue} (ht : Traced (tasks retryBackoffMs) q)
    (hq : q.Sound) (input : QueueInput) :
    (q.step retryBackoffMs input).Sound ↔ Harmless q input := by
  have hexits := (appended_iff_exits ht).mp hq.appended
  have ht' := traced_step (tasks retryBackoffMs) hq.orderly ht input
  rw [@harmless_iff retryBackoffMs, ← exits_step_iff (tasks retryBackoffMs) hq.orderly hexits,
    ← counted_step_iff (tasks retryBackoffMs) hq.orderly hq.counted, ← appended_iff_exits ht']
  constructor
  · intro hsound
    exact ⟨hsound.appended, hsound.counted⟩
  · rintro ⟨happended, hcounted⟩
    exact ⟨orderly_step (tasks retryBackoffMs) hq.orderly input, happended, hcounted⟩

theorem sound_empty : PersistenceQueue.Sound State.empty where
  orderly := orderly_empty
  appended _ _ _ h := by cases h
  counted := rfl

theorem PersistenceQueue.Sound.pending_idle {q : PersistenceQueue} (h : q.Sound)
    (hidle : q.running = none) : q.pending = 0 := by
  have hcounted := h.counted
  unfold Counted at hcounted
  rw [hcounted, done_of_idle hidle, Nat.sub_self]

/-- **The persistence queue, run after run**: it is sound all the way exactly
when every answer is harmless; and whatever was answered, enough answers
more finish every task. -/
theorem persistenceQueue_runs (retryBackoffMs : List ℕ) (inputs : List QueueInput) :
    (Run.Along (PersistenceQueue.step retryBackoffMs) PersistenceQueue.Sound .empty inputs
        ↔ Run.StepsMeet (PersistenceQueue.step retryBackoffMs) Harmless .empty inputs)
      ∧ ∃ enough, ∀ replies : List Reply, enough ≤ replies.length →
          (replies.foldl (SerialQueue.answer (tasks retryBackoffMs))
            (inputs.foldl (PersistenceQueue.step retryBackoffMs) .empty)).running = none := by
  constructor
  · refine Run.along_iff_stepsMeet
      (I := fun q => Traced (tasks retryBackoffMs) q) ?_ ?_ inputs .empty (traced_empty _) sound_empty
    · intro q input ht hq _
      exact traced_step (tasks retryBackoffMs) hq.orderly ht input
    · intro q input ht hq
      exact sound_step_iff ht hq input
  · have horderly : ∀ (inputs : List QueueInput) (q : PersistenceQueue), Orderly q →
        Orderly (inputs.foldl (PersistenceQueue.step retryBackoffMs) q) := by
      intro inputs
      induction inputs with
      | nil => exact fun q hq => hq
      | cons input inputs ih =>
          intro q hq
          exact ih _ (orderly_step (tasks retryBackoffMs) hq input)
    exact ⟨_, fun replies hle => idle_after (tasks retryBackoffMs) (wearing retryBackoffMs) replies _
      (horderly inputs .empty orderly_empty) hle⟩

/-! ## §7. A callback that throws. -/

def attackCommand : CommandEnvelope where
  commandId := ⟨"c1", by decide⟩
  sessionId := "s1"
  playerId := playerOne
  clientSeq := 1
  type := .ATTACK

def throwingDiagnostic : List QueueInput :=
  [.enqueue (.queuedCommand attackCommand 0), .answer .done, .answer (.fails ⟨"metrics"⟩)]

/-- A command's acceptance is not written, and the report of that throws. -/
def throwingReport : List QueueInput :=
  [.enqueue (.event (.COMMAND_ACCEPTED "c1") 0), .answer (.fails ⟨"no such table"⟩),
    .answer (.fails ⟨"alert"⟩), .answer .done]

theorem throwingReport_skips_append :
    ¬ AppendAttempted (throwingReport.foldl (PersistenceQueue.step []) .empty) 0
      (.COMMAND_ACCEPTED "c1") 0 := by
  unfold AppendAttempted
  decide +kernel

/-- **The queue is idle with a task pending; an event is never appended.** -/
theorem throwing_callbacks_not_sound :
    ¬ Run.Along (PersistenceQueue.step []) PersistenceQueue.Sound .empty throwingDiagnostic
      ∧ ¬ Run.Along (PersistenceQueue.step []) PersistenceQueue.Sound .empty throwingReport := by
  constructor
  · intro halong
    have hlast := halong.2.2.2
    have hpending := PersistenceQueue.Sound.pending_idle hlast rfl
    cases hpending
  · intro halong
    have hlast := halong.2.2.2.2
    have hfinished : 0 ∈ (throwingReport.foldl (PersistenceQueue.step []) .empty).finishes := by
      decide +kernel
    exact throwingReport_skips_append
      (PersistenceQueue.Sound.appended hlast 0 (.COMMAND_ACCEPTED "c1") 0 hfinished rfl rfl)

end BorderEmpires.Persistence
