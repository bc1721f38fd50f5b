/-
  BorderEmpires.Commands.AtMostOnce
  **HOW OFTEN A HANDLER RUNS.**

  Submissions, drains, service jobs and timer events in any order.  A command
  once taken waits in a lane until its handler runs, and neither is undone,
  so what a handler runs twice was taken twice.  The duplicate check asks
  for a recorded outcome only: a command is taken twice exactly when it is
  submitted again before its first copy has one.
-/
import BorderEmpires.Commands.JobQueue
import BorderEmpires.Lib.Run

namespace BorderEmpires.Commands

open RuntimeReplayCache JobQueue

/-! ## §1. The runtime. -/

/-- What is known of a job from outside: whether the planner asks for a pause
before it, and the events that it emits. -/
structure JobOutcome where
  pauses : Bool
  events : List SimulationEvent

/-- `handled` lists the commands whose handler has run. -/
structure CommandRuntime where
  cache : RuntimeReplayCache
  queue : JobQueue
  handled : List CommandEnvelope

def initialRuntime : CommandRuntime := ⟨.empty, .empty, []⟩

namespace CommandRuntime

variable (bounds : ReplayBounds) (backgroundBatchSize : Nat)

def submitCommand (s : CommandRuntime) (command : CommandEnvelope) : CommandRuntime :=
  match s.cache.replayOrRegister bounds command with
  | (some _, cache) => { s with cache }
  | (none, cache) => { s with cache, queue := s.queue.enqueueJob (jobForCommand command) }

def recordEvents (s : CommandRuntime) (events : List SimulationEvent) : CommandRuntime :=
  { s with cache := events.foldl (recordEvent bounds) s.cache }

def runJob (s : CommandRuntime) (job : SimulationJob) (events : List SimulationEvent) :
    CommandRuntime :=
  { s.recordEvents bounds events with handled := s.handled ++ job.command.toList }

def isBackgroundLane (lane : QueueLane) : Bool := lane = .system || lane = .ai

/-- The drain stops before this job. -/
def mustYield (q : JobQueue) (next : SimulationJob) (pauses : Bool)
    (backgroundJobsProcessed : Nat) : Bool :=
  (next.scheduling = .background && q.hasImmediateWork)
    || (next.lane = .ai && pauses)
    || (isBackgroundLane next.lane && backgroundBatchSize ≤ backgroundJobsProcessed)

/-- The loop of a drain, with the job it is about to run taken from its lane.
It runs one job for each outcome; where they end, a later drain goes on. -/
def drainLoop : List JobOutcome → Nat → SimulationJob → CommandRuntime → CommandRuntime
  | [], _, next, s => { s with queue := s.queue.unshift next }
  | outcome :: rest, backgroundJobsProcessed, next, s =>
      if mustYield backgroundBatchSize s.queue next outcome.pauses backgroundJobsProcessed then
        { s with queue := s.queue.unshift next }
      else
        let ran := s.runJob bounds next outcome.events
        match ran.queue.shiftNextJob with
        | none => ran
        | some (following, queue) =>
            if next.scheduling = .immediate && following.scheduling = .background then
              { ran with queue := queue.unshift following }
            else
              drainLoop rest
                (if isBackgroundLane next.lane then backgroundJobsProcessed + 1
                  else backgroundJobsProcessed)
                following { ran with queue }

def drainQueues (s : CommandRuntime) (outcomes : List JobOutcome) : CommandRuntime :=
  match s.queue.shiftNextJob with
  | none => s
  | some (next, queue) => drainLoop bounds backgroundBatchSize outcomes 0 next { s with queue }

end CommandRuntime

inductive RuntimeStep where
  | submit (command : CommandEnvelope)
  | serviceJob (scheduling : JobScheduling)
  | emit (event : SimulationEvent)
  | drain (outcomes : List JobOutcome)

def runtimeStep (bounds : ReplayBounds) (backgroundBatchSize : Nat) (s : CommandRuntime) :
    RuntimeStep → CommandRuntime
  | .submit command => s.submitCommand bounds command
  | .serviceJob scheduling => { s with queue := s.queue.enqueueJob ⟨.ai, scheduling, none⟩ }
  | .emit event => s.recordEvents bounds [event]
  | .drain outcomes => s.drainQueues bounds backgroundBatchSize outcomes

/-! ## §2. What is taken is run. -/

def commandsOf (jobs : List SimulationJob) : List CommandEnvelope := jobs.filterMap (·.command)

theorem commandsOf_cons (job : SimulationJob) (jobs : List SimulationJob) :
    commandsOf (job :: jobs) = job.command.toList ++ commandsOf jobs := by
  unfold commandsOf
  rw [List.filterMap_cons]
  cases job.command <;> rfl

def CommandRuntime.taken (s : CommandRuntime) : List CommandEnvelope :=
  s.handled ++ commandsOf s.queue.waiting

/-- How the pieces of a step move commands and sequence numbers: commands
are added, none is lost, and unless a bound was exceeded every sequence
number stays. -/
structure Moves (s : CommandRuntime) (added : List CommandEnvelope) (t : CommandRuntime) :
    Prop where
  taken : t.taken.Perm (added ++ s.taken)
  registered : t.cache.overflowed = false →
    t.cache.commandIdsByPlayerSeq = s.cache.commandIdsByPlayerSeq ∧ s.cache.overflowed = false

theorem Moves.ofQueue (s : CommandRuntime) {queue : JobQueue} {jobs : List SimulationJob}
    (h : queue.waiting.Perm (jobs ++ s.queue.waiting)) :
    Moves s (commandsOf jobs) { s with queue } where
  taken := by
    have hcommands : (commandsOf queue.waiting).Perm (commandsOf jobs ++ commandsOf s.queue.waiting) := by
      unfold commandsOf
      rw [← List.filterMap_append]
      exact h.filterMap _
    refine (hcommands.append_left s.handled).trans ?_
    show (s.handled ++ (commandsOf jobs ++ commandsOf s.queue.waiting)).Perm
      (commandsOf jobs ++ (s.handled ++ commandsOf s.queue.waiting))
    rw [← List.append_assoc, ← List.append_assoc]
    exact List.perm_append_comm.append_right _
  registered := fun hover => ⟨rfl, hover⟩

variable {bounds : ReplayBounds} {backgroundBatchSize : Nat}

variable (s : CommandRuntime) {command : CommandEnvelope}

theorem Moves.recordEvents (events : List SimulationEvent) :
    Moves s [] (s.recordEvents bounds events) where
  taken := List.Perm.refl _
  registered := fun hover => recordEvents_seq events hover

theorem Moves.runJob (s : CommandRuntime) (job : SimulationJob) (events : List SimulationEvent) :
    Moves s job.command.toList (s.runJob bounds job events) where
  taken := by
    show (s.handled ++ job.command.toList ++ commandsOf s.queue.waiting).Perm
      (job.command.toList ++ (s.handled ++ commandsOf s.queue.waiting))
    rw [← List.append_assoc]
    exact List.perm_append_comm.append_right _
  registered := fun hover => recordEvents_seq events hover

theorem taken_shift {s : CommandRuntime} {next : SimulationJob} {queue : JobQueue}
    (h : s.queue.shiftNextJob = some (next, queue)) :
    Moves { s with queue } next.command.toList s := by
  have hmoves := @Moves.ofQueue { s with queue } _ [next] (waiting_shiftNextJob h)
  rw [commandsOf_cons] at hmoves
  simpa [commandsOf] using hmoves

theorem putBack (next : SimulationJob) :
    Moves s next.command.toList { s with queue := s.queue.unshift next } := by
  have hmoves := @Moves.ofQueue s _ [next] (waiting_unshift s.queue next)
  rw [commandsOf_cons] at hmoves
  simpa [commandsOf] using hmoves

/-- **A drain** runs what was taken and takes nothing: the job in hand is
run or put back. -/
theorem drainLoop_moves (outcomes : List JobOutcome) :
    ∀ (backgroundJobsProcessed : Nat) (next : SimulationJob) (s : CommandRuntime),
      Moves s next.command.toList (s.drainLoop bounds backgroundBatchSize outcomes
        backgroundJobsProcessed next) := by
  induction outcomes with
  | nil =>
      intro backgroundJobsProcessed next s
      exact putBack s next
  | cons outcome rest ih =>
      intro backgroundJobsProcessed next s
      unfold CommandRuntime.drainLoop
      dsimp only
      split
      · exact putBack s next
      have hran := @Moves.runJob bounds s next outcome.events
      split
      · exact hran
      next following queue hshift =>
        -- the following job is out of its lane: it is put back or goes round again
        have hloop : ∀ t, Moves { s.runJob bounds next outcome.events with queue }
            following.command.toList t → Moves s next.command.toList t := by
          intro t ht
          have hback := taken_shift hshift
          refine ⟨ht.taken.trans (hback.taken.symm.trans hran.taken), ?_⟩
          intro hover
          obtain ⟨hseq, hover'⟩ := ht.registered hover
          obtain ⟨hseq', hover''⟩ := hran.registered hover'
          exact ⟨hseq.trans hseq', hover''⟩
        split
        · exact hloop _ (putBack _ following)
        · exact hloop _ (ih _ following _)

theorem drainQueues_moves (outcomes : List JobOutcome) :
    Moves s [] (s.drainQueues bounds backgroundBatchSize outcomes) := by
  unfold CommandRuntime.drainQueues
  split
  · exact ⟨List.Perm.refl _, fun hover => ⟨rfl, hover⟩⟩
  next next queue hshift =>
    have hdrain := @drainLoop_moves bounds backgroundBatchSize outcomes 0 next { s with queue }
    exact ⟨hdrain.taken.trans (taken_shift hshift).taken.symm, hdrain.registered⟩

/-! ## §3. Taken once. -/

/-- No two player-sequenced commands share an id or a sequence number. -/
structure OnceEach (commands : List CommandEnvelope) : Prop where
  ids : ((commands.filter CommandEnvelope.playerSequenced).map (·.commandId)).Nodup
  sequences : ((commands.filter CommandEnvelope.playerSequenced).map
    CommandEnvelope.playerSeqKey).Nodup

instance (commands : List CommandEnvelope) : Decidable (OnceEach commands) :=
  decidable_of_iff
    (((commands.filter CommandEnvelope.playerSequenced).map (·.commandId)).Nodup
      ∧ ((commands.filter CommandEnvelope.playerSequenced).map CommandEnvelope.playerSeqKey).Nodup)
    ⟨fun h => ⟨h.1, h.2⟩, fun h => ⟨h.ids, h.sequences⟩⟩

theorem OnceEach.perm {commands commands' : List CommandEnvelope} (h : OnceEach commands)
    (hperm : commands'.Perm commands) : OnceEach commands' where
  ids := (((hperm.filter _).map _).nodup_iff).mpr h.ids
  sequences := (((hperm.filter _).map _).nodup_iff).mpr h.sequences

theorem OnceEach.sublist {commands commands' : List CommandEnvelope} (h : OnceEach commands)
    (hsub : commands'.Sublist commands) : OnceEach commands' where
  ids := ((hsub.filter _).map _).nodup h.ids
  sequences := ((hsub.filter _).map _).nodup h.sequences

/-- The earlier copies of a command: of its id or of its sequence number. -/
def CopyOf (command e : CommandEnvelope) : Prop :=
  e.playerSequenced = true
    ∧ (e.commandId = command.commandId ∨ e.playerSeqKey = command.playerSeqKey)

theorem onceEach_cons {commands : List CommandEnvelope} (h : OnceEach commands)
    (hsequenced : command.playerSequenced = true) :
    OnceEach (command :: commands) ↔ ∀ e ∈ commands, ¬ CopyOf command e := by
  have hfilter : (command :: commands).filter CommandEnvelope.playerSequenced
      = command :: commands.filter CommandEnvelope.playerSequenced :=
    List.filter_cons_of_pos hsequenced
  constructor
  · rintro ⟨hids, hsequences⟩ e he ⟨hseq, hsame⟩
    rw [hfilter, List.map_cons, List.nodup_cons] at hids hsequences
    have hmem : e ∈ commands.filter CommandEnvelope.playerSequenced :=
      List.mem_filter.mpr ⟨he, hseq⟩
    rcases hsame with hid | hkey
    · exact hids.1 (List.mem_map.mpr ⟨e, hmem, hid⟩)
    · exact hsequences.1 (List.mem_map.mpr ⟨e, hmem, hkey⟩)
  · intro hfresh
    refine ⟨?_, ?_⟩
    · rw [hfilter, List.map_cons, List.nodup_cons]
      refine ⟨fun hmem => ?_, h.ids⟩
      obtain ⟨e, he, hid⟩ := List.mem_map.mp hmem
      exact hfresh e (List.mem_filter.mp he).1 ⟨(List.mem_filter.mp he).2, Or.inl hid⟩
    · rw [hfilter, List.map_cons, List.nodup_cons]
      refine ⟨fun hmem => ?_, h.sequences⟩
      obtain ⟨e, he, hkey⟩ := List.mem_map.mp hmem
      exact hfresh e (List.mem_filter.mp he).1 ⟨(List.mem_filter.mp he).2, Or.inr hkey⟩

theorem onceEach_cons_identity {commands : List CommandEnvelope}
    (h : command.playerSequenced = false) : OnceEach (command :: commands) ↔ OnceEach commands := by
  have hfilter : (command :: commands).filter CommandEnvelope.playerSequenced
      = commands.filter CommandEnvelope.playerSequenced :=
    List.filter_cons_of_neg (by rw [h]; exact Bool.false_ne_true)
  constructor
  · rintro ⟨hids, hsequences⟩
    rw [hfilter] at hids hsequences
    exact ⟨hids, hsequences⟩
  · rintro ⟨hids, hsequences⟩
    exact ⟨hfilter ▸ hids, hfilter ▸ hsequences⟩

/-! ## §4. A submission. -/

/-- The sequence numbers registered are those of the commands taken. -/
def CommandRuntime.Registered (s : CommandRuntime) : Prop :=
  ∀ key commandId, s.cache.commandIdsByPlayerSeq.get key = some commandId
    ↔ ∃ e ∈ s.taken, e.playerSequenced = true ∧ e.playerSeqKey = key ∧ e.commandId = commandId

/-- An outcome is recorded for the command's own id, or for an earlier command
with its sequence number. -/
def CommandRuntime.HasOutcome (s : CommandRuntime) (command : CommandEnvelope) : Prop :=
  s.cache.Answers command.commandId
    ∨ ∃ e ∈ s.taken, e.playerSequenced = true ∧ e.playerSeqKey = command.playerSeqKey
      ∧ s.cache.Answers e.commandId

/-- A command with the id or the sequence number was taken before. -/
def CommandRuntime.TakenBefore (s : CommandRuntime) (command : CommandEnvelope) : Prop :=
  ∃ e ∈ s.taken, CopyOf command e

inductive Submitted (s : CommandRuntime) (command : CommandEnvelope) (t : CommandRuntime) : Prop
  | answered : s.HasOutcome command → t.taken = s.taken →
      t.cache.commandIdsByPlayerSeq = s.cache.commandIdsByPlayerSeq → Submitted s command t
  | queued : ¬ s.HasOutcome command → t.taken.Perm (command :: s.taken) →
      t.cache.commandIdsByPlayerSeq
        = s.cache.commandIdsByPlayerSeq.set command.playerSeqKey command.commandId →
      Submitted s command t

theorem taken_enqueue (cache : RuntimeReplayCache) (command : CommandEnvelope) :
    CommandRuntime.taken { s with cache, queue := s.queue.enqueueJob (jobForCommand command) }
      |>.Perm (command :: s.taken) :=
  (@Moves.ofQueue s _ [jobForCommand command]
    (waiting_enqueueJob s.queue (jobForCommand command))).taken

theorem replaySequence_iff {s : CommandRuntime} (h : s.Registered) (key : PlayerSeqKey) :
    (s.cache.replaySequence key).isSome = true
      ↔ ∃ e ∈ s.taken, e.playerSequenced = true ∧ e.playerSeqKey = key
        ∧ s.cache.Answers e.commandId := by
  unfold replaySequence
  constructor
  · intro hsome
    cases hget : s.cache.commandIdsByPlayerSeq.get key with
    | none =>
        rw [hget] at hsome
        cases hsome
    | some commandId =>
        rw [hget] at hsome
        obtain ⟨e, he, hsequenced, hkey, rfl⟩ := (h key commandId).mp hget
        exact ⟨e, he, hsequenced, hkey, hsome⟩
  · rintro ⟨e, he, hsequenced, hkey, hanswers⟩
    rw [(h key e.commandId).mpr ⟨e, he, hsequenced, hkey, rfl⟩]
    exact hanswers

theorem replayOrRegister_overflowed (c : RuntimeReplayCache) (command : CommandEnvelope) :
    (c.replayOrRegister bounds command).2.overflowed = (c.pruneReplayCaches bounds).overflowed := by
  unfold replayOrRegister
  dsimp only
  split
  · rfl
  · split
    · split <;> rfl
    · rfl

theorem submitCommand_overflowed (s : CommandRuntime) (command : CommandEnvelope) :
    (s.submitCommand bounds command).cache.overflowed
      = (s.cache.pruneReplayCaches bounds).overflowed := by
  have hcache := @replayOrRegister_overflowed bounds s.cache command
  unfold CommandRuntime.submitCommand
  split
  next _ cache hreplay =>
    rw [hreplay] at hcache
    exact hcache
  next cache hreplay =>
    rw [hreplay] at hcache
    exact hcache

/-- **The duplicate check** looks for outcomes and for nothing else. -/
theorem submitCommand_spec {s : CommandRuntime} (hregistered : s.Registered)
    (hsequenced : command.playerSequenced = true)
    (hover : (s.cache.pruneReplayCaches bounds).overflowed = false) :
    Submitted s command (s.submitCommand bounds command) := by
  obtain ⟨hpruned, _⟩ := pruneReplayCaches_eq hover
  unfold CommandRuntime.submitCommand replayOrRegister
  dsimp only
  rw [hpruned, hsequenced, if_pos rfl]
  cases hreplay : s.cache.replay command.commandId with
  | some events =>
      refine .answered (Or.inl ?_) rfl rfl
      unfold Answers
      rw [hreplay]
      rfl
  | none =>
      have hid : ¬ s.cache.Answers command.commandId := by
        unfold Answers
        rw [hreplay]
        exact Bool.false_ne_true
      cases hsequence : s.cache.replaySequence command.playerSeqKey with
      | some events =>
          have hkey := (replaySequence_iff hregistered command.playerSeqKey).mp
            (by rw [hsequence]; rfl)
          exact .answered (Or.inr hkey) rfl rfl
      | none =>
          refine .queued ?_ (taken_enqueue s _ command) rfl
          rintro (hanswers | hkey)
          · exact hid hanswers
          · have hsome := (replaySequence_iff hregistered command.playerSeqKey).mpr hkey
            rw [hsequence] at hsome
            cases hsome

/-! ## §5. Every other step. -/

theorem submitCommand_identity (h : command.playerSequenced = false) :
    ∃ added, (∀ e ∈ added, e.playerSequenced = false)
      ∧ Moves s added (s.submitCommand bounds command) := by
  have hpruned : (s.cache.pruneReplayCaches bounds).overflowed = false →
      (s.cache.pruneReplayCaches bounds).commandIdsByPlayerSeq = s.cache.commandIdsByPlayerSeq
        ∧ s.cache.overflowed = false := by
    intro hover
    obtain ⟨hsame, hbefore⟩ := pruneReplayCaches_eq hover
    exact ⟨congrArg commandIdsByPlayerSeq hsame, hbefore⟩
  unfold CommandRuntime.submitCommand replayOrRegister
  dsimp only
  rw [h, if_neg Bool.false_ne_true]
  cases (s.cache.pruneReplayCaches bounds).replay command.commandId with
  | some events => exact ⟨[], fun e he => absurd he List.not_mem_nil, List.Perm.refl _, hpruned⟩
  | none =>
      refine ⟨[command], ?_, taken_enqueue s _ command, hpruned⟩
      intro e he
      rw [List.mem_singleton.mp he]
      exact h

theorem step_moves (s : CommandRuntime) (l : RuntimeStep)
    (h : ∀ command, l = .submit command → command.playerSequenced = false) :
    ∃ added, (∀ e ∈ added, e.playerSequenced = false)
      ∧ Moves s added (runtimeStep bounds backgroundBatchSize s l) := by
  have hnone : ∀ e ∈ ([] : List CommandEnvelope), e.playerSequenced = false :=
    fun e he => absurd he List.not_mem_nil
  cases l with
  | submit command => exact submitCommand_identity s (h command rfl)
  | serviceJob scheduling =>
      exact ⟨[], hnone, @Moves.ofQueue s _ [⟨.ai, scheduling, none⟩] (waiting_enqueueJob s.queue _)⟩
  | emit event => exact ⟨[], hnone, Moves.recordEvents s [event]⟩
  | drain outcomes => exact ⟨[], hnone, drainQueues_moves s outcomes⟩

theorem Moves.onceEach_iff {s t : CommandRuntime} {added : List CommandEnvelope}
    (h : Moves s added t) (hadded : ∀ e ∈ added, e.playerSequenced = false) :
    OnceEach t.taken ↔ OnceEach s.taken := by
  have hall : OnceEach (added ++ s.taken) ↔ OnceEach s.taken := by
    clear h
    induction added with
    | nil => exact Iff.rfl
    | cons e rest ih =>
        exact (onceEach_cons_identity (hadded e List.mem_cons_self)).trans
          (ih (fun e' he' => hadded e' (List.mem_cons_of_mem e he')))
  exact ⟨fun honce => hall.mp (honce.perm h.taken.symm), fun honce => (hall.mpr honce).perm h.taken⟩

theorem Moves.keepsRegistered {s t : CommandRuntime} {added : List CommandEnvelope}
    (h : Moves s added t) (hadded : ∀ e ∈ added, e.playerSequenced = false)
    (hseq : t.cache.commandIdsByPlayerSeq = s.cache.commandIdsByPlayerSeq) (hs : s.Registered) :
    t.Registered := by
  intro key commandId
  rw [hseq, hs key commandId]
  constructor
  · rintro ⟨e, he, hrest⟩
    exact ⟨e, h.taken.mem_iff.mpr (List.mem_append_right added he), hrest⟩
  · rintro ⟨e, he, hsequenced, hrest⟩
    rcases List.mem_append.mp (h.taken.mem_iff.mp he) with hnew | hold
    · rw [hadded e hnew] at hsequenced
      cases hsequenced
    · exact ⟨e, hold, hsequenced, hrest⟩

/-! ## §6. Runs. -/

/-- **The condition of a step**: unless a bound of the cache is exceeded, a
player-sequenced command of which a copy was taken before is submitted only
when an outcome is recorded. -/
def RepeatAnswered (bounds : ReplayBounds) (s : CommandRuntime) : RuntimeStep → Prop
  | .submit command => (s.cache.pruneReplayCaches bounds).overflowed = false →
      command.playerSequenced = true → s.TakenBefore command → s.HasOutcome command
  | _ => True

/-- While no bound was exceeded, no command was taken twice. -/
def TakenOnce (s : CommandRuntime) : Prop := s.cache.overflowed = false → OnceEach s.taken

def KeepsRegister (s : CommandRuntime) : Prop := s.cache.overflowed = false → s.Registered

theorem registered_queued {s t : CommandRuntime} (hs : s.Registered)
    (hsequenced : command.playerSequenced = true) (htaken : t.taken.Perm (command :: s.taken))
    (hseq : t.cache.commandIdsByPlayerSeq
      = s.cache.commandIdsByPlayerSeq.set command.playerSeqKey command.commandId)
    (hfresh : ¬ s.TakenBefore command) : t.Registered := by
  intro key commandId
  rw [hseq, InsertionMap.get_set]
  by_cases hkey : command.playerSeqKey = key
  · rw [if_pos hkey]
    constructor
    · intro hid
      exact ⟨command, htaken.mem_iff.mpr List.mem_cons_self, hsequenced, hkey, Option.some.inj hid⟩
    · rintro ⟨e, he, hseq', hkey', rfl⟩
      rcases List.mem_cons.mp (htaken.mem_iff.mp he) with rfl | hold
      · rfl
      · exact absurd ⟨e, hold, hseq', Or.inr (hkey'.trans hkey.symm)⟩ hfresh
  · rw [if_neg hkey, hs key commandId]
    constructor
    · rintro ⟨e, he, hrest⟩
      exact ⟨e, htaken.mem_iff.mpr (List.mem_cons_of_mem command he), hrest⟩
    · rintro ⟨e, he, hseq', hkey', hid⟩
      rcases List.mem_cons.mp (htaken.mem_iff.mp he) with rfl | hold
      · exact absurd hkey' hkey
      · exact ⟨e, hold, hseq', hkey', hid⟩

theorem submission_or_not (l : RuntimeStep) :
    (∃ command, l = .submit command ∧ command.playerSequenced = true)
      ∨ ∀ command, l = .submit command → command.playerSequenced = false := by
  cases l with
  | submit command =>
      cases hsequenced : command.playerSequenced with
      | true => exact Or.inl ⟨command, rfl, hsequenced⟩
      | false =>
          refine Or.inr (fun other hother => ?_)
          rw [← RuntimeStep.submit.inj hother]
          exact hsequenced
  | serviceJob _ => exact Or.inr (fun _ h => nomatch h)
  | emit _ => exact Or.inr (fun _ h => nomatch h)
  | drain _ => exact Or.inr (fun _ h => nomatch h)

theorem step_keepsRegister {s : CommandRuntime} {l : RuntimeStep} (hs : KeepsRegister s)
    (hmeet : RepeatAnswered bounds s l) :
    KeepsRegister (runtimeStep bounds backgroundBatchSize s l) := by
  intro hover
  rcases submission_or_not l with ⟨command, rfl, hsequenced⟩ | hother
  · have hpruned : (s.cache.pruneReplayCaches bounds).overflowed = false :=
      (submitCommand_overflowed s command).symm.trans hover
    have hregistered := hs (pruneReplayCaches_eq hpruned).2
    show (s.submitCommand bounds command).Registered
    cases submitCommand_spec hregistered hsequenced hpruned with
    | answered _ htaken hseq =>
        intro key commandId
        rw [hseq, htaken]
        exact hregistered key commandId
    | queued hunanswered htaken hseq =>
        exact registered_queued hregistered hsequenced htaken hseq
          (fun hbefore => hunanswered (hmeet hpruned hsequenced hbefore))
  · obtain ⟨added, hadded, hmoves⟩ := @step_moves bounds backgroundBatchSize s l hother
    obtain ⟨hseq, hbefore⟩ := hmoves.registered hover
    exact hmoves.keepsRegistered hadded hseq (hs hbefore)

/-- **The step lemma**: a step takes no command twice exactly when it meets the
condition. -/
theorem step_takenOnce_iff {s : CommandRuntime} {l : RuntimeStep} (hs : KeepsRegister s)
    (honce : TakenOnce s) :
    TakenOnce (runtimeStep bounds backgroundBatchSize s l) ↔ RepeatAnswered bounds s l := by
  rcases submission_or_not l with ⟨command, rfl, hsequenced⟩ | hother
  · have hflag := @submitCommand_overflowed bounds s command
    constructor
    · intro htwice hpruned _ hbefore
      have hbefore' := (pruneReplayCaches_eq hpruned).2
      cases submitCommand_spec (hs hbefore') hsequenced hpruned with
      | answered houtcome _ _ => exact houtcome
      | queued _ htaken _ =>
          have honce' := (htwice (hflag.trans hpruned)).perm htaken.symm
          obtain ⟨e, he, hcopy⟩ := hbefore
          exact absurd hcopy ((onceEach_cons (honce hbefore') hsequenced).mp honce' e he)
    · intro hmeet hover
      have hpruned := hflag.symm.trans hover
      have hbefore := (pruneReplayCaches_eq hpruned).2
      cases submitCommand_spec (hs hbefore) hsequenced hpruned with
      | answered _ htaken _ => exact htaken.symm ▸ honce hbefore
      | queued hunanswered htaken _ =>
          refine OnceEach.perm ((onceEach_cons (honce hbefore) hsequenced).mpr ?_) htaken
          exact fun e he hcopy => hunanswered (hmeet hpruned hsequenced ⟨e, he, hcopy⟩)
  · obtain ⟨added, hadded, hmoves⟩ := @step_moves bounds backgroundBatchSize s l hother
    refine ⟨fun _ => ?_, fun _ hover => ?_⟩
    · cases l with
      | submit command =>
          intro _ hsequenced
          rw [hother command rfl] at hsequenced
          cases hsequenced
      | serviceJob _ => exact trivial
      | emit _ => exact trivial
      | drain _ => exact trivial
    · exact (hmoves.onceEach_iff hadded).mpr (honce (hmoves.registered hover).2)

/-- **When no command is taken twice**: exactly in the runs whose repeats are
all submitted after an outcome was recorded. -/
theorem takenOnce_iff (bounds : ReplayBounds) (backgroundBatchSize : Nat)
    (steps : List RuntimeStep) :
    Run.Along (runtimeStep bounds backgroundBatchSize) TakenOnce initialRuntime steps
      ↔ Run.StepsMeet (runtimeStep bounds backgroundBatchSize) (RepeatAnswered bounds)
        initialRuntime steps := by
  refine Run.along_iff_stepsMeet (fun s l hs _ hmeet => step_keepsRegister hs hmeet)
    (fun s l hs honce => step_takenOnce_iff hs honce) steps initialRuntime ?_ ?_
  · intro _ key commandId
    constructor
    · intro hget
      cases hget
    · rintro ⟨e, he, _⟩
      exact absurd he List.not_mem_nil
  · exact fun _ => ⟨List.nodup_nil, List.nodup_nil⟩

/-! ## §7. The handlers. -/

theorem submitCommand_taken (s : CommandRuntime) (command : CommandEnvelope) :
    (s.submitCommand bounds command).taken = s.taken
      ∨ (s.submitCommand bounds command).taken.Perm (command :: s.taken) := by
  unfold CommandRuntime.submitCommand
  split
  · exact Or.inl rfl
  · exact Or.inr (taken_enqueue s _ command)

theorem step_back (l : RuntimeStep)
    (h : (runtimeStep bounds backgroundBatchSize s l).cache.overflowed = false
      ∧ OnceEach (runtimeStep bounds backgroundBatchSize s l).taken) :
    s.cache.overflowed = false ∧ OnceEach s.taken := by
  obtain ⟨hover, honce⟩ := h
  rcases submission_or_not l with ⟨command, rfl, hsequenced⟩ | hother
  · have hpruned : (s.cache.pruneReplayCaches bounds).overflowed = false :=
      (submitCommand_overflowed s command).symm.trans hover
    refine ⟨(pruneReplayCaches_eq hpruned).2, ?_⟩
    rcases @submitCommand_taken bounds s command with hsame | hqueued
    · exact hsame ▸ honce
    · exact (honce.perm hqueued.symm).sublist (List.sublist_cons_self command s.taken)
  · obtain ⟨added, hadded, hmoves⟩ := @step_moves bounds backgroundBatchSize s l hother
    exact ⟨(hmoves.registered hover).2, (hmoves.onceEach_iff hadded).mp honce⟩

/-- **How often a handler runs.**  Where every repeat is submitted after an
outcome was recorded, no handler runs twice while the bounds of the cache
hold; and a run in which none did, once everything taken has run, is one in
which every repeat was submitted so. -/
theorem handlers_run_at_most_once (bounds : ReplayBounds) (backgroundBatchSize : Nat)
    (steps : List RuntimeStep) :
    (Run.StepsMeet (runtimeStep bounds backgroundBatchSize) (RepeatAnswered bounds)
        initialRuntime steps →
      Run.Along (runtimeStep bounds backgroundBatchSize)
        (fun s => s.cache.overflowed = false → OnceEach s.handled) initialRuntime steps)
      ∧ ∀ t, t = steps.foldl (runtimeStep bounds backgroundBatchSize) initialRuntime →
        t.cache.overflowed = false → t.queue.waiting = [] → OnceEach t.handled →
        Run.StepsMeet (runtimeStep bounds backgroundBatchSize) (RepeatAnswered bounds)
          initialRuntime steps := by
  constructor
  · intro hmeet
    have htaken := (takenOnce_iff bounds backgroundBatchSize steps).mpr hmeet
    refine htaken.mono (fun s honce hover => ?_) steps
    exact (honce hover).sublist (List.sublist_append_left s.handled _)
  · intro t ht hover hdrained honce
    have hlast : t.cache.overflowed = false ∧ OnceEach t.taken := by
      refine ⟨hover, ?_⟩
      unfold CommandRuntime.taken commandsOf
      rw [hdrained, List.filterMap_nil, List.append_nil]
      exact honce
    rw [ht] at hlast
    have hall := @Run.along_of_last _ _ (runtimeStep bounds backgroundBatchSize)
      (fun s => s.cache.overflowed = false ∧ OnceEach s.taken) step_back steps initialRuntime hlast
    refine (takenOnce_iff bounds backgroundBatchSize steps).mp ?_
    exact hall.mono (fun s hboth _ => hboth.2) steps

def attackCommand : CommandEnvelope :=
  { commandId := ⟨"cmd-1", by decide⟩, sessionId := "session-1", playerId := playerOne
    clientSeq := 1, type := .ATTACK }

def acceptedEvent : SimulationEvent := ⟨.COMMAND_ACCEPTED, attackCommand.commandId, []⟩

/-- The bounds the runtime starts with. -/
def defaultBounds : ReplayBounds := ⟨4096, 16384, 50000⟩

/-- Submitted again after its drain, the attack is answered from the record. -/
theorem repeat_after_drain_runs_once :
    Run.Along (runtimeStep defaultBounds 1)
      (fun s => s.cache.overflowed = false → OnceEach s.handled) initialRuntime
      [.submit attackCommand, .drain [⟨false, [acceptedEvent]⟩], .submit attackCommand] := by
  refine (handlers_run_at_most_once defaultBounds 1 _).1 ⟨?_, trivial, ?_, trivial⟩
  · rintro _ _ ⟨e, he, _⟩
    exact absurd he List.not_mem_nil
  · intro _ _ _
    refine Or.inl ?_
    unfold Answers
    decide +kernel

/-- Submitted twice before the first drain, the attack is handled twice. -/
theorem repeat_before_drain_runs_twice :
    ((([.submit attackCommand, .submit attackCommand,
      .drain [⟨false, [acceptedEvent]⟩, ⟨false, [acceptedEvent]⟩]] : List RuntimeStep).foldl
        (runtimeStep defaultBounds 1) initialRuntime).handled = [attackCommand, attackCommand])
      ∧ ¬ OnceEach [attackCommand, attackCommand]
      ∧ (([.submit attackCommand, .submit attackCommand,
        .drain [⟨false, [acceptedEvent]⟩, ⟨false, [acceptedEvent]⟩]] : List RuntimeStep).foldl
        (runtimeStep defaultBounds 1) initialRuntime).cache.overflowed = false := by
  decide +kernel

end BorderEmpires.Commands
