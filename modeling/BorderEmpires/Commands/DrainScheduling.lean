/-
  BorderEmpires.Commands.DrainScheduling
  **A QUEUED JOB IS NEVER FORGOTTEN.**

  The drain of the four lanes again, now with the two flags and the
  callbacks that start it.  One step is a call of `enqueueJob`, a callback
  firing, or the running job returning or throwing; the jobs a running job
  enqueues are steps of their own while it runs.
-/
import BorderEmpires.Commands.AtMostOnce

namespace BorderEmpires.Commands

open CommandRuntime (isBackgroundLane mustYield)

/-! ## §1. The next job and its lane. -/

namespace JobQueue

def hasQueuedJobs (q : JobQueue) : Bool :=
  PRIORITY_ORDER.any (fun lane => !(q.jobsByLane lane).isEmpty)

/-- The scheduling of the first job of the first lane that holds one. -/
def firstScheduling (q : JobQueue) : List QueueLane → JobScheduling
  | [] => .immediate
  | lane :: lanes =>
      match q.jobsByLane lane with
      | next :: _ => next.scheduling
      | [] => q.firstScheduling lanes

def nextQueuedScheduling (q : JobQueue) : JobScheduling :=
  if FAIRNESS_INTERACTIVE_BURST ≤ q.consecutiveInteractiveJobs then
    match q.human_noninteractive with
    | fairnessNext :: _ => fairnessNext.scheduling
    | [] => q.firstScheduling PRIORITY_ORDER
  else q.firstScheduling PRIORITY_ORDER

def Laned (q : JobQueue) : Prop := ∀ lane, ∀ job ∈ q.jobsByLane lane, job.lane = lane

theorem jobsByLane_setLane (q : JobQueue) (lane other : QueueLane) (jobs : List SimulationJob) :
    (q.setLane lane jobs).jobsByLane other = if lane = other then jobs else q.jobsByLane other := by
  cases lane <;> cases other <;> rfl

theorem jobsByLane_enqueueJob (q : JobQueue) (job : SimulationJob) (lane : QueueLane) :
    (q.enqueueJob job).jobsByLane lane
      = q.jobsByLane lane ++ if job.lane = lane then [job] else [] := by
  unfold enqueueJob
  rw [jobsByLane_setLane]
  by_cases h : job.lane = lane
  · rw [if_pos h, if_pos h, h]
  · rw [if_neg h, if_neg h, List.append_nil]

theorem jobsByLane_unshift (q : JobQueue) (next : SimulationJob) (lane : QueueLane) :
    (q.unshift next).jobsByLane lane
      = (if next.lane = lane then [next] else []) ++ q.jobsByLane lane := by
  unfold unshift
  rw [jobsByLane_setLane]
  by_cases h : next.lane = lane
  · rw [if_pos h, if_pos h, h]
    rfl
  · rw [if_neg h, if_neg h]
    rfl

theorem jobsByLane_take {q : JobQueue} (hq : q.Laned) {from' lane : QueueLane}
    {next : SimulationJob} {rest : List SimulationJob} (hjobs : q.jobsByLane from' = next :: rest)
    (n : Nat) : q.jobsByLane lane = (if next.lane = lane then [next] else [])
      ++ { q.setLane from' rest with consecutiveInteractiveJobs := n }.jobsByLane lane := by
  have hlane : next.lane = from' := hq from' next (by rw [hjobs]; exact List.mem_cons_self)
  -- counting interactive jobs does not touch the lanes
  have hrecount : { q.setLane from' rest with consecutiveInteractiveJobs := n }.jobsByLane lane
      = (q.setLane from' rest).jobsByLane lane := by
    cases lane <;> rfl
  rw [hrecount, jobsByLane_setLane, hlane]
  by_cases h : from' = lane
  · subst h
    rw [if_pos rfl, if_pos rfl, hjobs]
    rfl
  · rw [if_neg h, if_neg h]
    rfl

theorem jobsByLane_shiftByPriority {q q' : JobQueue} (hq : q.Laned) {next : SimulationJob}
    (lanes : List QueueLane) (h : q.shiftByPriority lanes = some (next, q')) (lane : QueueLane) :
    q.jobsByLane lane = (if next.lane = lane then [next] else []) ++ q'.jobsByLane lane := by
  induction lanes with
  | nil => cases h
  | cons first lanes ih =>
      unfold shiftByPriority at h
      cases hjobs : q.jobsByLane first with
      | nil =>
          rw [hjobs] at h
          exact ih h
      | cons head rest =>
          rw [hjobs] at h
          obtain ⟨rfl, rfl⟩ := Prod.mk.inj (Option.some.inj h)
          exact jobsByLane_take hq hjobs _

/-- **The next job is the head of its own lane**, and every other lane is
left as it was. -/
theorem shiftNextJob_lane {q q' : JobQueue} (hq : q.Laned) {next : SimulationJob}
    (h : q.shiftNextJob = some (next, q')) (lane : QueueLane) :
    q.jobsByLane lane = (if next.lane = lane then [next] else []) ++ q'.jobsByLane lane := by
  unfold shiftNextJob at h
  cases hfair : q.takeNoninteractiveForFairness with
  | none =>
      rw [hfair] at h
      exact jobsByLane_shiftByPriority hq PRIORITY_ORDER h lane
  | some taken =>
      rw [hfair] at h
      cases h
      unfold takeNoninteractiveForFairness at hfair
      by_cases hburst : q.consecutiveInteractiveJobs < FAIRNESS_INTERACTIVE_BURST
      · rw [if_pos hburst] at hfair
        cases hfair
      · rw [if_neg hburst] at hfair
        cases hjobs : q.human_noninteractive with
        | nil =>
            rw [hjobs] at hfair
            cases hfair
        | cons head rest =>
            rw [hjobs] at hfair
            obtain ⟨rfl, rfl⟩ := Prod.mk.inj (Option.some.inj hfair)
            exact @jobsByLane_take _ hq .human_noninteractive _ _ _ hjobs 0

end JobQueue

/-! ## §2. Flags, callbacks and the running drain. -/

/-- A scheduled call of `drainQueues`: by `scheduleDrain` as soon as
possible or on a timer, each of which clears its flag first, or by a drain
that yielded. -/
inductive DrainCallback where
  | immediate | background | yielded
  deriving DecidableEq

structure DrainFrame where
  running : SimulationJob
  backgroundJobsProcessed : Nat

structure DrainRuntime where
  queue : JobQueue
  draining : Bool
  drainScheduled : Bool
  immediateDrainScheduled : Bool
  callbacks : List DrainCallback
  frame : Option DrainFrame
  /-- Every job ever enqueued, in order. -/
  enqueued : List SimulationJob
  /-- Every job whose `run` was called, in order. -/
  started : List SimulationJob

namespace DrainRuntime

def boot : DrainRuntime where
  queue := JobQueue.empty
  draining := false
  drainScheduled := false
  immediateDrainScheduled := false
  callbacks := []
  frame := none
  enqueued := []
  started := []

def scheduleDrain (s : DrainRuntime) (scheduling : JobScheduling) : DrainRuntime :=
  if s.draining then s
  else
    match scheduling with
    | .immediate =>
        if s.immediateDrainScheduled then s
        else
          { s with
            immediateDrainScheduled := true
            callbacks := s.callbacks ++ [.immediate] }
    | .background =>
        if s.drainScheduled || s.immediateDrainScheduled then s
        else
          { s with
            drainScheduled := true
            callbacks := s.callbacks ++ [.background] }

def enqueueJob (s : DrainRuntime) (job : SimulationJob) : DrainRuntime :=
  scheduleDrain
    { s with
      queue := s.queue.enqueueJob job
      enqueued := s.enqueued ++ [job] }
    job.scheduling

/-- The `finally` block of a drain. -/
def endDrain (s : DrainRuntime) (shouldYieldForBackground : Bool) : DrainRuntime :=
  let s := { s with draining := false, frame := none }
  if s.queue.hasQueuedJobs then
    if shouldYieldForBackground then { s with callbacks := s.callbacks ++ [.yielded] }
    else s.scheduleDrain s.queue.nextQueuedScheduling
  else s

/-- The loop of a drain with the next job taken from its lane: it goes back
to the head of its lane, or runs. -/
def runOrYield (backgroundBatchSize : Nat) (s : DrainRuntime) (next : SimulationJob)
    (pauses : Bool) (backgroundJobsProcessed : Nat) : DrainRuntime :=
  if mustYield backgroundBatchSize s.queue next pauses backgroundJobsProcessed then
    endDrain { s with queue := s.queue.unshift next } true
  else
    { s with
      frame := some ⟨next, backgroundJobsProcessed⟩
      started := s.started ++ [next] }

/-- `drainQueues` up to its first job. -/
def drainQueues (backgroundBatchSize : Nat) (s : DrainRuntime) (pauses : Bool) : DrainRuntime :=
  if s.draining then s
  else
    let s := { s with draining := true }
    match s.queue.shiftNextJob with
    | none => s.endDrain false
    | some (next, queue) => runOrYield backgroundBatchSize { s with queue } next pauses 0

/-- The running job returns, and the drain goes on to the next one. -/
def jobReturns (backgroundBatchSize : Nat) (s : DrainRuntime) (pauses : Bool) : DrainRuntime :=
  match s.frame with
  | none => s
  | some frame =>
      let backgroundJobsProcessed :=
        if isBackgroundLane frame.running.lane then frame.backgroundJobsProcessed + 1
        else frame.backgroundJobsProcessed
      match s.queue.shiftNextJob with
      | none => s.endDrain false
      | some (next, queue) =>
          if frame.running.scheduling = .immediate ∧ next.scheduling = .background then
            endDrain { s with queue := queue.unshift next } true
          else runOrYield backgroundBatchSize { s with queue } next pauses backgroundJobsProcessed

/-- The running job throws: only the `finally` block is left. -/
def jobThrows (s : DrainRuntime) : DrainRuntime :=
  match s.frame with
  | none => s
  | some _ => s.endDrain false

def fire (backgroundBatchSize : Nat) (s : DrainRuntime) (index : Nat) (pauses : Bool) :
    DrainRuntime :=
  match s.callbacks[index]? with
  | none => s
  | some callback =>
      let s := { s with callbacks := s.callbacks.eraseIdx index }
      match callback with
      | .immediate =>
          drainQueues backgroundBatchSize { s with immediateDrainScheduled := false } pauses
      | .background => drainQueues backgroundBatchSize { s with drainScheduled := false } pauses
      | .yielded => drainQueues backgroundBatchSize s pauses

end DrainRuntime

/-- One step, with what the planner answers should it be asked for a
pause. -/
inductive DrainStep where
  | enqueue (job : SimulationJob)
  | fire (index : Nat) (pauses : Bool)
  | jobReturns (pauses : Bool)
  | jobThrows

def drainStep (backgroundBatchSize : Nat) (s : DrainRuntime) : DrainStep → DrainRuntime
  | .enqueue job => s.enqueueJob job
  | .fire index pauses => s.fire backgroundBatchSize index pauses
  | .jobReturns pauses => s.jobReturns backgroundBatchSize pauses
  | .jobThrows => s.jobThrows

/-! ## §3. The invariant. -/

def ofLane (lane : QueueLane) (jobs : List SimulationJob) : List SimulationJob :=
  jobs.filter (fun job => job.lane = lane)

theorem ofLane_append (lane : QueueLane) (jobs more : List SimulationJob) :
    ofLane lane (jobs ++ more) = ofLane lane jobs ++ ofLane lane more :=
  List.filter_append ..

theorem ofLane_singleton (lane : QueueLane) (job : SimulationJob) :
    ofLane lane [job] = if job.lane = lane then [job] else [] := by
  by_cases h : job.lane = lane
  · simp [ofLane, h]
  · simp [ofLane, h]

/-- **Lanes in order**: what was enqueued in a lane is what was started from
it, then what is in hand, then what waits. -/
def InOrder (s : DrainRuntime) (inHand : List SimulationJob) : Prop :=
  ∀ lane, ofLane lane s.enqueued
    = ofLane lane s.started ++ (ofLane lane inHand ++ s.queue.jobsByLane lane)

/-- **Flags backed by callbacks**: a set flag has its callback pending. -/
structure Flagged (s : DrainRuntime) : Prop where
  immediate : s.immediateDrainScheduled = true → .immediate ∈ s.callbacks
  background : s.drainScheduled = true → .background ∈ s.callbacks

def NotStuck (s : DrainRuntime) : Prop :=
  s.frame = none → s.queue.hasQueuedJobs = true → s.callbacks ≠ []

structure Scheduled (s : DrainRuntime) : Prop where
  inOrder : InOrder s []
  flagged : Flagged s
  drains : s.draining = s.frame.isSome
  notStuck : NotStuck s

variable {backgroundBatchSize : Nat} {s : DrainRuntime}

theorem InOrder.laned {inHand : List SimulationJob} (h : InOrder s inHand) : s.queue.Laned := by
  intro lane job hjob
  have hmem : job ∈ ofLane lane s.enqueued := by
    rw [h lane]
    exact List.mem_append_right _ (List.mem_append_right _ hjob)
  exact of_decide_eq_true (List.mem_filter.mp hmem).2

theorem InOrder.take {s : DrainRuntime} (h : InOrder s []) {next : SimulationJob}
    {queue : JobQueue} (hshift : s.queue.shiftNextJob = some (next, queue)) :
    InOrder { s with queue } [next] := by
  intro lane
  rw [h lane, JobQueue.shiftNextJob_lane h.laned hshift lane, ofLane_singleton]
  rfl

theorem InOrder.putBack {next : SimulationJob} (h : InOrder s [next]) :
    InOrder { s with queue := s.queue.unshift next } [] := by
  intro lane
  show ofLane lane s.enqueued = ofLane lane s.started
    ++ (ofLane lane [] ++ (s.queue.unshift next).jobsByLane lane)
  rw [h lane, JobQueue.jobsByLane_unshift, ofLane_singleton]
  rfl

theorem InOrder.run {next : SimulationJob} (h : InOrder s [next]) (frame : Option DrainFrame) :
    InOrder { s with frame, started := s.started ++ [next] } [] := by
  intro lane
  show ofLane lane s.enqueued = ofLane lane (s.started ++ [next]) ++ (ofLane lane []
    ++ s.queue.jobsByLane lane)
  rw [h lane, ofLane_append, List.append_assoc]
  rfl

/-! ## §4. Steps. -/

/-- Scheduling a drain: only flags and callbacks change, the flags stay
backed, and unless a drain runs a callback is pending afterwards. -/
theorem scheduleDrain_spec (s : DrainRuntime) (scheduling : JobScheduling) (hs : Flagged s) :
    Flagged (s.scheduleDrain scheduling)
      ∧ (s.scheduleDrain scheduling).queue = s.queue
      ∧ (s.scheduleDrain scheduling).enqueued = s.enqueued
      ∧ (s.scheduleDrain scheduling).started = s.started
      ∧ (s.scheduleDrain scheduling).draining = s.draining
      ∧ (s.scheduleDrain scheduling).frame = s.frame
      ∧ (s.draining = false → (s.scheduleDrain scheduling).callbacks ≠ []) := by
  unfold DrainRuntime.scheduleDrain
  cases hdraining : s.draining with
  | true => exact ⟨hs, rfl, rfl, rfl, hdraining, rfl, fun h => (by cases h)⟩
  | false =>
      rw [if_neg (by decide)]
      cases scheduling with
      | immediate =>
          dsimp only
          cases himm : s.immediateDrainScheduled with
          | true =>
              rw [if_pos rfl]
              exact ⟨hs, rfl, rfl, rfl, hdraining, rfl,
                fun _ => List.ne_nil_of_mem (hs.immediate himm)⟩
          | false =>
              rw [if_neg Bool.false_ne_true]
              refine ⟨⟨fun _ => by simp, fun h => ?_⟩, rfl, rfl, rfl, rfl, rfl, fun _ => by simp⟩
              exact List.mem_append_left _ (hs.background h)
      | background =>
          dsimp only
          cases hflags : s.drainScheduled || s.immediateDrainScheduled with
          | true =>
              rw [if_pos rfl]
              refine ⟨hs, rfl, rfl, rfl, hdraining, rfl, fun _ => ?_⟩
              rcases Bool.or_eq_true_iff.mp hflags with hbg | himm
              · exact List.ne_nil_of_mem (hs.background hbg)
              · exact List.ne_nil_of_mem (hs.immediate himm)
          | false =>
              rw [if_neg Bool.false_ne_true]
              refine ⟨⟨fun h => ?_, fun _ => by simp⟩, rfl, rfl, rfl, rfl, rfl, fun _ => by simp⟩
              exact List.mem_append_left _ (hs.immediate h)

/-- **A drain ends well**: in order and flagged before, scheduled after. -/
theorem scheduled_endDrain (horder : InOrder s []) (hflagged : Flagged s) (yielded : Bool) :
    Scheduled (s.endDrain yielded) := by
  have hidle : Flagged { s with draining := false, frame := none } :=
    ⟨hflagged.immediate, hflagged.background⟩
  unfold DrainRuntime.endDrain
  dsimp only
  cases hqueued : s.queue.hasQueuedJobs with
  | false =>
      rw [if_neg Bool.false_ne_true]
      refine ⟨horder, hidle, rfl, fun _ h => ?_⟩
      rw [hqueued] at h
      cases h
  | true =>
      rw [if_pos rfl]
      cases yielded with
      | true =>
          rw [if_pos rfl]
          refine ⟨horder, ⟨fun h => ?_, fun h => ?_⟩, rfl, fun _ _ => by simp⟩
          · exact List.mem_append_left _ (hflagged.immediate h)
          · exact List.mem_append_left _ (hflagged.background h)
      | false =>
          rw [if_neg Bool.false_ne_true]
          obtain ⟨hflags, hqueue, henqueued, hstarted, hdraining, hframe, hpending⟩ :=
            scheduleDrain_spec { s with draining := false, frame := none }
              s.queue.nextQueuedScheduling hidle
          refine ⟨fun lane => ?_, hflags, ?_, fun _ _ => hpending rfl⟩
          · show ofLane lane (DrainRuntime.scheduleDrain _ _).enqueued = _
            rw [henqueued]
            show _ = ofLane lane (DrainRuntime.scheduleDrain _ _).started
              ++ (_ ++ (DrainRuntime.scheduleDrain _ _).queue.jobsByLane lane)
            rw [hstarted, hqueue]
            exact horder lane
          · show (DrainRuntime.scheduleDrain _ _).draining = (DrainRuntime.scheduleDrain _ _).frame.isSome
            rw [hdraining, hframe]
            rfl

theorem scheduled_runOrYield {next : SimulationJob} (horder : InOrder s [next])
    (hflagged : Flagged s) (hdraining : s.draining = true) (pauses : Bool) (processed : Nat) :
    Scheduled (s.runOrYield backgroundBatchSize next pauses processed) := by
  unfold DrainRuntime.runOrYield
  split
  · exact scheduled_endDrain horder.putBack ⟨hflagged.immediate, hflagged.background⟩ true
  · exact ⟨horder.run _, ⟨hflagged.immediate, hflagged.background⟩, hdraining,
      fun h => (by cases h)⟩

theorem scheduled_drainQueues (horder : InOrder s []) (hflagged : Flagged s)
    (hdrains : s.draining = s.frame.isSome) (pauses : Bool) :
    Scheduled (s.drainQueues backgroundBatchSize pauses) := by
  unfold DrainRuntime.drainQueues
  cases hdraining : s.draining with
  | true =>
      -- the running drain takes what waits
      refine ⟨horder, hflagged, hdrains, fun h => ?_⟩
      rw [hdraining] at hdrains
      rw [if_pos rfl] at h
      rw [h] at hdrains
      cases hdrains
  | false =>
      rw [if_neg (by decide)]
      dsimp only
      have hopen : InOrder { s with draining := true } [] := horder
      cases hshift : s.queue.shiftNextJob with
      | none => exact scheduled_endDrain hopen ⟨hflagged.immediate, hflagged.background⟩ false
      | some taken =>
          obtain ⟨next, queue⟩ := taken
          exact scheduled_runOrYield (hopen.take hshift)
            ⟨hflagged.immediate, hflagged.background⟩ rfl pauses 0

theorem Scheduled.jobReturns (hs : Scheduled s) (pauses : Bool) :
    Scheduled (s.jobReturns backgroundBatchSize pauses) := by
  unfold DrainRuntime.jobReturns
  cases hframe : s.frame with
  | none => exact hs
  | some frame =>
      have hdraining : s.draining = true := by rw [hs.drains, hframe]; rfl
      dsimp only
      cases hshift : s.queue.shiftNextJob with
      | none => exact scheduled_endDrain hs.inOrder hs.flagged false
      | some taken =>
          obtain ⟨next, queue⟩ := taken
          have htaken := hs.inOrder.take hshift
          dsimp only
          split
          · exact scheduled_endDrain htaken.putBack ⟨hs.flagged.immediate, hs.flagged.background⟩
              true
          · exact scheduled_runOrYield htaken ⟨hs.flagged.immediate, hs.flagged.background⟩
              hdraining pauses _

theorem Scheduled.enqueueJob (hs : Scheduled s) (job : SimulationJob) :
    Scheduled (s.enqueueJob job) := by
  have hflagged : Flagged { s with
      queue := s.queue.enqueueJob job
      enqueued := s.enqueued ++ [job] } := ⟨hs.flagged.immediate, hs.flagged.background⟩
  obtain ⟨hflags, hqueue, henqueued, hstarted, hdraining, hframe, hpending⟩ :=
    scheduleDrain_spec _ job.scheduling hflagged
  unfold DrainRuntime.enqueueJob
  refine ⟨fun lane => ?_, hflags, ?_, fun hidle _ => hpending ?_⟩
  · rw [henqueued, hstarted, hqueue]
    show ofLane lane (s.enqueued ++ [job])
      = ofLane lane s.started ++ (ofLane lane [] ++ (s.queue.enqueueJob job).jobsByLane lane)
    rw [ofLane_append, ofLane_singleton, JobQueue.jobsByLane_enqueueJob, hs.inOrder lane]
    simp [ofLane]
  · rw [hdraining, hframe]
    exact hs.drains
  · rw [hframe] at hidle
    show s.draining = false
    rw [hs.drains]
    show s.frame.isSome = false
    rw [hidle]
    rfl

theorem mem_eraseIdx_of_ne {callbacks : List DrainCallback} {index : Nat}
    {callback fired : DrainCallback} (hmem : callback ∈ callbacks)
    (hfired : callbacks[index]? = some fired) (hne : callback ≠ fired) :
    callback ∈ callbacks.eraseIdx index := by
  rw [List.mem_eraseIdx_iff_getElem?]
  obtain ⟨i, hi⟩ := List.mem_iff_getElem?.mp hmem
  refine ⟨i, ?_, hi⟩
  rintro rfl
  rw [hfired] at hi
  exact hne (Option.some.inj hi).symm

theorem Scheduled.fire (hs : Scheduled s) (index : Nat) (pauses : Bool) :
    Scheduled (s.fire backgroundBatchSize index pauses) := by
  unfold DrainRuntime.fire
  cases hfired : s.callbacks[index]? with
  | none => exact hs
  | some callback =>
      dsimp only
      have hkeep : ∀ other, other ∈ s.callbacks → other ≠ callback →
          other ∈ s.callbacks.eraseIdx index :=
        fun other hmem hne => mem_eraseIdx_of_ne hmem hfired hne
      cases callback with
      | immediate =>
          have hflags : Flagged { s with
              callbacks := s.callbacks.eraseIdx index
              immediateDrainScheduled := false } :=
            ⟨fun h => (Bool.false_ne_true h).elim,
              fun h => hkeep _ (hs.flagged.background h) (by decide)⟩
          refine scheduled_drainQueues ?_ hflags hs.drains pauses
          exact hs.inOrder
      | background =>
          have hflags : Flagged { s with
              callbacks := s.callbacks.eraseIdx index
              drainScheduled := false } :=
            ⟨fun h => hkeep _ (hs.flagged.immediate h) (by decide),
              fun h => (Bool.false_ne_true h).elim⟩
          refine scheduled_drainQueues ?_ hflags hs.drains pauses
          exact hs.inOrder
      | yielded =>
          have hflags : Flagged { s with callbacks := s.callbacks.eraseIdx index } :=
            ⟨fun h => hkeep _ (hs.flagged.immediate h) (by decide),
              fun h => hkeep _ (hs.flagged.background h) (by decide)⟩
          refine scheduled_drainQueues ?_ hflags hs.drains pauses
          exact hs.inOrder

/-- **The step lemma.** -/
theorem Scheduled.step {backgroundBatchSize : Nat} {s : DrainRuntime} (hs : Scheduled s)
    (step : DrainStep) : Scheduled (drainStep backgroundBatchSize s step) := by
  cases step with
  | enqueue job => exact hs.enqueueJob job
  | fire index pauses => exact hs.fire index pauses
  | jobReturns pauses => exact hs.jobReturns pauses
  | jobThrows =>
      show Scheduled s.jobThrows
      unfold DrainRuntime.jobThrows
      cases s.frame with
      | none => exact hs
      | some frame => exact scheduled_endDrain hs.inOrder hs.flagged false

theorem scheduled_boot : Scheduled DrainRuntime.boot := by
  refine ⟨fun lane => ?_, ⟨fun h => (by cases h), fun h => (by cases h)⟩, rfl, fun _ h => ?_⟩
  · cases lane <;> rfl
  · cases h

/-! ## §5. What a step enqueues and starts. -/

/-- The job that a step enqueues. -/
def DrainStep.jobs : DrainStep → List SimulationJob
  | .enqueue job => [job]
  | _ => []

/-- Nothing is started, or one job, which then runs. -/
def StartsRunning (s s' : DrainRuntime) : Prop :=
  s'.started = s.started
    ∨ ∃ frame, s'.frame = some frame ∧ s'.started = s.started ++ [frame.running]

/-- A part of a drain: it enqueues nothing. -/
def Drains (s s' : DrainRuntime) : Prop := s'.enqueued = s.enqueued ∧ StartsRunning s s'

theorem drains_scheduleDrain (s : DrainRuntime) (scheduling : JobScheduling) :
    Drains s (s.scheduleDrain scheduling) := by
  unfold DrainRuntime.scheduleDrain
  split
  · exact ⟨rfl, Or.inl rfl⟩
  · split <;> split <;> exact ⟨rfl, Or.inl rfl⟩

theorem drains_endDrain (s : DrainRuntime) (yielded : Bool) : Drains s (s.endDrain yielded) := by
  unfold DrainRuntime.endDrain
  dsimp only
  split
  · split
    · exact ⟨rfl, Or.inl rfl⟩
    · exact drains_scheduleDrain _ _
  · exact ⟨rfl, Or.inl rfl⟩

theorem drains_runOrYield (s : DrainRuntime) (next : SimulationJob) (pauses : Bool)
    (processed : Nat) : Drains s (s.runOrYield backgroundBatchSize next pauses processed) := by
  unfold DrainRuntime.runOrYield
  split
  · exact drains_endDrain _ true
  · exact ⟨rfl, Or.inr ⟨_, rfl, rfl⟩⟩

theorem drains_drainQueues (s : DrainRuntime) (pauses : Bool) :
    Drains s (s.drainQueues backgroundBatchSize pauses) := by
  unfold DrainRuntime.drainQueues
  split
  · exact ⟨rfl, Or.inl rfl⟩
  dsimp only
  split
  · exact drains_endDrain _ false
  · exact drains_runOrYield _ _ pauses 0

theorem drains_jobReturns (s : DrainRuntime) (pauses : Bool) :
    Drains s (s.jobReturns backgroundBatchSize pauses) := by
  unfold DrainRuntime.jobReturns
  split
  · exact ⟨rfl, Or.inl rfl⟩
  dsimp only
  split
  · exact drains_endDrain _ false
  · split
    · exact drains_endDrain _ true
    · exact drains_runOrYield _ _ pauses _

/-- **What a step enqueues and starts**: the list of enqueued jobs grows by
the step's own, that of started ones by none or by the one that then runs. -/
theorem drainStep_spec (s : DrainRuntime) (step : DrainStep) :
    (drainStep backgroundBatchSize s step).enqueued = s.enqueued ++ step.jobs
      ∧ StartsRunning s (drainStep backgroundBatchSize s step) := by
  have hquiet : ∀ s', Drains s s' → s'.enqueued = s.enqueued ++ [] ∧ StartsRunning s s' :=
    fun s' h => ⟨h.1.trans (List.append_nil _).symm, h.2⟩
  cases step with
  | enqueue job => exact drains_scheduleDrain _ job.scheduling
  | fire index pauses =>
      refine hquiet _ ?_
      show Drains s (s.fire backgroundBatchSize index pauses)
      unfold DrainRuntime.fire
      split
      · exact ⟨rfl, Or.inl rfl⟩
      · dsimp only
        split <;> exact drains_drainQueues _ pauses
  | jobReturns pauses => exact hquiet _ (drains_jobReturns s pauses)
  | jobThrows =>
      refine hquiet _ ?_
      show Drains s s.jobThrows
      unfold DrainRuntime.jobThrows
      split
      · exact ⟨rfl, Or.inl rfl⟩
      · exact drains_endDrain _ false

/-! ## §6. Runs. -/

/-- **Every job runs at most once, in the order of its lane, none is lost,
and none is forgotten**: in every run of the scheduler the jobs of its
`enqueueJob` calls are, lane by lane, those that were started, each by the
step that then runs it, followed by those that still wait, and while a job
waits and no drain runs some callback is scheduled. -/
theorem drain_never_stuck (backgroundBatchSize : Nat) (steps : List DrainStep) :
    Run.Along (drainStep backgroundBatchSize)
        (fun s =>
          (∀ lane, ofLane lane s.enqueued = ofLane lane s.started ++ s.queue.jobsByLane lane)
            ∧ (s.frame = none → s.queue.hasQueuedJobs = true → s.callbacks ≠ [])
            ∧ ∀ step, StartsRunning s (drainStep backgroundBatchSize s step))
        DrainRuntime.boot steps
      ∧ (steps.foldl (drainStep backgroundBatchSize) DrainRuntime.boot).enqueued
        = steps.flatMap DrainStep.jobs := by
  have hrun : Run.Along (drainStep backgroundBatchSize) Scheduled DrainRuntime.boot steps :=
    Run.along_of_step (fun s step hs => hs.step step) steps _ scheduled_boot
  refine ⟨Run.Along.mono (fun s hs => ⟨fun lane => ?_, hs.notStuck,
    fun step => (drainStep_spec s step).2⟩) steps _ hrun,
    Run.log_foldl (fun s step => (drainStep_spec s step).1) steps _⟩
  rw [hs.inOrder lane]
  rfl

end BorderEmpires.Commands
