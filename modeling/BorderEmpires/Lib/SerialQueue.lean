/-
  BorderEmpires.Lib.SerialQueue
  **JOBS HUNG ON ONE CHAIN OF PROMISES.**

  `drain = drain.then(job, job)`: a job starts when the one before it has
  settled, fulfilled or rejected.  A job is a machine that waits for one
  answer at a time and leaves by an exit; the exit says how its promise
  settles and whether the pending counter is released.
-/
import BorderEmpires.Lib.Run
import Mathlib.Algebra.Order.Ring.Nat
import Mathlib.Data.List.Range

universe u v w x

namespace SerialQueue

/-- How a promise settles. -/
inductive Outcome where
  | fulfilled
  | rejected
  deriving DecidableEq

/-- What a job does with an answer: wait for another one, or leave. -/
inductive Next (P : Type v) (X : Type w) where
  | goto (phase : P)
  | leave (exit : X)

structure Machine (J : Type u) (P : Type v) (R : Type x) (X : Type w) where
  first : J → P
  answer : J → P → R → Next P X
  outcome : X → Outcome
  releases : X → Bool

/-- What can be seen of the queue, by the number of the job. -/
inductive Entry (P : Type v) (X : Type w) where
  | started (number : ℕ)
  | entered (number : ℕ) (phase : P)
  | finished (number : ℕ) (exit : X)
  deriving DecidableEq

/-- The two handlers of a `then`, as job numbers. -/
structure Handlers where
  onFulfilled : ℕ
  onRejected : ℕ

def Handlers.run (handlers : Handlers) : Outcome → ℕ
  | .fulfilled => handlers.onFulfilled
  | .rejected => handlers.onRejected

structure State (J : Type u) (P : Type v) (X : Type w) where
  /-- All jobs enqueued so far, oldest first. -/
  jobs : List J
  running : Option (ℕ × P)
  waiting : List Handlers
  /-- How the end of the chain settled, when nothing runs. -/
  settled : Outcome
  pending : ℕ
  log : List (Entry P X)

inductive Input (J : Type u) (R : Type x) where
  | enqueue (job : J)
  | answer (reply : R)

variable {J : Type u} {P : Type v} {R : Type x} {X : Type w} (M : Machine J P R X)

def State.empty : State J P X := ⟨[], none, [], .fulfilled, 0, []⟩

def begun (s : State J P X) (number : ℕ) (job : J) : State J P X :=
  { s with
    running := some (number, M.first job)
    log := s.log ++ [.started number, .entered number (M.first job)] }

def begin (s : State J P X) (number : ℕ) : State J P X :=
  (s.jobs[number]?).elim s fun job => begun M s number job

/-- The job is on the list and counted. -/
def enlisted (s : State J P X) (job : J) : State J P X :=
  { s with
    jobs := s.jobs ++ [job]
    pending := s.pending + 1 }

/-- `drain.then(job, job)`: on a chain that has settled the handler is
called at once. -/
def enqueue (s : State J P X) (job : J) : State J P X :=
  let handlers : Handlers := ⟨s.jobs.length, s.jobs.length⟩
  if s.running.isSome = true then
    { enlisted s job with
      waiting := s.waiting ++ [handlers] }
  else begin M (enlisted s job) (handlers.run s.settled)

def settled (s : State J P X) (number : ℕ) (exit : X) : State J P X where
  jobs := s.jobs
  running := none
  waiting := s.waiting.tail
  settled := M.outcome exit
  pending := if M.releases exit = true then s.pending - 1 else s.pending
  log := s.log ++ [.finished number exit]

/-- The promise of the running job settles, and the next handler is called. -/
def settle (s : State J P X) (number : ℕ) (exit : X) : State J P X :=
  s.waiting.head?.elim (settled M s number exit) fun handlers =>
    begin M (settled M s number exit) (handlers.run (M.outcome exit))

/-- The job waits for another answer. -/
def goto (s : State J P X) (number : ℕ) (phase : P) : State J P X :=
  { s with
    running := some (number, phase)
    log := s.log ++ [.entered number phase] }

def react (s : State J P X) (number : ℕ) (job : J) (phase : P) (reply : R) : State J P X :=
  match M.answer job phase reply with
  | .goto phase' => goto s number phase'
  | .leave exit => settle M s number exit

def answer (s : State J P X) (reply : R) : State J P X :=
  s.running.elim s fun running =>
    (s.jobs[running.1]?).elim s fun job => react M s running.1 job running.2 reply

def step (s : State J P X) : Input J R → State J P X
  | .enqueue job => enqueue M s job
  | .answer reply => answer M s reply

/-! ## §1. The order of things. -/

def startOf : Entry P X → Option ℕ
  | .started number => some number
  | _ => none

def finishOf : Entry P X → Option ℕ
  | .finished number _ => some number
  | _ => none

def State.starts (s : State J P X) : List ℕ := s.log.filterMap startOf

def State.finishes (s : State J P X) : List ℕ := s.log.filterMap finishOf

/-- The handlers of the jobs from `first` to the last. -/
def handlersFrom (first count : ℕ) : List Handlers := (List.range' first count).map fun n => ⟨n, n⟩

/-- The number of jobs that have finished while `running` is what it is. -/
def State.done (s : State J P X) : ℕ := s.running.elim s.jobs.length Prod.fst

/-- **Order**: the finished jobs are the first ones, in order; so are the
started ones, with the running one added; the others wait, in order. -/
structure Orderly (s : State J P X) : Prop where
  finishes : s.finishes = List.range s.done
  starts : s.starts = List.range (s.done + if s.running.isSome = true then 1 else 0)
  done_lt : s.running.isSome = true → s.done < s.jobs.length
  waiting : s.waiting = handlersFrom (s.done + 1) (s.jobs.length - (s.done + 1))

variable {phase : P} {s : State J P X}

theorem done_of_running {number : ℕ} (hrun : s.running = some (number, phase)) :
    s.done = number := by
  rw [State.done, hrun, Option.elim_some]

theorem done_of_idle (hrun : s.running = none) : s.done = s.jobs.length := by
  rw [State.done, hrun, Option.elim_none]

@[simp] theorem Handlers.run_self (n : ℕ) (outcome : Outcome) :
    (⟨n, n⟩ : Handlers).run outcome = n := by
  cases outcome <;> rfl

theorem handlersFrom_succ (first count : ℕ) :
    handlersFrom first (count + 1) = handlersFrom first count ++ [⟨first + count, first + count⟩] := by
  unfold handlersFrom
  rw [List.range'_concat, List.map_append, Nat.one_mul]
  rfl

theorem handlersFrom_cons (first count : ℕ) :
    handlersFrom first (count + 1) = ⟨first, first⟩ :: handlersFrom (first + 1) count := rfl

theorem orderly_empty : Orderly (State.empty : State J P X) where
  finishes := rfl
  starts := rfl
  done_lt h := by cases h
  waiting := rfl

theorem Orderly.running_lt (hs : Orderly s) {number : ℕ} (hrun : s.running = some (number, phase)) :
    number < s.jobs.length := by
  have h := hs.done_lt (by rw [hrun]; rfl)
  rwa [State.done, hrun] at h

/-- **What an answer does**: nothing on an idle queue; else the running job
waits for another one, or it leaves. -/
theorem answer_cases (hs : Orderly s) (reply : R) :
    (s.running = none ∧ answer M s reply = s)
    ∨ ∃ number phase job, s.running = some (number, phase) ∧ s.jobs[number]? = some job
      ∧ ((∃ phase', M.answer job phase reply = .goto phase'
          ∧ answer M s reply = goto s number phase')
        ∨ ∃ exit, M.answer job phase reply = .leave exit
          ∧ answer M s reply = settle M s number exit) := by
  cases hrun : s.running with
  | none =>
      refine Or.inl ⟨rfl, ?_⟩
      unfold answer
      rw [hrun, Option.elim_none]
  | some running =>
      obtain ⟨number, phase⟩ := running
      have hlt := hs.running_lt hrun
      have hjob : s.jobs[number]? = some s.jobs[number] := List.getElem?_eq_getElem hlt
      refine Or.inr ⟨number, phase, s.jobs[number], rfl, hjob, ?_⟩
      have hreact : answer M s reply = react M s number s.jobs[number] phase reply := by
        unfold answer
        rw [hrun, Option.elim_some, hjob, Option.elim_some]
      rw [hreact]
      unfold react
      cases M.answer s.jobs[number] phase reply with
      | goto phase' => exact Or.inl ⟨phase', rfl, rfl⟩
      | leave exit => exact Or.inr ⟨exit, rfl, rfl⟩

/-! ## §2. Every step keeps the order. -/

/-- Between two jobs: the first `number` have finished, the next one is
about to start. -/
structure Paused (s : State J P X) (number : ℕ) : Prop where
  finishes : s.finishes = List.range number
  starts : s.starts = List.range number
  lt : number < s.jobs.length
  waiting : s.waiting = handlersFrom (number + 1) (s.jobs.length - (number + 1))

theorem begin_of_lt {number : ℕ} {job : J} (h : s.jobs[number]? = some job) :
    begin M s number = begun M s number job := by
  unfold begin
  rw [h, Option.elim_some]

theorem orderly_begin {number : ℕ} (h : Paused s number) : Orderly (begin M s number) := by
  rw [begin_of_lt M (List.getElem?_eq_getElem h.lt)]
  have hfinishes := h.finishes
  have hstarts := h.starts
  unfold State.finishes at hfinishes
  unfold State.starts at hstarts
  refine ⟨?_, ?_, fun _ => h.lt, h.waiting⟩
  · show (s.log ++ _).filterMap finishOf = List.range number
    rw [List.filterMap_append, hfinishes]
    exact List.append_nil _
  · show (s.log ++ _).filterMap startOf = List.range (number + 1)
    rw [List.filterMap_append, hstarts, List.range_succ]
    rfl

theorem orderly_goto (hs : Orderly s) {number : ℕ} (hrun : s.running = some (number, phase))
    (phase' : P) : Orderly (goto s number phase') := by
  have hdone := done_of_running hrun
  have hfinishes := hs.finishes
  have hstarts := hs.starts
  have hwaiting := hs.waiting
  rw [hdone] at hfinishes hwaiting
  rw [hdone, hrun] at hstarts
  refine ⟨?_, ?_, fun _ => hs.running_lt hrun, hwaiting⟩
  · show (s.log ++ _).filterMap finishOf = List.range number
    rw [List.filterMap_append]
    exact (List.append_nil _).trans hfinishes
  · show (s.log ++ _).filterMap startOf = List.range (number + 1)
    rw [List.filterMap_append]
    exact (List.append_nil _).trans hstarts

theorem paused_enlisted (hs : Orderly s) (hnone : s.running = none) (job : J) :
    Paused (enlisted s job) s.jobs.length := by
  have hdone := done_of_idle hnone
  have hfinishes := hs.finishes
  have hstarts := hs.starts
  have hwaiting := hs.waiting
  rw [hdone] at hfinishes hwaiting
  rw [hdone, hnone] at hstarts
  have hlen : (s.jobs ++ [job]).length = s.jobs.length + 1 := by simp
  refine ⟨hfinishes, hstarts, ?_, ?_⟩
  · show s.jobs.length < (s.jobs ++ [job]).length
    omega
  · show s.waiting = handlersFrom (s.jobs.length + 1)
      ((s.jobs ++ [job]).length - (s.jobs.length + 1))
    rw [hwaiting, hlen, Nat.sub_self, Nat.sub_eq_zero_of_le (Nat.le_succ _)]

theorem orderly_enqueue (hs : Orderly s) (job : J) : Orderly (enqueue M s job) := by
  have hwaiting := hs.waiting
  have hlen : (s.jobs ++ [job]).length = s.jobs.length + 1 := by simp
  unfold enqueue
  dsimp only
  by_cases hrun : s.running.isSome = true
  · rw [if_pos hrun]
    obtain ⟨running, hrunning⟩ := Option.isSome_iff_exists.mp hrun
    have hlt := hs.done_lt hrun
    have hdone : s.done = running.1 := done_of_running hrunning
    have hfinishes := hs.finishes
    have hstarts := hs.starts
    rw [hdone] at hlt hfinishes hwaiting
    rw [hdone, if_pos hrun] at hstarts
    refine ⟨?_, ?_, ?_, ?_⟩
    · show s.finishes = List.range (s.running.elim _ Prod.fst)
      rw [hrunning]
      exact hfinishes
    · show s.starts = List.range (s.running.elim _ Prod.fst + if s.running.isSome = true then 1 else 0)
      rw [if_pos hrun, hrunning]
      exact hstarts
    · intro _
      show s.running.elim _ Prod.fst < (s.jobs ++ [job]).length
      rw [hrunning, Option.elim_some, hlen]
      omega
    · show s.waiting ++ [_] = handlersFrom (s.running.elim _ Prod.fst + 1)
        ((s.jobs ++ [job]).length - (s.running.elim _ Prod.fst + 1))
      rw [hrunning, Option.elim_some, hlen,
        show s.jobs.length + 1 - (running.1 + 1) = s.jobs.length - (running.1 + 1) + 1 by omega,
        handlersFrom_succ, hwaiting,
        show running.1 + 1 + (s.jobs.length - (running.1 + 1)) = s.jobs.length by omega]
  · rw [if_neg hrun, Handlers.run_self]
    exact orderly_begin M (paused_enlisted hs (by simpa using hrun) job)

theorem finishes_settled (hs : Orderly s) {number : ℕ} (hrun : s.running = some (number, phase))
    (exit : X) :
    (settled M s number exit).finishes = List.range (number + 1)
      ∧ (settled M s number exit).starts = List.range (number + 1) := by
  have hdone := done_of_running hrun
  have hfinishes := hs.finishes
  have hstarts := hs.starts
  rw [hdone] at hfinishes
  rw [hdone, hrun] at hstarts
  constructor
  · show (s.log ++ [Entry.finished number exit]).filterMap finishOf = _
    rw [List.filterMap_append, List.range_succ]
    exact congrArg (fun l => l ++ [number]) hfinishes
  · show (s.log ++ [Entry.finished number exit]).filterMap startOf = _
    rw [List.filterMap_append]
    exact (List.append_nil _).trans hstarts

/-- **What a settled promise leads to**: the end of the chain, or the next
job in order. -/
theorem settle_cases (hs : Orderly s) {number : ℕ} (hrun : s.running = some (number, phase))
    (exit : X) :
    (s.jobs.length = number + 1 ∧ settle M s number exit = settled M s number exit)
    ∨ (number + 1 < s.jobs.length
      ∧ settle M s number exit = begin M (settled M s number exit) (number + 1)) := by
  have hwaiting := hs.waiting
  have hdone := done_of_running hrun
  have hlt := hs.running_lt hrun
  rw [hdone] at hwaiting
  unfold settle
  by_cases hlast : s.jobs.length = number + 1
  · rw [hlast, Nat.sub_self] at hwaiting
    exact Or.inl ⟨hlast, by rw [hwaiting]; rfl⟩
  · have hmore : s.jobs.length - (number + 1) = s.jobs.length - (number + 2) + 1 := by omega
    rw [hmore, handlersFrom_cons] at hwaiting
    refine Or.inr ⟨by omega, ?_⟩
    rw [hwaiting, List.head?_cons, Option.elim_some, Handlers.run_self]

theorem paused_settled (hs : Orderly s) {number : ℕ} (hrun : s.running = some (number, phase))
    (exit : X) (hmore : number + 1 < s.jobs.length) :
    Paused (settled M s number exit) (number + 1) := by
  obtain ⟨hfinishes, hstarts⟩ := finishes_settled M hs hrun exit
  have hwaiting := hs.waiting
  rw [done_of_running hrun] at hwaiting
  refine ⟨hfinishes, hstarts, hmore, ?_⟩
  show s.waiting.tail = handlersFrom (number + 2) (s.jobs.length - (number + 2))
  rw [hwaiting, show s.jobs.length - (number + 1) = s.jobs.length - (number + 2) + 1 by omega,
    handlersFrom_cons, List.tail_cons]

theorem orderly_settle (hs : Orderly s) {number : ℕ} (hrun : s.running = some (number, phase))
    (exit : X) : Orderly (settle M s number exit) := by
  obtain ⟨hfinishes, hstarts⟩ := finishes_settled M hs hrun exit
  have hwaiting := hs.waiting
  have hdone := done_of_running hrun
  rw [hdone] at hwaiting
  rcases settle_cases M hs hrun exit with ⟨hlast, heq⟩ | ⟨hmore, heq⟩
  · rw [heq]
    rw [hlast, Nat.sub_self] at hwaiting
    refine ⟨?_, ?_, fun h => (by cases h), ?_⟩
    · rw [hfinishes]
      show _ = List.range s.jobs.length
      rw [hlast]
    · rw [hstarts]
      show _ = List.range s.jobs.length
      rw [hlast]
    · show s.waiting.tail = handlersFrom (s.jobs.length + 1) (s.jobs.length - (s.jobs.length + 1))
      rw [hwaiting, Nat.sub_eq_zero_of_le (Nat.le_succ _)]
      rfl
  · rw [heq]
    exact orderly_begin M (paused_settled M hs hrun exit hmore)

/-- **Every step keeps the order.** -/
theorem orderly_step (hs : Orderly s) (input : Input J R) : Orderly (step M s input) := by
  cases input with
  | enqueue job => exact orderly_enqueue M hs job
  | answer reply =>
      show Orderly (answer M s reply)
      rcases answer_cases M hs reply with
        ⟨-, heq⟩ | ⟨number, phase, job, hrun, -, ⟨phase', -, heq⟩ | ⟨exit, -, heq⟩⟩
      · rw [heq]
        exact hs
      · rw [heq]
        exact orderly_goto hs hrun phase'
      · rw [heq]
        exact orderly_settle M hs hrun exit

/-! ## §3. The pending counter. -/

def Counted (s : State J P X) : Prop := s.pending = s.jobs.length - s.done

def LeavesBy (Bad : J → X → Prop) (s : State J P X) : Input J R → Prop
  | .enqueue _ => False
  | .answer reply => ∃ number phase job exit, s.running = some (number, phase)
      ∧ s.jobs[number]? = some job ∧ M.answer job phase reply = .leave exit ∧ Bad job exit

section LeavesBy

variable {Bad : J → X → Prop} {s : State J P X} {number : ℕ} {phase : P} {job : J} {reply : R}

theorem not_leavesBy_idle (hnone : s.running = none) : ¬ LeavesBy M Bad s (.answer reply) := by
  rintro ⟨number, phase, job, exit, hrun, -⟩
  rw [hnone] at hrun
  cases hrun

theorem not_leavesBy_goto (hrun : s.running = some (number, phase))
    (hjob : s.jobs[number]? = some job) {phase' : P}
    (hans : M.answer job phase reply = .goto phase') : ¬ LeavesBy M Bad s (.answer reply) := by
  rintro ⟨number', phase'', job', exit, hrun', hjob', hans', -⟩
  rw [hrun] at hrun'
  cases hrun'
  rw [hjob] at hjob'
  cases hjob'
  rw [hans] at hans'
  cases hans'

theorem leavesBy_iff (hrun : s.running = some (number, phase))
    (hjob : s.jobs[number]? = some job) {exit : X}
    (hans : M.answer job phase reply = .leave exit) :
    LeavesBy M Bad s (.answer reply) ↔ Bad job exit := by
  constructor
  · rintro ⟨number', phase', job', exit', hrun', hjob', hans', hbad⟩
    rw [hrun] at hrun'
    cases hrun'
    rw [hjob] at hjob'
    cases hjob'
    rw [hans] at hans'
    cases hans'
    exact hbad
  · intro hbad
    exact ⟨number, phase, job, exit, hrun, hjob, hans, hbad⟩

end LeavesBy

theorem done_settle (hs : Orderly s) {number : ℕ} (hrun : s.running = some (number, phase))
    (exit : X) :
    (settle M s number exit).done = number + 1 ∧ (settle M s number exit).jobs = s.jobs
      ∧ (settle M s number exit).pending
          = if M.releases exit = true then s.pending - 1 else s.pending := by
  rcases settle_cases M hs hrun exit with ⟨hlast, heq⟩ | ⟨hmore, heq⟩
  · rw [heq]
    exact ⟨hlast, rfl, rfl⟩
  · have hjob : (settled M s number exit).jobs[number + 1]? = some s.jobs[number + 1] :=
      List.getElem?_eq_getElem hmore
    rw [heq, begin_of_lt M hjob]
    exact ⟨rfl, rfl, rfl⟩

theorem done_enqueue (s : State J P X) (job : J) :
    (enqueue M s job).done = s.done ∧ (enqueue M s job).jobs = s.jobs ++ [job]
      ∧ (enqueue M s job).pending = s.pending + 1 := by
  unfold enqueue
  dsimp only
  by_cases hrun : s.running.isSome = true
  · rw [if_pos hrun]
    obtain ⟨running, hrunning⟩ := Option.isSome_iff_exists.mp hrun
    refine ⟨?_, rfl, rfl⟩
    show s.running.elim _ Prod.fst = s.running.elim _ Prod.fst
    rw [hrunning]
    rfl
  · rw [if_neg hrun, Handlers.run_self]
    have hnone : s.running = none := by simpa using hrun
    have hjob : (enlisted s job).jobs[s.jobs.length]? = some job := by
      show (s.jobs ++ [job])[s.jobs.length]? = some job
      simp
    rw [begin_of_lt M hjob]
    refine ⟨?_, rfl, rfl⟩
    show s.jobs.length = s.running.elim _ Prod.fst
    rw [hnone]
    rfl

theorem Orderly.done_le (hs : Orderly s) : s.done ≤ s.jobs.length := by
  by_cases hrun : s.running.isSome = true
  · exact Nat.le_of_lt (hs.done_lt hrun)
  · have hnone : s.running = none := by simpa using hrun
    rw [State.done, hnone, Option.elim_none]

/-- **The counter stays right** exactly while no job leaves without
releasing it. -/
theorem counted_step_iff (hs : Orderly s) (hc : Counted s) (input : Input J R) :
    Counted (step M s input) ↔ ¬ LeavesBy M (fun _ exit => M.releases exit = false) s input := by
  unfold Counted at hc ⊢
  cases input with
  | enqueue job =>
      obtain ⟨hdone, hjobs, hpending⟩ := done_enqueue M s job
      have hle := hs.done_le
      show (enqueue M s job).pending = (enqueue M s job).jobs.length - (enqueue M s job).done ↔ _
      rw [hdone, hjobs, hpending, List.length_append, List.length_singleton]
      exact ⟨fun _ h => h, fun _ => by omega⟩
  | answer reply =>
      show (answer M s reply).pending = (answer M s reply).jobs.length - (answer M s reply).done ↔ _
      rcases answer_cases M hs reply with
        ⟨hnone, heq⟩ | ⟨number, phase, job, hrun, hjob, ⟨phase', hans, heq⟩ | ⟨exit, hans, heq⟩⟩
      · rw [heq]
        exact ⟨fun _ => not_leavesBy_idle M hnone, fun _ => hc⟩
      · rw [heq]
        rw [done_of_running hrun] at hc
        exact ⟨fun _ => not_leavesBy_goto M hrun hjob hans, fun _ => hc⟩
      · obtain ⟨hdone, hjobs, hpending⟩ := done_settle M hs hrun exit
        have hlt := hs.running_lt hrun
        rw [done_of_running hrun] at hc
        rw [heq, leavesBy_iff M hrun hjob hans, hdone, hjobs, hpending]
        cases M.releases exit with
        | false =>
            simp only [Bool.false_eq_true, if_false, not_true, iff_false]
            omega
        | true =>
            simp only [if_true, Bool.true_eq_false, not_false_eq_true, iff_true]
            omega

/-! ## §4. Every job gets done. -/

section Work

variable (weight : J → P → ℕ)

/-- The answers that are needed at most. -/
def work (s : State J P X) : ℕ :=
  (s.running.elim 0 fun running => (s.jobs[running.1]?).elim 0 fun job => weight job running.2)
    + ((s.jobs.drop (s.done + 1)).map fun job => weight job (M.first job)).sum

/-- Each answer brings a job nearer to its exit. -/
structure Wearing : Prop where
  pos : ∀ job phase, 0 < weight job phase
  lt : ∀ job phase reply phase', M.answer job phase reply = .goto phase' →
    weight job phase' < weight job phase

variable {weight}

theorem work_answer_lt (hw : Wearing M weight) {s : State J P X} (hs : Orderly s)
    (hrun : s.running.isSome = true) (reply : R) :
    work M weight (answer M s reply) < work M weight s := by
  rcases answer_cases M hs reply with
    ⟨hnone, -⟩ | ⟨number, phase, job, hrun, hjob, hcases⟩
  · rw [hnone] at hrun
    cases hrun
  · have hdone := done_of_running hrun
    have hwork : work M weight s = weight job phase
        + ((s.jobs.drop (number + 1)).map fun job => weight job (M.first job)).sum := by
      unfold work
      rw [hdone, hrun, Option.elim_some, hjob, Option.elim_some]
    rw [hwork]
    rcases hcases with ⟨phase', hans, heq⟩ | ⟨exit, -, heq⟩
    · have hlt := hw.lt job phase reply phase' hans
      have hnext : work M weight (goto s number phase') = weight job phase'
          + ((s.jobs.drop (number + 1)).map fun job => weight job (M.first job)).sum := by
        show ((s.jobs[number]?).elim 0 fun job => weight job phase') + _ = _
        rw [hjob, Option.elim_some]
        rfl
      rw [heq, hnext]
      omega
    · have hpos := hw.pos job phase
      rw [heq]
      rcases settle_cases M hs hrun exit with ⟨hlast, heq'⟩ | ⟨hmore, heq'⟩
      · have hnext : work M weight (settled M s number exit) = 0 := by
          show 0 + ((s.jobs.drop (s.jobs.length + 1)).map fun job => weight job (M.first job)).sum
            = 0
          rw [List.drop_eq_nil_of_le (Nat.le_succ _)]
          rfl
        rw [heq', hnext]
        omega
      · have hjob' : (settled M s number exit).jobs[number + 1]? = some s.jobs[number + 1] :=
          List.getElem?_eq_getElem hmore
        have hnext : work M weight (begin M (settled M s number exit) (number + 1))
            = ((s.jobs.drop (number + 1)).map fun job => weight job (M.first job)).sum := by
          rw [begin_of_lt M hjob', List.drop_eq_getElem_cons hmore, List.map_cons, List.sum_cons]
          show ((s.jobs[number + 1]?).elim 0 fun job => weight job (M.first s.jobs[number + 1]))
            + _ = _
          rw [List.getElem?_eq_getElem hmore, Option.elim_some]
          rfl
        rw [heq', hnext]
        omega

/-- **Enough answers finish every job**, whatever they are. -/
theorem idle_after (hw : Wearing M weight) (replies : List R) :
    ∀ s : State J P X, Orderly s → work M weight s ≤ replies.length →
      (replies.foldl (answer M) s).running = none := by
  induction replies with
  | nil =>
      intro s hs hle
      cases hrun : s.running with
      | none => exact hrun
      | some running =>
          have hlt : running.1 < s.jobs.length := hs.running_lt hrun
          have hjob := List.getElem?_eq_getElem hlt
          have hpos := hw.pos s.jobs[running.1] running.2
          unfold work at hle
          rw [hrun, Option.elim_some, hjob, Option.elim_some, List.length_nil] at hle
          omega
  | cons reply replies ih =>
      intro s hs hle
      rw [List.foldl_cons]
      apply ih _ (orderly_step M hs (.answer reply))
      by_cases hrun : s.running.isSome = true
      · have hlt := work_answer_lt M hw hs hrun reply
        rw [List.length_cons] at hle
        show work M weight (answer M s reply) ≤ _
        omega
      · have hnone : s.running = none := by simpa using hrun
        have hzero : work M weight s = 0 := by
          have hdone := done_of_idle hnone
          unfold work
          rw [hdone, hnone, List.drop_eq_nil_of_le (Nat.le_succ _)]
          rfl
        have hsame : step M s (.answer reply) = s := by
          show answer M s reply = s
          unfold answer
          rw [hnone, Option.elim_none]
        rw [hsame, hzero]
        exact Nat.zero_le _

end Work

/-! ## §5. What each job went through. -/

def phaseOf (number : ℕ) : Entry P X → Option P
  | .entered n phase => if n = number then some phase else none
  | _ => none

def State.phasesOf (s : State J P X) (number : ℕ) : List P := s.log.filterMap (phaseOf number)

/-- A way through a job: the phases entered, the last one by itself. -/
inductive Path (job : J) : List P → P → Prop
  | first : Path job [M.first job] (M.first job)
  | next {phases : List P} {phase phase' : P} {reply : R} : Path job phases phase →
      M.answer job phase reply = .goto phase' → Path job (phases ++ [phase']) phase'

/-- **The log tells the truth**: the running job came to its phase by what
it entered, every finished one to its exit, and nothing else was entered. -/
structure Traced (s : State J P X) : Prop where
  running : ∀ number phase job, s.running = some (number, phase) → s.jobs[number]? = some job →
    Path M job (s.phasesOf number) phase
  finished : ∀ number exit job, Entry.finished number exit ∈ s.log →
    s.jobs[number]? = some job →
    ∃ phase reply, Path M job (s.phasesOf number) phase ∧ M.answer job phase reply = .leave exit
  later : ∀ number, number ∉ s.starts → s.phasesOf number = []

theorem traced_empty : Traced M (State.empty : State J P X) where
  running _ _ _ h := by cases h
  finished _ _ _ h := by cases h
  later _ _ := rfl

theorem mem_finishes {number : ℕ} {exit : X} (h : Entry.finished number exit ∈ s.log) :
    number ∈ s.finishes :=
  List.mem_filterMap.mpr ⟨_, h, rfl⟩

theorem phasesOf_append {s t : State J P X} {entries : List (Entry P X)}
    (h : t.log = s.log ++ entries) (number : ℕ) :
    t.phasesOf number = s.phasesOf number ++ entries.filterMap (phaseOf number) := by
  unfold State.phasesOf
  rw [h, List.filterMap_append]

theorem starts_append {s t : State J P X} {entries : List (Entry P X)}
    (h : t.log = s.log ++ entries) : t.starts = s.starts ++ entries.filterMap startOf := by
  unfold State.starts
  rw [h, List.filterMap_append]

theorem traced_begin {number : ℕ} (hp : Paused s number) (ht : Traced M s) :
    Traced M (begin M s number) := by
  have hlt := hp.lt
  have hjob : s.jobs[number]? = some s.jobs[number] := List.getElem?_eq_getElem hlt
  have hfresh : number ∉ s.starts := by
    rw [hp.starts]
    simp
  rw [begin_of_lt M hjob]
  have hphases := @phasesOf_append _ _ _ s (begun M s number s.jobs[number]) _ rfl
  have hstarts := @starts_append _ _ _ s (begun M s number s.jobs[number]) _ rfl
  refine ⟨?_, ?_, ?_⟩
  · rintro number' phase job hrun hjob'
    cases hrun
    rw [show (begun M s number s.jobs[number]).jobs = s.jobs from rfl, hjob] at hjob'
    cases hjob'
    rw [hphases, ht.later number hfresh]
    simp only [List.nil_append, List.filterMap_cons, phaseOf, if_true, List.filterMap_nil]
    exact Path.first
  · intro number' exit job hmem hjob'
    have hold : Entry.finished number' exit ∈ s.log := by
      rcases List.mem_append.mp hmem with hmem | hmem
      · exact hmem
      · simp at hmem
    obtain ⟨phase, reply, hpath, hleave⟩ := ht.finished number' exit job hold hjob'
    have hne : number ≠ number' := by
      rintro rfl
      have hin := mem_finishes hold
      rw [hp.finishes] at hin
      simp at hin
    refine ⟨phase, reply, ?_, hleave⟩
    rw [hphases]
    simp only [List.filterMap_cons, phaseOf, if_neg hne, List.filterMap_nil, List.append_nil]
    exact hpath
  · intro number' hnot
    rw [hstarts] at hnot
    simp only [List.filterMap_cons, startOf, List.filterMap_nil, List.mem_append,
      List.mem_singleton, not_or] at hnot
    have hne : number ≠ number' := fun h => hnot.2 h.symm
    rw [hphases, ht.later number' hnot.1]
    simp only [List.nil_append, List.filterMap_cons, phaseOf, if_neg hne, List.filterMap_nil]

theorem traced_goto (hs : Orderly s) (ht : Traced M s) {number : ℕ} {job : J}
    (hrun : s.running = some (number, phase)) (hjob : s.jobs[number]? = some job) {reply : R}
    {phase' : P} (hans : M.answer job phase reply = .goto phase') :
    Traced M (goto s number phase') := by
  have hphases := @phasesOf_append _ _ _ s (goto s number phase') _ rfl
  have hstarts := @starts_append _ _ _ s (goto s number phase') _ rfl
  refine ⟨?_, ?_, ?_⟩
  · rintro number' phase'' job' hrun' hjob'
    cases hrun'
    rw [show (goto s number phase').jobs = s.jobs from rfl, hjob] at hjob'
    cases hjob'
    rw [hphases]
    simp only [List.filterMap_cons, phaseOf, if_true, List.filterMap_nil]
    exact Path.next (ht.running number phase job hrun hjob) hans
  · intro number' exit job' hmem hjob'
    have hold : Entry.finished number' exit ∈ s.log := by
      rcases List.mem_append.mp hmem with hmem | hmem
      · exact hmem
      · simp at hmem
    obtain ⟨phase'', reply', hpath, hleave⟩ := ht.finished number' exit job' hold hjob'
    have hne : number ≠ number' := by
      rintro rfl
      have hin := mem_finishes hold
      rw [hs.finishes, done_of_running hrun] at hin
      simp at hin
    refine ⟨phase'', reply', ?_, hleave⟩
    rw [hphases]
    simp only [List.filterMap_cons, phaseOf, if_neg hne, List.filterMap_nil, List.append_nil]
    exact hpath
  · intro number' hnot
    rw [hstarts] at hnot
    simp only [List.filterMap_cons, startOf, List.filterMap_nil, List.append_nil] at hnot
    have hne : number ≠ number' := by
      rintro rfl
      apply hnot
      rw [hs.starts, done_of_running hrun, hrun]
      simp
    rw [hphases, ht.later number' hnot]
    simp only [List.nil_append, List.filterMap_cons, phaseOf, if_neg hne, List.filterMap_nil]

theorem traced_settled (ht : Traced M s) {number : ℕ} {job : J}
    (hrun : s.running = some (number, phase)) (hjob : s.jobs[number]? = some job) {reply : R}
    {exit : X} (hans : M.answer job phase reply = .leave exit) :
    Traced M (settled M s number exit) := by
  have hphases : ∀ n, (settled M s number exit).phasesOf n = s.phasesOf n := by
    intro n
    rw [@phasesOf_append _ _ _ s (settled M s number exit) _ rfl]
    exact List.append_nil _
  have hstarts : (settled M s number exit).starts = s.starts := by
    rw [@starts_append _ _ _ s (settled M s number exit) _ rfl]
    exact List.append_nil _
  refine ⟨fun _ _ _ h => (by cases h), ?_, ?_⟩
  · intro number' exit' job' hmem hjob'
    rw [hphases]
    rcases List.mem_append.mp hmem with hmem | hmem
    · exact ht.finished number' exit' job' hmem hjob'
    · simp only [List.mem_singleton, Entry.finished.injEq] at hmem
      obtain ⟨rfl, rfl⟩ := hmem
      rw [show (settled M s number' exit').jobs = s.jobs from rfl, hjob] at hjob'
      cases hjob'
      exact ⟨phase, reply, ht.running number' phase job hrun hjob, hans⟩
  · intro number' hnot
    rw [hstarts] at hnot
    rw [hphases]
    exact ht.later number' hnot

theorem traced_enlisted {s t : State J P X} (hs : Orderly s) (ht : Traced M s) {job : J}
    (hjobs : t.jobs = s.jobs ++ [job]) (hlog : t.log = s.log) (hrun : t.running = s.running) :
    Traced M t := by
  have hphases : ∀ n, t.phasesOf n = s.phasesOf n := by
    intro n
    unfold State.phasesOf
    rw [hlog]
  have hstarts : t.starts = s.starts := by
    unfold State.starts
    rw [hlog]
  have hold : ∀ number job', number < s.jobs.length → t.jobs[number]? = some job' →
      s.jobs[number]? = some job' := by
    intro number job' hlt hjob
    rwa [hjobs, List.getElem?_append_left hlt] at hjob
  refine ⟨?_, ?_, ?_⟩
  · intro number phase job' hrunning hjob
    rw [hrun] at hrunning
    rw [hphases]
    exact ht.running number phase job' hrunning (hold number job' (hs.running_lt hrunning) hjob)
  · intro number exit job' hmem hjob
    rw [hlog] at hmem
    rw [hphases]
    have hin := mem_finishes hmem
    rw [hs.finishes, List.mem_range] at hin
    exact ht.finished number exit job' hmem
      (hold number job' (Nat.lt_of_lt_of_le hin hs.done_le) hjob)
  · intro number hnot
    rw [hstarts] at hnot
    rw [hphases]
    exact ht.later number hnot

/-- **Every step keeps the log true.** -/
theorem traced_step (hs : Orderly s) (ht : Traced M s) (input : Input J R) :
    Traced M (step M s input) := by
  cases input with
  | enqueue job =>
      show Traced M (enqueue M s job)
      unfold enqueue
      dsimp only
      by_cases hrun : s.running.isSome = true
      · rw [if_pos hrun]
        exact traced_enlisted M hs ht rfl rfl rfl
      · rw [if_neg hrun, Handlers.run_self]
        have hpaused := paused_enlisted hs (by simpa using hrun) job
        exact traced_begin M hpaused (traced_enlisted M hs ht rfl rfl rfl)
  | answer reply =>
      show Traced M (answer M s reply)
      rcases answer_cases M hs reply with
        ⟨-, heq⟩ | ⟨number, phase, job, hrun, hjob, ⟨phase', hans, heq⟩ | ⟨exit, hans, heq⟩⟩
      · rw [heq]
        exact ht
      · rw [heq]
        exact traced_goto M hs ht hrun hjob hans
      · rw [heq]
        have hsettled := traced_settled M ht hrun hjob hans
        rcases settle_cases M hs hrun exit with ⟨-, heq'⟩ | ⟨hmore, heq'⟩
        · rw [heq']
          exact hsettled
        · rw [heq']
          exact traced_begin M (paused_settled M hs hrun exit hmore) hsettled

/-! ## §6. What holds of every exit. -/

def Exits (Good : J → X → Prop) (s : State J P X) : Prop :=
  ∀ number exit job, Entry.finished number exit ∈ s.log → s.jobs[number]? = some job → Good job exit

theorem finished_settle (hs : Orderly s) {number : ℕ} (hrun : s.running = some (number, phase))
    (exit : X) {number' : ℕ} {exit' : X} :
    Entry.finished number' exit' ∈ (settle M s number exit).log
      ↔ Entry.finished number' exit' ∈ s.log ∨ (number' = number ∧ exit' = exit) := by
  have hsettled : Entry.finished number' exit' ∈ (settled M s number exit).log
      ↔ Entry.finished number' exit' ∈ s.log ∨ (number' = number ∧ exit' = exit) := by
    show _ ∈ s.log ++ [Entry.finished number exit] ↔ _
    simp
  rcases settle_cases M hs hrun exit with ⟨-, heq⟩ | ⟨hmore, heq⟩
  · rw [heq]
    exact hsettled
  · have hjob : (settled M s number exit).jobs[number + 1]? = some s.jobs[number + 1] :=
      List.getElem?_eq_getElem hmore
    rw [heq, begin_of_lt M hjob, ← hsettled]
    show _ ∈ (settled M s number exit).log ++ [_, _] ↔ _
    simp

theorem finished_enqueue (s : State J P X) (job : J) {number : ℕ} {exit : X} :
    Entry.finished number exit ∈ (enqueue M s job).log ↔ Entry.finished number exit ∈ s.log := by
  unfold enqueue
  dsimp only
  split
  · exact Iff.rfl
  rw [Handlers.run_self]
  have hjob : (enlisted s job).jobs[s.jobs.length]? = some job := by
    show (s.jobs ++ [job])[s.jobs.length]? = some job
    simp
  rw [begin_of_lt M hjob]
  show _ ∈ s.log ++ [_, _] ↔ _
  simp

/-- **All exits stay good** exactly while no job leaves by a bad one. -/
theorem exits_step_iff {Good : J → X → Prop} (hs : Orderly s) (hg : Exits Good s)
    (input : Input J R) :
    Exits Good (step M s input) ↔ ¬ LeavesBy M (fun job exit => ¬ Good job exit) s input := by
  cases input with
  | enqueue job =>
      refine ⟨fun _ h => h, fun _ => ?_⟩
      obtain ⟨-, hjobs, -⟩ := done_enqueue M s job
      intro number exit job' hmem hjob
      have hold := (finished_enqueue M s job).mp hmem
      have hin := mem_finishes hold
      rw [hs.finishes, List.mem_range] at hin
      have hlt := Nat.lt_of_lt_of_le hin hs.done_le
      rw [show (step M s (.enqueue job)).jobs = s.jobs ++ [job] from hjobs,
        List.getElem?_append_left hlt] at hjob
      exact hg number exit job' hold hjob
  | answer reply =>
      show Exits Good (answer M s reply) ↔ _
      rcases answer_cases M hs reply with
        ⟨hnone, heq⟩ | ⟨number, phase, job, hrun, hjob, ⟨phase', hans, heq⟩ | ⟨exit, hans, heq⟩⟩
      · rw [heq]
        exact ⟨fun _ => not_leavesBy_idle M hnone, fun _ => hg⟩
      · rw [heq]
        refine ⟨fun _ => not_leavesBy_goto M hrun hjob hans, ?_⟩
        intro _ number' exit job' hmem hjob'
        have hold : Entry.finished number' exit ∈ s.log := by
          rcases List.mem_append.mp hmem with hmem | hmem
          · exact hmem
          · simp at hmem
        exact hg number' exit job' hold hjob'
      · obtain ⟨-, hjobs, -⟩ := done_settle M hs hrun exit
        rw [heq, leavesBy_iff M hrun hjob hans, not_not]
        constructor
        · intro hgood
          apply hgood number exit job
          · exact (finished_settle M hs hrun exit).mpr (Or.inr ⟨rfl, rfl⟩)
          · rw [hjobs]
            exact hjob
        · intro hexit number' exit' job' hmem hjob'
          rw [hjobs] at hjob'
          rcases (finished_settle M hs hrun exit).mp hmem with hold | ⟨rfl, rfl⟩
          · exact hg number' exit' job' hold hjob'
          · rw [hjob] at hjob'
            cases hjob'
            exact hexit

end SerialQueue
