/-
  BorderEmpires.Commands.JobQueue
  **THE FOUR LANES AND THEIR DRAIN.**

  Jobs wait in four lanes.  A drain takes them by priority, lets one
  noninteractive job pass after five interactive ones, and yields when
  background work would hold up something else.  What a job does is known
  from outside only: an outcome holds the events it emits, and whether the
  planner asks for a pause before it.

  The flags that schedule drains are left out: a drain may start at any
  time.
-/
import BorderEmpires.Commands.ReplayCache

namespace BorderEmpires.Commands

open CommandType

/-! ## §1. Lanes. -/

inductive QueueLane where
  | human_interactive | human_noninteractive | system | ai
  deriving DecidableEq

def PRIORITY_ORDER : List QueueLane := [.human_interactive, .human_noninteractive, .system, .ai]

/-- `sessionId.startsWith(lead)`. -/
def sessionStartsWith (lead : String) (command : CommandEnvelope) : Bool :=
  lead.toList.isPrefixOf command.sessionId.toList

def laneForType : CommandType → QueueLane
  | ATTACK | EXPAND | SETTLE | BUILD_FORT | BUILD_OBSERVATORY | BUILD_SIEGE_BATTERY
  | SET_MUSTER | CLEAR_MUSTER | UPGRADE_MUSTER_CAP | BUILD_ECONOMIC_STRUCTURE
  | CANCEL_FORT_BUILD | CANCEL_STRUCTURE_BUILD | RUSH_BUY | CANCEL_SETTLE | REMOVE_STRUCTURE
  | CANCEL_SIEGE_BATTERY_BUILD | CANCEL_CAPTURE | UNCAPTURE_TILE | WITHDRAW_AND_REDEPLOY
  | SET_CONVERTER_STRUCTURE_ENABLED | SET_CONVERTER_STRUCTURE_MODE | SET_OBSERVATORY_ENABLED
  | REVEAL_EMPIRE | REVEAL_EMPIRE_STATS | SURVEY_SWEEP | AETHER_LANCE | AETHER_EMP
  | SUPPRESS_AETHER_TOWER | HIJACK_AETHER_TOWER | RECRUIT_ANCILLARIES | SHIP_SALVAGE_TO_COURT
  | FORCED_ANCILLARIFICATION | CAST_AETHER_BRIDGE | CAST_AETHER_WALL | SIPHON_TILE
  | PURGE_SIPHON | CANCEL_SIPHON | CREATE_MOUNTAIN | REMOVE_MOUNTAIN | RETORT_RECAST
  | BUILD_AFC | REDEPLOY_AFC_MODULE | SKY_DOCK_BOMBARD | IMPERIAL_EXCHANGE_LEVY | AEGIS_LOCK
  | ASTRAL_DOCK_LAUNCH | ACTIVATE_IMPERIAL_WARD | SOVEREIGN_SIEGE_ENGINE_STRIKE
  | TITANIUM_LEVY_MUSTER => .human_interactive
  | CHOOSE_TECH | CHOOSE_DOMAIN | SET_AUTO_SETTLE_PREFS | NAME_ISLAND | UPGRADE_TOWN_TIER
  | WATCH_MUSTER | UNWATCH_MUSTER | DEV_QUEUE_ENQUEUE | DEV_QUEUE_CANCEL
  | DEV_QUEUE_MOVE_TO_FRONT | WAYPOINT_ENQUEUE | WAYPOINT_CANCEL | WAYPOINT_CANCEL_ALL
  | CLAIM_CONTINUATION_SET => .human_noninteractive
  | SYNC_ALLIANCE | SYNC_TRUCE | SETTLE_DIPLOMACY_TERMS | CANCEL_RESOURCE_SUPPLY
  | CHECK_STRANDED_REGION => .system

def laneForCommand (command : CommandEnvelope) : QueueLane :=
  if sessionStartsWith "ai-runtime:" command then .ai
  else if sessionStartsWith "system-runtime:" command then .system
  else laneForType command.type

inductive JobScheduling where
  | immediate | background
  deriving DecidableEq

def commandScheduling (command : CommandEnvelope) : JobScheduling :=
  if usesPlayerCommandSequence command.type
      && (sessionStartsWith "ai-runtime:" command || sessionStartsWith "system-runtime:" command)
  then .background else .immediate

/-- A job runs the handler of a command, or is work of the service. -/
structure SimulationJob where
  lane : QueueLane
  scheduling : JobScheduling
  command : Option CommandEnvelope

def jobForCommand (command : CommandEnvelope) : SimulationJob :=
  ⟨laneForCommand command, commandScheduling command, some command⟩

structure JobQueue where
  human_interactive : List SimulationJob
  human_noninteractive : List SimulationJob
  system : List SimulationJob
  ai : List SimulationJob
  consecutiveInteractiveJobs : Nat

namespace JobQueue

variable (q : JobQueue)

def empty : JobQueue := ⟨[], [], [], [], 0⟩

def jobsByLane : QueueLane → List SimulationJob
  | .human_interactive => q.human_interactive
  | .human_noninteractive => q.human_noninteractive
  | .system => q.system
  | .ai => q.ai

def setLane (lane : QueueLane) (jobs : List SimulationJob) : JobQueue :=
  match lane with
  | .human_interactive => { q with human_interactive := jobs }
  | .human_noninteractive => { q with human_noninteractive := jobs }
  | .system => { q with system := jobs }
  | .ai => { q with ai := jobs }

def enqueueJob (job : SimulationJob) : JobQueue :=
  q.setLane job.lane (q.jobsByLane job.lane ++ [job])

/-- `jobsByLane[next.lane].unshift(next)`. -/
def unshift (next : SimulationJob) : JobQueue :=
  q.setLane next.lane (next :: q.jobsByLane next.lane)

/-! ## §2. The next job. -/

def FAIRNESS_INTERACTIVE_BURST : Nat := 5

def takeNoninteractiveForFairness : Option (SimulationJob × JobQueue) :=
  if q.consecutiveInteractiveJobs < FAIRNESS_INTERACTIVE_BURST then none
  else
    match q.human_noninteractive with
    | [] => none
    | next :: rest =>
        some (next, { q with human_noninteractive := rest, consecutiveInteractiveJobs := 0 })

/-- How taking a job from a lane moves the fairness counter. -/
def countInteractive (lane : QueueLane) (consecutive : Nat) : Nat :=
  match lane with
  | .human_interactive => consecutive + 1
  | .human_noninteractive => 0
  | .system | .ai => consecutive

/-- The first job of the first lane that holds one. -/
def shiftByPriority (q : JobQueue) : List QueueLane → Option (SimulationJob × JobQueue)
  | [] => none
  | lane :: lanes =>
      match q.jobsByLane lane with
      | [] => q.shiftByPriority lanes
      | next :: rest =>
          some (next, { q.setLane lane rest with
            consecutiveInteractiveJobs := countInteractive lane q.consecutiveInteractiveJobs })

def shiftNextJob : Option (SimulationJob × JobQueue) :=
  match q.takeNoninteractiveForFairness with
  | some taken => some taken
  | none => q.shiftByPriority PRIORITY_ORDER

def hasImmediateWork : Bool :=
  q.human_interactive.any (fun job => job.scheduling = .immediate)
    || q.human_noninteractive.any (fun job => job.scheduling = .immediate)

/-! ## §3. No job is lost or made up. -/

def waiting : List SimulationJob :=
  q.human_interactive ++ (q.human_noninteractive ++ (q.system ++ q.ai))

theorem waiting_setLane_cons (lane : QueueLane) {next : SimulationJob}
    {rest jobs : List SimulationJob} (hjobs : jobs.Perm (next :: rest)) :
    (q.setLane lane jobs).waiting.Perm (next :: (q.setLane lane rest).waiting) := by
  unfold waiting
  cases lane with
  | human_interactive => exact hjobs.append_right _
  | human_noninteractive =>
      show (q.human_interactive ++ (jobs ++ (q.system ++ q.ai))).Perm
        (next :: (q.human_interactive ++ (rest ++ (q.system ++ q.ai))))
      exact ((hjobs.append_right _).append_left _).trans List.perm_middle
  | system =>
      show (q.human_interactive ++ (q.human_noninteractive ++ (jobs ++ q.ai))).Perm
        (next :: (q.human_interactive ++ (q.human_noninteractive ++ (rest ++ q.ai))))
      refine (((hjobs.append_right _).append_left _).append_left _).trans ?_
      exact (List.perm_middle.append_left _).trans List.perm_middle
  | ai =>
      show (q.human_interactive ++ (q.human_noninteractive ++ (q.system ++ jobs))).Perm
        (next :: (q.human_interactive ++ (q.human_noninteractive ++ (q.system ++ rest))))
      refine (((hjobs.append_left _).append_left _).append_left _).trans ?_
      refine ((List.perm_middle.append_left _).append_left _).trans ?_
      exact (List.perm_middle.append_left _).trans List.perm_middle

theorem setLane_jobsByLane (lane : QueueLane) : q.setLane lane (q.jobsByLane lane) = q := by
  cases lane <;> rfl

theorem waiting_enqueueJob (job : SimulationJob) :
    (q.enqueueJob job).waiting.Perm (job :: q.waiting) := by
  have h := q.waiting_setLane_cons job.lane
    (List.perm_append_singleton job (q.jobsByLane job.lane))
  rw [setLane_jobsByLane] at h
  exact h

theorem waiting_unshift (next : SimulationJob) :
    (q.unshift next).waiting.Perm (next :: q.waiting) := by
  have h := q.waiting_setLane_cons next.lane (List.Perm.refl (next :: q.jobsByLane next.lane))
  rw [setLane_jobsByLane] at h
  exact h

theorem waiting_shiftByPriority {q q' : JobQueue} {next : SimulationJob} (lanes : List QueueLane)
    (h : q.shiftByPriority lanes = some (next, q')) : q.waiting.Perm (next :: q'.waiting) := by
  induction lanes with
  | nil => cases h
  | cons lane lanes ih =>
      unfold shiftByPriority at h
      split at h
      · exact ih h
      next rest hjobs =>
        obtain ⟨rfl, rfl⟩ := Prod.mk.inj (Option.some.inj h)
        have hlane := q.waiting_setLane_cons lane (List.Perm.of_eq hjobs)
        rw [setLane_jobsByLane] at hlane
        exact hlane

/-- **Taking the next job** takes one that waits and leaves the others. -/
theorem waiting_shiftNextJob {q q' : JobQueue} {next : SimulationJob}
    (h : q.shiftNextJob = some (next, q')) : q.waiting.Perm (next :: q'.waiting) := by
  unfold shiftNextJob at h
  split at h
  next taken hfair =>
    rw [Option.some.inj h] at hfair
    unfold takeNoninteractiveForFairness at hfair
    split at hfair
    · cases hfair
    split at hfair
    · cases hfair
    next rest hjobs =>
      obtain ⟨rfl, rfl⟩ := Prod.mk.inj (Option.some.inj hfair)
      exact q.waiting_setLane_cons .human_noninteractive (List.Perm.of_eq hjobs)
  · exact waiting_shiftByPriority PRIORITY_ORDER h

end JobQueue

end BorderEmpires.Commands
