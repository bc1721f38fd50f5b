/-
  BorderEmpires.Waypoints.Drain
  **THE OFFLINE REPLAY OF A WAYPOINT QUEUE.**

  While its player is away, the simulation walks the client's route: each
  call takes the entries off the head of the queue, skips what is already
  owned, dispatches at most one live leg and puts back what it set aside.
-/
import Mathlib.Data.List.ReduceOption
import BorderEmpires.Combat.FrontierCommand

namespace BorderEmpires.WaypointDrain

open Combat (DomainTileState FrontierCommandType isCommitOddsEligibleTarget isBarbarianFaction)

/-! ## §1. Entries and commands. -/

def DEV_QUEUE_SERVER_CAP : Nat := 20

section Records

-- `P` is a position as the wire names it: compared, and looked up on the map.
variable (P : Type)

structure WaypointWireStep where
  origin : P
  target : P
  action : FrontierCommandType
  deriving DecidableEq

/-- An entry with `steps` is a client plan, one without is legacy. -/
structure ServerWaypointQueueEntry where
  target : P
  trackBarbarian : Bool
  queuedAt : Int
  planId : Option String
  plannedAt : Option Int
  steps : Option (List (WaypointWireStep P))
  cursor : Option Nat
  stalled : Bool
  commitManpower : Option ℚ
  deriving DecidableEq

structure DrainPayload where
  fromPosition : P
  toPosition : P
  commitManpower : Option ℚ

structure DrainCommand where
  commandId : String
  sessionId : String
  playerId : PlayerId
  clientSeq : Nat
  issuedAt : Int
  type : FrontierCommandType
  payload : DrainPayload P

structure FrontierCommandResult where
  accepted : Bool
  code : Option String

abbrev Dispatches := List (DrainCommand P × FrontierCommandResult)

/-- One player's side of the runtime.  A dispatch may change the world, so
every answer depends on how many commands the call has dispatched. -/
structure RuntimeWaypointDrainContext (W : WorldSize) where
  isPlayerOnline : Bool
  hasActiveLockForPlayer : Bool
  now : Nat → Int
  tileAt : Nat → P → Option (DomainTileState W)
  isHostileOwner : Nat → Option PlayerId → Bool
  nextDrainCommandId : Nat → P → String
  dispatchFrontierCommand : Nat → DrainCommand P → FrontierCommandResult

end Records

variable {W : WorldSize} {P : Type}

/-- `entry.cursor ?? 0`. -/
def ServerWaypointQueueEntry.cursorIndex (entry : ServerWaypointQueueEntry P) : Nat :=
  entry.cursor.getD 0

def RETRYABLE_WAYPOINT_DRAIN_CODES : List String :=
  ["NOT_ADJACENT", "LOCKED", "ATTACK_COOLDOWN", "INSUFFICIENT_GOLD", "INSUFFICIENT_MANPOWER",
    "INSUFFICIENT_MUSTER", "SHIELDED", "ORIGIN_CUT_OFF"]

/-- `result.code && RETRYABLE_WAYPOINT_DRAIN_CODES.has(result.code)`. -/
def FrontierCommandResult.retryable (result : FrontierCommandResult) : Bool :=
  result.code.any fun code => decide (code ∈ RETRYABLE_WAYPOINT_DRAIN_CODES)

def buildDrainCommand (playerId : PlayerId) (nowMs : Int) (commandId : String)
    (fromPosition toPosition : P) (actionType : FrontierCommandType)
    (commitManpower : Option ℚ) : DrainCommand P where
  commandId := commandId
  sessionId := "system-runtime:waypoint-queue"
  playerId := playerId
  clientSeq := 0
  issuedAt := nowMs
  type := actionType
  payload := ⟨fromPosition, toPosition, commitManpower⟩

/-- The old effort choice rides on the final ATTACK on the waypoint's own
target, while the odds still depend on it. -/
def commitManpowerForStep [DecidableEq P] (entry : ServerWaypointQueueEntry P)
    (step : WaypointWireStep P) (targetTile : Option (DomainTileState W)) (nowMs : Int) :
    Option ℚ :=
  if decide (step.action = .ATTACK) && decide (step.target = entry.target)
      && targetTile.any (fun tile => isCommitOddsEligibleTarget tile nowMs)
      && !(targetTile.bind DomainTileState.ownerId).any isBarbarianFaction
    then entry.commitManpower
  else none

/-- `tile && tile.ownerId === playerId`. -/
def ownedBy (playerId : PlayerId) (tile : Option (DomainTileState W)) : Bool :=
  tile.any fun tile => decide (tile.ownerId = some playerId)

/-! ## §2. One leg of a plan. -/

inductive PlanOutcome where
  | dispatched
  | advance
  | done
  | skip
  deriving DecidableEq

/-- The outcome, the entry as it was left, and the dispatches so far. -/
structure PlanLeg (P : Type) where
  outcome : PlanOutcome
  entry : ServerWaypointQueueEntry P
  dispatches : Dispatches P

section Drain

variable [DecidableEq P] (context : RuntimeWaypointDrainContext P W) (playerId : PlayerId)

variable (dispatches : Dispatches P)

/-- The dispatch at the end of `drainPlanEntry`. -/
def dispatchPlanStep (entry : ServerWaypointQueueEntry P) (step : WaypointWireStep P) : PlanLeg P :=
  let n := dispatches.length
  let cmd := buildDrainCommand playerId (context.now n) (context.nextDrainCommandId n step.target)
    step.origin step.target step.action
    (commitManpowerForStep entry step (context.tileAt n step.target) (context.now n))
  let result := context.dispatchFrontierCommand n cmd
  let sent := dispatches ++ [(cmd, result)]
  if result.accepted then
    ⟨.dispatched, { entry with cursor := some (entry.cursorIndex + 1), stalled := false }, sent⟩
  else if result.retryable then ⟨.dispatched, entry, sent⟩
  else ⟨.dispatched, { entry with stalled := true }, sent⟩

def drainPlanEntry (steps : List (WaypointWireStep P)) (entry : ServerWaypointQueueEntry P) :
    PlanLeg P :=
  match steps[entry.cursorIndex]? with
  | none => ⟨.done, entry, dispatches⟩
  | some step =>
      if entry.trackBarbarian then ⟨.skip, entry, dispatches⟩
      else if entry.stalled then ⟨.skip, entry, dispatches⟩
      else if ownedBy playerId (context.tileAt dispatches.length step.target) then
        ⟨.advance, { entry with cursor := some (entry.cursorIndex + 1) }, dispatches⟩
      else if !ownedBy playerId (context.tileAt dispatches.length step.origin) then
        -- the origin is still being claimed: deferred like a retryable rejection
        ⟨.dispatched, entry, dispatches⟩
      else dispatchPlanStep context playerId dispatches entry step

variable {steps : List (WaypointWireStep P)} {entry : ServerWaypointQueueEntry P}

theorem drainPlanEntry_advance {dispatches : Dispatches P}
    (h : (drainPlanEntry context playerId dispatches steps entry).outcome = .advance) :
    drainPlanEntry context playerId dispatches steps entry
        = ⟨.advance, { entry with cursor := some (entry.cursorIndex + 1) }, dispatches⟩
      ∧ ∃ step, steps[entry.cursorIndex]? = some step
        ∧ ownedBy playerId (context.tileAt dispatches.length step.target) = true := by
  unfold drainPlanEntry at h ⊢
  cases hstep : steps[entry.cursorIndex]? with
  | none =>
      rw [hstep] at h
      cases h
  | some step =>
      rw [hstep] at h
      dsimp only at h ⊢
      split at h
      · cases h
      rename_i htrack
      split at h
      · cases h
      rename_i hstalled
      split at h
      · rename_i howned
        rw [if_neg htrack, if_neg hstalled, if_pos howned]
        exact ⟨rfl, step, rfl, howned⟩
      · split at h
        · cases h
        unfold dispatchPlanStep at h
        dsimp only at h
        split at h
        · cases h
        · split at h
          · cases h
          · cases h

/-- The inner loop: free advances chain until something else happens. -/
def drainPlan (dispatches : Dispatches P) (steps : List (WaypointWireStep P))
    (entry : ServerWaypointQueueEntry P) : PlanLeg P :=
  let leg := drainPlanEntry context playerId dispatches steps entry
  if _ : leg.outcome = .advance then drainPlan leg.dispatches steps leg.entry else leg
termination_by steps.length - entry.cursorIndex
decreasing_by
  rename_i h
  obtain ⟨hleg, step, hstep, _⟩ := drainPlanEntry_advance context playerId h
  obtain ⟨hlt, _⟩ := List.getElem?_eq_some_iff.mp hstep
  show steps.length - (drainPlanEntry context playerId dispatches steps entry).entry.cursorIndex < _
  rw [hleg]
  show steps.length - (entry.cursorIndex + 1) < _
  omega

/-! ## §3. Legacy entries. -/

inductive LegacyOutcome where
  | accepted
  | retryable
  | dead
  | deferHostile
  deriving DecidableEq

/-- The dispatch at the end of `drainLegacyEntry`: one command straight at the
target, its origin left to the server. -/
def dispatchLegacyEntry (entry : ServerWaypointQueueEntry P) (actionType : FrontierCommandType) :
    LegacyOutcome × Dispatches P :=
  let n := dispatches.length
  let cmd := buildDrainCommand playerId (context.now n)
    (context.nextDrainCommandId n entry.target) entry.target entry.target actionType none
  let result := context.dispatchFrontierCommand n cmd
  let sent := dispatches ++ [(cmd, result)]
  if result.accepted then (.accepted, sent)
  else if result.retryable then (.retryable, sent)
  else (.dead, sent)

def drainLegacyEntry (entry : ServerWaypointQueueEntry P) : LegacyOutcome × Dispatches P :=
  match context.tileAt dispatches.length entry.target with
  | none => (.dead, dispatches)
  | some target =>
      if target.ownerId = some playerId then (.dead, dispatches)
      else
        let isHostile := context.isHostileOwner dispatches.length target.ownerId
        let isBarbarianTarget := target.ownerId.any isBarbarianFaction
        if isHostile && !entry.trackBarbarian && !isBarbarianTarget then
          (.deferHostile, dispatches)
        else dispatchLegacyEntry context playerId dispatches entry
          (if isHostile then .ATTACK else .EXPAND)

/-! ## §4. One call. -/

/-- The attempts; `deferred` is what has been set aside.  A finished or dead
entry is dropped, and every way out puts the deferred entries back in
front. -/
def drainAttempts : Nat → List (ServerWaypointQueueEntry P) → List (ServerWaypointQueueEntry P) →
    Dispatches P → List (ServerWaypointQueueEntry P) × Dispatches P
  | 0, queue, deferred, dispatches => (deferred ++ queue, dispatches)
  | _ + 1, [], deferred, dispatches => (deferred, dispatches)
  | attempts + 1, entry :: queue, deferred, dispatches =>
      match entry.steps with
      | some steps =>
          let leg := drainPlan context playerId dispatches steps entry
          match leg.outcome with
          | .done => drainAttempts attempts queue deferred leg.dispatches
          | .skip => drainAttempts attempts queue (deferred ++ [leg.entry]) leg.dispatches
          | .dispatched | .advance =>
              if steps.length ≤ leg.entry.cursorIndex then (deferred ++ queue, leg.dispatches)
              else (deferred ++ leg.entry :: queue, leg.dispatches)
      | none =>
          let leg := drainLegacyEntry context playerId dispatches entry
          match leg.1 with
          | .accepted => (deferred ++ queue, leg.2)
          | .retryable | .deferHostile =>
              drainAttempts attempts queue (deferred ++ [entry]) leg.2
          | .dead => drainAttempts attempts queue deferred leg.2

/-- One call: the queue it leaves and the commands it dispatched. -/
def tryDrainWaypointQueue (queue : List (ServerWaypointQueueEntry P)) :
    List (ServerWaypointQueueEntry P) × Dispatches P :=
  if context.isPlayerOnline then (queue, [])
  else if context.hasActiveLockForPlayer then (queue, [])
  else drainAttempts context playerId (min queue.length DEV_QUEUE_SERVER_CAP) queue [] []

/-! ## §5. What may become of an entry. -/

def RuntimeWaypointDrainContext.answer (cmd : DrainCommand P) : FrontierCommandResult :=
  context.dispatchFrontierCommand dispatches.length cmd

def RuntimeWaypointDrainContext.send (cmd : DrainCommand P) : Dispatches P :=
  dispatches ++ [(cmd, context.answer dispatches cmd)]

/-- **A visit to a plan**: the cursor only moves forward, past steps whose
target is the player's and, last, past the one whose dispatch was accepted;
a visit dispatches at most once. -/
structure PlanVisit (dispatches : Dispatches P) (steps : List (WaypointWireStep P))
    (entry entry' : ServerWaypointQueueEntry P) (sent : Dispatches P) : Prop where
  same : entry' = { entry with cursor := entry'.cursor, stalled := entry'.stalled }
  forward : entry.cursorIndex ≤ entry'.cursorIndex
  passed : ∀ i, entry.cursorIndex ≤ i → i < entry'.cursorIndex → ∃ step, steps[i]? = some step
    ∧ (ownedBy playerId (context.tileAt dispatches.length step.target) = true
      ∨ (i + 1 = entry'.cursorIndex ∧ ∃ cmd, sent = context.send dispatches cmd
        ∧ (context.answer dispatches cmd).accepted = true ∧ cmd.type = step.action
        ∧ cmd.payload.fromPosition = step.origin ∧ cmd.payload.toPosition = step.target))
  once : sent = dispatches ∨ ∃ cmd, sent = context.send dispatches cmd

/-- **A visit to an entry**: what is put back (none if it is removed), the
dispatches after it, and whether the call is over.  A plan goes exactly when
its cursor has reached the end of its steps, a legacy entry exactly when it
was accepted or is dead. -/
inductive Visit : Dispatches P → ServerWaypointQueueEntry P →
    Option (ServerWaypointQueueEntry P) → Dispatches P → Bool → Prop
  | plan {dispatches sent : Dispatches P} {entry entry' : ServerWaypointQueueEntry P}
      {steps : List (WaypointWireStep P)} {stops : Bool} (hsteps : entry.steps = some steps)
      (hvisit : PlanVisit context playerId dispatches steps entry entry' sent)
      (hstops : stops = false → sent = dispatches) :
      Visit dispatches entry (if steps.length ≤ entry'.cursorIndex then none else some entry')
        sent stops
  | accepted {dispatches : Dispatches P} {entry : ServerWaypointQueueEntry P}
      {cmd : DrainCommand P} (hsteps : entry.steps = none)
      (htarget : cmd.payload.toPosition = entry.target)
      (haccepted : (context.answer dispatches cmd).accepted = true) :
      Visit dispatches entry none (context.send dispatches cmd) true
  | gone {dispatches : Dispatches P} {entry : ServerWaypointQueueEntry P}
      (hsteps : entry.steps = none)
      (hgone : ∀ tile, context.tileAt dispatches.length entry.target = some tile →
        tile.ownerId = some playerId) :
      Visit dispatches entry none dispatches false
  | refused {dispatches : Dispatches P} {entry : ServerWaypointQueueEntry P}
      {cmd : DrainCommand P} (hsteps : entry.steps = none)
      (htarget : cmd.payload.toPosition = entry.target)
      (hrejected : (context.answer dispatches cmd).accepted = false)
      (hfinal : (context.answer dispatches cmd).retryable = false) :
      Visit dispatches entry none (context.send dispatches cmd) false
  | retry {dispatches : Dispatches P} {entry : ServerWaypointQueueEntry P}
      {cmd : DrainCommand P} (hsteps : entry.steps = none)
      (htarget : cmd.payload.toPosition = entry.target)
      (hrejected : (context.answer dispatches cmd).accepted = false)
      (hretry : (context.answer dispatches cmd).retryable = true) :
      Visit dispatches entry (some entry) (context.send dispatches cmd) false
  | hostile {dispatches : Dispatches P} {entry : ServerWaypointQueueEntry P}
      {tile : DomainTileState W} (hsteps : entry.steps = none)
      (htile : context.tileAt dispatches.length entry.target = some tile)
      (hforeign : tile.ownerId ≠ some playerId)
      (hhostile : context.isHostileOwner dispatches.length tile.ownerId = true) :
      Visit dispatches entry (some entry) dispatches false

/-- Visits one after another; the one that stops is the last. -/
inductive Visits : Dispatches P → List (ServerWaypointQueueEntry P) →
    List (Option (ServerWaypointQueueEntry P)) → Dispatches P → Bool → Prop
  | nil (dispatches : Dispatches P) : Visits dispatches [] [] dispatches false
  | last {dispatches sent : Dispatches P} {entry : ServerWaypointQueueEntry P}
      {fate : Option (ServerWaypointQueueEntry P)}
      (hvisit : Visit context playerId dispatches entry fate sent true) :
      Visits dispatches [entry] [fate] sent true
  | cons {dispatches sent sent' : Dispatches P} {entry : ServerWaypointQueueEntry P}
      {fate : Option (ServerWaypointQueueEntry P)} {entries : List (ServerWaypointQueueEntry P)}
      {fates : List (Option (ServerWaypointQueueEntry P))} {stops : Bool}
      (hvisit : Visit context playerId dispatches entry fate sent false)
      (hrest : Visits sent entries fates sent' stops) :
      Visits dispatches (entry :: entries) (fate :: fates) sent' stops

/-! ## §6. One visit. -/

variable {context playerId}

omit [DecidableEq P] in
theorem PlanVisit.stays {dispatches sent : Dispatches P} {steps : List (WaypointWireStep P)}
    {entry : ServerWaypointQueueEntry P} (stalled : Bool)
    (honce : sent = dispatches ∨ ∃ cmd, sent = context.send dispatches cmd) :
    PlanVisit context playerId dispatches steps entry { entry with stalled := stalled } sent where
  same := rfl
  forward := le_refl _
  passed := by
    intro i hfrom hto
    have hto : i < entry.cursorIndex := hto
    omega
  once := honce

/-- **What the dispatch of a step does.** -/
theorem dispatchPlanStep_visit {dispatches : Dispatches P} {step : WaypointWireStep P}
    (hstep : steps[entry.cursorIndex]? = some step) :
    let leg := dispatchPlanStep context playerId dispatches entry step
    leg.outcome = .dispatched
      ∧ PlanVisit context playerId dispatches steps entry leg.entry leg.dispatches := by
  unfold dispatchPlanStep
  dsimp only
  split
  · rename_i haccepted
    refine ⟨rfl, rfl, Nat.le_succ _, ?_, Or.inr ⟨_, rfl⟩⟩
    intro i hfrom hto
    have hto : i < entry.cursorIndex + 1 := hto
    have hi : i = entry.cursorIndex := by omega
    subst hi
    exact ⟨step, hstep, Or.inr ⟨rfl, _, rfl, haccepted, rfl, rfl, rfl⟩⟩
  · split
    · exact ⟨rfl, PlanVisit.stays entry.stalled (Or.inr ⟨_, rfl⟩)⟩
    · exact ⟨rfl, PlanVisit.stays true (Or.inr ⟨_, rfl⟩)⟩

theorem drainPlanEntry_visit {dispatches : Dispatches P}
    (h : (drainPlanEntry context playerId dispatches steps entry).outcome ≠ .advance) :
    let leg := drainPlanEntry context playerId dispatches steps entry
    PlanVisit context playerId dispatches steps entry leg.entry leg.dispatches
      ∧ (leg.outcome = .done ↔ steps.length ≤ entry.cursorIndex)
      ∧ (leg.outcome ≠ .dispatched → leg.dispatches = dispatches ∧ leg.entry = entry) := by
  have hstays : PlanVisit context playerId dispatches steps entry entry dispatches :=
    PlanVisit.stays entry.stalled (Or.inl rfl)
  unfold drainPlanEntry at h ⊢
  cases hstep : steps[entry.cursorIndex]? with
  | none => exact ⟨hstays, by simpa using List.getElem?_eq_none_iff.mp hstep, fun _ => ⟨rfl, rfl⟩⟩
  | some step =>
      obtain ⟨hlt, _⟩ := List.getElem?_eq_some_iff.mp hstep
      have hinside : ¬ steps.length ≤ entry.cursorIndex := by omega
      rw [hstep] at h
      dsimp only at h ⊢
      split
      · exact ⟨hstays, by simpa using hinside, fun _ => ⟨rfl, rfl⟩⟩
      rename_i htrack
      rw [if_neg htrack] at h
      split
      · exact ⟨hstays, by simpa using hinside, fun _ => ⟨rfl, rfl⟩⟩
      rename_i hstalled
      rw [if_neg hstalled] at h
      split
      · rename_i howned
        rw [if_pos howned] at h
        exact absurd rfl h
      · split
        · exact ⟨hstays, by simpa using hinside, fun _ => ⟨rfl, rfl⟩⟩
        · obtain ⟨hsent, hvisit⟩ := dispatchPlanStep_visit hstep
          exact ⟨hvisit, by simpa [hsent] using hinside, fun hnot => absurd hsent hnot⟩

omit [DecidableEq P] in
theorem PlanVisit.after_advance {dispatches sent : Dispatches P}
    {steps : List (WaypointWireStep P)} {entry entry' : ServerWaypointQueueEntry P}
    {step : WaypointWireStep P} (hstep : steps[entry.cursorIndex]? = some step)
    (howned : ownedBy playerId (context.tileAt dispatches.length step.target) = true)
    (h : PlanVisit context playerId dispatches steps
      { entry with cursor := some (entry.cursorIndex + 1) } entry' sent) :
    PlanVisit context playerId dispatches steps entry entry' sent where
  same := h.same
  forward := Nat.le_of_succ_le h.forward
  passed := by
    intro i hfrom hto
    by_cases hi : i = entry.cursorIndex
    · subst hi
      exact ⟨step, hstep, Or.inl howned⟩
    · have hlater : entry.cursorIndex + 1 ≤ i := by omega
      exact h.passed i hlater hto
  once := h.once

/-- **The whole visit to a plan**: free advances, then one last leg. -/
theorem drainPlan_visit (steps : List (WaypointWireStep P)) (entry : ServerWaypointQueueEntry P) :
    let leg := drainPlan context playerId dispatches steps entry
    PlanVisit context playerId dispatches steps entry leg.entry leg.dispatches
      ∧ leg.outcome ≠ .advance
      ∧ (leg.outcome ≠ .dispatched → leg.dispatches = dispatches
        ∧ (leg.outcome = .done ↔ steps.length ≤ leg.entry.cursorIndex)) := by
  -- Induction on what is left of the plan.
  induction hleft : steps.length - entry.cursorIndex using Nat.strong_induction_on
    generalizing entry with
  | _ left ih =>
      unfold drainPlan
      dsimp only
      by_cases hadvance :
          (drainPlanEntry context playerId dispatches steps entry).outcome = .advance
      · obtain ⟨hleg, step, hstep, howned⟩ := drainPlanEntry_advance context playerId hadvance
        obtain ⟨hlt, _⟩ := List.getElem?_eq_some_iff.mp hstep
        rw [dif_pos hadvance, hleg]
        dsimp only
        have hless : steps.length - (entry.cursorIndex + 1) < left := by omega
        obtain ⟨hvisit, hends⟩ :=
          ih _ hless { entry with cursor := some (entry.cursorIndex + 1) } rfl
        exact ⟨hvisit.after_advance hstep howned, hends⟩
      · rw [dif_neg hadvance]
        obtain ⟨hvisit, hdone, hquiet⟩ := drainPlanEntry_visit hadvance
        refine ⟨hvisit, hadvance, fun hnot => ?_⟩
        obtain ⟨hsent, hentry⟩ := hquiet hnot
        exact ⟨hsent, by rw [hentry]; exact hdone⟩

def legacyFate (entry : ServerWaypointQueueEntry P) :
    LegacyOutcome → Option (ServerWaypointQueueEntry P)
  | .accepted | .dead => none
  | .retryable | .deferHostile => some entry

def LegacyLeg (context : RuntimeWaypointDrainContext P W) (playerId : PlayerId)
    (dispatches : Dispatches P) (entry : ServerWaypointQueueEntry P)
    (leg : LegacyOutcome × Dispatches P) : Prop :=
  Visit context playerId dispatches entry (legacyFate entry leg.1) leg.2
    (decide (leg.1 = .accepted))

omit [DecidableEq P] in
theorem dispatchLegacyEntry_visit {entry : ServerWaypointQueueEntry P} (hsteps : entry.steps = none)
    (actionType : FrontierCommandType) :
    LegacyLeg context playerId dispatches entry
      (dispatchLegacyEntry context playerId dispatches entry actionType) := by
  unfold dispatchLegacyEntry
  dsimp only
  split
  · rename_i haccepted
    exact Visit.accepted hsteps rfl haccepted
  · rename_i hrejected
    split
    · rename_i hretry
      exact Visit.retry hsteps rfl (Bool.eq_false_iff.mpr hrejected) hretry
    · rename_i hfinal
      exact Visit.refused hsteps rfl (Bool.eq_false_iff.mpr hrejected)
        (Bool.eq_false_iff.mpr hfinal)

omit [DecidableEq P] in
/-- **What a legacy entry's leg does.** -/
theorem drainLegacyEntry_visit {entry : ServerWaypointQueueEntry P} (hsteps : entry.steps = none) :
    LegacyLeg context playerId dispatches entry
      (drainLegacyEntry context playerId dispatches entry) := by
  unfold drainLegacyEntry
  cases htile : context.tileAt dispatches.length entry.target with
  | none =>
      refine Visit.gone hsteps fun tile htile' => ?_
      rw [htile] at htile'
      cases htile'
  | some target =>
      dsimp only
      split
      · rename_i hown
        refine Visit.gone hsteps fun tile htile' => ?_
        rw [htile] at htile'
        cases htile'
        exact hown
      · rename_i hforeign
        split
        · rename_i hdefer
          simp only [Bool.and_eq_true] at hdefer
          exact Visit.hostile hsteps htile hforeign hdefer.1.1
        · exact dispatchLegacyEntry_visit dispatches hsteps _

/-! ## §7. A whole call. -/

/-- What a run of attempts leaves: the visited part, entry by entry, and the
rest untouched behind it. -/
def Drained (context : RuntimeWaypointDrainContext P W) (playerId : PlayerId)
    (dispatches : Dispatches P) (attempts : Nat)
    (queue deferred : List (ServerWaypointQueueEntry P))
    (result : List (ServerWaypointQueueEntry P) × Dispatches P) : Prop :=
  ∃ visited rest fates stopped, queue = visited ++ rest
    ∧ Visits context playerId dispatches visited fates result.2 stopped
    ∧ result.1 = deferred ++ (fates.reduceOption ++ rest)
    ∧ (stopped = true ∨ visited.length = min attempts queue.length)

omit [DecidableEq P] in
theorem Drained.of_last {dispatches sent : Dispatches P} {attempts : Nat}
    {entry : ServerWaypointQueueEntry P} {queue deferred : List (ServerWaypointQueueEntry P)}
    {fate : Option (ServerWaypointQueueEntry P)}
    (hvisit : Visit context playerId dispatches entry fate sent true) :
    Drained context playerId dispatches attempts (entry :: queue) deferred
      (deferred ++ (fate.toList ++ queue), sent) := by
  refine ⟨[entry], queue, [fate], true, rfl, .last hvisit, ?_, Or.inl rfl⟩
  cases fate <;> rfl

omit [DecidableEq P] in
theorem Drained.of_cons {dispatches sent : Dispatches P} {attempts : Nat}
    {entry : ServerWaypointQueueEntry P} {queue deferred : List (ServerWaypointQueueEntry P)}
    {fate : Option (ServerWaypointQueueEntry P)}
    {result : List (ServerWaypointQueueEntry P) × Dispatches P}
    (hvisit : Visit context playerId dispatches entry fate sent false)
    (h : Drained context playerId sent attempts queue (deferred ++ fate.toList) result) :
    Drained context playerId dispatches (attempts + 1) (entry :: queue) deferred result := by
  obtain ⟨visited, rest, fates, stopped, hqueue, hvisits, hresult, hends⟩ := h
  refine ⟨entry :: visited, rest, fate :: fates, stopped, by rw [hqueue]; rfl,
    .cons hvisit hvisits, ?_, ?_⟩
  · rw [hresult]
    cases fate <;> simp
  · rcases hends with hstopped | hlength
    · exact Or.inl hstopped
    · right
      simp only [List.length_cons]
      omega

/-- **The attempts**, by induction on how many are left. -/
theorem drainAttempts_drained (attempts : Nat) :
    ∀ (queue deferred : List (ServerWaypointQueueEntry P)) (dispatches : Dispatches P),
      Drained context playerId dispatches attempts queue deferred
        (drainAttempts context playerId attempts queue deferred dispatches) := by
  induction attempts with
  | zero =>
      intro queue deferred dispatches
      exact ⟨[], queue, [], false, rfl, .nil dispatches, rfl, Or.inr (by simp)⟩
  | succ attempts ih =>
      intro queue deferred dispatches
      cases queue with
      | nil =>
          exact ⟨[], [], [], false, rfl, .nil dispatches, by simp [drainAttempts], Or.inr (by simp)⟩
      | cons entry queue =>
          unfold drainAttempts
          cases hsteps : entry.steps with
          | some steps =>
              dsimp only
              obtain ⟨hvisit, hadvance, hquiet⟩ :=
                @drainPlan_visit W P _ context playerId dispatches steps entry
              generalize drainPlan context playerId dispatches steps entry = leg
                at hvisit hadvance hquiet ⊢
              cases houtcome : leg.outcome with
              | done =>
                  dsimp only
                  rw [houtcome] at hquiet
                  obtain ⟨hsent, hdone⟩ := hquiet (by decide)
                  refine Drained.of_cons (Visit.plan hsteps hvisit fun _ => hsent) ?_
                  rw [if_pos (hdone.mp rfl)]
                  simpa using ih queue deferred leg.dispatches
              | skip =>
                  dsimp only
                  rw [houtcome] at hquiet
                  obtain ⟨hsent, hdone⟩ := hquiet (by decide)
                  refine Drained.of_cons (Visit.plan hsteps hvisit fun _ => hsent) ?_
                  rw [if_neg fun hend => nomatch hdone.mpr hend]
                  exact ih queue (deferred ++ [leg.entry]) leg.dispatches
              | advance => exact absurd houtcome hadvance
              | dispatched =>
                  dsimp only
                  have hlast : Visit context playerId dispatches entry _ leg.dispatches true :=
                    Visit.plan hsteps hvisit fun h => by cases h
                  split
                  · rename_i hend
                    rw [if_pos hend] at hlast
                    exact Drained.of_last hlast
                  · rename_i hinside
                    rw [if_neg hinside] at hlast
                    exact Drained.of_last hlast
          | none =>
              dsimp only
              have hvisit : LegacyLeg context playerId dispatches entry
                  (drainLegacyEntry context playerId dispatches entry) :=
                drainLegacyEntry_visit dispatches hsteps
              generalize drainLegacyEntry context playerId dispatches entry = leg at hvisit ⊢
              obtain ⟨outcome, sent⟩ := leg
              cases outcome with
              | accepted => exact Drained.of_last hvisit
              | retryable => exact Drained.of_cons hvisit (ih queue (deferred ++ [entry]) sent)
              | deferHostile => exact Drained.of_cons hvisit (ih queue (deferred ++ [entry]) sent)
              | dead =>
                  refine Drained.of_cons hvisit ?_
                  simpa [legacyFate] using ih queue deferred sent

omit [DecidableEq P] in
theorem Visit.dispatched {dispatches sent : Dispatches P} {entry : ServerWaypointQueueEntry P}
    {fate : Option (ServerWaypointQueueEntry P)} {stops : Bool}
    (h : Visit context playerId dispatches entry fate sent stops) :
    ∃ more : Dispatches P, sent = dispatches ++ more ∧ more.length ≤ 1
      ∧ (stops = false → ∀ dispatch ∈ more, dispatch.2.accepted = false) := by
  cases h with
  | plan hsteps hvisit hstops =>
      rcases hvisit.once with hnone | ⟨cmd, hone⟩
      · exact ⟨[], by simp [hnone], by simp, by simp⟩
      · refine ⟨[_], hone, by simp, fun hgoes => ?_⟩
        have hquiet := hstops hgoes
        rw [hone] at hquiet
        simp [RuntimeWaypointDrainContext.send] at hquiet
  | accepted => exact ⟨[_], rfl, by simp, by simp⟩
  | gone => exact ⟨[], by simp, by simp, by simp⟩
  | refused hsteps htarget hrejected => exact ⟨[_], rfl, by simp, by simpa using hrejected⟩
  | retry hsteps htarget hrejected => exact ⟨[_], rfl, by simp, by simpa using hrejected⟩
  | hostile => exact ⟨[], by simp, by simp, by simp⟩

omit [DecidableEq P] in
/-- **Nothing is dispatched after an accepted command**, by induction on the
visits. -/
theorem Visits.dispatched {dispatches sent : Dispatches P}
    {entries : List (ServerWaypointQueueEntry P)}
    {fates : List (Option (ServerWaypointQueueEntry P))} {stops : Bool}
    (h : Visits context playerId dispatches entries fates sent stops) :
    ∃ more : Dispatches P, sent = dispatches ++ more
      ∧ ∀ dispatch ∈ more.dropLast, dispatch.2.accepted = false := by
  induction h with
  | nil dispatches => exact ⟨[], by simp, by simp⟩
  | last hvisit =>
      obtain ⟨more, hsent, hlength, _⟩ := hvisit.dispatched
      refine ⟨more, hsent, fun dispatch hmem => ?_⟩
      have hshort := List.length_pos_of_mem hmem
      rw [List.length_dropLast] at hshort
      omega
  | cons hvisit hrest ih =>
      obtain ⟨more, hsent, _, hrejected⟩ := hvisit.dispatched
      obtain ⟨later, hlater, hlast⟩ := ih
      refine ⟨more ++ later, by rw [hlater, hsent, List.append_assoc], fun dispatch hmem => ?_⟩
      by_cases hnil : later = []
      · rw [hnil, List.append_nil] at hmem
        exact hrejected rfl dispatch (List.mem_of_mem_dropLast hmem)
      · rw [List.dropLast_append_of_ne_nil hnil] at hmem
        rcases List.mem_append.mp hmem with hmem | hmem
        · exact hrejected rfl dispatch hmem
        · exact hlast dispatch hmem

/-- **What a call may do**: it visits a first part of the queue in order —
all it may, unless a visit ends it — leaves the rest as it is, puts back
exactly what the visits put back, and dispatches nothing after an accepted
command. -/
def Replayed (context : RuntimeWaypointDrainContext P W) (playerId : PlayerId)
    (queue : List (ServerWaypointQueueEntry P))
    (result : List (ServerWaypointQueueEntry P) × Dispatches P) : Prop :=
  (∃ visited rest fates stopped, queue = visited ++ rest
    ∧ Visits context playerId [] visited fates result.2 stopped
    ∧ result.1 = fates.reduceOption ++ rest
    ∧ (stopped = true ∨ visited.length = min queue.length DEV_QUEUE_SERVER_CAP
      ∨ (visited = [] ∧ (context.isPlayerOnline = true ∨ context.hasActiveLockForPlayer = true))))
  ∧ ∀ dispatch ∈ result.2.dropLast, dispatch.2.accepted = false

/-- **One call, whatever the queue, the map and the answers.** -/
theorem tryDrainWaypointQueue_replayed (context : RuntimeWaypointDrainContext P W)
    (playerId : PlayerId) (queue : List (ServerWaypointQueueEntry P)) :
    Replayed context playerId queue (tryDrainWaypointQueue context playerId queue) := by
  have hidle : (context.isPlayerOnline = true ∨ context.hasActiveLockForPlayer = true) →
      Replayed context playerId queue (queue, []) := fun hwhy =>
    ⟨⟨[], queue, [], false, rfl, .nil [], rfl, Or.inr (Or.inr ⟨rfl, hwhy⟩)⟩, by simp⟩
  unfold tryDrainWaypointQueue
  split
  · rename_i honline
    exact hidle (Or.inl honline)
  · split
    · rename_i hlocked
      exact hidle (Or.inr hlocked)
    · obtain ⟨visited, rest, fates, stopped, hqueue, hvisits, hresult, hends⟩ :=
        @drainAttempts_drained W P _ context playerId (min queue.length DEV_QUEUE_SERVER_CAP)
          queue [] []
      obtain ⟨more, hsent, hlast⟩ := hvisits.dispatched
      refine ⟨⟨visited, rest, fates, stopped, hqueue, hvisits, by simpa using hresult, ?_⟩, ?_⟩
      · rcases hends with hstopped | hlength
        · exact Or.inl hstopped
        · exact Or.inr (Or.inl (by omega))
      · rw [hsent, List.nil_append]
        exact hlast

end Drain

end BorderEmpires.WaypointDrain
