/-
  BorderEmpires.Waypoints.Planner
  **THE WAYPOINT PLANNER.**

  `planWaypoint` as the shared package computes it: the tiles the player
  owns and the landing ground of their docks are seeded into a best-first
  search over (tile, incoming direction), the states are expanded until the
  goal is popped, and the parents are walked back from the goal to the
  first tile already owned.

  A search state is the pair of its tile and its direction, not the number
  that encodes them.  The loop runs with a budget that it cannot use up
  (`searchLoop_ended`).  Walking back runs with one turn for each state:
  `none` is a walk that never ends (`walkBack_never`).
-/
import BorderEmpires.Lib.BestFirst
import BorderEmpires.Lib.BinaryHeap
import BorderEmpires.Waypoints.Tiles

namespace BorderEmpires.Waypoints

open Vision (Worldgen Ground)
open BinaryHeap (MinHeap)

/-! ## §1. Requests and plans. -/

section Records

variable (W : WorldSize)

inductive WaypointAction where
  | EXPAND | ATTACK
  deriving DecidableEq, Repr

inductive WaypointBlockReason where
  | NO_PATH | TARGET_OWN | TARGET_BARRIER | TARGET_ALLIED | TARGET_TRUCED | NO_OWNED_TERRITORY
  deriving DecidableEq, Repr

structure WaypointStep where
  origin : TileKey W
  target : TileKey W
  action : WaypointAction
  durationMs : ℚ
  goldCost : ℚ
  manpowerCost : ℚ
  manpowerMin : ℚ
  throughFog : Bool
  viaDock : Bool
  deriving DecidableEq

structure WaypointPlan where
  target : TileKey W
  steps : List (WaypointStep W)
  totalGold : ℚ
  totalManpower : ℚ
  totalDurationMs : ℚ
  expandCount : Nat
  attackCount : Nat
  reachable : Bool
  blockReason : Option WaypointBlockReason
  firstAttackFromExistingFrontier : Option Bool
  deriving DecidableEq

structure WaypointPlannerDeps where
  state : WaypointPlannerState W
  attackDurationMs : Option ℚ
  expandDurationMsAt : Option (TileKey W → ℚ)
  now : Option Int
  isInReach : Option (TileKey W → Bool)

/-- What the planner reads besides its arguments: the generated world, the
ground as play has changed it, and the wall clock. -/
structure Surroundings where
  gen : Worldgen W
  ground : Ground W
  dateNow : Int

end Records

variable {W : WorldSize}

/-- What one call of `planWaypoint` fixes before it searches. -/
structure Survey (W : WorldSize) where
  state : WaypointPlannerState W
  c : Classifier W
  isInReach : Option (TileKey W → Bool)
  goal : TileKey W

namespace Survey

variable (v : Survey W)

def goalTile : Option WaypointPlannerTile := v.state.tiles.get v.goal

def classify (t : TileKey W) : ClassifiedTile := classifyForSearch v.c (v.state.tiles.get t) t

def isExpandOnlyChain : Bool := (v.classify v.goal).isNeutral

/-- A neutral tile the reach gate keeps out of the search. -/
def outOfReach (t : TileKey W) : Bool :=
  match v.isInReach with
  | none => false
  | some isInReach => (v.classify t).isNeutral && !isInReach t && !v.isExpandOnlyChain

def classifyIfPassable (t : TileKey W) : Option ClassifiedTile :=
  if v.classify t = .IMPASSABLE then none
  else if v.outOfReach t then none
  else some (v.classify t)

/-- All land the player owns and may act from, in the map's order. -/
def sources : List (TileKey W) :=
  (v.state.tiles.entries.filter (fun e => isSource v.c.me v.c.now e.2)).map Prod.fst

def preOwned (t : TileKey W) : Bool := decide (t ∈ v.sources)

def terrainAt (t : TileKey W) : Option Terrain := (v.state.tiles.get t).map (·.terrain)

/-- `dockPairLinks(state).get(src)`: the landing ground of every dock the
tile is linked to. -/
def dockLinks (src : TileKey W) : List (TileKey W) :=
  v.state.dockPairs.flatMap fun pair =>
    (if pair.a = src then dockLandingGroundCoords v.terrainAt pair.b else [])
      ++ (if pair.b = src then dockLandingGroundCoords v.terrainAt pair.a else [])

/-- The estimate of what is left from a tile. -/
def h (t : TileKey W) : ℚ := (chebyshevWithWrap W t.x t.y v.goal.x v.goal.y : ℚ) * FRONTIER_CLAIM_MS

end Survey

/-! ## §2. The search. -/

/-- A tile and the direction it was entered from, `none` for a source or a
landing. -/
structure SearchNode (W : WorldSize) where
  tile : TileKey W
  dir : Option (Fin 8)
  deriving DecidableEq

def DIR_CODES : Nat := 9

structure HeapEntry (W : WorldSize) where
  score : ℚ
  node : SearchNode W

structure Search (W : WorldSize) where
  gScore : SearchNode W → Option ℚ
  cameFrom : SearchNode W → Option (SearchNode W)
  viaDock : SearchNode W → Bool
  heap : MinHeap (fun entry : HeapEntry W => entry.score)
  expanded : Nat

def Search.start : Search W where
  gScore := fun _ => none
  cameFrom := fun _ => none
  viaDock := fun _ => false
  heap := MinHeap.empty
  expanded := 0

def neighborOf (t : TileKey W) (dirIdx : Fin 8) : TileKey W :=
  t.shift (NEIGHBOR_OFFSETS.getD dirIdx.val (0, 0))

section Searching

variable (v : Survey W)

/-- A source goes in at no cost. -/
def Search.seedSource (s : Search W) (src : TileKey W) : Search W :=
  { s with
    gScore := Function.update s.gScore ⟨src, none⟩ (some 0)
    heap := s.heap.push ⟨v.h src, ⟨src, none⟩⟩ }

/-- Take a way to `next` at the cost `tentative`. -/
def Search.record (s : Search W) (current next : SearchNode W) (tentative : ℚ) (dock : Bool) :
    Search W :=
  { s with
    gScore := Function.update s.gScore next (some tentative)
    cameFrom := Function.update s.cameFrom next (some current)
    viaDock := Function.update s.viaDock next dock
    heap := s.heap.push ⟨tentative + v.h next.tile, next⟩ }

/-- `tentative < (gScore.get(next) ?? Infinity)`. -/
def improves (tentative : ℚ) (existing : Option ℚ) : Bool :=
  match existing with
  | none => true
  | some existing => decide (tentative < existing)

def Search.relax (s : Search W) (current next : SearchNode W) (tentative : ℚ) (dock : Bool) :
    Search W :=
  if improves tentative (s.gScore next) then s.record v current next tentative dock else s

/-- A jump from an owned dock to one tile of the far landing ground. -/
def Search.seedJump (src : TileKey W) (s : Search W) (dest : TileKey W) : Search W :=
  match v.classifyIfPassable dest with
  | none => s
  | some classified => s.relax v ⟨src, none⟩ ⟨dest, none⟩ classified.durationMs true

def Search.seedDocks (s : Search W) (src : TileKey W) : Search W :=
  (v.dockLinks src).foldl (Search.seedJump v src) s

def Search.seeded : Search W :=
  v.sources.foldl (Search.seedDocks v) (v.sources.foldl (Search.seedSource v) Search.start)

def turnPenalty (parentDir : Option (Fin 8)) (dirIdx : Fin 8) : ℚ :=
  match parentDir with
  | none => 0
  | some dir => if dir = dirIdx then 0 else TURN_PENALTY_MS

/-- One of the eight neighbours of the state being expanded. -/
def Search.visit (current : SearchNode W) (currentG : ℚ) (s : Search W) (dirIdx : Fin 8) :
    Search W :=
  match v.classifyIfPassable (neighborOf current.tile dirIdx) with
  | none => s
  | some classified =>
      s.relax v current ⟨neighborOf current.tile dirIdx, some dirIdx⟩
        (currentG + classified.durationMs + turnPenalty current.dir dirIdx) false

def Search.expand (s : Search W) (current : SearchNode W) (currentG : ℚ) : Search W :=
  (List.finRange 8).foldl (Search.visit v current currentG)
    { s with expanded := s.expanded + 1 }

def maxExpanded : Nat := 200000

/-- The search loop: where it stood when it ended, and the goal state when
one was popped. -/
def searchLoop : Nat → Search W → Search W × Option (SearchNode W)
  | 0, s => (s, none)
  | fuel + 1, s =>
      if s.expanded < maxExpanded then
        match s.heap.pop with
        | none => (s, none)
        | some (popped, rest) =>
            let s := { s with heap := rest }
            match s.gScore popped.node with
            -- no state is queued without a score
            | none => searchLoop fuel s
            | some currentG =>
                if currentG + v.h popped.node.tile < popped.score then searchLoop fuel s
                else if popped.node.tile = v.goal then (s, some popped.node)
                else searchLoop fuel (s.expand v popped.node currentG)
      else (s, none)

/-- More turns than the loop can take: it pops what was seeded and at most
eight states for each expansion. -/
def turnBudget (s : Search W) : Nat := s.heap.size + DIR_CODES * maxExpanded + 1

def search : Search W × Option (SearchNode W) :=
  searchLoop v (turnBudget (Search.seeded v)) (Search.seeded v)

/-! ## §3. The plan. -/

def reconstruct (s : Search W) (goalState : SearchNode W) : Option (List (SearchNode W)) :=
  BestFirst.traceBack (fun node => v.preOwned node.tile) s.cameFrom
    (W.width * W.height * DIR_CODES) goalState []

def manpowerFor (action : WaypointAction) (tile : Option WaypointPlannerTile) : ℚ :=
  match action with
  | .ATTACK => requiredMusterForTarget tile v.state.domainIds
  | .EXPAND => v.state.expandManpowerCost.getD EXPAND_MANPOWER_COST

/-- The action and the duration of a step onto a tile; none onto ground
that is owned or cannot be entered. -/
def stepFor (t : TileKey W) : Option (WaypointAction × ℚ) :=
  match v.classify t with
  | .OWN => none
  | .IMPASSABLE => none
  | .NEUTRAL durationMs => some (.EXPAND, durationMs)
  | .ENEMY durationMs => some (.ATTACK, durationMs)

def stepBetween (viaDock : SearchNode W → Bool) (prev next : SearchNode W) :
    Option (WaypointStep W) :=
  let nextTile := v.state.tiles.get next.tile
  match stepFor v next.tile with
  | none => none
  | some (action, durationMs) =>
      some
        { origin := prev.tile
          target := next.tile
          action := action
          durationMs := durationMs
          goldCost := FRONTIER_CLAIM_COST
          manpowerCost := manpowerFor v action nextTile
          manpowerMin := manpowerFor v action nextTile
          throughFog := (nextTile.map (·.fogged)).getD false
          viaDock := viaDock next }

def WaypointPlan.push (plan : WaypointPlan W) (step : WaypointStep W) : WaypointPlan W :=
  { plan with
    steps := plan.steps ++ [step]
    totalGold := plan.totalGold + step.goldCost
    totalManpower := plan.totalManpower + step.manpowerCost
    totalDurationMs := plan.totalDurationMs + step.durationMs
    expandCount := if step.action = .EXPAND then plan.expandCount + 1 else plan.expandCount
    attackCount := if step.action = .ATTACK then plan.attackCount + 1 else plan.attackCount
    firstAttackFromExistingFrontier :=
      if step.action = .ATTACK ∧ plan.firstAttackFromExistingFrontier = none then
        some (v.preOwned step.origin)
      else plan.firstAttackFromExistingFrontier }

/-- The loop that turns the path into steps. -/
def addSteps (viaDock : SearchNode W → Bool) : List (SearchNode W) → WaypointPlan W →
    WaypointPlan W
  | prev :: next :: rest, plan =>
      match stepBetween v viaDock prev next with
      | none => addSteps viaDock (next :: rest) plan
      | some step => addSteps viaDock (next :: rest) (plan.push v step)
  | _, plan => plan

def emptyPlan (goal : TileKey W) (reachable : Bool) (blockReason : Option WaypointBlockReason) :
    WaypointPlan W where
  target := goal
  steps := []
  totalGold := 0
  totalManpower := 0
  totalDurationMs := 0
  expandCount := 0
  attackCount := 0
  reachable := reachable
  blockReason := blockReason
  firstAttackFromExistingFrontier := none

def blockedPlan (goal : TileKey W) (reason : WaypointBlockReason) : WaypointPlan W :=
  emptyPlan goal false (some reason)

/-- Why a known goal is refused before any search. -/
def targetBlock : Option WaypointBlockReason :=
  match v.goalTile with
  | none => none
  | some goalTile =>
      if goalTile.terrain ≠ .LAND then some .TARGET_BARRIER
      else
        match goalTile.ownerId with
        | none => none
        | some ownerId =>
            if ownerId = v.c.me then some .TARGET_OWN
            else if ownerId ∈ v.c.alliedPlayerIds then some .TARGET_ALLIED
            else if ownerId ∈ v.c.truceTargetIds then some .TARGET_TRUCED
            else none

/-- `planWaypoint` for a player who has an id. -/
def planFor : Option (WaypointPlan W) :=
  match targetBlock v with
  | some reason => some (blockedPlan v.goal reason)
  | none =>
      if v.sources = [] then some (blockedPlan v.goal .NO_OWNED_TERRITORY)
      else
        match search v with
        | (_, none) => some (blockedPlan v.goal .NO_PATH)
        | (s, some goalState) =>
            match reconstruct v s goalState with
            | none => none
            | some path =>
                if path.length < 2 then some (blockedPlan v.goal .NO_PATH)
                else some (addSteps v s.viaDock path (emptyPlan v.goal true none))

end Searching

/-- What a call fixes: the goal is wrapped, missing options get their
defaults. -/
def surveyOf (around : Surroundings W) (target : Int × Int) (deps : WaypointPlannerDeps W)
    (me : PlayerId) : Survey W :=
  let now := deps.now.getD around.dateNow
  { state := deps.state
    c :=
      { me := me
        attackDurationMs := deps.attackDurationMs.getD COMBAT_LOCK_MS
        alliedPlayerIds := deps.state.allies
        truceTargetIds := truceTargetIdsOf deps.state.me deps.state.activeTruces now
        expandDurationMsAt :=
          deps.expandDurationMsAt.getD (frontierClaimDurationMsAt around.gen around.ground)
        now := now }
    isInReach := deps.isInReach
    goal := wrappedTile W target.1 target.2 }

/-- **The planner**; `none` when it never returns. -/
def planWaypoint (around : Surroundings W) (target : Int × Int) (deps : WaypointPlannerDeps W) :
    Option (WaypointPlan W) :=
  match deps.state.me with
  | none => some (blockedPlan (wrappedTile W target.1 target.2) .NO_OWNED_TERRITORY)
  | some me => planFor (surveyOf around target deps me)

end BorderEmpires.Waypoints
