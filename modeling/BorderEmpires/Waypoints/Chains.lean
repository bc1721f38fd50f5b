/-
  BorderEmpires.Waypoints.Chains
  **WHAT A PLAN SAYS IS A CHAIN THE PLAYER CAN WALK.**

  `ValidChain` says in terms of the map what a plan promises: it starts on
  ground the player owns and may act from, every step starts where the one
  before ended, goes to a neighbour or ashore from an owned dock, enters
  neutral ground the reach gate admits or unprotected enemy land, and the
  last one ends on the goal.
-/
import BorderEmpires.Waypoints.SearchRuns

namespace BorderEmpires.Waypoints

variable {W : WorldSize}

/-! ## §1. Valid chains. -/

section Spec

variable (v : Survey W)

/-- Undiscovered ground, or land that nobody owns. -/
def NeutralLand (t : TileKey W) : Prop :=
  ∀ tile, v.state.tiles.get t = some tile → tile.terrain = .LAND ∧ tile.ownerId = none

/-- Another player's land, protected by neither alliance nor truce. -/
def EnemyLand (t : TileKey W) : Prop :=
  ∃ tile ownerId, v.state.tiles.get t = some tile ∧ tile.terrain = .LAND
    ∧ tile.ownerId = some ownerId ∧ ownerId ≠ v.c.me
    ∧ ownerId ∉ v.c.alliedPlayerIds ∧ ownerId ∉ v.c.truceTargetIds

/-- Neutral ground is admitted when it is in reach, and everywhere on a
chain whose goal is neutral itself. -/
def ReachAdmits (t : TileKey W) : Prop :=
  NeutralLand v t → NeutralLand v v.goal ∨ ∀ isInReach, v.isInReach = some isInReach →
    isInReach t = true

def OwnedOrigin (t : TileKey W) : Prop :=
  ∃ tile, v.state.tiles.get t = some tile ∧ tile.ownerId = some v.c.me ∧ tile.terrain = .LAND
    ∧ isFrontierOriginCutOff tile v.c.now = false

/-- A crossing from an owned dock onto the landing ground of a linked one. -/
def DockCrossing (origin target : TileKey W) : Prop :=
  OwnedOrigin v origin ∧ ∃ pair ∈ v.state.dockPairs,
    (pair.a = origin ∧ isDockLandingTile v.terrainAt pair.b target = true)
      ∨ (pair.b = origin ∧ isDockLandingTile v.terrainAt pair.a target = true)

/-- **A step the player can take.** -/
structure ValidStep (step : WaypointStep W) : Prop where
  edge : (step.viaDock = false ∧ step.target ∈ step.origin.neighbors)
    ∨ (step.viaDock = true ∧ DockCrossing v step.origin step.target)
  enters : NeutralLand v step.target ∨ EnemyLand v step.target
  reach : ReachAdmits v step.target
  action : step.action = .ATTACK ↔ EnemyLand v step.target
  duration : step.durationMs = (v.classify step.target).durationMs

/-- **A chain of steps to the goal.** -/
structure ValidChain (steps : List (WaypointStep W)) : Prop where
  starts : ∃ step rest, steps = step :: rest ∧ OwnedOrigin v step.origin
  linked : List.IsChain (fun a b => b.origin = a.target) steps
  each : ∀ step ∈ steps, ValidStep v step
  arrives : ∃ step, steps.getLast? = some step ∧ step.target = v.goal

end Spec

/-- **The totals are the sums over the steps.** -/
structure TotalsMatch (plan : WaypointPlan W) : Prop where
  gold : plan.totalGold = (plan.steps.map (·.goldCost)).sum
  manpower : plan.totalManpower = (plan.steps.map (·.manpowerCost)).sum
  duration : plan.totalDurationMs = (plan.steps.map (·.durationMs)).sum
  expands : plan.expandCount = plan.steps.countP (fun step => decide (step.action = .EXPAND))
  attacks : plan.attackCount = plan.steps.countP (fun step => decide (step.action = .ATTACK))

variable {v : Survey W}

/-! ## §2. Classes in terms of the map. -/

variable {t : TileKey W} {rest : List (SearchNode W)} {viaDock : SearchNode W → Bool}

theorem ownedOrigin_iff : OwnedOrigin v t ↔ t ∈ v.sources := by
  rw [Survey.mem_sources_iff]
  unfold OwnedOrigin isSource
  simp only [Bool.and_eq_true, decide_eq_true_eq, Bool.not_eq_true', and_assoc]

theorem classify_eq_ENEMY_iff :
    (∃ durationMs, v.classify t = .ENEMY durationMs) ↔ EnemyLand v t := by
  unfold Survey.classify classifyForSearch EnemyLand
  cases hget : v.state.tiles.get t with
  | none =>
      constructor
      · rintro ⟨durationMs, h⟩
        cases h
      · rintro ⟨tile, ownerId, h, -⟩
        cases h
  | some tile =>
      dsimp only
      constructor
      · rintro ⟨durationMs, h⟩
        obtain ⟨hland, -, ownerId, howner⟩ := (classifyTile_eq_ENEMY_iff _ _ _ _).mp h
        exact ⟨tile, ownerId, rfl, hland, howner⟩
      · rintro ⟨tile', ownerId, heq, hland, howner⟩
        cases heq
        exact ⟨_, (classifyTile_eq_ENEMY_iff _ _ _ _).mpr ⟨hland, rfl, ownerId, howner⟩⟩

theorem isNeutral_iff : (v.classify t).isNeutral = true ↔ NeutralLand v t := by
  unfold Survey.classify classifyForSearch NeutralLand
  cases hget : v.state.tiles.get t with
  | none =>
      exact ⟨fun _ tile h => (by cases h), fun _ => rfl⟩
  | some tile =>
      dsimp only
      have hread : (∀ tile', some tile = some tile' → tile'.terrain = .LAND ∧ tile'.ownerId = none)
          ↔ tile.terrain = .LAND ∧ tile.ownerId = none :=
        ⟨fun h => h tile rfl, fun h tile' heq => Option.some.inj heq ▸ h⟩
      rw [hread]
      unfold classifyTile
      by_cases hland : tile.terrain = .LAND
      · cases howner : tile.ownerId with
        | none => simp [hland, ClassifiedTile.isNeutral]
        | some ownerId =>
            by_cases hme : ownerId = v.c.me
            · cases hcut : isFrontierOriginCutOff tile v.c.now <;>
                simp [hland, hme, ClassifiedTile.isNeutral]
            · by_cases hally : ownerId ∈ v.c.alliedPlayerIds
              · simp [hland, hme, hally, ClassifiedTile.isNeutral]
              · by_cases htruce : ownerId ∈ v.c.truceTargetIds
                · simp [hland, hme, hally, htruce, ClassifiedTile.isNeutral]
                · simp [hland, hme, hally, htruce, ClassifiedTile.isNeutral]
      · simp [hland, ClassifiedTile.isNeutral]

theorem stepFor_spec (howned : t ∉ v.sources) (hpass : v.classify t ≠ .IMPASSABLE) :
    ∃ action, stepFor v t = some (action, (v.classify t).durationMs)
      ∧ (NeutralLand v t ∨ EnemyLand v t) ∧ (action = .ATTACK ↔ EnemyLand v t) := by
  unfold stepFor
  cases hclass : v.classify t with
  | OWN => exact absurd (Survey.classify_eq_OWN_iff.mp hclass) howned
  | IMPASSABLE => exact absurd hclass hpass
  | NEUTRAL durationMs =>
      have hneutral : NeutralLand v t := isNeutral_iff.mp (by rw [hclass]; rfl)
      refine ⟨.EXPAND, rfl, Or.inl hneutral, ?_⟩
      constructor
      · intro h
        cases h
      · intro henemy
        obtain ⟨durationMs', h⟩ := classify_eq_ENEMY_iff.mpr henemy
        rw [hclass] at h
        cases h
  | ENEMY durationMs =>
      have henemy : EnemyLand v t := classify_eq_ENEMY_iff.mp ⟨durationMs, hclass⟩
      exact ⟨.ATTACK, rfl, Or.inr henemy, fun _ => henemy, fun _ => rfl⟩

theorem reachAdmits_iff : v.outOfReach t = false ↔ ReachAdmits v t := by
  unfold Survey.outOfReach ReachAdmits Survey.isExpandOnlyChain
  cases hreach : v.isInReach with
  | none => exact ⟨fun _ _ => Or.inr (fun _ h => (by cases h)), fun _ => rfl⟩
  | some isInReach =>
      have hread : (∀ r, some isInReach = some r → r t = true) ↔ isInReach t = true :=
        ⟨fun h => h isInReach rfl, fun h r heq => Option.some.inj heq ▸ h⟩
      rw [hread, ← isNeutral_iff (t := t), ← isNeutral_iff (t := v.goal)]
      dsimp only
      cases (v.classify t).isNeutral <;> cases isInReach t <;>
        cases (v.classify v.goal).isNeutral <;> simp

theorem terrainAt_of_passable (h : v.classify t ≠ .IMPASSABLE) :
    ∀ x, v.terrainAt t = some x → x = .LAND := by
  intro x hx
  unfold Survey.terrainAt at hx
  cases hget : v.state.tiles.get t with
  | none =>
      rw [hget] at hx
      cases hx
  | some tile =>
      rw [hget] at hx
      by_contra hne
      apply h
      unfold Survey.classify classifyForSearch
      rw [hget]
      dsimp only
      unfold classifyTile
      rw [if_pos (fun hland => hne (Option.some.inj hx ▸ hland))]

/-! ## §3. From moves to steps. -/

theorem dockCrossing_of_mem {src dest : TileKey W} (hsrc : src ∈ v.sources)
    (hdest : dest ∈ v.dockLinks src) (hpass : v.classify dest ≠ .IMPASSABLE) :
    DockCrossing v src dest := by
  refine ⟨ownedOrigin_iff.mpr hsrc, ?_⟩
  obtain ⟨pair, hpair, hin⟩ := List.mem_flatMap.mp hdest
  refine ⟨pair, hpair, ?_⟩
  have hland := terrainAt_of_passable hpass
  rcases List.mem_append.mp hin with ha | hb
  · by_cases heq : pair.a = src
    · rw [if_pos heq] at ha
      exact Or.inl ⟨heq, isDockLandingTile_of_mem ha hland⟩
    · rw [if_neg heq] at ha
      cases ha
  · by_cases heq : pair.b = src
    · rw [if_pos heq] at hb
      exact Or.inr ⟨heq, isDockLandingTile_of_mem hb hland⟩
    · rw [if_neg heq] at hb
      cases hb

/-- **A legal move onto ground not yet owned is a valid step.** -/
theorem stepBetween_of_move {prev next : SearchNode W} (hmove : Move v (viaDock next) prev next)
    (howned : next.tile ∉ v.sources) :
    ∃ step, stepBetween v viaDock prev next = some step ∧ ValidStep v step
      ∧ step.origin = prev.tile ∧ step.target = next.tile ∧ step.viaDock = viaDock next
      ∧ step.durationMs = (v.classify next.tile).durationMs := by
  obtain ⟨hpass, hreach⟩ := hmove.passable
  obtain ⟨action, hstep, henters, haction⟩ := stepFor_spec howned hpass
  unfold stepBetween
  dsimp only
  rw [hstep]
  refine ⟨_, rfl, ?_, rfl, rfl, rfl, rfl⟩
  refine { edge := ?_, enters := henters, reach := reachAdmits_iff.mp hreach,
           action := haction, duration := rfl }
  show (viaDock next = false ∧ next.tile ∈ prev.tile.neighbors)
    ∨ (viaDock next = true ∧ DockCrossing v prev.tile next.tile)
  generalize viaDock next = dock at hmove
  cases hmove with
  | walk _ dirIdx classified _ =>
      exact Or.inl ⟨rfl, neighborOf_mem_neighbors prev.tile dirIdx⟩
  | jump src dest classified hsrc hdest _ =>
      exact Or.inr ⟨rfl, dockCrossing_of_mem hsrc hdest hpass⟩

/-- The steps between the states of a path. -/
def legs (v : Survey W) (viaDock : SearchNode W → Bool) :
    List (SearchNode W) → List (WaypointStep W)
  | prev :: next :: rest => (stepBetween v viaDock prev next).toList ++ legs v viaDock (next :: rest)
  | _ => []

/-- A path of legal moves that stays off owned ground after its start. -/
structure PathOk (v : Survey W) (viaDock : SearchNode W → Bool) (path : List (SearchNode W)) :
    Prop where
  moves : List.IsChain (fun p n => Move v (viaDock n) p n) path
  fresh : ∀ n ∈ path.tail, n.tile ∉ v.sources

theorem PathOk.tail {a : SearchNode W} (h : PathOk v viaDock (a :: rest)) :
    PathOk v viaDock rest := by
  refine ⟨h.moves.tail, fun n hn => h.fresh n (List.mem_of_mem_tail hn)⟩

theorem legs_cons_cons {a b : SearchNode W} (h : PathOk v viaDock (a :: b :: rest)) :
    ∃ step, legs v viaDock (a :: b :: rest) = step :: legs v viaDock (b :: rest)
      ∧ ValidStep v step ∧ step.origin = a.tile ∧ step.target = b.tile
      ∧ step.viaDock = viaDock b ∧ step.durationMs = (v.classify b.tile).durationMs := by
  have hmove := (List.isChain_cons_cons.mp h.moves).1
  obtain ⟨step, heq, hrest⟩ := stepBetween_of_move hmove (h.fresh b (by simp))
  refine ⟨step, ?_, hrest⟩
  show (stepBetween v viaDock a b).toList ++ _ = _
  rw [heq]
  rfl

theorem legs_each (rest : List (SearchNode W)) :
    ∀ a : SearchNode W, PathOk v viaDock (a :: rest) →
      (∀ step ∈ legs v viaDock (a :: rest), ValidStep v step)
        ∧ List.IsChain (fun a b => b.origin = a.target) (legs v viaDock (a :: rest))
        ∧ ∀ step ∈ (legs v viaDock (a :: rest)).head?, step.origin = a.tile := by
  induction rest with
  | nil =>
      intro a _
      exact ⟨fun _ h => (by cases h), List.isChain_nil, fun _ h => (by cases h)⟩
  | cons b rest ih =>
      intro a h
      obtain ⟨step, heq, hvalid, horigin, htarget, -⟩ := legs_cons_cons h
      obtain ⟨heach, hchain, hhead⟩ := ih b h.tail
      rw [heq]
      refine ⟨?_, ?_, ?_⟩
      · intro x hx
        rcases List.mem_cons.mp hx with rfl | hin
        · exact hvalid
        · exact heach x hin
      · refine hchain.cons ?_
        intro x hx
        rw [hhead x hx, htarget]
      · intro x hx
        rw [List.head?_cons, Option.mem_def] at hx
        rw [← Option.some.inj hx]
        exact horigin

theorem legs_getLast? (rest : List (SearchNode W)) :
    ∀ (a b last : SearchNode W), PathOk v viaDock (a :: b :: rest) →
      (a :: b :: rest).getLast? = some last →
      ∃ step, (legs v viaDock (a :: b :: rest)).getLast? = some step ∧ step.target = last.tile := by
  induction rest with
  | nil =>
      intro a b last h hlast
      obtain ⟨step, heq, -, -, htarget, -⟩ := legs_cons_cons h
      rw [heq]
      refine ⟨step, rfl, ?_⟩
      rw [List.getLast?_cons_cons, List.getLast?_singleton] at hlast
      rw [htarget, Option.some.inj hlast]
  | cons c rest ih =>
      intro a b last h hlast
      obtain ⟨step, heq, -⟩ := legs_cons_cons h
      rw [List.getLast?_cons_cons] at hlast
      obtain ⟨final, hfinal, htarget⟩ := ih b c last h.tail hlast
      refine ⟨final, ?_, htarget⟩
      rw [heq, List.getLast?_cons, hfinal]
      rfl

/-- **The steps along a path of legal moves are a valid chain.** -/
theorem legs_validChain {a b last : SearchNode W} (h : PathOk v viaDock (a :: b :: rest))
    (hstart : a.tile ∈ v.sources) (hlast : (a :: b :: rest).getLast? = some last)
    (hgoal : last.tile = v.goal) : ValidChain v (legs v viaDock (a :: b :: rest)) := by
  obtain ⟨heach, hchain, -⟩ := legs_each (b :: rest) a h
  obtain ⟨step, heq, -, horigin, -⟩ := legs_cons_cons h
  obtain ⟨final, hfinal, htarget⟩ := legs_getLast? rest a b last h hlast
  exact
    { starts := ⟨step, _, heq, by rw [horigin]; exact ownedOrigin_iff.mpr hstart⟩
      linked := hchain
      each := heach
      arrives := ⟨final, hfinal, htarget.trans hgoal⟩ }

/-! ## §4. Totals. -/

theorem totalsMatch_emptyPlan (goal : TileKey W) (reachable : Bool)
    (reason : Option WaypointBlockReason) : TotalsMatch (emptyPlan goal reachable reason) :=
  ⟨rfl, rfl, rfl, rfl, rfl⟩

theorem TotalsMatch.push {plan : WaypointPlan W} (h : TotalsMatch plan) (step : WaypointStep W) :
    TotalsMatch (plan.push v step) := by
  unfold WaypointPlan.push
  constructor
  · simp [h.gold]
  · simp [h.manpower]
  · simp [h.duration]
  · rw [List.countP_append, ← h.expands]
    by_cases hact : step.action = .EXPAND
    · simp [hact]
    · simp [hact]
  · rw [List.countP_append, ← h.attacks]
    by_cases hact : step.action = .ATTACK
    · simp [hact]
    · simp [hact]

theorem addSteps_totals (rest : List (SearchNode W)) :
    ∀ (a : SearchNode W) (plan : WaypointPlan W), TotalsMatch plan →
      TotalsMatch (addSteps v viaDock (a :: rest) plan) := by
  induction rest with
  | nil =>
      intro a plan h
      exact h
  | cons b rest ih =>
      intro a plan h
      rw [addSteps]
      split
      · exact ih b plan h
      · exact ih b _ (h.push _)

theorem addSteps_steps {viaDock : SearchNode W → Bool} (rest : List (SearchNode W)) :
    ∀ (a : SearchNode W) (plan : WaypointPlan W),
      (addSteps v viaDock (a :: rest) plan).steps = plan.steps ++ legs v viaDock (a :: rest)
        ∧ (addSteps v viaDock (a :: rest) plan).reachable = plan.reachable := by
  induction rest with
  | nil =>
      intro a plan
      exact ⟨(List.append_nil _).symm, rfl⟩
  | cons b rest ih =>
      intro a plan
      rw [addSteps, legs]
      cases hstep : stepBetween v viaDock a b with
      | none => exact ih b plan
      | some step =>
          obtain ⟨hsteps, hreach⟩ := ih b (plan.push v step)
          refine ⟨?_, hreach⟩
          dsimp only
          rw [hsteps]
          show (plan.steps ++ [step]) ++ _ = _
          rw [List.append_assoc]
          rfl

/-! ## §5. The path walked back. -/

theorem SearchInv.parents_labelled {s : Search W} (hs : SearchInv v (fun _ => False) s)
    {n p : SearchNode W} (h : s.cameFrom n = some p) : ∃ k, s.gScore p = some k := by
  obtain ⟨ku, kv, hp, -, -⟩ := hs.pays n p h
  exact ⟨ku, hp⟩

theorem head_labelled {s : Search W} (hs : SearchInv v (fun _ => False) s) {a last : SearchNode W}
    (hlast : (a :: rest).getLast? = some last) (hlabel : ∃ k, s.gScore last = some k)
    (hchain : List.IsChain (fun u n => s.cameFrom n = some u) (a :: rest)) :
    ∃ k, s.gScore a = some k := by
  cases rest with
  | nil =>
      rw [List.getLast?_singleton] at hlast
      rw [Option.some.inj hlast]
      exact hlabel
  | cons b rest => exact hs.parents_labelled (List.isChain_cons_cons.mp hchain).1

/-- **What walking back from the goal returns**: a path of legal moves that
starts on owned ground, leaves it at once and ends at the goal state. -/
theorem reconstruct_spec {s : Search W} (hs : SearchInv v (fun _ => False) s)
    {goalState : SearchNode W} (hlabel : ∃ k, s.gScore goalState = some k)
    {path : List (SearchNode W)} (h : reconstruct v s goalState = some path) :
    ∃ a rest, path = a :: rest ∧ a.tile ∈ v.sources
      ∧ (a :: rest).getLast? = some goalState ∧ PathOk v s.viaDock (a :: rest)
      ∧ List.IsChain (fun u n => s.cameFrom n = some u) (a :: rest) := by
  obtain ⟨hends, ⟨a, rest, rfl, hstop⟩, hchain, hinner⟩ :=
    BestFirst.traced_of_traceBack _ goalState [] path (List.isChain_singleton _) h
  have hlast : (a :: rest).getLast? = some goalState := by
    obtain ⟨before, hbefore⟩ := hends
    rw [← hbefore]
    exact List.getLast?_concat
  refine ⟨a, rest, rfl, ?_, hlast, ?_, hchain⟩
  · rcases hstop with howned | hroot
    · exact of_decide_eq_true howned
    · obtain ⟨k, hk⟩ := head_labelled hs hlast hlabel hchain
      exact hs.rooted a k hk hroot
  · refine ⟨hchain.imp (fun u n hparent => hs.moved n u hparent), ?_⟩
    intro n hn
    rcases hinner n hn with hnil | hfree
    · cases hnil
    · exact of_decide_eq_false hfree

/-! ## §6. Every reachable plan. -/

theorem planFor_reachable {plan : WaypointPlan W} (h : planFor v = some plan)
    (hreach : plan.reachable = true) :
    ∃ s' popped rest path, search v = ({ s' with heap := rest }, some popped.node)
      ∧ EndedAt v (Search.seeded v) s' popped rest
      ∧ reconstruct v s' popped.node = some path ∧ 2 ≤ path.length
      ∧ plan = addSteps v s'.viaDock path (emptyPlan v.goal true none) := by
  unfold planFor at h
  split at h
  · cases h
    cases hreach
  · by_cases hsources : v.sources = []
    · rw [if_pos hsources] at h
      cases h
      cases hreach
    · rw [if_neg hsources] at h
      rcases search_spec v with ⟨s', heq, -⟩ | ⟨s', popped, rest, heq, hend⟩
      · rw [heq] at h
        cases h
        cases hreach
      · rw [heq] at h
        dsimp only at h
        have hsame : reconstruct v { s' with heap := rest } popped.node
            = reconstruct v s' popped.node := rfl
        rw [hsame] at h
        cases hpath : reconstruct v s' popped.node with
        | none =>
            rw [hpath] at h
            cases h
        | some path =>
            rw [hpath] at h
            dsimp only at h
            by_cases hshort : path.length < 2
            · rw [if_pos hshort] at h
              cases h
              cases hreach
            · rw [if_neg hshort] at h
              cases h
              exact ⟨s', popped, rest, path, heq, hend, hpath, by omega, rfl⟩

theorem EndedAt.labelled {s s' : Search W} {popped : HeapEntry W}
    {rest : BinaryHeap.MinHeap (fun entry : HeapEntry W => entry.score)}
    (h : EndedAt v s s' popped rest) :
    ∃ k, s'.gScore popped.node = some k ∧ k + v.h popped.node.tile ≤ popped.score :=
  h.inv.queueSound _ _ ((BinaryHeap.MinHeap.mem_pop h.pop _).mpr (Or.inl rfl))

theorem planFor_validChain {plan : WaypointPlan W} (h : planFor v = some plan)
    (hreach : plan.reachable = true) : ValidChain v plan.steps ∧ TotalsMatch plan := by
  obtain ⟨s', popped, rest, path, -, hend, hpath, hlength, rfl⟩ := planFor_reachable h hreach
  obtain ⟨k, hlabel, -⟩ := hend.labelled
  obtain ⟨a, tail, rfl, hstart, hlast, hok, -⟩ := reconstruct_spec hend.inv ⟨k, hlabel⟩ hpath
  cases tail with
  | nil =>
      rw [List.length_singleton] at hlength
      omega
  | cons b tail =>
      refine ⟨?_, addSteps_totals _ _ _ (totalsMatch_emptyPlan _ _ _)⟩
      rw [(addSteps_steps _ _ _).1]
      exact legs_validChain hok hstart hlast hend.goal

/-- **Every reachable plan the planner returns is a valid chain**, for
every map view and every choice of options, and its totals are the sums
over its steps. -/
theorem planWaypoint_validChain (around : Surroundings W) (target : Int × Int)
    (deps : WaypointPlannerDeps W) (plan : WaypointPlan W)
    (h : planWaypoint around target deps = some plan) (hreach : plan.reachable = true) :
    ∃ me, deps.state.me = some me
      ∧ ValidChain (surveyOf around target deps me) plan.steps ∧ TotalsMatch plan := by
  unfold planWaypoint at h
  cases hme : deps.state.me with
  | none =>
      rw [hme] at h
      cases h
      cases hreach
  | some me =>
      rw [hme] at h
      exact ⟨me, rfl, planFor_validChain h hreach⟩

/-! ## §7. A crossing. -/

/-- A tile nothing is built on and nothing is happening to. -/
def bareTile (terrain : Terrain) (ownerId : Option PlayerId) : WaypointPlannerTile where
  ownerId := ownerId
  ownershipState := none
  terrain := terrain
  fogged := false
  frontierDecayAt := none
  frontierDecayKind := none
  fort := none

/-- A plain without forest or hills, at time zero. -/
def plain : Surroundings smallestWorld where
  gen := ⟨fun _ => false, fun _ => false, fun _ => false⟩
  ground := ⟨InsertionMap.empty, [], 0, 0⟩
  dateNow := 0

/-- One owned dock at (5, 5), linked to a neutral dock across the map, with
an enemy tile two steps away behind a strip of sea. -/
def strait : WaypointPlannerDeps smallestWorld where
  state :=
    { domainIds := []
      me := some playerOne
      tiles := InsertionMap.ofEntries
        [ (wrappedTile _ 5 5, bareTile .LAND (some playerOne)),
          (wrappedTile _ 6 5, bareTile .SEA none),
          (wrappedTile _ 7 5, bareTile .LAND (some playerTwo)),
          (wrappedTile _ 40 40, bareTile .LAND none) ]
      dockPairs := [⟨wrappedTile _ 5 5, wrappedTile _ 40 40⟩]
      allies := []
      activeTruces := []
      expandManpowerCost := none }
  attackDurationMs := none
  expandDurationMsAt := none
  now := none
  isInReach := none

/-- Ashore at the far dock and two steps on. -/
theorem planWaypoint_validChain_ashore : ∃ plan, planWaypoint plain (42, 41) strait = some plan
    ∧ plan.steps.map (·.viaDock) = [true, false, false]
    ∧ ∃ me, strait.state.me = some me
      ∧ ValidChain (surveyOf plain (42, 41) strait me) plan.steps ∧ TotalsMatch plan := by
  have hrun : (planWaypoint plain (42, 41) strait).map
      (fun plan => (plan.reachable, plan.steps.map (·.viaDock)))
        = some (true, [true, false, false]) := by decide +kernel
  obtain ⟨plan, hplan, hread⟩ := Option.map_eq_some_iff.mp hrun
  obtain ⟨hreach, hsteps⟩ := Prod.mk.inj hread
  exact ⟨plan, hplan, hsteps, planWaypoint_validChain plain (42, 41) strait plan hplan hreach⟩

end BorderEmpires.Waypoints
