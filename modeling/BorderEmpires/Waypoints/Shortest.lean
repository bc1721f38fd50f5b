/-
  BorderEmpires.Waypoints.Shortest
  **THE PLAN IS A CHEAPEST CHAIN.**

  The cost of a chain is the time its steps take and one millisecond for
  each turn.  When no step is faster than `FRONTIER_CLAIM_MS` and the
  search is not cut short, the planner returns a cheapest valid chain, and
  refuses only when there is none.
-/
import Mathlib.Algebra.Order.Archimedean.Basic
import Mathlib.Tactic.Linarith
import BorderEmpires.Waypoints.Chains

namespace BorderEmpires.Waypoints

open BestFirst (Route Consistent pathCost)

variable {W : WorldSize}

/-! ## §1. What a chain costs. -/

def headingOf (step : WaypointStep W) : Option (Fin 8) :=
  if step.viaDock then none
  else (List.finRange 8).find? (fun dirIdx => decide (neighborOf step.origin dirIdx = step.target))

/-- The turns of a chain that is entered with a heading. -/
def turnCost : Option (Fin 8) → List (WaypointStep W) → ℚ
  | _, [] => 0
  | heading, step :: rest => turnTo heading (headingOf step) + turnCost (headingOf step) rest

def chainCost (steps : List (WaypointStep W)) : ℚ :=
  (steps.map (·.durationMs)).sum + turnCost none steps

def ChainTo (around : Surroundings W) (target : Int × Int) (deps : WaypointPlannerDeps W)
    (steps : List (WaypointStep W)) : Prop :=
  ∃ me, deps.state.me = some me ∧ ValidChain (surveyOf around target deps me) steps

variable {v : Survey W}

theorem headingOf_walk {step : WaypointStep W} {dirIdx : Fin 8} (hdock : step.viaDock = false)
    (htarget : step.target = neighborOf step.origin dirIdx) : headingOf step = some dirIdx := by
  unfold headingOf
  rw [hdock, if_neg (by decide), htarget]
  have hfound : ((List.finRange 8).find?
      (fun d => decide (neighborOf step.origin d = neighborOf step.origin dirIdx))).isSome = true := by
    rw [List.find?_isSome]
    exact ⟨dirIdx, List.mem_finRange dirIdx, decide_eq_true rfl⟩
  obtain ⟨d, hd⟩ := Option.isSome_iff_exists.mp hfound
  have hsame := @List.find?_some _ _ _ _ hd
  rw [hd, neighborOf_inj (of_decide_eq_true hsame)]

theorem headingOf_dock {step : WaypointStep W} (hdock : step.viaDock = true) :
    headingOf step = none := by
  unfold headingOf
  rw [if_pos hdock]

variable {steps : List (WaypointStep W)} {viaDock : SearchNode W → Bool}

theorem headingOf_move {a b : SearchNode W} {step : WaypointStep W} (hmove : Move v (viaDock b) a b)
    (horigin : step.origin = a.tile) (htarget : step.target = b.tile)
    (hdock : step.viaDock = viaDock b) : headingOf step = b.dir := by
  generalize viaDock b = dock at hmove hdock
  cases hmove with
  | walk _ dirIdx classified _ =>
      refine headingOf_walk hdock ?_
      rw [htarget, horigin]
  | jump src dest classified _ _ _ => exact headingOf_dock hdock

/-! ## §2. The plan costs no more than the goal's label. -/

theorem legs_cost (rest : List (SearchNode W)) :
    ∀ a : SearchNode W, PathOk v viaDock (a :: rest) →
      ((legs v viaDock (a :: rest)).map (·.durationMs)).sum
          + turnCost a.dir (legs v viaDock (a :: rest))
        = pathCost (moveCost v) (a :: rest) := by
  induction rest with
  | nil =>
      intro a _
      exact add_zero 0
  | cons b rest ih =>
      intro a h
      obtain ⟨step, heq, -, horigin, htarget, hdock, hdur⟩ := legs_cons_cons h
      have hheading := headingOf_move (List.isChain_cons_cons.mp h.moves).1 horigin htarget hdock
      rw [heq, List.map_cons, List.sum_cons, turnCost, hheading, hdur,
        BestFirst.pathCost_cons_cons, ← ih b h.tail]
      unfold moveCost
      ring

theorem turnCost_none_le (heading : Option (Fin 8)) (steps : List (WaypointStep W)) :
    turnCost none steps ≤ turnCost heading steps := by
  cases steps with
  | nil => exact le_refl _
  | cons step rest =>
      rw [turnCost, turnCost]
      refine add_le_add ?_ (le_refl _)
      cases headingOf step with
      | none => exact le_refl _
      | some dirIdx => exact turnPenalty_nonneg heading dirIdx

theorem legs_cost_le {a : SearchNode W} {rest : List (SearchNode W)}
    (h : PathOk v viaDock (a :: rest)) :
    chainCost (legs v viaDock (a :: rest)) ≤ pathCost (moveCost v) (a :: rest) := by
  rw [← legs_cost rest a h]
  exact add_le_add (le_refl _) (turnCost_none_le _ _)

/-! ## §3. The estimate is consistent along steps. -/

/-- Every step takes at least `FRONTIER_CLAIM_MS`. -/
structure DurationsOk (v : Survey W) : Prop where
  attack : FRONTIER_CLAIM_MS ≤ v.c.attackDurationMs
  expand : ∀ t, FRONTIER_CLAIM_MS ≤ v.c.expandDurationMsAt t

theorem claimMs_pos : 0 < FRONTIER_CLAIM_MS := by decide +kernel

theorem DurationsOk.durationMs_ge (hdur : DurationsOk v) {t : TileKey W}
    (howned : t ∉ v.sources) (hpass : v.classify t ≠ .IMPASSABLE) :
    FRONTIER_CLAIM_MS ≤ (v.classify t).durationMs := by
  cases hclass : v.classify t with
  | OWN => exact absurd (Survey.classify_eq_OWN_iff.mp hclass) howned
  | IMPASSABLE => exact absurd hclass hpass
  | NEUTRAL durationMs =>
      unfold Survey.classify classifyForSearch at hclass
      cases hget : v.state.tiles.get t with
      | none =>
          rw [hget] at hclass
          cases hclass
          exact hdur.expand t
      | some tile =>
          rw [hget] at hclass
          dsimp only at hclass
          unfold classifyTile at hclass
          by_cases hland : tile.terrain ≠ .LAND
          · rw [if_pos hland] at hclass
            cases hclass
          · rw [if_neg hland] at hclass
            cases howner : tile.ownerId with
            | none =>
                rw [howner] at hclass
                cases hclass
                exact hdur.expand t
            | some ownerId =>
                rw [howner] at hclass
                dsimp only at hclass
                by_cases hme : ownerId = v.c.me
                · rw [if_pos hme] at hclass
                  cases hcut : isFrontierOriginCutOff tile v.c.now <;>
                    simp [hcut] at hclass
                · simp only [if_neg hme] at hclass
                  by_cases hally : ownerId ∈ v.c.alliedPlayerIds
                  · simp [hally] at hclass
                  · by_cases htruce : ownerId ∈ v.c.truceTargetIds
                    · simp [hally, htruce] at hclass
                    · simp [hally, htruce] at hclass
  | ENEMY durationMs =>
      unfold Survey.classify classifyForSearch at hclass
      cases hget : v.state.tiles.get t with
      | none =>
          rw [hget] at hclass
          cases hclass
      | some tile =>
          rw [hget] at hclass
          obtain ⟨-, hms, -⟩ := (classifyTile_eq_ENEMY_iff _ _ _ _).mp hclass
          show FRONTIER_CLAIM_MS ≤ durationMs
          rw [hms]
          exact hdur.attack

theorem durationMs_nonneg (hdur : DurationsOk v) (t : TileKey W) :
    0 ≤ (v.classify t).durationMs := by
  by_cases howned : t ∈ v.sources
  · rw [Survey.classify_eq_OWN_iff.mpr howned]
    exact le_refl _
  · by_cases hpass : v.classify t = .IMPASSABLE
    · rw [hpass]
      exact le_refl _
    · exact le_trans (le_of_lt claimMs_pos) (hdur.durationMs_ge howned hpass)

theorem chebyshev_step (t goal : TileKey W) (dirIdx : Fin 8) :
    chebyshevWithWrap W t.x t.y goal.x goal.y
      ≤ 1 + chebyshevWithWrap W (neighborOf t dirIdx).x (neighborOf t dirIdx).y goal.x goal.y := by
  have hd : ((NEIGHBOR_OFFSETS.getD dirIdx.val (0, 0)).1.natAbs : Int) ≤ 1
      ∧ ((NEIGHBOR_OFFSETS.getD dirIdx.val (0, 0)).2.natAbs : Int) ≤ 1 := by
    have hsmall := neighbor_offset_small dirIdx
    omega
  have hx := RingDistance.le_add_step (c := goal.x.val) (by omega)
    (t.shift_x_emod (NEIGHBOR_OFFSETS.getD dirIdx.val (0, 0)))
  have hy := RingDistance.le_add_step (c := goal.y.val) (by omega)
    (t.shift_y_emod (NEIGHBOR_OFFSETS.getD dirIdx.val (0, 0)))
  exact max_le (le_trans hx (add_le_add hd.1 (le_max_left _ _)))
    (le_trans hy (add_le_add hd.2 (le_max_right _ _)))

/-- **The estimate is consistent along the steps of a chain**, headings and
turn penalties included. -/
theorem stepMove_consistent (hdur : DurationsOk v) :
    Consistent (StepMove v) (fun n => v.h n.tile) := by
  rintro p n cost ⟨dirIdx, rfl, rfl, hpass, -, howned⟩
  have hstep : FRONTIER_CLAIM_MS ≤ moveCost v p ⟨neighborOf p.tile dirIdx, some dirIdx⟩ :=
    le_trans (hdur.durationMs_ge howned hpass) (le_moveCost _ _)
  have hcheb : (chebyshevWithWrap W p.tile.x p.tile.y v.goal.x v.goal.y : ℚ)
      ≤ 1 + chebyshevWithWrap W (neighborOf p.tile dirIdx).x (neighborOf p.tile dirIdx).y
        v.goal.x v.goal.y := by
    exact_mod_cast chebyshev_step p.tile v.goal dirIdx
  unfold Survey.h
  have hscaled := mul_le_mul_of_nonneg_right hcheb (le_of_lt claimMs_pos)
  rw [add_mul, one_mul] at hscaled
  exact le_trans hscaled (add_le_add hstep (le_refl _))

theorem h_goal : v.h v.goal = 0 := by
  have hw := W.width_ok
  have hh := W.height_ok
  have hzero : chebyshevWithWrap W v.goal.x v.goal.y v.goal.x v.goal.y = 0 := by
    unfold chebyshevWithWrap
    simp
  unfold Survey.h
  rw [hzero]
  simp

/-! ## §4. A valid chain is a route from a seeded state. -/

theorem exists_dir_of_mem_neighbors {t u : TileKey W} (h : u ∈ t.neighbors) :
    ∃ dirIdx, u = neighborOf t dirIdx := by
  obtain ⟨d, hd, rfl⟩ := List.mem_map.mp h
  have hindex : ∀ e ∈ NEIGHBOR_OFFSETS, ∃ dirIdx : Fin 8,
      e = NEIGHBOR_OFFSETS.getD dirIdx.val (0, 0) := by decide
  obtain ⟨dirIdx, rfl⟩ := hindex d hd
  exact ⟨dirIdx, rfl⟩

theorem enterable_spec {t : TileKey W} (h : NeutralLand v t ∨ EnemyLand v t) :
    t ∉ v.sources ∧ v.classify t ≠ .IMPASSABLE := by
  rcases h with hneutral | henemy
  · have hclass := isNeutral_iff.mpr hneutral
    constructor
    · intro howned
      rw [Survey.classify_eq_OWN_iff.mpr howned] at hclass
      cases hclass
    · intro himp
      rw [himp] at hclass
      cases hclass
  · obtain ⟨durationMs, hclass⟩ := classify_eq_ENEMY_iff.mpr henemy
    constructor
    · intro howned
      rw [Survey.classify_eq_OWN_iff.mpr howned] at hclass
      cases hclass
    · intro himp
      rw [himp] at hclass
      cases hclass

theorem not_viaDock_of_entered {step : WaypointStep W} (hstep : ValidStep v step)
    (hfresh : step.origin ∉ v.sources) : step.viaDock = false := by
  rcases hstep.edge with ⟨hdock, -⟩ | ⟨-, hcross⟩
  · exact hdock
  · exact absurd (ownedOrigin_iff.mp hcross.1) hfresh

theorem stepMove_of_step {step : WaypointStep W} {u : SearchNode W}
    (hdock : step.viaDock = false) (horigin : step.origin = u.tile) (hstep : ValidStep v step) :
    ∃ n, n.tile = step.target ∧ headingOf step = n.dir
      ∧ StepMove v u n (step.durationMs + turnTo u.dir n.dir) := by
  obtain ⟨howned, hpass⟩ := enterable_spec hstep.enters
  rcases hstep.edge with ⟨-, hmem⟩ | ⟨hcross, -⟩
  · obtain ⟨dirIdx, htarget⟩ := exists_dir_of_mem_neighbors hmem
    have hnode : neighborOf u.tile dirIdx = step.target := by rw [htarget, horigin]
    refine ⟨⟨neighborOf u.tile dirIdx, some dirIdx⟩, hnode, headingOf_walk hdock htarget,
      dirIdx, rfl, ?_, ?_, ?_, ?_⟩
    · rw [hstep.duration, ← hnode]
      rfl
    · rw [hnode]
      exact hpass
    · rw [hnode]
      exact reachAdmits_iff.mpr hstep.reach
    · rw [hnode]
      exact howned
  · rw [hdock] at hcross
    cases hcross

/-- **Steps to neighbours are a route.**  Induction along the chain; the
heading is carried in the state. -/
theorem route_of_chain (rest : List (WaypointStep W)) : ∀ (u : SearchNode W) (step : WaypointStep W),
    step.viaDock = false → step.origin = u.tile →
    List.IsChain (fun a b => b.origin = a.target) (step :: rest) →
    (∀ s ∈ step :: rest, ValidStep v s) → ∀ last, (step :: rest).getLast? = some last →
      ∃ n, n.tile = last.target ∧ Route (StepMove v) u n
        (((step :: rest).map (·.durationMs)).sum + turnCost u.dir (step :: rest)) := by
  induction rest with
  | nil =>
      intro u step hdock horigin _ heach last hlast
      obtain ⟨n, htile, hdir, hmove⟩ :=
        stepMove_of_step hdock horigin (heach step List.mem_cons_self)
      rw [List.getLast?_singleton] at hlast
      refine ⟨n, by rw [htile, Option.some.inj hlast], ?_⟩
      have hcost : ([step].map (·.durationMs)).sum + turnCost u.dir [step]
          = (step.durationMs + turnTo u.dir n.dir) + 0 := by
        rw [turnCost, turnCost, hdir]
        simp
      rw [hcost]
      exact Route.go hmove (Route.stay n)
  | cons next rest ih =>
      intro u step hdock horigin hchain heach last hlast
      obtain ⟨n, htile, hdir, hmove⟩ :=
        stepMove_of_step hdock horigin (heach step List.mem_cons_self)
      have hlinked := List.isChain_cons_cons.mp hchain
      have hfresh : next.origin ∉ v.sources := by
        rw [hlinked.1]
        exact (enterable_spec (heach step List.mem_cons_self).enters).1
      have hnext := heach next (by simp)
      rw [List.getLast?_cons_cons] at hlast
      obtain ⟨goal, hgoal, hroute⟩ := ih n next (not_viaDock_of_entered hnext hfresh)
        (hlinked.1.trans htile.symm) hlinked.2
        (fun s hs => heach s (List.mem_cons_of_mem _ hs)) last hlast
      refine ⟨goal, hgoal, ?_⟩
      have hcost : ((step :: next :: rest).map (·.durationMs)).sum
            + turnCost u.dir (step :: next :: rest)
          = (step.durationMs + turnTo u.dir n.dir)
            + (((next :: rest).map (·.durationMs)).sum + turnCost n.dir (next :: rest)) := by
        rw [List.map_cons, List.sum_cons, turnCost, hdir]
        ring
      rw [hcost]
      exact Route.go hmove hroute

/-! ## §5. The planner returns. -/

theorem standing_label {s : Search W} (hs : SearchInv v (fun _ => False) s) (hdur : DurationsOk v)
    (turns : Nat) : ∀ (n x : SearchNode W) (k : ℚ), s.gScore n = some k →
      BestFirst.standing (fun node => v.preOwned node.tile) s.cameFrom turns n = some x →
      ∃ kx, s.gScore x = some kx ∧ kx + turns * FRONTIER_CLAIM_MS ≤ k := by
  induction turns with
  | zero =>
      intro n x k hlabel hstand
      cases hstand
      exact ⟨k, hlabel, by rw [Nat.cast_zero, zero_mul, add_zero]⟩
  | succ turns ih =>
      intro n x k hlabel hstand
      cases howned : v.preOwned n.tile with
      | true =>
          rw [BestFirst.standing, howned] at hstand
          cases hstand
      | false =>
          cases hparent : s.cameFrom n with
          | none =>
              rw [BestFirst.standing, howned, hparent] at hstand
              cases hstand
          | some p =>
              rw [BestFirst.standing, howned, hparent] at hstand
              obtain ⟨kp, kn, hp, hn, hpaid⟩ := hs.pays n p hparent
              rw [hlabel] at hn
              cases hn
              obtain ⟨kx, hx, hle⟩ := ih p x kp hp hstand
              have hcost : FRONTIER_CLAIM_MS ≤ moveCost v p n :=
                le_trans (hdur.durationMs_ge (of_decide_eq_false howned)
                  (hs.moved n p hparent).passable.1) (le_moveCost p n)
              refine ⟨kx, hx, ?_⟩
              rw [Nat.cast_succ, add_mul, one_mul]
              linarith

/-- **Walking back ends**: every turn gives back at least one claim's time. -/
theorem reconstruct_some {s : Search W} (hs : SearchInv v (fun _ => False) s)
    (hdur : DurationsOk v) {n : SearchNode W} {k : ℚ} (hlabel : s.gScore n = some k) :
    ∃ path, reconstruct v s n = some path := by
  cases hpath : reconstruct v s n with
  | some path => exact ⟨path, rfl⟩
  | none =>
      obtain ⟨turns, hturns⟩ := exists_nat_gt (k / FRONTIER_CLAIM_MS)
      have hstand := (BestFirst.traceBack_eq_none_iff turns n []).mp (walkBack_never hpath turns)
      obtain ⟨x, hx⟩ := Option.isSome_iff_exists.mp hstand
      obtain ⟨kx, hkx, hle⟩ := standing_label hs hdur turns n x k hlabel hx
      have hpos := hs.nonneg (durationMs_nonneg hdur) x kx hkx
      have hbig := (div_lt_iff₀ claimMs_pos).mp hturns
      linarith

/-! ## §6. No chain is cheaper. -/

theorem mem_dockLinks_of_crossing {pair : DockPair W} {origin target : TileKey W}
    (hpair : pair ∈ v.state.dockPairs)
    (hland : (pair.a = origin ∧ isDockLandingTile v.terrainAt pair.b target = true)
      ∨ (pair.b = origin ∧ isDockLandingTile v.terrainAt pair.a target = true)) :
    target ∈ v.dockLinks origin := by
  refine List.mem_flatMap.mpr ⟨pair, hpair, ?_⟩
  rcases hland with ⟨heq, hland⟩ | ⟨heq, hland⟩
  · rw [if_pos heq]
    exact List.mem_append_left _ (mem_landingGround_of_isDockLandingTile hland)
  · rw [if_pos heq]
    exact List.mem_append_right _ (mem_landingGround_of_isDockLandingTile hland)

/-- **Every valid chain is a route from a labelled state**, and label and
route together cost no more than the chain. -/
theorem exists_route (h : ValidChain v steps) :
    ∃ u n k c, (Search.seeded v).gScore u = some k ∧ n.tile = v.goal
      ∧ Route (StepMove v) u n c ∧ k + c ≤ chainCost steps := by
  obtain ⟨step, rest, rfl, hstart⟩ := h.starts
  obtain ⟨last, hlast, hgoal⟩ := h.arrives
  have hsource := ownedOrigin_iff.mp hstart
  have hstep := h.each step List.mem_cons_self
  obtain ⟨hinv, hlanded⟩ := searchInv_seeded v
  rcases hdock : step.viaDock with _ | _
  · -- on foot: the route starts on the origin
    obtain ⟨n, htile, hroute⟩ := route_of_chain rest ⟨step.origin, none⟩ step hdock rfl h.linked
      h.each last hlast
    refine ⟨⟨step.origin, none⟩, n, 0, _, hinv.sourced _ hsource, htile.trans hgoal, hroute, ?_⟩
    rw [zero_add]
    exact le_refl _
  · -- ashore: the route starts where the crossing lands
    obtain ⟨howned, hpass⟩ := enterable_spec hstep.enters
    rcases hstep.edge with ⟨hwalk, -⟩ | ⟨-, -, pair, hpair, hland⟩
    · rw [hdock] at hwalk
      cases hwalk
    · have hdest : step.target ∈ v.dockLinks step.origin := mem_dockLinks_of_crossing hpair hland
      obtain ⟨k, hk, hle⟩ := hlanded _ hsource _ hdest hpass (reachAdmits_iff.mpr hstep.reach)
      have hcost : chainCost (step :: rest) = step.durationMs
          + ((rest.map (·.durationMs)).sum + turnCost none rest) := by
        unfold chainCost
        rw [List.map_cons, List.sum_cons, turnCost, headingOf_dock hdock, turnTo]
        ring
      cases rest with
      | nil =>
          rw [List.getLast?_singleton] at hlast
          refine ⟨⟨step.target, none⟩, ⟨step.target, none⟩, k, 0, hk,
            (congrArg WaypointStep.target (Option.some.inj hlast)).trans hgoal,
            Route.stay _, ?_⟩
          rw [hcost, hstep.duration]
          simpa [turnCost] using hle
      | cons next rest =>
          have hlinked := List.isChain_cons_cons.mp h.linked
          rw [List.getLast?_cons_cons] at hlast
          have hfresh : next.origin ∉ v.sources := by
            rw [hlinked.1]
            exact howned
          have hnext := h.each next (by simp)
          obtain ⟨n, htile, hroute⟩ := route_of_chain rest ⟨step.target, none⟩ next
            (not_viaDock_of_entered hnext hfresh) hlinked.1 hlinked.2
            (fun s hs => h.each s (List.mem_cons_of_mem _ hs)) last hlast
          refine ⟨_, n, k, _, hk, htile.trans hgoal, hroute, ?_⟩
          rw [hcost, hstep.duration]
          exact add_le_add hle (le_refl _)

theorem queued_le_chain {s' : Search W} (hdur : DurationsOk v)
    (hinv : SearchInv v (fun _ => False) s') (hdrop : LabelsDrop (Search.seeded v) s')
    (h : ValidChain v steps) : ∃ score n, s'.queued score n ∧ score ≤ chainCost steps := by
  obtain ⟨u, n, k, c, hk, hgoal, hroute, hle⟩ := exists_route h
  obtain ⟨k', hk', hle'⟩ := hdrop u k hk
  obtain ⟨score, x, hq, hs⟩ :=
    hinv.frontier.queued_le_route (stepMove_consistent hdur) hroute hgoal k' hk'
  refine ⟨score, x, hq, le_trans hs ?_⟩
  rw [hgoal, h_goal, add_zero]
  exact le_trans (add_le_add hle' (le_refl _)) hle

theorem targetBlock_eq_none (h : NeutralLand v v.goal ∨ EnemyLand v v.goal) :
    targetBlock v = none := by
  unfold targetBlock Survey.goalTile
  cases hget : v.state.tiles.get v.goal with
  | none => rfl
  | some tile =>
      dsimp only
      rcases h with hneutral | ⟨tile', ownerId, heq, hland, howner, hme, hally, htruce⟩
      · obtain ⟨hland, howner⟩ := hneutral tile hget
        rw [if_neg (not_not_intro hland), howner]
      · rw [hget] at heq
        cases heq
        rw [if_neg (not_not_intro hland), howner]
        dsimp only
        rw [if_neg hme, if_neg hally, if_neg htruce]

theorem targetBlock_of_owned (h : v.goal ∈ v.sources) : targetBlock v ≠ none := by
  obtain ⟨tile, hget, howner, hland, -⟩ := ownedOrigin_iff.mpr h
  unfold targetBlock Survey.goalTile
  rw [hget]
  dsimp only
  rw [if_neg (not_not_intro hland), howner]
  dsimp only
  rw [if_pos rfl]
  exact fun h => (by cases h)

theorem ValidChain.goal_enterable (h : ValidChain v steps) :
    NeutralLand v v.goal ∨ EnemyLand v v.goal := by
  obtain ⟨last, hlast, hgoal⟩ := h.arrives
  rw [← hgoal]
  exact (h.each last (List.mem_of_getLast? hlast)).enters

def Settled (v : Survey W) (plan : WaypointPlan W) : Prop :=
  (plan.reachable = true ∧ ValidChain v plan.steps
      ∧ ∀ steps, ValidChain v steps → chainCost plan.steps ≤ chainCost steps)
    ∨ (plan.reachable = false ∧ ∀ steps, ¬ ValidChain v steps)

theorem settled_of_path {s' : Search W} {popped : HeapEntry W}
    {rest : BinaryHeap.MinHeap (fun entry : HeapEntry W => entry.score)} (hdur : DurationsOk v)
    (hend : EndedAt v (Search.seeded v) s' popped rest) {a b : SearchNode W}
    {tail : List (SearchNode W)} (hpath : reconstruct v s' popped.node = some (a :: b :: tail)) :
    Settled v (addSteps v s'.viaDock (a :: b :: tail) (emptyPlan v.goal true none)) := by
  obtain ⟨k, hlabel, hscore⟩ := hend.labelled
  obtain ⟨a', tail', heq, hstart, hlast, hok, hchain⟩ := reconstruct_spec hend.inv ⟨k, hlabel⟩ hpath
  cases heq
  obtain ⟨ka, hka⟩ := head_labelled hend.inv hlast ⟨k, hlabel⟩ hchain
  obtain ⟨hsteps, hreach⟩ := @addSteps_steps _ v s'.viaDock (b :: tail) a
    (emptyPlan v.goal true none)
  refine Or.inl ⟨hreach, ?_, ?_⟩
  · rw [hsteps]
    exact legs_validChain hok hstart hlast hend.goal
  · intro steps hvalid
    obtain ⟨score, x, hq, hle⟩ := queued_le_chain hdur hend.inv hend.drop hvalid
    have hleast : popped.score ≤ score := BinaryHeap.MinHeap.pop_least hend.pop hq
    have hpaid := hend.inv.pays.cost_le (b :: tail) a popped.node ka k hchain hlast hka hlabel
    have hpos := hend.inv.nonneg (durationMs_nonneg hdur) a ka hka
    rw [hend.goal, h_goal, add_zero] at hscore
    rw [hsteps]
    show chainCost (legs v s'.viaDock (a :: b :: tail)) ≤ chainCost steps
    have hlegs := legs_cost_le hok
    linarith

/-- **The planner settles every target**: it returns, and what it returns
is a cheapest chain or the news that there is none. -/
theorem planFor_settled (hdur : DurationsOk v) (hcap : (search v).1.expanded < maxExpanded) :
    ∃ plan, planFor v = some plan ∧ Settled v plan := by
  unfold planFor
  cases hblock : targetBlock v with
  | some reason =>
      refine ⟨_, rfl, Or.inr ⟨rfl, fun steps hvalid => ?_⟩⟩
      rw [targetBlock_eq_none hvalid.goal_enterable] at hblock
      cases hblock
  | none =>
      dsimp only
      by_cases hsources : v.sources = []
      · rw [if_pos hsources]
        refine ⟨_, rfl, Or.inr ⟨rfl, fun steps hvalid => ?_⟩⟩
        obtain ⟨step, rest, -, hstart⟩ := hvalid.starts
        have hmem := ownedOrigin_iff.mp hstart
        rw [hsources] at hmem
        cases hmem
      · rw [if_neg hsources]
        rcases search_spec v with ⟨s', heq, hend⟩ | ⟨s', popped, rest, heq, hend⟩
        · -- the queue ran dry, so no chain leads to the goal
          rw [heq]
          refine ⟨_, rfl, Or.inr ⟨rfl, fun steps hvalid => ?_⟩⟩
          obtain ⟨score, n, hq, -⟩ := queued_le_chain hdur hend.inv hend.drop hvalid
          rw [heq] at hcap
          rcases searchLoop_ended heq with hdry | hcapped
          · unfold Search.queued at hq
            rw [hdry] at hq
            cases hq
          · exact absurd hcap (Nat.not_lt.mpr hcapped)
        · rw [heq]
          dsimp only
          obtain ⟨k, hlabel, -⟩ := hend.labelled
          obtain ⟨path, hpath⟩ := reconstruct_some hend.inv hdur hlabel
          have hsame : reconstruct v { s' with heap := rest } popped.node
              = reconstruct v s' popped.node := rfl
          rw [hsame, hpath]
          dsimp only
          obtain ⟨a, tail, rfl, hstart, hlast, -, -⟩ := reconstruct_spec hend.inv ⟨k, hlabel⟩ hpath
          cases tail with
          | nil =>
              -- a path of one state would put the goal on owned ground
              rw [List.getLast?_singleton] at hlast
              rw [Option.some.inj hlast, hend.goal] at hstart
              exact absurd hblock (targetBlock_of_owned hstart)
          | cons b tail =>
              rw [if_neg (by simp)]
              exact ⟨_, rfl, settled_of_path hdur hend hpath⟩

def CapNotReached (around : Surroundings W) (target : Int × Int) (deps : WaypointPlannerDeps W) :
    Prop :=
  ∀ me, deps.state.me = some me → (search (surveyOf around target deps me)).1.expanded < maxExpanded

/-- **The planner returns a cheapest valid chain, and refuses only when
there is none.** -/
theorem planWaypoint_shortest (around : Surroundings W) (target : Int × Int)
    (deps : WaypointPlannerDeps W) (hcap : CapNotReached around target deps)
    (hattack : ∀ ms, deps.attackDurationMs = some ms → FRONTIER_CLAIM_MS ≤ ms)
    (hexpand : ∀ durationMsAt, deps.expandDurationMsAt = some durationMsAt →
      ∀ t, FRONTIER_CLAIM_MS ≤ durationMsAt t) :
    ∃ plan, planWaypoint around target deps = some plan
      ∧ ((plan.reachable = true ∧ ChainTo around target deps plan.steps
          ∧ ∀ steps, ChainTo around target deps steps → chainCost plan.steps ≤ chainCost steps)
        ∨ (plan.reachable = false ∧ ∀ steps, ¬ ChainTo around target deps steps)) := by
  unfold planWaypoint
  cases hme : deps.state.me with
  | none =>
      refine ⟨_, rfl, Or.inr ⟨rfl, ?_⟩⟩
      rintro steps ⟨me, hsome, -⟩
      rw [hme] at hsome
      cases hsome
  | some me =>
      have hdur : DurationsOk (surveyOf around target deps me) := by
        constructor
        · show FRONTIER_CLAIM_MS ≤ deps.attackDurationMs.getD COMBAT_LOCK_MS
          cases hms : deps.attackDurationMs with
          | none => exact (by decide +kernel : FRONTIER_CLAIM_MS ≤ COMBAT_LOCK_MS)
          | some ms => exact hattack ms hms
        · intro t
          show FRONTIER_CLAIM_MS ≤ deps.expandDurationMsAt.getD
            (frontierClaimDurationMsAt around.gen around.ground) t
          cases hms : deps.expandDurationMsAt with
          | none => exact frontierClaimDurationMsAt_ge around.gen around.ground t
          | some durationMsAt => exact hexpand durationMsAt hms t
      have hchain : ∀ steps, ChainTo around target deps steps
          ↔ ValidChain (surveyOf around target deps me) steps := by
        intro steps
        constructor
        · rintro ⟨me', hsome, hvalid⟩
          rw [hme] at hsome
          rw [Option.some.inj hsome]
          exact hvalid
        · exact fun hvalid => ⟨me, hme, hvalid⟩
      obtain ⟨plan, hplan, hsettled⟩ := planFor_settled hdur (hcap me hme)
      refine ⟨plan, hplan, ?_⟩
      rcases hsettled with ⟨hreach, hvalid, hleast⟩ | ⟨hblocked, hnone⟩
      · exact Or.inl ⟨hreach, (hchain _).mpr hvalid,
          fun steps hs => hleast steps ((hchain steps).mp hs)⟩
      · exact Or.inr ⟨hblocked, fun steps hs => hnone steps ((hchain steps).mp hs)⟩

/-- The enemy tile across the strip of sea: two steps around it. -/
theorem planWaypoint_shortest_strait : ∃ plan, planWaypoint plain (7, 5) strait = some plan
    ∧ ((plan.reachable = true ∧ ChainTo plain (7, 5) strait plan.steps
        ∧ ∀ steps, ChainTo plain (7, 5) strait steps → chainCost plan.steps ≤ chainCost steps)
      ∨ (plan.reachable = false ∧ ∀ steps, ¬ ChainTo plain (7, 5) strait steps)) := by
  refine planWaypoint_shortest plain (7, 5) strait ?_ (fun ms h => (by cases h))
    (fun durationMsAt h => (by cases h))
  intro me hme
  have hone : me = playerOne := Option.some.inj hme.symm
  subst hone
  decide +kernel

end BorderEmpires.Waypoints
