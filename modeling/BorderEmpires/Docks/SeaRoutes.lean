/-
  BorderEmpires.Docks.SeaRoutes
  **SEA ROUTES BETWEEN DOCKS.**

  A dock is snapped to a sea tile: its own, a cardinal neighbour, or one on
  the ring at distance two.  `computeSeaRouteWaypoints` joins the two sea
  tiles by A* over cardinal sea neighbours, with the wrapped Manhattan
  distance as estimate.  A tile stands for its world index.
-/
import BorderEmpires.Lib.AStar
import BorderEmpires.Lib.RingDistance
import BorderEmpires.World

namespace BorderEmpires.SeaRoutes

variable {W : WorldSize}

/-! ## §1. The route. -/

def isSeaTerrain : Terrain → Bool
  | .SEA => true
  | .COASTAL_SEA => true
  | .LAND => false
  | .MOUNTAIN => false

def manhattanToroid (a b : TileKey W) : ℕ :=
  let dx := ((a.x.val : ℤ) - b.x.val).natAbs
  let dy := ((a.y.val : ℤ) - b.y.val).natAbs
  min dx (W.width - dx) + min dy (W.height - dy)

/-- North, east, south, west. -/
def CARDINAL_OFFSETS : List (ℤ × ℤ) := [(0, -1), (1, 0), (0, 1), (-1, 0)]

def cardinalNeighbors (t : TileKey W) : List (TileKey W) := CARDINAL_OFFSETS.map t.shift

/-- The scan of radius two without the nine tiles in its middle. -/
def RADIUS2_OFFSETS : List (ℤ × ℤ) :=
  ([-2, -1, 0, 1, 2].flatMap (fun dx => [-2, -1, 0, 1, 2].map (fun dy => (dx, dy)))).filter
    (fun d => ¬ (d.1.natAbs ≤ 1 ∧ d.2.natAbs ≤ 1))

/-- `candidates.sort(by distance to the other dock)[0]`. -/
def nearestTo (towards : TileKey W) (candidates : List (TileKey W)) : Option (TileKey W) :=
  (candidates.mergeSort
    (fun left right => decide (manhattanToroid left towards ≤ manhattanToroid right towards))).head?

section Terrain

variable (terrainAt : TileKey W → Terrain)

def isSea (t : TileKey W) : Bool := isSeaTerrain (terrainAt t)

def snapToSeaNeighbor (t towards : TileKey W) : Option (TileKey W) :=
  if isSea terrainAt t then some t
  else
    let candidates := (cardinalNeighbors t).filter (isSea terrainAt)
    if 0 < candidates.length then nearestTo towards candidates
    else nearestTo towards ((RADIUS2_OFFSETS.map t.shift).filter (isSea terrainAt))

def seaNeighbors (t : TileKey W) : List (TileKey W) :=
  (cardinalNeighbors t).filter (isSea terrainAt)

def maxExpanded : ℕ := 200000

/-- The search from one sea tile to another, and whether it was solved. -/
def searchSea (aSea bSea : TileKey W) : AStar.State (TileKey W) × Bool :=
  AStar.search (seaNeighbors terrainAt) (fun t => manhattanToroid t bSea) bSea maxExpanded
    CARDINAL_OFFSETS.length aSea

/-- The walk back along `cameFrom`; it never runs out of tiles. -/
def reconstructSeaPath (cameFrom : TileKey W → Option (TileKey W)) (goal : TileKey W) :
    List (TileKey W) :=
  (BestFirst.traceBack (fun _ => false) cameFrom (Fintype.card (TileKey W)) goal []).getD []

def computeSeaRouteWaypoints (a b : TileKey W) : List (TileKey W) :=
  match snapToSeaNeighbor terrainAt a b, snapToSeaNeighbor terrainAt b a with
  | some aSea, some bSea =>
      let found := searchSea terrainAt aSea bSea
      if found.2 then reconstructSeaPath found.1.cameFrom bSea else []
  | _, _ => []

/-! ## §2. What it should return. -/

/-- **A path over the sea**: sea tiles, each a cardinal neighbour of the one
before it. -/
structure SeaPath (a b : TileKey W) (path : List (TileKey W)) : Prop where
  starts : path.head? = some a
  ends : path.getLast? = some b
  overSea : ∀ t ∈ path, isSea terrainAt t = true
  cardinal : path.IsChain (fun u v => v ∈ cardinalNeighbors u)

def snapTiles (t : TileKey W) : List (TileKey W) :=
  t :: (cardinalNeighbors t ++ RADIUS2_OFFSETS.map t.shift)

def SnapTo (a b aSea bSea : TileKey W) : Prop :=
  snapToSeaNeighbor terrainAt a b = some aSea ∧ snapToSeaNeighbor terrainAt b a = some bSea

def CapNotReached (a b : TileKey W) : Prop :=
  ∀ aSea bSea, SnapTo terrainAt a b aSea bSea →
    (searchSea terrainAt aSea bSea).1.expanded < maxExpanded

end Terrain

/-! ## §3. Snapping. -/

variable {terrainAt : TileKey W → Terrain}

theorem nearestTo_mem {towards s : TileKey W} {candidates : List (TileKey W)}
    (h : nearestTo towards candidates = some s) : s ∈ candidates := by
  unfold nearestTo at h
  exact (List.mergeSort_perm candidates _).mem_iff.mp (List.mem_of_head? h)

theorem nearestTo_eq_none_iff {towards : TileKey W} {candidates : List (TileKey W)} :
    nearestTo towards candidates = none ↔ candidates = [] := by
  unfold nearestTo
  rw [List.head?_eq_none_iff, ← List.length_eq_zero_iff, List.length_mergeSort,
    List.length_eq_zero_iff]

theorem snapToSeaNeighbor_mem {t towards s : TileKey W}
    (h : snapToSeaNeighbor terrainAt t towards = some s) :
    isSea terrainAt s = true ∧ s ∈ snapTiles t := by
  unfold snapToSeaNeighbor at h
  unfold snapTiles
  rw [List.mem_cons, List.mem_append]
  by_cases hown : isSea terrainAt t = true
  · rw [if_pos hown] at h
    obtain rfl : t = s := Option.some.inj h
    exact ⟨hown, Or.inl rfl⟩
  · rw [if_neg hown] at h
    dsimp only at h
    split at h
    · obtain ⟨hin, hsea⟩ := List.mem_filter.mp (nearestTo_mem h)
      exact ⟨hsea, Or.inr (Or.inl hin)⟩
    · obtain ⟨hin, hsea⟩ := List.mem_filter.mp (nearestTo_mem h)
      exact ⟨hsea, Or.inr (Or.inr hin)⟩

/-- **A dock has nothing to snap to exactly when no tile looked at is sea.** -/
theorem snapToSeaNeighbor_eq_none_iff (t towards : TileKey W) :
    snapToSeaNeighbor terrainAt t towards = none ↔ ∀ s ∈ snapTiles t, isSea terrainAt s = false := by
  unfold snapToSeaNeighbor snapTiles
  simp only [List.mem_cons, List.mem_append, forall_eq_or_imp]
  by_cases hown : isSea terrainAt t = true
  · simp [hown]
  · rw [if_neg hown]
    by_cases hcandidates : 0 < ((cardinalNeighbors t).filter (isSea terrainAt)).length
    · rw [if_pos hcandidates, nearestTo_eq_none_iff, ← List.length_eq_zero_iff]
      constructor
      · intro hzero
        omega
      · intro h
        obtain ⟨s, hs⟩ := List.length_pos_iff_exists_mem.mp hcandidates
        obtain ⟨hin, hsea⟩ := List.mem_filter.mp hs
        rw [h.2 s (Or.inl hin)] at hsea
        cases hsea
    · rw [if_neg hcandidates, nearestTo_eq_none_iff, List.filter_eq_nil_iff]
      have hempty : (cardinalNeighbors t).filter (isSea terrainAt) = [] :=
        List.length_eq_zero_iff.mp (by omega)
      rw [List.filter_eq_nil_iff] at hempty
      simp only [Bool.not_eq_true] at hown hempty ⊢
      constructor
      · intro hring
        refine ⟨hown, ?_⟩
        rintro s (hin | hin)
        · exact hempty s hin
        · exact hring s hin
      · intro h s hin
        exact h.2 s (Or.inr hin)

/-! ## §4. The estimate. -/

theorem cardinal_small {d : ℤ × ℤ} (h : d ∈ CARDINAL_OFFSETS) :
    d.1.natAbs + d.2.natAbs = 1 := by
  have hall : ∀ e ∈ CARDINAL_OFFSETS, e.1.natAbs + e.2.natAbs = 1 := by decide
  exact hall d h

theorem axis_step {size : ℕ} {a b c d : ℤ} (ha : (a - c).natAbs ≤ size)
    (hb : (b - c).natAbs ≤ size) (h : b % size = (a + d) % size) :
    min (a - c).natAbs (size - (a - c).natAbs)
      ≤ d.natAbs + min (b - c).natAbs (size - (b - c).natAbs) := by
  have hstep := RingDistance.le_add_step hb h
  omega

/-- **One step changes the estimate by one at most.** -/
theorem manhattanToroid_step {u v : TileKey W} (goal : TileKey W) (h : v ∈ cardinalNeighbors u) :
    manhattanToroid u goal ≤ 1 + manhattanToroid v goal := by
  obtain ⟨d, hd, rfl⟩ := List.mem_map.mp h
  have hx := axis_step (c := goal.x.val) (by omega) (by omega) (u.shift_x_emod d)
  have hy := axis_step (c := goal.y.val) (by omega) (by omega) (u.shift_y_emod d)
  refine le_trans (add_le_add hx hy) (le_of_eq ?_)
  rw [add_add_add_comm, cardinal_small hd]
  rfl

theorem manhattanToroid_self (t : TileKey W) : manhattanToroid t t = 0 := by
  unfold manhattanToroid
  dsimp only
  omega

theorem manhattanToroid_consistent (goal : TileKey W) :
    BestFirst.Consistent (AStar.Edge (seaNeighbors terrainAt))
      (fun t => manhattanToroid t goal) := by
  intro u v w hedge
  obtain ⟨hmove, rfl⟩ := hedge
  exact manhattanToroid_step goal (List.mem_filter.mp hmove).1

/-! ## §5. The route is shortest. -/

theorem seaPath_iff {a b : TileKey W} (ha : isSea terrainAt a = true) (path : List (TileKey W)) :
    SeaPath terrainAt a b path ↔ AStar.IsPath (seaNeighbors terrainAt) a b path := by
  constructor
  · intro h
    refine ⟨h.starts, h.ends, ?_⟩
    apply List.IsChain.imp_of_mem_imp _ h.cardinal
    intro u v _ hv huv
    exact List.mem_filter.mpr ⟨huv, h.overSea v hv⟩
  · intro h
    refine ⟨h.starts, h.ends, ?_, h.moves.imp (fun u v huv => (List.mem_filter.mp huv).1)⟩
    have hsea : ∀ l : List (TileKey W), l.IsChain (fun u v => v ∈ seaNeighbors terrainAt u) →
        ∀ c, l.head? = some c → isSea terrainAt c = true → ∀ t ∈ l, isSea terrainAt t = true := by
      intro l
      induction l with
      | nil =>
          intro _ c _ _ t ht
          cases ht
      | cons x rest ih =>
          intro hchain c hhead hc t ht
          obtain rfl : x = c := Option.some.inj hhead
          rcases List.mem_cons.mp ht with rfl | hin
          · exact hc
          · cases rest with
            | nil => cases hin
            | cons y rest =>
                rw [List.isChain_cons_cons] at hchain
                exact ih hchain.2 y rfl (List.mem_filter.mp hchain.1).2 t hin
    exact hsea path h.moves a h.starts ha

theorem computeSeaRouteWaypoints_snapped {a b aSea bSea : TileKey W}
    (h : SnapTo terrainAt a b aSea bSea) :
    computeSeaRouteWaypoints terrainAt a b
      = if (searchSea terrainAt aSea bSea).2 then
          reconstructSeaPath (searchSea terrainAt aSea bSea).1.cameFrom bSea
        else [] := by
  unfold computeSeaRouteWaypoints
  rw [h.1, h.2]

theorem route_of_snapTo {a b aSea bSea : TileKey W} (h : SnapTo terrainAt a b aSea bSea)
    (hcap : CapNotReached terrainAt a b) :
    (SeaPath terrainAt aSea bSea (computeSeaRouteWaypoints terrainAt a b)
        ∧ ∀ other, SeaPath terrainAt aSea bSea other →
          (computeSeaRouteWaypoints terrainAt a b).length ≤ other.length)
      ∨ (computeSeaRouteWaypoints terrainAt a b = []
        ∧ ¬ ∃ path, SeaPath terrainAt aSea bSea path) := by
  have hsea := (snapToSeaNeighbor_mem h.1).1
  have hdegree : ∀ t : TileKey W, (seaNeighbors terrainAt t).length ≤ CARDINAL_OFFSETS.length := by
    intro t
    unfold seaNeighbors cardinalNeighbors
    exact le_trans (List.length_filter_le _ _) (le_of_eq (List.length_map _))
  obtain ⟨hfound, hnone⟩ := AStar.search_shortest aSea maxExpanded
    (manhattanToroid_consistent bSea) (manhattanToroid_self bSea) hdegree
  rw [computeSeaRouteWaypoints_snapped h]
  cases hsolved : (searchSea terrainAt aSea bSea).2 with
  | true =>
      obtain ⟨path, htrace, hpath, hshortest⟩ := hfound hsolved
      have hroute : reconstructSeaPath (searchSea terrainAt aSea bSea).1.cameFrom bSea = path := by
        unfold reconstructSeaPath searchSea
        rw [htrace]
        rfl
      left
      rw [if_pos rfl, hroute]
      refine ⟨(seaPath_iff hsea path).mpr hpath, ?_⟩
      intro other hother
      exact hshortest other ((seaPath_iff hsea other).mp hother)
  | false =>
      right
      refine ⟨if_neg (by simp), ?_⟩
      rintro ⟨path, hpath⟩
      exact hnone hsolved (hcap aSea bSea h) ⟨path, (seaPath_iff hsea path).mp hpath⟩

theorem SeaPath.ne_nil {a b : TileKey W} {path : List (TileKey W)}
    (h : SeaPath terrainAt a b path) : path ≠ [] := by
  intro hnil
  have hstarts := h.starts
  rw [hnil] at hstarts
  cases hstarts

/-- **The route between two docks is a shortest sea path between their snapped
tiles**, and empty exactly where a dock has no sea to snap to or no sea path
joins the two. -/
theorem sea_route_shortest (terrainAt : TileKey W → Terrain) (a b : TileKey W)
    (hcap : CapNotReached terrainAt a b) :
    (∀ aSea bSea, SnapTo terrainAt a b aSea bSea →
        (∃ path, SeaPath terrainAt aSea bSea path) →
        SeaPath terrainAt aSea bSea (computeSeaRouteWaypoints terrainAt a b)
          ∧ ∀ other, SeaPath terrainAt aSea bSea other →
            (computeSeaRouteWaypoints terrainAt a b).length ≤ other.length)
      ∧ (computeSeaRouteWaypoints terrainAt a b = []
        ↔ (∀ t ∈ snapTiles a, isSea terrainAt t = false)
          ∨ (∀ t ∈ snapTiles b, isSea terrainAt t = false)
          ∨ ∃ aSea bSea, SnapTo terrainAt a b aSea bSea
            ∧ ¬ ∃ path, SeaPath terrainAt aSea bSea path) := by
  refine ⟨?_, ?_⟩
  · intro aSea bSea hsnap hpath
    rcases route_of_snapTo hsnap hcap with hright | ⟨_, hnone⟩
    · exact hright
    · exact absurd hpath hnone
  · rw [← snapToSeaNeighbor_eq_none_iff a b, ← snapToSeaNeighbor_eq_none_iff b a]
    cases ha : snapToSeaNeighbor terrainAt a b with
    | none =>
        have hempty : computeSeaRouteWaypoints terrainAt a b = [] := by
          unfold computeSeaRouteWaypoints
          rw [ha]
        exact ⟨fun _ => Or.inl rfl, fun _ => hempty⟩
    | some aSea =>
        cases hb : snapToSeaNeighbor terrainAt b a with
        | none =>
            have hempty : computeSeaRouteWaypoints terrainAt a b = [] := by
              unfold computeSeaRouteWaypoints
              rw [ha, hb]
            exact ⟨fun _ => Or.inr (Or.inl rfl), fun _ => hempty⟩
        | some bSea =>
            have hsnap : SnapTo terrainAt a b aSea bSea := ⟨ha, hb⟩
            rcases route_of_snapTo hsnap hcap with ⟨hright, _⟩ | ⟨hempty, hnone⟩
            · constructor
              · intro hnil
                exact absurd hnil hright.ne_nil
              · rintro (h | h | ⟨x, y, hxy, hnone⟩)
                · cases h
                · cases h
                · obtain rfl : aSea = x := Option.some.inj (ha.symm.trans hxy.1)
                  obtain rfl : bSea = y := Option.some.inj (hb.symm.trans hxy.2)
                  exact absurd ⟨_, hright⟩ hnone
            · exact ⟨fun _ => Or.inr (Or.inr ⟨aSea, bSea, hsnap, hnone⟩), fun _ => hempty⟩

/-- Two sea tiles that touch across the world's edge, in a world of land. -/
def strait (t : TileKey smallestWorld) : Terrain :=
  if t.y.val = 0 ∧ (t.x.val = 0 ∨ t.x.val = 63) then .COASTAL_SEA else .LAND

def westDock : TileKey smallestWorld := wrappedTile smallestWorld 0 0
def eastDock : TileKey smallestWorld := wrappedTile smallestWorld 63 0

theorem capNotReached_strait : CapNotReached strait westDock eastDock := by
  intro aSea bSea h
  have hwest : snapToSeaNeighbor strait westDock eastDock = some westDock := by decide
  have heast : snapToSeaNeighbor strait eastDock westDock = some eastDock := by decide
  obtain rfl : westDock = aSea := Option.some.inj (hwest.symm.trans h.1)
  obtain rfl : eastDock = bSea := Option.some.inj (heast.symm.trans h.2)
  decide +kernel

/-- The route leads over the edge of the world, and no path is shorter. -/
theorem sea_route_over_the_edge :
    SnapTo strait westDock eastDock westDock eastDock
      ∧ computeSeaRouteWaypoints strait westDock eastDock = [westDock, eastDock]
      ∧ ∀ other, SeaPath strait westDock eastDock other → 2 ≤ other.length := by
  have hroute : computeSeaRouteWaypoints strait westDock eastDock = [westDock, eastDock] := by
    decide +kernel
  have hsnap : SnapTo strait westDock eastDock westDock eastDock := ⟨by decide, by decide⟩
  refine ⟨hsnap, hroute, ?_⟩
  intro other hother
  have hshortest := ((sea_route_shortest strait westDock eastDock capNotReached_strait).1 westDock
    eastDock hsnap ⟨other, hother⟩).2 other hother
  rw [hroute] at hshortest
  exact hshortest

end BorderEmpires.SeaRoutes
