/-
  BorderEmpires.Planner.Candidates
  **WHICH TILES THE PLANNER LOOKS AT FIRST.**

  Hot frontier, strategic frontier and build candidates are told from a
  tile, its neighbours, and for the strategic ones from the neighbours'
  neighbours: the support of a neighbouring town, and the towns two steps
  away.
-/
import BorderEmpires.Deltas.Tiles
import BorderEmpires.Economy.TownTiles
import BorderEmpires.Lib.InsertionMap
import BorderEmpires.Lib.LocalIndex
import Mathlib.Algebra.BigOperators.Group.List.Basic
import Mathlib.Algebra.Ring.Int.Defs

namespace BorderEmpires.Planner

open Deltas (ResourceType DockId)
open Economy (PopulationTier)

variable {W : WorldSize}

/-! ## §1. Tiles. -/

/-- What is stored of a town; the support may be missing. -/
structure PlannerTown where
  populationTier : Option PopulationTier
  supportMax : Option ℤ
  supportCurrent : Option ℤ
  deriving DecidableEq

structure PlannerTile extends TileOwnership where
  terrain : Terrain
  resource : Option ResourceType
  dockId : Option DockId
  town : Option PlannerTown
  deriving DecidableEq

abbrev TilesByKey (W : WorldSize) := TileKey W → Option PlannerTile

def PlannerTile.isSettledOf (tile : PlannerTile) (playerId : PlayerId) : Bool :=
  decide (tile.ownerId = some playerId) && decide (tile.ownershipState = some .SETTLED)

/-! ## §2. Neighbours. -/

def supportedTownCount (playerId : PlayerId) (key : TileKey W) (tilesByKey : TilesByKey W) : ℕ :=
  key.neighbors.countP fun n =>
    (tilesByKey n).any fun neighbor => neighbor.isSettledOf playerId && neighbor.town.isSome

def supportedDockCount (playerId : PlayerId) (key : TileKey W) (tilesByKey : TilesByKey W) : ℕ :=
  key.neighbors.countP fun n =>
    (tilesByKey n).any fun neighbor => neighbor.isSettledOf playerId && neighbor.dockId.isSome

def hasHostileNeighbor (playerId : PlayerId) (key : TileKey W) (tilesByKey : TilesByKey W) : Bool :=
  key.neighbors.any fun n =>
    (tilesByKey n).any fun neighbor =>
      decide (neighbor.terrain = .LAND) && neighbor.ownerId.isSome
        && decide (neighbor.ownerId ≠ some playerId)

def hasStrategicNeutralNeighbor (key : TileKey W) (tilesByKey : TilesByKey W) : Bool :=
  key.neighbors.any fun n =>
    (tilesByKey n).any fun neighbor =>
      decide (neighbor.terrain = .LAND) && neighbor.ownerId.isNone
        && (neighbor.resource.isSome || neighbor.dockId.isSome || neighbor.town.isSome)

/-! ## §3. The evaluation of a settlement candidate. -/

def resourceScore : Option ResourceType → ℤ
  | some .FARM => 200
  | some .FISH => 200
  | some .TITANIUM => 130
  | some .UMBRITE => 120
  | some .GEMS => 140
  | _ => 0

structure TownSupport where
  supportCurrent : ℕ
  supportMax : ℕ

def computeTownSupport (playerId : PlayerId) (townKey : TileKey W) (tilesByKey : TilesByKey W) :
    TownSupport where
  supportCurrent := townKey.neighbors.countP fun n =>
    (tilesByKey n).any fun tile => decide (tile.terrain = .LAND) && tile.isSettledOf playerId
  supportMax := townKey.neighbors.countP fun n =>
    (tilesByKey n).any fun tile => decide (tile.terrain = .LAND)

/-- What one neighbour adds to the need: the stored support counts, else
the support around the town is counted. -/
def neighborSupportNeed (playerId : PlayerId) (tiles : TilesByKey W)
    (assumedFrontierKeys : List (TileKey W)) (neighborKey : TileKey W) : ℤ :=
  match tiles neighborKey with
  | none => 0
  | some neighbor =>
      if neighbor.isSettledOf playerId = false ∨ neighborKey ∈ assumedFrontierKeys then 0
      else
        match neighbor.town with
        | none => 0
        | some town =>
            if town.populationTier = some .SETTLEMENT then 0
            else
              match town.supportMax, town.supportCurrent with
              | some storedMax, some storedCurrent => max 0 (storedMax - storedCurrent)
              | _, _ =>
                  let support := computeTownSupport playerId neighborKey tiles
                  max 0 ((support.supportMax : ℤ) - support.supportCurrent)

def adjacentTownSupportNeed (playerId : PlayerId) (key : TileKey W) (tiles : TilesByKey W)
    (assumedFrontierKeys : List (TileKey W)) : ℤ :=
  (key.neighbors.map (neighborSupportNeed playerId tiles assumedFrontierKeys)).sum

/-- The state of the scan for towns two steps away. -/
structure NearbyTowns (W : WorldSize) where
  visited : List (TileKey W)
  nextFrontier : List (TileKey W)
  count : ℕ
  linkValueCount : ℕ

/-- One neighbour of the scan: only tiles there are go on the frontier. -/
def visitNearby (playerId : PlayerId) (tiles : TilesByKey W)
    (linkValueTownKeys : Option (List (TileKey W))) (scan : NearbyTowns W)
    (neighborKey : TileKey W) : NearbyTowns W :=
  if neighborKey ∈ scan.visited then scan
  else
    let scan := { scan with visited := scan.visited ++ [neighborKey] }
    match tiles neighborKey with
    | none => scan
    | some neighbor =>
        let scan := { scan with nextFrontier := scan.nextFrontier ++ [neighborKey] }
        if neighbor.isSettledOf playerId && neighbor.town.isSome then
          { scan with
            count := scan.count + 1
            linkValueCount :=
              if linkValueTownKeys.any (fun keys => decide (neighborKey ∈ keys)) then
                scan.linkValueCount + 1
              else scan.linkValueCount }
        else scan

def scanDepth (playerId : PlayerId) (tiles : TilesByKey W)
    (linkValueTownKeys : Option (List (TileKey W))) (scan : NearbyTowns W) : NearbyTowns W :=
  scan.nextFrontier.foldl
    (fun scan currentKey =>
      match tiles currentKey with
      | none => scan
      | some _ =>
          currentKey.neighbors.foldl (visitNearby playerId tiles linkValueTownKeys) scan)
    { scan with nextFrontier := [] }

def nearbyOwnedTownCount (playerId : PlayerId) (key : TileKey W) (tiles : TilesByKey W)
    (linkValueTownKeys : Option (List (TileKey W))) : NearbyTowns W :=
  scanDepth playerId tiles linkValueTownKeys
    (scanDepth playerId tiles linkValueTownKeys ⟨[key], [key], 0, 0⟩)

structure AdjacencyMetrics where
  ownedNeighbors : ℕ
  settledNeighbors : ℕ
  frontierNeighbors : ℕ
  exposedSides : ℕ
  hostileInterest : ℤ

/-- One neighbour of the adjacency count; an assumed claim counts as the
player's frontier. -/
def countNeighbor (playerId : PlayerId) (tiles : TilesByKey W)
    (assumedFrontierKeys : List (TileKey W)) (m : AdjacencyMetrics) (neighborKey : TileKey W) :
    AdjacencyMetrics :=
  match tiles neighborKey with
  | none => { m with exposedSides := m.exposedSides + 1 }
  | some neighbor =>
      let assumedOwned := decide (neighborKey ∈ assumedFrontierKeys)
      let ownerId := if assumedOwned then some playerId else neighbor.ownerId
      let ownershipState := if assumedOwned then some .FRONTIER else neighbor.ownershipState
      if neighbor.terrain ≠ .LAND then { m with exposedSides := m.exposedSides + 1 }
      else if ownerId = some playerId then
        { m with
          ownedNeighbors := m.ownedNeighbors + 1
          settledNeighbors :=
            if ownershipState = some OwnershipState.SETTLED then m.settledNeighbors + 1
            else m.settledNeighbors
          frontierNeighbors :=
            if ownershipState = some OwnershipState.FRONTIER then m.frontierNeighbors + 1
            else m.frontierNeighbors }
      else if ownerId.isSome then
        { m with
          exposedSides := m.exposedSides + 1
          hostileInterest :=
            m.hostileInterest + (if neighbor.town.isSome then 35 else 0)
              + (if neighbor.dockId.isSome then 28 else 0)
              + max 0 (resourceScore neighbor.resource / 2) }
      else { m with exposedSides := m.exposedSides + 1 }

def ownedAdjacencyMetrics (playerId : PlayerId) (key : TileKey W) (tiles : TilesByKey W)
    (assumedFrontierKeys : List (TileKey W)) : AdjacencyMetrics :=
  key.neighbors.foldl (countNeighbor playerId tiles assumedFrontierKeys) ⟨0, 0, 0, 0, 0⟩

/-- What the index asks of an evaluation; the score is for the planner. -/
structure SettlementCandidateEvaluation where
  strategic : Bool
  economicallyInteresting : Bool
  defensivelyCompact : Bool
  townSupportNeed : ℤ
  deriving DecidableEq

def TOWN_LINK_VALUE_BONUS : ℤ := 80

def defensiveShapeValue (adjacency : AdjacencyMetrics) : ℤ :=
  adjacency.settledNeighbors * 28 + adjacency.frontierNeighbors * 4 - adjacency.exposedSides * 14
    + (if adjacency.settledNeighbors ≥ 2 then 24 else 0)
    + (if adjacency.exposedSides ≤ 1 then 18 else 0)

def townConnectionSignal (nearby : NearbyTowns W) (adjacency : AdjacencyMetrics) : ℤ :=
  if nearby.count ≥ 2 then
    110 + adjacency.settledNeighbors * 16
      + (if nearby.linkValueCount > 0 then TOWN_LINK_VALUE_BONUS else 0)
  else if nearby.count = 1 ∧ adjacency.settledNeighbors ≥ 2 then 45
  else 0

def evaluateSettlementCandidate (playerId : PlayerId) (key : TileKey W) (tile : PlannerTile)
    (tiles : TilesByKey W) (assumedFrontierKeys : List (TileKey W))
    (linkValueTownKeys : Option (List (TileKey W))) : SettlementCandidateEvaluation :=
  let assumedOwned := decide (key ∈ assumedFrontierKeys)
  let ownerId := if assumedOwned then some playerId else tile.ownerId
  let ownershipState := if assumedOwned then some .FRONTIER else tile.ownershipState
  if tile.terrain ≠ .LAND ∨ ownerId ≠ some playerId
      ∨ ownershipState ≠ some OwnershipState.FRONTIER then
    ⟨false, false, false, 0⟩
  else
    let townSupportNeed := adjacentTownSupportNeed playerId key tiles assumedFrontierKeys
    let nearby := nearbyOwnedTownCount playerId key tiles linkValueTownKeys
    let adjacency := ownedAdjacencyMetrics playerId key tiles assumedFrontierKeys
    let intrinsicEconomicValue := tile.town.isSome || tile.dockId.isSome || tile.resource.isSome
    let economicallyInteresting :=
      intrinsicEconomicValue || decide (townSupportNeed > 0)
        || decide (townConnectionSignal nearby adjacency ≥ 90)
    { strategic :=
        economicallyInteresting || decide (adjacency.hostileInterest ≥ 35)
          || decide (defensiveShapeValue adjacency ≥ 26)
      economicallyInteresting := economicallyInteresting
      defensivelyCompact :=
        decide (adjacency.settledNeighbors ≥ 2) && decide (adjacency.exposedSides ≤ 1)
      townSupportNeed := townSupportNeed }

/-! ## §4. The three tests. -/

def isHotFrontierTile (playerId : PlayerId) (key : TileKey W) (tile : PlannerTile)
    (tilesByKey : TilesByKey W) : Bool :=
  decide (tile.ownerId = some playerId) && decide (tile.ownershipState = some .FRONTIER)
    && (hasHostileNeighbor playerId key tilesByKey || hasStrategicNeutralNeighbor key tilesByKey)

/-- No claims are assumed here, and no town gains from a link. -/
def isStrategicFrontierTile (playerId : PlayerId) (key : TileKey W) (tile : PlannerTile)
    (tilesByKey : TilesByKey W) : Bool :=
  decide (tile.ownerId = some playerId) && decide (tile.ownershipState = some .FRONTIER)
    && (evaluateSettlementCandidate playerId key tile tilesByKey [] none).strategic

def isBuildCandidateTile (playerId : PlayerId) (key : TileKey W) (tile : PlannerTile)
    (tilesByKey : TilesByKey W) : Bool :=
  decide (tile.ownerId = some playerId) && decide (tile.ownershipState = some .SETTLED)
    && decide (tile.terrain = .LAND)
    && ((tile.resource.isSome || tile.dockId.isSome || tile.town.isSome)
      || decide (supportedTownCount playerId key tilesByKey > 0)
      || decide (supportedDockCount playerId key tilesByKey > 0)
      || hasHostileNeighbor playerId key tilesByKey)

/-- The three sets of a player's summary. -/
inductive CandidateKind where
  | hotFrontier
  | strategicFrontier
  | buildCandidate
  deriving DecidableEq

/-- The test of a set, asked of the tile under the key. -/
def isCandidate (kind : CandidateKind) (playerId : PlayerId) (tilesByKey : TilesByKey W)
    (key : TileKey W) : Bool :=
  (tilesByKey key).any fun tile =>
    match kind with
    | .hotFrontier => isHotFrontierTile playerId key tile tilesByKey
    | .strategicFrontier => isStrategicFrontierTile playerId key tile tilesByKey
    | .buildCandidate => isBuildCandidateTile playerId key tile tilesByKey

/-! ## §5. The keys within two steps. -/

/-- One neighbour: a key not met yet joins the keys and the next frontier. -/
def addNeighborKey (st : List (TileKey W) × List (TileKey W)) (neighborKey : TileKey W) :
    List (TileKey W) × List (TileKey W) :=
  if neighborKey ∈ st.1 then st else (st.1 ++ [neighborKey], st.2 ++ [neighborKey])

def growKeys (keys frontier : List (TileKey W)) : List (TileKey W) × List (TileKey W) :=
  frontier.foldl (fun st currentKey => currentKey.neighbors.foldl addNeighborKey st) (keys, [])

def candidateIndexKeysAroundTileKey (tileKey : TileKey W) : List (TileKey W) :=
  let depth1 := growKeys [tileKey] [tileKey]
  (growKeys depth1.1 depth1.2).1

/-! ## §6. Two steps are two steps. -/

theorem mem_addNeighborKeys (l : List (TileKey W)) (k : TileKey W) :
    ∀ st, (k ∈ (l.foldl addNeighborKey st).1 ↔ k ∈ st.1 ∨ k ∈ l)
      ∧ (k ∈ (l.foldl addNeighborKey st).2 ↔ k ∈ st.2 ∨ (k ∉ st.1 ∧ k ∈ l)) := by
  induction l with
  | nil => intro st; simp
  | cons n l ih =>
      intro st
      obtain ⟨hkeys, hnext⟩ := ih (addNeighborKey st n)
      rw [List.foldl_cons, hkeys, hnext]
      unfold addNeighborKey
      by_cases hn : n ∈ st.1
      · rw [if_pos hn]
        by_cases hk : k = n
        · simp [hk, hn]
        · simp [hk]
      · rw [if_neg hn]
        by_cases hk : k = n
        · simp [hk, hn]
        · simp [hk]

theorem mem_growKeys (frontier : List (TileKey W)) (k : TileKey W) :
    ∀ st : List (TileKey W) × List (TileKey W),
      (k ∈ (frontier.foldl (fun st c => c.neighbors.foldl addNeighborKey st) st).1
        ↔ k ∈ st.1 ∨ ∃ c ∈ frontier, k ∈ c.neighbors)
      ∧ (k ∈ (frontier.foldl (fun st c => c.neighbors.foldl addNeighborKey st) st).2
        ↔ k ∈ st.2 ∨ (k ∉ st.1 ∧ ∃ c ∈ frontier, k ∈ c.neighbors)) := by
  induction frontier with
  | nil => intro st; simp
  | cons c frontier ih =>
      intro st
      obtain ⟨hkeys, hnext⟩ := ih (c.neighbors.foldl addNeighborKey st)
      obtain ⟨hkeys', hnext'⟩ := mem_addNeighborKeys c.neighbors k st
      rw [List.foldl_cons, hkeys, hnext, hkeys', hnext']
      simp only [List.mem_cons, exists_eq_or_imp]
      constructor
      · rw [or_assoc]
      · by_cases hold : k ∈ st.1
        · simp [hold]
        · by_cases hc : k ∈ c.neighbors
          · simp [hold, hc]
          · simp [hold, hc]

/-- **The keys within two steps**: the tile, its neighbours, and theirs. -/
theorem mem_candidateIndexKeys {tileKey k : TileKey W} :
    k ∈ candidateIndexKeysAroundTileKey tileKey
      ↔ k = tileKey ∨ k ∈ tileKey.neighbors ∨ ∃ m ∈ tileKey.neighbors, k ∈ m.neighbors := by
  unfold candidateIndexKeysAroundTileKey growKeys
  have h1 : ∀ k', (k' ∈ ([tileKey].foldl (fun st c => c.neighbors.foldl addNeighborKey st)
        ([tileKey], [])).1 ↔ k' = tileKey ∨ k' ∈ tileKey.neighbors)
      ∧ (k' ∈ ([tileKey].foldl (fun st c => c.neighbors.foldl addNeighborKey st)
        ([tileKey], [])).2 ↔ k' ≠ tileKey ∧ k' ∈ tileKey.neighbors) := by
    intro k'
    obtain ⟨hkeys, hnext⟩ := mem_growKeys [tileKey] k' ([tileKey], [])
    rw [hkeys, hnext]
    simp
  rw [(mem_growKeys _ k _).1, (h1 k).1, or_assoc]
  apply or_congr_right
  constructor
  · rintro (h | ⟨c, hc, hk⟩)
    · exact Or.inl h
    · exact Or.inr ⟨c, ((h1 c).2.mp hc).2, hk⟩
  · rintro (h | ⟨m, hm, hk⟩)
    · exact Or.inl h
    · -- a way through the tile itself is one step long
      by_cases heq : m = tileKey
      · rw [heq] at hk
        exact Or.inl hk
      · exact Or.inr ⟨m, (h1 m).2.mpr ⟨heq, hm⟩, hk⟩

/-- `k'` is at most two steps from `k`. -/
def IsNear (k k' : TileKey W) : Prop := k' ∈ candidateIndexKeysAroundTileKey k

theorem isNear_symm {a b : TileKey W} (h : IsNear a b) : IsNear b a := by
  unfold IsNear at h ⊢
  rw [mem_candidateIndexKeys] at h ⊢
  rcases h with h | h | ⟨m, hm, hb⟩
  · exact Or.inl h.symm
  · exact Or.inr (Or.inl (TileKey.mem_neighbors_symm h))
  · exact Or.inr (Or.inr ⟨m, TileKey.mem_neighbors_symm hb, TileKey.mem_neighbors_symm hm⟩)

theorem isNear_self (k : TileKey W) : IsNear k k := mem_candidateIndexKeys.mpr (Or.inl rfl)

theorem isNear_neighbor {k n : TileKey W} (h : n ∈ k.neighbors) : IsNear k n :=
  mem_candidateIndexKeys.mpr (Or.inr (Or.inl h))

theorem isNear_second {k n m : TileKey W} (hn : n ∈ k.neighbors) (hm : m ∈ n.neighbors) :
    IsNear k m :=
  mem_candidateIndexKeys.mpr (Or.inr (Or.inr ⟨n, hn, hm⟩))

/-! ## §7. The tests look no further. -/

section Congr

variable {tiles tiles' : TilesByKey W} {key : TileKey W}

theorem any_neighbors_congr (test : Option PlannerTile → Bool)
    (h : ∀ n ∈ key.neighbors, tiles' n = tiles n) :
    (key.neighbors.any fun n => test (tiles' n)) = key.neighbors.any fun n => test (tiles n) := by
  have hmap : key.neighbors.map tiles' = key.neighbors.map tiles := List.map_congr_left h
  have hany := congrArg (fun l => l.any test) hmap
  simpa only [List.any_map, Function.comp_def] using hany

theorem countP_neighbors_congr (test : Option PlannerTile → Bool)
    (h : ∀ n ∈ key.neighbors, tiles' n = tiles n) :
    (key.neighbors.countP fun n => test (tiles' n))
      = key.neighbors.countP fun n => test (tiles n) := by
  apply List.countP_congr
  intro n hn
  rw [h n hn]

variable (playerId : PlayerId) (h : ∀ n ∈ key.neighbors, tiles' n = tiles n)

include h

theorem hasHostileNeighbor_congr :
    hasHostileNeighbor playerId key tiles' = hasHostileNeighbor playerId key tiles :=
  any_neighbors_congr (fun t => t.any fun neighbor : PlannerTile =>
    decide (neighbor.terrain = .LAND) && neighbor.ownerId.isSome
      && decide (neighbor.ownerId ≠ some playerId)) h

theorem hasStrategicNeutralNeighbor_congr :
    hasStrategicNeutralNeighbor key tiles' = hasStrategicNeutralNeighbor key tiles :=
  any_neighbors_congr (fun t => t.any fun neighbor : PlannerTile =>
    decide (neighbor.terrain = .LAND) && neighbor.ownerId.isNone
      && (neighbor.resource.isSome || neighbor.dockId.isSome || neighbor.town.isSome)) h

theorem supportedTownCount_congr :
    supportedTownCount playerId key tiles' = supportedTownCount playerId key tiles :=
  countP_neighbors_congr (fun t => t.any fun neighbor : PlannerTile =>
    neighbor.isSettledOf playerId && neighbor.town.isSome) h

theorem supportedDockCount_congr :
    supportedDockCount playerId key tiles' = supportedDockCount playerId key tiles :=
  countP_neighbors_congr (fun t => t.any fun neighbor : PlannerTile =>
    neighbor.isSettledOf playerId && neighbor.dockId.isSome) h

theorem computeTownSupport_congr :
    computeTownSupport playerId key tiles' = computeTownSupport playerId key tiles := by
  unfold computeTownSupport
  rw [countP_neighbors_congr (fun t => t.any fun tile => decide (tile.terrain = .LAND)) h,
    countP_neighbors_congr (fun t => t.any fun tile =>
      decide (tile.terrain = .LAND) && tile.isSettledOf playerId) h]

omit h

theorem neighborSupportNeed_congr (assumed : List (TileKey W)) (hself : tiles' key = tiles key)
    (h : ∀ n ∈ key.neighbors, tiles' n = tiles n) :
    neighborSupportNeed playerId tiles' assumed key
      = neighborSupportNeed playerId tiles assumed key := by
  unfold neighborSupportNeed
  rw [hself, computeTownSupport_congr playerId h]

theorem adjacentTownSupportNeed_congr (assumed : List (TileKey W))
    (h1 : ∀ n ∈ key.neighbors, tiles' n = tiles n)
    (h2 : ∀ n ∈ key.neighbors, ∀ m ∈ n.neighbors, tiles' m = tiles m) :
    adjacentTownSupportNeed playerId key tiles' assumed
      = adjacentTownSupportNeed playerId key tiles assumed := by
  unfold adjacentTownSupportNeed
  congr 1
  apply List.map_congr_left
  intro n hn
  exact neighborSupportNeed_congr playerId assumed (h1 n hn) (h2 n hn)

theorem ownedAdjacencyMetrics_congr (assumed : List (TileKey W))
    (h : ∀ n ∈ key.neighbors, tiles' n = tiles n) :
    ownedAdjacencyMetrics playerId key tiles' assumed
      = ownedAdjacencyMetrics playerId key tiles assumed := by
  unfold ownedAdjacencyMetrics
  apply List.foldl_ext
  intro m n hn
  unfold countNeighbor
  rw [h n hn]

theorem scanDepth_congr (linkKeys : Option (List (TileKey W))) (scan : NearbyTowns W)
    (hfrontier : ∀ c ∈ scan.nextFrontier, tiles' c = tiles c)
    (hnear : ∀ c ∈ scan.nextFrontier, ∀ n ∈ c.neighbors, tiles' n = tiles n) :
    scanDepth playerId tiles' linkKeys scan = scanDepth playerId tiles linkKeys scan := by
  unfold scanDepth
  apply List.foldl_ext
  intro scan c hc
  rw [hfrontier c hc]
  have hvisits : c.neighbors.foldl (visitNearby playerId tiles' linkKeys) scan
      = c.neighbors.foldl (visitNearby playerId tiles linkKeys) scan := by
    apply List.foldl_ext
    intro scan n hn
    unfold visitNearby
    rw [hnear c hc n hn]
  rw [hvisits]

theorem nextFrontier_visitNearby {playerId : PlayerId} {linkKeys : Option (List (TileKey W))}
    {scan : NearbyTowns W} {n k : TileKey W}
    (h : k ∈ (visitNearby playerId tiles linkKeys scan n).nextFrontier) :
    k ∈ scan.nextFrontier ∨ k = n := by
  unfold visitNearby at h
  split at h
  · exact Or.inl h
  cases htile : tiles n with
  | none =>
      rw [htile] at h
      exact Or.inl h
  | some neighbor =>
      rw [htile] at h
      dsimp only at h
      have hmem : k ∈ scan.nextFrontier ++ [n] := by
        split at h
        · exact h
        · exact h
      rw [List.mem_append, List.mem_singleton] at hmem
      exact hmem

theorem nextFrontier_scanDepth {playerId : PlayerId} {linkKeys : Option (List (TileKey W))}
    {k : TileKey W}
    (h : k ∈ (scanDepth playerId tiles linkKeys ⟨[key], [key], 0, 0⟩).nextFrontier) :
    k ∈ key.neighbors := by
  have hvisits : ∀ (l : List (TileKey W)) (scan : NearbyTowns W),
      k ∈ (l.foldl (visitNearby playerId tiles linkKeys) scan).nextFrontier →
      k ∈ scan.nextFrontier ∨ k ∈ l := by
    intro l
    induction l with
    | nil => exact fun _ hk => Or.inl hk
    | cons n l ih =>
        intro scan hk
        rw [List.foldl_cons] at hk
        rw [List.mem_cons]
        rcases ih _ hk with hk | hk
        · rcases nextFrontier_visitNearby hk with hk | hk
          · exact Or.inl hk
          · exact Or.inr (Or.inl hk)
        · exact Or.inr (Or.inr hk)
  unfold scanDepth at h
  rw [List.foldl_cons, List.foldl_nil] at h
  cases htile : tiles key with
  | none =>
      rw [htile] at h
      cases h
  | some tile =>
      rw [htile] at h
      rcases hvisits _ _ h with hk | hk
      · cases hk
      · exact hk

theorem nearbyOwnedTownCount_congr (linkKeys : Option (List (TileKey W)))
    (h0 : tiles' key = tiles key) (h1 : ∀ n ∈ key.neighbors, tiles' n = tiles n)
    (h2 : ∀ n ∈ key.neighbors, ∀ m ∈ n.neighbors, tiles' m = tiles m) :
    nearbyOwnedTownCount playerId key tiles' linkKeys
      = nearbyOwnedTownCount playerId key tiles linkKeys := by
  have hfirst : scanDepth playerId tiles' linkKeys ⟨[key], [key], 0, 0⟩
      = scanDepth playerId tiles linkKeys ⟨[key], [key], 0, 0⟩ := by
    apply scanDepth_congr
    · intro c hc
      rw [List.mem_singleton.mp hc]
      exact h0
    · intro c hc n hn
      rw [List.mem_singleton.mp hc] at hn
      exact h1 n hn
  unfold nearbyOwnedTownCount
  rw [hfirst]
  apply scanDepth_congr
  · exact fun c hc => h1 c (nextFrontier_scanDepth hc)
  · exact fun c hc n hn => h2 c (nextFrontier_scanDepth hc) n hn

/-- **The evaluation reads nothing more than two steps away.** -/
theorem evaluateSettlementCandidate_congr (tile : PlannerTile) (assumed : List (TileKey W))
    (linkKeys : Option (List (TileKey W))) (h : ∀ k, IsNear key k → tiles' k = tiles k) :
    evaluateSettlementCandidate playerId key tile tiles' assumed linkKeys
      = evaluateSettlementCandidate playerId key tile tiles assumed linkKeys := by
  have h1 : ∀ n ∈ key.neighbors, tiles' n = tiles n := fun n hn => h n (isNear_neighbor hn)
  have h2 : ∀ n ∈ key.neighbors, ∀ m ∈ n.neighbors, tiles' m = tiles m :=
    fun n hn m hm => h m (isNear_second hn hm)
  unfold evaluateSettlementCandidate
  rw [adjacentTownSupportNeed_congr playerId assumed h1 h2,
    nearbyOwnedTownCount_congr playerId linkKeys (h key (isNear_self key)) h1 h2,
    ownedAdjacencyMetrics_congr playerId assumed h1]

end Congr

/-- **The three tests are local**: the player's own tiles, told from what is
at most two steps away. -/
theorem isCandidate_local (kind : CandidateKind) :
    LocalIndex.IsLocal (@IsNear W) (fun tile : PlannerTile => tile.ownerId) (isCandidate kind) where
  owned := by
    intro playerId tiles key h
    unfold isCandidate at h
    obtain ⟨tile, htile, htest⟩ := (Option.any_eq_true _ _).mp h
    rw [htile]
    show tile.ownerId = some playerId
    cases kind with
    | hotFrontier =>
        simp only [isHotFrontierTile, Bool.and_eq_true, decide_eq_true_eq] at htest
        exact htest.1.1
    | strategicFrontier =>
        simp only [isStrategicFrontierTile, Bool.and_eq_true, decide_eq_true_eq] at htest
        exact htest.1.1
    | buildCandidate =>
        simp only [isBuildCandidateTile, Bool.and_eq_true, decide_eq_true_eq] at htest
        exact htest.1.1.1
  looks := by
    intro playerId tiles tiles' key h
    have h1 : ∀ n ∈ key.neighbors, tiles' n = tiles n := fun n hn => h n (isNear_neighbor hn)
    unfold isCandidate
    rw [h key (isNear_self key)]
    congr 1
    funext tile
    cases kind with
    | hotFrontier =>
        show isHotFrontierTile playerId key tile tiles' = isHotFrontierTile playerId key tile tiles
        unfold isHotFrontierTile
        rw [hasHostileNeighbor_congr playerId h1, hasStrategicNeutralNeighbor_congr h1]
    | strategicFrontier =>
        show isStrategicFrontierTile playerId key tile tiles'
          = isStrategicFrontierTile playerId key tile tiles
        unfold isStrategicFrontierTile
        rw [evaluateSettlementCandidate_congr playerId tile [] none h]
    | buildCandidate =>
        show isBuildCandidateTile playerId key tile tiles'
          = isBuildCandidateTile playerId key tile tiles
        unfold isBuildCandidateTile
        rw [supportedTownCount_congr playerId h1, supportedDockCount_congr playerId h1,
          hasHostileNeighbor_congr playerId h1]

end BorderEmpires.Planner
