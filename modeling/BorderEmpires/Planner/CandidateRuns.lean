/-
  BorderEmpires.Planner.CandidateRuns
  **THE CANDIDATE SETS, REFRESHED AROUND EVERY WRITE.**

  A tile replacement asks again the keys within two steps, for the owners
  before and after and for everyone who owns a tile that near.  A rebuild
  asks every tile of a player's territory.  The two must tell the same sets
  at all times.
-/
import BorderEmpires.Lib.Loops
import BorderEmpires.Planner.Candidates
import Mathlib.Logic.Function.Basic

namespace BorderEmpires.Planner

open LocalIndex

variable {W : WorldSize}

/-! ## §1. Summaries. -/

/-- A player's tiles and the three candidate sets over them. -/
structure PlayerRuntimeSummary (W : WorldSize) where
  territoryTileKeys : List (TileKey W)
  hotFrontierTileKeys : List (TileKey W)
  strategicFrontierTileKeys : List (TileKey W)
  buildCandidateTileKeys : List (TileKey W)
  deriving DecidableEq

def createEmptyPlayerRuntimeSummary : PlayerRuntimeSummary W := ⟨[], [], [], []⟩

def PlayerRuntimeSummary.candidates (summary : PlayerRuntimeSummary W) :
    CandidateKind → List (TileKey W)
  | .hotFrontier => summary.hotFrontierTileKeys
  | .strategicFrontier => summary.strategicFrontierTileKeys
  | .buildCandidate => summary.buildCandidateTileKeys

abbrev Summaries (W : WorldSize) := PlayerId → PlayerRuntimeSummary W

def deleteKey (keys : List (TileKey W)) (key : TileKey W) : List (TileKey W) :=
  keys.filter fun k => decide (k ≠ key)

/-- `if (test) keys.add(key)`. -/
def addIf (test : Bool) (keys : List (TileKey W)) (key : TileKey W) : List (TileKey W) :=
  if test then InsertionSet.add keys key else keys

/-! ## §2. Refresh and rebuild. -/

/-- `ownerIdsNearTile`. -/
def ownerIdsNearTile (key : TileKey W) (tilesByKey : TilesByKey W) : List PlayerId :=
  InsertionSet.addAll [] (key.neighbors.filterMap fun n => (tilesByKey n).bind (·.ownerId))

/-- Owners before, after and around the tile. -/
def playerIdsAffectedByTileChange (tileKey : TileKey W) (tilesByKey : TilesByKey W)
    (previousTile nextTile : Option PlannerTile) : List PlayerId :=
  let changed :=
    InsertionSet.addAll [] ((previousTile.bind (·.ownerId)).toList
      ++ (nextTile.bind (·.ownerId)).toList)
  let around :=
    if (tilesByKey tileKey).isSome then
      InsertionSet.addAll changed (ownerIdsNearTile tileKey tilesByKey)
    else changed
  InsertionSet.addAll around ((candidateIndexKeysAroundTileKey tileKey).filterMap fun k =>
    (tilesByKey k).bind (·.ownerId))

/-- The tile joins each set whose test it passes. -/
def addCandidate (playerId : PlayerId) (tiles : TilesByKey W) (tileKey : TileKey W)
    (tile : PlannerTile) (summary : PlayerRuntimeSummary W) : PlayerRuntimeSummary W :=
  { summary with
    hotFrontierTileKeys :=
      addIf (isHotFrontierTile playerId tileKey tile tiles) summary.hotFrontierTileKeys tileKey
    strategicFrontierTileKeys :=
      addIf (isStrategicFrontierTile playerId tileKey tile tiles)
        summary.strategicFrontierTileKeys tileKey
    buildCandidateTileKeys :=
      addIf (isBuildCandidateTile playerId tileKey tile tiles) summary.buildCandidateTileKeys
        tileKey }

/-- The body of both loops: a tile of the player's is asked the three tests. -/
def askTile (playerId : PlayerId) (tiles : TilesByKey W) (summary : PlayerRuntimeSummary W)
    (tileKey : TileKey W) : PlayerRuntimeSummary W :=
  match tiles tileKey with
  | none => summary
  | some tile =>
      if tile.ownerId ≠ some playerId then summary
      else addCandidate playerId tiles tileKey tile summary

/-- The sets from scratch, over the territory. -/
def rebuildPlannerCandidateIndexesForPlayer (playerId : PlayerId) (tiles : TilesByKey W)
    (summary : PlayerRuntimeSummary W) : PlayerRuntimeSummary W :=
  summary.territoryTileKeys.foldl (askTile playerId tiles)
    { summary with
      hotFrontierTileKeys := []
      strategicFrontierTileKeys := []
      buildCandidateTileKeys := [] }

/-- One affected key: off the three sets, and asked again. -/
def refreshCandidateKey (playerId : PlayerId) (tiles : TilesByKey W)
    (summary : PlayerRuntimeSummary W) (candidateKey : TileKey W) : PlayerRuntimeSummary W :=
  askTile playerId tiles
    { summary with
      hotFrontierTileKeys := deleteKey summary.hotFrontierTileKeys candidateKey
      strategicFrontierTileKeys := deleteKey summary.strategicFrontierTileKeys candidateKey
      buildCandidateTileKeys := deleteKey summary.buildCandidateTileKeys candidateKey }
    candidateKey

def refreshPlayer (affectedKeys : List (TileKey W)) (tiles : TilesByKey W)
    (summaries : Summaries W) (playerId : PlayerId) : Summaries W :=
  Function.update summaries playerId
    (affectedKeys.foldl (refreshCandidateKey playerId tiles) (summaries playerId))

/-- Only keys near the tile are asked again. -/
def refreshPlannerCandidateIndexesAroundTileChange (tileKey : TileKey W)
    (previous next : Option PlannerTile) (tiles : TilesByKey W) (summaries : Summaries W) :
    Summaries W :=
  (playerIdsAffectedByTileChange tileKey tiles previous next).foldl
    (refreshPlayer (candidateIndexKeysAroundTileKey tileKey) tiles) summaries

/-! ## §3. The runtime around them. -/

/-- The runtime's tiles and summaries. -/
structure PlannerState (W : WorldSize) where
  tiles : InsertionMap (TileKey W) PlannerTile
  summaries : Summaries W

def applyTileToPlayerSummaries (summaries : Summaries W) (tileKey : TileKey W)
    (tile : PlannerTile) : Summaries W :=
  match tile.ownerId with
  | none => summaries
  | some ownerId =>
      Function.update summaries ownerId
        { summaries ownerId with
          territoryTileKeys := InsertionSet.add (summaries ownerId).territoryTileKeys tileKey }

def removeTileFromPlayerSummaries (summaries : Summaries W) (tileKey : TileKey W)
    (tile : PlannerTile) : Summaries W :=
  match tile.ownerId with
  | none => summaries
  | some ownerId =>
      Function.update summaries ownerId
        { summaries ownerId with
          territoryTileKeys := deleteKey (summaries ownerId).territoryTileKeys tileKey }

structure TileChange (W : WorldSize) where
  tileKey : TileKey W
  next : PlannerTile

def summariesWithTile (s : PlannerState W) (change : TileChange W) : Summaries W :=
  applyTileToPlayerSummaries
    (match s.tiles.get change.tileKey with
      | none => s.summaries
      | some previous => removeTileFromPlayerSummaries s.summaries change.tileKey previous)
    change.tileKey change.next

def replaceTileState (s : PlannerState W) (change : TileChange W) : PlannerState W where
  tiles := s.tiles.set change.tileKey change.next
  summaries :=
    refreshPlannerCandidateIndexesAroundTileChange change.tileKey
      (s.tiles.get change.tileKey) (some change.next)
      (s.tiles.set change.tileKey change.next).get (summariesWithTile s change)

def boot (tiles : InsertionMap (TileKey W) PlannerTile) (players : List PlayerId) :
    PlannerState W where
  tiles := tiles
  summaries :=
    players.foldl
      (fun summaries playerId =>
        Function.update summaries playerId
          (rebuildPlannerCandidateIndexesForPlayer playerId tiles.get (summaries playerId)))
      (tiles.entries.foldl
        (fun summaries entry => applyTileToPlayerSummaries summaries entry.1 entry.2)
        fun _ => createEmptyPlayerRuntimeSummary)

/-- The three sets hold the same keys. -/
def SameCandidates (a b : PlayerRuntimeSummary W) : Prop :=
  ∀ kind key, key ∈ a.candidates kind ↔ key ∈ b.candidates kind

/-! ## §4. What the loops leave behind. -/

@[simp] theorem mem_deleteKey {keys : List (TileKey W)} {key k : TileKey W} :
    k ∈ deleteKey keys key ↔ k ∈ keys ∧ k ≠ key := by
  simp [deleteKey]

@[simp] theorem mem_addIf {test : Bool} {keys : List (TileKey W)} {key k : TileKey W} :
    k ∈ addIf test keys key ↔ k ∈ keys ∨ (test = true ∧ k = key) := by
  unfold addIf
  cases test with
  | false => simp
  | true => simp [InsertionSet.mem_add]

variable (summaries : Summaries W) (playerId : PlayerId) (tiles : TilesByKey W)
  (summary : PlayerRuntimeSummary W) (tileKey : TileKey W) (tile : PlannerTile)

theorem mem_askTile (kind : CandidateKind) (k : TileKey W) :
    k ∈ (askTile playerId tiles summary tileKey).candidates kind
      ↔ k ∈ summary.candidates kind
        ∨ (isCandidate kind playerId tiles tileKey = true ∧ k = tileKey) := by
  unfold askTile
  cases htile : tiles tileKey with
  | none =>
      have hnone : isCandidate kind playerId tiles tileKey = false := by
        unfold isCandidate
        rw [htile]
        rfl
      simp [hnone]
  | some tile =>
      dsimp only
      by_cases howner : tile.ownerId = some playerId
      · rw [if_neg (not_not_intro howner)]
        unfold isCandidate
        rw [htile, Option.any_some]
        cases kind with
        | hotFrontier => exact mem_addIf
        | strategicFrontier => exact mem_addIf
        | buildCandidate => exact mem_addIf
      · rw [if_pos howner]
        -- a tile of someone else's passes none of the tests
        constructor
        · exact Or.inl
        · rintro (h | ⟨htest, -⟩)
          · exact h
          · have howned := (isCandidate_local kind).owned _ _ _ htest
            rw [htile] at howned
            exact absurd howned howner

@[simp] theorem territory_askTile :
    (askTile playerId tiles summary tileKey).territoryTileKeys = summary.territoryTileKeys := by
  unfold askTile
  cases tiles tileKey with
  | none => rfl
  | some tile =>
      dsimp only
      split
      · rfl
      · rfl

theorem mem_rebuilt (kind : CandidateKind) (k : TileKey W) :
    k ∈ (rebuildPlannerCandidateIndexesForPlayer playerId tiles summary).candidates kind
      ↔ k ∈ summary.territoryTileKeys ∧ isCandidate kind playerId tiles k = true := by
  unfold rebuildPlannerCandidateIndexesForPlayer
  rw [Loops.foldl_or (fun s : PlayerRuntimeSummary W => k ∈ s.candidates kind)
    (fun s key => mem_askTile playerId tiles s key kind k)]
  have hmet : (∃ key ∈ summary.territoryTileKeys, isCandidate kind playerId tiles key = true
      ∧ k = key) ↔ k ∈ summary.territoryTileKeys ∧ isCandidate kind playerId tiles k = true :=
    ⟨fun ⟨key, hkey, htest, hk⟩ => hk ▸ ⟨hkey, htest⟩, fun h => ⟨k, h.1, h.2, rfl⟩⟩
  rw [hmet]
  cases kind with
  | hotFrontier => simp [PlayerRuntimeSummary.candidates]
  | strategicFrontier => simp [PlayerRuntimeSummary.candidates]
  | buildCandidate => simp [PlayerRuntimeSummary.candidates]

@[simp] theorem territory_rebuilt :
    (rebuildPlannerCandidateIndexesForPlayer playerId tiles summary).territoryTileKeys
      = summary.territoryTileKeys := by
  unfold rebuildPlannerCandidateIndexesForPlayer
  refine List.foldlRecOn (motive := fun s : PlayerRuntimeSummary W =>
    s.territoryTileKeys = summary.territoryTileKeys) _ _ ?_ ?_
  · rfl
  · exact fun s hs key _ => (territory_askTile playerId tiles s key).trans hs

theorem mem_refreshCandidateKey (key : TileKey W) (kind : CandidateKind) (k : TileKey W) :
    k ∈ (refreshCandidateKey playerId tiles summary key).candidates kind
      ↔ if k = key then isCandidate kind playerId tiles k = true
        else k ∈ summary.candidates kind := by
  unfold refreshCandidateKey
  rw [mem_askTile]
  have hdeleted : ∀ keys : List (TileKey W), (k ∈ deleteKey keys key
      ∨ (isCandidate kind playerId tiles key = true ∧ k = key))
        ↔ if k = key then isCandidate kind playerId tiles k = true else k ∈ keys := by
    intro keys
    by_cases hk : k = key
    · simp [hk]
    · simp [hk]
  cases kind with
  | hotFrontier => exact hdeleted summary.hotFrontierTileKeys
  | strategicFrontier => exact hdeleted summary.strategicFrontierTileKeys
  | buildCandidate => exact hdeleted summary.buildCandidateTileKeys

theorem mem_refreshCandidateKeys (keys : List (TileKey W)) (kind : CandidateKind) (k : TileKey W) :
    ∀ summary : PlayerRuntimeSummary W,
      k ∈ (keys.foldl (refreshCandidateKey playerId tiles) summary).candidates kind
        ↔ if k ∈ keys then isCandidate kind playerId tiles k = true
          else k ∈ summary.candidates kind := by
  induction keys with
  | nil => intro summary; rfl
  | cons key keys ih =>
      intro summary
      rw [List.foldl_cons, ih, mem_refreshCandidateKey]
      by_cases hk : k = key
      · simp [hk]
      · simp [hk]

theorem territory_refreshCandidateKeys (keys : List (TileKey W)) (summary : PlayerRuntimeSummary W) :
    (keys.foldl (refreshCandidateKey playerId tiles) summary).territoryTileKeys
      = summary.territoryTileKeys :=
  List.foldlRecOn (motive := fun s : PlayerRuntimeSummary W =>
    s.territoryTileKeys = summary.territoryTileKeys) _ _ rfl
    (fun _ hs key _ => (territory_askTile playerId tiles _ key).trans hs)

/-- **What a refresh leaves**: the affected keys of the affected players are
listed as the test says, all else as before. -/
theorem mem_refreshed (keys : List (TileKey W)) (tiles : TilesByKey W) (players : List PlayerId)
    (playerId : PlayerId) (kind : CandidateKind) (k : TileKey W) :
    ∀ summaries : Summaries W,
      k ∈ ((players.foldl (refreshPlayer keys tiles) summaries) playerId).candidates kind
        ↔ if playerId ∈ players ∧ k ∈ keys then isCandidate kind playerId tiles k = true
          else k ∈ (summaries playerId).candidates kind := by
  induction players with
  | nil => intro summaries; simp
  | cons p players ih =>
      intro summaries
      rw [List.foldl_cons, ih]
      unfold refreshPlayer
      by_cases hp : playerId = p
      · subst hp
        rw [Function.update_self, mem_refreshCandidateKeys]
        by_cases hk : k ∈ keys
        · simp [hk]
        · simp [hk]
      · rw [Function.update_of_ne hp]
        simp [hp]

theorem territory_refreshed (keys : List (TileKey W)) (tiles : TilesByKey W)
    (players : List PlayerId) (playerId : PlayerId) (summaries : Summaries W) :
    ((players.foldl (refreshPlayer keys tiles) summaries) playerId).territoryTileKeys
      = (summaries playerId).territoryTileKeys := by
  refine List.foldlRecOn (motive := fun s : Summaries W => (s playerId).territoryTileKeys
    = (summaries playerId).territoryTileKeys) _ _ rfl (fun s hs p _ => ?_)
  rw [← hs]
  unfold refreshPlayer
  by_cases hp : playerId = p
  · subst hp
    rw [Function.update_self, territory_refreshCandidateKeys]
  · rw [Function.update_of_ne hp]

/-! ## §5. Who is affected. -/

theorem affected_of_previous {tileKey : TileKey W} {tiles : TilesByKey W}
    {previous next : Option PlannerTile} {playerId : PlayerId}
    (h : previous.bind (·.ownerId) = some playerId) :
    playerId ∈ playerIdsAffectedByTileChange tileKey tiles previous next := by
  unfold playerIdsAffectedByTileChange
  dsimp only
  rw [InsertionSet.mem_addAll]
  refine Or.inl ?_
  have hchanged : playerId ∈ InsertionSet.addAll [] ((previous.bind (·.ownerId)).toList
      ++ (next.bind (·.ownerId)).toList) := by
    rw [InsertionSet.mem_addAll, h]
    simp
  split
  · rw [InsertionSet.mem_addAll]
    exact Or.inl hchanged
  · exact hchanged

theorem affected_of_near {tileKey k : TileKey W} {tiles : TilesByKey W}
    {previous next : Option PlannerTile} {playerId : PlayerId} (hk : IsNear tileKey k)
    (h : (tiles k).bind (·.ownerId) = some playerId) :
    playerId ∈ playerIdsAffectedByTileChange tileKey tiles previous next := by
  unfold playerIdsAffectedByTileChange
  dsimp only
  rw [InsertionSet.mem_addAll]
  exact Or.inr (List.mem_filterMap.mpr ⟨k, hk, h⟩)

/-! ## §6. Territories. -/

/-- Every territory is the set of tiles its player owns. -/
def TerritoriesRight (s : PlannerState W) : Prop :=
  ∀ playerId k, k ∈ (s.summaries playerId).territoryTileKeys
    ↔ (s.tiles.get k).bind (·.ownerId) = some playerId

theorem territory_apply (playerId : PlayerId) (k : TileKey W) :
    k ∈ (applyTileToPlayerSummaries summaries tileKey tile playerId).territoryTileKeys
      ↔ k ∈ (summaries playerId).territoryTileKeys
        ∨ (tile.ownerId = some playerId ∧ k = tileKey) := by
  unfold applyTileToPlayerSummaries
  cases howner : tile.ownerId with
  | none => simp
  | some ownerId =>
      dsimp only
      by_cases hp : playerId = ownerId
      · subst hp
        rw [Function.update_self]
        simp [InsertionSet.mem_add]
      · rw [Function.update_of_ne hp]
        simp [Ne.symm hp]

theorem territory_remove (playerId : PlayerId) (k : TileKey W) :
    k ∈ (removeTileFromPlayerSummaries summaries tileKey tile playerId).territoryTileKeys
      ↔ k ∈ (summaries playerId).territoryTileKeys
        ∧ ¬ (tile.ownerId = some playerId ∧ k = tileKey) := by
  unfold removeTileFromPlayerSummaries
  cases howner : tile.ownerId with
  | none => simp
  | some ownerId =>
      dsimp only
      by_cases hp : playerId = ownerId
      · subst hp
        rw [Function.update_self]
        simp
      · rw [Function.update_of_ne hp]
        simp [Ne.symm hp]

theorem candidates_update (playerId : PlayerId) (kind : CandidateKind) (ownerId : PlayerId)
    (keys : List (TileKey W)) :
    (Function.update summaries ownerId
        { summaries ownerId with territoryTileKeys := keys } playerId).candidates kind
      = (summaries playerId).candidates kind := by
  by_cases hp : playerId = ownerId
  · subst hp
    rw [Function.update_self]
    cases kind with
    | hotFrontier => rfl
    | strategicFrontier => rfl
    | buildCandidate => rfl
  · rw [Function.update_of_ne hp]

theorem candidates_apply (playerId : PlayerId) (kind : CandidateKind) :
    (applyTileToPlayerSummaries summaries tileKey tile playerId).candidates kind
      = (summaries playerId).candidates kind := by
  unfold applyTileToPlayerSummaries
  cases tile.ownerId with
  | none => rfl
  | some ownerId => exact candidates_update summaries playerId kind ownerId _

theorem candidates_remove (playerId : PlayerId) (kind : CandidateKind) :
    (removeTileFromPlayerSummaries summaries tileKey tile playerId).candidates kind
      = (summaries playerId).candidates kind := by
  unfold removeTileFromPlayerSummaries
  cases tile.ownerId with
  | none => rfl
  | some ownerId => exact candidates_update summaries playerId kind ownerId _

theorem candidates_summariesWithTile (s : PlannerState W) (change : TileChange W)
    (playerId : PlayerId) (kind : CandidateKind) :
    (summariesWithTile s change playerId).candidates kind
      = (s.summaries playerId).candidates kind := by
  unfold summariesWithTile
  rw [candidates_apply]
  cases s.tiles.get change.tileKey with
  | none => rfl
  | some previous => exact candidates_remove _ _ _ _ _

/-- **The old tile out, the new tile in**: territories stay right. -/
theorem TerritoriesRight.replaced {s : PlannerState W} (h : TerritoriesRight s)
    (change : TileChange W) : TerritoriesRight (replaceTileState s change) := by
  intro playerId k
  unfold replaceTileState refreshPlannerCandidateIndexesAroundTileChange
  dsimp only
  rw [territory_refreshed]
  unfold summariesWithTile
  rw [territory_apply, InsertionMap.get_set]
  have hold := h playerId k
  have hprevious : k ∈ ((match s.tiles.get change.tileKey with
      | none => s.summaries
      | some previous =>
          removeTileFromPlayerSummaries s.summaries change.tileKey previous) playerId).territoryTileKeys
        ↔ k ≠ change.tileKey ∧ (s.tiles.get k).bind (·.ownerId) = some playerId := by
    cases hget : s.tiles.get change.tileKey with
    | none =>
        show k ∈ (s.summaries playerId).territoryTileKeys ↔ _
        rw [hold]
        constructor
        · intro howns
          refine ⟨?_, howns⟩
          intro heq
          rw [heq, hget] at howns
          cases howns
        · exact And.right
    | some previous =>
        show k ∈ (removeTileFromPlayerSummaries s.summaries change.tileKey previous
          playerId).territoryTileKeys ↔ _
        rw [territory_remove, hold]
        constructor
        · rintro ⟨howns, hnot⟩
          refine ⟨?_, howns⟩
          intro heq
          rw [heq, hget] at howns
          exact hnot ⟨howns, heq⟩
        · rintro ⟨hne, howns⟩
          exact ⟨howns, fun hand => hne hand.2⟩
  rw [hprevious]
  by_cases hk : change.tileKey = k
  · rw [if_pos hk]
    simp [hk]
  · rw [if_neg hk]
    simp [Ne.symm hk]

/-! ## §7. Runs. -/

/-- The player's three sets are what their tests say. -/
def InStep (s : PlannerState W) (playerId : PlayerId) : Prop :=
  ∀ kind, InSync (isCandidate kind) playerId s.tiles.get
    fun k => k ∈ (s.summaries playerId).candidates kind

def affectedPlayers (s : PlannerState W) (change : TileChange W) : List PlayerId :=
  playerIdsAffectedByTileChange change.tileKey (s.tiles.set change.tileKey change.next).get
    (s.tiles.get change.tileKey) (some change.next)

theorem mem_replaced (s : PlannerState W) (change : TileChange W) (playerId : PlayerId)
    (kind : CandidateKind) (k : TileKey W) :
    k ∈ ((replaceTileState s change).summaries playerId).candidates kind
      ↔ if playerId ∈ affectedPlayers s change
            ∧ k ∈ candidateIndexKeysAroundTileKey change.tileKey
        then isCandidate kind playerId (s.tiles.set change.tileKey change.next).get k = true
        else k ∈ (s.summaries playerId).candidates kind := by
  rw [← candidates_summariesWithTile s change playerId kind]
  unfold replaceTileState refreshPlannerCandidateIndexesAroundTileChange affectedPlayers
  dsimp only
  rw [mem_refreshed]

/-- **One replacement** keeps a player's sets right. -/
theorem InStep.replaced {s : PlannerState W} {playerId : PlayerId} (h : InStep s playerId)
    (change : TileChange W) : InStep (replaceTileState s change) playerId := by
  intro kind
  have hothers : ∀ k, k ≠ change.tileKey →
      (s.tiles.set change.tileKey change.next).get k = s.tiles.get k :=
    fun k hk => InsertionMap.get_set_ne _ (Ne.symm hk) _
  have hlisted := mem_replaced s change playerId kind
  by_cases haffected : playerId ∈ affectedPlayers s change
  · refine InSync.asked (isCandidate_local kind) (fun _ _ => isNear_symm) (h kind) hothers ?_ ?_
    · intro k hk
      rw [hlisted, if_pos ⟨haffected, hk⟩]
      exact Iff.rfl
    · intro k hk
      rw [hlisted, if_neg (fun hand => hk hand.2)]
  · -- nobody asks this player, who has nothing near
    have hpassed := InSync.passed (isCandidate_local kind) (fun _ _ => isNear_symm) (h kind)
      hothers (fun howns => haffected (affected_of_previous howns))
      (fun k hk howns => haffected (affected_of_near hk howns))
    intro k
    show k ∈ ((replaceTileState s change).summaries playerId).candidates kind ↔ _
    rw [hlisted, if_neg (fun hand => haffected hand.1)]
    exact hpassed k

theorem territory_applyAll (entries : List (TileKey W × PlannerTile)) (playerId : PlayerId)
    (k : TileKey W) (summaries : Summaries W) :
    k ∈ (entries.foldl (fun summaries entry =>
        applyTileToPlayerSummaries summaries entry.1 entry.2) summaries playerId).territoryTileKeys
      ↔ k ∈ (summaries playerId).territoryTileKeys
        ∨ ∃ entry ∈ entries, entry.1 = k ∧ entry.2.ownerId = some playerId := by
  refine Loops.foldl_or (fun s : Summaries W => k ∈ (s playerId).territoryTileKeys) ?_
  intro s entry
  rw [territory_apply, and_comm, eq_comm]

theorem candidates_applyAll (entries : List (TileKey W × PlannerTile)) (playerId : PlayerId)
    (kind : CandidateKind) (summaries : Summaries W) :
    (entries.foldl (fun summaries entry =>
      applyTileToPlayerSummaries summaries entry.1 entry.2) summaries playerId).candidates kind
      = (summaries playerId).candidates kind :=
  List.foldlRecOn (motive := fun s : Summaries W => (s playerId).candidates kind
    = (summaries playerId).candidates kind) _ _ rfl
    (fun s hs entry _ => (candidates_apply s entry.1 entry.2 playerId kind).trans hs)

theorem rebuiltAll (playerId : PlayerId) (players : List PlayerId) :
    ∀ summaries : Summaries W,
      (players.foldl (fun summaries p => Function.update summaries p
          (rebuildPlannerCandidateIndexesForPlayer p tiles (summaries p))) summaries
            playerId).territoryTileKeys = (summaries playerId).territoryTileKeys
      ∧ ∀ kind k, k ∈ (players.foldl (fun summaries p => Function.update summaries p
          (rebuildPlannerCandidateIndexesForPlayer p tiles (summaries p))) summaries
            playerId).candidates kind
          ↔ if playerId ∈ players then
              k ∈ (summaries playerId).territoryTileKeys ∧ isCandidate kind playerId tiles k = true
            else k ∈ (summaries playerId).candidates kind := by
  induction players with
  | nil =>
      intro summaries
      exact ⟨rfl, fun kind k => Iff.rfl⟩
  | cons p players ih =>
      intro summaries
      rw [List.foldl_cons]
      obtain ⟨hterritory, hcandidates⟩ := ih (Function.update summaries p
        (rebuildPlannerCandidateIndexesForPlayer p tiles (summaries p)))
      by_cases hp : playerId = p
      · subst hp
        rw [Function.update_self] at hterritory hcandidates
        rw [territory_rebuilt] at hterritory
        refine ⟨hterritory, fun kind k => ?_⟩
        rw [hcandidates, territory_rebuilt, mem_rebuilt, ite_self]
        simp
      · rw [Function.update_of_ne hp] at hterritory hcandidates
        refine ⟨hterritory, fun kind k => ?_⟩
        rw [hcandidates]
        simp [hp]

theorem territoriesRight_boot (tiles : InsertionMap (TileKey W) PlannerTile)
    (players : List PlayerId) : TerritoriesRight (boot tiles players) := by
  intro playerId k
  unfold boot
  dsimp only
  rw [(rebuiltAll tiles.get playerId players _).1, territory_applyAll]
  constructor
  · rintro (h | ⟨entry, hentry, rfl, howner⟩)
    · cases h
    · rw [(tiles.mem_entries_iff entry.1 entry.2).mp hentry]
      exact howner
  · intro h
    cases hget : tiles.get k with
    | none =>
        rw [hget] at h
        cases h
    | some tile =>
        rw [hget] at h
        exact Or.inr ⟨(k, tile), (tiles.mem_entries_iff k tile).mpr hget, rfl, h⟩

theorem inStep_boot {tiles : InsertionMap (TileKey W) PlannerTile} {players : List PlayerId}
    {playerId : PlayerId}
    (h : playerId ∈ players ∨ ∀ k, (tiles.get k).bind (·.ownerId) ≠ some playerId) :
    InStep (boot tiles players) playerId := by
  intro kind k
  have hterritory := territoriesRight_boot tiles players playerId k
  unfold boot at hterritory ⊢
  dsimp only at hterritory ⊢
  rw [(rebuiltAll tiles.get playerId players _).1] at hterritory
  rw [(rebuiltAll tiles.get playerId players _).2, hterritory]
  have howned : isCandidate kind playerId tiles.get k = true →
      (tiles.get k).bind (·.ownerId) = some playerId :=
    (isCandidate_local kind).owned playerId tiles.get k
  by_cases hp : playerId ∈ players
  · rw [if_pos hp]
    exact ⟨And.right, fun htest => ⟨howned htest, htest⟩⟩
  · rw [if_neg hp, candidates_applyAll]
    have hnothing := h.resolve_left hp k
    constructor
    · intro hmem
      cases kind with
      | hotFrontier => cases hmem
      | strategicFrontier => cases hmem
      | buildCandidate => cases hmem
    · exact fun htest => absurd (howned htest) hnothing

theorem run_inStep (changes : List (TileChange W)) :
    ∀ s : PlannerState W, TerritoriesRight s → InStep s playerId →
      TerritoriesRight (changes.foldl replaceTileState s)
        ∧ InStep (changes.foldl replaceTileState s) playerId := by
  induction changes with
  | nil => exact fun s hright hstep => ⟨hright, hstep⟩
  | cons change changes ih =>
      intro s hright hstep
      exact ih _ (hright.replaced change) (hstep.replaced change)

/-- **Whatever is replaced, in whatever order**, the sets of every player are
those of a rebuild over the tiles as they are: the player's tiles that pass
the test of each. -/
theorem candidateSets_eq_rebuild (tiles : InsertionMap (TileKey W) PlannerTile)
    (players : List PlayerId) (changes : List (TileChange W)) (playerId : PlayerId)
    (hplayer : playerId ∈ players ∨ ∀ k, (tiles.get k).bind (·.ownerId) ≠ some playerId) :
    let final := changes.foldl replaceTileState (boot tiles players)
    SameCandidates (final.summaries playerId)
        (rebuildPlannerCandidateIndexesForPlayer playerId final.tiles.get
          (final.summaries playerId))
      ∧ ∀ kind k, k ∈ (final.summaries playerId).candidates kind
        ↔ (final.tiles.get k).bind (·.ownerId) = some playerId
          ∧ isCandidate kind playerId final.tiles.get k = true := by
  intro final
  obtain ⟨hright, hstep⟩ := run_inStep playerId changes (boot tiles players)
    (territoriesRight_boot tiles players) (inStep_boot hplayer)
  change TerritoriesRight final at hright
  have hlisted : ∀ kind k, k ∈ (final.summaries playerId).candidates kind
      ↔ (final.tiles.get k).bind (·.ownerId) = some playerId
        ∧ isCandidate kind playerId final.tiles.get k = true := by
    intro kind k
    refine (hstep kind k).trans ?_
    exact ⟨fun htest => ⟨(isCandidate_local kind).owned _ _ _ htest, htest⟩, And.right⟩
  refine ⟨fun kind k => ?_, hlisted⟩
  rw [mem_rebuilt, hright, hlisted]

def frontierClaim (ownerId : PlayerId) : PlannerTile :=
  { ownerId := some ownerId, ownershipState := some .FRONTIER, terrain := .LAND, resource := none
    dockId := none, town := none }

def settledTown (ownerId : PlayerId) : PlannerTile :=
  { ownerId := some ownerId, ownershipState := some .SETTLED, terrain := .LAND, resource := none
    dockId := none, town := some ⟨some .TOWN, none, none⟩ }

theorem lastColumn_lt : 63 < smallestWorld.width := by decide

/-- A claim in the corner of the map, then a rival's town over the edge. -/
def cornerChanges : List (TileChange smallestWorld) :=
  [⟨⟨⟨0, smallestWorld.width_pos⟩, ⟨0, smallestWorld.height_pos⟩⟩, frontierClaim playerOne⟩,
    ⟨⟨⟨63, lastColumn_lt⟩, ⟨0, smallestWorld.height_pos⟩⟩, settledTown playerTwo⟩]

theorem candidateSets_eq_rebuild_corner :
    let final := cornerChanges.foldl replaceTileState (boot .empty [playerOne])
    SameCandidates (final.summaries playerOne)
        (rebuildPlannerCandidateIndexesForPlayer playerOne final.tiles.get
          (final.summaries playerOne))
      ∧ ∀ kind k, k ∈ (final.summaries playerOne).candidates kind
        ↔ (final.tiles.get k).bind (·.ownerId) = some playerOne
          ∧ isCandidate kind playerOne final.tiles.get k = true :=
  candidateSets_eq_rebuild .empty [playerOne] cornerChanges playerOne (Or.inl (by decide))

end BorderEmpires.Planner
