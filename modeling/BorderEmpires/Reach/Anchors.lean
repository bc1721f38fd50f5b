/-
  BorderEmpires.Reach.Anchors
  **REACH ANCHORS, GATHERED AND REPORTED.**

  Two readings of the same world say where the anchors are.
  `gatherReachAnchors` lists them all, from the owners' summaries, the
  beacon index and the dock list; `newlyActivatedReachAnchors` and
  `newlyDeactivatedReachAnchors` report what one tile write changed, from
  the tile's own fields.
-/
import BorderEmpires.Lib.OwnerIndex
import BorderEmpires.Reach.Geometry
import BorderEmpires.Structures.Tiles

namespace BorderEmpires

open Structures (TileStructure)

/-! ## §1. Tiles. -/

inductive AfcStatus where
  | active
  | inactive
  deriving DecidableEq

/-- An Automated Fabrication Complex; `landedAt` is set while its lander
holds it. -/
structure AfcState where
  ownerId : PlayerId
  status : AfcStatus
  landedAt : Option Int
  deriving DecidableEq

structure AnchorTile where
  ownerId : Option PlayerId
  ownershipState : Option OwnershipState
  hasTown : Bool
  hasDockId : Bool
  afc : Option AfcState
  economicStructure : Option TileStructure
  deriving DecidableEq

def AnchorTile.isSettled (tile : AnchorTile) : Bool :=
  decide (tile.ownershipState = some .SETTLED)

def AFC_LANDING_GUARANTEED_REACH_RADIUS : Nat := 1

/-- `ownerId?.startsWith("barbarian-")`. -/
def isBarbarianOwner (ownerId : PlayerId) : Bool := ownerId.isBarbarian

def hasOwnAfc (tile : AnchorTile) : Bool :=
  tile.afc.any fun afc => decide (some afc.ownerId = tile.ownerId)

/-- The tile's AFC is its owner's and active. -/
def hasActiveOwnAfc (tile : AnchorTile) : Bool :=
  tile.afc.any fun afc =>
    decide (some afc.ownerId = tile.ownerId) && decide (afc.status = .active)

def landedAfcGuarantee (tile : AnchorTile) : Option Nat :=
  if hasOwnAfc tile && tile.afc.any (·.landedAt.isSome) then
    some AFC_LANDING_GUARANTEED_REACH_RADIUS
  else none

def activeBeaconOwner (tile : AnchorTile) : Option PlayerId :=
  (tile.economicStructure.filter fun structure_ =>
    decide (structure_.status = .active) && decide (structure_.type = some .RELAY_BEACON)).map
      TileStructure.ownerId

/-- `tile.economicStructure?.activatedAt ?? now`. -/
def beaconActivatedAt (tile : AnchorTile) (now : Int) : Int :=
  ((tile.economicStructure.bind TileStructure.activatedAt).map Nat.cast).getD now

/-- `isRelayBeaconActive`. -/
def isRelayBeaconActive (tile : AnchorTile) (ownerId : PlayerId) : Bool :=
  decide (activeBeaconOwner tile = some ownerId)

/-! ## §2. Summaries and indexes. -/

variable {W : WorldSize}

/-- The two tile sets of a player's summary that anchors are gathered
from; of the towns' tiers the keys alone are read. -/
structure AnchorSummary (W : WorldSize) where
  ownedTownTierByTile : List (TileKey W)
  ownedAfcTileKeys : List (TileKey W)

def AnchorSummary.empty : AnchorSummary W := ⟨[], []⟩

def applyTileToPlayerSummary (summary : AnchorSummary W) (tileKey : TileKey W)
    (tile : AnchorTile) : AnchorSummary W where
  ownedTownTierByTile :=
    if tile.isSettled && tile.hasTown then InsertionSet.add summary.ownedTownTierByTile tileKey
    else summary.ownedTownTierByTile
  ownedAfcTileKeys :=
    if tile.isSettled && hasActiveOwnAfc tile then InsertionSet.add summary.ownedAfcTileKeys tileKey
    else summary.ownedAfcTileKeys

def removeTileFromPlayerSummary (summary : AnchorSummary W) (tileKey : TileKey W)
    (tile : AnchorTile) : AnchorSummary W where
  ownedTownTierByTile :=
    if tile.isSettled && tile.hasTown then
      summary.ownedTownTierByTile.filter fun key => decide (key ≠ tileKey)
    else summary.ownedTownTierByTile
  ownedAfcTileKeys := summary.ownedAfcTileKeys.filter fun key => decide (key ≠ tileKey)

structure AnchorWorld (W : WorldSize) where
  tiles : InsertionMap (TileKey W) AnchorTile
  playerSummaries : InsertionMap PlayerId (AnchorSummary W)
  activeRelayBeaconsByOwner : InsertionMap PlayerId (List (TileKey W))
  tileSettledAtByKey : InsertionMap (TileKey W) Int

def AnchorWorld.empty : AnchorWorld W := ⟨.empty, .empty, .empty, .empty⟩

/-- `summaryForPlayer`: made when first asked for. -/
def summaryForPlayer (summaries : InsertionMap PlayerId (AnchorSummary W)) (playerId : PlayerId) :
    AnchorSummary W :=
  (summaries.get playerId).getD .empty

/-- Apply a change to the summary of the tile's owner, if it has one. -/
def updateOwnerSummary (summaries : InsertionMap PlayerId (AnchorSummary W))
    (ownerId : Option PlayerId) (change : AnchorSummary W → AnchorSummary W) :
    InsertionMap PlayerId (AnchorSummary W) :=
  match ownerId with
  | none => summaries
  | some playerId => summaries.set playerId (change (summaryForPlayer summaries playerId))

def beaconIndexOwner (tile : AnchorTile) : Option PlayerId :=
  tile.ownerId.filter (isRelayBeaconActive tile)

/-- `refreshActiveStructureIndexForTile` for beacons. -/
def refreshRelayBeaconIndexForTile (index : InsertionMap PlayerId (List (TileKey W)))
    (tileKey : TileKey W) (previous : Option AnchorTile) (next : AnchorTile) :
    InsertionMap PlayerId (List (TileKey W)) :=
  let source := previous.bind beaconIndexOwner
  let target := beaconIndexOwner next
  if source = target then index else OwnerIndex.reindex index tileKey source target

def updateTileSettledAt (settledAtByKey : InsertionMap (TileKey W) Int) (tileKey : TileKey W)
    (previous : Option AnchorTile) (next : AnchorTile) (now : Int) : InsertionMap (TileKey W) Int :=
  let wasSettledForSameOwner := previous.any fun was =>
    was.isSettled && next.isSettled && was.ownerId.isSome && decide (was.ownerId = next.ownerId)
  if next.isSettled && next.ownerId.isSome then
    if wasSettledForSameOwner then settledAtByKey else settledAtByKey.set tileKey now
  else settledAtByKey.erase tileKey

/-- `replaceTileState`.  At boot each tile enters the indexes the same way,
with nothing before it. -/
def AnchorWorld.replaceTileState (world : AnchorWorld W) (tileKey : TileKey W) (tile : AnchorTile)
    (now : Int) : AnchorWorld W :=
  let previous := world.tiles.get tileKey
  let cleared := match previous with
    | none => world.playerSummaries
    | some was =>
        updateOwnerSummary world.playerSummaries was.ownerId
          fun summary => removeTileFromPlayerSummary summary tileKey was
  { tiles := world.tiles.set tileKey tile
    playerSummaries :=
      updateOwnerSummary cleared tile.ownerId
        fun summary => applyTileToPlayerSummary summary tileKey tile
    activeRelayBeaconsByOwner :=
      refreshRelayBeaconIndexForTile world.activeRelayBeaconsByOwner tileKey previous tile
    tileSettledAtByKey := updateTileSettledAt world.tileSettledAtByKey tileKey previous tile now }

/-! ## §3. Gathering. -/

/-- `withAfcReachRadii`: a player's bonus widens the towns. -/
def withAfcReachRadii (townReachRadiusBonus : PlayerId → Nat) (anchor : ReachAnchor) :
    ReachAnchor :=
  if anchor.radiusOverride.isNone && decide (anchor.kind = .TOWN)
      && decide (0 < townReachRadiusBonus anchor.ownerId) then
    { anchor with
      radiusOverride := some (reachRadiusForKind anchor.kind
        + townReachRadiusBonus anchor.ownerId) }
  else anchor

/-- What is not a world of tiles: the dock list, the clock and the players'
radius bonuses. -/
structure GatherDeps (W : WorldSize) where
  docks : List (TileKey W)
  now : Int
  townReachRadiusBonus : PlayerId → Nat

def anchorAt (tileKey : TileKey W) (ownerId : PlayerId) (activatedAt : Int)
    (kind : ReachAnchorKind) : ReachAnchor :=
  .plain tileKey.x.val tileKey.y.val ownerId activatedAt kind

variable (world : AnchorWorld W) (deps : GatherDeps W)

def settledAt (tileKey : TileKey W) : Int := (world.tileSettledAtByKey.get tileKey).getD deps.now

/-- `tiles.get(key)`, if the player holds it SETTLED. -/
def settledTileOf (playerId : PlayerId) (tileKey : TileKey W) : Option AnchorTile :=
  (world.tiles.get tileKey).filter fun tile =>
    decide (tile.ownerId = some playerId) && tile.isSettled

def townAnchors (playerId : PlayerId) (summary : AnchorSummary W) : List ReachAnchor :=
  summary.ownedTownTierByTile.filterMap fun tileKey =>
    (settledTileOf world playerId tileKey).map fun _ =>
      anchorAt tileKey playerId (settledAt world deps tileKey) .TOWN

def afcAnchors (playerId : PlayerId) (summary : AnchorSummary W) : List ReachAnchor :=
  summary.ownedAfcTileKeys.filterMap fun tileKey =>
    (settledTileOf world playerId tileKey).map fun tile =>
      { anchorAt tileKey playerId (settledAt world deps tileKey) .TOWN with
        guaranteedRadius := landedAfcGuarantee tile }

def summaryAnchors : List ReachAnchor :=
  world.playerSummaries.entries.flatMap fun entry =>
    if isBarbarianOwner entry.1 then []
    else townAnchors world deps entry.1 entry.2 ++ afcAnchors world deps entry.1 entry.2

def beaconAnchors : List ReachAnchor :=
  world.activeRelayBeaconsByOwner.entries.flatMap fun entry =>
    if isBarbarianOwner entry.1 then []
    else
      entry.2.filterMap fun tileKey =>
        ((world.tiles.get tileKey).filter AnchorTile.isSettled).map fun tile =>
          anchorAt tileKey entry.1 (beaconActivatedAt tile deps.now) .OUTPOST

def dockAnchors : List ReachAnchor :=
  deps.docks.filterMap fun tileKey =>
    ((world.tiles.get tileKey).filter AnchorTile.isSettled).bind fun tile =>
      (tile.ownerId.filter fun ownerId => !isBarbarianOwner ownerId).map fun ownerId =>
        anchorAt tileKey ownerId (settledAt world deps tileKey) .DOCK

/-- Every anchor of the world: summaries, beacons, docks. -/
def gatherReachAnchors : List ReachAnchor :=
  (summaryAnchors world deps ++ beaconAnchors world deps ++ dockAnchors world deps).map
    (withAfcReachRadii deps.townReachRadiusBonus)

/-! ## §4. Reporting. -/

/-- The owner of the anchor of a kind, read off the tile's fields. -/
def activeAnchorOwner (kind : ReachAnchorKind) (tile : AnchorTile) : Option PlayerId :=
  match kind with
  | .TOWN => if tile.isSettled && (tile.hasTown || tile.afc.isSome) then tile.ownerId else none
  | .OUTPOST => if tile.isSettled then activeBeaconOwner tile else none
  | .DOCK => if tile.isSettled && tile.hasDockId then tile.ownerId else none

/-- The anchor the tile has now and its owner had not before. -/
def newlyActivatedAnchor (tileKey : TileKey W) (previous : Option AnchorTile) (tile : AnchorTile)
    (now : Int) (kind : ReachAnchorKind) : Option ReachAnchor :=
  let was := previous.bind (activeAnchorOwner kind)
  (activeAnchorOwner kind tile).bind fun owner =>
    if some owner = was then none
    else
      let anchor := anchorAt tileKey owner now kind
      some
        (match kind with
        | .TOWN => { anchor with guaranteedRadius := landedAfcGuarantee tile }
        | .OUTPOST => { anchor with activatedAt := beaconActivatedAt tile now }
        | .DOCK => anchor)

/-- The anchor the tile had before and its owner has no more. -/
def newlyDeactivatedAnchor (tileKey : TileKey W) (previous : Option AnchorTile)
    (tile : AnchorTile) (now : Int) (kind : ReachAnchorKind) : Option ReachAnchor :=
  (previous.bind (activeAnchorOwner kind)).bind fun owner =>
    if some owner = activeAnchorOwner kind tile then none
    else some (anchorAt tileKey owner now kind)

def reportedKinds : List ReachAnchorKind := [.TOWN, .OUTPOST, .DOCK]

def newlyActivatedReachAnchors (tileKey : TileKey W) (previous : Option AnchorTile)
    (tile : AnchorTile) (now : Int) : List ReachAnchor :=
  (reportedKinds.filterMap (newlyActivatedAnchor tileKey previous tile now)).filter
    fun anchor => !isBarbarianOwner anchor.ownerId

def newlyDeactivatedReachAnchors (tileKey : TileKey W) (previous : Option AnchorTile)
    (tile : AnchorTile) (now : Int) : List ReachAnchor :=
  (reportedKinds.filterMap (newlyDeactivatedAnchor tileKey previous tile now)).filter
    fun anchor => !isBarbarianOwner anchor.ownerId

/-! ## §5. The indexes stay in step. -/

def townIndexOwner (tile : AnchorTile) : Option PlayerId :=
  if tile.isSettled && tile.hasTown then tile.ownerId else none

def afcIndexOwner (tile : AnchorTile) : Option PlayerId :=
  if tile.isSettled && hasActiveOwnAfc tile then tile.ownerId else none

/-- The summaries and the beacon index say what the tiles say. -/
structure InStep (world : AnchorWorld W) : Prop where
  towns : OwnerIndex.InStep townIndexOwner world.tiles.get
    fun p k => k ∈ (summaryForPlayer world.playerSummaries p).ownedTownTierByTile
  afcs : OwnerIndex.InStep afcIndexOwner world.tiles.get
    fun p k => k ∈ (summaryForPlayer world.playerSummaries p).ownedAfcTileKeys
  beacons : OwnerIndex.InStep beaconIndexOwner world.tiles.get
    fun p k => k ∈ OwnerIndex.members world.activeRelayBeaconsByOwner p

theorem inStep_empty : InStep (AnchorWorld.empty : AnchorWorld W) where
  towns := by
    intro p k
    simp [AnchorWorld.empty, summaryForPlayer, AnchorSummary.empty]
  afcs := by
    intro p k
    simp [AnchorWorld.empty, summaryForPlayer, AnchorSummary.empty]
  beacons := by
    intro p k
    simp [AnchorWorld.empty, OwnerIndex.members]

theorem summaryForPlayer_update (summaries : InsertionMap PlayerId (AnchorSummary W))
    (ownerId : Option PlayerId) (change : AnchorSummary W → AnchorSummary W) (p : PlayerId) :
    summaryForPlayer (updateOwnerSummary summaries ownerId change) p
      = if ownerId = some p then change (summaryForPlayer summaries p)
        else summaryForPlayer summaries p := by
  unfold updateOwnerSummary
  cases ownerId with
  | none => simp
  | some q =>
      dsimp only
      unfold summaryForPlayer
      rw [InsertionMap.get_set]
      by_cases hq : q = p
      · subst hq
        simp
      · simp [hq]

def clearedSummary (world : AnchorWorld W) (tileKey : TileKey W) (p : PlayerId) : AnchorSummary W :=
  match world.tiles.get tileKey with
  | none => summaryForPlayer world.playerSummaries p
  | some was =>
      if was.ownerId = some p then
        removeTileFromPlayerSummary (summaryForPlayer world.playerSummaries p) tileKey was
      else summaryForPlayer world.playerSummaries p

theorem summary_replaceTileState (world : AnchorWorld W) (tileKey : TileKey W)
    (tile : AnchorTile) (now : Int) (p : PlayerId) :
    summaryForPlayer (world.replaceTileState tileKey tile now).playerSummaries p
      = if tile.ownerId = some p then
          applyTileToPlayerSummary (clearedSummary world tileKey p) tileKey tile
        else clearedSummary world tileKey p := by
  unfold AnchorWorld.replaceTileState clearedSummary
  dsimp only
  rw [summaryForPlayer_update]
  cases world.tiles.get tileKey with
  | none => rfl
  | some was =>
      dsimp only
      rw [summaryForPlayer_update]

theorem townIndexOwner_iff (tile : AnchorTile) (p : PlayerId) :
    townIndexOwner tile = some p
      ↔ (tile.isSettled && tile.hasTown) = true ∧ tile.ownerId = some p := by
  unfold townIndexOwner
  split <;> simp_all

theorem afcIndexOwner_iff (tile : AnchorTile) (p : PlayerId) :
    afcIndexOwner tile = some p
      ↔ (tile.isSettled && hasActiveOwnAfc tile) = true ∧ tile.ownerId = some p := by
  unfold afcIndexOwner
  split <;> simp_all

theorem mem_ite_add {c : Bool} {l : List (TileKey W)} {key k : TileKey W} :
    k ∈ (if c then InsertionSet.add l key else l) ↔ k ∈ l ∨ (c = true ∧ k = key) := by
  cases c
  · simp
  · simp [InsertionSet.mem_add]

theorem mem_ite_filter {c : Bool} {l : List (TileKey W)} {key k : TileKey W} :
    k ∈ (if c then l.filter fun x => decide (x ≠ key) else l) ↔ k ∈ l ∧ ¬ (c = true ∧ k = key) := by
  cases c
  · simp
  · simp

theorem mem_cleared_towns (world : AnchorWorld W) (tileKey k : TileKey W) (p : PlayerId) :
    k ∈ (clearedSummary world tileKey p).ownedTownTierByTile
      ↔ k ∈ (summaryForPlayer world.playerSummaries p).ownedTownTierByTile
        ∧ ¬ ((world.tiles.get tileKey).bind townIndexOwner = some p ∧ k = tileKey) := by
  unfold clearedSummary
  cases world.tiles.get tileKey with
  | none => simp
  | some was =>
      dsimp only [Option.bind_some]
      by_cases hp : was.ownerId = some p
      · rw [if_pos hp, townIndexOwner_iff]
        show k ∈ (if was.isSettled && was.hasTown then _ else _) ↔ _
        rw [mem_ite_filter]
        simp [hp]
      · rw [if_neg hp, townIndexOwner_iff]
        simp [hp]

theorem mem_cleared_afcs (world : AnchorWorld W) (tileKey k : TileKey W) (p : PlayerId) :
    k ∈ (clearedSummary world tileKey p).ownedAfcTileKeys
      ↔ k ∈ (summaryForPlayer world.playerSummaries p).ownedAfcTileKeys
        ∧ ¬ ((world.tiles.get tileKey).bind AnchorTile.ownerId = some p ∧ k = tileKey) := by
  unfold clearedSummary
  cases world.tiles.get tileKey with
  | none => simp
  | some was =>
      dsimp only [Option.bind_some]
      by_cases hp : was.ownerId = some p
      · rw [if_pos hp]
        simp [removeTileFromPlayerSummary, hp]
      · rw [if_neg hp]
        simp [hp]

theorem mem_replaced_towns (world : AnchorWorld W) (tileKey k : TileKey W) (tile : AnchorTile)
    (now : Int) (p : PlayerId) :
    k ∈ (summaryForPlayer
        (world.replaceTileState tileKey tile now).playerSummaries p).ownedTownTierByTile
      ↔ k ∈ (clearedSummary world tileKey p).ownedTownTierByTile
        ∨ (townIndexOwner tile = some p ∧ k = tileKey) := by
  rw [summary_replaceTileState, townIndexOwner_iff]
  by_cases hp : tile.ownerId = some p
  · rw [if_pos hp]
    show k ∈ (if tile.isSettled && tile.hasTown then _ else _) ↔ _
    rw [mem_ite_add]
    simp [hp]
  · rw [if_neg hp]
    simp [hp]

theorem mem_replaced_afcs (world : AnchorWorld W) (tileKey k : TileKey W) (tile : AnchorTile)
    (now : Int) (p : PlayerId) :
    k ∈ (summaryForPlayer
        (world.replaceTileState tileKey tile now).playerSummaries p).ownedAfcTileKeys
      ↔ k ∈ (clearedSummary world tileKey p).ownedAfcTileKeys
        ∨ (afcIndexOwner tile = some p ∧ k = tileKey) := by
  rw [summary_replaceTileState, afcIndexOwner_iff]
  by_cases hp : tile.ownerId = some p
  · rw [if_pos hp]
    show k ∈ (if tile.isSettled && hasActiveOwnAfc tile then _ else _) ↔ _
    rw [mem_ite_add]
    simp [hp]
  · rw [if_neg hp]
    simp [hp]

/-- **Step lemma**: every tile write keeps the indexes in step. -/
theorem InStep.replaceTileState {world : AnchorWorld W} (h : InStep world) (tileKey : TileKey W)
    (tile : AnchorTile) (now : Int) : InStep (world.replaceTileState tileKey tile now) := by
  have hnext : (world.replaceTileState tileKey tile now).tiles.get tileKey = some tile :=
    InsertionMap.get_set_self _ _ _
  have hothers : ∀ k, k ≠ tileKey →
      (world.replaceTileState tileKey tile now).tiles.get k = world.tiles.get k :=
    fun k hk => InsertionMap.get_set_ne _ hk.symm _
  refine { towns := ?_, afcs := ?_, beacons := ?_ }
  · refine OwnerIndex.InStep.of_moves h.towns ?_ hnext hothers
    refine { others := fun p k hk => ?_, left := fun p => ?_, arrived := fun p hp => ?_ }
    · simp [mem_replaced_towns, mem_cleared_towns, hk]
    · simp [mem_replaced_towns, mem_cleared_towns]
    · simp [mem_replaced_towns, hp]
  · refine OwnerIndex.InStep.of_moves h.afcs ?_ hnext hothers
    refine { others := fun p k hk => ?_, left := fun p => ?_, arrived := fun p hp => ?_ }
    · simp [mem_replaced_afcs, mem_cleared_afcs, hk]
    · -- Whoever loses the key held the tile.
      have howner : (world.tiles.get tileKey).bind afcIndexOwner = some p →
          (world.tiles.get tileKey).bind AnchorTile.ownerId = some p := by
        cases world.tiles.get tileKey with
        | none => exact id
        | some was => exact fun hp => ((afcIndexOwner_iff was p).mp hp).2
      rw [mem_replaced_afcs, mem_cleared_afcs]
      rintro (⟨hmem, hgone⟩ | ⟨htarget, _⟩)
      · exact Or.inl ⟨hmem, fun hp => hgone ⟨howner hp, rfl⟩⟩
      · exact Or.inr htarget
    · simp [mem_replaced_afcs, hp]
  · show OwnerIndex.InStep beaconIndexOwner _ fun p k => k ∈ OwnerIndex.members
      (refreshRelayBeaconIndexForTile world.activeRelayBeaconsByOwner tileKey
        (world.tiles.get tileKey) tile) p
    unfold refreshRelayBeaconIndexForTile
    dsimp only
    split
    · rename_i hstays
      exact h.beacons.of_stays hstays hnext hothers
    · exact h.beacons.of_moves (OwnerIndex.reindex_moves _ _ _ _) hnext hothers

/-! ## §6. Where the anchors are. -/

/-- An anchor as a border sees it: its tile, its owner and its kind.  Stamps
and radii are recomputed wherever an anchor is read. -/
structure AnchorIdentity (W : WorldSize) where
  tileKey : TileKey W
  ownerId : PlayerId
  kind : ReachAnchorKind
  deriving DecidableEq

variable (W) in
def ReachAnchor.identity (anchor : ReachAnchor) : AnchorIdentity W :=
  ⟨anchor.anchorTile W, anchor.ownerId, anchor.kind⟩

variable (W) in
/-- Anchors by tile, owner and kind, whatever their dates. -/
def identities (anchors : List ReachAnchor) : Set (AnchorIdentity W) :=
  { id | ∃ anchor ∈ anchors, anchor.identity W = id }

theorem identity_anchorAt (tileKey : TileKey W) (ownerId : PlayerId) (activatedAt : Int)
    (kind : ReachAnchorKind) :
    (anchorAt tileKey ownerId activatedAt kind).identity W = ⟨tileKey, ownerId, kind⟩ := by
  unfold ReachAnchor.identity ReachAnchor.anchorTile anchorAt ReachAnchor.plain
  dsimp only
  rw [wrappedTile_self]

@[simp] theorem identity_withAfcReachRadii (bonus : PlayerId → Nat) (anchor : ReachAnchor) :
    (withAfcReachRadii bonus anchor).identity W = anchor.identity W := by
  unfold withAfcReachRadii
  split <;> rfl

def gatheredAnchorOwner (docks : List (TileKey W)) (tileKey : TileKey W) (kind : ReachAnchorKind)
    (tile : AnchorTile) : Option PlayerId :=
  (match kind with
    | .TOWN =>
        if tile.isSettled && (tile.hasTown || hasActiveOwnAfc tile) then tile.ownerId else none
    | .OUTPOST => if tile.isSettled then beaconIndexOwner tile else none
    | .DOCK => if tile.isSettled && decide (tileKey ∈ docks) then tile.ownerId else none).filter
    fun ownerId => !isBarbarianOwner ownerId

variable {world : AnchorWorld W} {deps : GatherDeps W}

variable {p : PlayerId} {tile : AnchorTile} {tileKey : TileKey W} {previous : Option AnchorTile}

theorem mem_summaryForPlayer {k : TileKey W} (keysOf : AnchorSummary W → List (TileKey W))
    (hempty : keysOf AnchorSummary.empty = []) :
    k ∈ keysOf (summaryForPlayer world.playerSummaries p)
      ↔ ∃ summary, (p, summary) ∈ world.playerSummaries.entries ∧ k ∈ keysOf summary := by
  simp only [InsertionMap.mem_entries_iff]
  unfold summaryForPlayer
  cases world.playerSummaries.get p with
  | none => simp [hempty]
  | some summary => simp

theorem mem_settledAnchors {keys : List (TileKey W)} {id : AnchorIdentity W}
    {make : TileKey W → AnchorTile → ReachAnchor}
    (hmake : ∀ k tile, (make k tile).identity W = ⟨k, p, .TOWN⟩) :
    id ∈ identities W (keys.filterMap fun k => (settledTileOf world p k).map (make k))
      ↔ id.ownerId = p ∧ id.kind = .TOWN ∧ id.tileKey ∈ keys
        ∧ (settledTileOf world p id.tileKey).isSome := by
  obtain ⟨key, owner, kind⟩ := id
  simp only [identities, Set.mem_ofPred_eq, List.mem_filterMap, Option.map_eq_some_iff]
  constructor
  · rintro ⟨_, ⟨k, hk, tile, htile, rfl⟩, hid⟩
    rw [hmake] at hid
    cases hid
    exact ⟨rfl, rfl, hk, by simp [htile]⟩
  · rintro ⟨rfl, rfl, hk, hsettled⟩
    obtain ⟨tile, htile⟩ := Option.isSome_iff_exists.mp hsettled
    exact ⟨_, ⟨key, hk, tile, htile, rfl⟩, hmake key tile⟩

theorem mem_townAnchors {summary : AnchorSummary W} {id : AnchorIdentity W} :
    id ∈ identities W (townAnchors world deps p summary)
      ↔ id.ownerId = p ∧ id.kind = .TOWN ∧ id.tileKey ∈ summary.ownedTownTierByTile
        ∧ (settledTileOf world p id.tileKey).isSome :=
  mem_settledAnchors fun k _ => identity_anchorAt k p (settledAt world deps k) .TOWN

theorem mem_afcAnchors {summary : AnchorSummary W} {id : AnchorIdentity W} :
    id ∈ identities W (afcAnchors world deps p summary)
      ↔ id.ownerId = p ∧ id.kind = .TOWN ∧ id.tileKey ∈ summary.ownedAfcTileKeys
        ∧ (settledTileOf world p id.tileKey).isSome :=
  mem_settledAnchors fun k _ => identity_anchorAt k p (settledAt world deps k) .TOWN

theorem identities_append (as bs : List ReachAnchor) :
    identities W (as ++ bs) = identities W as ∪ identities W bs := by
  ext id
  simp [identities, or_and_right, exists_or]

theorem identities_map (f : ReachAnchor → ReachAnchor)
    (hf : ∀ anchor, (f anchor).identity W = anchor.identity W) (anchors : List ReachAnchor) :
    identities W (anchors.map f) = identities W anchors := by
  ext id
  constructor
  · rintro ⟨_, hmem, hid⟩
    obtain ⟨anchor, hanchor, rfl⟩ := List.mem_map.mp hmem
    exact ⟨anchor, hanchor, (hf anchor).symm.trans hid⟩
  · rintro ⟨anchor, hanchor, hid⟩
    exact ⟨f anchor, List.mem_map.mpr ⟨anchor, hanchor, rfl⟩, (hf anchor).trans hid⟩

theorem mem_summaryAnchors {id : AnchorIdentity W} :
    id ∈ identities W (summaryAnchors world deps)
      ↔ id.kind = .TOWN ∧ isBarbarianOwner id.ownerId = false
        ∧ (id.tileKey ∈ (summaryForPlayer world.playerSummaries id.ownerId).ownedTownTierByTile
          ∨ id.tileKey ∈ (summaryForPlayer world.playerSummaries id.ownerId).ownedAfcTileKeys)
        ∧ (settledTileOf world id.ownerId id.tileKey).isSome := by
  have hentry : ∀ (p : PlayerId) (summary : AnchorSummary W),
      (∃ anchor ∈ (if isBarbarianOwner p then []
          else townAnchors world deps p summary ++ afcAnchors world deps p summary),
        anchor.identity W = id)
      ↔ isBarbarianOwner p = false ∧ id.ownerId = p ∧ id.kind = .TOWN
        ∧ (id.tileKey ∈ summary.ownedTownTierByTile ∨ id.tileKey ∈ summary.ownedAfcTileKeys)
        ∧ (settledTileOf world p id.tileKey).isSome := by
    intro p summary
    by_cases hbarbarian : isBarbarianOwner p = true
    · rw [if_pos hbarbarian]
      simp [hbarbarian]
    · rw [if_neg hbarbarian]
      have hboth : (∃ anchor ∈ townAnchors world deps p summary ++ afcAnchors world deps p summary,
          anchor.identity W = id)
          ↔ id ∈ identities W (townAnchors world deps p summary)
            ∪ identities W (afcAnchors world deps p summary) := by
        rw [← identities_append]
        rfl
      rw [hboth, Set.mem_union, mem_townAnchors, mem_afcAnchors]
      simp only [Bool.not_eq_true] at hbarbarian
      tauto
  constructor
  · rintro ⟨anchor, hanchor, hid⟩
    obtain ⟨⟨p, summary⟩, hmem, hlisted⟩ := List.mem_flatMap.mp hanchor
    obtain ⟨hbarbarian, howner, hkind, hkeys, hsettled⟩ :=
      (hentry p summary).mp ⟨anchor, hlisted, hid⟩
    subst howner
    rw [mem_summaryForPlayer AnchorSummary.ownedTownTierByTile rfl,
      mem_summaryForPlayer AnchorSummary.ownedAfcTileKeys rfl]
    exact ⟨hkind, hbarbarian, hkeys.imp (fun h => ⟨summary, hmem, h⟩) (fun h => ⟨summary, hmem, h⟩),
      hsettled⟩
  · rintro ⟨hkind, hbarbarian, hkeys, hsettled⟩
    rw [mem_summaryForPlayer AnchorSummary.ownedTownTierByTile rfl,
      mem_summaryForPlayer AnchorSummary.ownedAfcTileKeys rfl] at hkeys
    obtain ⟨summary, hmem, hlisted⟩ : ∃ summary,
        (id.ownerId, summary) ∈ world.playerSummaries.entries
          ∧ (id.tileKey ∈ summary.ownedTownTierByTile ∨ id.tileKey ∈ summary.ownedAfcTileKeys) := by
      rcases hkeys with ⟨summary, hmem, h⟩ | ⟨summary, hmem, h⟩
      · exact ⟨summary, hmem, Or.inl h⟩
      · exact ⟨summary, hmem, Or.inr h⟩
    obtain ⟨anchor, hanchor, hid⟩ :=
      (hentry id.ownerId summary).mpr ⟨hbarbarian, rfl, hkind, hlisted, hsettled⟩
    exact ⟨anchor, List.mem_flatMap.mpr ⟨(id.ownerId, summary), hmem, hanchor⟩, hid⟩

theorem mem_beaconAnchors {id : AnchorIdentity W} :
    id ∈ identities W (beaconAnchors world deps)
      ↔ id.kind = .OUTPOST ∧ isBarbarianOwner id.ownerId = false
        ∧ id.tileKey ∈ OwnerIndex.members world.activeRelayBeaconsByOwner id.ownerId
        ∧ ((world.tiles.get id.tileKey).filter AnchorTile.isSettled).isSome := by
  have hmembers : ∀ p k, k ∈ OwnerIndex.members world.activeRelayBeaconsByOwner p
      ↔ ∃ keys, (p, keys) ∈ world.activeRelayBeaconsByOwner.entries ∧ k ∈ keys := by
    intro p k
    simp only [InsertionMap.mem_entries_iff]
    unfold OwnerIndex.members
    cases world.activeRelayBeaconsByOwner.get p with
    | none => simp
    | some keys => simp
  obtain ⟨key, owner, kind⟩ := id
  constructor
  · rintro ⟨anchor, hanchor, hid⟩
    obtain ⟨⟨p, keys⟩, hmem, hlisted⟩ := List.mem_flatMap.mp hanchor
    dsimp only at hlisted
    split at hlisted
    · cases hlisted
    rename_i hbarbarian
    obtain ⟨k, hk, hsome⟩ := List.mem_filterMap.mp hlisted
    obtain ⟨tile, htile, rfl⟩ := Option.map_eq_some_iff.mp hsome
    rw [identity_anchorAt] at hid
    cases hid
    exact ⟨rfl, by simpa using hbarbarian, (hmembers _ _).mpr ⟨keys, hmem, hk⟩, by simp [htile]⟩
  · rintro ⟨hkind, hbarbarian, hmem, hsettled⟩
    dsimp only at hkind hbarbarian hmem hsettled
    subst hkind
    obtain ⟨keys, hkeys, hk⟩ := (hmembers _ _).mp hmem
    obtain ⟨tile, htile⟩ := Option.isSome_iff_exists.mp hsettled
    refine ⟨anchorAt key owner (beaconActivatedAt tile deps.now) .OUTPOST,
      List.mem_flatMap.mpr ⟨(owner, keys), hkeys, ?_⟩, identity_anchorAt key owner _ _⟩
    dsimp only
    rw [if_neg (by simp [hbarbarian])]
    refine List.mem_filterMap.mpr ⟨key, hk, ?_⟩
    rw [htile]
    rfl

theorem mem_dockAnchors {id : AnchorIdentity W} :
    id ∈ identities W (dockAnchors world deps)
      ↔ id.kind = .DOCK ∧ isBarbarianOwner id.ownerId = false ∧ id.tileKey ∈ deps.docks
        ∧ ∃ tile, world.tiles.get id.tileKey = some tile ∧ tile.isSettled = true
          ∧ tile.ownerId = some id.ownerId := by
  obtain ⟨key, owner, kind⟩ := id
  constructor
  · rintro ⟨anchor, hanchor, hid⟩
    obtain ⟨k, hk, hsome⟩ := List.mem_filterMap.mp hanchor
    obtain ⟨tile, htile, hanchor⟩ := Option.bind_eq_some_iff.mp hsome
    obtain ⟨o, howner, rfl⟩ := Option.map_eq_some_iff.mp hanchor
    rw [identity_anchorAt] at hid
    cases hid
    rw [Option.filter_eq_some_iff] at htile howner
    exact ⟨rfl, by simpa using howner.2, hk, tile, htile.1, htile.2, howner.1⟩
  · rintro ⟨hkind, hbarbarian, hk, tile, htile, hsettled, howner⟩
    dsimp only at hkind hbarbarian hk htile howner
    subst hkind
    refine ⟨anchorAt key owner (settledAt world deps key) .DOCK,
      List.mem_filterMap.mpr ⟨key, hk, ?_⟩, identity_anchorAt key owner _ _⟩
    rw [htile]
    simp only [Option.filter_some, hsettled, if_true, Option.bind_some, howner, hbarbarian]
    rfl

theorem settledTileOf_isSome {k : TileKey W} :
    (settledTileOf world p k).isSome = true
      ↔ ∃ tile, world.tiles.get k = some tile ∧ tile.ownerId = some p ∧ tile.isSettled = true := by
  unfold settledTileOf
  cases world.tiles.get k with
  | none => simp
  | some tile => simp [Option.isSome_filter]

theorem beaconIndexOwner_iff (tile : AnchorTile) (p : PlayerId) :
    beaconIndexOwner tile = some p ↔ tile.ownerId = some p ∧ activeBeaconOwner tile = some p := by
  unfold beaconIndexOwner isRelayBeaconActive
  rw [Option.filter_eq_some_iff]
  simp

/-- **What a gather finds**, tile by tile. -/
theorem mem_gather_iff (h : InStep world) (id : AnchorIdentity W) :
    id ∈ identities W (gatherReachAnchors world deps)
      ↔ (world.tiles.get id.tileKey).bind (gatheredAnchorOwner deps.docks id.tileKey id.kind)
        = some id.ownerId := by
  have hlisted : id ∈ identities W (gatherReachAnchors world deps)
      ↔ id ∈ identities W (summaryAnchors world deps) ∨ id ∈ identities W (beaconAnchors world deps)
        ∨ id ∈ identities W (dockAnchors world deps) := by
    unfold gatherReachAnchors
    rw [identities_map _ (identity_withAfcReachRadii deps.townReachRadiusBonus),
      identities_append, identities_append, Set.mem_union, Set.mem_union, or_assoc]
  rw [hlisted, mem_summaryAnchors, mem_beaconAnchors, mem_dockAnchors, settledTileOf_isSome]
  obtain ⟨key, owner, kind⟩ := id
  have htowns := h.towns owner key
  have hafcs := h.afcs owner key
  have hbeacons := h.beacons owner key
  dsimp only at htowns hafcs hbeacons ⊢
  rw [htowns, hafcs, hbeacons]
  cases htile : world.tiles.get key with
  | none => simp
  | some tile =>
      simp only [Option.bind_some, townIndexOwner_iff, afcIndexOwner_iff, beaconIndexOwner_iff]
      unfold gatheredAnchorOwner
      rw [Option.filter_eq_some_iff]
      cases kind with
      | TOWN =>
          by_cases hsettled : tile.isSettled = true
          · by_cases howner : tile.ownerId = some owner
            · cases tile.hasTown <;> simp [hsettled, howner, and_comm]
            · simp [howner, hsettled]
          · simp [hsettled]
      | OUTPOST =>
          by_cases hsettled : tile.isSettled = true
          · simp [hsettled, beaconIndexOwner_iff, and_comm]
          · simp [hsettled, Option.filter_some]
      | DOCK =>
          by_cases hsettled : tile.isSettled = true
          · by_cases hdock : key ∈ deps.docks
            · simp [hsettled, hdock, and_comm]
            · simp [hsettled, hdock]
          · simp [hsettled]

/-! ## §7. What is reported. -/

theorem mem_reportedKinds (kind : ReachAnchorKind) : kind ∈ reportedKinds := by
  cases kind <;> simp [reportedKinds]

theorem identity_changed {kind : ReachAnchorKind} {id : AnchorIdentity W}
    {owner other : Option PlayerId} {make : PlayerId → ReachAnchor}
    (hmake : ∀ o, (make o).identity W = ⟨tileKey, o, kind⟩ ∧ (make o).ownerId = o) :
    (∃ anchor, (owner.bind fun o => if some o = other then none else some (make o)) = some anchor
        ∧ isBarbarianOwner anchor.ownerId = false ∧ anchor.identity W = id)
      ↔ id.tileKey = tileKey ∧ id.kind = kind ∧ isBarbarianOwner id.ownerId = false
        ∧ owner = some id.ownerId ∧ other ≠ some id.ownerId := by
  obtain ⟨key, idOwner, idKind⟩ := id
  constructor
  · rintro ⟨anchor, hanchor, hbarbarian, hid⟩
    obtain ⟨o, howner, hsome⟩ := Option.bind_eq_some_iff.mp hanchor
    split at hsome
    · cases hsome
    rename_i hother
    cases hsome
    rw [(hmake o).1] at hid
    rw [(hmake o).2] at hbarbarian
    cases hid
    exact ⟨rfl, rfl, hbarbarian, howner, fun heq => hother heq.symm⟩
  · rintro ⟨rfl, rfl, hbarbarian, howner, hother⟩
    rw [howner, Option.bind_some, if_neg (fun heq => hother heq.symm)]
    exact ⟨_, rfl, ((hmake idOwner).2).symm ▸ hbarbarian, (hmake idOwner).1⟩

theorem identity_newlyActivatedAnchor {now : Int} {kind : ReachAnchorKind} {id : AnchorIdentity W} :
    (∃ anchor, newlyActivatedAnchor tileKey previous tile now kind = some anchor
        ∧ isBarbarianOwner anchor.ownerId = false ∧ anchor.identity W = id)
      ↔ id.tileKey = tileKey ∧ id.kind = kind ∧ isBarbarianOwner id.ownerId = false
        ∧ activeAnchorOwner kind tile = some id.ownerId
        ∧ previous.bind (activeAnchorOwner kind) ≠ some id.ownerId := by
  refine identity_changed fun o => ?_
  cases kind
  · exact ⟨identity_anchorAt tileKey o now .TOWN, rfl⟩
  · exact ⟨identity_anchorAt tileKey o now .OUTPOST, rfl⟩
  · exact ⟨identity_anchorAt tileKey o now .DOCK, rfl⟩

theorem identity_newlyDeactivatedAnchor {now : Int} {kind : ReachAnchorKind} {id : AnchorIdentity W}
    :
    (∃ anchor, newlyDeactivatedAnchor tileKey previous tile now kind = some anchor
        ∧ isBarbarianOwner anchor.ownerId = false ∧ anchor.identity W = id)
      ↔ id.tileKey = tileKey ∧ id.kind = kind ∧ isBarbarianOwner id.ownerId = false
        ∧ previous.bind (activeAnchorOwner kind) = some id.ownerId
        ∧ activeAnchorOwner kind tile ≠ some id.ownerId :=
  identity_changed fun o => ⟨identity_anchorAt tileKey o now kind, rfl⟩

theorem mem_identities_reports {report : ReachAnchorKind → Option ReachAnchor}
    {id : AnchorIdentity W} :
    id ∈ identities W ((reportedKinds.filterMap report).filter
        fun anchor => !isBarbarianOwner anchor.ownerId)
      ↔ ∃ kind anchor, report kind = some anchor ∧ isBarbarianOwner anchor.ownerId = false
        ∧ anchor.identity W = id := by
  constructor
  · rintro ⟨anchor, hmem, hid⟩
    obtain ⟨hlisted, hbarbarian⟩ := List.mem_filter.mp hmem
    obtain ⟨kind, _, hreport⟩ := List.mem_filterMap.mp hlisted
    exact ⟨kind, anchor, hreport, by simpa using hbarbarian, hid⟩
  · rintro ⟨kind, anchor, hreport, hbarbarian, hid⟩
    exact ⟨anchor, List.mem_filter.mpr
      ⟨List.mem_filterMap.mpr ⟨kind, mem_reportedKinds kind, hreport⟩, by simp [hbarbarian]⟩, hid⟩

theorem mem_newlyActivated {now : Int} {id : AnchorIdentity W} :
    id ∈ identities W (newlyActivatedReachAnchors tileKey previous tile now)
      ↔ id.tileKey = tileKey ∧ isBarbarianOwner id.ownerId = false
        ∧ activeAnchorOwner id.kind tile = some id.ownerId
        ∧ previous.bind (activeAnchorOwner id.kind) ≠ some id.ownerId := by
  unfold newlyActivatedReachAnchors
  rw [mem_identities_reports]
  constructor
  · rintro ⟨kind, hreport⟩
    obtain ⟨hkey, rfl, hrest⟩ := identity_newlyActivatedAnchor.mp hreport
    exact ⟨hkey, hrest⟩
  · rintro ⟨hkey, hrest⟩
    exact ⟨id.kind, identity_newlyActivatedAnchor.mpr ⟨hkey, rfl, hrest⟩⟩

theorem mem_newlyDeactivated {now : Int} {id : AnchorIdentity W} :
    id ∈ identities W (newlyDeactivatedReachAnchors tileKey previous tile now)
      ↔ id.tileKey = tileKey ∧ isBarbarianOwner id.ownerId = false
        ∧ previous.bind (activeAnchorOwner id.kind) = some id.ownerId
        ∧ activeAnchorOwner id.kind tile ≠ some id.ownerId := by
  unfold newlyDeactivatedReachAnchors
  rw [mem_identities_reports]
  constructor
  · rintro ⟨kind, hreport⟩
    obtain ⟨hkey, rfl, hrest⟩ := identity_newlyDeactivatedAnchor.mp hreport
    exact ⟨hkey, hrest⟩
  · rintro ⟨hkey, hrest⟩
    exact ⟨id.kind, identity_newlyDeactivatedAnchor.mpr ⟨hkey, rfl, hrest⟩⟩

/-! ## §8. Where the two readings part. -/

/-- The report takes the tile for an anchor and the gather does not: a
settled tile whose AFC is inactive or another's, with no town, or whose
beacon belongs to another than the tile's owner. -/
def Misread (kind : ReachAnchorKind) (tile : AnchorTile) : Prop :=
  match kind with
  | .TOWN =>
      tile.isSettled = true ∧ tile.hasTown = false ∧ tile.afc.isSome = true
        ∧ hasActiveOwnAfc tile = false
        ∧ ∃ owner, tile.ownerId = some owner ∧ isBarbarianOwner owner = false
  | .OUTPOST =>
      tile.isSettled = true
        ∧ ∃ owner, activeBeaconOwner tile = some owner ∧ isBarbarianOwner owner = false
          ∧ tile.ownerId ≠ some owner
  | .DOCK => False

/-- A write that changes who holds an anchor leaves it well read; one that
does not leaves it read as it was. -/
def ReadsAlike (previous : Option AnchorTile) (next : AnchorTile) : Prop :=
  ∀ kind,
    (previous.bind (activeAnchorOwner kind) = activeAnchorOwner kind next →
      ((∃ was, previous = some was ∧ Misread kind was) ↔ Misread kind next))
    ∧ (previous.bind (activeAnchorOwner kind) ≠ activeAnchorOwner kind next → ¬ Misread kind next)

theorem afc_isSome_of_active {tile : AnchorTile} (h : hasActiveOwnAfc tile = true) :
    tile.afc.isSome = true := by
  unfold hasActiveOwnAfc at h
  cases hafc : tile.afc with
  | none => simp [hafc] at h
  | some afc => rfl

theorem gathered_eq {docks : List (TileKey W)} (hdocked : tile.hasDockId = true ↔ tileKey ∈ docks)
    (kind : ReachAnchorKind) (owner : PlayerId) :
    gatheredAnchorOwner docks tileKey kind tile = some owner
      ↔ activeAnchorOwner kind tile = some owner ∧ isBarbarianOwner owner = false
        ∧ ¬ Misread kind tile := by
  unfold gatheredAnchorOwner
  rw [Option.filter_eq_some_iff]
  by_cases hsettled : tile.isSettled = true
  swap
  · cases kind <;> simp [activeAnchorOwner, hsettled]
  cases kind with
  | TOWN =>
      by_cases howner : tile.ownerId = some owner
      · -- One owner: what counts is which building makes the anchor.
        have hactive := @afc_isSome_of_active tile
        simp only [activeAnchorOwner, Misread, hsettled, howner, Bool.true_and]
        cases tile.hasTown <;> cases hafc : hasActiveOwnAfc tile <;>
          cases hsome : tile.afc.isSome <;> simp_all
      · simp [activeAnchorOwner, hsettled, howner]
  | OUTPOST =>
      simp only [activeAnchorOwner, Misread, hsettled, if_true, beaconIndexOwner_iff]
      constructor
      · rintro ⟨⟨howner, hbeacon⟩, hbarbarian⟩
        refine ⟨hbeacon, by simpa using hbarbarian, ?_⟩
        rintro ⟨_, other, hother, _, hforeign⟩
        rw [hbeacon] at hother
        cases hother
        exact hforeign howner
      · rintro ⟨hbeacon, hbarbarian, hread⟩
        refine ⟨⟨?_, hbeacon⟩, by simp [hbarbarian]⟩
        by_contra hforeign
        exact hread ⟨trivial, owner, hbeacon, hbarbarian, hforeign⟩
  | DOCK =>
      have hdock : tile.hasDockId = decide (tileKey ∈ docks) := by
        rw [Bool.eq_iff_iff, hdocked, decide_eq_true_iff]
      simp [activeAnchorOwner, Misread, hsettled, hdock]

theorem Misread.reported {kind : ReachAnchorKind} (h : Misread kind tile) :
    ∃ owner, activeAnchorOwner kind tile = some owner ∧ isBarbarianOwner owner = false := by
  cases kind with
  | TOWN =>
      obtain ⟨hsettled, _, hafc, _, owner, howner, hbarbarian⟩ := h
      exact ⟨owner, by simp [activeAnchorOwner, hsettled, hafc, howner], hbarbarian⟩
  | OUTPOST =>
      obtain ⟨hsettled, owner, hbeacon, hbarbarian, _⟩ := h
      exact ⟨owner, by simp [activeAnchorOwner, hsettled, hbeacon], hbarbarian⟩
  | DOCK => exact h.elim

/-! ## §9. The report is the difference. -/

/-- One write.  Docks are fixed at world generation: every write carries the
tile's dock id along. -/
structure TileWrite (docks : List (TileKey W)) where
  tileKey : TileKey W
  tile : AnchorTile
  docked : tile.hasDockId = true ↔ tileKey ∈ docks
  now : Int

def AnchorWorld.write {docks : List (TileKey W)} (world : AnchorWorld W)
    (write : TileWrite docks) : AnchorWorld W :=
  world.replaceTileState write.tileKey write.tile write.now

def worldAfter {docks : List (TileKey W)} (writes : List (TileWrite docks)) : AnchorWorld W :=
  writes.foldl AnchorWorld.write .empty

def Docked (docks : List (TileKey W)) (world : AnchorWorld W) : Prop :=
  ∀ tileKey tile, world.tiles.get tileKey = some tile → (tile.hasDockId = true ↔ tileKey ∈ docks)

theorem Docked.write {docks : List (TileKey W)} (h : Docked docks world)
    (write : TileWrite docks) : Docked docks (world.write write) := by
  intro tileKey tile htile
  have htile : (world.tiles.set write.tileKey write.tile).get tileKey = some tile := htile
  rw [InsertionMap.get_set] at htile
  split at htile
  · rename_i hkey
    cases htile
    rw [← hkey]
    exact write.docked
  · exact h tileKey tile htile

theorem worldAfter_inStep {docks : List (TileKey W)} (writes : List (TileWrite docks)) :
    InStep (worldAfter writes) ∧ Docked docks (worldAfter writes) := by
  have hrun : ∀ (writes : List (TileWrite docks)) (world : AnchorWorld W),
      InStep world ∧ Docked docks world →
        InStep (writes.foldl AnchorWorld.write world)
          ∧ Docked docks (writes.foldl AnchorWorld.write world) := by
    intro writes
    induction writes with
    | nil => exact fun world h => h
    | cons write rest ih =>
        intro world h
        exact ih (world.write write)
          ⟨h.1.replaceTileState write.tileKey write.tile write.now, h.2.write write⟩
  refine hrun writes .empty ⟨inStep_empty, ?_⟩
  intro tileKey tile htile
  cases htile

theorem gathered_previous {docks : List (TileKey W)}
    (hdocked : ∀ was, previous = some was → (was.hasDockId = true ↔ tileKey ∈ docks))
    (kind : ReachAnchorKind) (owner : PlayerId) :
    previous.bind (gatheredAnchorOwner docks tileKey kind) = some owner
      ↔ previous.bind (activeAnchorOwner kind) = some owner ∧ isBarbarianOwner owner = false
        ∧ ¬ ∃ was, previous = some was ∧ Misread kind was := by
  cases previous with
  | none => simp
  | some was =>
      rw [Option.bind_some, Option.bind_some, gathered_eq (hdocked was rfl)]
      simp

/-- The report closes the gap between two readings exactly when a change of
reading ends well read and an unchanged one stays read as it was. -/
theorem difference_iff {was now : Option PlayerId} {reports : PlayerId → Prop}
    {wasMisread nowMisread : Prop} (hwas : wasMisread → ∃ o, was = some o ∧ reports o)
    (hnow : nowMisread → ∃ o, now = some o ∧ reports o) :
    (∀ o, (now = some o ∧ reports o ∧ ¬ nowMisread)
        ↔ ((was = some o ∧ reports o ∧ ¬ wasMisread)
            ∧ ¬ (reports o ∧ was = some o ∧ now ≠ some o))
          ∨ (reports o ∧ now = some o ∧ was ≠ some o))
      ↔ (was = now → (wasMisread ↔ nowMisread)) ∧ (was ≠ now → ¬ nowMisread) := by
  constructor
  · intro h
    refine ⟨fun hsame => ⟨fun hmis => ?_, fun hmis => ?_⟩, fun hchanged hmis => ?_⟩
    · -- Misread before: the gather lacked it, and no report adds it.
      obtain ⟨o, ho, hreports⟩ := hwas hmis
      by_contra hread
      rcases (h o).mp ⟨hsame ▸ ho, hreports, hread⟩ with ⟨⟨_, _, hwell⟩, _⟩ | ⟨_, _, hne⟩
      · exact hwell hmis
      · exact hne ho
    · obtain ⟨o, ho, hreports⟩ := hnow hmis
      by_contra hread
      have hstays : now = some o ∧ reports o ∧ ¬ nowMisread :=
        (h o).mpr (Or.inl ⟨⟨hsame ▸ ho, hreports, hread⟩, fun hgone => hgone.2.2 ho⟩)
      exact hstays.2.2 hmis
    · -- A new holder is reported, and the gather must find it.
      obtain ⟨o, ho, hreports⟩ := hnow hmis
      have hfound : now = some o ∧ reports o ∧ ¬ nowMisread :=
        (h o).mpr (Or.inr ⟨hreports, ho, fun heq => hchanged (heq.trans ho.symm)⟩)
      exact hfound.2.2 hmis
  · rintro ⟨hsame, hchanged⟩ o
    by_cases heq : was = now
    · subst heq
      rw [hsame rfl]
      tauto
    · have hread := hchanged heq
      constructor
      · rintro ⟨ho, hreports, _⟩
        exact Or.inr ⟨hreports, ho, fun hold => heq (hold.trans ho.symm)⟩
      · rintro (⟨⟨hold, hreports, _⟩, hstays⟩ | ⟨hreports, ho, _⟩)
        · by_cases ho : now = some o
          · exact ⟨ho, hreports, hread⟩
          · exact absurd ⟨hreports, hold, ho⟩ hstays
        · exact ⟨ho, hreports, hread⟩

/-- **The report of a write is the difference of the two gathers exactly
when the write reads alike**, in every world a run reaches. -/
theorem gather_replaceTileState_iff (deps : GatherDeps W) (writes : List (TileWrite deps.docks))
    (write : TileWrite deps.docks) :
    identities W (gatherReachAnchors ((worldAfter writes).write write) deps)
        = (identities W (gatherReachAnchors (worldAfter writes) deps)
            \ identities W (newlyDeactivatedReachAnchors write.tileKey
                ((worldAfter writes).tiles.get write.tileKey) write.tile write.now))
          ∪ identities W (newlyActivatedReachAnchors write.tileKey
              ((worldAfter writes).tiles.get write.tileKey) write.tile write.now)
      ↔ ReadsAlike ((worldAfter writes).tiles.get write.tileKey) write.tile := by
  obtain ⟨hstep, hdocked⟩ := worldAfter_inStep writes
  generalize hworld : worldAfter writes = world at hstep hdocked
  have hnext : InStep (world.write write) :=
    hstep.replaceTileState write.tileKey write.tile write.now
  have hwritten : (world.write write).tiles.get write.tileKey = some write.tile :=
    InsertionMap.get_set_self _ _ _
  have hothers : ∀ k, k ≠ write.tileKey → (world.write write).tiles.get k = world.tiles.get k :=
    fun k hk => InsertionMap.get_set_ne _ hk.symm _
  have hgathered := gathered_previous (hdocked write.tileKey)
  generalize hprevious : world.tiles.get write.tileKey = previous at hgathered hothers ⊢
  have hlater : ∀ kind owner,
      (⟨write.tileKey, owner, kind⟩ : AnchorIdentity W)
          ∈ identities W (gatherReachAnchors (world.write write) deps)
        ↔ activeAnchorOwner kind write.tile = some owner ∧ isBarbarianOwner owner = false
          ∧ ¬ Misread kind write.tile := by
    intro kind owner
    rw [mem_gather_iff hnext]
    dsimp only
    rw [hwritten, Option.bind_some, gathered_eq write.docked]
  have hearlier : ∀ kind owner,
      (⟨write.tileKey, owner, kind⟩ : AnchorIdentity W)
          ∈ identities W (gatherReachAnchors world deps)
        ↔ previous.bind (activeAnchorOwner kind) = some owner ∧ isBarbarianOwner owner = false
          ∧ ¬ ∃ was, previous = some was ∧ Misread kind was := by
    intro kind owner
    rw [mem_gather_iff hstep]
    dsimp only
    rw [hprevious, hgathered]
  -- Only the written tile's identities are at stake.
  have hwhere : ∀ kind, _ := fun kind =>
    @difference_iff (previous.bind (activeAnchorOwner kind)) (activeAnchorOwner kind write.tile)
      (fun owner => isBarbarianOwner owner = false)
      (∃ was, previous = some was ∧ Misread kind was) (Misread kind write.tile)
      (by
        rintro ⟨was, rfl, hmis⟩
        exact hmis.reported)
      (·.reported)
  constructor
  · intro hset kind
    refine (hwhere kind).mp fun owner => ?_
    have hid := Set.ext_iff.mp hset ⟨write.tileKey, owner, kind⟩
    rw [Set.mem_union, Set.mem_sdiff, hlater, hearlier, mem_newlyDeactivated,
      mem_newlyActivated] at hid
    simpa using hid
  · intro halike
    ext id
    obtain ⟨key, owner, kind⟩ := id
    by_cases hkey : key = write.tileKey
    · subst hkey
      have hid := (hwhere kind).mpr (halike kind) owner
      rw [Set.mem_union, Set.mem_sdiff, hlater, hearlier, mem_newlyDeactivated, mem_newlyActivated]
      simpa using hid
    · rw [Set.mem_union, Set.mem_sdiff, mem_newlyDeactivated, mem_newlyActivated,
        mem_gather_iff hnext, mem_gather_iff hstep]
      dsimp only
      rw [hothers key hkey]
      simp [hkey]

/-- Ground cut off from player one, whose AFC record stayed behind. -/
def cutOffAfc : AnchorTile where
  ownerId := none
  ownershipState := none
  hasTown := false
  hasDockId := false
  afc := some ⟨playerOne, .active, none⟩
  economicStructure := none

/-- Player two's auto-fill settles it and leaves the AFC as it is. -/
def filledAfc : AnchorTile :=
  { cutOffAfc with ownerId := some playerTwo, ownershipState := some .SETTLED }

/-- The auto-fill is reported as a town of player two that no gather finds. -/
theorem gather_not_report :
    let deps : GatherDeps smallestWorld := ⟨[], 20, fun _ => 0⟩
    let tileKey := wrappedTile smallestWorld 5 5
    let world := (AnchorWorld.empty : AnchorWorld smallestWorld).replaceTileState tileKey cutOffAfc 10
    identities smallestWorld
        (gatherReachAnchors (world.replaceTileState tileKey filledAfc 20) deps)
      ≠ (identities smallestWorld (gatherReachAnchors world deps)
          \ identities smallestWorld (newlyDeactivatedReachAnchors tileKey
              (world.tiles.get tileKey) filledAfc 20))
        ∪ identities smallestWorld (newlyActivatedReachAnchors tileKey
            (world.tiles.get tileKey) filledAfc 20) := by
  intro deps tileKey world hset
  have hreported : (⟨tileKey, playerTwo, .TOWN⟩ : AnchorIdentity smallestWorld)
      ∈ identities smallestWorld (newlyActivatedReachAnchors tileKey
          (world.tiles.get tileKey) filledAfc 20) := by
    rw [mem_newlyActivated]
    decide
  have hgathered : gatherReachAnchors (world.replaceTileState tileKey filledAfc 20) deps = [] := by
    decide
  have hfound := hset.ge (Or.inr hreported)
  rw [hgathered] at hfound
  obtain ⟨anchor, hmem, _⟩ := hfound
  exact absurd hmem (List.not_mem_nil)

end BorderEmpires
