/-
  BorderEmpires.EncirclementRuns
  **NO FRONTIER IS LEFT BEHIND OVER A WHOLE RUN.**

  After a change of territory the runtime releases the frontier it cut off,
  then looks over the sea lanes of the docks that were lost for landings
  stranded behind them.  The supply links it walks are the bridges of the
  player and the sea lanes of the docks.
-/
import BorderEmpires.Docks.LandingIndex
import BorderEmpires.Lib.Run
import BorderEmpires.StrandedFrontier

namespace BorderEmpires.Encirclement

open DockLanding March StrandedFrontier

variable {W : WorldSize}

/-! ## §1. Supply links. -/

def dockTileKey (key : TileKey W) : DockTileKey := .tile (key.x.val, key.y.val)

/-- The tile a key of the dock index names, if it is one of the world. -/
def tileOfDockKey : DockTileKey → Option (TileKey W)
  | .tile c => (some (wrappedTile W c.1 c.2)).filter fun key => decide (dockTileKey key = .tile c)
  | .unreadable _ => none

theorem tileOfDockKey_eq_some {dockKey : DockTileKey} {key : TileKey W} :
    tileOfDockKey dockKey = some key ↔ dockKey = dockTileKey key := by
  constructor
  · intro h
    cases dockKey with
    | unreadable text => cases h
    | tile c =>
        unfold tileOfDockKey at h
        obtain ⟨hkey, hread⟩ := Option.filter_eq_some_iff.mp h
        exact (of_decide_eq_true hread).symm
  · intro h
    subst h
    unfold dockTileKey tileOfDockKey
    simp [wrappedTile_self, dockTileKey]

/-- The bridges of a player and the sea lanes built from the dock links. -/
structure SupplyLinks (W : WorldSize) where
  activeAetherBridges : List (ActiveAetherBridge W)
  options : DockLandingOptions
  terrainAt : LandingTerrainAt
  dockLinksByDockTileKey : KeyLists

namespace SupplyLinks

/-- `seaLaneNeighborKeysByTileKey.get(tileKey) ?? []`. -/
def seaLaneNeighborKeys (links : SupplyLinks W) (tileKey : TileKey W) : List (TileKey W) :=
  (listed (buildDockLandingIndex links.options links.terrainAt
    links.dockLinksByDockTileKey).seaLaneNeighborKeysByTileKey (dockTileKey tileKey)).filterMap
      tileOfDockKey

def supplyLinkNeighborKeysForPlayer (links : SupplyLinks W) (tileKey : TileKey W) :
    List (TileKey W) :=
  bridgeNeighborKeys links.activeAetherBridges tileKey ++ links.seaLaneNeighborKeys tileKey

theorem mem_seaLaneNeighborKeys (links : SupplyLinks W) (a b : TileKey W) :
    b ∈ links.seaLaneNeighborKeys a ↔ a ∈ links.seaLaneNeighborKeys b := by
  have hlisted := fun key t => (buildDockLandingIndex_listed links.options links.terrainAt
    links.dockLinksByDockTileKey key t).2
  have hmem : ∀ c d : TileKey W, d ∈ links.seaLaneNeighborKeys c
      ↔ dockTileKey d ∈ listed (buildDockLandingIndex links.options links.terrainAt
          links.dockLinksByDockTileKey).seaLaneNeighborKeysByTileKey (dockTileKey c) := by
    intro c d
    unfold seaLaneNeighborKeys
    simp only [List.mem_filterMap, tileOfDockKey_eq_some, exists_eq_right]
  rw [hmem, hmem, hlisted, hlisted, or_comm]

/-- **The links the runtime walks go both ways.** -/
theorem supplyLinks_symm (links : SupplyLinks W) (a b : TileKey W)
    (h : b ∈ links.supplyLinkNeighborKeysForPlayer a) :
    a ∈ links.supplyLinkNeighborKeysForPlayer b := by
  unfold supplyLinkNeighborKeysForPlayer at h ⊢
  rcases List.mem_append.mp h with h | h
  · apply List.mem_append_left
    unfold bridgeNeighborKeys at h ⊢
    obtain ⟨bridge, hbridge, h⟩ := List.mem_flatMap.mp h
    refine List.mem_flatMap.mpr ⟨bridge, hbridge, ?_⟩
    simp only [List.mem_append, List.mem_ite_nil_right, List.mem_singleton] at h ⊢
    tauto
  · exact List.mem_append_right _ ((links.mem_seaLaneNeighborKeys a b).mp h)

end SupplyLinks

/-! ## §2. One application. -/

abbrev Territory (W : WorldSize) := TileKey W → Option EncirclementTileView

section Application

variable (playerId : PlayerId) (links : SupplyLinks W)

def SEA_LANE_STRAND_MAX_VISITED : ℕ := 2000

/-- The landings of the player across the lanes of the changed tiles that
are not the player's. -/
def strandedSeeds (getTile : Territory W) (changedKeys : List (TileKey W)) : List (TileKey W) :=
  (changedKeys.filter fun key =>
    decide ((getTile key).bind (·.ownerId) ≠ some playerId)).flatMap fun key =>
      (links.seaLaneNeighborKeys key).filter fun landing =>
        isOwnFrontier playerId getTile landing && !hasDockAt getTile landing

def releaseStrandedSeaLaneLandings (changedKeys : List (TileKey W)) (getTile : Territory W) :
    Territory W :=
  clearCutOffFrontierTiles getTile
    (findStrandedFrontier playerId getTile links.supplyLinkNeighborKeysForPlayer
      SEA_LANE_STRAND_MAX_VISITED (strandedSeeds playerId links getTile changedKeys)).stranded

def clearStamps (getTile : Territory W) (keys : List (TileKey W)) : Territory W :=
  fun key => (getTile key).map fun tile =>
    if key ∈ keys ∧ isStamped tile = true then
      { tile with
        frontierDecayAt := none
        frontierDecayKind := none }
    else tile

/-- What `applyEncirclement` leaves of the tiles. -/
def applyEncirclement (changedKeys : List (TileKey W)) (bfsCap : Option Nat) (skipCutOff : Bool)
    (getTile : Territory W) : Territory W :=
  let deltas := computeEncirclementDeltas playerId getTile links.supplyLinkNeighborKeysForPlayer
    changedKeys bfsCap skipCutOff
  let cleared := clearCutOffFrontierTiles getTile deltas.cutOff
  let released :=
    if skipCutOff then cleared
    else releaseStrandedSeaLaneLandings playerId links changedKeys cleared
  clearStamps released deltas.reconnected

/-! ## §3. What a change leaves. -/

def Connected (getTile : Territory W) (key : TileKey W) : Prop :=
  isFrontierConnected playerId getTile links.supplyLinkNeighborKeysForPlayer key = true

/-- Every frontier tile of the player without a stamp is connected. -/
def FrontierSupplied (getTile : Territory W) : Prop :=
  ∀ key, isOwnFrontier playerId getTile key = true → isStampedAt getTile key = false →
    Connected playerId links getTile key

def ownTiles (getTile : Territory W) : Territory W :=
  fun key => (getTile key).filter fun tile => decide (tile.ownerId = some playerId)

structure TerritoryChange (W : WorldSize) where
  changedKeys : List (TileKey W)
  next : Territory W
  bfsCap : Option Nat

def territoryStep (_ : Territory W) (change : TerritoryChange W) : Territory W :=
  applyEncirclement playerId links change.changedKeys change.bfsCap false change.next

/-- The change names the player's tiles that differ; others may change
unnamed.  The sweep meets no cap. -/
def NamesChanges (getTile : Territory W) (change : TerritoryChange W) : Prop :=
  (∀ key, key ∉ change.changedKeys →
      ownTiles playerId getTile key = ownTiles playerId change.next key)
    ∧ (computeEncirclementDeltas playerId change.next links.supplyLinkNeighborKeysForPlayer
        change.changedKeys change.bfsCap false).capped = false

variable {playerId links} {getTile next : Territory W}

theorem connected_iff {key : TileKey W} :
    Connected playerId links getTile key ↔ isOwnFrontier playerId getTile key = true
      ∧ Supplied playerId getTile links.supplyLinkNeighborKeysForPlayer key :=
  isFrontierConnected_iff key

theorem connected_congr
    (hfrontier : isOwnFrontier playerId getTile = isOwnFrontier playerId next)
    (hterminal : isOwnTerminal playerId getTile = isOwnTerminal playerId next)
    (key : TileKey W) : Connected playerId links getTile key ↔ Connected playerId links next key := by
  rw [connected_iff, connected_iff, hfrontier]
  refine and_congr_right fun hkey => ?_
  unfold Supplied Linked
  rw [hfrontier]
  refine exists_congr fun w => and_congr_right fun hw => ?_
  have hown : isOwnFrontier playerId next w = true := hw.accepted hkey
  unfold SupplyAt
  rw [← isOwnTerminal_of_frontier hown, ← isOwnTerminal_of_frontier (hfrontier ▸ hown), hterminal]

theorem isOwnFrontier_ownTiles (getTile : Territory W) :
    isOwnFrontier playerId (ownTiles playerId getTile) = isOwnFrontier playerId getTile := by
  funext key
  rw [Bool.eq_iff_iff, isOwnFrontier_iff, isOwnFrontier_iff]
  unfold ownTiles
  simp only [Option.filter_eq_some_iff, decide_eq_true_eq]
  tauto

theorem isOwnTerminal_ownTiles (getTile : Territory W) :
    isOwnTerminal playerId (ownTiles playerId getTile) = isOwnTerminal playerId getTile := by
  funext key
  rw [Bool.eq_iff_iff, isOwnTerminal_iff, isOwnTerminal_iff]
  unfold ownTiles
  simp only [Option.filter_eq_some_iff, decide_eq_true_eq]
  tauto

theorem connected_ownTiles (getTile : Territory W) (key : TileKey W) :
    Connected playerId links (ownTiles playerId getTile) key
      ↔ Connected playerId links getTile key :=
  connected_congr (isOwnFrontier_ownTiles getTile) (isOwnTerminal_ownTiles getTile) key

theorem connected_clear {keys : List (TileKey W)}
    (hkeys : ∀ key ∈ keys, ¬ Connected playerId links getTile key) {key : TileKey W}
    (h : Connected playerId links getTile key) :
    Connected playerId links (clearCutOffFrontierTiles getTile keys) key := by
  obtain ⟨hown, hsupplied⟩ := connected_iff.mp h
  have hkeep : key ∉ keys := fun hin => hkeys key hin h
  refine connected_iff.mpr ⟨?_, supplied_clear links.supplyLinks_symm
    (fun k hk => Bool.eq_false_of_not_eq_true (hkeys k hk)) hown hsupplied⟩
  unfold isOwnFrontier at hown ⊢
  rw [clearCutOffFrontierTiles_of_notMem hkeep]
  exact hown

theorem stamp_of_clear {keys : List (TileKey W)} {key : TileKey W} (hkeep : key ∉ keys)
    (hstamp : isStampedAt (clearCutOffFrontierTiles getTile keys) key = false) :
    isStampedAt getTile key = false := by
  unfold isStampedAt at hstamp ⊢
  rw [clearCutOffFrontierTiles_of_notMem hkeep] at hstamp
  exact hstamp

theorem FrontierSupplied.release (h : FrontierSupplied playerId links getTile)
    {keys : List (TileKey W)} (hkeys : ∀ key ∈ keys, ¬ Connected playerId links getTile key) :
    FrontierSupplied playerId links (clearCutOffFrontierTiles getTile keys) := by
  intro key hown hstamp
  obtain ⟨hkeep, hkey⟩ := isOwnFrontier_clear hown
  exact connected_clear hkeys (h key hkey (stamp_of_clear hkeep hstamp))

theorem FrontierSupplied.far (h : FrontierSupplied playerId links getTile)
    {changedKeys : List (TileKey W)} (hframe : ∀ key, key ∉ changedKeys →
      ownTiles playerId getTile key = ownTiles playerId next key) {key : TileKey W}
    (hown : isOwnFrontier playerId next key = true) (hstamp : isStampedAt next key = false)
    (ht : ¬ Touched playerId next links.supplyLinkNeighborKeysForPlayer changedKeys key) :
    Connected playerId links next key := by
  have hfrontier : isOwnFrontier playerId (ownTiles playerId next) = isOwnFrontier playerId next :=
    isOwnFrontier_ownTiles next
  have htouched : ¬ Touched playerId (ownTiles playerId next)
      links.supplyLinkNeighborKeysForPlayer changedKeys key := by
    unfold Touched Linked at ht ⊢
    rw [hfrontier]
    exact ht
  have hown' : isOwnFrontier playerId (ownTiles playerId next) key = true := by
    rw [hfrontier]
    exact hown
  have hsame := hframe key (unchanged_of_untouched links.supplyLinks_symm hown' htouched .root).1
  -- the tile itself is the player's, so it is the same tile
  obtain ⟨tile, htile, howner, hstate⟩ := isOwnFrontier_iff.mp hown'
  have hbefore : getTile key = some tile := (Option.filter_eq_some_iff.mp (hsame.trans htile)).1
  have hconn := h key (isOwnFrontier_iff.mpr ⟨tile, hbefore, howner, hstate⟩) (by
    unfold isStampedAt at hstamp ⊢
    rw [hbefore]
    rw [(Option.filter_eq_some_iff.mp htile).1] at hstamp
    exact hstamp)
  rw [← connected_ownTiles, connected_iff] at hconn ⊢
  exact ⟨hown', supplied_of_untouched links.supplyLinks_symm hframe hown' htouched hconn.2⟩

theorem FrontierSupplied.unstamp (h : FrontierSupplied playerId links getTile)
    {keys : List (TileKey W)} (hkeys : ∀ key ∈ keys, Connected playerId links getTile key) :
    FrontierSupplied playerId links (clearStamps getTile keys) := by
  have hfrontier : isOwnFrontier playerId (clearStamps getTile keys)
      = isOwnFrontier playerId getTile := by
    funext key
    unfold isOwnFrontier clearStamps
    cases getTile key with
    | none => rfl
    | some tile => dsimp only [Option.map_some]; split <;> rfl
  have hterminal : isOwnTerminal playerId (clearStamps getTile keys)
      = isOwnTerminal playerId getTile := by
    funext key
    unfold isOwnTerminal clearStamps
    cases getTile key with
    | none => rfl
    | some tile => dsimp only [Option.map_some]; split <;> rfl
  intro key hown hstamp
  rw [connected_congr hfrontier hterminal]
  by_cases hkey : key ∈ keys
  · exact hkeys key hkey
  · refine h key (by rw [← hfrontier]; exact hown) ?_
    unfold isStampedAt clearStamps at hstamp
    unfold isStampedAt
    cases hget : getTile key with
    | none => rfl
    | some tile =>
        rw [hget] at hstamp
        simpa [hkey] using hstamp

theorem FrontierSupplied.step (h : FrontierSupplied playerId links getTile)
    (change : TerritoryChange W) (hnamed : NamesChanges playerId links getTile change) :
    FrontierSupplied playerId links (territoryStep playerId links getTile change) := by
  obtain ⟨hframe, hcap⟩ := hnamed
  have hcut := mem_cutOff_iff links.supplyLinks_symm change.changedKeys change.bfsCap hcap
  have hoff := fun key hkey => Bool.not_eq_true _ ▸ ((hcut key).mp hkey).2
  have hcleared : FrontierSupplied playerId links (clearCutOffFrontierTiles change.next
      (computeEncirclementDeltas playerId change.next links.supplyLinkNeighborKeysForPlayer
        change.changedKeys change.bfsCap false).cutOff) := by
    intro key hown hstamp
    obtain ⟨hkeep, hkey⟩ := isOwnFrontier_clear hown
    apply connected_clear hoff
    by_cases ht : Touched playerId change.next links.supplyLinkNeighborKeysForPlayer
        change.changedKeys key
    · by_contra hc
      exact hkeep ((hcut key).mpr ⟨ht, Bool.eq_false_of_not_eq_true hc⟩)
    · exact h.far hframe hkey (stamp_of_clear hkeep hstamp) ht
  -- what the finder returns is disconnected, capped or not
  have hstranded : ∀ getTile seeds, ∀ key ∈ (findStrandedFrontier playerId getTile
        links.supplyLinkNeighborKeysForPlayer SEA_LANE_STRAND_MAX_VISITED seeds).stranded,
      ¬ Connected playerId links getTile key := by
    intro getTile seeds key hkey hc
    exact (strandedInv_find playerId getTile links.supplyLinks_symm SEA_LANE_STRAND_MAX_VISITED
      seeds).disconnected key hkey (connected_iff.mp hc).2
  refine (hcleared.release (hstranded _ _)).unstamp fun key hkey => ?_
  apply connected_clear (hstranded _ _)
  apply connected_clear hoff
  exact (mem_reconnected links.supplyLinks_symm _ _ false hcap hkey).2

end Application

/-! ## §4. Runs. -/

/-- **No frontier is left behind**: over every run of changes that name what
differs of the player's tiles, each followed by an uncapped application, the
player's frontier stays connected, stamped tiles apart.  The run starts so,
and the links stay as they are: a bridge that expires is followed by no
application. -/
theorem frontier_supplied_along (playerId : PlayerId) (links : SupplyLinks W)
    (start : Territory W) (changes : List (TerritoryChange W))
    (hstart : FrontierSupplied playerId links start)
    (hnamed : Run.StepsMeet (territoryStep playerId links) (NamesChanges playerId links) start
      changes) :
    Run.Along (territoryStep playerId links) (FrontierSupplied playerId links) start changes :=
  Run.along_of_stepsMeet (fun _ change h hc => h.step change hc) changes start hstart hnamed

/-- One bridge, from the outpost's frontier tile over the water. -/
def strait : SupplyLinks smallestWorld :=
  ⟨[⟨wrappedTile smallestWorld 10 10, wrappedTile smallestWorld 30 10⟩], ⟨100, 100, 1⟩,
    fun _ _ => none, .empty⟩

/-- The outpost with a landing across the bridge, stamped or not. -/
def overseas (townHeld : Bool) (stamp : Option FrontierDecayKind) : Territory smallestWorld :=
  fun key =>
    if key = wrappedTile smallestWorld 30 10 then
      some ⟨⟨some playerOne, some .FRONTIER⟩, stamp.map fun _ => 50, stamp, none⟩
    else outpost townHeld key

def overseasKeys : List (TileKey smallestWorld) :=
  [wrappedTile smallestWorld 10 10, wrappedTile smallestWorld 11 10, wrappedTile smallestWorld 30 10]

/-- The outpost is founded within reach of a stamped landing, then its town
falls. -/
def overseasChanges : List (TerritoryChange smallestWorld) :=
  [⟨overseasKeys, overseas true (some .ENCIRCLEMENT), some 0⟩,
    ⟨overseasKeys, overseas false none, some 0⟩]

theorem territoryStep_empty {getTile : Territory W} {change : TerritoryChange W}
    {playerId : PlayerId} {links : SupplyLinks W} {key : TileKey W} (h : change.next key = none) :
    territoryStep playerId links getTile change key = none := by
  simp [territoryStep, applyEncirclement, clearStamps, releaseStrandedSeaLaneLandings,
    clearCutOffFrontierTiles, h]

theorem overseas_elsewhere {key : TileKey smallestWorld} (hkey : key ∉ overseasKeys)
    (townHeld : Bool) (stamp : Option FrontierDecayKind) : overseas townHeld stamp key = none := by
  simp only [overseasKeys, List.mem_cons, List.not_mem_nil, or_false, not_or] at hkey
  simp [overseas, outpost, hkey]

/-- The stamp is lifted over the bridge, and both tiles fall with the town. -/
theorem frontier_supplied_along_overseas :
    Run.Along (territoryStep playerOne strait) (FrontierSupplied playerOne strait) (fun _ => none)
        overseasChanges
      ∧ isStampedAt ((overseasChanges.take 1).foldl (territoryStep playerOne strait) fun _ => none)
          (wrappedTile smallestWorld 30 10) = false
      ∧ ∀ key ∈ overseasKeys, isOwnFrontier playerOne
          (overseasChanges.foldl (territoryStep playerOne strait) fun _ => none) key = false := by
  refine ⟨frontier_supplied_along playerOne strait _ _ ?_ ⟨⟨?_, ?_⟩, ⟨?_, ?_⟩, trivial⟩,
    by decide +kernel, ?_⟩
  · intro key hown
    cases hown
  · intro key hkey
    show ownTiles playerOne (fun _ => none) key = ownTiles playerOne (overseas _ _) key
    unfold ownTiles
    rw [overseas_elsewhere hkey]
  · exact computeEncirclementDeltas_uncapped _ _
  · intro key hkey
    show ownTiles playerOne _ key = ownTiles playerOne (overseas _ _) key
    unfold ownTiles
    rw [overseas_elsewhere hkey, territoryStep_empty (overseas_elsewhere hkey _ _)]
  · exact computeEncirclementDeltas_uncapped _ _
  · intro key hkey
    simp only [overseasKeys, List.mem_cons, List.not_mem_nil, or_false] at hkey
    rcases hkey with rfl | rfl | rfl <;> decide +kernel

end BorderEmpires.Encirclement
