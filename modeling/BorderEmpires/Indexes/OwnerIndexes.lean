/-
  BorderEmpires.Indexes.OwnerIndexes
  **THE PER-OWNER TILE INDEXES, REFRESHED BY DIFFERENCE.**

  `refreshRuntimeTileIndexesForChange` compares a tile before and after one
  write and moves its key in thirteen indexes, each by a rule of its own
  and under its own notion of the owner.
-/
import BorderEmpires.Indexes.Tiles
import BorderEmpires.Lib.Tally

namespace BorderEmpires.Indexes

open Structures (StructureType)
open OwnerIndex
open Tally (Collects collect)

variable {W : WorldSize}

/-! ## §1. The indexes and their rules. -/

abbrev TilesByOwner (W : WorldSize) := InsertionMap PlayerId (List (TileKey W))

def frontierOwner (tile : IndexTile) : Option PlayerId :=
  if tile.isFrontier then tile.ownerId.filter fun ownerId => !ownerId.isBarbarian else none

def refreshFrontierIndexForTile (frontierTilesByOwner : TilesByOwner W) (tileKey : TileKey W)
    (previous : Option IndexTile) (next : IndexTile) : TilesByOwner W :=
  let removed := match previous.bind frontierOwner with
    | some prevOwner =>
        if some prevOwner ≠ next.ownerId then leave frontierTilesByOwner prevOwner tileKey
        else frontierTilesByOwner
    | none => frontierTilesByOwner
  match frontierOwner next with
  | some nextOwner => enter removed nextOwner tileKey
  | none =>
      match previous.bind frontierOwner with
      | some prevOwner =>
          if some prevOwner = next.ownerId then leave removed prevOwner tileKey else removed
      | none => removed

abbrev AnchorsByOwner (W : WorldSize) := InsertionMap PlayerId (InsertionMap (TileKey W) ℕ)

/-- `index.get(ownerId)`, the empty map if there is none. -/
def anchorsOf (index : AnchorsByOwner W) (ownerId : PlayerId) : InsertionMap (TileKey W) ℕ :=
  (index.get ownerId).getD .empty

def registerFortSupportAnchor (index : AnchorsByOwner W) (tileKey : TileKey W)
    (ownerId : PlayerId) (maxRadius : ℕ) : AnchorsByOwner W :=
  index.set ownerId ((anchorsOf index ownerId).set tileKey maxRadius)

/-- `index.get(ownerId)?.delete(tileKey)`. -/
def unregisterFortSupportAnchor (index : AnchorsByOwner W) (tileKey : TileKey W)
    (ownerId : PlayerId) : AnchorsByOwner W :=
  match index.get ownerId with
  | none => index
  | some anchors => index.set ownerId (anchors.erase tileKey)

/-- `ownerId ? fortSupportAnchorMaxRadius(tile, ownerId) : 0`. -/
def anchorRadius (tile : IndexTile) : ℕ := tile.ownerId.elim 0 (fortSupportAnchorMaxRadius tile)

/-- `if (prevMaxRadius > 0 && prevOwnerId)`: the anchor that was. -/
def withoutAnchor (index : AnchorsByOwner W) (tileKey : TileKey W) (was : IndexTile) :
    AnchorsByOwner W :=
  match was.ownerId with
  | some prevOwner =>
      if 0 < anchorRadius was then unregisterFortSupportAnchor index tileKey prevOwner else index
  | none => index

/-- `if (nextMaxRadius > 0 && nextOwnerId)`: the anchor that comes. -/
def withAnchor (index : AnchorsByOwner W) (tileKey : TileKey W) (next : IndexTile) :
    AnchorsByOwner W :=
  match next.ownerId with
  | some nextOwner =>
      if 0 < anchorRadius next then
        registerFortSupportAnchor index tileKey nextOwner (anchorRadius next)
      else index
  | none => index

def refreshFortAnchorIndexForTile (activeFortAnchorsByOwner : AnchorsByOwner W)
    (tileKey : TileKey W) (previous : Option IndexTile) (next : IndexTile) : AnchorsByOwner W :=
  if previous.elim 0 anchorRadius ≤ 0 ∧ anchorRadius next ≤ 0 then activeFortAnchorsByOwner
  else
    withAnchor
      (previous.elim activeFortAnchorsByOwner (withoutAnchor activeFortAnchorsByOwner tileKey))
      tileKey next

def yieldOwner (tile : IndexTile) : Option PlayerId :=
  tile.ownerId.filter fun _ => isYieldBearingTile tile

def refreshYieldBearingIndexForTile (yieldBearingTilesByOwner : TilesByOwner W)
    (tileKey : TileKey W) (previous : Option IndexTile) (next : IndexTile) : TilesByOwner W :=
  reindex yieldBearingTilesByOwner tileKey (previous.bind yieldOwner) (yieldOwner next)

/-- The owner under whom an index of active structures lists a tile: the
tile's own, if the structure is theirs too. -/
def activeOwner (isActive : IndexTile → PlayerId → Bool) (tile : IndexTile) : Option PlayerId :=
  tile.ownerId.filter (isActive tile)

def refreshActiveStructureIndexForTile (isActive : IndexTile → PlayerId → Bool)
    (index : TilesByOwner W) (tileKey : TileKey W) (previous : Option IndexTile)
    (next : IndexTile) : TilesByOwner W :=
  let prevActive := (previous.bind (activeOwner isActive)).isSome
  let nextActive := (activeOwner isActive next).isSome
  if !prevActive && !nextActive then index
  else if prevActive && nextActive && decide (previous.bind IndexTile.ownerId = next.ownerId) then
    index
  else reindex index tileKey (previous.bind (activeOwner isActive)) (activeOwner isActive next)

/-- The same rule again, with the type as a parameter. -/
def refreshEconomicStructureTypeIndexForTile (structureType : StructureType) :
    TilesByOwner W → TileKey W → Option IndexTile → IndexTile → TilesByOwner W :=
  refreshActiveStructureIndexForTile (isEconomicStructureTypeActive structureType)

def refreshMusterIndexForTile (musterTilesByOwner : TilesByOwner W) (tileKey : TileKey W)
    (previous : Option IndexTile) (next : IndexTile) : TilesByOwner W :=
  if previous.bind IndexTile.musterOwnerId = next.musterOwnerId then musterTilesByOwner
  else reindex musterTilesByOwner tileKey (previous.bind IndexTile.musterOwnerId)
    next.musterOwnerId

structure RuntimeOwnerTileIndexes (W : WorldSize) where
  frontierTilesByOwner : TilesByOwner W
  activeFortAnchorsByOwner : AnchorsByOwner W
  yieldBearingTilesByOwner : TilesByOwner W
  activeSiegeBatteriesByOwner : TilesByOwner W
  activeRelayBeaconsByOwner : TilesByOwner W
  activeObservatoriesByOwner : TilesByOwner W
  musterTilesByOwner : TilesByOwner W
  neuralWorksTilesByOwner : TilesByOwner W
  ancillaryDepotTilesByOwner : TilesByOwner W
  reserveLatticeTilesByOwner : TilesByOwner W
  ancillaryFactoryTilesByOwner : TilesByOwner W
  incubationEngineTilesByOwner : TilesByOwner W
  censusHallTilesByOwner : TilesByOwner W

def RuntimeOwnerTileIndexes.empty : RuntimeOwnerTileIndexes W :=
  ⟨.empty, .empty, .empty, .empty, .empty, .empty, .empty, .empty, .empty, .empty, .empty, .empty,
    .empty⟩

def refreshRuntimeTileIndexesForChange (indexes : RuntimeOwnerTileIndexes W) (tileKey : TileKey W)
    (previous : Option IndexTile) (next : IndexTile) : RuntimeOwnerTileIndexes W where
  frontierTilesByOwner :=
    refreshFrontierIndexForTile indexes.frontierTilesByOwner tileKey previous next
  activeFortAnchorsByOwner :=
    refreshFortAnchorIndexForTile indexes.activeFortAnchorsByOwner tileKey previous next
  yieldBearingTilesByOwner :=
    refreshYieldBearingIndexForTile indexes.yieldBearingTilesByOwner tileKey previous next
  activeSiegeBatteriesByOwner :=
    refreshActiveStructureIndexForTile isSiegeBatteryActive indexes.activeSiegeBatteriesByOwner
      tileKey previous next
  activeRelayBeaconsByOwner :=
    refreshActiveStructureIndexForTile isRelayBeaconActive indexes.activeRelayBeaconsByOwner
      tileKey previous next
  activeObservatoriesByOwner :=
    refreshActiveStructureIndexForTile isObservatoryActive indexes.activeObservatoriesByOwner
      tileKey previous next
  musterTilesByOwner := refreshMusterIndexForTile indexes.musterTilesByOwner tileKey previous next
  neuralWorksTilesByOwner :=
    refreshActiveStructureIndexForTile isNeuralWorksActive indexes.neuralWorksTilesByOwner
      tileKey previous next
  ancillaryDepotTilesByOwner :=
    refreshActiveStructureIndexForTile isAncillaryDepotActive indexes.ancillaryDepotTilesByOwner
      tileKey previous next
  reserveLatticeTilesByOwner :=
    refreshEconomicStructureTypeIndexForTile .RESERVE_LATTICE indexes.reserveLatticeTilesByOwner
      tileKey previous next
  ancillaryFactoryTilesByOwner :=
    refreshEconomicStructureTypeIndexForTile .ANCILLARY_FACTORY
      indexes.ancillaryFactoryTilesByOwner tileKey previous next
  incubationEngineTilesByOwner :=
    refreshEconomicStructureTypeIndexForTile .INCUBATION_ENGINE
      indexes.incubationEngineTilesByOwner tileKey previous next
  censusHallTilesByOwner :=
    refreshEconomicStructureTypeIndexForTile .CENSUS_HALL indexes.censusHallTilesByOwner
      tileKey previous next

/-! ## §2. Counted anew. -/

abbrev TileMap (W : WorldSize) := InsertionMap (TileKey W) IndexTile

def tilesOf (belongs : IndexTile → Option PlayerId) (tiles : TileMap W) (ownerId : PlayerId) :
    List (TileKey W) :=
  Tally.keysWhere (fun tile => decide (belongs tile = some ownerId)) tiles

/-- The radius at which the tile anchors the owner's support, if it does. -/
def anchorOf (ownerId : PlayerId) (tile : IndexTile) : Option ℕ :=
  (some (fortSupportAnchorMaxRadius tile ownerId)).filter fun radius => decide (0 < radius)

/-- An index lists, for every owner, the tiles that a count finds. -/
def ListsTiles (index : TilesByOwner W) (belongs : IndexTile → Option PlayerId)
    (tiles : TileMap W) : Prop :=
  ∀ ownerId tileKey, tileKey ∈ members index ownerId ↔ tileKey ∈ tilesOf belongs tiles ownerId

/-- **The indexes are what a count of the tiles finds.** -/
structure IndexesInStep (indexes : RuntimeOwnerTileIndexes W) (tiles : TileMap W) : Prop where
  frontier : ListsTiles indexes.frontierTilesByOwner frontierOwner tiles
  fortAnchors : ∀ ownerId,
    Collects (anchorsOf indexes.activeFortAnchorsByOwner ownerId) (anchorOf ownerId) tiles
  yieldBearing : ListsTiles indexes.yieldBearingTilesByOwner yieldOwner tiles
  siegeBatteries :
    ListsTiles indexes.activeSiegeBatteriesByOwner (activeOwner isSiegeBatteryActive) tiles
  relayBeacons :
    ListsTiles indexes.activeRelayBeaconsByOwner (activeOwner isRelayBeaconActive) tiles
  observatories :
    ListsTiles indexes.activeObservatoriesByOwner (activeOwner isObservatoryActive) tiles
  musters : ListsTiles indexes.musterTilesByOwner IndexTile.musterOwnerId tiles
  neuralWorks : ListsTiles indexes.neuralWorksTilesByOwner (activeOwner isNeuralWorksActive) tiles
  ancillaryDepots :
    ListsTiles indexes.ancillaryDepotTilesByOwner (activeOwner isAncillaryDepotActive) tiles
  reserveLattices :
    ListsTiles indexes.reserveLatticeTilesByOwner
      (activeOwner (isEconomicStructureTypeActive .RESERVE_LATTICE)) tiles
  ancillaryFactories :
    ListsTiles indexes.ancillaryFactoryTilesByOwner
      (activeOwner (isEconomicStructureTypeActive .ANCILLARY_FACTORY)) tiles
  incubationEngines :
    ListsTiles indexes.incubationEngineTilesByOwner
      (activeOwner (isEconomicStructureTypeActive .INCUBATION_ENGINE)) tiles
  censusHalls :
    ListsTiles indexes.censusHallTilesByOwner
      (activeOwner (isEconomicStructureTypeActive .CENSUS_HALL)) tiles

theorem indexesInStep_empty : IndexesInStep (W := W) .empty .empty := by
  have hlists : ∀ belongs, ListsTiles (W := W) .empty belongs .empty := by
    intro belongs ownerId tileKey
    simp [members, tilesOf, Tally.keysWhere, InsertionMap.empty, InsertionMap.get,
      AssocEntries.lookup]
  exact ⟨hlists _, fun ownerId tileKey => rfl, hlists _, hlists _, hlists _, hlists _, hlists _,
    hlists _, hlists _, hlists _, hlists _, hlists _, hlists _⟩

/-! ## §3. Each rule keeps its index in step. -/

theorem listsTiles_iff {index : TilesByOwner W} {belongs : IndexTile → Option PlayerId}
    {tiles : TileMap W} :
    ListsTiles index belongs tiles
      ↔ OwnerIndex.InStep belongs tiles.get (fun ownerId tileKey => tileKey ∈ members index ownerId) := by
  have hcount : ∀ ownerId tileKey, tileKey ∈ tilesOf belongs tiles ownerId
      ↔ (tiles.get tileKey).bind belongs = some ownerId := by
    intro ownerId tileKey
    unfold tilesOf
    rw [Tally.mem_keysWhere]
    cases tiles.get tileKey <;> simp
  unfold ListsTiles OwnerIndex.InStep
  constructor
  · intro h ownerId tileKey
    exact (h ownerId tileKey).trans (hcount ownerId tileKey)
  · intro h ownerId tileKey
    exact (h ownerId tileKey).trans (hcount ownerId tileKey).symm

section Rules

variable {tiles : TileMap W} {tileKey : TileKey W} (next : IndexTile)
variable {index : TilesByOwner W} {belongs : IndexTile → Option PlayerId}

theorem ListsTiles.of_moves {index' : TilesByOwner W} (h : ListsTiles index belongs tiles)
    (hmoves : Moves (fun ownerId key => key ∈ members index ownerId)
      (fun ownerId key => key ∈ members index' ownerId) tileKey
      ((tiles.get tileKey).bind belongs) (belongs next)) :
    ListsTiles index' belongs (tiles.set tileKey next) :=
  listsTiles_iff.mpr ((listsTiles_iff.mp h).of_moves hmoves (InsertionMap.get_set_self ..)
    (fun _ hne => InsertionMap.get_set_ne _ (Ne.symm hne) _))

theorem ListsTiles.of_reindex (h : ListsTiles index belongs tiles) :
    ListsTiles (reindex index tileKey ((tiles.get tileKey).bind belongs) (belongs next)) belongs
      (tiles.set tileKey next) :=
  h.of_moves next (reindex_moves _ _ _ _)

theorem ListsTiles.of_stays (h : ListsTiles index belongs tiles)
    (hstays : (tiles.get tileKey).bind belongs = belongs next) :
    ListsTiles index belongs (tiles.set tileKey next) :=
  listsTiles_iff.mpr ((listsTiles_iff.mp h).of_stays hstays (InsertionMap.get_set_self ..)
    (fun _ hne => InsertionMap.get_set_ne _ (Ne.symm hne) _))

theorem refreshYieldBearing_inStep (h : ListsTiles index yieldOwner tiles) :
    ListsTiles (refreshYieldBearingIndexForTile index tileKey (tiles.get tileKey) next)
      yieldOwner (tiles.set tileKey next) :=
  h.of_reindex next

theorem refreshMuster_inStep (h : ListsTiles index IndexTile.musterOwnerId tiles) :
    ListsTiles (refreshMusterIndexForTile index tileKey (tiles.get tileKey) next)
      IndexTile.musterOwnerId (tiles.set tileKey next) := by
  unfold refreshMusterIndexForTile
  by_cases hsame : (tiles.get tileKey).bind IndexTile.musterOwnerId = next.musterOwnerId
  · rw [if_pos hsame]
    exact h.of_stays next hsame
  · rw [if_neg hsame]
    exact h.of_reindex next

theorem activeOwner_eq_some {isActive : IndexTile → PlayerId → Bool} {tile : IndexTile}
    {ownerId : PlayerId} (h : activeOwner isActive tile = some ownerId) :
    tile.ownerId = some ownerId :=
  (Option.filter_eq_some_iff.mp h).1

theorem refreshActiveStructure_inStep {isActive : IndexTile → PlayerId → Bool}
    (h : ListsTiles index (activeOwner isActive) tiles) :
    ListsTiles (refreshActiveStructureIndexForTile isActive index tileKey (tiles.get tileKey) next)
      (activeOwner isActive) (tiles.set tileKey next) := by
  unfold refreshActiveStructureIndexForTile
  dsimp only
  split
  · -- active neither before nor after
    rename_i hneither
    refine h.of_stays next ?_
    simp only [Bool.and_eq_true, Bool.not_eq_true', Option.isSome_eq_false_iff,
      Option.isNone_iff_eq_none] at hneither
    rw [hneither.1, hneither.2]
  · split
    · -- active before and after, on a tile that kept its owner
      rename_i hboth
      simp only [Bool.and_eq_true, decide_eq_true_eq] at hboth
      obtain ⟨⟨hwas, his⟩, howner⟩ := hboth
      refine h.of_stays next ?_
      obtain ⟨prevOwner, hprev⟩ := Option.isSome_iff_exists.mp hwas
      obtain ⟨nextOwner, hnext⟩ := Option.isSome_iff_exists.mp his
      obtain ⟨tile, htile, hactive⟩ := Option.bind_eq_some_iff.mp hprev
      have hprevOwner : (tiles.get tileKey).bind IndexTile.ownerId = some prevOwner := by
        rw [htile]
        exact activeOwner_eq_some hactive
      rw [hprev, hnext, ← hprevOwner, howner, activeOwner_eq_some hnext]
    · exact h.of_reindex next

/-- The frontier rule leaves a key with an owner it is about to enter
again, and that is the only shortcut. -/
theorem refreshFrontier_moves (index : TilesByOwner W) (tileKey : TileKey W)
    (previous : Option IndexTile) (next : IndexTile) :
    Moves (fun ownerId key => key ∈ members index ownerId)
      (fun ownerId key =>
        key ∈ members (refreshFrontierIndexForTile index tileKey previous next) ownerId)
      tileKey (previous.bind frontierOwner) (frontierOwner next) := by
  have howner : ∀ ownerId, frontierOwner next = some ownerId → next.ownerId = some ownerId := by
    intro ownerId h
    unfold frontierOwner at h
    split at h
    · exact (Option.filter_eq_some_iff.mp h).1
    · cases h
  unfold refreshFrontierIndexForTile
  cases hprev : previous.bind frontierOwner with
  | none =>
      cases hnext : frontierOwner next with
      | none => constructor <;> simp
      | some q => constructor <;> simp +contextual [mem_enter, @eq_comm _ q]
  | some p =>
      cases hnext : frontierOwner next with
      | none =>
          by_cases hp : some p = next.ownerId
          · constructor <;> simp +contextual [← hp, mem_leave, @eq_comm _ p]
          · constructor <;> simp +contextual [hp, mem_leave, @eq_comm _ p]
      | some q =>
          have hq := howner q hnext
          by_cases hp : p = q
          · subst hp
            constructor <;> simp +contextual [hq, mem_enter, @eq_comm _ p]
            intro o hmem
            by_cases ho : o = p
            · exact Or.inr ho
            · exact Or.inl ⟨hmem.resolve_right ho, ho⟩
          · constructor <;> simp +contextual [hq, hp, mem_enter, mem_leave, @eq_comm _ p,
              @eq_comm _ q]

theorem refreshFrontier_inStep (h : ListsTiles index frontierOwner tiles) :
    ListsTiles (refreshFrontierIndexForTile index tileKey (tiles.get tileKey) next)
      frontierOwner (tiles.set tileKey next) :=
  h.of_moves next (refreshFrontier_moves index tileKey _ next)

end Rules

/-! ## §4. The anchors with their radius. -/

theorem anchorsOf_register (index : AnchorsByOwner W) (tileKey : TileKey W)
    (ownerId : PlayerId) (maxRadius : ℕ) (o : PlayerId) :
    anchorsOf (registerFortSupportAnchor index tileKey ownerId maxRadius) o
      = if ownerId = o then (anchorsOf index ownerId).set tileKey maxRadius
        else anchorsOf index o := by
  unfold registerFortSupportAnchor
  unfold anchorsOf
  rw [InsertionMap.get_set]
  split <;> rfl

theorem anchorsOf_unregister (index : AnchorsByOwner W) (tileKey : TileKey W)
    (ownerId o : PlayerId) :
    anchorsOf (unregisterFortSupportAnchor index tileKey ownerId) o
      = if ownerId = o then (anchorsOf index ownerId).erase tileKey else anchorsOf index o := by
  unfold unregisterFortSupportAnchor anchorsOf
  cases hget : index.get ownerId with
  | none =>
      by_cases ho : ownerId = o
      · subst ho
        rw [if_pos rfl, hget]
        exact (InsertionMap.erase_of_get_none (InsertionMap.get_empty tileKey)).symm
      · rw [if_neg ho]
  | some anchors =>
      dsimp only
      rw [InsertionMap.get_set]
      by_cases ho : ownerId = o
      · simp [ho]
      · simp [ho]

theorem anchorRadius_of_owner {tile : IndexTile} {ownerId : PlayerId}
    (h : tile.ownerId = some ownerId) :
    anchorRadius tile = fortSupportAnchorMaxRadius tile ownerId := by
  unfold anchorRadius
  rw [h]
  rfl

theorem anchorOf_of_ne {tile : IndexTile} {ownerId : PlayerId} (h : tile.ownerId ≠ some ownerId) :
    anchorOf ownerId tile = none := by
  simp [anchorOf, fortSupportAnchorMaxRadius, isSettledTownAnchor, h]

theorem anchorOf_of_owner {tile : IndexTile} {ownerId : PlayerId}
    (h : tile.ownerId = some ownerId) :
    anchorOf ownerId tile = if 0 < anchorRadius tile then some (anchorRadius tile) else none := by
  rw [anchorRadius_of_owner h]
  unfold anchorOf
  split <;> simp_all

theorem anchorOf_none_of_radius {tile : IndexTile} (h : anchorRadius tile ≤ 0)
    (ownerId : PlayerId) : anchorOf ownerId tile = none := by
  by_cases howner : tile.ownerId = some ownerId
  · rw [anchorOf_of_owner howner, if_neg (by omega)]
  · exact anchorOf_of_ne howner

section Anchors

variable {index : AnchorsByOwner W} {tiles : TileMap W} {tileKey : TileKey W}

theorem withoutAnchor_inStep {was : IndexTile} (hget : tiles.get tileKey = some was)
    (h : ∀ ownerId, Collects (anchorsOf index ownerId) (anchorOf ownerId) tiles)
    (ownerId : PlayerId) :
    Collects (anchorsOf (withoutAnchor index tileKey was) ownerId) (anchorOf ownerId)
      (tiles.erase tileKey) := by
  have hnone : anchorOf ownerId was = none →
      Collects (anchorsOf index ownerId) (anchorOf ownerId) (tiles.erase tileKey) := by
    intro hwas
    refine (h ownerId).unmissed (fun x hx => ?_)
    rw [hget] at hx
    exact Option.some.inj hx ▸ hwas
  unfold withoutAnchor
  cases howner : was.ownerId with
  | none => exact hnone (anchorOf_of_ne (by simp [howner]))
  | some prevOwner =>
      dsimp only
      by_cases hradius : 0 < anchorRadius was
      · rw [if_pos hradius, anchorsOf_unregister]
        by_cases ho : prevOwner = ownerId
        · subst ho
          rw [if_pos rfl]
          exact (h prevOwner).removed
        · rw [if_neg ho]
          exact hnone (anchorOf_of_ne (by simp [howner, ho]))
      · rw [if_neg hradius]
        exact hnone (anchorOf_none_of_radius (by omega) ownerId)

theorem withAnchor_inStep (next : IndexTile) {ownerId : PlayerId}
    (h : Collects (anchorsOf index ownerId) (anchorOf ownerId) (tiles.erase tileKey)) :
    Collects (anchorsOf (withAnchor index tileKey next) ownerId) (anchorOf ownerId)
      (tiles.set tileKey next) := by
  unfold withAnchor
  cases howner : next.ownerId with
  | none => exact h.passed (anchorOf_of_ne (by simp [howner]))
  | some nextOwner =>
      dsimp only
      by_cases hradius : 0 < anchorRadius next
      · rw [if_pos hradius, anchorsOf_register]
        by_cases ho : nextOwner = ownerId
        · subst ho
          rw [if_pos rfl]
          exact h.added (by rw [anchorOf_of_owner howner, if_pos hradius])
        · rw [if_neg ho]
          exact h.passed (anchorOf_of_ne (by simp [howner, ho]))
      · rw [if_neg hradius]
        exact h.passed (anchorOf_none_of_radius (by omega) ownerId)

theorem refreshFortAnchor_inStep (next : IndexTile)
    (h : ∀ ownerId, Collects (anchorsOf index ownerId) (anchorOf ownerId) tiles)
    (ownerId : PlayerId) :
    Collects
      (anchorsOf (refreshFortAnchorIndexForTile index tileKey (tiles.get tileKey) next) ownerId)
      (anchorOf ownerId) (tiles.set tileKey next) := by
  unfold refreshFortAnchorIndexForTile
  split
  · -- no anchor before or after
    rename_i hneither
    refine Tally.Collects.passed ?_ (anchorOf_none_of_radius hneither.2 ownerId)
    refine (h ownerId).unmissed (fun x hx => ?_)
    rw [hx] at hneither
    exact anchorOf_none_of_radius hneither.1 ownerId
  · refine withAnchor_inStep next ?_
    cases hget : tiles.get tileKey with
    | none => exact (h ownerId).unmissed (fun x hx => by rw [hget] at hx; cases hx)
    | some was => exact withoutAnchor_inStep hget h ownerId

end Anchors

/-! ## §5. All of them. -/

/-- **One write, refreshed, keeps every index in step.** -/
theorem IndexesInStep.refreshed {indexes : RuntimeOwnerTileIndexes W} {tiles : TileMap W}
    (h : IndexesInStep indexes tiles) (tileKey : TileKey W) (next : IndexTile) :
    IndexesInStep
      (refreshRuntimeTileIndexesForChange indexes tileKey (tiles.get tileKey) next)
      (tiles.set tileKey next) where
  frontier := refreshFrontier_inStep next h.frontier
  fortAnchors := refreshFortAnchor_inStep next h.fortAnchors
  yieldBearing := refreshYieldBearing_inStep next h.yieldBearing
  siegeBatteries := refreshActiveStructure_inStep next h.siegeBatteries
  relayBeacons := refreshActiveStructure_inStep next h.relayBeacons
  observatories := refreshActiveStructure_inStep next h.observatories
  musters := refreshMuster_inStep next h.musters
  neuralWorks := refreshActiveStructure_inStep next h.neuralWorks
  ancillaryDepots := refreshActiveStructure_inStep next h.ancillaryDepots
  reserveLattices := refreshActiveStructure_inStep next h.reserveLattices
  ancillaryFactories := refreshActiveStructure_inStep next h.ancillaryFactories
  incubationEngines := refreshActiveStructure_inStep next h.incubationEngines
  censusHalls := refreshActiveStructure_inStep next h.censusHalls

end BorderEmpires.Indexes
