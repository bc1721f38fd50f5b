/-
  BorderEmpires.Vision.TerrainRuns
  **ADDING AND REMOVING A SOURCE WHILE THE TERRAIN MOVES.**

  The coverage cache recomputes a footprint when it removes one.  Between
  the two, CREATE_MOUNTAIN, REMOVE_MOUNTAIN and forest clearings change
  the ground and drop memos, and none of them resyncs the sources that
  stand.  The two footprints agree along a run in which every change
  leaves each standing source either its mountain-free memo or the same
  lines of sight (`SightHeld`).
-/
import Mathlib.Data.List.Perm.Subperm
import Mathlib.Algebra.BigOperators.Group.List.Basic
import BorderEmpires.Lib.Run
import BorderEmpires.Vision.CoverageCache
import BorderEmpires.Vision.Footprints

namespace BorderEmpires.Vision

variable {W : WorldSize}

/-! ## §1. The state and its operations. -/

/-- A source that stands, with the offsets it was added with. -/
structure VisionSource (W : WorldSize) where
  viewerId : PlayerId
  tile : TileKey W
  radius : Nat
  offsets : List Offset
  deriving DecidableEq

/-- The cells of `forEachDilatedCell`. -/
def dilatedCells (t : TileKey W) (offsets : List Offset) : List (TileKey W) := offsets.map t.shift

def VisionSource.cells (src : VisionSource W) : List (TileKey W) :=
  dilatedCells src.tile src.offsets

/-- The coverage of a world whose terrain moves.  `underflowed` watches
the removals: some cell was taken from more often than it was counted. -/
structure TerrainVision (W : WorldSize) where
  ground : Ground W
  table : VisionFootprintTable
  cache : VisibilityCoverageCache W
  sources : List (VisionSource W)
  underflowed : Bool

inductive TerrainOp (W : WorldSize) where
  | addSource (viewerId : PlayerId) (tile : TileKey W) (radius : Nat) (onEnter : Bool)
  | removeSource (src : VisionSource W) (onLeave : Bool)
  /-- CREATE_MOUNTAIN, with the sources the lost ownership takes away. -/
  | createMountain (target : TileKey W) (released : List (VisionSource W)) (onLeave : Bool)
  | removeMountain (target : TileKey W)
  | prepareAfcLandingFootprint (tile : TileKey W)
  | clearForestOnTownOrDockTile (tile : TileKey W)

namespace TerrainVision

variable (gen : Worldgen W)

/-- Nothing stands yet. -/
def boot (ground : Ground W) : TerrainVision W :=
  ⟨ground, .new ground.forestClearingEpoch, .empty, [], false⟩

/-- `addFootprint` with the table's offsets. -/
def addSource (s : TerrainVision W) (viewerId : PlayerId) (tile : TileKey W) (radius : Nat)
    (onEnter : Bool) : TerrainVision W :=
  let (offsets, table) := VisionFootprintTable.getOffsets gen s.ground tile radius s.table
  { s with
    table := table
    cache := s.cache.addFootprint viewerId (dilatedCells tile offsets) onEnter
    sources := s.sources ++ [⟨viewerId, tile, radius, offsets⟩] }

/-- `removeFootprint`: a viewer with no map is left alone before the table
is asked. -/
def removeSource (s : TerrainVision W) (src : VisionSource W) (onLeave : Bool) : TerrainVision W :=
  match s.cache.coverage.get src.viewerId with
  | none => { s with sources := s.sources.erase src }
  | some _ =>
      let (offsets, table) := VisionFootprintTable.getOffsets gen s.ground src.tile src.radius s.table
      let cells := dilatedCells src.tile offsets
      { s with
        table := table
        cache := s.cache.removeFootprint src.viewerId cells onLeave
        sources := s.sources.erase src
        underflowed := s.underflowed
          || cells.any (fun cell => decide (s.cache.refcount src.viewerId cell < cells.count cell)) }

/-- The terrain write of a handler, what `replaceTileState` takes away on
the spot, and then the epoch. -/
def reshape (s : TerrainVision W) (target : TileKey W) (terrain : Terrain)
    (released : List (VisionSource W)) (onLeave : Bool) : TerrainVision W :=
  let s := { s with ground := s.ground.writeTerrain target terrain }
  let s := released.foldl (fun s src => s.removeSource gen src onLeave) s
  { s with ground := s.ground.bumpTerrainEpoch }

def handleCreateMountainCommand (s : TerrainVision W) (target : TileKey W)
    (released : List (VisionSource W)) (onLeave : Bool) : TerrainVision W :=
  s.reshape gen target .MOUNTAIN released onLeave

def handleRemoveMountainCommand (s : TerrainVision W) (target : TileKey W) : TerrainVision W :=
  s.reshape gen target .LAND [] false

def flattenTile (r : Ground W × Bool) (t : TileKey W) : Ground W × Bool :=
  if r.1.mountainAt t then (r.1.writeTerrain t .LAND, true) else r

/-- `prepareAfcLandingFootprint`: forest goes first, then mountains; the
epoch moves once, and only for mountains. -/
def landedGround (g : Ground W) (tile : TileKey W) : Ground W :=
  let footprint := (squareOffsets 1).map tile.shift
  let cleared := footprint.foldl (fun g t => g.clearForestAt gen t) g
  let flattened := footprint.foldl flattenTile (cleared, false)
  if flattened.2 then flattened.1.bumpTerrainEpoch else flattened.1

/-- The callback calls of the previous operation are forgotten. -/
def quiet (s : TerrainVision W) : TerrainVision W :=
  { s with cache := { s.cache with edges := [] } }

def apply (s : TerrainVision W) (op : TerrainOp W) : TerrainVision W :=
  match op with
  | .addSource viewerId tile radius onEnter => s.quiet.addSource gen viewerId tile radius onEnter
  | .removeSource src onLeave => s.quiet.removeSource gen src onLeave
  | .createMountain target released onLeave =>
      s.quiet.handleCreateMountainCommand gen target released onLeave
  | .removeMountain target => s.quiet.handleRemoveMountainCommand gen target
  | .prepareAfcLandingFootprint tile => { s.quiet with ground := landedGround gen s.ground tile }
  | .clearForestOnTownOrDockTile tile => { s.quiet with ground := s.ground.clearForestAt gen tile }

/-- What the callers see to: a source is removed once, a mountain is made
of LAND and takes the sources of its own tile, and only a mountain is
removed. -/
def Enabled (s : TerrainVision W) : TerrainOp W → Prop
  | .removeSource src _ => src ∈ s.sources
  | .createMountain target released _ =>
      s.ground.terrain.get target = some .LAND ∧ released.Subperm s.sources
        ∧ ∀ src ∈ released, src.tile = target
  | .removeMountain target => s.ground.terrain.get target = some .MOUNTAIN
  | _ => True

/-! ## §2. The proviso. -/

/-- A radius whose footprint neither reaches around the world nor past the
packing of the memo keys, hills bonus included. -/
def RadiusFits (W : WorldSize) (radius : Nat) : Prop :=
  radius + HILLS_VISION_BONUS < W.width ∧ radius + HILLS_VISION_BONUS < W.height
    ∧ radius + HILLS_VISION_BONUS < MAX_PACKABLE_RADIUS

/-- **A change of the ground to `g'` leaves a source its sight**: its
mountain-free memo stays in force, or its lines of sight on the new ground
are those it was added with. -/
def SightHeld (s : TerrainVision W) (g' : Ground W) (src : VisionSource W) : Prop :=
  (s.ground.forestClearingEpoch = g'.forestClearingEpoch
      ∧ (VisionFootprintTable.permanentMemo s.ground s.table src.tile
          (VisionFootprintTable.effectiveRadius gen s.ground src.tile src.radius)).isSome = true)
    ∨ VisionFootprintTable.freshOffsets gen g' src.tile
        (VisionFootprintTable.effectiveRadius gen g' src.tile src.radius) = src.offsets

/-- No operation blinds a standing source or opens its view, and radii
fit. -/
def SightKept (s : TerrainVision W) : TerrainOp W → Prop
  | .addSource _ _ radius _ => RadiusFits W radius
  | .removeSource _ _ => True
  | .createMountain target released _ =>
      ∀ src ∈ s.sources.diff released,
        s.SightHeld gen (s.ground.writeTerrain target .MOUNTAIN).bumpTerrainEpoch src
  | .removeMountain target =>
      ∀ src ∈ s.sources, s.SightHeld gen (s.ground.writeTerrain target .LAND).bumpTerrainEpoch src
  | .prepareAfcLandingFootprint tile =>
      ∀ src ∈ s.sources, s.SightHeld gen (landedGround gen s.ground tile) src
  | .clearForestOnTownOrDockTile tile =>
      ∀ src ∈ s.sources, s.SightHeld gen (s.ground.clearForestAt gen tile) src

def Step (s : TerrainVision W) (op : TerrainOp W) (s' : TerrainVision W) : Prop :=
  s.Enabled op ∧ s' = s.apply gen op

/-- A step that meets the proviso. -/
def HeldStep (s : TerrainVision W) (op : TerrainOp W) (s' : TerrainVision W) : Prop :=
  s.Enabled op ∧ s.SightKept gen op ∧ s' = s.apply gen op

/-! ## §3. Queries keep what is recalled. -/

open VisionFootprintTable

def lookupRadius (g : Ground W) (src : VisionSource W) : Nat :=
  effectiveRadius gen g src.tile src.radius

def answer (s : TerrainVision W) (src : VisionSource W) : List Offset :=
  recalled gen s.ground s.table src.tile (lookupRadius gen s.ground src)

theorem lookupRadius_lt {radius : Nat} (h : RadiusFits W radius) (g : Ground W) (t : TileKey W) :
    effectiveRadius gen g t radius < W.width ∧ effectiveRadius gen g t radius < W.height
      ∧ effectiveRadius gen g t radius < MAX_PACKABLE_RADIUS := by
  obtain ⟨hx, hy, hpack⟩ := h
  unfold effectiveRadius
  split
  · exact ⟨hx, hy, hpack⟩
  · exact ⟨by omega, by omega, by omega⟩

structure Queried (g : Ground W) (table table' : VisionFootprintTable) : Prop where
  squares : SquaresShared table → SquaresShared table'
  epoch : table'.epoch = table.epoch ∨ table'.epoch = g.terrainEpoch
  forestEpoch : table'.forestEpoch = table.forestEpoch ∨ table'.forestEpoch = g.forestClearingEpoch
  permanent : ∀ (t : TileKey W) e, e < MAX_PACKABLE_RADIUS →
    permanentMemo g table' t e = permanentMemo g table t e
      ∨ (permanentMemo g table t e = none
          ∧ permanentMemo g table' t e = some (freshOffsets gen g t e))
  answers : ∀ (t : TileKey W) e, e < MAX_PACKABLE_RADIUS →
    recalled gen g table' t e = recalled gen g table t e

variable (g : Ground W) {table : VisionFootprintTable} {src : VisionSource W} {s : TerrainVision W}

theorem Queried.refl (table : VisionFootprintTable) : Queried gen g table table :=
  ⟨id, Or.inl rfl, Or.inl rfl, fun _ _ _ => Or.inl rfl, fun _ _ _ => rfl⟩

theorem Queried.of_asked {g : Ground W} {t : TileKey W} {e : Nat}
    {table table' : VisionFootprintTable} (h : Asked gen g t e table table') :
    Queried gen g table table' :=
  ⟨fun _ => h.squares, Or.inr h.epoch, Or.inr h.forestEpoch, h.permanent, h.answers⟩

theorem Queried.trans {g : Ground W} {a b c : VisionFootprintTable} (h : Queried gen g a b)
    (h' : Queried gen g b c) : Queried gen g a c where
  squares := fun ha => h'.squares (h.squares ha)
  epoch := by
    cases h'.epoch with
    | inl heq => rw [heq]; exact h.epoch
    | inr heq => exact Or.inr heq
  forestEpoch := by
    cases h'.forestEpoch with
    | inl heq => rw [heq]; exact h.forestEpoch
    | inr heq => exact Or.inr heq
  permanent := by
    intro t e he
    cases h'.permanent t e he with
    | inl heq => rw [heq]; exact h.permanent t e he
    | inr hnew =>
        -- a memo noted on the second leg was missing on the first
        refine Or.inr ⟨?_, hnew.2⟩
        cases h.permanent t e he with
        | inl heq => rw [← heq]; exact hnew.1
        | inr hfirst => exact hfirst.1
  answers := fun t e he => (h'.answers t e he).trans (h.answers t e he)

/-! ## §4. What stands is what is counted. -/

def held (sources : List (VisionSource W)) (v : PlayerId) (cell : TileKey W) : Nat :=
  (sources.map (fun src => if src.viewerId = v then src.cells.count cell else 0)).sum

theorem held_erase {sources : List (VisionSource W)} (h : src ∈ sources) (v : PlayerId)
    (cell : TileKey W) :
    (if src.viewerId = v then src.cells.count cell else 0) + held (sources.erase src) v cell
      = held sources v cell := by
  have hperm := (List.perm_cons_erase h).map
    (fun src : VisionSource W => if src.viewerId = v then src.cells.count cell else 0)
  have hsum := hperm.sum_eq
  rw [List.map_cons, List.sum_cons] at hsum
  exact hsum.symm

theorem held_eq_zero {sources : List (VisionSource W)} {v : PlayerId} {cell : TileKey W} :
    held sources v cell = 0 ↔ ∀ src ∈ sources, src.viewerId = v → cell ∉ src.cells := by
  unfold held
  rw [List.sum_eq_zero_iff_forall_eq_nat]
  constructor
  · intro h src hsrc hv hcell
    have hzero := h _ (List.mem_map_of_mem hsrc)
    rw [if_pos hv] at hzero
    exact List.count_eq_zero.mp hzero hcell
  · intro h n hn
    obtain ⟨src, hsrc, rfl⟩ := List.mem_map.mp hn
    split
    next hv => exact List.count_eq_zero.mpr (h src hsrc hv)
    next _ => rfl

/-- **The accounts of the sources that stand**, whatever the table holds. -/
structure Standing (s : TerrainVision W) : Prop where
  squares : SquaresShared s.table
  fits : ∀ src ∈ s.sources, RadiusFits W src.radius
  counts : ∀ v cell, s.cache.refcount v cell = held s.sources v cell
  leaves : ∀ v cell, VisionEdge.leave v cell ∈ s.cache.edges → s.cache.refcount v cell = 0
  clean : s.underflowed = false

theorem addSource_standing (h : Standing s) (viewerId : PlayerId) (tile : TileKey W) {radius : Nat}
    (hfits : RadiusFits W radius) (onEnter : Bool)
    (hquiet : ∀ v cell, VisionEdge.leave v cell ∉ s.cache.edges) :
    Standing (s.addSource gen viewerId tile radius onEnter)
      ∧ (s.addSource gen viewerId tile radius onEnter).ground = s.ground
      ∧ Queried gen s.ground s.table (s.addSource gen viewerId tile radius onEnter).table
      ∧ (s.addSource gen viewerId tile radius onEnter).sources
          = s.sources ++ [⟨viewerId, tile, radius, recalled gen s.ground s.table tile
              (effectiveRadius gen s.ground tile radius)⟩] := by
  obtain ⟨hvalue, hasked⟩ := getOffsets_spec gen s.ground tile radius h.squares
    (lookupRadius_lt gen hfits s.ground tile).2.2
  unfold addSource
  refine ⟨⟨hasked.squares, ?_, ?_, ?_, h.clean⟩, rfl, .of_asked gen hasked, ?_⟩
  · intro src hsrc
    cases List.mem_append.mp hsrc with
    | inl hold => exact h.fits src hold
    | inr hnew =>
        rw [List.mem_singleton.mp hnew]
        exact hfits
  · intro v cell
    show (s.cache.addFootprint viewerId _ onEnter).refcount v cell = _
    rw [VisibilityCoverageCache.refcount_addFootprint, h.counts]
    unfold held VisionSource.cells
    rw [List.map_append, List.sum_append, List.map_singleton, List.sum_singleton]
  · intro v cell hleave
    exact absurd (VisibilityCoverageCache.leave_addFootprint _ _ _ _ _ _ hleave) (hquiet v cell)
  · show _ ++ [VisionSource.mk viewerId tile radius _] = _
    rw [hvalue]

/-- **Removing a source whose footprint is still the one it was added
with** takes away exactly its share. -/
theorem removeSource_standing (h : Standing s) (hsrc : src ∈ s.sources)
    (hanswer : s.answer gen src = src.offsets) (onLeave : Bool) :
    Standing (s.removeSource gen src onLeave)
      ∧ (s.removeSource gen src onLeave).ground = s.ground
      ∧ Queried gen s.ground s.table (s.removeSource gen src onLeave).table
      ∧ (s.removeSource gen src onLeave).sources = s.sources.erase src := by
  have hrest : ∀ src' ∈ s.sources.erase src, RadiusFits W src'.radius :=
    fun src' hmem => h.fits src' (List.mem_of_mem_erase hmem)
  unfold removeSource
  cases hmap : s.cache.coverage.get src.viewerId with
  | none =>
      refine ⟨⟨h.squares, hrest, ?_, h.leaves, h.clean⟩, rfl, .refl gen _ _, rfl⟩
      intro v cell
      show s.cache.refcount v cell = held (s.sources.erase src) v cell
      have herase := held_erase hsrc v cell
      by_cases hv : src.viewerId = v
      · -- the viewer has no map, so nothing of the source is counted
        have hzero : s.cache.refcount v cell = 0 := by
          rw [← hv]
          unfold VisibilityCoverageCache.refcount VisibilityCoverageCache.mapFor
          rw [hmap]
          rfl
        have hcount := h.counts v cell
        omega
      · rw [if_neg hv] at herase
        have hcount := h.counts v cell
        omega
  | some map =>
      obtain ⟨hvalue, hasked⟩ := getOffsets_spec gen s.ground src.tile src.radius h.squares
        (lookupRadius_lt gen (h.fits src hsrc) s.ground src.tile).2.2
      have hoffsets : (getOffsets gen s.ground src.tile src.radius s.table).1 = src.offsets :=
        hvalue.trans hanswer
      dsimp only
      rw [hoffsets]
      have hcells : dilatedCells src.tile src.offsets = src.cells := rfl
      rw [hcells]
      have hpart : ∀ cell, src.cells.count cell ≤ s.cache.refcount src.viewerId cell := by
        intro cell
        have herase := held_erase hsrc src.viewerId cell
        rw [if_pos rfl] at herase
        have hcount := h.counts src.viewerId cell
        omega
      refine ⟨⟨hasked.squares, hrest, ?_, ?_, ?_⟩, rfl, .of_asked gen hasked, rfl⟩
      · intro v cell
        show (s.cache.removeFootprint src.viewerId src.cells onLeave).refcount v cell
          = held (s.sources.erase src) v cell
        have herase := held_erase hsrc v cell
        have hcount := h.counts v cell
        rw [VisibilityCoverageCache.refcount_removeFootprint]
        omega
      · intro v cell hleave
        show (s.cache.removeFootprint src.viewerId src.cells onLeave).refcount v cell = 0
        cases VisibilityCoverageCache.leave_removeFootprint _ _ _ _ _ _ hleave with
        | inl hold =>
            have hzero := h.leaves v cell hold
            rw [VisibilityCoverageCache.refcount_removeFootprint]
            omega
        | inr hzero => exact hzero
      · show (s.underflowed || src.cells.any _) = false
        rw [h.clean, Bool.false_or]
        apply List.any_eq_false.mpr
        intro cell _
        have hle := hpart cell
        simp only [decide_eq_true_eq]
        omega

theorem foldl_removeSource_standing (onLeave : Bool) :
    ∀ (released : List (VisionSource W)) (s : TerrainVision W), Standing s →
      released.Subperm s.sources →
      (∀ src ∈ released, s.answer gen src = src.offsets) →
      Standing (released.foldl (fun s src => s.removeSource gen src onLeave) s)
        ∧ (released.foldl (fun s src => s.removeSource gen src onLeave) s).ground = s.ground
        ∧ Queried gen s.ground s.table
            (released.foldl (fun s src => s.removeSource gen src onLeave) s).table
        ∧ (released.foldl (fun s src => s.removeSource gen src onLeave) s).sources
            = s.sources.diff released := by
  intro released
  induction released with
  | nil =>
      intro s h _ _
      exact ⟨h, rfl, .refl gen _ _, (List.diff_nil _).symm⟩
  | cons src released ih =>
      intro s h hsub hanswers
      have hsrc : src ∈ s.sources := hsub.subset List.mem_cons_self
      obtain ⟨hstanding, hground, hqueried, hsources⟩ :=
        removeSource_standing gen h hsrc (hanswers src List.mem_cons_self) onLeave
      rw [List.foldl_cons]
      set s₁ := s.removeSource gen src onLeave with hs₁
      have hsub₁ : released.Subperm s₁.sources := by
        rw [hsources]
        have herased := hsub.erase src
        rwa [List.erase_cons_head] at herased
      have hanswers₁ : ∀ src' ∈ released, s₁.answer gen src' = src'.offsets := by
        intro src' hmem
        have hold := hanswers src' (List.mem_cons_of_mem _ hmem)
        have hfits := h.fits src' (hsub.subset (List.mem_cons_of_mem _ hmem))
        unfold answer at hold ⊢
        rw [hground]
        exact (hqueried.answers _ _ (lookupRadius_lt gen hfits s.ground src'.tile).2.2).trans hold
      obtain ⟨hstanding₂, hground₂, hqueried₂, hsources₂⟩ := ih s₁ hstanding hsub₁ hanswers₁
      refine ⟨hstanding₂, hground₂.trans hground, ?_, ?_⟩
      · rw [hground] at hqueried₂
        exact hqueried.trans gen hqueried₂
      · rw [hsources₂, hsources, List.diff_cons]

/-! ## §5. The ground moves. -/

/-- **The invariant**: the epochs the table has seen are not ahead of the
ground's, and the table would answer for each source what it was added
with. -/
structure Counted (s : TerrainVision W) : Prop extends Standing s where
  epochBehind : s.table.epoch ≤ s.ground.terrainEpoch
  forestBehind : s.table.forestEpoch ≤ s.ground.forestClearingEpoch
  answers : ∀ src ∈ s.sources, s.answer gen src = src.offsets

theorem boot_counted (ground : Ground W) : Counted gen (boot ground) where
  squares := fun _ _ h => by cases h
  fits := fun _ h => absurd h List.not_mem_nil
  counts := fun _ _ => rfl
  leaves := fun _ _ h => absurd h List.not_mem_nil
  clean := rfl
  epochBehind := by
    show (-1 : Int) ≤ ground.terrainEpoch
    omega
  forestBehind := Nat.le_refl _
  answers := fun _ h => absurd h List.not_mem_nil

theorem quiet_counted (h : Counted gen s) : Counted gen s.quiet :=
  { h with leaves := fun _ _ hmem => absurd hmem List.not_mem_nil }

theorem permanentMemo_none {g : Ground W} (h : table.forestEpoch < g.forestClearingEpoch)
    (t : TileKey W) (e : Nat) : permanentMemo g table t e = none := by
  unfold permanentMemo
  rw [if_neg (by omega)]

theorem scopedMemo_none {g : Ground W}
    (h : table.epoch < g.terrainEpoch ∨ table.forestEpoch < g.forestClearingEpoch) (t : TileKey W)
    (e : Nat) : scopedMemo g table t e = none := by
  unfold scopedMemo
  rw [if_neg]
  rintro ⟨hforest, hepoch⟩
  omega

structure SameGrowth (g g' : Ground W) : Prop where
  epoch : g'.forestClearingEpoch = g.forestClearingEpoch
  forest : ∀ t, g'.isForestTileAt gen t = g.isForestTileAt gen t
  hills : ∀ t, g'.isHillsTileAt gen t = g.isHillsTileAt gen t

theorem SameGrowth.lookupRadius {g g' : Ground W} (h : SameGrowth gen g g')
    (src : VisionSource W) : lookupRadius gen g' src = lookupRadius gen g src := by
  unfold TerrainVision.lookupRadius effectiveRadius
  rw [h.hills]

theorem SameGrowth.permanentMemo {g g' : Ground W} (h : SameGrowth gen g g')
    (table : VisionFootprintTable) (t : TileKey W) (e : Nat) :
    permanentMemo g' table t e = permanentMemo g table t e := by
  unfold VisionFootprintTable.permanentMemo
  rw [h.epoch]

theorem answer_of_permanent {offsets : List Offset}
    (h : permanentMemo s.ground s.table src.tile (lookupRadius gen s.ground src) = some offsets) :
    s.answer gen src = offsets := by
  unfold answer recalled
  rw [h, Option.getD_some]

/-- **Sight carried over.**  Of a source whose sight is held, what was
permanent is what it was added with; with no permanent memo left, a fresh
look gives that too. -/
theorem recalled_of_sightHeld (h : Counted gen s) (hsrc : src ∈ s.sources) {g' : Ground W}
    (hsight : s.SightHeld gen g' src)
    (hgrow : s.ground.forestClearingEpoch < g'.forestClearingEpoch ∨ SameGrowth gen s.ground g')
    (hstale : table.epoch < g'.terrainEpoch ∨ table.forestEpoch < g'.forestClearingEpoch)
    (hmemo : permanentMemo g' table src.tile (lookupRadius gen g' src)
        = permanentMemo g' s.table src.tile (lookupRadius gen g' src)
      ∨ (permanentMemo g' s.table src.tile (lookupRadius gen g' src) = none
          ∧ permanentMemo g' table src.tile (lookupRadius gen g' src)
            = some (freshOffsets gen g' src.tile (lookupRadius gen g' src)))) :
    recalled gen g' table src.tile (lookupRadius gen g' src) = src.offsets := by
  have hanswer := h.answers src hsrc
  -- a memo that was permanent before is the footprint of the source
  have hheld : ∀ offsets, permanentMemo g' s.table src.tile (lookupRadius gen g' src) = some offsets →
      offsets = src.offsets := by
    intro offsets hoffsets
    cases hgrow with
    | inl hlt =>
        have hbehind := h.forestBehind
        rw [permanentMemo_none (by omega)] at hoffsets
        cases hoffsets
    | inr hsame =>
        rw [hsame.permanentMemo, hsame.lookupRadius] at hoffsets
        exact (answer_of_permanent gen hoffsets).symm.trans hanswer
  have hfresh : permanentMemo g' s.table src.tile (lookupRadius gen g' src) = none →
      freshOffsets gen g' src.tile (lookupRadius gen g' src) = src.offsets := by
    intro hnone
    cases hsight with
    | inr heq => exact heq
    | inl hkept =>
        cases hgrow with
        | inl hlt => omega
        | inr hsame =>
            have hsome := hkept.2
            rw [hsame.permanentMemo, hsame.lookupRadius] at hnone
            unfold TerrainVision.lookupRadius at hnone
            rw [hnone] at hsome
            cases hsome
  unfold recalled
  rw [scopedMemo_none hstale]
  cases hmemo with
  | inl hsame =>
      rw [hsame]
      cases hbefore : permanentMemo g' s.table src.tile (lookupRadius gen g' src) with
      | none => exact hfresh hbefore
      | some offsets => exact hheld offsets hbefore
  | inr hnew =>
      rw [hnew.2]
      exact hfresh hnew.1

theorem writeTerrain_sameGrowth (t : TileKey W) (terrain : Terrain) :
    SameGrowth gen g (g.writeTerrain t terrain) := ⟨rfl, fun _ => rfl, fun _ => rfl⟩

/-- **A terrain edit keeps the accounts**: what it takes away on the spot
cancels, and what stays keeps its sight. -/
theorem reshape_counted (h : Counted gen s) (target : TileKey W) (terrain : Terrain)
    {released : List (VisionSource W)} (hsub : released.Subperm s.sources)
    (htarget : ∀ src ∈ released, src.tile = target) (onLeave : Bool)
    (hsight : ∀ src ∈ s.sources.diff released,
      s.SightHeld gen (s.ground.writeTerrain target terrain).bumpTerrainEpoch src) :
    Counted gen (s.reshape gen target terrain released onLeave) := by
  set g := s.ground.writeTerrain target terrain with hg
  set s₀ : TerrainVision W := { s with ground := g } with hs₀
  have hgrowth : SameGrowth gen s.ground g := writeTerrain_sameGrowth gen s.ground target terrain
  have hstanding₀ : Standing s₀ := ⟨h.squares, h.fits, h.counts, h.leaves, h.clean⟩
  -- between the write and the epoch, a released source looks past its own tile
  have hreleased : ∀ src ∈ released, s₀.answer gen src = src.offsets := by
    intro src hmem
    have hsrc := hsub.subset hmem
    obtain ⟨hx, hy, _⟩ := lookupRadius_lt gen (h.fits src hsrc) s.ground src.tile
    have hfresh : freshOffsets gen g src.tile (lookupRadius gen s.ground src)
        = freshOffsets gen s.ground src.tile (lookupRadius gen s.ground src) := by
      apply freshOffsets_congr hx hy
      · intro u hu
        rw [htarget src hmem] at hu
        exact Ground.mountainAt_writeTerrain_ne s.ground hu terrain
      · intro u _
        rfl
    rw [← h.answers src hsrc]
    unfold answer recalled
    show (permanentMemo g s.table src.tile (lookupRadius gen g src)).getD _ = _
    rw [hgrowth.lookupRadius, hfresh, hgrowth.permanentMemo]
    rfl
  obtain ⟨hstanding, hground, hqueried, hsources⟩ :=
    foldl_removeSource_standing gen onLeave released s₀ hstanding₀ hsub hreleased
  set s₁ := released.foldl (fun s src => s.removeSource gen src onLeave) s₀ with hs₁
  have hresult : s.reshape gen target terrain released onLeave
      = { s₁ with ground := s₁.ground.bumpTerrainEpoch } := rfl
  rw [hresult]
  have hground' : s₁.ground.bumpTerrainEpoch = g.bumpTerrainEpoch := by rw [hground]
  have hbehind : s₁.table.epoch ≤ g.terrainEpoch := by
    have hbefore := h.epochBehind
    cases hqueried.epoch with
    | inl heq =>
        rw [heq]
        exact hbefore
    | inr heq => exact Int.le_of_eq heq
  refine ⟨⟨hstanding.squares, hstanding.fits, hstanding.counts, hstanding.leaves,
    hstanding.clean⟩, ?_, ?_, ?_⟩
  · show s₁.table.epoch ≤ ((s₁.ground.bumpTerrainEpoch).terrainEpoch : Int)
    rw [hground']
    show s₁.table.epoch ≤ ((g.terrainEpoch + 1 : Nat) : Int)
    omega
  · show s₁.table.forestEpoch ≤ (s₁.ground.bumpTerrainEpoch).forestClearingEpoch
    rw [hground']
    show s₁.table.forestEpoch ≤ s.ground.forestClearingEpoch
    have hbefore := h.forestBehind
    cases hqueried.forestEpoch with
    | inl heq =>
        rw [heq]
        exact hbefore
    | inr heq => exact Nat.le_of_eq heq
  · intro src hmem
    have hstays : src ∈ s.sources.diff released := by
      have hmem' : src ∈ s₁.sources := hmem
      rw [hsources] at hmem'
      exact hmem'
    have hsrc : src ∈ s.sources := List.diff_subset _ _ hstays
    show recalled gen s₁.ground.bumpTerrainEpoch s₁.table src.tile
      (lookupRadius gen s₁.ground.bumpTerrainEpoch src) = src.offsets
    rw [hground']
    have hsame : SameGrowth gen s.ground g.bumpTerrainEpoch := ⟨rfl, fun _ => rfl, fun _ => rfl⟩
    apply recalled_of_sightHeld gen h hsrc (hsight src hstays) (Or.inr hsame)
    · apply Or.inl
      show s₁.table.epoch < ((g.terrainEpoch + 1 : Nat) : Int)
      omega
    · exact hqueried.permanent src.tile _
        (lookupRadius_lt gen (h.fits src hsrc) g src.tile).2.2

theorem reground_counted (h : Counted gen s) {g' : Ground W}
    (hgrow : s.ground.forestClearingEpoch < g'.forestClearingEpoch ∨ SameGrowth gen s.ground g')
    (hterrain : s.ground.terrainEpoch < g'.terrainEpoch
      ∨ (g'.terrainEpoch = s.ground.terrainEpoch ∧ g'.terrain = s.ground.terrain))
    (hsight : ∀ src ∈ s.sources, s.SightHeld gen g' src) : Counted gen { s with ground := g' } := by
  have hepoch := h.epochBehind
  have hforest := h.forestBehind
  have hforest' : s.ground.forestClearingEpoch ≤ g'.forestClearingEpoch := by
    cases hgrow with
    | inl hlt => omega
    | inr hsame => exact Nat.le_of_eq hsame.epoch.symm
  refine ⟨⟨h.squares, h.fits, h.counts, h.leaves, h.clean⟩, ?_, ?_, ?_⟩
  · show s.table.epoch ≤ (g'.terrainEpoch : Int)
    omega
  · show s.table.forestEpoch ≤ g'.forestClearingEpoch
    omega
  · intro src hsrc
    show recalled gen g' s.table src.tile (lookupRadius gen g' src) = src.offsets
    by_cases hstale : s.table.epoch < g'.terrainEpoch ∨ s.table.forestEpoch < g'.forestClearingEpoch
    · exact recalled_of_sightHeld gen h hsrc (hsight src hsrc) hgrow hstale (Or.inl rfl)
    · -- no epoch moved: the ground looks the same from everywhere
      rw [not_or, not_lt, not_lt] at hstale
      have hsame : SameGrowth gen s.ground g' := hgrow.resolve_left (by omega)
      obtain ⟨hsameEpoch, hsameTerrain⟩ := hterrain.resolve_left (by omega)
      obtain ⟨hx, hy, _⟩ := lookupRadius_lt gen (h.fits src hsrc) s.ground src.tile
      have hfresh : freshOffsets gen g' src.tile (lookupRadius gen s.ground src)
          = freshOffsets gen s.ground src.tile (lookupRadius gen s.ground src) := by
        apply freshOffsets_congr hx hy
        · intro u _
          unfold Ground.mountainAt
          rw [hsameTerrain]
        · intro u _
          exact hsame.forest u
      have hscoped : scopedMemo g' s.table src.tile (lookupRadius gen s.ground src)
          = scopedMemo s.ground s.table src.tile (lookupRadius gen s.ground src) := by
        unfold scopedMemo
        rw [hsame.epoch, hsameEpoch]
      rw [← h.answers src hsrc]
      unfold answer recalled
      rw [hsame.lookupRadius, hfresh, hscoped, hsame.permanentMemo]

/-! ## §6. Forest goes, mountains are flattened. -/

/-- Only forest changes, and if any does the epoch says so. -/
structure Regrown (g g' : Ground W) : Prop where
  growth : g.forestClearingEpoch < g'.forestClearingEpoch ∨ SameGrowth gen g g'
  terrain : g'.terrain = g.terrain
  terrainEpoch : g'.terrainEpoch = g.terrainEpoch

theorem Regrown.refl : Regrown gen g g := ⟨Or.inr ⟨rfl, fun _ => rfl, fun _ => rfl⟩, rfl, rfl⟩

theorem Regrown.trans {a b c : Ground W} (h : Regrown gen a b) (h' : Regrown gen b c) :
    Regrown gen a c := by
  refine ⟨?_, h'.terrain.trans h.terrain, h'.terrainEpoch.trans h.terrainEpoch⟩
  cases h.growth with
  | inl hlt =>
      cases h'.growth with
      | inl hlt' => exact Or.inl (by omega)
      | inr hsame' =>
          have heq := hsame'.epoch
          exact Or.inl (by omega)
  | inr hsame =>
      have heq := hsame.epoch
      cases h'.growth with
      | inl hlt' => exact Or.inl (by omega)
      | inr hsame' =>
          exact Or.inr ⟨hsame'.epoch.trans hsame.epoch,
            fun t => (hsame'.forest t).trans (hsame.forest t),
            fun t => (hsame'.hills t).trans (hsame.hills t)⟩

/-- **Clearing a tile** moves the epoch when its shade was dark, and
otherwise changes neither forest nor hills. -/
theorem clearForestAt_regrown (t : TileKey W) : Regrown gen g (g.clearForestAt gen t) := by
  unfold Ground.clearForestAt
  split
  · exact .refl gen g
  refine ⟨?_, rfl, rfl⟩
  cases hdark : gen.dark t with
  | true => exact Or.inl (Nat.lt_succ_self _)
  | false =>
      have hforest : ∀ u, Ground.isForestTileAt gen { g with
          cleared := t :: g.cleared
          forestClearingEpoch := if false = true then g.forestClearingEpoch + 1
            else g.forestClearingEpoch } u = g.isForestTileAt gen u := by
        intro u
        unfold Ground.isForestTileAt
        dsimp only
        rw [List.contains_cons]
        by_cases hut : u = t
        · rw [hut, hdark]
          simp
        · rw [beq_false_of_ne hut, Bool.false_or]
      have hwas : ∀ u, Ground.wasForestBeforeClearingAt gen { g with
          cleared := t :: g.cleared
          forestClearingEpoch := if false = true then g.forestClearingEpoch + 1
            else g.forestClearingEpoch } u = g.wasForestBeforeClearingAt gen u := by
        intro u
        unfold Ground.wasForestBeforeClearingAt
        dsimp only
        rw [List.contains_cons]
        by_cases hut : u = t
        · rw [hut, hdark]
          simp
        · rw [beq_false_of_ne hut, Bool.false_or]
      refine Or.inr ⟨rfl, hforest, ?_⟩
      intro u
      unfold Ground.isHillsTileAt
      rw [hforest, hwas]

theorem foldl_clearForestAt_regrown :
    ∀ (tiles : List (TileKey W)) (g : Ground W),
      Regrown gen g (tiles.foldl (fun g t => g.clearForestAt gen t) g) := by
  intro tiles
  induction tiles with
  | nil => intro g; exact .refl gen g
  | cons t tiles ih =>
      intro g
      rw [List.foldl_cons]
      exact (clearForestAt_regrown gen g t).trans gen (ih _)

/-- Flattening leaves forest and epochs alone, and the terrain too unless
it says so. -/
theorem foldl_flattenTile :
    ∀ (tiles : List (TileKey W)) (g : Ground W) (changed : Bool),
      SameGrowth gen g (tiles.foldl flattenTile (g, changed)).1
        ∧ (tiles.foldl flattenTile (g, changed)).1.terrainEpoch = g.terrainEpoch
        ∧ ((tiles.foldl flattenTile (g, changed)).2 = false →
            (tiles.foldl flattenTile (g, changed)).1 = g ∧ changed = false) := by
  intro tiles
  induction tiles with
  | nil =>
      intro g changed
      exact ⟨⟨rfl, fun _ => rfl, fun _ => rfl⟩, rfl, fun h => ⟨rfl, h⟩⟩
  | cons t tiles ih =>
      intro g changed
      rw [List.foldl_cons]
      unfold flattenTile
      dsimp only
      by_cases hmountain : g.mountainAt t = true
      · rw [if_pos hmountain]
        obtain ⟨hgrowth, hepoch, hkeep⟩ := ih (g.writeTerrain t .LAND) true
        refine ⟨⟨hgrowth.epoch, hgrowth.forest, hgrowth.hills⟩, hepoch, ?_⟩
        intro hfalse
        cases (hkeep hfalse).2
      · rw [if_neg hmountain]
        exact ih g changed

theorem landedGround_spec (tile : TileKey W) :
    (g.forestClearingEpoch < (landedGround gen g tile).forestClearingEpoch
        ∨ SameGrowth gen g (landedGround gen g tile))
      ∧ (g.terrainEpoch < (landedGround gen g tile).terrainEpoch
        ∨ ((landedGround gen g tile).terrainEpoch = g.terrainEpoch
          ∧ (landedGround gen g tile).terrain = g.terrain)) := by
  unfold landedGround
  generalize (squareOffsets 1).map tile.shift = footprint
  dsimp only
  have hregrown : Regrown gen g (footprint.foldl (fun g t => g.clearForestAt gen t) g) :=
    foldl_clearForestAt_regrown gen footprint g
  generalize footprint.foldl (fun g t => g.clearForestAt gen t) g = cleared at hregrown
  obtain ⟨hgrowth, hepoch, hkeep⟩ := foldl_flattenTile gen footprint cleared false
  generalize footprint.foldl flattenTile (cleared, false) = flattened at hgrowth hepoch hkeep
  obtain ⟨final, changed⟩ := flattened
  dsimp only at hgrowth hepoch hkeep ⊢
  -- the flattening is one more change that leaves the forest alone
  have hforest : g.forestClearingEpoch < final.forestClearingEpoch ∨ SameGrowth gen g final := by
    have heq := hgrowth.epoch
    cases hregrown.growth with
    | inl hlt => exact Or.inl (by omega)
    | inr hsame =>
        exact Or.inr ⟨heq.trans hsame.epoch, fun t => (hgrowth.forest t).trans (hsame.forest t),
          fun t => (hgrowth.hills t).trans (hsame.hills t)⟩
  cases changed with
  | true =>
      rw [if_pos rfl]
      constructor
      · cases hforest with
        | inl hlt => exact Or.inl hlt
        | inr hsame => exact Or.inr ⟨hsame.epoch, hsame.forest, hsame.hills⟩
      · apply Or.inl
        show g.terrainEpoch < final.terrainEpoch + 1
        rw [hepoch, hregrown.terrainEpoch]
        exact Nat.lt_succ_self _
  | false =>
      rw [if_neg Bool.false_ne_true]
      refine ⟨hforest, Or.inr ?_⟩
      rw [(hkeep rfl).1]
      exact ⟨hregrown.terrainEpoch, hregrown.terrain⟩

/-! ## §7. Runs. -/

/-- **Every operation keeps the accounts**, given the proviso. -/
theorem apply_counted (h : Counted gen s) (op : TerrainOp W) (henabled : s.Enabled op)
    (hkept : s.SightKept gen op) : Counted gen (s.apply gen op) := by
  have hquiet := quiet_counted gen h
  cases op with
  | addSource viewerId tile radius onEnter =>
      show Counted gen (s.quiet.addSource gen viewerId tile radius onEnter)
      obtain ⟨hstanding, hground, hqueried, hsources⟩ := addSource_standing gen hquiet.toStanding
        viewerId tile hkept onEnter (fun _ _ => List.not_mem_nil)
      have hsmall : ∀ src ∈ s.sources, lookupRadius gen s.ground src < MAX_PACKABLE_RADIUS :=
        fun src hsrc => (lookupRadius_lt gen (h.fits src hsrc) s.ground src.tile).2.2
      refine ⟨hstanding, ?_, ?_, ?_⟩
      · show _ ≤ (s.ground.terrainEpoch : Int)
        have hbefore := h.epochBehind
        cases hqueried.epoch with
        | inl heq =>
            rw [heq]
            exact hbefore
        | inr heq => exact Int.le_of_eq heq
      · show _ ≤ s.ground.forestClearingEpoch
        have hbefore := h.forestBehind
        cases hqueried.forestEpoch with
        | inl heq =>
            rw [heq]
            exact hbefore
        | inr heq => exact Nat.le_of_eq heq
      · intro src hmem
        rw [hsources] at hmem
        show recalled gen s.ground _ src.tile (lookupRadius gen s.ground src) = src.offsets
        cases List.mem_append.mp hmem with
        | inl hold =>
            exact (hqueried.answers src.tile _ (hsmall src hold)).trans (h.answers src hold)
        | inr hnew =>
            rw [List.mem_singleton.mp hnew]
            exact hqueried.answers tile _ (lookupRadius_lt gen hkept s.ground tile).2.2
  | removeSource src onLeave =>
      show Counted gen (s.quiet.removeSource gen src onLeave)
      obtain ⟨hstanding, hground, hqueried, hsources⟩ := removeSource_standing gen
        hquiet.toStanding henabled (h.answers src henabled) onLeave
      refine ⟨hstanding, ?_, ?_, ?_⟩
      · rw [hground]
        have hbefore := h.epochBehind
        cases hqueried.epoch with
        | inl heq =>
            rw [heq]
            exact hbefore
        | inr heq => exact Int.le_of_eq heq
      · rw [hground]
        have hbefore := h.forestBehind
        cases hqueried.forestEpoch with
        | inl heq =>
            rw [heq]
            exact hbefore
        | inr heq => exact Nat.le_of_eq heq
      · intro src' hmem
        rw [hsources] at hmem
        have hold : src' ∈ s.sources := List.mem_of_mem_erase hmem
        unfold answer
        rw [hground]
        exact (hqueried.answers src'.tile _
          (lookupRadius_lt gen (h.fits src' hold) s.ground src'.tile).2.2).trans (h.answers src' hold)
  | createMountain target released onLeave =>
      exact reshape_counted gen hquiet target .MOUNTAIN henabled.2.1 henabled.2.2 onLeave hkept
  | removeMountain target =>
      exact reshape_counted gen hquiet target .LAND (List.nil_subperm) (fun _ h => absurd h
        List.not_mem_nil) false hkept
  | prepareAfcLandingFootprint tile =>
      obtain ⟨hforest, hterrain⟩ := landedGround_spec gen s.ground tile
      exact reground_counted gen hquiet hforest hterrain hkept
  | clearForestOnTownOrDockTile tile =>
      have hregrown := clearForestAt_regrown gen s.ground tile
      exact reground_counted gen hquiet hregrown.growth
        (Or.inr ⟨hregrown.terrainEpoch, hregrown.terrain⟩) hkept

/-- **ADDING AND REMOVING CANCEL.**  Along every run that keeps the sight
of its standing sources: every refcount is the number of times the
standing sources cover the cell, a viewer without sources has empty
coverage, no leave edge names a cell that a source still covers, what a
removal would take is what the addition gave, and no removal has taken
more than was there. -/
theorem sources_cancel {ground : Ground W} {ops : List (TerrainOp W)} {s : TerrainVision W}
    (hrun : Run (HeldStep gen) (boot ground) ops s) :
    (∀ v cell, s.cache.refcount v cell = held s.sources v cell)
      ∧ (∀ v, (∀ src ∈ s.sources, src.viewerId ≠ v) → s.cache.visibleKeysForViewer v = [])
      ∧ (∀ v cell, VisionEdge.leave v cell ∈ s.cache.edges →
          ∀ src ∈ s.sources, src.viewerId = v → cell ∉ src.cells)
      ∧ (∀ src ∈ s.sources, (getOffsets gen s.ground src.tile src.radius s.table).1 = src.offsets)
      ∧ s.underflowed = false := by
  have hinv : Counted gen s := by
    refine Run.invariant (I := Counted gen) ?_ hrun (boot_counted gen ground)
    intro s op t hs hstep
    obtain ⟨henabled, hkept, rfl⟩ := hstep
    exact apply_counted gen hs op henabled hkept
  refine ⟨hinv.counts, ?_, ?_, ?_, hinv.clean⟩
  · intro v hnone
    apply VisibilityCoverageCache.visibleKeys_eq_nil
    intro cell
    rw [hinv.counts]
    exact held_eq_zero.mpr (fun src hsrc hv => absurd hv (hnone src hsrc))
  · intro v cell hleave
    have hzero := hinv.leaves v cell hleave
    rw [hinv.counts] at hzero
    exact held_eq_zero.mp hzero
  · intro src hsrc
    obtain ⟨hvalue, _⟩ := getOffsets_spec gen s.ground src.tile src.radius hinv.squares
      (lookupRadius_lt gen (hinv.fits src hsrc) s.ground src.tile).2.2
    exact hvalue.trans (hinv.answers src hsrc)

/-! ## §8. Two runs. -/

/-- No forest, no hills. -/
def plains : Worldgen smallestWorld := ⟨fun _ => false, fun _ => false, fun _ => false⟩

def pass : Ground smallestWorld where
  terrain := .ofEntries [(wrappedTile smallestWorld 9 10, .MOUNTAIN),
    (wrappedTile smallestWorld 11 10, .LAND), (wrappedTile smallestWorld 30 30, .LAND)]
  cleared := []
  terrainEpoch := 0
  forestClearingEpoch := 0

/-- A source of radius 2 beside the mountain: two cells lie behind it. -/
def lookout : VisionSource smallestWorld where
  viewerId := playerOne
  tile := wrappedTile smallestWorld 10 10
  radius := 2
  offsets := (squareOffsets 2).filter (fun d => decide (d ≠ (-2, -1) ∧ d ≠ (-2, 0)))

def afterLookout : TerrainVision smallestWorld :=
  (boot pass).apply plains (.addSource playerOne (wrappedTile smallestWorld 10 10) 2 true)

def afterMountain (x y : Int) : TerrainVision smallestWorld :=
  afterLookout.apply plains (.createMountain (wrappedTile smallestWorld x y) [] true)

def afterRemoval (x y : Int) : TerrainVision smallestWorld :=
  (afterMountain x y).apply plains (.removeSource lookout true)

/-- The lookout is added, a mountain rises, the lookout is removed. -/
def lookoutOps (x y : Int) : List (TerrainOp smallestWorld) :=
  [.addSource playerOne (wrappedTile smallestWorld 10 10) 2 true,
    .createMountain (wrappedTile smallestWorld x y) [] true, .removeSource lookout true]

set_option maxRecDepth 4000 in
theorem lookout_stands : afterLookout.sources = [lookout] := by decide

/-- With the mountain far away nothing is left of the lookout. -/
theorem sources_cancel_far_mountain :
    (afterRemoval 30 30).cache.visibleKeysForViewer playerOne = [] := by
  have hadd : HeldStep plains (boot pass)
      (.addSource playerOne (wrappedTile smallestWorld 10 10) 2 true) afterLookout :=
    ⟨trivial, ⟨by decide, by decide, by decide⟩, rfl⟩
  have hmountain : HeldStep plains afterLookout
      (.createMountain (wrappedTile smallestWorld 30 30) [] true) (afterMountain 30 30) := by
    refine ⟨⟨by decide, List.nil_subperm, fun _ h => absurd h List.not_mem_nil⟩, ?_, rfl⟩
    intro src hsrc
    have hsrc' : src ∈ afterLookout.sources := hsrc
    rw [lookout_stands, List.mem_singleton] at hsrc'
    rw [hsrc']
    apply Or.inr
    set_option maxRecDepth 4000 in
    decide
  have hstands : (afterMountain 30 30).sources = [lookout] := lookout_stands
  have hremove : HeldStep plains (afterMountain 30 30) (.removeSource lookout true)
      (afterRemoval 30 30) := by
    refine ⟨?_, trivial, rfl⟩
    show lookout ∈ (afterMountain 30 30).sources
    rw [hstands]
    exact List.mem_singleton_self _
  apply (sources_cancel plains (.cons hadd (.cons hmountain (.cons hremove (.nil _))))).2.1
  have hnone : (afterRemoval 30 30).sources = [] := by
    set_option maxRecDepth 4000 in
    decide
  intro src hsrc
  rw [hnone] at hsrc
  exact absurd hsrc List.not_mem_nil

set_option maxRecDepth 4000 in
/-- **A mountain in the lookout's view leaves ghost vision**: removed past
the new mountain, the lookout no longer reaches the two cells behind it,
and the player keeps seeing them with no source at all. -/
theorem mountain_leaves_ghost_vision :
    Run (Step plains) (boot pass) (lookoutOps 11 10) (afterRemoval 11 10)
      ∧ (afterRemoval 11 10).sources = []
      ∧ (afterRemoval 11 10).cache.visibleKeysForViewer playerOne
        = [wrappedTile smallestWorld 12 9, wrappedTile smallestWorld 12 10] := by
  have hadd : Step plains (boot pass)
      (.addSource playerOne (wrappedTile smallestWorld 10 10) 2 true) afterLookout :=
    ⟨trivial, rfl⟩
  have hmountain : Step plains afterLookout
      (.createMountain (wrappedTile smallestWorld 11 10) [] true) (afterMountain 11 10) :=
    ⟨⟨by decide, List.nil_subperm, fun _ h => absurd h List.not_mem_nil⟩, rfl⟩
  have hremove : Step plains (afterMountain 11 10) (.removeSource lookout true)
      (afterRemoval 11 10) := by
    refine ⟨?_, rfl⟩
    show lookout ∈ (afterMountain 11 10).sources
    decide
  exact ⟨.cons hadd (.cons hmountain (.cons hremove (.nil _))), by decide, by decide⟩

end TerrainVision

end BorderEmpires.Vision
