/-
  BorderEmpires.Waypoints.Tiles
  **WHAT THE WAYPOINT PLANNER SEES OF A TILE.**

  The planner's view of the map, the class it puts a tile in, the landing
  ground a dock crossing may come ashore on, and what a step costs.
-/
import Mathlib.Algebra.Field.Rat
import Mathlib.Algebra.Order.Ring.Rat
import Mathlib.Data.Rat.Floor
import BorderEmpires.Encirclement
import BorderEmpires.Lib.RingDistance
import BorderEmpires.Vision.Footprints

namespace BorderEmpires.Waypoints

open Encirclement (FrontierDecayKind)
open Vision (Worldgen Ground)

variable {W : WorldSize}

/-! ## §1. Constants. -/

def COMBAT_LOCK_MS : ℚ := 15000
def FRONTIER_CLAIM_COST : ℚ := 0
def FRONTIER_CLAIM_MS : ℚ := 7500
def FOREST_FRONTIER_CLAIM_MULT : ℚ := 3 / 2
def HILLS_FRONTIER_CLAIM_PENALTY_MS : ℚ := 3750
def EXPAND_MANPOWER_COST : ℚ := 10
def ENCIRCLEMENT_DECAY_MS : Int := 60000
def TURN_PENALTY_MS : ℚ := 1

/-- How long an EXPAND onto a tile takes. -/
def frontierClaimDurationMsAt (gen : Worldgen W) (ground : Ground W) (t : TileKey W) : ℚ :=
  (if ground.isForestTileAt gen t then FRONTIER_CLAIM_MS * FOREST_FRONTIER_CLAIM_MULT
    else FRONTIER_CLAIM_MS)
    + (if ground.isHillsTileAt gen t then HILLS_FRONTIER_CLAIM_PENALTY_MS else 0)

theorem frontierClaimDurationMsAt_ge (gen : Worldgen W) (ground : Ground W) (t : TileKey W) :
    FRONTIER_CLAIM_MS ≤ frontierClaimDurationMsAt gen ground t := by
  have hforest : FRONTIER_CLAIM_MS ≤ FRONTIER_CLAIM_MS * FOREST_FRONTIER_CLAIM_MULT := by
    decide +kernel
  have hhills : (0 : ℚ) ≤ HILLS_FRONTIER_CLAIM_PENALTY_MS := by decide +kernel
  unfold frontierClaimDurationMsAt
  refine le_trans (le_of_eq (add_zero _).symm) (add_le_add ?_ ?_)
  · split
    · exact hforest
    · exact le_refl _
  · split
    · exact hhills
    · exact le_refl _

/-! ## §2. The view of the map. -/

inductive FortVariant where
  | PALISADE | FORT | TITANIUM_BASTION | THUNDER_BASTION
  deriving DecidableEq, Repr

inductive FortStatus where
  | under_construction | active | removing
  deriving DecidableEq, Repr

structure WaypointFort where
  attackCommitmentMult : Option ℚ
  status : Option FortStatus
  variant : Option FortVariant
  upgradingFrom : Option FortVariant
  deriving DecidableEq

/-- A tile of the view; its coordinates are the key it is kept under. -/
structure WaypointPlannerTile extends TileOwnership where
  terrain : Terrain
  fogged : Bool
  frontierDecayAt : Option Int
  frontierDecayKind : Option FrontierDecayKind
  fort : Option WaypointFort
  deriving DecidableEq

/-- Two linked docks. -/
structure DockPair (W : WorldSize) where
  a : TileKey W
  b : TileKey W

structure Truce where
  otherPlayerId : Option PlayerId
  endsAt : Option Int

structure WaypointPlannerState (W : WorldSize) where
  domainIds : List String
  me : Option PlayerId
  tiles : InsertionMap (TileKey W) WaypointPlannerTile
  dockPairs : List (DockPair W)
  allies : List PlayerId
  activeTruces : List Truce
  expandManpowerCost : Option ℚ

/-- The players a truce is in force with: no end, or one not yet past. -/
def truceTargetIdsOf (me : Option PlayerId) (activeTruces : List Truce) (now : Int) :
    List PlayerId :=
  if me.isNone then []
  else
    activeTruces.filterMap fun truce =>
      match truce.endsAt with
      | some endsAt => if endsAt ≠ 0 ∧ endsAt < now then none else truce.otherPlayerId
      | none => truce.otherPlayerId

/-! ## §3. Classes of tiles. -/

/-- An encircled frontier tile, which no action may start from. -/
def isFrontierOriginCutOff (tile : WaypointPlannerTile) (nowMs : Int) : Bool :=
  if tile.ownershipState ≠ some .FRONTIER then false
  else
    match tile.frontierDecayAt with
    | none => false
    | some frontierDecayAt =>
        if tile.frontierDecayKind ≠ some .ENCIRCLEMENT then false
        else
          let remaining := frontierDecayAt - nowMs
          decide (0 < remaining ∧ remaining ≤ ENCIRCLEMENT_DECAY_MS)

inductive ClassifiedTile where
  | OWN
  | NEUTRAL (durationMs : ℚ)
  | ENEMY (durationMs : ℚ)
  | IMPASSABLE
  deriving DecidableEq

/-- What the class costs to enter: `kind === "OWN" ? 0 : durationMs`. -/
def ClassifiedTile.durationMs : ClassifiedTile → ℚ
  | OWN => 0
  | NEUTRAL durationMs => durationMs
  | ENEMY durationMs => durationMs
  | IMPASSABLE => 0

def ClassifiedTile.isNeutral : ClassifiedTile → Bool
  | NEUTRAL _ => true
  | _ => false

/-- What a classification depends on besides the tile. -/
structure Classifier (W : WorldSize) where
  me : PlayerId
  attackDurationMs : ℚ
  alliedPlayerIds : List PlayerId
  truceTargetIds : List PlayerId
  expandDurationMsAt : TileKey W → ℚ
  now : Int

/-- `classifyTile` on a tile that is there. -/
def classifyTile (c : Classifier W) (tile : WaypointPlannerTile) (t : TileKey W) : ClassifiedTile :=
  if tile.terrain ≠ .LAND then .IMPASSABLE
  else
    match tile.ownerId with
    | none => .NEUTRAL (c.expandDurationMsAt t)
    | some ownerId =>
        if ownerId = c.me then
          if isFrontierOriginCutOff tile c.now then .IMPASSABLE else .OWN
        else if ownerId ∈ c.alliedPlayerIds then .IMPASSABLE
        else if ownerId ∈ c.truceTargetIds then .IMPASSABLE
        else .ENEMY c.attackDurationMs

/-- Undiscovered ground counts as neutral land. -/
def classifyForSearch (c : Classifier W) (tile : Option WaypointPlannerTile) (t : TileKey W) :
    ClassifiedTile :=
  match tile with
  | none => .NEUTRAL (c.expandDurationMsAt t)
  | some tile => classifyTile c tile t

def isSource (me : PlayerId) (now : Int) (tile : WaypointPlannerTile) : Bool :=
  decide (tile.ownerId = some me) && decide (tile.terrain = .LAND)
    && !isFrontierOriginCutOff tile now

theorem classifyTile_eq_OWN_iff (c : Classifier W) (tile : WaypointPlannerTile)
    (t : TileKey W) : classifyTile c tile t = .OWN ↔ isSource c.me c.now tile = true := by
  unfold classifyTile isSource
  by_cases hland : tile.terrain = .LAND
  · cases howner : tile.ownerId with
    | none => simp [hland]
    | some ownerId =>
        by_cases hme : ownerId = c.me
        · cases hcut : isFrontierOriginCutOff tile c.now <;> simp [hland, hme]
        · by_cases hally : ownerId ∈ c.alliedPlayerIds
          · simp [hland, hme, hally]
          · by_cases htruce : ownerId ∈ c.truceTargetIds
            · simp [hland, hme, hally, htruce]
            · simp [hland, hme, hally, htruce]
  · simp [hland]

/-- **A tile is ENEMY exactly when it is another player's land, protected
by neither alliance nor truce.** -/
theorem classifyTile_eq_ENEMY_iff (c : Classifier W) (tile : WaypointPlannerTile)
    (t : TileKey W) (durationMs : ℚ) :
    classifyTile c tile t = .ENEMY durationMs ↔
      tile.terrain = .LAND ∧ durationMs = c.attackDurationMs
        ∧ ∃ ownerId, tile.ownerId = some ownerId ∧ ownerId ≠ c.me
          ∧ ownerId ∉ c.alliedPlayerIds ∧ ownerId ∉ c.truceTargetIds := by
  unfold classifyTile
  by_cases hland : tile.terrain = .LAND
  · cases howner : tile.ownerId with
    | none => simp [hland]
    | some ownerId =>
        by_cases hme : ownerId = c.me
        · cases hcut : isFrontierOriginCutOff tile c.now <;> simp [hland, hme]
        · by_cases hally : ownerId ∈ c.alliedPlayerIds
          · simp [hland, hme, hally]
          · by_cases htruce : ownerId ∈ c.truceTargetIds
            · simp [hland, hme, hally, htruce]
            · simp [hland, hme, hally, htruce, eq_comm]
  · simp [hland]

/-! ## §4. Landing ground. -/

def DOCK_LANDING_RADIUS : Nat := 1

def isWater : Option Terrain → Bool
  | some .SEA => true
  | some .COASTAL_SEA => true
  | _ => false

def CARDINAL_OFFSETS : List (Int × Int) := [(0, -1), (1, 0), (0, 1), (-1, 0)]

def isCoastalGround (terrainAt : TileKey W → Option Terrain) (t : TileKey W) : Bool :=
  (terrainAt t).isSome && !isWater (terrainAt t)
    && CARDINAL_OFFSETS.any (fun d => isWater (terrainAt (t.shift d)))

def wrappedDistance (a b size : Nat) : Int :=
  let d : Int := ((a : Int) - b).natAbs
  min d (size - d)

/-- The dock itself, or a coastal LAND tile within the landing radius. -/
def isDockLandingTile (terrainAt : TileKey W → Option Terrain) (dock t : TileKey W) : Bool :=
  if dock = t then true
  else if (DOCK_LANDING_RADIUS : Int) < max (wrappedDistance dock.x t.x W.width)
      (wrappedDistance dock.y t.y W.height) then false
  else decide (terrainAt t = some .LAND) && isCoastalGround terrainAt t

/-- The ring around a dock, in the order of the loops over `dy` and `dx`. -/
def LANDING_OFFSETS : List (Int × Int) :=
  [(-1, -1), (0, -1), (1, -1), (-1, 0), (1, 0), (-1, 1), (0, 1), (1, 1)]

def dockLandingGroundCoords (terrainAt : TileKey W → Option Terrain) (dock : TileKey W) :
    List (TileKey W) :=
  dock :: (LANDING_OFFSETS.map dock.shift).filter (isCoastalGround terrainAt)

theorem mem_LANDING_OFFSETS_iff {d : Int × Int} :
    d ∈ LANDING_OFFSETS ↔ d.1.natAbs ≤ 1 ∧ d.2.natAbs ≤ 1 ∧ d ≠ (0, 0) := by
  constructor
  · have hall : ∀ e ∈ LANDING_OFFSETS, e.1.natAbs ≤ 1 ∧ e.2.natAbs ≤ 1 ∧ e ≠ (0, 0) := by decide
    exact hall d
  · obtain ⟨dx, dy⟩ := d
    rintro ⟨hx, hy, hne⟩
    have hxs : dx = -1 ∨ dx = 0 ∨ dx = 1 := by omega
    have hys : dy = -1 ∨ dy = 0 ∨ dy = 1 := by omega
    rcases hxs with rfl | rfl | rfl <;> rcases hys with rfl | rfl | rfl <;>
      first | decide | exact absurd rfl hne

/-- **Where the planner lets a crossing land, the shared landing rule lets
it land**, once the tile is LAND or the dock itself. -/
theorem isDockLandingTile_of_mem {terrainAt : TileKey W → Option Terrain} {dock t : TileKey W}
    (h : t ∈ dockLandingGroundCoords terrainAt dock) (hland : ∀ x, terrainAt t = some x → x = .LAND) :
    isDockLandingTile terrainAt dock t = true := by
  unfold isDockLandingTile
  by_cases heq : dock = t
  · rw [if_pos heq]
  · rw [if_neg heq]
    rcases List.mem_cons.mp h with hdock | hring
    · exact absurd hdock.symm heq
    · obtain ⟨hmem, hcoast⟩ := List.mem_filter.mp hring
      obtain ⟨d, hd, rfl⟩ := List.mem_map.mp hmem
      obtain ⟨hdx, hdy, -⟩ := mem_LANDING_OFFSETS_iff.mp hd
      have hx := RingDistance.le_of_offset hdx (dock.shift_x_emod d)
      have hy := RingDistance.le_of_offset hdy (dock.shift_y_emod d)
      have hnear : ¬ (DOCK_LANDING_RADIUS : Int)
          < max (wrappedDistance dock.x (dock.shift d).x W.width)
            (wrappedDistance dock.y (dock.shift d).y W.height) := by
        simp only [wrappedDistance, DOCK_LANDING_RADIUS]
        omega
      rw [if_neg hnear, hcoast, Bool.and_true, decide_eq_true_eq]
      -- coastal ground is discovered ground
      have hsome : (terrainAt (dock.shift d)).isSome = true := by
        unfold isCoastalGround at hcoast
        rw [Bool.and_eq_true, Bool.and_eq_true] at hcoast
        exact hcoast.1.1
      obtain ⟨x, hx'⟩ := Option.isSome_iff_exists.mp hsome
      rw [hx', hland x hx']

/-- **Where the shared landing rule lets a crossing land, the planner has
the tile among its landing ground.** -/
theorem mem_landingGround_of_isDockLandingTile {terrainAt : TileKey W → Option Terrain}
    {dock t : TileKey W} (h : isDockLandingTile terrainAt dock t = true) :
    t ∈ dockLandingGroundCoords terrainAt dock := by
  unfold isDockLandingTile at h
  by_cases heq : dock = t
  · rw [heq]
    exact List.mem_cons_self
  · rw [if_neg heq] at h
    by_cases hfar : (DOCK_LANDING_RADIUS : Int) < max (wrappedDistance dock.x t.x W.width)
        (wrappedDistance dock.y t.y W.height)
    · rw [if_pos hfar] at h
      cases h
    · rw [if_neg hfar, Bool.and_eq_true] at h
      have hnear := max_le_iff.mp (not_lt.mp hfar)
      simp only [wrappedDistance, DOCK_LANDING_RADIUS] at hnear
      obtain ⟨dx, hdx, hxmod⟩ : ∃ d : Int, d.natAbs ≤ 1
          ∧ (t.x.val : Int) % W.width = (dock.x.val + d) % W.width :=
        RingDistance.offset_of_le (by omega) (by omega)
      obtain ⟨dy, hdy, hymod⟩ : ∃ d : Int, d.natAbs ≤ 1
          ∧ (t.y.val : Int) % W.height = (dock.y.val + d) % W.height :=
        RingDistance.offset_of_le (by omega) (by omega)
      have hshift : dock.shift (dx, dy) = t :=
        (wrappedTile_congr hxmod.symm hymod.symm).trans (wrappedTile_self t)
      have hne : (dx, dy) ≠ (0, 0) := by
        intro hzero
        obtain ⟨rfl, rfl⟩ := Prod.mk.inj hzero
        apply heq
        rw [← hshift]
        show dock = wrappedTile W (dock.x.val + 0) (dock.y.val + 0)
        rw [add_zero, add_zero, wrappedTile_self]
      refine List.mem_cons_of_mem _ (List.mem_filter.mpr ⟨?_, h.2⟩)
      exact List.mem_map.mpr ⟨(dx, dy), mem_LANDING_OFFSETS_iff.mpr ⟨hdx, hdy, hne⟩, hshift⟩

/-! ## §5. What a step costs. -/

def requiredMusterForFort : Option FortVariant → ℚ
  | none => 60
  | some .PALISADE => 150
  | some .FORT => 300
  | some .TITANIUM_BASTION => 480
  | some .THUNDER_BASTION => 960

/-- The tier a fort is defending as right now. -/
def defendingFortVariant (fort : Option WaypointFort) : Option FortVariant :=
  match fort with
  | none => none
  | some fort =>
      match fort.status with
      | some .active => fort.variant
      | some .under_construction => fort.upgradingFrom
      | _ => none

/-- `AFC_VANGUARD[3].effects.fortAttackManpowerCostMult`. -/
def fortAttackManpowerCostMult : ℚ := 1 / 2

def requiredMusterForTarget (tile : Option WaypointPlannerTile) (domainIds : List String) : ℚ :=
  let fort := defendingFortVariant (tile.bind (·.fort))
  let sapper :=
    if fort.isSome ∧ "afc-vanguard-4" ∈ domainIds then fortAttackManpowerCostMult else 1
  let commitment :=
    if fort.isSome then
      ((tile.bind (·.fort)).bind (·.attackCommitmentMult)).getD 1
    else 1
  max 1 (⌈requiredMusterForFort fort * commitment * sapper⌉ : Int)

end BorderEmpires.Waypoints
