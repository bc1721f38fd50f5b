/-
  BorderEmpires.Reach.Geometry
  **REACH DISKS.**

  A reach anchor (a town, an outpost, a dock) covers the tiles around it.
  Without a land query, or for an anchor that crosses water, its disk is
  the wrapped Chebyshev square.  With one it is the flood of that square
  over LAND tiles: a water tile is included at the coast and never
  stepped across.
-/
import BorderEmpires.Lib.Worklist
import BorderEmpires.World

namespace BorderEmpires

/-! ## §1. Anchors. -/

def TOWN_REACH_RADIUS : Nat := 3
def OUTPOST_REACH_RADIUS : Nat := 5
def DOCK_REACH_RADIUS : Nat := 1

inductive ReachAnchorKind where
  | TOWN
  | OUTPOST
  | DOCK
  deriving DecidableEq, Repr

/-- One reach anchor.  `activatedAt` orders processing only;
`radiusOverride` and `guaranteedRadius` are the optional radii of bridge
landings and landed AFCs. -/
structure ReachAnchor where
  x : Int
  y : Int
  ownerId : PlayerId
  activatedAt : Int
  kind : ReachAnchorKind
  radiusOverride : Option Nat
  crossesWater : Bool
  guaranteedRadius : Option Nat
  deriving DecidableEq

def reachRadiusForKind : ReachAnchorKind → Nat
  | .TOWN => TOWN_REACH_RADIUS
  | .DOCK => DOCK_REACH_RADIUS
  | .OUTPOST => OUTPOST_REACH_RADIUS

def reachRadiusForAnchor (anchor : ReachAnchor) : Nat :=
  anchor.radiusOverride.getD (reachRadiusForKind anchor.kind)

variable {W : WorldSize}

abbrev LandConnectivityQuery (W : WorldSize) := TileKey W → Bool

/-- A plain anchor: no override, land-gated, nothing guaranteed but its own tile. -/
def ReachAnchor.plain (x y : Int) (ownerId : PlayerId) (activatedAt : Int)
    (kind : ReachAnchorKind) : ReachAnchor :=
  ⟨x, y, ownerId, activatedAt, kind, none, false, none⟩

def ReachAnchor.anchorTile (W : WorldSize) (anchor : ReachAnchor) : TileKey W :=
  wrappedTile W anchor.x anchor.y

/-! ## §2. Disks. -/

def squareTileKeys (W : WorldSize) (x y : Int) (radius : Nat) : List (TileKey W) :=
  let offsets := (List.range (2 * radius + 1)).map (fun i : Nat => (i : Int) - radius)
  offsets.flatMap (fun dy => offsets.map (fun dx => wrappedTile W (x + dx) (y + dy)))

/-- Flood from the anchor's tile inside the radius, stepping on over LAND. -/
def landGatedTileKeysInDisk (anchorX anchorY : Int) (radius : Nat)
    (isLand : LandConnectivityQuery W) : List (TileKey W) :=
  let a := wrappedTile W anchorX anchorY
  Worklist.flood TileKey.neighbors
    (fun n => !decide (chebyshevWithWrap W a.x.val a.y.val n.x.val n.y.val > radius))
    isLand (W.width * W.height) a

def tileKeysInReach (anchor : ReachAnchor)
    (landConnectivity : Option (LandConnectivityQuery W)) : List (TileKey W) :=
  let radius := reachRadiusForAnchor anchor
  match landConnectivity with
  | some isLand =>
      if anchor.crossesWater then squareTileKeys W anchor.x anchor.y radius
      else landGatedTileKeysInDisk anchor.x anchor.y radius isLand
  | none => squareTileKeys W anchor.x anchor.y radius

def guaranteedTileKeys (W : WorldSize) (anchor : ReachAnchor) : List (TileKey W) :=
  squareTileKeys W anchor.x anchor.y (anchor.guaranteedRadius.getD 0)

/-! ## §3. What a disk covers. -/

theorem mem_squareTileKeys_iff {x y : Int} {radius : Nat} {t : TileKey W} :
    t ∈ squareTileKeys W x y radius
      ↔ ∃ dx dy : Int, dx.natAbs ≤ radius ∧ dy.natAbs ≤ radius
          ∧ t = wrappedTile W (x + dx) (y + dy) := by
  have hoff : ∀ d : Int,
      d ∈ (List.range (2 * radius + 1)).map (fun i : Nat => (i : Int) - radius)
        ↔ d.natAbs ≤ radius := by
    intro d
    rw [List.mem_map]
    constructor
    · rintro ⟨i, hi, rfl⟩
      have := List.mem_range.mp hi
      omega
    · intro hd
      exact ⟨(d + radius).toNat, List.mem_range.mpr (by omega), by omega⟩
  simp only [squareTileKeys, List.mem_flatMap, List.mem_map (b := t)]
  constructor
  · rintro ⟨dy, hdy, dx, hdx, rfl⟩
    exact ⟨dx, dy, (hoff dx).mp hdx, (hoff dy).mp hdy, rfl⟩
  · rintro ⟨dx, dy, hdx, hdy, rfl⟩
    exact ⟨dy, (hoff dy).mpr hdy, dx, (hoff dx).mpr hdx, rfl⟩

/-- **The land-gated disk is land connectivity inside the radius.** -/
theorem mem_landGatedTileKeysInDisk_iff (anchorX anchorY : Int) (radius : Nat)
    (isLand : LandConnectivityQuery W) (t : TileKey W) :
    t ∈ landGatedTileKeysInDisk anchorX anchorY radius isLand
      ↔ Worklist.Floods TileKey.neighbors
          (fun n => !decide (chebyshevWithWrap W (wrappedTile W anchorX anchorY).x.val
            (wrappedTile W anchorX anchorY).y.val n.x.val n.y.val > radius))
          isLand (wrappedTile W anchorX anchorY) t :=
  Worklist.mem_flood_iff _ t _ (le_of_eq TileKey.card)

end BorderEmpires
