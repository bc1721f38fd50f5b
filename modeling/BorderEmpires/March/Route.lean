/-
  BorderEmpires.March.Route
  **THE ROUTE OF A MARCH, AND THE WAY BACK FROM ITS TARGET.**

  A march's distances are flooded out of its target, and its path is then
  traced from the flag to ever smaller distances.  The flood and the trace
  both follow the crossings of a tile in the direction they can be used:
  the flood counts moves away from the target, the trace takes moves
  towards it.  A dock lands on the ground around the docks it links to, and
  that ground does not cross back.
-/
import BorderEmpires.Lib.BreadthFirst
import BorderEmpires.World
import Mathlib.Algebra.Order.Monoid.Unbundled.WithTop
import Mathlib.Data.List.Chain

namespace BorderEmpires.March

open BreadthFirst

variable {W : WorldSize}

/-! ## §1. Dock landings and bridges. -/

def DOCK_LANDING_RADIUS : ℕ := 1

abbrev TerrainAt (W : WorldSize) := TileKey W → Option Terrain

def isWater (terrain : Option Terrain) : Bool :=
  decide (terrain = some .SEA) || decide (terrain = some .COASTAL_SEA)

def CARDINAL_OFFSETS : List (Int × Int) := [(0, -1), (1, 0), (0, 1), (-1, 0)]

def isCoastalGround (terrainAt : TerrainAt W) (key : TileKey W) : Bool :=
  (terrainAt key).isSome && !isWater (terrainAt key)
    && CARDINAL_OFFSETS.any fun d => isWater (terrainAt (key.shift d))

def squareOffsets (radius : ℕ) : List (Int × Int) :=
  (List.range (2 * radius + 1)).flatMap fun dy =>
    (List.range (2 * radius + 1)).map fun dx => ((dx : Int) - radius, (dy : Int) - radius)

def dockLandingGroundCoords (terrainAt : TerrainAt W) (dock : TileKey W) : List (TileKey W) :=
  dock :: (((squareOffsets DOCK_LANDING_RADIUS).filter fun d => decide (d ≠ (0, 0))).map
    dock.shift).filter (isCoastalGround terrainAt)

structure ActiveAetherBridge (W : WorldSize) where
  source : TileKey W
  target : TileKey W

/-- The crossings of a world, as the runtime links them: dock links go both
ways, and the landing ground is read off the terrain the world booted with. -/
structure Crossings (W : WorldSize) where
  dockLinks : TileKey W → List (TileKey W)
  dockLinks_symm : ∀ a b, b ∈ dockLinks a → a ∈ dockLinks b
  bootTerrain : TerrainAt W
  bridges : List (ActiveAetherBridge W)

/-- `landingTileKeysByOriginDockKey.get(originKey)`. -/
def landingTileKeys (crossings : Crossings W) (originKey : TileKey W) : List (TileKey W) :=
  InsertionSet.addAll [] (((crossings.dockLinks originKey).flatMap
    (dockLandingGroundCoords crossings.bootTerrain)).filter fun key => decide (key ≠ originKey))

/-- `activeAetherBridgeNeighborKeysForPlayer(..).get(key)`. -/
def bridgeNeighborKeys (bridges : List (ActiveAetherBridge W)) (key : TileKey W) :
    List (TileKey W) :=
  bridges.flatMap fun bridge =>
    (if bridge.source = key then [bridge.target] else [])
      ++ (if bridge.target = key then [bridge.source] else [])

def crossingKeysFor (crossings : Crossings W) (key : TileKey W) : List (TileKey W) :=
  landingTileKeys crossings key ++ bridgeNeighborKeys crossings.bridges key

/-! ## §2. The plan. -/

/-- `MarchRoutePlanInput`, less what keys the cache. -/
structure MarchRoutePlanInput (W : WorldSize) where
  tiles : TerrainAt W
  flag : TileKey W
  target : TileKey W
  crossings : Crossings W

/-- The 8 neighbours, then the crossings: where a march may step. -/
def nextKeys (crossings : Crossings W) (key : TileKey W) : List (TileKey W) :=
  key.neighbors ++ crossingKeysFor crossings key

def isLand (tiles : TerrainAt W) (key : TileKey W) : Bool := decide (tiles key = some .LAND)

def MUSTER_MARCH_MAX_DISTANCE_TILES : ℕ := 30
def MUSTER_MARCH_MAX_ROUTE_STEPS : ℕ := 2 * MUSTER_MARCH_MAX_DISTANCE_TILES

/-- The flood out of the root; a refused tile is not looked at twice there,
which changes nothing. -/
def buildTerrainDistanceField (root : TileKey W) (tiles : TerrainAt W) (maxSteps : ℕ)
    (stopAtKey : TileKey W) (crossings : Crossings W) : InsertionMap (TileKey W) ℕ :=
  flood (nextKeys crossings) (isLand tiles) (some stopAtKey) maxSteps (W.width * W.height) root

def wrappedDelta (a b : Int) (size : ℕ) : Int :=
  let raw := wrapCoord (b - a) size
  if 2 * raw > size then raw - size else raw

/-- `deviationFromMarchLine` times the length of the line, which is the same
for every tile: as a tiebreak the two order tiles alike. -/
def deviationFromMarchLine (flag target p : TileKey W) : ℕ :=
  let vx := wrappedDelta flag.x.val target.x.val W.width
  let vy := wrappedDelta flag.y.val target.y.val W.height
  let cx := wrappedDelta flag.x.val p.x.val W.width
  let cy := wrappedDelta flag.y.val p.y.val W.height
  (cx * vy - cy * vx).natAbs

structure NextStep (W : WorldSize) where
  key : TileKey W
  dist : WithTop ℕ
  deviation : ℕ

section Trace

variable (distanceToTarget : TileKey W → WithTop ℕ) (passable : TileKey W → Bool)
  (deviation : TileKey W → ℕ)

def consider (dist : WithTop ℕ) (next : Option (NextStep W)) (key : TileKey W) :
    Option (NextStep W) :=
  if distanceToTarget key < dist ∧ passable key = true then
    match next with
    | none => some ⟨key, distanceToTarget key, deviation key⟩
    | some best =>
        if distanceToTarget key < best.dist
            ∨ (distanceToTarget key = best.dist ∧ deviation key < best.deviation) then
          some ⟨key, distanceToTarget key, deviation key⟩
        else some best
  else next

variable (crossings : Crossings W)

def traceFrom : ℕ → TileKey W → List (TileKey W) → List (TileKey W)
  | 0, _, path => path
  | steps + 1, key, path =>
      if distanceToTarget key = 0 then path
      else
        match (nextKeys crossings key).foldl
            (consider distanceToTarget passable deviation (distanceToTarget key)) none with
        | none => path
        | some next => traceFrom steps next.key (InsertionSet.add path next.key)

end Trace

def traceMarchPath (flag target : TileKey W) (distanceToTarget : TileKey W → WithTop ℕ)
    (crossings : Crossings W) (maxSteps : ℕ) (passable : TileKey W → Bool) : List (TileKey W) :=
  traceFrom distanceToTarget passable (deviationFromMarchLine flag target) crossings maxSteps flag
    [flag]

def MARCH_PATH_BAND_RADIUS : ℕ := 1
def MARCH_WALK_BAND_RADIUS : ℕ := 2

def bandAroundPath (path : List (TileKey W)) (radius : ℕ) : List (TileKey W) :=
  InsertionSet.addAll [] (path.flatMap fun key => (squareOffsets radius).map key.shift)

structure PlannedRoute (W : WorldSize) where
  field : InsertionMap (TileKey W) ℕ
  path : List (TileKey W)
  pathBand : List (TileKey W)
  walkBand : List (TileKey W)

def isPassable (tiles : TerrainAt W) (key : TileKey W) : Bool :=
  (tiles key).all fun terrain => decide (terrain = .LAND)

/-- Off the field a tile is at least as far as a flag the flood reached;
else its distance is the straight line. -/
def distanceFrom (field : InsertionMap (TileKey W) ℕ) (flag target key : TileKey W) : WithTop ℕ :=
  match field.get key with
  | some d => d
  | none =>
      if field.has flag then ⊤
      else ((chebyshevWithWrap W key.x.val key.y.val target.x.val target.y.val).toNat : ℕ)

def planRoute (input : MarchRoutePlanInput W) : PlannedRoute W :=
  let field := buildTerrainDistanceField input.target input.tiles
    (MUSTER_MARCH_MAX_ROUTE_STEPS + 2) input.flag input.crossings
  let path := traceMarchPath input.flag input.target
    (distanceFrom field input.flag input.target) input.crossings
    (MUSTER_MARCH_MAX_ROUTE_STEPS + 2) (isPassable input.tiles)
  ⟨field, path, bandAroundPath path MARCH_PATH_BAND_RADIUS,
    bandAroundPath path MARCH_WALK_BAND_RADIUS⟩

/-- A live entry of the cache: the route an earlier call planned between the
same two tiles. -/
structure CachedRoute (W : WorldSize) (flag target : TileKey W) where
  plannedFrom : MarchRoutePlanInput W
  flag_eq : plannedFrom.flag = flag
  target_eq : plannedFrom.target = target

def pathStillPassable (tiles : TerrainAt W) (flag : TileKey W) (route : PlannedRoute W) : Bool :=
  route.path.all fun key => decide (key = flag) || isPassable tiles key

/-- The ground the plan in use was made from: an earlier call's while its
path is still passable, else this call's. -/
def plannedFrom (input : MarchRoutePlanInput W)
    (hit : Option (CachedRoute W input.flag input.target)) : MarchRoutePlanInput W :=
  match hit with
  | some cached =>
      if pathStillPassable input.tiles input.flag (planRoute cached.plannedFrom) then
        cached.plannedFrom
      else input
  | none => input

section Reached

variable {input : MarchRoutePlanInput W} {R : ℕ}
  (hR : (planRoute input).field.get input.flag = some R)

end Reached

end BorderEmpires.March
