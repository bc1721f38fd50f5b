/-
  BorderEmpires.Docks.LandingIndex
  **WHERE A DOCK CROSSING MAY COME ASHORE.**

  The landing rule is written three times: as a test of one tile, as the
  list of a dock's landing ground, and as an index over all dock links
  that remembers the ground of a dock once it has listed it.  Coordinates
  are plain integers and the world has any two sides, so that the test and
  the list meet at the seam of the torus.
-/
import BorderEmpires.Lib.InsertionMap
import BorderEmpires.Lib.RingDistance
import BorderEmpires.March.Route

namespace BorderEmpires.DockLanding

open March (DOCK_LANDING_RADIUS CARDINAL_OFFSETS squareOffsets)

/-! ## §1. The landing rule. -/

/-- Any text but the two kinds of water counts as land-like; `none` is the
source's `undefined`. -/
abbrev LandingTerrainAt := Int → Int → Option String

def isWater (terrain : Option String) : Bool :=
  decide (terrain = some "SEA") || decide (terrain = some "COASTAL_SEA")

structure DockLandingOptions where
  worldWidth : ℕ
  worldHeight : ℕ
  radius : ℕ := DOCK_LANDING_RADIUS

def wrappedDistance (a b : Int) (size : ℕ) : Int :=
  let d : Int := (a - b).natAbs
  min d (size - d)

section Rule

variable (options : DockLandingOptions) (terrainAt : LandingTerrainAt)

def isCoastalGround (x y : Int) : Bool :=
  let terrain := terrainAt x y
  -- an empty text is as good as no terrain
  if terrain = none ∨ terrain = some "" ∨ isWater terrain = true then false
  else CARDINAL_OFFSETS.any fun d =>
    isWater (terrainAt (wrapCoord (x + d.1) options.worldWidth)
      (wrapCoord (y + d.2) options.worldHeight))

/-- The dock tile itself, or a coastal LAND tile within the radius of it. -/
def isDockLandingTile (dockX dockY tx ty : Int) : Bool :=
  if dockX = tx ∧ dockY = ty then true
  else if (options.radius : Int) < max (wrappedDistance dockX tx options.worldWidth)
      (wrappedDistance dockY ty options.worldHeight) then false
  else decide (terrainAt tx ty = some "LAND") && isCoastalGround options terrainAt tx ty

/-- The dock tile, then every coastal tile within the radius of it. -/
def dockLandingGroundCoords (dockX dockY : Int) : List (Int × Int) :=
  (dockX, dockY) :: (((squareOffsets options.radius).filter fun d => decide (d ≠ (0, 0))).map
    fun d => (wrapCoord (dockX + d.1) options.worldWidth,
      wrapCoord (dockY + d.2) options.worldHeight)).filter
      fun c => isCoastalGround options terrainAt c.1 c.2

end Rule

/-! ## §2. Test and list. -/

theorem mem_squareOffsets_iff {radius : ℕ} {d : Int × Int} :
    d ∈ squareOffsets radius ↔ d.1.natAbs ≤ radius ∧ d.2.natAbs ≤ radius := by
  simp only [squareOffsets, List.bind_eq_flatMap, List.pure_def, List.mem_flatMap, List.mem_map,
    List.mem_range, List.mem_singleton, Prod.ext_iff]
  constructor
  · rintro ⟨dy, ⟨j, hj, rfl⟩, dx, ⟨i, hi, rfl⟩, hx, hy⟩
    omega
  · intro h
    exact ⟨_, ⟨(d.2 + radius).toNat, by omega, rfl⟩, _, ⟨(d.1 + radius).toNat, by omega, rfl⟩,
      by omega, by omega⟩

section Rule

variable (options : DockLandingOptions) (terrainAt : LandingTerrainAt)
  (dockX tx : Fin options.worldWidth) (dockY ty : Fin options.worldHeight)

end Rule

/-! ## §3. The index. -/

/-- A key of the link map: the text of a tile, or one no tile is read from. -/
inductive DockTileKey where
  | tile (c : Int × Int)
  | unreadable (text : String)
  deriving DecidableEq

def parseKey : DockTileKey → Option (Int × Int)
  | .tile c => some c
  | .unreadable _ => none

/-- Keys by key, the inner ones in the order of a `Set`. -/
abbrev KeyLists := InsertionMap DockTileKey (List DockTileKey)

def listed (m : KeyLists) (key : DockTileKey) : List DockTileKey := (m.get key).getD []

def addEdge (edges : KeyLists) (source target : DockTileKey) : KeyLists :=
  match edges.get source with
  | some set => edges.set source (InsertionSet.add set target)
  | none => edges.set source [target]

theorem mem_listed_addEdge (edges : KeyLists) (source target key t : DockTileKey) :
    t ∈ listed (addEdge edges source target) key
      ↔ t ∈ listed edges key ∨ (key = source ∧ t = target) := by
  by_cases hkey : source = key
  · subst hkey
    cases hget : edges.get source with
    | none => simp [listed, addEdge, hget]
    | some set => simp [listed, addEdge, hget, InsertionSet.mem_add]
  · have hne : key ≠ source := Ne.symm hkey
    unfold listed addEdge
    split <;> simp [InsertionMap.get_set_ne _ hkey, hne]

structure DockLandingIndex where
  landingTileKeysByOriginDockKey : KeyLists
  seaLaneNeighborKeysByTileKey : KeyLists

/-- What `buildDockLandingIndex` writes to as it goes. -/
structure Build where
  groundByDockKey : KeyLists
  landing : KeyLists
  seaLane : KeyLists

section Index

variable (options : DockLandingOptions) (terrainAt : LandingTerrainAt)

def landingGroundKeys (dockKey : DockTileKey) : List DockTileKey :=
  match parseKey dockKey with
  | some (x, y) => (dockLandingGroundCoords options terrainAt x y).map .tile
  | none => []

def groundFor (build : Build) (dockKey : DockTileKey) : List DockTileKey × Build :=
  match build.groundByDockKey.get dockKey with
  | some cached => (cached, build)
  | none =>
      let keys := landingGroundKeys options terrainAt dockKey
      (keys, { build with groundByDockKey := build.groundByDockKey.set dockKey keys })

def addLanding (originKey : DockTileKey) (build : Build) (landingKey : DockTileKey) : Build :=
  if landingKey = originKey then build
  else
    { build with
      landing := addEdge build.landing originKey landingKey
      seaLane := addEdge (addEdge build.seaLane originKey landingKey) landingKey originKey }

def addLinked (originKey : DockTileKey) (build : Build) (linkedKey : DockTileKey) : Build :=
  let (ground, build) := groundFor options terrainAt build linkedKey
  ground.foldl (addLanding originKey) build

/-- The sets are handed out as lists in their own order. -/
def buildDockLandingIndex (dockLinksByDockTileKey : KeyLists) : DockLandingIndex :=
  let build := dockLinksByDockTileKey.entries.foldl
    (fun build entry => entry.2.foldl (addLinked options terrainAt entry.1) build)
    ⟨.empty, .empty, .empty⟩
  ⟨build.landing, build.seaLane⟩

/-- The build after the edges `added`: the grounds it remembers are right,
and its two maps hold those edges, the sea lanes both ways. -/
structure Built (build : Build) (added : List (DockTileKey × DockTileKey)) : Prop where
  ground : ∀ key keys, build.groundByDockKey.get key = some keys →
    keys = landingGroundKeys options terrainAt key
  landing : ∀ key t, t ∈ listed build.landing key ↔ (key, t) ∈ added
  seaLane : ∀ key t, t ∈ listed build.seaLane key ↔ (key, t) ∈ added ∨ (t, key) ∈ added

/-- What a pass over one landing key adds. -/
def edgeOf (originKey landingKey : DockTileKey) : List (DockTileKey × DockTileKey) :=
  if landingKey = originKey then [] else [(originKey, landingKey)]

variable {options terrainAt} {build : Build} {added : List (DockTileKey × DockTileKey)}

theorem Built.foldl {α : Type} {step : Build → α → Build}
    {edges : α → List (DockTileKey × DockTileKey)} (l : List α)
    (hstep : ∀ build added x, Built options terrainAt build added →
      Built options terrainAt (step build x) (added ++ edges x)) :
    ∀ {build added}, Built options terrainAt build added →
      Built options terrainAt (l.foldl step build) (added ++ l.flatMap edges) := by
  induction l with
  | nil =>
      intro build added h
      simpa using h
  | cons x l ih =>
      intro build added h
      have htail := ih (hstep build added x h)
      rwa [List.append_assoc, ← List.flatMap_cons] at htail

theorem Built.addLanding (h : Built options terrainAt build added)
    (originKey landingKey : DockTileKey) :
    Built options terrainAt (addLanding originKey build landingKey)
      (added ++ edgeOf originKey landingKey) := by
  unfold DockLanding.addLanding edgeOf
  by_cases hself : landingKey = originKey
  · simpa [hself] using h
  · rw [if_neg hself, if_neg hself]
    refine ⟨h.ground, fun key t => ?_, fun key t => ?_⟩
    · rw [mem_listed_addEdge, h.landing]
      simp
    · rw [mem_listed_addEdge, mem_listed_addEdge, h.seaLane]
      simp only [List.mem_append, List.mem_singleton, Prod.mk.injEq]
      tauto

theorem Built.groundFor (h : Built options terrainAt build added) (dockKey : DockTileKey) :
    (groundFor options terrainAt build dockKey).1 = landingGroundKeys options terrainAt dockKey
      ∧ Built options terrainAt (groundFor options terrainAt build dockKey).2 added := by
  unfold DockLanding.groundFor
  cases hget : build.groundByDockKey.get dockKey with
  | some cached => exact ⟨h.ground _ _ hget, h⟩
  | none =>
      refine ⟨rfl, fun key keys hkeys => ?_, h.landing, h.seaLane⟩
      rcases (InsertionMap.get_set_eq_some _ _ _ _ _).mp hkeys with ⟨rfl, rfl⟩ | ⟨-, hold⟩
      · rfl
      · exact h.ground _ _ hold

theorem Built.addLinked (h : Built options terrainAt build added)
    (originKey linkedKey : DockTileKey) :
    Built options terrainAt (addLinked options terrainAt originKey build linkedKey)
      (added ++ (landingGroundKeys options terrainAt linkedKey).flatMap (edgeOf originKey)) := by
  obtain ⟨hground, hbuilt⟩ := h.groundFor linkedKey
  show Built options terrainAt ((DockLanding.groundFor options terrainAt build linkedKey).1.foldl
    (DockLanding.addLanding originKey) _) _
  rw [hground]
  exact Built.foldl _ (fun _ _ landingKey hb => hb.addLanding originKey landingKey) hbuilt

variable (options terrainAt) (links : KeyLists)

/-- The edges of a whole build. -/
def allEdges : List (DockTileKey × DockTileKey) :=
  links.entries.flatMap fun entry => entry.2.flatMap fun linkedKey =>
    (landingGroundKeys options terrainAt linkedKey).flatMap (edgeOf entry.1)

theorem buildDockLandingIndex_listed (key t : DockTileKey) :
    let index := buildDockLandingIndex options terrainAt links
    (t ∈ listed index.landingTileKeysByOriginDockKey key
        ↔ (key, t) ∈ allEdges options terrainAt links)
      ∧ (t ∈ listed index.seaLaneNeighborKeysByTileKey key
        ↔ (key, t) ∈ allEdges options terrainAt links
          ∨ (t, key) ∈ allEdges options terrainAt links) := by
  have hstart : Built options terrainAt ⟨.empty, .empty, .empty⟩ [] :=
    ⟨fun _ _ h => by simp at h, by simp [listed], by simp [listed]⟩
  have hall := Built.foldl links.entries (fun _ _ entry hb =>
    Built.foldl entry.2 (fun _ _ linkedKey hb => hb.addLinked entry.1 linkedKey) hb) hstart
  exact ⟨hall.landing key t, hall.seaLane key t⟩

end Index

end BorderEmpires.DockLanding
