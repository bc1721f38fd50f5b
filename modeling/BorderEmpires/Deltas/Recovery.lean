/-
  BorderEmpires.Deltas.Recovery
  **TILES RECOVERED FROM THEIR DELTAS.**

  After a restart the deltas of the event log are folded over the tiles of
  the snapshot.  Most fields honour a clear: a field that is present but
  empty is dropped.  The resource, the dock and the prospect signature are
  kept instead, scars and wrecks are recovered in pairs only, and a town is
  spread over the town that was there.

  The biome of a tile is never in a delta and is left out.
-/
import BorderEmpires.Deltas.StringifyCache

namespace BorderEmpires.Deltas

/-! ## §1. Reading a delta. -/

def WireValue.plain? : WireValue → Option JsonValue
  | .plain value => some value
  | .json _ => none

def WireValue.object? : WireValue → Option JsonObject
  | .plain _ => none
  | .json object => some object

/-- `field in delta`, with the plain value that is there. -/
def plainIn (delta : Patch WireField WireValue) (f : WireField) : Option (Option JsonValue) :=
  (delta f).map (fun x => x.bind WireValue.plain?)

/-- `field in delta`, with the object that its JSON parses to. -/
def objectIn (delta : Patch WireField WireValue) (f : WireField) : Option (Option JsonObject) :=
  (delta f).map (fun x => x.bind WireValue.object?)

def JsonValue.isNumber : JsonValue → Bool
  | .number _ => true
  | _ => false

/-! ## §2. Recovered tiles. -/

structure RecoveredTileState where
  scalar : ScalarField → Option JsonValue
  prospectSignature : Option JsonValue
  town : Option JsonObject
  overlay : Overlay → Option JsonObject

/-- The plain fields that a recovered tile carries. -/
def RECOVERED_SCALARS : List ScalarField :=
  [.terrain, .resource, .dockId, .ownerId, .ownershipState, .frontierDecayAt,
    .frontierDecayKind, .captureHoldUntil, .warScarLevel, .warScarUntil, .razedWreckUntil,
    .razedWreck]

def cloneRecoveredTile (heap : Heap) (v : TileView) : RecoveredTileState where
  scalar := fun s => if s ∈ RECOVERED_SCALARS then v.scalar s else none
  prospectSignature := v.tile.prospectSignature.map (fun p => .text p.wireText)
  town := v.tile.town.map heap
  overlay := fun o => (v.tile.overlay o).map heap

/-! ## §3. Plain fields. -/

def keepWhenEmpty (present : Option (Option JsonValue)) (existing : Option JsonValue) :
    Option JsonValue :=
  (present.join.filter JsonValue.truthy).or (existing.filter JsonValue.truthy)

/-- Present but empty is an explicit clear. -/
def honourClear (ok : JsonValue → Bool) (present : Option (Option JsonValue))
    (existing : Option JsonValue) : Option JsonValue :=
  match present with
  | some value => value.filter ok
  | none => existing.filter ok

/-- What a delta says of a field, or else what was there. -/
def presentOr (present : Option (Option JsonValue)) (existing : Option JsonValue) :
    Option JsonValue :=
  present.getD existing

/-- Two values recovered together or not at all. -/
def both (okFirst okSecond : JsonValue → Bool) (first second : Option JsonValue) : Bool :=
  first.any okFirst && second.any okSecond

/-- A wreck's kind is a text, and not the empty one. -/
def JsonValue.nonemptyText : JsonValue → Bool
  | .text value => value ≠ ""
  | _ => false

def recoverScalar (delta : Patch WireField WireValue) (existing : ScalarField → Option JsonValue) :
    ScalarField → Option JsonValue := fun s =>
  let present := fun s => plainIn delta (.scalar s)
  let now := fun s => presentOr (present s) (existing s)
  match s with
  | .terrain => ((present .terrain).join.or (existing .terrain)).or (some (.text "LAND"))
  | .resource => keepWhenEmpty (present .resource) (existing .resource)
  | .dockId => keepWhenEmpty (present .dockId) (existing .dockId)
  | .ownerId => honourClear JsonValue.truthy (present .ownerId) (existing .ownerId)
  | .ownershipState =>
      honourClear JsonValue.truthy (present .ownershipState) (existing .ownershipState)
  | .frontierDecayAt =>
      honourClear JsonValue.isNumber (present .frontierDecayAt) (existing .frontierDecayAt)
  | .frontierDecayKind =>
      honourClear JsonValue.truthy (present .frontierDecayKind) (existing .frontierDecayKind)
  | .captureHoldUntil =>
      honourClear JsonValue.isNumber (present .captureHoldUntil) (existing .captureHoldUntil)
  | .warScarLevel =>
      if both JsonValue.isNumber JsonValue.isNumber (now .warScarLevel) (now .warScarUntil) then
        now .warScarLevel else none
  | .warScarUntil =>
      if both JsonValue.isNumber JsonValue.isNumber (now .warScarLevel) (now .warScarUntil) then
        now .warScarUntil else none
  | .razedWreck =>
      if both JsonValue.nonemptyText JsonValue.isNumber (now .razedWreck) (now .razedWreckUntil) then
        now .razedWreck else none
  | .razedWreckUntil =>
      if both JsonValue.nonemptyText JsonValue.isNumber (now .razedWreck) (now .razedWreckUntil) then
        now .razedWreckUntil else none
  | .reachOwnerId | .breachShockUntil => none

/-! ## §4. Towns. -/

def SYNTHETIC_SETTLEMENT_POPULATION : ℚ := 800
def POPULATION_MAX : ℚ := 10000000
def POPULATION_TOWN_MIN : ℚ := 10000
def CITY_POPULATION_MIN : ℚ := 100000
def GREAT_CITY_POPULATION_MIN : ℚ := 1000000
def METROPOLIS_POPULATION_MIN : ℚ := 5000000

def settlementName {W : WorldSize} (key : TileKey W) : String :=
  "Settlement " ++ toString key.x.val ++ "," ++ toString key.y.val

def isSyntheticSettlementIdentity {W : WorldSize} (town : JsonObject) (key : TileKey W) : Bool :=
  town "populationTier" = some (.text "SETTLEMENT")
    && town "name" = some (.text (settlementName key))

def minimumPopulationForTier (tier : Option JsonValue) : ℚ :=
  if tier = some (.text "METROPOLIS") then METROPOLIS_POPULATION_MIN
  else if tier = some (.text "GREAT_CITY") then GREAT_CITY_POPULATION_MIN
  else if tier = some (.text "CITY") then CITY_POPULATION_MIN
  else if tier = some (.text "TOWN") then POPULATION_TOWN_MIN
  else SYNTHETIC_SETTLEMENT_POPULATION

/-- `{ ...object, [key]: value }`. -/
def withMember (object : JsonObject) (key : String) (value : JsonValue) : JsonObject :=
  fun k => if k = key then some value else object k

def numberOr (town : JsonObject) (key : String) (default : ℚ) : JsonValue :=
  match town key with
  | some (.number value) => .number value
  | _ => .number default

def hydrateRecoveredTown {W : WorldSize} (key : TileKey W) (town : JsonObject) : JsonObject :=
  let defaultPopulation :=
    if isSyntheticSettlementIdentity town key then SYNTHETIC_SETTLEMENT_POPULATION
    else minimumPopulationForTier (town "populationTier")
  withMember (withMember town "population" (numberOr town "population" defaultPopulation))
    "maxPopulation" (numberOr town "maxPopulation" POPULATION_MAX)

/-- The name, type and tier that come with a delta, laid over a town. -/
def withTownScalars (delta : Patch WireField WireValue) (existing : Option JsonObject)
    (parsed : JsonObject) (town : JsonObject) : JsonObject :=
  let sent := fun t => (plainIn delta (.town t)).join
  let old := fun key => existing.bind (fun town => town key)
  let named := match (sent .townName).filter JsonValue.truthy with
    | some name => withMember town "name" name
    | none => town
  let typed := withMember named "type"
    ((((parsed "type").or (sent .townType)).or (old "type")).getD (.text "FARMING"))
  withMember typed "populationTier"
    ((((parsed "populationTier").or (sent .townPopulationTier)).or (old "populationTier")).getD
      (.text "SETTLEMENT"))

def recoverTownState {W : WorldSize} (key : TileKey W) (delta : Patch WireField WireValue)
    (existing : Option JsonObject) : Option JsonObject :=
  let old : JsonObject := fun member => existing.bind (fun town => town member)
  let sent := fun t => (plainIn delta (.town t)).join.filter JsonValue.truthy
  match objectIn delta .townJson with
  | some none => none
  | some (some parsed) =>
      some (hydrateRecoveredTown key (withTownScalars delta existing parsed (spread old parsed)))
  | none =>
      if (sent .townName).isSome || (sent .townType).isSome || (sent .townPopulationTier).isSome then
        some (hydrateRecoveredTown key (withTownScalars delta existing (fun _ => none) old))
      else existing.map (hydrateRecoveredTown key)

/-! ## §5. One delta. -/

def recoverOverlay (delta : Patch WireField WireValue) (existing : Overlay → Option JsonObject)
    (o : Overlay) : Option JsonObject :=
  (objectIn delta (.overlayJson o)).getD (existing o)

abbrev RecoveredTiles (W : WorldSize) := TileKey W → Option RecoveredTileState

def recoverTile {W : WorldSize} (key : TileKey W) (delta : Patch WireField WireValue)
    (existing : Option RecoveredTileState) : RecoveredTileState where
  scalar := recoverScalar delta (fun s => existing.bind (fun r => r.scalar s))
  prospectSignature := keepWhenEmpty (plainIn delta .prospectSignature)
    (existing.bind (·.prospectSignature))
  town := recoverTownState key delta (existing.bind (·.town))
  overlay := recoverOverlay delta (fun o => existing.bind (fun r => r.overlay o))

def applyTileDeltaToRecoveredAccumulator {W : WorldSize} (tiles : RecoveredTiles W)
    (key : TileKey W) (delta : Patch WireField WireValue) : RecoveredTiles W :=
  Function.update tiles key (some (recoverTile key delta (tiles key)))

end BorderEmpires.Deltas
