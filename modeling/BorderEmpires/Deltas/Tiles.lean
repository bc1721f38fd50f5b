/-
  BorderEmpires.Deltas.Tiles
  **TILES AND THEIR FIELDS ON THE WIRE.**

  A tile carries plain values and references to substructures (a town, a
  fort, ...).  Substructures are replaced, never mutated, so what a reference
  refers to is fixed: the heap.  JSON text is modelled by the object that it
  prints.

  Values that no tile holds are left out: the yield of a tile and the view of
  its town in the owner's economy.
-/
import BorderEmpires.World
import BorderEmpires.Lib.Patch
import Mathlib.Data.Rat.Defs

namespace BorderEmpires.Deltas

/-! ## §1. JSON. -/

inductive JsonValue where
  | text (value : String)
  | number (value : ℚ)
  | other (json : String)
  deriving DecidableEq

/-- The host's test for truth. -/
def JsonValue.truthy : JsonValue → Bool
  | .text value => value ≠ ""
  | .number value => value ≠ 0
  | .other _ => true

/-- The members of an object by name. -/
abbrev JsonObject := String → Option JsonValue

/-- `{ ...base, ...last }`. -/
def spread (base last : JsonObject) : JsonObject := fun key => (last key).or (base key)

/-- A reference to a substructure; two references are one when the host says
so by identity. -/
structure ObjectRef where
  id : Nat
  deriving DecidableEq

abbrev Heap := ObjectRef → JsonObject

/-! ## §2. Tiles. -/

inductive ResourceType where
  | FARM | TITANIUM | GEMS | FISH | UMBRITE
  | NEURAL_RESIN | CONDUCTIVE_MINERALS | CATALYTIC_DEPOSIT | LUXURY_BIOTA | PRECURSOR_SALVAGE
  deriving DecidableEq, Repr

inductive ProspectSignature where
  | BLACKWOOD_CANOPY | FERROUS_DUST | REFRACTIVE_GROUND
  deriving DecidableEq, Repr

inductive FrontierDecayKind where
  | ENCIRCLEMENT | OUT_OF_REACH
  deriving DecidableEq, Repr

inductive RazedWreckKind where
  | RELAY_BEACON | SIEGE_BATTERY | SIEGE_TOWER | DREAD_TOWER
  deriving DecidableEq, Repr

/-- A dock id is tested for truth, so the empty text is not one. -/
@[ext] structure DockId where
  text : String
  nonempty : text ≠ ""

instance : DecidableEq DockId := fun a b => decidable_of_iff (a.text = b.text) DockId.ext_iff.symm

structure DomainTileState where
  terrain : Terrain
  resource : Option ResourceType
  prospectSignature : Option ProspectSignature
  dockId : Option DockId
  ownerId : Option PlayerId
  ownershipState : Option OwnershipState
  frontierDecayAt : Option ℚ
  frontierDecayKind : Option FrontierDecayKind
  breachShockUntil : Option ℚ
  captureHoldUntil : Option ℚ
  warScarLevel : Option ℚ
  warScarUntil : Option ℚ
  razedWreckUntil : Option ℚ
  razedWreck : Option RazedWreckKind
  town : Option ObjectRef
  fort : Option ObjectRef
  observatory : Option ObjectRef
  siegeBattery : Option ObjectRef
  economicStructure : Option ObjectRef
  sabotage : Option ObjectRef
  naturalWonder : Option ObjectRef
  watchtower : Option ObjectRef
  waystation : Option ObjectRef
  muster : Option ObjectRef
  afc : Option ObjectRef
  deriving DecidableEq

/-- A tile and the owner of the reach border at it. -/
structure TileView where
  tile : DomainTileState
  reachOwnerId : Option PlayerId
  deriving DecidableEq

/-! ## §3. Fields. -/

inductive Overlay where
  | naturalWonder | fort | observatory | siegeBattery | economicStructure | sabotage
  | watchtower | waystation | muster | afc
  deriving DecidableEq

def TILE_OVERLAY_KEYS : List Overlay :=
  [.naturalWonder, .fort, .observatory, .siegeBattery, .economicStructure, .sabotage,
    .watchtower, .waystation, .muster, .afc]

def DomainTileState.overlay (tile : DomainTileState) : Overlay → Option ObjectRef
  | .naturalWonder => tile.naturalWonder
  | .fort => tile.fort
  | .observatory => tile.observatory
  | .siegeBattery => tile.siegeBattery
  | .economicStructure => tile.economicStructure
  | .sabotage => tile.sabotage
  | .watchtower => tile.watchtower
  | .waystation => tile.waystation
  | .muster => tile.muster
  | .afc => tile.afc

/-- The plain fields that the baseline of the sparse deltas keeps. -/
inductive ScalarField where
  | terrain | resource | dockId | ownerId | ownershipState | reachOwnerId
  | frontierDecayAt | frontierDecayKind | breachShockUntil | captureHoldUntil
  | warScarLevel | warScarUntil | razedWreckUntil | razedWreck
  deriving DecidableEq

def SCALAR_FIELDS : List ScalarField :=
  [.terrain, .resource, .dockId, .ownerId, .ownershipState, .reachOwnerId,
    .frontierDecayAt, .frontierDecayKind, .breachShockUntil, .captureHoldUntil,
    .warScarLevel, .warScarUntil, .razedWreckUntil, .razedWreck]

/-- The members of a town that the wire repeats beside its JSON. -/
inductive TownScalar where
  | townType | townName | townPopulationTier
  deriving DecidableEq

def TOWN_SCALARS : List TownScalar := [.townType, .townName, .townPopulationTier]

def TownScalar.key : TownScalar → String
  | .townType => "type"
  | .townName => "name"
  | .townPopulationTier => "populationTier"

def Terrain.wireText : Terrain → String
  | .LAND => "LAND"
  | .SEA => "SEA"
  | .COASTAL_SEA => "COASTAL_SEA"
  | .MOUNTAIN => "MOUNTAIN"

def OwnershipState.wireText : OwnershipState → String
  | .FRONTIER => "FRONTIER"
  | .SETTLED => "SETTLED"
  | .BARBARIAN => "BARBARIAN"

def ResourceType.wireText : ResourceType → String
  | .FARM => "FARM"
  | .TITANIUM => "TITANIUM"
  | .GEMS => "GEMS"
  | .FISH => "FISH"
  | .UMBRITE => "UMBRITE"
  | .NEURAL_RESIN => "NEURAL_RESIN"
  | .CONDUCTIVE_MINERALS => "CONDUCTIVE_MINERALS"
  | .CATALYTIC_DEPOSIT => "CATALYTIC_DEPOSIT"
  | .LUXURY_BIOTA => "LUXURY_BIOTA"
  | .PRECURSOR_SALVAGE => "PRECURSOR_SALVAGE"

def ProspectSignature.wireText : ProspectSignature → String
  | .BLACKWOOD_CANOPY => "BLACKWOOD_CANOPY"
  | .FERROUS_DUST => "FERROUS_DUST"
  | .REFRACTIVE_GROUND => "REFRACTIVE_GROUND"

def FrontierDecayKind.wireText : FrontierDecayKind → String
  | .ENCIRCLEMENT => "ENCIRCLEMENT"
  | .OUT_OF_REACH => "OUT_OF_REACH"

def RazedWreckKind.wireText : RazedWreckKind → String
  | .RELAY_BEACON => "RELAY_BEACON"
  | .SIEGE_BATTERY => "SIEGE_BATTERY"
  | .SIEGE_TOWER => "SIEGE_TOWER"
  | .DREAD_TOWER => "DREAD_TOWER"

def TileView.scalar (v : TileView) : ScalarField → Option JsonValue
  | .terrain => some (.text (Terrain.wireText v.tile.terrain))
  | .resource => v.tile.resource.map (fun r => .text r.wireText)
  | .dockId => v.tile.dockId.map (fun d => .text d.text)
  | .ownerId => v.tile.ownerId.map (fun p => .text p.text)
  | .ownershipState => v.tile.ownershipState.map (fun o => .text (OwnershipState.wireText o))
  | .reachOwnerId => v.reachOwnerId.map (fun p => .text p.text)
  | .frontierDecayAt => v.tile.frontierDecayAt.map JsonValue.number
  | .frontierDecayKind => v.tile.frontierDecayKind.map (fun k => .text k.wireText)
  | .breachShockUntil => v.tile.breachShockUntil.map JsonValue.number
  | .captureHoldUntil => v.tile.captureHoldUntil.map JsonValue.number
  | .warScarLevel => v.tile.warScarLevel.map JsonValue.number
  | .warScarUntil => v.tile.warScarUntil.map JsonValue.number
  | .razedWreckUntil => v.tile.razedWreckUntil.map JsonValue.number
  | .razedWreck => v.tile.razedWreck.map (fun k => .text k.wireText)

inductive WireField where
  | scalar (s : ScalarField)
  | prospectSignature
  | townJson
  | town (t : TownScalar)
  | overlayJson (o : Overlay)
  deriving DecidableEq

inductive WireValue where
  | plain (value : JsonValue)
  | json (object : JsonObject)

def TileView.townMember (heap : Heap) (v : TileView) (t : TownScalar) : Option JsonValue :=
  v.tile.town.bind (fun town => heap town t.key)

/-- **The current value of every field of a tile**; an empty text counts as
no value. -/
def TileView.wire (heap : Heap) (v : TileView) : WireField → Option WireValue
  | .scalar s => (v.scalar s).map WireValue.plain
  | .prospectSignature => v.tile.prospectSignature.map (fun p => .plain (.text p.wireText))
  | .townJson => v.tile.town.map (fun town => .json (heap town))
  | .town t => ((v.townMember heap t).filter JsonValue.truthy).map WireValue.plain
  | .overlayJson o => (v.tile.overlay o).map (fun ref => .json (heap ref))

end BorderEmpires.Deltas
