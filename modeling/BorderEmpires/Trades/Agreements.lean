/-
  BorderEmpires.Trades.Agreements
  **RESOURCE SUPPLY AGREEMENTS AND THEIR ALLOCATION.**

  An agreement promises slots of resources in both directions.  Allocation
  tries all active agreements at once: upkeep resources flow first, network
  resources second, each supplier up to its capacity.  The first agreement
  that falls short is suspended whole, and the pass starts over without it.

  `localeCompare` is the host's string order; nothing depends on it but the
  order of the passes.  Capacities are read through two memos, one of them
  cleared whenever the upkeep flows differ from those it was filled under;
  the source compares these flows as JSON text, the model compares the
  lists that are printed.
-/
import BorderEmpires.World
import BorderEmpires.Lib.Memo
import Mathlib.Algebra.Order.Floor.Ring
import Mathlib.Data.Rat.Floor
import Mathlib.Logic.Function.Basic

namespace BorderEmpires.Trades

/-! ## §1. Agreements. -/

inductive TradableSupplyResource where
  | FOOD | TITANIUM | CRYSTAL | UMBRITE
  | NEURAL_RESIN | CONDUCTIVE_MINERALS | CATALYTIC_DEPOSIT | LUXURY_BIOTA | PRECURSOR_SALVAGE
  deriving DecidableEq

open TradableSupplyResource

variable (localeCompare : String → String → Int)

def UPKEEP_TRADE_RESOURCES : List TradableSupplyResource := [FOOD, TITANIUM, CRYSTAL, UMBRITE]

def NETWORK_RESOURCES : List TradableSupplyResource :=
  [NEURAL_RESIN, CONDUCTIVE_MINERALS, CATALYTIC_DEPOSIT, LUXURY_BIOTA, PRECURSOR_SALVAGE]

def TRADABLE_SUPPLY_RESOURCES : List TradableSupplyResource :=
  UPKEEP_TRADE_RESOURCES ++ NETWORK_RESOURCES

def MAX_RESOURCE_SUPPLY_AGREEMENTS : Nat := 256

/-- The slots offered of each resource; absent counts as none. -/
abbrev ResourceSupplyOffer := TradableSupplyResource → Option Nat

def offeredSlots (offer : ResourceSupplyOffer) (r : TradableSupplyResource) : Nat :=
  (offer r).getD 0

abbrev ResourceSupplyAmounts := TradableSupplyResource → Nat

def emptyResourceSupplyAmounts : ResourceSupplyAmounts := fun _ => 0

structure ResourceSupplyAgreement where
  id : String
  proposerId : PlayerId
  targetId : PlayerId
  proposerGives : ResourceSupplyOffer
  targetGives : ResourceSupplyOffer
  startedAt : Nat
  expiresAt : Option Nat

structure ResourceSupplyFlow where
  incoming : ResourceSupplyAmounts
  outgoing : ResourceSupplyAmounts

def emptyFlow : ResourceSupplyFlow := ⟨emptyResourceSupplyAmounts, emptyResourceSupplyAmounts⟩

abbrev Flows := InsertionMap PlayerId ResourceSupplyFlow

def flowOf (flows : Flows) (p : PlayerId) : ResourceSupplyFlow := (flows.get p).getD emptyFlow

/-! ## §2. Capacities. -/

inductive SupplyPhase where
  | upkeep | network
  deriving DecidableEq

def phaseResources : SupplyPhase → List TradableSupplyResource
  | .upkeep => UPKEEP_TRADE_RESOURCES
  | .network => NETWORK_RESOURCES

/-- A number of the host: an infinity or NaN is not finite. -/
inductive RawCapacity where
  | finite (value : ℚ)
  | notFinite

/-- A supplier's capacity in one phase; absent counts as zero. -/
abbrev SupplyCapacity := TradableSupplyResource → Option RawCapacity

abbrev ResourceSupplyCapacity := PlayerId → SupplyPhase → Flows → SupplyCapacity

/-- The slots of each upkeep resource that a player's own tiles yield. -/
abbrev ResourceSlotTotals := TradableSupplyResource → ℚ

def applyUpkeep (physical : ResourceSlotTotals) (flow : ResourceSupplyFlow) : ResourceSlotTotals :=
  fun r => if r ∈ UPKEEP_TRADE_RESOURCES then max 0 (physical r + flow.incoming r - flow.outgoing r)
    else physical r

/-- The capacities the runtime allocates under: upkeep resources from the
player's own tiles alone, network resources from whatever sites those totals
keep awake, salvage never. -/
def runtimeCapacityFor (physicalUpkeep : PlayerId → ResourceSlotTotals)
    (networkSupplyWithSiphon : (PlayerId → ResourceSlotTotals) → PlayerId → SupplyCapacity) :
    ResourceSupplyCapacity
  | p, .upkeep, _ => fun r =>
      if r ∈ UPKEEP_TRADE_RESOURCES then some (.finite (physicalUpkeep p r)) else none
  | p, .network, flows => Function.update
      (networkSupplyWithSiphon
        (fun owner => applyUpkeep (physicalUpkeep owner) (flowOf flows owner)) p)
      PRECURSOR_SALVAGE (some (.finite 0))

/-- What a supplier can still send: the floor of its capacity less what it
already sends, never negative. -/
def availableSlots (capacity : SupplyCapacity) (outgoing : ResourceSupplyAmounts)
    (r : TradableSupplyResource) : Nat :=
  match (capacity r).getD (.finite 0) with
  | .finite value => (⌊value⌋ - outgoing r).toNat
  | .notFinite => 0

/-! ## §3. One pass. -/

/-- An agreement and what it was delivered in this pass, each way. -/
structure Delivery where
  row : ResourceSupplyAgreement
  give : ResourceSupplyAmounts
  ask : ResourceSupplyAmounts

/-- `from.outgoing[resource] += quantity`. -/
def sendSlots (flows : Flows) (fromId : PlayerId) (r : TradableSupplyResource) (quantity : Nat) :
    Flows :=
  let source := flowOf flows fromId
  flows.set fromId { source with
    outgoing := Function.update source.outgoing r (source.outgoing r + quantity) }

/-- `to.incoming[resource] += quantity`. -/
def receiveSlots (flows : Flows) (toId : PlayerId) (r : TradableSupplyResource) (quantity : Nat) :
    Flows :=
  let destination := flowOf flows toId
  flows.set toId { destination with
    incoming := Function.update destination.incoming r (destination.incoming r + quantity) }

def sendable (capacities : InsertionMap PlayerId SupplyCapacity) (fromId : PlayerId)
    (offered : ResourceSupplyOffer) (flows : Flows) (r : TradableSupplyResource) : Nat :=
  min (offeredSlots offered r)
    (availableSlots ((capacities.get fromId).getD (fun _ => none)) (flowOf flows fromId).outgoing r)

def transferResource (capacities : InsertionMap PlayerId SupplyCapacity)
    (fromId toId : PlayerId) (offered : ResourceSupplyOffer)
    (s : Flows × ResourceSupplyAmounts) (r : TradableSupplyResource) :
    Flows × ResourceSupplyAmounts :=
  let quantity := sendable capacities fromId offered s.1 r
  (receiveSlots (sendSlots s.1 fromId r quantity) toId r quantity, Function.update s.2 r quantity)

def transfer (resources : List TradableSupplyResource)
    (capacities : InsertionMap PlayerId SupplyCapacity) (fromId toId : PlayerId)
    (offered : ResourceSupplyOffer) (flows : Flows) (delivered : ResourceSupplyAmounts) :
    Flows × ResourceSupplyAmounts :=
  resources.foldl (transferResource capacities fromId toId offered) (flows, delivered)

def deliverRow (resources : List TradableSupplyResource)
    (capacities : InsertionMap PlayerId SupplyCapacity) (flows : Flows) (d : Delivery) :
    Flows × Delivery :=
  let given := transfer resources capacities d.row.proposerId d.row.targetId d.row.proposerGives
    flows d.give
  let asked := transfer resources capacities d.row.targetId d.row.proposerId d.row.targetGives
    given.1 d.ask
  (asked.1, ⟨d.row, given.2, asked.2⟩)

def deliverRows (resources : List TradableSupplyResource)
    (capacities : InsertionMap PlayerId SupplyCapacity) : Flows → List Delivery →
    Flows × List Delivery
  | flows, [] => (flows, [])
  | flows, d :: rest =>
      let first := deliverRow resources capacities flows d
      let others := deliverRows resources capacities first.1 rest
      (others.1, first.2 :: others.2)

/-- The upkeep flows as printed for comparison: the players with a flow, in
order, with their incoming and outgoing slots of each upkeep resource. -/
abbrev UpkeepSignature := List (PlayerId × List (Nat × Nat))

def upkeepValues (flow : ResourceSupplyFlow) : List (Nat × Nat) :=
  UPKEEP_TRADE_RESOURCES.map (fun r => (flow.incoming r, flow.outgoing r))

def upkeepSignature (flows : Flows) : UpkeepSignature :=
  (flows.entries.filterMap (fun entry =>
    if (upkeepValues entry.2).any (fun value => value.1 ≠ 0 || value.2 ≠ 0) then
      some (entry.1, upkeepValues entry.2)
    else none)).mergeSort (fun a b => localeCompare a.1.text b.1.text ≤ 0)

/-- What is kept of the capacities between the passes. -/
structure CapacityMemo where
  upkeepCapacity : InsertionMap PlayerId SupplyCapacity
  networkCapacity : InsertionMap PlayerId SupplyCapacity
  networkUpkeepSignature : Option UpkeepSignature

def CapacityMemo.empty : CapacityMemo := ⟨.empty, .empty, none⟩

/-- The network memo is good for the flows it was filled under only. -/
def CapacityMemo.refresh (memo : CapacityMemo) (signature : UpkeepSignature) : CapacityMemo :=
  if memo.networkUpkeepSignature = some signature then memo
  else { memo with networkCapacity := .empty, networkUpkeepSignature := some signature }

/-- Some agreement moves some of these resources. -/
def anyVolume (resources : List TradableSupplyResource) (deliveries : List Delivery) : Bool :=
  deliveries.any (fun d => resources.any (fun r =>
    0 < offeredSlots d.row.proposerGives r + offeredSlots d.row.targetGives r))

structure PassState where
  flows : Flows
  deliveries : List Delivery
  memo : CapacityMemo

def upkeepPhase (capacityFor : ResourceSupplyCapacity) (s : PassState) : PassState :=
  if anyVolume UPKEEP_TRADE_RESOURCES s.deliveries then
    let capacities := Memo.fill (fun p => capacityFor p .upkeep s.flows) s.memo.upkeepCapacity
      s.flows.keys
    let delivered := deliverRows UPKEEP_TRADE_RESOURCES capacities s.flows s.deliveries
    ⟨delivered.1, delivered.2, { s.memo with upkeepCapacity := capacities }⟩
  else s

def networkPhase (capacityFor : ResourceSupplyCapacity) (s : PassState) : PassState :=
  if anyVolume NETWORK_RESOURCES s.deliveries then
    let memo := s.memo.refresh (upkeepSignature localeCompare s.flows)
    let capacities := Memo.fill (fun p => capacityFor p .network s.flows) memo.networkCapacity
      s.flows.keys
    let delivered := deliverRows NETWORK_RESOURCES capacities s.flows s.deliveries
    ⟨delivered.1, delivered.2, { memo with networkCapacity := capacities }⟩
  else s

/-- Every participant starts a pass with an empty flow. -/
def openFlows (remaining : List ResourceSupplyAgreement) : Flows :=
  (remaining.flatMap (fun row => [row.proposerId, row.targetId])).foldl
    (fun flows p => if flows.has p then flows else flows.set p emptyFlow) .empty

def openDeliveries (remaining : List ResourceSupplyAgreement) : List Delivery :=
  remaining.map (fun row => ⟨row, emptyResourceSupplyAmounts, emptyResourceSupplyAmounts⟩)

def runPass (capacityFor : ResourceSupplyCapacity) (memo : CapacityMemo)
    (remaining : List ResourceSupplyAgreement) : PassState :=
  networkPhase localeCompare capacityFor
    (upkeepPhase capacityFor ⟨openFlows remaining, openDeliveries remaining, memo⟩)

/-- The agreement fell short of what it promises. -/
def Delivery.failed (d : Delivery) : Bool :=
  TRADABLE_SUPPLY_RESOURCES.any (fun r =>
    d.give r < offeredSlots d.row.proposerGives r || d.ask r < offeredSlots d.row.targetGives r)

/-! ## §4. The allocation. -/

structure ResourceSupplyAllocation where
  flows : Flows
  fulfilled : List String
  suspended : List String

/-- The passes: drop the first agreement that fails, until none does. -/
def allocatePasses (localeCompare : String → String → Int) (capacityFor : ResourceSupplyCapacity) :
    Nat → CapacityMemo → List ResourceSupplyAgreement → List String →
    Except String ResourceSupplyAllocation
  | 0, _, _, _ => .error "Resource supply allocation did not converge within its agreement bound"
  | passes + 1, memo, remaining, suspended =>
      let pass := runPass localeCompare capacityFor memo remaining
      match pass.deliveries.find? Delivery.failed with
      | none => .ok ⟨pass.flows, remaining.map (·.id), suspended⟩
      | some failed => allocatePasses localeCompare capacityFor passes pass.memo
          (remaining.filter (fun row => row.id ≠ failed.row.id))
          (InsertionSet.add suspended failed.row.id)

def isActive (now : Int) (row : ResourceSupplyAgreement) : Bool :=
  row.startedAt ≤ now && row.expiresAt.all (fun expiresAt => now < expiresAt)

/-- Older commitments first. -/
def rowBefore (a b : ResourceSupplyAgreement) : Bool :=
  a.startedAt < b.startedAt || (a.startedAt = b.startedAt && localeCompare a.id b.id ≤ 0)

def activeRows (agreements : List ResourceSupplyAgreement) (now : Int) :
    List ResourceSupplyAgreement :=
  (agreements.filter (isActive now)).mergeSort (rowBefore localeCompare)

def allocateResourceSupplyAgreements (agreements : List ResourceSupplyAgreement) (now : Int)
    (capacityFor : ResourceSupplyCapacity) : Except String ResourceSupplyAllocation :=
  if MAX_RESOURCE_SUPPLY_AGREEMENTS < agreements.length then
    .error "Resource supply agreement capacity exceeded"
  else if (InsertionSet.addAll [] (agreements.map (·.id))).length
      ≠ agreements.length then
    .error "Duplicate resource supply agreement identity"
  else
    let active := activeRows localeCompare agreements now
    allocatePasses localeCompare capacityFor (active.length + 1) .empty active []

end BorderEmpires.Trades
