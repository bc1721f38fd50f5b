/-
  BorderEmpires.Trades.Allocation
  **THE ALLOCATION IS SOUND.**

  A transfer books the same quantity at both ends, so at any moment the
  flows are the sums of what was delivered; a transfer takes no more than
  its supplier has left; and a pass in which nothing falls short has
  delivered every promise in full.  The memos never change a capacity: the
  signature of the upkeep flows determines every network capacity.
-/
import BorderEmpires.Trades.Agreements
import Mathlib.Algebra.BigOperators.Group.List.Basic
import Mathlib.Tactic.Ring

namespace BorderEmpires.Trades

open TradableSupplyResource

/-! ## §1. Reading flows. -/

variable (flows : Flows) {resources : List TradableSupplyResource} {r : TradableSupplyResource}
  {capacityFor : ResourceSupplyCapacity} {remaining : List ResourceSupplyAgreement}
  {localeCompare : String → String → Int}

theorem flowOf_set (p p' : PlayerId) (flow : ResourceSupplyFlow) :
    flowOf (flows.set p flow) p' = if p = p' then flow else flowOf flows p' := by
  unfold flowOf
  rw [InsertionMap.get_set]
  split <;> rfl

def outgoingOf (flows : Flows) (p : PlayerId) (r : TradableSupplyResource) : Nat :=
  (flowOf flows p).outgoing r

def incomingOf (flows : Flows) (p : PlayerId) (r : TradableSupplyResource) : Nat :=
  (flowOf flows p).incoming r

/-- A capacity in whole slots: its floor, and none when it is negative or
not finite. -/
def usableSlots (capacity : SupplyCapacity) (r : TradableSupplyResource) : Nat :=
  match (capacity r).getD (.finite 0) with
  | .finite value => ⌊value⌋.toNat
  | .notFinite => 0

theorem add_available_le (capacity : SupplyCapacity) (outgoing : ResourceSupplyAmounts)
    (h : outgoing r ≤ usableSlots capacity r) {quantity : Nat}
    (hquantity : quantity ≤ availableSlots capacity outgoing r) :
    outgoing r + quantity ≤ usableSlots capacity r := by
  unfold availableSlots at hquantity
  unfold usableSlots at h ⊢
  generalize (capacity r).getD (.finite 0) = raw at h hquantity ⊢
  cases raw with
  | finite value =>
      dsimp only at h hquantity ⊢
      omega
  | notFinite =>
      dsimp only at h hquantity ⊢
      omega

theorem availableSlots_congr (capacity : SupplyCapacity)
    {outgoing outgoing' : ResourceSupplyAmounts} (h : outgoing r = outgoing' r) :
    availableSlots capacity outgoing r = availableSlots capacity outgoing' r := by
  unfold availableSlots
  rw [h]

/-! ## §2. One transfer. -/

/-- What one transfer does: a quantity of each resource leaves one player,
reaches the other and is noted as delivered. -/
structure Transferred (resources : List TradableSupplyResource) (fromId toId : PlayerId)
    (quantity : TradableSupplyResource → Nat) (flows flows' : Flows)
    (delivered delivered' : ResourceSupplyAmounts) : Prop where
  outgoing : ∀ p r, outgoingOf flows' p r
    = outgoingOf flows p r + if p = fromId ∧ r ∈ resources then quantity r else 0
  incoming : ∀ p r, incomingOf flows' p r
    = incomingOf flows p r + if p = toId ∧ r ∈ resources then quantity r else 0
  delivered : ∀ r, delivered' r = if r ∈ resources then quantity r else delivered r

theorem outgoingOf_sendSlots (fromId : PlayerId) (r : TradableSupplyResource) (quantity : Nat)
    (p : PlayerId) (r' : TradableSupplyResource) :
    outgoingOf (sendSlots flows fromId r quantity) p r'
      = outgoingOf flows p r' + if p = fromId ∧ r' ∈ [r] then quantity else 0 := by
  unfold outgoingOf sendSlots
  dsimp only
  rw [flowOf_set]
  simp only [List.mem_singleton]
  by_cases hp : fromId = p
  · rw [if_pos hp, ← hp]
    dsimp only
    rw [Function.update_apply]
    by_cases hr : r' = r
    · rw [if_pos hr, if_pos ⟨rfl, hr⟩, hr]
    · rw [if_neg hr, if_neg (fun h => hr h.2), Nat.add_zero]
  · rw [if_neg hp, if_neg (fun h => hp h.1.symm), Nat.add_zero]

theorem incomingOf_sendSlots (fromId : PlayerId) (r : TradableSupplyResource) (quantity : Nat)
    (p : PlayerId) (r' : TradableSupplyResource) :
    incomingOf (sendSlots flows fromId r quantity) p r' = incomingOf flows p r' := by
  unfold incomingOf sendSlots
  dsimp only
  rw [flowOf_set]
  by_cases hp : fromId = p
  · rw [if_pos hp, ← hp]
  · rw [if_neg hp]

theorem incomingOf_receiveSlots (toId : PlayerId) (r : TradableSupplyResource) (quantity : Nat)
    (p : PlayerId) (r' : TradableSupplyResource) :
    incomingOf (receiveSlots flows toId r quantity) p r'
      = incomingOf flows p r' + if p = toId ∧ r' ∈ [r] then quantity else 0 := by
  unfold incomingOf receiveSlots
  dsimp only
  rw [flowOf_set]
  simp only [List.mem_singleton]
  by_cases hp : toId = p
  · rw [if_pos hp, ← hp]
    dsimp only
    rw [Function.update_apply]
    by_cases hr : r' = r
    · rw [if_pos hr, if_pos ⟨rfl, hr⟩, hr]
    · rw [if_neg hr, if_neg (fun h => hr h.2), Nat.add_zero]
  · rw [if_neg hp, if_neg (fun h => hp h.1.symm), Nat.add_zero]

theorem outgoingOf_receiveSlots (toId : PlayerId) (r : TradableSupplyResource) (quantity : Nat)
    (p : PlayerId) (r' : TradableSupplyResource) :
    outgoingOf (receiveSlots flows toId r quantity) p r' = outgoingOf flows p r' := by
  unfold outgoingOf receiveSlots
  dsimp only
  rw [flowOf_set]
  by_cases hp : toId = p
  · rw [if_pos hp, ← hp]
  · rw [if_neg hp]

theorem if_singleton_congr {P : Prop} [Decidable P] (f : TradableSupplyResource → Nat)
    (r r' : TradableSupplyResource) :
    (if P ∧ r' ∈ [r] then f r else 0) = if P ∧ r' ∈ [r] then f r' else 0 := by
  by_cases h : P ∧ r' ∈ [r]
  · rw [if_pos h, if_pos h, List.mem_singleton.mp h.2]
  · rw [if_neg h, if_neg h]

theorem transferResource_spec (capacities : InsertionMap PlayerId SupplyCapacity)
    (fromId toId : PlayerId) (offered : ResourceSupplyOffer) (flows : Flows)
    (delivered : ResourceSupplyAmounts) (r : TradableSupplyResource) :
    Transferred [r] fromId toId (sendable capacities fromId offered flows) flows
      (transferResource capacities fromId toId offered (flows, delivered) r).1 delivered
      (transferResource capacities fromId toId offered (flows, delivered) r).2 := by
  refine ⟨?_, ?_, ?_⟩
  · intro p r'
    show outgoingOf (receiveSlots (sendSlots flows fromId r _) toId r _) p r' = _
    rw [outgoingOf_receiveSlots, outgoingOf_sendSlots, if_singleton_congr]
  · intro p r'
    show incomingOf (receiveSlots (sendSlots flows fromId r _) toId r _) p r' = _
    rw [incomingOf_receiveSlots, incomingOf_sendSlots, if_singleton_congr]
  · intro r'
    show Function.update delivered r _ r' = _
    rw [Function.update_apply]
    simp only [List.mem_singleton]
    by_cases hr : r' = r
    · rw [if_pos hr, if_pos hr, hr]
    · rw [if_neg hr, if_neg hr]

/-- **One transfer**: the resources do not get in each other's way. -/
theorem transfer_spec (capacities : InsertionMap PlayerId SupplyCapacity)
    (fromId toId : PlayerId) (offered : ResourceSupplyOffer)
    (resources : List TradableSupplyResource) (hnodup : resources.Nodup) :
    ∀ (flows : Flows) (delivered : ResourceSupplyAmounts),
      Transferred resources fromId toId (sendable capacities fromId offered flows) flows
        (transfer resources capacities fromId toId offered flows delivered).1 delivered
        (transfer resources capacities fromId toId offered flows delivered).2 := by
  induction resources with
  | nil =>
      intro flows delivered
      refine ⟨?_, ?_, ?_⟩
      · intro p r
        rw [if_neg (fun h => absurd h.2 List.not_mem_nil), Nat.add_zero]
        rfl
      · intro p r
        rw [if_neg (fun h => absurd h.2 List.not_mem_nil), Nat.add_zero]
        rfl
      · intro r
        rw [if_neg List.not_mem_nil]
        rfl
  | cons head rest ih =>
      intro flows delivered
      obtain ⟨hhead, hrest⟩ := List.nodup_cons.mp hnodup
      have hone := transferResource_spec capacities fromId toId offered flows delivered head
      have hothers := ih hrest
        (transferResource capacities fromId toId offered (flows, delivered) head).1
        (transferResource capacities fromId toId offered (flows, delivered) head).2
      -- what the head sends leaves what the others can send as it was
      have hsame : ∀ r ∈ rest, sendable capacities fromId offered
          (transferResource capacities fromId toId offered (flows, delivered) head).1 r
            = sendable capacities fromId offered flows r := by
        intro r hr
        have hkept := hone.outgoing fromId r
        rw [if_neg (fun h : fromId = fromId ∧ r ∈ [head] =>
          hhead (List.mem_singleton.mp h.2 ▸ hr)), Nat.add_zero] at hkept
        unfold outgoingOf at hkept
        unfold sendable
        rw [availableSlots_congr _ hkept]
      have hsum : ∀ (P : Prop) [Decidable P] (r : TradableSupplyResource),
          (if P ∧ r ∈ [head] then sendable capacities fromId offered flows r else 0)
            + (if P ∧ r ∈ rest then sendable capacities fromId offered
                (transferResource capacities fromId toId offered (flows, delivered) head).1 r
              else 0)
            = if P ∧ r ∈ head :: rest then sendable capacities fromId offered flows r else 0 := by
        intro P _ r
        by_cases hP : P
        · by_cases hr : r = head
          · have hout : r ∉ rest := fun hmem => hhead (hr ▸ hmem)
            rw [if_pos ⟨hP, List.mem_singleton.mpr hr⟩, if_neg (fun h => hout h.2),
              if_pos ⟨hP, List.mem_cons.mpr (Or.inl hr)⟩, Nat.add_zero]
          · rw [if_neg (fun h => hr (List.mem_singleton.mp h.2)), Nat.zero_add]
            by_cases hmem : r ∈ rest
            · rw [if_pos ⟨hP, hmem⟩, if_pos ⟨hP, List.mem_cons_of_mem head hmem⟩, hsame r hmem]
            · rw [if_neg (fun h => hmem h.2), if_neg (fun h => (List.mem_cons.mp h.2).elim hr hmem)]
        · rw [if_neg (fun h => hP h.1), if_neg (fun h => hP h.1), if_neg (fun h => hP h.1)]
      refine ⟨?_, ?_, ?_⟩
      · intro p r
        refine (hothers.outgoing p r).trans ?_
        rw [hone.outgoing p r, Nat.add_assoc, hsum]
      · intro p r
        refine (hothers.incoming p r).trans ?_
        rw [hone.incoming p r, Nat.add_assoc, hsum]
      · intro r
        refine (hothers.delivered r).trans ?_
        rw [hone.delivered r]
        simp only [List.mem_cons, List.not_mem_nil, or_false]
        by_cases hmem : r ∈ rest
        · rw [if_pos hmem, if_pos (Or.inr hmem), hsame r hmem]
        · rw [if_neg hmem]
          by_cases hr : r = head
          · rw [if_pos hr, if_pos (Or.inl hr)]
          · rw [if_neg hr, if_neg (fun h => h.elim hr hmem)]

/-! ## §3. One phase. -/

def Delivery.sentBy (d : Delivery) (p : PlayerId) (r : TradableSupplyResource) : Nat :=
  (if p = d.row.proposerId then d.give r else 0) + (if p = d.row.targetId then d.ask r else 0)

def Delivery.receivedBy (d : Delivery) (p : PlayerId) (r : TradableSupplyResource) : Nat :=
  (if p = d.row.targetId then d.give r else 0) + (if p = d.row.proposerId then d.ask r else 0)

/-- Nothing of these resources is delivered yet. -/
def Delivery.Untouched (resources : List TradableSupplyResource) (d : Delivery) : Prop :=
  ∀ r ∈ resources, d.give r = 0 ∧ d.ask r = 0

/-- Nobody sends more of these resources than the capacities allow. -/
def WithinCapacity (resources : List TradableSupplyResource)
    (capacities : InsertionMap PlayerId SupplyCapacity) (flows : Flows) : Prop :=
  ∀ p, ∀ r ∈ resources,
    outgoingOf flows p r ≤ usableSlots ((capacities.get p).getD (fun _ => none)) r

theorem WithinCapacity.transfer {resources : List TradableSupplyResource}
    {capacities : InsertionMap PlayerId SupplyCapacity} {flows : Flows}
    (h : WithinCapacity resources capacities flows) (hnodup : resources.Nodup)
    (fromId toId : PlayerId) (offered : ResourceSupplyOffer) (delivered : ResourceSupplyAmounts) :
    WithinCapacity resources capacities
      (transfer resources capacities fromId toId offered flows delivered).1 := by
  have hspec := transfer_spec capacities fromId toId offered resources hnodup flows delivered
  intro p r hr
  rw [hspec.outgoing p r]
  by_cases hp : p = fromId
  · rw [if_pos ⟨hp, hr⟩, hp]
    exact add_available_le _ _ (h fromId r hr) (Nat.min_le_right _ _)
  · rw [if_neg (fun hand => hp hand.1), Nat.add_zero]
    exact h p r hr

structure RowDelivered (resources : List TradableSupplyResource) (flows flows' : Flows)
    (d d' : Delivery) : Prop where
  row : d'.row = d.row
  outgoing : ∀ p r, outgoingOf flows' p r + d.sentBy p r = outgoingOf flows p r + d'.sentBy p r
  incoming : ∀ p r,
    incomingOf flows' p r + d.receivedBy p r = incomingOf flows p r + d'.receivedBy p r
  elsewhere : ∀ r ∉ resources, d'.give r = d.give r ∧ d'.ask r = d.ask r
  idle : ∀ p, ∀ r ∉ resources,
    outgoingOf flows' p r = outgoingOf flows p r ∧ incomingOf flows' p r = incomingOf flows p r
  bounded : ∀ r ∈ resources, d'.give r ≤ offeredSlots d.row.proposerGives r
    ∧ d'.ask r ≤ offeredSlots d.row.targetGives r

theorem deliverRow_spec (hnodup : resources.Nodup)
    (capacities : InsertionMap PlayerId SupplyCapacity) (flows : Flows) {d : Delivery}
    (hfresh : d.Untouched resources) :
    RowDelivered resources flows (deliverRow resources capacities flows d).1 d
      (deliverRow resources capacities flows d).2 := by
  have hgive := transfer_spec capacities d.row.proposerId d.row.targetId d.row.proposerGives
    resources hnodup flows d.give
  have hask := transfer_spec capacities d.row.targetId d.row.proposerId d.row.targetGives
    resources hnodup (transfer resources capacities d.row.proposerId d.row.targetId
      d.row.proposerGives flows d.give).1 d.ask
  have hgiven : ∀ r, (deliverRow resources capacities flows d).2.give r = if r ∈ resources
      then sendable capacities d.row.proposerId d.row.proposerGives flows r else d.give r :=
    hgive.delivered
  have hasked : ∀ r, (deliverRow resources capacities flows d).2.ask r = if r ∈ resources
      then sendable capacities d.row.targetId d.row.targetGives (transfer resources capacities
        d.row.proposerId d.row.targetId d.row.proposerGives flows d.give).1 r else d.ask r :=
    hask.delivered
  refine ⟨rfl, ?_, ?_, ?_, ?_, ?_⟩
  · intro p r
    have hout : outgoingOf (deliverRow resources capacities flows d).1 p r = _ :=
      (hask.outgoing p r).trans (by rw [hgive.outgoing p r])
    rw [hout]
    unfold Delivery.sentBy
    rw [hgiven r, hasked r]
    show _ = outgoingOf flows p r + ((if p = d.row.proposerId then _ else 0)
      + (if p = d.row.targetId then _ else 0))
    by_cases hr : r ∈ resources
    · obtain ⟨hg, ha⟩ := hfresh r hr
      simp only [hr, and_true, if_true, hg, ha, ite_self, Nat.add_zero]
      omega
    · simp only [hr, and_false, if_false, Nat.add_zero]
  · intro p r
    have hin : incomingOf (deliverRow resources capacities flows d).1 p r = _ :=
      (hask.incoming p r).trans (by rw [hgive.incoming p r])
    rw [hin]
    unfold Delivery.receivedBy
    rw [hgiven r, hasked r]
    show _ = incomingOf flows p r + ((if p = d.row.targetId then _ else 0)
      + (if p = d.row.proposerId then _ else 0))
    by_cases hr : r ∈ resources
    · obtain ⟨hg, ha⟩ := hfresh r hr
      simp only [hr, and_true, if_true, hg, ha, ite_self, Nat.add_zero]
      omega
    · simp only [hr, and_false, if_false, Nat.add_zero]
  · intro r hr
    rw [hgiven r, hasked r, if_neg hr, if_neg hr]
    exact ⟨rfl, rfl⟩
  · intro p r hr
    constructor
    · refine (hask.outgoing p r).trans ?_
      rw [hgive.outgoing p r, if_neg (fun h => hr h.2), if_neg (fun h => hr h.2)]
      rfl
    · refine (hask.incoming p r).trans ?_
      rw [hgive.incoming p r, if_neg (fun h => hr h.2), if_neg (fun h => hr h.2)]
      rfl
  · intro r hr
    rw [hgiven r, hasked r, if_pos hr, if_pos hr]
    exact ⟨Nat.min_le_left _ _, Nat.min_le_left _ _⟩

def sentTotal (deliveries : List Delivery) (p : PlayerId) (r : TradableSupplyResource) : Nat :=
  (deliveries.map (fun d => d.sentBy p r)).sum

def receivedTotal (deliveries : List Delivery) (p : PlayerId) (r : TradableSupplyResource) : Nat :=
  (deliveries.map (fun d => d.receivedBy p r)).sum

structure PhaseDelivered (resources : List TradableSupplyResource) (flows flows' : Flows)
    (deliveries deliveries' : List Delivery) : Prop where
  rows : deliveries'.map (·.row) = deliveries.map (·.row)
  outgoing : ∀ p r, outgoingOf flows' p r + sentTotal deliveries p r
    = outgoingOf flows p r + sentTotal deliveries' p r
  incoming : ∀ p r, incomingOf flows' p r + receivedTotal deliveries p r
    = incomingOf flows p r + receivedTotal deliveries' p r
  elsewhere : ∀ d' ∈ deliveries', ∃ d ∈ deliveries, d'.row = d.row
    ∧ ∀ r ∉ resources, d'.give r = d.give r ∧ d'.ask r = d.ask r
  idle : ∀ p, ∀ r ∉ resources,
    outgoingOf flows' p r = outgoingOf flows p r ∧ incomingOf flows' p r = incomingOf flows p r
  bounded : ∀ d' ∈ deliveries', ∀ r ∈ resources,
    d'.give r ≤ offeredSlots d'.row.proposerGives r ∧ d'.ask r ≤ offeredSlots d'.row.targetGives r

/-- **One phase of one pass**: the flows grow by what is delivered. -/
theorem deliverRows_spec (hnodup : resources.Nodup)
    (capacities : InsertionMap PlayerId SupplyCapacity) (deliveries : List Delivery) :
    ∀ flows : Flows, (∀ d ∈ deliveries, d.Untouched resources) →
      WithinCapacity resources capacities flows →
      PhaseDelivered resources flows (deliverRows resources capacities flows deliveries).1
          deliveries (deliverRows resources capacities flows deliveries).2
        ∧ WithinCapacity resources capacities
          (deliverRows resources capacities flows deliveries).1 := by
  induction deliveries with
  | nil =>
      intro flows _ hwithin
      refine ⟨⟨rfl, fun p r => rfl, fun p r => rfl, ?_, fun p r _ => ⟨rfl, rfl⟩, ?_⟩, hwithin⟩
      · intro d' hd'
        exact absurd hd' List.not_mem_nil
      · intro d' hd'
        exact absurd hd' List.not_mem_nil
  | cons d rest ih =>
      intro flows hfresh hwithin
      have hone := deliverRow_spec hnodup capacities flows (hfresh d List.mem_cons_self)
      have hwithin' : WithinCapacity resources capacities
          (deliverRow resources capacities flows d).1 :=
        (hwithin.transfer hnodup _ _ _ _).transfer hnodup _ _ _ _
      obtain ⟨hrest, hwithin''⟩ := ih (deliverRow resources capacities flows d).1
        (fun e he => hfresh e (List.mem_cons_of_mem d he)) hwithin'
      refine ⟨⟨?_, ?_, ?_, ?_, ?_, ?_⟩, hwithin''⟩
      · show (deliverRow resources capacities flows d).2.row :: _ = d.row :: _
        rw [hone.row]
        exact congrArg (List.cons d.row) hrest.rows
      · intro p r
        have hhead := hone.outgoing p r
        have htail := hrest.outgoing p r
        show outgoingOf (deliverRows resources capacities
            (deliverRow resources capacities flows d).1 rest).1 p r
            + (d.sentBy p r + sentTotal rest p r)
          = outgoingOf flows p r + ((deliverRow resources capacities flows d).2.sentBy p r
            + sentTotal (deliverRows resources capacities
              (deliverRow resources capacities flows d).1 rest).2 p r)
        omega
      · intro p r
        have hhead := hone.incoming p r
        have htail := hrest.incoming p r
        show incomingOf (deliverRows resources capacities
            (deliverRow resources capacities flows d).1 rest).1 p r
            + (d.receivedBy p r + receivedTotal rest p r)
          = incomingOf flows p r + ((deliverRow resources capacities flows d).2.receivedBy p r
            + receivedTotal (deliverRows resources capacities
              (deliverRow resources capacities flows d).1 rest).2 p r)
        omega
      · intro d' hd'
        rcases List.mem_cons.mp hd' with rfl | hmem
        · exact ⟨d, List.mem_cons_self, hone.row, hone.elsewhere⟩
        · obtain ⟨e, he, hrow, hkept⟩ := hrest.elsewhere d' hmem
          exact ⟨e, List.mem_cons_of_mem d he, hrow, hkept⟩
      · intro p r hr
        have hhead := hone.idle p r hr
        have htail := hrest.idle p r hr
        exact ⟨htail.1.trans hhead.1, htail.2.trans hhead.2⟩
      · intro d' hd'
        rcases List.mem_cons.mp hd' with rfl | hmem
        · intro r hr
          rw [hone.row]
          exact hone.bounded r hr
        · exact hrest.bounded d' hmem

/-! ## §4. Capacities and their memos. -/

def SameUpkeepFlows (flows flows' : Flows) : Prop :=
  ∀ p, ∀ r ∈ UPKEEP_TRADE_RESOURCES,
    incomingOf flows p r = incomingOf flows' p r ∧ outgoingOf flows p r = outgoingOf flows' p r

/-- **What the capacities may depend on**: upkeep capacity on no flow, network
capacity on the upkeep flows only. -/
structure ReadsUpkeepOnly (capacityFor : ResourceSupplyCapacity) : Prop where
  upkeep : ∀ p flows flows', capacityFor p .upkeep flows = capacityFor p .upkeep flows'
  network : ∀ p flows flows', SameUpkeepFlows flows flows' →
    capacityFor p .network flows = capacityFor p .network flows'

theorem runtimeCapacityFor_readsUpkeepOnly (physicalUpkeep : PlayerId → ResourceSlotTotals)
    (networkSupplyWithSiphon : (PlayerId → ResourceSlotTotals) → PlayerId → SupplyCapacity) :
    ReadsUpkeepOnly (runtimeCapacityFor physicalUpkeep networkSupplyWithSiphon) where
  upkeep := fun _ _ _ => rfl
  network := by
    intro p flows flows' hsame
    have htotals : (fun owner => applyUpkeep (physicalUpkeep owner) (flowOf flows owner))
        = fun owner => applyUpkeep (physicalUpkeep owner) (flowOf flows' owner) := by
      funext owner r
      unfold applyUpkeep
      by_cases hr : r ∈ UPKEEP_TRADE_RESOURCES
      · have hflow := hsame owner r hr
        unfold incomingOf outgoingOf at hflow
        rw [if_pos hr, if_pos hr, hflow.1, hflow.2]
      · rw [if_neg hr, if_neg hr]
    unfold runtimeCapacityFor
    dsimp only
    rw [htotals]

def hasUpkeepFlow (flow : ResourceSupplyFlow) : Bool :=
  (upkeepValues flow).any (fun value => value.1 ≠ 0 || value.2 ≠ 0)

theorem mem_upkeepSignature_iff (localeCompare : String → String → Int) (flows : Flows)
    (p : PlayerId) (values : List (Nat × Nat)) :
    (p, values) ∈ upkeepSignature localeCompare flows
      ↔ ∃ flow, flows.get p = some flow ∧ hasUpkeepFlow flow = true
        ∧ values = upkeepValues flow := by
  unfold upkeepSignature
  rw [List.mem_mergeSort, List.mem_filterMap]
  constructor
  · rintro ⟨entry, hmem, hentry⟩
    split at hentry
    next hflow =>
      obtain ⟨rfl, rfl⟩ := Prod.mk.inj (Option.some.inj hentry)
      exact ⟨entry.2, (flows.mem_entries_iff entry.1 entry.2).mp hmem, hflow, rfl⟩
    · cases hentry
  · rintro ⟨flow, hget, hflow, rfl⟩
    refine ⟨(p, flow), (flows.mem_entries_iff p flow).mpr hget, ?_⟩
    exact if_pos hflow

theorem upkeep_zero {flow : ResourceSupplyFlow} (h : hasUpkeepFlow flow = false)
    (hr : r ∈ UPKEEP_TRADE_RESOURCES) : flow.incoming r = 0 ∧ flow.outgoing r = 0 := by
  unfold hasUpkeepFlow upkeepValues at h
  have hnone := List.any_eq_false.mp h (flow.incoming r, flow.outgoing r)
    (List.mem_map_of_mem hr)
  simpa using hnone

theorem upkeepValues_inj {flow flow' : ResourceSupplyFlow}
    (h : upkeepValues flow = upkeepValues flow') (hr : r ∈ UPKEEP_TRADE_RESOURCES) :
    flow.incoming r = flow'.incoming r ∧ flow.outgoing r = flow'.outgoing r := by
  unfold upkeepValues at h
  exact Prod.mk.inj (List.map_inj_left.mp h r hr)

theorem upkeep_of_signature {flows flows' : Flows}
    (h : upkeepSignature localeCompare flows = upkeepSignature localeCompare flows') {p : PlayerId}
    {flow : ResourceSupplyFlow} (hget : flows.get p = some flow) (hflow : hasUpkeepFlow flow = true)
    :
    ∃ flow', flows'.get p = some flow' ∧ upkeepValues flow = upkeepValues flow' := by
  have hmem := (mem_upkeepSignature_iff localeCompare flows p _).mpr ⟨flow, hget, hflow, rfl⟩
  rw [h, mem_upkeepSignature_iff] at hmem
  obtain ⟨flow', hget', _, hvalues⟩ := hmem
  exact ⟨flow', hget', hvalues⟩

/-- **The signature decides the upkeep flows.** -/
theorem sameUpkeepFlows_of_signature {localeCompare : String → String → Int} {flows flows' : Flows}
    (h : upkeepSignature localeCompare flows = upkeepSignature localeCompare flows') :
    SameUpkeepFlows flows flows' := by
  have hidle : ∀ (flows : Flows) (p : PlayerId),
      (∀ flow, flows.get p = some flow → hasUpkeepFlow flow = false) →
      ∀ r ∈ UPKEEP_TRADE_RESOURCES, incomingOf flows p r = 0 ∧ outgoingOf flows p r = 0 := by
    intro flows p hnone r hr
    unfold incomingOf outgoingOf flowOf
    cases hget : flows.get p with
    | none => exact ⟨rfl, rfl⟩
    | some flow => exact upkeep_zero (hnone flow hget) hr
  have hbusy : ∀ {flows flows' : Flows} {p : PlayerId} {flow flow' : ResourceSupplyFlow},
      flows.get p = some flow → flows'.get p = some flow' →
      upkeepValues flow = upkeepValues flow' → ∀ r ∈ UPKEEP_TRADE_RESOURCES,
      incomingOf flows p r = incomingOf flows' p r ∧ outgoingOf flows p r = outgoingOf flows' p r := by
    intro flows flows' p flow flow' hget hget' hvalues r hr
    unfold incomingOf outgoingOf flowOf
    rw [hget, hget']
    exact upkeepValues_inj hvalues hr
  intro p r hr
  by_cases hflow : ∃ flow, flows.get p = some flow ∧ hasUpkeepFlow flow = true
  · obtain ⟨flow, hget, hflow⟩ := hflow
    obtain ⟨flow', hget', hvalues⟩ := upkeep_of_signature h hget hflow
    exact hbusy hget hget' hvalues r hr
  · by_cases hflow' : ∃ flow, flows'.get p = some flow ∧ hasUpkeepFlow flow = true
    · obtain ⟨flow', hget', hflow'⟩ := hflow'
      obtain ⟨flow, hget, hvalues⟩ := upkeep_of_signature h.symm hget' hflow'
      exact hbusy hget hget' hvalues.symm r hr
    · have hnone := hidle flows p (fun flow hget =>
        Bool.eq_false_iff.mpr (fun htrue => hflow ⟨flow, hget, htrue⟩)) r hr
      have hnone' := hidle flows' p (fun flow hget =>
        Bool.eq_false_iff.mpr (fun htrue => hflow' ⟨flow, hget, htrue⟩)) r hr
      rw [hnone.1, hnone.2, hnone'.1, hnone'.2]
      exact ⟨rfl, rfl⟩

/-- The memos hold true capacities: the network memo those of any flows with
its signature. -/
structure CapacityMemo.TrueOf (memo : CapacityMemo) (localeCompare : String → String → Int)
    (capacityFor : ResourceSupplyCapacity) : Prop where
  upkeep : ∀ flows, Memo.TrueOf memo.upkeepCapacity (fun p => capacityFor p .upkeep flows)
  network : ∀ flows, memo.networkUpkeepSignature = some (upkeepSignature localeCompare flows) →
    Memo.TrueOf memo.networkCapacity (fun p => capacityFor p .network flows)

theorem CapacityMemo.trueOf_empty (localeCompare : String → String → Int)
    (capacityFor : ResourceSupplyCapacity) :
    CapacityMemo.empty.TrueOf localeCompare capacityFor where
  upkeep := fun _ => Memo.trueOf_empty _
  network := fun _ _ => Memo.trueOf_empty _

theorem CapacityMemo.TrueOf.refresh {memo : CapacityMemo}
    (h : memo.TrueOf localeCompare capacityFor) (signature : UpkeepSignature) :
    (memo.refresh signature).TrueOf localeCompare capacityFor
      ∧ (memo.refresh signature).networkUpkeepSignature = some signature := by
  unfold CapacityMemo.refresh
  split
  next hsame => exact ⟨h, hsame⟩
  · exact ⟨⟨h.upkeep, fun _ _ => Memo.trueOf_empty _⟩, rfl⟩

theorem usableSlots_memo {memo : InsertionMap PlayerId SupplyCapacity}
    {f : PlayerId → SupplyCapacity} (h : Memo.TrueOf memo f) (p : PlayerId)
    (r : TradableSupplyResource) :
    usableSlots ((memo.get p).getD (fun _ => none)) r ≤ usableSlots (f p) r := by
  cases hget : memo.get p with
  | none =>
      show usableSlots (fun _ => none) r ≤ _
      unfold usableSlots
      simp
  | some capacity =>
      rw [h p capacity hget]
      exact le_rfl

/-! ## §5. One pass. -/

theorem network_of_not_upkeep (r : TradableSupplyResource) :
    r ∉ UPKEEP_TRADE_RESOURCES ↔ r ∈ NETWORK_RESOURCES := by
  cases r <;> decide

theorem mem_tradable (r : TradableSupplyResource) : r ∈ TRADABLE_SUPPLY_RESOURCES := by
  cases r <;> decide

/-- The flows are what the deals of the pass deliver, and no deal delivers
more than it promises. -/
structure Booked (remaining : List ResourceSupplyAgreement) (flows : Flows)
    (deliveries : List Delivery) : Prop where
  rows : deliveries.map (·.row) = remaining
  outgoing : ∀ p r, outgoingOf flows p r = sentTotal deliveries p r
  incoming : ∀ p r, incomingOf flows p r = receivedTotal deliveries p r
  bounded : ∀ d ∈ deliveries, ∀ r, d.give r ≤ offeredSlots d.row.proposerGives r
    ∧ d.ask r ≤ offeredSlots d.row.targetGives r

theorem sentTotal_untouched {resources : List TradableSupplyResource} {deliveries : List Delivery}
    (h : ∀ d ∈ deliveries, d.Untouched resources) (p : PlayerId) {r : TradableSupplyResource}
    (hr : r ∈ resources) : sentTotal deliveries p r = 0 := by
  unfold sentTotal
  refine List.sum_eq_zero (fun amount hamount => ?_)
  obtain ⟨d, hd, rfl⟩ := List.mem_map.mp hamount
  obtain ⟨hgive, hask⟩ := h d hd r hr
  unfold Delivery.sentBy
  rw [hgive, hask, ite_self, ite_self]
  rfl

/-- **One phase keeps the books.** -/
theorem Booked.deliverRows (hnodup : resources.Nodup) {flows : Flows} {deliveries : List Delivery}
    (h : Booked remaining flows deliveries) (hfresh : ∀ d ∈ deliveries, d.Untouched resources)
    (capacities : InsertionMap PlayerId SupplyCapacity) :
    Booked remaining (Trades.deliverRows resources capacities flows deliveries).1
        (Trades.deliverRows resources capacities flows deliveries).2
      ∧ PhaseDelivered resources flows
        (Trades.deliverRows resources capacities flows deliveries).1 deliveries
        (Trades.deliverRows resources capacities flows deliveries).2
      ∧ WithinCapacity resources capacities
        (Trades.deliverRows resources capacities flows deliveries).1 := by
  have hwithin : WithinCapacity resources capacities flows := by
    intro p r hr
    rw [h.outgoing p r, sentTotal_untouched hfresh p hr]
    exact Nat.zero_le _
  obtain ⟨hphase, hwithin'⟩ := deliverRows_spec hnodup capacities deliveries flows hfresh hwithin
  refine ⟨⟨hphase.rows.trans h.rows, ?_, ?_, ?_⟩, hphase, hwithin'⟩
  · intro p r
    have hmoved := hphase.outgoing p r
    have hbefore := h.outgoing p r
    omega
  · intro p r
    have hmoved := hphase.incoming p r
    have hbefore := h.incoming p r
    omega
  · intro d' hd' r
    by_cases hr : r ∈ resources
    · exact hphase.bounded d' hd' r hr
    · obtain ⟨d, hd, hrow, hkept⟩ := hphase.elsewhere d' hd'
      obtain ⟨hgive, hask⟩ := hkept r hr
      rw [hgive, hask, hrow]
      exact h.bounded d hd r

/-- What holds of a pass once it is over. -/
structure PassSound (capacityFor : ResourceSupplyCapacity)
    (remaining : List ResourceSupplyAgreement) (s : PassState) : Prop where
  booked : Booked remaining s.flows s.deliveries
  within : ∀ p phase, ∀ r ∈ phaseResources phase,
    outgoingOf s.flows p r ≤ usableSlots (capacityFor p phase s.flows) r

theorem flowOf_openFlows (remaining : List ResourceSupplyAgreement) (p : PlayerId) :
    flowOf (openFlows remaining) p = emptyFlow := by
  have hfold : ∀ (players : List PlayerId) (flows : Flows),
      (∀ p, flowOf flows p = emptyFlow) → ∀ p, flowOf (players.foldl (fun flows p =>
        if flows.has p then flows else flows.set p emptyFlow) flows) p = emptyFlow := by
    intro players
    induction players with
    | nil =>
        intro flows h
        exact h
    | cons head rest ih =>
        intro flows h
        refine ih _ (fun p => ?_)
        dsimp only
        split
        · exact h p
        rw [flowOf_set]
        split
        · rfl
        · exact h p
  refine hfold _ .empty (fun p => ?_) p
  unfold flowOf
  rw [InsertionMap.get_empty]
  rfl

theorem booked_open (remaining : List ResourceSupplyAgreement) :
    Booked remaining (openFlows remaining) (openDeliveries remaining)
      ∧ ∀ d ∈ openDeliveries remaining, ∀ r, d.give r = 0 ∧ d.ask r = 0 := by
  have hzero : ∀ d ∈ openDeliveries remaining, ∀ r, d.give r = 0 ∧ d.ask r = 0 := by
    intro d hd r
    obtain ⟨row, _, rfl⟩ := List.mem_map.mp hd
    exact ⟨rfl, rfl⟩
  refine ⟨⟨?_, ?_, ?_, ?_⟩, hzero⟩
  · unfold openDeliveries
    rw [List.map_map]
    exact List.map_id remaining
  · intro p r
    rw [@sentTotal_untouched [r] _ (fun d hd r' _ => hzero d hd r') p r (List.mem_singleton_self r)]
    unfold outgoingOf
    rw [flowOf_openFlows]
    rfl
  · intro p r
    have hnone : receivedTotal (openDeliveries remaining) p r = 0 := by
      unfold receivedTotal
      refine List.sum_eq_zero (fun amount hamount => ?_)
      obtain ⟨d, hd, rfl⟩ := List.mem_map.mp hamount
      obtain ⟨hgive, hask⟩ := hzero d hd r
      unfold Delivery.receivedBy
      rw [hgive, hask, ite_self, ite_self]
      rfl
    unfold incomingOf
    rw [hnone, flowOf_openFlows]
    rfl
  · intro d hd r
    obtain ⟨hgive, hask⟩ := hzero d hd r
    rw [hgive, hask]
    exact ⟨Nat.zero_le _, Nat.zero_le _⟩

/-- After the upkeep phase. -/
structure UpkeepDone (localeCompare : String → String → Int) (capacityFor : ResourceSupplyCapacity)
    (remaining : List ResourceSupplyAgreement) (s : PassState) : Prop where
  booked : Booked remaining s.flows s.deliveries
  fresh : ∀ d ∈ s.deliveries, d.Untouched NETWORK_RESOURCES
  within : ∀ p flows, ∀ r ∈ UPKEEP_TRADE_RESOURCES,
    outgoingOf s.flows p r ≤ usableSlots (capacityFor p .upkeep flows) r
  memo : s.memo.TrueOf localeCompare capacityFor

theorem upkeepPhase_spec (hreads : ReadsUpkeepOnly capacityFor) {memo : CapacityMemo}
    (hmemo : memo.TrueOf localeCompare capacityFor) (remaining : List ResourceSupplyAgreement) :
    UpkeepDone localeCompare capacityFor remaining
      (upkeepPhase capacityFor ⟨openFlows remaining, openDeliveries remaining, memo⟩) := by
  obtain ⟨hbooked, hzero⟩ := booked_open remaining
  unfold upkeepPhase
  dsimp only
  split
  · have hfill : ∀ flows, Memo.TrueOf (Memo.fill
        (fun p => capacityFor p .upkeep (openFlows remaining)) memo.upkeepCapacity
        (openFlows remaining).keys) (fun p => capacityFor p .upkeep flows) := by
      intro flows
      have hsame : (fun p => capacityFor p .upkeep (openFlows remaining))
          = fun p => capacityFor p .upkeep flows :=
        funext (fun p => hreads.upkeep p _ _)
      rw [hsame]
      exact (hmemo.upkeep flows).fill _
    have hnodup : UPKEEP_TRADE_RESOURCES.Nodup := by decide
    obtain ⟨hbooked', hphase, hwithin⟩ := hbooked.deliverRows hnodup
      (fun d hd r _ => hzero d hd r)
      (Memo.fill (fun p => capacityFor p .upkeep (openFlows remaining)) memo.upkeepCapacity
        (openFlows remaining).keys)
    refine ⟨hbooked', ?_, ?_, ⟨hfill, hmemo.network⟩⟩
    · intro d' hd' r hr
      obtain ⟨d, hd, _, hkept⟩ := hphase.elsewhere d' hd'
      obtain ⟨hgive, hask⟩ := hkept r ((network_of_not_upkeep r).mpr hr)
      rw [hgive, hask]
      exact hzero d hd r
    · intro p flows r hr
      exact le_trans (hwithin p r hr) (usableSlots_memo (hfill flows) p r)
  · refine ⟨hbooked, fun d hd r _ => hzero d hd r, ?_, hmemo⟩
    intro p flows r _
    rw [hbooked.outgoing p r, @sentTotal_untouched [r] _ (fun d hd r' _ => hzero d hd r') p r
      (List.mem_singleton_self r)]
    exact Nat.zero_le _

theorem networkPhase_spec (hreads : ReadsUpkeepOnly capacityFor) {s : PassState}
    (h : UpkeepDone localeCompare capacityFor remaining s) :
    PassSound capacityFor remaining (networkPhase localeCompare capacityFor s)
      ∧ (networkPhase localeCompare capacityFor s).memo.TrueOf localeCompare capacityFor := by
  unfold networkPhase
  dsimp only
  split
  · obtain ⟨hrefresh, hsignature⟩ := h.memo.refresh (upkeepSignature localeCompare s.flows)
    generalize s.memo.refresh (upkeepSignature localeCompare s.flows) = memo at hrefresh hsignature ⊢
    have hfill : ∀ flows, SameUpkeepFlows s.flows flows → Memo.TrueOf (Memo.fill
        (fun p => capacityFor p .network s.flows) memo.networkCapacity s.flows.keys)
        (fun p => capacityFor p .network flows) := by
      intro flows hsame
      have hsameCapacity : (fun p => capacityFor p .network s.flows)
          = fun p => capacityFor p .network flows :=
        funext (fun p => hreads.network p _ _ hsame)
      have htrue : Memo.TrueOf memo.networkCapacity (fun p => capacityFor p .network flows) := by
        rw [← hsameCapacity]
        exact hrefresh.network s.flows hsignature
      rw [hsameCapacity]
      exact htrue.fill _
    have hnodup : NETWORK_RESOURCES.Nodup := by decide
    obtain ⟨hbooked', hphase, hwithin⟩ := h.booked.deliverRows hnodup h.fresh
      (Memo.fill (fun p => capacityFor p .network s.flows) memo.networkCapacity s.flows.keys)
    have hsame : SameUpkeepFlows s.flows (deliverRows NETWORK_RESOURCES (Memo.fill
        (fun p => capacityFor p .network s.flows) memo.networkCapacity s.flows.keys) s.flows
        s.deliveries).1 := by
      intro p r hr
      have hidle := hphase.idle p r (fun hnet => (network_of_not_upkeep r).mpr hnet hr)
      exact ⟨hidle.2.symm, hidle.1.symm⟩
    refine ⟨⟨hbooked', ?_⟩, ⟨hrefresh.upkeep, ?_⟩⟩
    · intro p phase r hr
      cases phase with
      | upkeep =>
          show outgoingOf (deliverRows NETWORK_RESOURCES _ s.flows s.deliveries).1 p r ≤ _
          rw [← (hsame p r hr).2]
          exact h.within p _ r hr
      | network => exact le_trans (hwithin p r hr) (usableSlots_memo (hfill _ hsame) p r)
    · intro flows hflows
      refine hfill flows (@sameUpkeepFlows_of_signature localeCompare _ _ ?_)
      rw [hsignature] at hflows
      exact Option.some.inj hflows
  · refine ⟨⟨h.booked, ?_⟩, h.memo⟩
    intro p phase r hr
    cases phase with
    | upkeep => exact h.within p _ r hr
    | network =>
        rw [h.booked.outgoing p r, sentTotal_untouched h.fresh p hr]
        exact Nat.zero_le _

/-- **One pass** is sound and leaves its memos true. -/
theorem runPass_spec (hreads : ReadsUpkeepOnly capacityFor) {memo : CapacityMemo}
    (hmemo : memo.TrueOf localeCompare capacityFor) (remaining : List ResourceSupplyAgreement) :
    PassSound capacityFor remaining (runPass localeCompare capacityFor memo remaining)
      ∧ (runPass localeCompare capacityFor memo remaining).memo.TrueOf localeCompare capacityFor :=
  networkPhase_spec hreads (upkeepPhase_spec hreads hmemo remaining)

/-! ## §6. The passes. -/

/-- What an agreement moves when it is kept in full. -/
def ResourceSupplyAgreement.gives (row : ResourceSupplyAgreement) (p : PlayerId)
    (r : TradableSupplyResource) : Nat :=
  (if p = row.proposerId then offeredSlots row.proposerGives r else 0)
    + (if p = row.targetId then offeredSlots row.targetGives r else 0)

def ResourceSupplyAgreement.gets (row : ResourceSupplyAgreement) (p : PlayerId)
    (r : TradableSupplyResource) : Nat :=
  (if p = row.targetId then offeredSlots row.proposerGives r else 0)
    + (if p = row.proposerId then offeredSlots row.targetGives r else 0)

/-- What the agreements of a list move when they are kept in full. -/
def promisedOut (rows : List ResourceSupplyAgreement) (p : PlayerId)
    (r : TradableSupplyResource) : Nat :=
  (rows.map (fun row => row.gives p r)).sum

def promisedIn (rows : List ResourceSupplyAgreement) (p : PlayerId)
    (r : TradableSupplyResource) : Nat :=
  (rows.map (fun row => row.gets p r)).sum

theorem delivered_in_full {d : Delivery} (h : d.failed = false)
    (hbounded : d.give r ≤ offeredSlots d.row.proposerGives r
      ∧ d.ask r ≤ offeredSlots d.row.targetGives r) :
    d.give r = offeredSlots d.row.proposerGives r ∧ d.ask r = offeredSlots d.row.targetGives r := by
  unfold Delivery.failed at h
  have hall := List.any_eq_false.mp h r (mem_tradable r)
  rw [Bool.not_eq_true, Bool.or_eq_false_iff, decide_eq_false_iff_not,
    decide_eq_false_iff_not] at hall
  omega

def InFull (resources : List TradableSupplyResource) (deliveries : List Delivery) : Prop :=
  ∀ d ∈ deliveries, ∀ r ∈ resources, d.give r = offeredSlots d.row.proposerGives r
    ∧ d.ask r = offeredSlots d.row.targetGives r

/-- Deals delivered in full move what they promise. -/
theorem totals_of_inFull {resources : List TradableSupplyResource} {deliveries : List Delivery}
    (hfull : InFull resources deliveries) (p : PlayerId) {r : TradableSupplyResource}
    (hr : r ∈ resources) :
    sentTotal deliveries p r = promisedOut (deliveries.map (·.row)) p r
      ∧ receivedTotal deliveries p r = promisedIn (deliveries.map (·.row)) p r := by
  constructor
  · unfold sentTotal promisedOut
    rw [List.map_map]
    refine congrArg List.sum (List.map_congr_left (fun d hd => ?_))
    show d.sentBy p r = d.row.gives p r
    unfold Delivery.sentBy ResourceSupplyAgreement.gives
    rw [(hfull d hd r hr).1, (hfull d hd r hr).2]
  · unfold receivedTotal promisedIn
    rw [List.map_map]
    refine congrArg List.sum (List.map_congr_left (fun d hd => ?_))
    show d.receivedBy p r = d.row.gets p r
    unfold Delivery.receivedBy ResourceSupplyAgreement.gets
    rw [(hfull d hd r hr).1, (hfull d hd r hr).2]

/-- **A pass in which nothing falls short** moves what its agreements promise. -/
theorem Booked.in_full {flows : Flows} {deliveries : List Delivery}
    (h : Booked remaining flows deliveries) (hnone : deliveries.find? Delivery.failed = none)
    (p : PlayerId) (r : TradableSupplyResource) :
    outgoingOf flows p r = promisedOut remaining p r
      ∧ incomingOf flows p r = promisedIn remaining p r := by
  have hfull : InFull TRADABLE_SUPPLY_RESOURCES deliveries := by
    intro d hd r' _
    have hgood : d.failed = false := Bool.eq_false_iff.mpr (List.find?_eq_none.mp hnone d hd)
    exact delivered_in_full hgood (h.bounded d hd r')
  rw [h.outgoing p r, h.incoming p r, ← h.rows]
  exact totals_of_inFull hfull p (mem_tradable r)

/-- What the passes leave: some of the agreements kept, all others suspended. -/
structure PassesSound (capacityFor : ResourceSupplyCapacity)
    (remaining : List ResourceSupplyAgreement) (suspended : List String)
    (kept : List ResourceSupplyAgreement) (a : ResourceSupplyAllocation) : Prop where
  sublist : kept.Sublist remaining
  fulfilled : a.fulfilled = kept.map (·.id)
  suspended : ∀ id, id ∈ a.suspended ↔ id ∈ suspended ∨ ∃ row ∈ remaining, row.id = id ∧ row ∉ kept
  outgoing : ∀ p r, outgoingOf a.flows p r = promisedOut kept p r
  incoming : ∀ p r, incomingOf a.flows p r = promisedIn kept p r
  within : ∀ p phase, ∀ r ∈ phaseResources phase,
    outgoingOf a.flows p r ≤ usableSlots (capacityFor p phase a.flows) r

theorem mem_dropped_iff (hnodup : (remaining.map (·.id)).Nodup)
    {failed : ResourceSupplyAgreement} (hfailed : failed ∈ remaining)
    (row : ResourceSupplyAgreement) :
    row ∈ remaining.filter (fun row => row.id ≠ failed.id) ↔ row ∈ remaining ∧ row ≠ failed := by
  rw [List.mem_filter, decide_eq_true_iff]
  constructor
  · rintro ⟨hmem, hid⟩
    exact ⟨hmem, fun heq => hid (congrArg (·.id) heq)⟩
  · rintro ⟨hmem, hne⟩
    exact ⟨hmem, fun hid => hne (List.inj_on_of_nodup_map hnodup hmem hfailed hid)⟩

/-- **The passes**, by induction on their number: every pass but the last
drops an agreement, so one pass more than agreements is enough. -/
theorem allocatePasses_sound {localeCompare : String → String → Int}
    {capacityFor : ResourceSupplyCapacity} (hreads : ReadsUpkeepOnly capacityFor) (passes : Nat) :
    ∀ (memo : CapacityMemo) (remaining : List ResourceSupplyAgreement) (suspended : List String),
      memo.TrueOf localeCompare capacityFor →
      (remaining.map (·.id)).Nodup → remaining.length < passes →
      ∃ kept a, allocatePasses localeCompare capacityFor passes memo remaining suspended = .ok a
        ∧ PassesSound capacityFor remaining suspended kept a := by
  induction passes with
  | zero =>
      intro memo remaining suspended _ _ hpasses
      exact absurd hpasses (Nat.not_lt_zero _)
  | succ passes ih =>
      intro memo remaining suspended hmemo hnodup hpasses
      obtain ⟨hpass, hmemo'⟩ := runPass_spec hreads hmemo remaining
      unfold allocatePasses
      dsimp only
      split
      next hnone =>
        refine ⟨remaining, _, rfl, ⟨List.Sublist.refl _, rfl, ?_, ?_, ?_, hpass.within⟩⟩
        · intro id
          refine ⟨Or.inl, fun h => h.elim (fun h => h) ?_⟩
          rintro ⟨row, hrow, _, hout⟩
          exact absurd hrow hout
        · intro p r
          exact (hpass.booked.in_full hnone p r).1
        · intro p r
          exact (hpass.booked.in_full hnone p r).2
      next failed hfind =>
        have hfailed : failed.row ∈ remaining := by
          rw [← hpass.booked.rows]
          exact List.mem_map_of_mem (List.mem_of_find?_eq_some hfind)
        have hshorter : (remaining.filter (fun row => row.id ≠ failed.row.id)).length < passes := by
          have hdrop : (remaining.filter (fun row => row.id ≠ failed.row.id)).length
              < remaining.length :=
            List.length_filter_lt_length_iff_exists.mpr ⟨failed.row, hfailed, by simp⟩
          omega
        have hsub := List.filter_sublist (l := remaining)
          (p := fun row => decide (row.id ≠ failed.row.id))
        obtain ⟨kept, a, hrun, hsound⟩ := ih _ _ (InsertionSet.add suspended failed.row.id) hmemo'
          ((hsub.map _).nodup hnodup) hshorter
        refine ⟨kept, a, hrun, ⟨hsound.sublist.trans hsub, hsound.fulfilled, ?_, hsound.outgoing,
          hsound.incoming, hsound.within⟩⟩
        -- the agreement that failed is among the suspended, the others are by induction
        have hgone : failed.row ∉ kept := fun hkept =>
          ((mem_dropped_iff hnodup hfailed failed.row).mp (hsound.sublist.subset hkept)).2 rfl
        intro id
        rw [hsound.suspended id, InsertionSet.mem_add]
        constructor
        · rintro ((h | rfl) | ⟨row, hrow, hid, hout⟩)
          · exact Or.inl h
          · exact Or.inr ⟨failed.row, hfailed, rfl, hgone⟩
          · exact Or.inr ⟨row, hsub.subset hrow, hid, hout⟩
        · rintro (h | ⟨row, hrow, rfl, hout⟩)
          · exact Or.inl (Or.inl h)
          · by_cases heq : row = failed.row
            · exact Or.inl (Or.inr (congrArg (·.id) heq))
            · exact Or.inr ⟨row, (mem_dropped_iff hnodup hfailed row).mpr ⟨hrow, heq⟩, rfl, hout⟩

/-! ## §7. The allocation. -/

/-- **A sound allocation** of the agreements in force. -/
structure SoundAllocation (agreements : List ResourceSupplyAgreement) (now : Int)
    (capacityFor : ResourceSupplyCapacity) (a : ResourceSupplyAllocation) : Prop where
  covered : ∀ id, id ∈ a.fulfilled ∨ id ∈ a.suspended
    ↔ ∃ row ∈ agreements, isActive now row = true ∧ row.id = id
  disjoint : ∀ id ∈ a.fulfilled, id ∉ a.suspended
  outgoing : ∀ p r, outgoingOf a.flows p r = promisedOut (agreements.filter
    (fun row => isActive now row && row.id ∈ a.fulfilled)) p r
  incoming : ∀ p r, incomingOf a.flows p r = promisedIn (agreements.filter
    (fun row => isActive now row && row.id ∈ a.fulfilled)) p r
  within : ∀ p phase, ∀ r ∈ phaseResources phase,
    outgoingOf a.flows p r ≤ usableSlots (capacityFor p phase a.flows) r

theorem length_addAll_of_nodup (l : List String) (h : l.Nodup) :
    (InsertionSet.addAll [] l).length = l.length := by
  have hset : (InsertionSet.addAll [] l).Nodup := InsertionSet.nodup_addAll l List.nodup_nil
  have hperm : (InsertionSet.addAll [] l).Perm l := by
    refine (List.perm_ext_iff_of_nodup hset h).mpr (fun id => ?_)
    rw [InsertionSet.mem_addAll]
    simp
  exact hperm.length_eq

theorem activeRows_of_pairwise {localeCompare : String → String → Int}
    {rows : List ResourceSupplyAgreement} {now : Int}
    (hactive : ∀ row ∈ rows, isActive now row = true)
    (hsorted : rows.Pairwise (fun a b => rowBefore localeCompare a b = true)) :
    activeRows localeCompare rows now = rows := by
  unfold activeRows
  rw [List.filter_eq_self.mpr hactive]
  exact List.mergeSort_of_pairwise hsorted

/-- Distinct agreements within the bound go through the passes. -/
theorem allocate_eq_passes {localeCompare : String → String → Int}
    {rows : List ResourceSupplyAgreement} {now : Int}
    (hlength : rows.length ≤ MAX_RESOURCE_SUPPLY_AGREEMENTS)
    (hids : (rows.map (·.id)).Nodup) :
    allocateResourceSupplyAgreements localeCompare rows now capacityFor
      = allocatePasses localeCompare capacityFor ((activeRows localeCompare rows now).length + 1)
        .empty (activeRows localeCompare rows now) [] := by
  unfold allocateResourceSupplyAgreements
  rw [if_neg (Nat.not_lt.mpr hlength), length_addAll_of_nodup _ hids, List.length_map,
    if_neg (fun h => h rfl)]

/-- Agreements in force and in their order go through the passes as they are. -/
theorem allocate_of_pairwise {localeCompare : String → String → Int}
    {rows : List ResourceSupplyAgreement} {now : Int}
    (hlength : rows.length ≤ MAX_RESOURCE_SUPPLY_AGREEMENTS)
    (hids : (rows.map (·.id)).Nodup)
    (hactive : ∀ row ∈ rows, isActive now row = true)
    (hsorted : rows.Pairwise (fun a b => rowBefore localeCompare a b = true)) :
    allocateResourceSupplyAgreements localeCompare rows now capacityFor
      = allocatePasses localeCompare capacityFor (rows.length + 1) .empty rows [] := by
  rw [allocate_eq_passes hlength hids, activeRows_of_pairwise hactive hsorted]

/-- Distinct agreements are distinct in their order. -/
theorem nodup_activeRows (localeCompare : String → String → Int)
    {agreements : List ResourceSupplyAgreement} (now : Int)
    (hids : (agreements.map (·.id)).Nodup) :
    ((activeRows localeCompare agreements now).map (·.id)).Nodup :=
  ((List.mergeSort_perm _ _).map _).nodup_iff.mpr ((List.filter_sublist.map _).nodup hids)

theorem kept_perm {agreements kept : List ResourceSupplyAgreement} {now : Int}
    (hids : (agreements.map (·.id)).Nodup) (hnodup : kept.Nodup)
    (hkept : ∀ row ∈ kept, row ∈ agreements ∧ isActive now row = true) :
    (agreements.filter (fun row => isActive now row && row.id ∈ kept.map (·.id))).Perm kept := by
  have hrows : agreements.Nodup := List.Nodup.of_map _ hids
  refine (List.perm_ext_iff_of_nodup (hrows.filter _) hnodup).mpr (fun row => ?_)
  rw [List.mem_filter, Bool.and_eq_true, decide_eq_true_iff]
  constructor
  · rintro ⟨hmem, _, hid⟩
    obtain ⟨other, hother, hsame⟩ := List.mem_map.mp hid
    rw [← List.inj_on_of_nodup_map hids (hkept other hother).1 hmem hsame]
    exact hother
  · intro hmem
    exact ⟨(hkept row hmem).1, (hkept row hmem).2, List.mem_map_of_mem hmem⟩

/-- **The allocation is sound**: for distinct agreements within the bound and
capacities that read nothing but upkeep flows, it ends, fulfils or suspends
every agreement in force, books exactly what is fulfilled and keeps every
supplier within what its capacity at the returned flows is worth. -/
theorem allocation_is_sound (localeCompare : String → String → Int)
    (agreements : List ResourceSupplyAgreement) (now : Int) (capacityFor : ResourceSupplyCapacity)
    (hlength : agreements.length ≤ MAX_RESOURCE_SUPPLY_AGREEMENTS)
    (hids : (agreements.map (·.id)).Nodup) (hreads : ReadsUpkeepOnly capacityFor) :
    ∃ a, allocateResourceSupplyAgreements localeCompare agreements now capacityFor = .ok a
      ∧ SoundAllocation agreements now capacityFor a := by
  have hperm : (activeRows localeCompare agreements now).Perm (agreements.filter (isActive now)) :=
    List.mergeSort_perm _ _
  have hactive := nodup_activeRows localeCompare now hids
  obtain ⟨kept, a, hrun, hsound⟩ := @allocatePasses_sound localeCompare _ hreads
    ((activeRows localeCompare agreements now).length + 1) .empty _ []
    (CapacityMemo.trueOf_empty _ _) hactive (Nat.lt_succ_self _)
  refine ⟨a, (allocate_eq_passes hlength hids).trans hrun, ?_⟩
  have hmem : ∀ row, row ∈ activeRows localeCompare agreements now
      ↔ row ∈ agreements ∧ isActive now row = true := by
    intro row
    rw [hperm.mem_iff, List.mem_filter]
  have hkept : ∀ row ∈ kept, row ∈ agreements ∧ isActive now row = true :=
    fun row hrow => (hmem row).mp (hsound.sublist.subset hrow)
  have hnodup : kept.Nodup := hsound.sublist.nodup (List.Nodup.of_map _ hactive)
  have hperm' := kept_perm hids hnodup hkept
  rw [← hsound.fulfilled] at hperm'
  refine ⟨?_, ?_, ?_, ?_, hsound.within⟩
  · intro id
    rw [hsound.fulfilled, hsound.suspended id]
    constructor
    · rintro (hid | hid | ⟨row, hrow, hid, _⟩)
      · obtain ⟨row, hrow, hid⟩ := List.mem_map.mp hid
        exact ⟨row, (hkept row hrow).1, (hkept row hrow).2, hid⟩
      · exact absurd hid List.not_mem_nil
      · exact ⟨row, ((hmem row).mp hrow).1, ((hmem row).mp hrow).2, hid⟩
    · rintro ⟨row, hrow, hnow, rfl⟩
      by_cases hin : row ∈ kept
      · exact Or.inl (List.mem_map_of_mem hin)
      · exact Or.inr (Or.inr ⟨row, (hmem row).mpr ⟨hrow, hnow⟩, rfl, hin⟩)
  · intro id hid hsuspended
    rw [hsound.fulfilled] at hid
    obtain ⟨row, hrow, rfl⟩ := List.mem_map.mp hid
    rcases (hsound.suspended row.id).mp hsuspended with hnil | ⟨other, hother, hsame, hout⟩
    · exact absurd hnil List.not_mem_nil
    · rw [List.inj_on_of_nodup_map hids ((hmem other).mp hother).1 (hkept row hrow).1 hsame] at hout
      exact hout hrow
  · intro p r
    rw [hsound.outgoing p r]
    exact ((hperm'.map _).sum_eq).symm
  · intro p r
    rw [hsound.incoming p r]
    exact ((hperm'.map _).sum_eq).symm

/-- Plain order on texts. -/
def compareText (a b : String) : Int := if a < b then -1 else if a = b then 0 else 1

def resinForFood : ResourceSupplyAgreement :=
  { id := "resin-for-food", proposerId := playerOne, targetId := playerTwo
    proposerGives := fun r => if r = NEURAL_RESIN then some 2 else none
    targetGives := fun r => if r = FOOD then some 3 else none
    startedAt := 0, expiresAt := none }

/-- The food a player receives keeps as many sites of each network awake. -/
def wakingCapacity : ResourceSupplyCapacity
  | _, .upkeep, _ => fun _ => some (.finite (7 / 2))
  | p, .network, flows => fun _ => some (.finite (incomingOf flows p FOOD))

theorem wakingCapacity_readsUpkeepOnly : ReadsUpkeepOnly wakingCapacity where
  upkeep := fun _ _ _ => rfl
  network := by
    intro p flows flows' hsame
    have hfood := (hsame p FOOD (by decide)).1
    unfold wakingCapacity
    dsimp only
    rw [hfood]

def foodGift : ResourceSupplyAgreement :=
  { id := "food-gift", proposerId := playerTwo, targetId := playerOne
    proposerGives := fun r => if r = FOOD then some 1 else none
    targetGives := fun _ => none
    startedAt := 0, expiresAt := none }

def titaniumGift : ResourceSupplyAgreement :=
  { id := "titanium-gift", proposerId := playerTwo, targetId := playerOne
    proposerGives := fun r => if r = TITANIUM then some 1 else none
    targetGives := fun _ => none
    startedAt := 3, expiresAt := none }

theorem allocation_is_sound_resin_for_food :
    ∃ a, allocateResourceSupplyAgreements compareText [foodGift, resinForFood, titaniumGift] 10
        wakingCapacity = .ok a
      ∧ SoundAllocation [foodGift, resinForFood, titaniumGift] 10 wakingCapacity a
      ∧ a.fulfilled = ["food-gift", "titanium-gift"] ∧ a.suspended = ["resin-for-food"] := by
  obtain ⟨a, hrun, hsound⟩ := allocation_is_sound compareText
    [foodGift, resinForFood, titaniumGift] 10 wakingCapacity (by decide) (by decide)
    wakingCapacity_readsUpkeepOnly
  have hpasses : (match allocatePasses compareText wakingCapacity 4 .empty
      [foodGift, resinForFood, titaniumGift] [] with
    | .ok a => decide (a.fulfilled = ["food-gift", "titanium-gift"]
        ∧ a.suspended = ["resin-for-food"])
    | .error _ => false) = true := by decide +kernel
  have hsame : allocatePasses compareText wakingCapacity 4 .empty
      [foodGift, resinForFood, titaniumGift] [] = .ok a :=
    (allocate_of_pairwise (by decide) (by decide) (by decide) (by decide)).symm.trans hrun
  rw [hsame] at hpasses
  exact ⟨a, hrun, hsound, of_decide_eq_true hpasses⟩

def overdrawnCapacity : ResourceSupplyCapacity :=
  fun _ _ _ r => some (.finite (if r = TITANIUM then -1 else 5))

/-- The floor itself is no bound: a supplier in a fulfilled deal that sends no
titanium still sends more than a capacity of minus one. -/
theorem overdrawn_supplier_sends_nothing :
    ReadsUpkeepOnly overdrawnCapacity
      ∧ ∃ a, allocateResourceSupplyAgreements compareText [resinForFood] 10 overdrawnCapacity
          = .ok a
        ∧ a.flows.has playerOne = true
        ∧ overdrawnCapacity playerOne .upkeep a.flows TITANIUM = some (.finite (-1))
        ∧ ¬ (outgoingOf a.flows playerOne TITANIUM : Int) ≤ ⌊(-1 : ℚ)⌋ := by
  refine ⟨⟨fun _ _ _ => rfl, fun _ _ _ _ => rfl⟩, ?_⟩
  have hrun : (match allocateResourceSupplyAgreements compareText [resinForFood] 10
      overdrawnCapacity with
    | .ok a => a.flows.has playerOne && decide (outgoingOf a.flows playerOne TITANIUM = 0)
    | .error _ => false) = true := by decide +kernel
  split at hrun
  next a hok =>
    rw [Bool.and_eq_true, decide_eq_true_iff] at hrun
    refine ⟨a, hok, hrun.1, rfl, ?_⟩
    rw [hrun.2]
    decide +kernel
  · cases hrun

end BorderEmpires.Trades
