/-
  BorderEmpires.Social.Pricing
  **WHAT AN AI WANTS FOR A TREATY.**

  An AI accepts an offer that brings it the coin it requires, supply slots
  counted at their value, and that asks of it nothing it does not have; an
  offer of alliance may ask it nothing at all.
-/
import BorderEmpires.Lib.Greedy
import BorderEmpires.Social.Records
import BorderEmpires.Trades.Allocation
import Mathlib.Algebra.Order.BigOperators.Group.List

namespace BorderEmpires.Social

open BorderEmpires.Trades
open Greedy (sum_update)

/-! ## §1. Goods. -/

def RESOURCE_SUPPLY_COIN_VALUE_PER_DAY : TradableSupplyResource → ℕ
  | .FOOD => 4
  | .TITANIUM => 4
  | .CRYSTAL => 6
  | .UMBRITE => 4
  | .NEURAL_RESIN => 8
  | .CONDUCTIVE_MINERALS => 8
  | .CATALYTIC_DEPOSIT => 8
  | .LUXURY_BIOTA => 10
  | .PRECURSOR_SALVAGE => 0

/-- `offer?.[resource] ?? 0`. -/
def slotsOf (offer : Option ResourceSupplyOffer) (r : TradableSupplyResource) : ℕ :=
  (offer.bind fun slots => slots r).getD 0

def resourceSupplyCoinValue (offer : Option ResourceSupplyOffer) (hours : ℕ) : ℚ :=
  (TRADABLE_SUPPLY_RESOURCES.map fun r =>
    (slotsOf offer r : ℚ) * (RESOURCE_SUPPLY_COIN_VALUE_PER_DAY r : ℚ)).sum * (hours : ℚ)
      / ((24 : ℕ) : ℚ)

/-- `if (count > 0) offer[resource] = count`. -/
def countedSlots (count : ℕ) : Option ℕ := if 0 < count then some count else none

def missingResourceSupply (requested available : Option ResourceSupplyOffer) :
    ResourceSupplyOffer :=
  fun r => countedSlots (slotsOf requested r - slotsOf available r)

def clampedResourceSupply (requested available : Option ResourceSupplyOffer) :
    ResourceSupplyOffer :=
  fun r => countedSlots (min (slotsOf requested r) (slotsOf available r))

/-- `goods.resources[resource] = count`, with the offer made if need be. -/
def DiplomacyGoods.setSlots (goods : DiplomacyGoods) (r : TradableSupplyResource) (count : ℕ) :
    DiplomacyGoods :=
  { goods with
    resources := some (Function.update (goods.resources.getD fun _ => none) r (some count)) }

/-- What a player holds, in whole numbers; coin may be owed. -/
structure Holdings where
  gold : ℤ
  resources : Option (TradableSupplyResource → Option ℤ)

def Holdings.slots (holdings : Holdings) (r : TradableSupplyResource) : ℤ :=
  (holdings.resources.bind fun slots => slots r).getD 0

/-! ## §2. The price of an offer. -/

/-- The coin an AI requires for each treaty; `none` is a refusal. -/
structure RequiredCoin where
  truce12 : Option ℚ
  truce24 : Option ℚ
  alliance : Option ℚ

structure AiDiplomacyPricing where
  required : RequiredCoin
  aiHoldings : DiplomacyGoods

/-- An AI never pays to join an alliance. -/
def requiredForOffer (pricing : AiDiplomacyPricing) (kind : SocialOfferKind)
    (durationHours : DurationHours) : Option ℚ :=
  match kind with
  | .alliance => pricing.required.alliance.map fun price => max 0 price
  | .truce =>
      match durationHours with
      | .twentyFour => pricing.required.truce24
      | .twelve => pricing.required.truce12

def asksAnything (terms : DiplomacyTerms) : Bool :=
  decide (0 < terms.ask.gold) || hasResourceSupplyOffer terms.ask.resources

def netValueToAi (terms : DiplomacyTerms) : ℚ :=
  (terms.give.gold : ℚ) - (terms.ask.gold : ℚ)
    + resourceSupplyCoinValue terms.give.resources 24
    - resourceSupplyCoinValue terms.ask.resources 24

inductive AiOfferVerdict where
  | accepts
  | refuses
  | aiWontPay
  | aiCannotPay (missing : DiplomacyGoods)
  | shortfall (coin : ℤ)

def AiOfferVerdict.isAcceptance : AiOfferVerdict → Bool
  | .accepts => true
  | _ => false

def evaluateAiOffer (pricing : AiDiplomacyPricing) (kind : SocialOfferKind)
    (durationHours : DurationHours) (terms : DiplomacyTerms) : AiOfferVerdict :=
  match requiredForOffer pricing kind durationHours with
  | none => .refuses
  | some required =>
      if kind = .alliance ∧ asksAnything terms = true then .aiWontPay
      else
        let missingGold := terms.ask.gold - pricing.aiHoldings.gold
        let missingSupply :=
          some (missingResourceSupply terms.ask.resources pricing.aiHoldings.resources)
        if 0 < missingGold ∨ hasResourceSupplyOffer missingSupply = true then
          .aiCannotPay
            ⟨missingGold, if hasResourceSupplyOffer missingSupply then missingSupply else none⟩
        else if 0 < required - netValueToAi terms then
          .shortfall ⌈required - netValueToAi terms⌉
        else .accepts

/-! ## §3. Values. -/

/-- The worth of one slot for a day. -/
def unitValue (r : TradableSupplyResource) : ℚ :=
  (RESOURCE_SUPPLY_COIN_VALUE_PER_DAY r : ℚ) * ((24 : ℕ) : ℚ) / ((24 : ℕ) : ℚ)

theorem tradable_nodup : TRADABLE_SUPPLY_RESOURCES.Nodup := by decide

variable (goods : DiplomacyGoods) (r : TradableSupplyResource) (offer : Option ResourceSupplyOffer)

theorem hasResourceSupplyOffer_iff :
    hasResourceSupplyOffer offer = true ↔ ∃ r, 0 < slotsOf offer r := by
  unfold hasResourceSupplyOffer slotsOf
  rw [List.any_eq_true]
  constructor
  · rintro ⟨r, _, hr⟩
    exact ⟨r, of_decide_eq_true hr⟩
  · rintro ⟨r, hr⟩
    exact ⟨r, mem_tradable r, decide_eq_true hr⟩

theorem unitValue_eq : unitValue r = (RESOURCE_SUPPLY_COIN_VALUE_PER_DAY r : ℚ) := by
  have h24 : ((24 : ℕ) : ℚ) ≠ 0 := Nat.cast_ne_zero.mpr (by decide)
  exact mul_div_cancel_right₀ _ h24

theorem unitValue_nonneg : 0 ≤ unitValue r := by
  rw [unitValue_eq]
  exact Nat.cast_nonneg _

theorem coinValue_day :
    resourceSupplyCoinValue offer 24
      = (TRADABLE_SUPPLY_RESOURCES.map fun r => (slotsOf offer r : ℚ) * unitValue r).sum := by
  have h24 : ((24 : ℕ) : ℚ) ≠ 0 := Nat.cast_ne_zero.mpr (by decide)
  unfold resourceSupplyCoinValue
  rw [mul_div_cancel_right₀ _ h24]
  congr 1
  apply List.map_congr_left
  intro r _
  rw [unitValue_eq]

theorem slotsOf_setSlots (r r' : TradableSupplyResource) (count : ℕ) :
    slotsOf (goods.setSlots r count).resources r'
      = if r' = r then count else slotsOf goods.resources r' := by
  unfold slotsOf DiplomacyGoods.setSlots
  rw [Option.bind_some]
  by_cases h : r' = r
  · rw [if_pos h, h, Function.update_self, Option.getD_some]
  · rw [if_neg h, Function.update_of_ne h]
    cases goods.resources with
    | none => rfl
    | some slots => rfl

@[simp] theorem gold_setSlots (count : ℕ) :
    (goods.setSlots r count).gold = goods.gold := rfl

theorem coinValue_setSlots (count : ℕ) :
    resourceSupplyCoinValue (goods.setSlots r count).resources 24
      = resourceSupplyCoinValue goods.resources 24
        + ((count : ℚ) - slotsOf goods.resources r) * unitValue r := by
  rw [coinValue_day, coinValue_day]
  have hupdate : (fun r' => (slotsOf (goods.setSlots r count).resources r' : ℚ) * unitValue r')
      = Function.update (fun r' => (slotsOf goods.resources r' : ℚ) * unitValue r') r
          ((count : ℚ) * unitValue r) := by
    funext r'
    rw [slotsOf_setSlots]
    by_cases h : r' = r
    · rw [if_pos h, h, Function.update_self]
    · rw [if_neg h, Function.update_of_ne h]
  rw [hupdate, sum_update tradable_nodup (mem_tradable r), sub_mul]

theorem coinValue_le {offer offer' : Option ResourceSupplyOffer}
    (h : ∀ r, slotsOf offer r ≤ slotsOf offer' r) :
    resourceSupplyCoinValue offer 24 ≤ resourceSupplyCoinValue offer' 24 := by
  rw [coinValue_day, coinValue_day]
  apply List.sum_le_sum
  intro r _
  exact mul_le_mul_of_nonneg_right (Nat.cast_le.mpr (h r)) (unitValue_nonneg r)

theorem coinValue_nonneg : 0 ≤ resourceSupplyCoinValue offer 24 := by
  rw [coinValue_day]
  apply List.sum_nonneg
  intro x hx
  obtain ⟨r, _, rfl⟩ := List.mem_map.mp hx
  exact mul_nonneg (Nat.cast_nonneg _) (unitValue_nonneg r)

theorem coinValue_of_none {offer : Option ResourceSupplyOffer} (h : ∀ r, slotsOf offer r = 0) :
    resourceSupplyCoinValue offer 24 = 0 := by
  apply le_antisymm
  · have hle : resourceSupplyCoinValue offer 24 ≤ resourceSupplyCoinValue none 24 :=
      coinValue_le fun r => le_of_eq (h r)
    have hzero : resourceSupplyCoinValue none 24 = 0 := by
      rw [coinValue_day]
      apply List.sum_eq_zero
      intro x hx
      obtain ⟨r, _, rfl⟩ := List.mem_map.mp hx
      show ((0 : ℕ) : ℚ) * unitValue r = 0
      rw [Nat.cast_zero, zero_mul]
    rw [hzero] at hle
    exact hle
  · exact coinValue_nonneg offer

theorem slotsOf_countedSlots (count : TradableSupplyResource → ℕ) (r : TradableSupplyResource) :
    slotsOf (some fun r => countedSlots (count r)) r = count r := by
  unfold slotsOf countedSlots
  rw [Option.bind_some]
  show (if 0 < count r then some (count r) else none).getD 0 = count r
  split
  · rfl
  · rw [Option.getD_none]
    omega

/-! ## §4. What a verdict says. -/

/-- No more of anything. -/
def AsksAtMost (goods bound : DiplomacyGoods) : Prop :=
  goods.gold ≤ bound.gold ∧ ∀ r, slotsOf goods.resources r ≤ slotsOf bound.resources r

/-- **When an offer is accepted**: it asks nothing for an alliance, nothing
the AI does not hold, and lacks nothing. -/
theorem accepts_iff {pricing : AiDiplomacyPricing} {kind : SocialOfferKind}
    {durationHours : DurationHours} {terms : DiplomacyTerms} {required : ℚ}
    (hrequired : requiredForOffer pricing kind durationHours = some required) :
    (evaluateAiOffer pricing kind durationHours terms).isAcceptance = true
      ↔ (kind = .alliance → asksAnything terms = false)
        ∧ AsksAtMost terms.ask pricing.aiHoldings ∧ required ≤ netValueToAi terms := by
  have hmissing : hasResourceSupplyOffer (some (missingResourceSupply terms.ask.resources
      pricing.aiHoldings.resources)) = true
        ↔ ∃ r, slotsOf pricing.aiHoldings.resources r < slotsOf terms.ask.resources r := by
    rw [hasResourceSupplyOffer_iff]
    apply exists_congr
    intro r
    unfold missingResourceSupply
    rw [slotsOf_countedSlots]
    omega
  unfold evaluateAiOffer
  rw [hrequired]
  dsimp only
  by_cases hpays : kind = .alliance ∧ asksAnything terms = true
  · rw [if_pos hpays]
    constructor
    · intro h
      cases h
    · rintro ⟨hnone, -, -⟩
      rw [hnone hpays.1] at hpays
      cases hpays.2
  · rw [if_neg hpays]
    have hnothing : kind = .alliance → asksAnything terms = false := by
      intro hkind
      by_contra hasks
      exact hpays ⟨hkind, by simpa using hasks⟩
    by_cases hcannot : 0 < terms.ask.gold - pricing.aiHoldings.gold
        ∨ hasResourceSupplyOffer (some (missingResourceSupply terms.ask.resources
          pricing.aiHoldings.resources)) = true
    · rw [if_pos hcannot]
      constructor
      · intro h
        cases h
      · rintro ⟨-, ⟨hgold, hslots⟩, -⟩
        rcases hcannot with hless | hless
        · omega
        · obtain ⟨r, hr⟩ := hmissing.mp hless
          have := hslots r
          omega
    · rw [if_neg hcannot]
      have hholds : AsksAtMost terms.ask pricing.aiHoldings := by
        refine ⟨?_, fun r => ?_⟩
        · by_contra hless
          exact hcannot (Or.inl (by omega))
        · by_contra hless
          exact hcannot (Or.inr (hmissing.mpr ⟨r, by omega⟩))
      by_cases hshort : 0 < required - netValueToAi terms
      · rw [if_pos hshort]
        constructor
        · intro h
          cases h
        · rintro ⟨-, -, henough⟩
          linarith
      · rw [if_neg hshort]
        refine ⟨fun _ => ⟨hnothing, hholds, by linarith⟩, fun _ => rfl⟩

end BorderEmpires.Social
