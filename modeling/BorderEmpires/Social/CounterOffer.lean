/-
  BorderEmpires.Social.CounterOffer
  **THE COUNTER TO AN OFFER THAT IS NOT ENOUGH.**

  To an offer it does not accept an AI answers with the same terms, asking
  less of itself and then more of the requester, up to what the requester
  holds; or it says that everything the requester holds is too little.
-/
import BorderEmpires.Social.Pricing

namespace BorderEmpires.Social

open BorderEmpires.Trades
open Greedy (units units_le units_of_owed foldl_keeps foldl_exhausts)

/-! ## §1. The counter offer. -/

inductive AiCounterOffer where
  | counter (terms : DiplomacyTerms)
  | cannotAfford (shortfall : ℤ)
  | refuses

/-- The terms as they are changed, and what they still lack. -/
structure Draft where
  next : DiplomacyTerms
  deficit : ℚ

/-- The terms the counter starts from: nothing asked that the AI does not
hold, nor anything at all for an alliance. -/
def payableTermsOf (pricing : AiDiplomacyPricing) (kind : SocialOfferKind)
    (terms : DiplomacyTerms) : DiplomacyTerms :=
  let resources := some (clampedResourceSupply terms.ask.resources pricing.aiHoldings.resources)
  { give := terms.give
    ask :=
      match kind with
      | .alliance => ⟨0, none⟩
      | .truce =>
          ⟨min terms.ask.gold pricing.aiHoldings.gold,
            if hasResourceSupplyOffer resources then resources else none⟩
    supplyDurationHours := terms.supplyDurationHours }

/-- Ask for less coin; the deficit is positive here. -/
def dropAskGold (d : Draft) : Draft :=
  let dropped := min d.next.ask.gold ⌈d.deficit⌉₊
  { next := { d.next with ask := { d.next.ask with gold := d.next.ask.gold - dropped } }
    deficit := d.deficit - dropped }

def dropAsk (d : Draft) (r : TradableSupplyResource) : Draft :=
  if d.deficit ≤ 0 then d
  else
    let drop := units (slotsOf d.next.ask.resources r) d.deficit (unitValue r)
    if 0 < drop ∧ d.next.ask.resources.isSome = true then
      { next :=
          { d.next with
            ask := d.next.ask.setSlots r (slotsOf d.next.ask.resources r - drop) }
        deficit := d.deficit - drop * unitValue r }
    else d

/-- Ask the requester for coin. -/
def addGiveGold (holdings : Holdings) (d : Draft) : Draft :=
  if 0 < d.deficit then
    let added := min (holdings.gold - d.next.give.gold).toNat ⌈d.deficit⌉₊
    { next := { d.next with give := { d.next.give with gold := d.next.give.gold + added } }
      deficit := d.deficit - added }
  else d

def addGive (holdings : Holdings) (d : Draft) (r : TradableSupplyResource) : Draft :=
  if d.deficit ≤ 0 then d
  else
    let available := (holdings.slots r - slotsOf d.next.give.resources r).toNat
    let add := units available d.deficit (unitValue r)
    if 0 < add then
      { next :=
          { d.next with
            give := d.next.give.setSlots r (slotsOf d.next.give.resources r + add) }
        deficit := d.deficit - add * unitValue r }
    else d

/-- The draft once everything has been tried. -/
def draftCounter (required : ℚ) (next : DiplomacyTerms) (holdings : Holdings) : Draft :=
  TRADABLE_SUPPLY_RESOURCES.foldl (addGive holdings)
    (addGiveGold holdings
      (TRADABLE_SUPPLY_RESOURCES.foldl dropAsk (dropAskGold ⟨next, required - netValueToAi next⟩)))

def aiCounterOffer (pricing : AiDiplomacyPricing) (kind : SocialOfferKind)
    (durationHours : DurationHours) (terms : DiplomacyTerms) (requesterHoldings : Holdings) :
    AiCounterOffer :=
  match requiredForOffer pricing kind durationHours with
  | none => .refuses
  | some required =>
      let next := payableTermsOf pricing kind terms
      if required - netValueToAi next ≤ 0 then .counter next
      else
        let d := draftCounter required next requesterHoldings
        if 0 < d.deficit then .cannotAfford ⌈d.deficit⌉ else .counter d.next

/-! ## §2. What the answer promises. -/

/-- No more of anything than the larger of what was offered and what is held. -/
def WithinMeans (goods offered : DiplomacyGoods) (holdings : Holdings) : Prop :=
  (goods.gold : ℤ) ≤ max (offered.gold : ℤ) holdings.gold
    ∧ ∀ r, (slotsOf goods.resources r : ℤ)
        ≤ max (slotsOf offered.resources r : ℤ) (holdings.slots r)

/-- **What an answer promises**: a counter is accepted and stays within both
sides' means; what cannot be afforded, nothing within the requester's means
pays for. -/
def AnswerRight (pricing : AiDiplomacyPricing) (kind : SocialOfferKind)
    (durationHours : DurationHours) (terms : DiplomacyTerms) (holdings : Holdings) :
    AiCounterOffer → Prop
  | .counter next =>
      (evaluateAiOffer pricing kind durationHours next).isAcceptance = true
        ∧ AsksAtMost next.ask terms.ask ∧ WithinMeans next.give terms.give holdings
  | .cannotAfford _ =>
      ∀ other : DiplomacyTerms, WithinMeans other.give terms.give holdings →
        (evaluateAiOffer pricing kind durationHours other).isAcceptance = false
  | .refuses =>
      ∀ other : DiplomacyTerms,
        (evaluateAiOffer pricing kind durationHours other).isAcceptance = false

/-! ## §3. What each step keeps. -/

/-- **What a draft keeps** on the way from the terms it starts from: the
deficit is what the terms lack, less and less is asked, more and more is
given, and never beyond the requester's means. -/
structure Draft.Held (required : ℚ) (start : DiplomacyTerms) (holdings : Holdings) (d : Draft) :
    Prop where
  owed : d.deficit = required - netValueToAi d.next
  ask : AsksAtMost d.next.ask start.ask
  kept : AsksAtMost start.give d.next.give
  give : WithinMeans d.next.give start.give holdings

variable {required : ℚ} {start : DiplomacyTerms} {holdings : Holdings} {d : Draft}

theorem Draft.Held.initial (required : ℚ) (start : DiplomacyTerms) (holdings : Holdings) :
    Draft.Held required start holdings ⟨start, required - netValueToAi start⟩ where
  owed := rfl
  ask := ⟨Nat.le_refl _, fun _ => Nat.le_refl _⟩
  kept := ⟨Nat.le_refl _, fun _ => Nat.le_refl _⟩
  give := ⟨Int.le_max_left _ _, fun _ => Int.le_max_left _ _⟩

theorem Draft.Held.dropAskGold (h : Draft.Held required start holdings d) :
    Draft.Held required start holdings (dropAskGold d) where
  owed := by
    have hle : min d.next.ask.gold ⌈d.deficit⌉₊ ≤ d.next.ask.gold := Nat.min_le_left _ _
    have howed := h.owed
    unfold Social.dropAskGold netValueToAi at *
    dsimp only
    rw [Nat.cast_sub hle]
    linarith
  ask := ⟨Nat.le_trans (Nat.sub_le _ _) h.ask.1, h.ask.2⟩
  kept := h.kept
  give := h.give

theorem Draft.Held.dropAsk (h : Draft.Held required start holdings d)
    (r : TradableSupplyResource) : Draft.Held required start holdings (dropAsk d r) := by
  unfold Social.dropAsk
  split
  · exact h
  dsimp only
  split
  · have hle := units_le (slotsOf d.next.ask.resources r) d.deficit (unitValue r)
    refine ⟨?_, ⟨h.ask.1, fun r' => ?_⟩, h.kept, h.give⟩
    · have howed := h.owed
      unfold netValueToAi at *
      dsimp only
      rw [coinValue_setSlots, gold_setSlots, Nat.cast_sub hle]
      linarith
    · have hask := h.ask.2 r'
      rw [slotsOf_setSlots]
      split
      · rename_i heq
        rw [heq] at hask ⊢
        omega
      · exact hask
  · exact h

theorem Draft.Held.addGiveGold (h : Draft.Held required start holdings d) :
    Draft.Held required start holdings (addGiveGold holdings d) := by
  unfold Social.addGiveGold
  split
  · refine ⟨?_, h.ask, ⟨?_, h.kept.2⟩, ⟨?_, h.give.2⟩⟩
    · have howed := h.owed
      unfold netValueToAi at *
      dsimp only
      rw [Nat.cast_add]
      linarith
    · exact Nat.le_trans h.kept.1 (Nat.le_add_right _ _)
    · have hgive := h.give.1
      have hkept := h.kept.1
      dsimp only
      omega
  · exact h

theorem Draft.Held.addGive (h : Draft.Held required start holdings d)
    (r : TradableSupplyResource) : Draft.Held required start holdings (addGive holdings d r) := by
  unfold Social.addGive
  split
  · exact h
  dsimp only
  split
  · have hle := units_le (holdings.slots r - slotsOf d.next.give.resources r).toNat d.deficit
      (unitValue r)
    refine ⟨?_, h.ask, ⟨h.kept.1, fun r' => ?_⟩, ⟨h.give.1, fun r' => ?_⟩⟩
    · have howed := h.owed
      unfold netValueToAi at *
      dsimp only
      rw [coinValue_setSlots, gold_setSlots, Nat.cast_add]
      linarith
    · have hkept := h.kept.2 r'
      rw [slotsOf_setSlots]
      split
      · rename_i heq
        rw [heq] at hkept ⊢
        omega
      · exact hkept
    · have hgive := h.give.2 r'
      rw [slotsOf_setSlots]
      split
      · rename_i heq
        rw [heq] at hgive ⊢
        omega
      · exact hgive
  · exact h

/-- **Run lemma**: the draft that has tried everything keeps it all. -/
theorem held_draftCounter (required : ℚ) (start : DiplomacyTerms) (holdings : Holdings) :
    Draft.Held required start holdings (draftCounter required start holdings) := by
  unfold draftCounter
  apply foldl_keeps (fun _ r hd => hd.addGive r)
  apply Draft.Held.addGiveGold
  apply foldl_keeps (fun _ r hd => hd.dropAsk r)
  exact (Draft.Held.initial required start holdings).dropAskGold

/-! ## §4. What a deficit says. -/

theorem min_ceil_eq_units (available : ℕ) (owed : ℚ) :
    min available ⌈owed⌉₊ = units available owed 1 := by
  unfold units
  rw [if_neg one_ne_zero, div_one]

theorem dropAskGold_exhausts (d : Draft) (h : 0 < (dropAskGold d).deficit) :
    (dropAskGold d).next.ask.gold = 0 := by
  unfold dropAskGold at h ⊢
  dsimp only at h ⊢
  rw [min_ceil_eq_units] at h ⊢
  have hall := units_of_owed d.next.ask.gold d.deficit zero_le_one
    (by rw [mul_one]; exact h)
  rw [hall, Nat.sub_self]

theorem dropAsk_stops (d : Draft) (r : TradableSupplyResource) (h : d.deficit ≤ 0) :
    (dropAsk d r).deficit ≤ 0 := by
  unfold dropAsk
  rw [if_pos h]
  exact h

theorem dropAsk_exhausts (d : Draft) (r : TradableSupplyResource)
    (h : 0 < (dropAsk d r).deficit) : slotsOf (dropAsk d r).next.ask.resources r = 0 := by
  unfold dropAsk at h ⊢
  by_cases hdone : d.deficit ≤ 0
  · rw [if_pos hdone] at h
    exact absurd h (not_lt.mpr hdone)
  · rw [if_neg hdone] at h ⊢
    dsimp only at h ⊢
    split at h
    · rename_i hdrop
      rw [if_pos hdrop]
      have hall := units_of_owed _ _ (unitValue_nonneg r) h
      dsimp only
      rw [slotsOf_setSlots, if_pos rfl, hall, Nat.sub_self]
    · rename_i hdrop
      rw [if_neg hdrop]
      -- nothing to drop: the AI is asked for none of it
      by_contra hsome
      apply hdrop
      have hall : units (slotsOf d.next.ask.resources r) d.deficit (unitValue r) = 0 →
          slotsOf d.next.ask.resources r = 0 := by
        intro hzero
        have hall := units_of_owed (slotsOf d.next.ask.resources r) d.deficit
          (unitValue_nonneg r)
          (by rw [hzero, Nat.cast_zero, zero_mul, sub_zero]; exact h)
        rw [← hall]
        exact hzero
      refine ⟨Nat.pos_of_ne_zero fun hzero => hsome (hall hzero), ?_⟩
      cases hres : d.next.ask.resources with
      | none =>
          rw [hres] at hsome
          exact absurd rfl hsome
      | some slots => rfl

theorem dropAsk_keeps_none (d : Draft) (r r' : TradableSupplyResource)
    (h : slotsOf d.next.ask.resources r = 0) :
    slotsOf (dropAsk d r').next.ask.resources r = 0 := by
  unfold dropAsk
  split
  · exact h
  dsimp only
  split
  · dsimp only
    rw [slotsOf_setSlots]
    split
    · rename_i heq
      rw [← heq, h, Nat.zero_sub]
    · exact h
  · exact h

theorem dropAsk_gold (d : Draft) (r : TradableSupplyResource) :
    (dropAsk d r).next.ask.gold = d.next.ask.gold := by
  unfold dropAsk
  split
  · rfl
  dsimp only
  split
  · rfl
  · rfl

theorem addGiveGold_stops (holdings : Holdings) (d : Draft) (h : d.deficit ≤ 0) :
    (addGiveGold holdings d).deficit ≤ 0 := by
  unfold addGiveGold
  rw [if_neg (not_lt.mpr h)]
  exact h

theorem addGiveGold_exhausts (holdings : Holdings) (d : Draft)
    (h : 0 < (addGiveGold holdings d).deficit) :
    holdings.gold ≤ (addGiveGold holdings d).next.give.gold := by
  unfold addGiveGold at h ⊢
  by_cases howed : 0 < d.deficit
  · rw [if_pos howed] at h ⊢
    dsimp only at h ⊢
    rw [min_ceil_eq_units] at h ⊢
    have hall := units_of_owed (holdings.gold - d.next.give.gold).toNat d.deficit
      zero_le_one (by rw [mul_one]; exact h)
    rw [hall]
    omega
  · rw [if_neg howed] at h
    exact absurd h howed

theorem addGiveGold_ask (holdings : Holdings) (d : Draft) :
    (addGiveGold holdings d).next.ask = d.next.ask := by
  unfold addGiveGold
  split
  · rfl
  · rfl

theorem addGive_stops (holdings : Holdings) (d : Draft) (r : TradableSupplyResource)
    (h : d.deficit ≤ 0) : (addGive holdings d r).deficit ≤ 0 := by
  unfold addGive
  rw [if_pos h]
  exact h

theorem addGive_exhausts (holdings : Holdings) (d : Draft) (r : TradableSupplyResource)
    (h : 0 < (addGive holdings d r).deficit) :
    holdings.slots r ≤ slotsOf (addGive holdings d r).next.give.resources r := by
  unfold addGive at h ⊢
  by_cases hdone : d.deficit ≤ 0
  · rw [if_pos hdone] at h
    exact absurd h (not_lt.mpr hdone)
  · rw [if_neg hdone] at h ⊢
    dsimp only at h ⊢
    split at h
    · rename_i hadd
      rw [if_pos hadd]
      have hall := units_of_owed _ _ (unitValue_nonneg r) h
      dsimp only
      rw [slotsOf_setSlots, if_pos rfl, hall]
      omega
    · rename_i hadd
      rw [if_neg hadd]
      -- nothing to add: the requester holds no more of it
      have hzero : units (holdings.slots r - slotsOf d.next.give.resources r).toNat d.deficit
          (unitValue r) = 0 := by omega
      have hall := units_of_owed (holdings.slots r - slotsOf d.next.give.resources r).toNat
        d.deficit (unitValue_nonneg r)
        (by rw [hzero, Nat.cast_zero, zero_mul, sub_zero]; exact h)
      rw [hzero] at hall
      omega

theorem addGive_keeps (holdings : Holdings) (d : Draft) (r r' : TradableSupplyResource)
    (h : holdings.slots r ≤ slotsOf d.next.give.resources r) :
    holdings.slots r ≤ slotsOf (addGive holdings d r').next.give.resources r := by
  unfold addGive
  split
  · exact h
  dsimp only
  split
  · dsimp only
    rw [slotsOf_setSlots]
    split
    · rename_i heq
      rw [← heq]
      omega
    · exact h
  · exact h

theorem addGive_fixed (holdings : Holdings) (d : Draft) (r : TradableSupplyResource) :
    (addGive holdings d r).next.ask = d.next.ask
      ∧ (addGive holdings d r).next.give.gold = d.next.give.gold := by
  unfold addGive
  split
  · exact ⟨rfl, rfl⟩
  dsimp only
  split
  · exact ⟨rfl, rfl⟩
  · exact ⟨rfl, rfl⟩

/-- **What is left lacking has tried everything**: nothing is asked any more,
and all that the requester holds is given. -/
theorem draftCounter_exhausts (required : ℚ) (start : DiplomacyTerms) (holdings : Holdings)
    (h : 0 < (draftCounter required start holdings).deficit) :
    (draftCounter required start holdings).next.ask.gold = 0
      ∧ (∀ r, slotsOf (draftCounter required start holdings).next.ask.resources r = 0)
      ∧ holdings.gold ≤ (draftCounter required start holdings).next.give.gold
      ∧ ∀ r, holdings.slots r
          ≤ slotsOf (draftCounter required start holdings).next.give.resources r := by
  unfold draftCounter at h ⊢
  generalize hgold : dropAskGold ⟨start, required - netValueToAi start⟩ = d₁ at h ⊢
  generalize hdropped : TRADABLE_SUPPLY_RESOURCES.foldl dropAsk d₁ = d₂ at h ⊢
  generalize hpaid : addGiveGold holdings d₂ = d₃ at h ⊢
  -- nothing is owed at the end if nothing is owed on the way
  have howed₃ : 0 < d₃.deficit := by
    by_contra hsettled
    have hend := foldl_keeps (I := fun d : Draft => d.deficit ≤ 0)
      (fun d r hd => addGive_stops holdings d r hd) TRADABLE_SUPPLY_RESOURCES d₃
      (not_lt.mp hsettled)
    exact absurd h (not_lt.mpr hend)
  have howed₂ : 0 < d₂.deficit := by
    by_contra hsettled
    have hend := addGiveGold_stops holdings d₂ (not_lt.mp hsettled)
    rw [hpaid] at hend
    exact absurd howed₃ (not_lt.mpr hend)
  have howed₁ : 0 < d₁.deficit := by
    by_contra hsettled
    have hend := foldl_keeps (I := fun d : Draft => d.deficit ≤ 0) dropAsk_stops
      TRADABLE_SUPPLY_RESOURCES d₁ (not_lt.mp hsettled)
    rw [hdropped] at hend
    exact absurd howed₂ (not_lt.mpr hend)
  have hask₁ : d₁.next.ask.gold = 0 := by
    rw [← hgold] at howed₁ ⊢
    exact dropAskGold_exhausts _ howed₁
  have hask₂ : d₂.next.ask.gold = 0 ∧ ∀ r, slotsOf d₂.next.ask.resources r = 0 := by
    rw [← hdropped] at howed₂ ⊢
    constructor
    · exact foldl_keeps (I := fun d : Draft => d.next.ask.gold = 0)
        (fun d r hd => (dropAsk_gold d r).trans hd) TRADABLE_SUPPLY_RESOURCES d₁ hask₁
    · exact fun r => foldl_exhausts dropAsk_stops dropAsk_exhausts
        (fun d r r' => dropAsk_keeps_none d r r') TRADABLE_SUPPLY_RESOURCES d₁ howed₂ r
        (mem_tradable r)
  have hask₃ : d₃.next.ask = d₂.next.ask := by
    rw [← hpaid]
    exact addGiveGold_ask holdings d₂
  have hgive₃ : holdings.gold ≤ d₃.next.give.gold := by
    rw [← hpaid] at howed₃ ⊢
    exact addGiveGold_exhausts holdings d₂ howed₃
  have hfixed := foldl_keeps
    (I := fun d : Draft => d.next.ask = d₂.next.ask ∧ holdings.gold ≤ d.next.give.gold)
    (fun d r hd => ⟨(addGive_fixed holdings d r).1.trans hd.1,
      le_of_le_of_eq hd.2 (congrArg Int.ofNat (addGive_fixed holdings d r).2).symm⟩)
    TRADABLE_SUPPLY_RESOURCES d₃ ⟨hask₃, hgive₃⟩
  rw [hfixed.1]
  refine ⟨hask₂.1, hask₂.2, hfixed.2, fun r => ?_⟩
  exact foldl_exhausts (addGive_stops holdings) (addGive_exhausts holdings)
    (fun d r r' => addGive_keeps holdings d r r') TRADABLE_SUPPLY_RESOURCES d₃ h r
    (mem_tradable r)

/-! ## §5. Counters. -/

theorem AsksAtMost.trans {a b c : DiplomacyGoods} (h : AsksAtMost a b) (h' : AsksAtMost b c) :
    AsksAtMost a c :=
  ⟨Nat.le_trans h.1 h'.1, fun r => Nat.le_trans (h.2 r) (h'.2 r)⟩

theorem payableTermsOf_ask (pricing : AiDiplomacyPricing) (kind : SocialOfferKind)
    (terms : DiplomacyTerms) :
    AsksAtMost (payableTermsOf pricing kind terms).ask terms.ask
      ∧ AsksAtMost (payableTermsOf pricing kind terms).ask pricing.aiHoldings
      ∧ (kind = .alliance → AsksAtMost (payableTermsOf pricing kind terms).ask ⟨0, none⟩) := by
  unfold payableTermsOf
  cases kind with
  | alliance =>
      exact ⟨⟨Nat.zero_le _, fun _ => Nat.zero_le _⟩, ⟨Nat.zero_le _, fun _ => Nat.zero_le _⟩,
        fun _ => ⟨Nat.le_refl _, fun _ => Nat.le_refl _⟩⟩
  | truce =>
      have hclamped : ∀ r, slotsOf
          (if hasResourceSupplyOffer (some (clampedResourceSupply terms.ask.resources
              pricing.aiHoldings.resources)) = true
            then some (clampedResourceSupply terms.ask.resources pricing.aiHoldings.resources)
            else none) r
          ≤ min (slotsOf terms.ask.resources r) (slotsOf pricing.aiHoldings.resources r) := by
        intro r
        split
        · unfold clampedResourceSupply
          rw [slotsOf_countedSlots]
        · exact Nat.zero_le _
      refine ⟨⟨Nat.min_le_left _ _, fun r => ?_⟩, ⟨Nat.min_le_right _ _, fun r => ?_⟩, ?_⟩
      · exact Nat.le_trans (hclamped r) (Nat.min_le_left _ _)
      · exact Nat.le_trans (hclamped r) (Nat.min_le_right _ _)
      · intro hkind
        cases hkind

theorem asksAnything_eq_false {terms : DiplomacyTerms} (h : AsksAtMost terms.ask ⟨0, none⟩) :
    asksAnything terms = false := by
  unfold asksAnything
  have hgold : terms.ask.gold = 0 := Nat.le_zero.mp h.1
  have hslots : hasResourceSupplyOffer terms.ask.resources = false := by
    by_contra hsome
    obtain ⟨r, hr⟩ := (hasResourceSupplyOffer_iff _).mp (by simpa using hsome)
    exact absurd (h.2 r) (not_le.mpr hr)
  rw [hgold, hslots]
  rfl

theorem counter_right {pricing : AiDiplomacyPricing} {kind : SocialOfferKind}
    {durationHours : DurationHours} {terms : DiplomacyTerms} {holdings : Holdings} {required : ℚ}
    (hrequired : requiredForOffer pricing kind durationHours = some required) {d : Draft}
    (hd : Draft.Held required (payableTermsOf pricing kind terms) holdings d)
    (henough : d.deficit ≤ 0) :
    AnswerRight pricing kind durationHours terms holdings (.counter d.next) := by
  obtain ⟨hterms, hholds, hnothing⟩ := payableTermsOf_ask pricing kind terms
  refine ⟨?_, hd.ask.trans hterms, hd.give⟩
  rw [accepts_iff hrequired]
  refine ⟨fun hkind => asksAnything_eq_false (hd.ask.trans (hnothing hkind)),
    hd.ask.trans hholds, ?_⟩
  have howed := hd.owed
  linarith

theorem cannotAfford_right {pricing : AiDiplomacyPricing} {kind : SocialOfferKind}
    {durationHours : DurationHours} {terms : DiplomacyTerms} {holdings : Holdings} {required : ℚ}
    (hrequired : requiredForOffer pricing kind durationHours = some required) (shortfall : ℤ)
    (h : 0 < (draftCounter required (payableTermsOf pricing kind terms) holdings).deficit) :
    AnswerRight pricing kind durationHours terms holdings (.cannotAfford shortfall) := by
  intro other hmeans
  have hheld := held_draftCounter required (payableTermsOf pricing kind terms) holdings
  obtain ⟨haskGold, haskSlots, hgiveGold, hgiveSlots⟩ :=
    draftCounter_exhausts required (payableTermsOf pricing kind terms) holdings h
  have howed := hheld.owed
  have hkept := hheld.kept
  generalize draftCounter required (payableTermsOf pricing kind terms) holdings = d
    at h haskGold haskSlots hgiveGold hgiveSlots howed hkept
  -- no terms within the means bring the AI more than the draft does
  have hgold : other.give.gold ≤ d.next.give.gold := by
    have hother := hmeans.1
    have hoffered : terms.give.gold ≤ d.next.give.gold := hkept.1
    omega
  have hslots : ∀ r, slotsOf other.give.resources r ≤ slotsOf d.next.give.resources r := by
    intro r
    have hother := hmeans.2 r
    have hoffered : slotsOf terms.give.resources r ≤ slotsOf d.next.give.resources r := hkept.2 r
    have hall := hgiveSlots r
    omega
  have hnet : netValueToAi other ≤ netValueToAi d.next := by
    have hcoin : (other.give.gold : ℚ) ≤ (d.next.give.gold : ℚ) := Nat.cast_le.mpr hgold
    have hask : (0 : ℚ) ≤ (other.ask.gold : ℚ) := Nat.cast_nonneg _
    have hworth := coinValue_le hslots
    have hasked := coinValue_nonneg other.ask.resources
    unfold netValueToAi
    rw [haskGold, coinValue_of_none haskSlots, Nat.cast_zero]
    linarith
  rw [← Bool.not_eq_true, accepts_iff hrequired]
  rintro ⟨-, -, henough⟩
  linarith

/-- **Counters are sound, and their absence is complete**: whatever the AI
answers, a counter is accepted, asks it for no more than the offer did and
takes no more than was offered or is held; and where it says that this is not
enough, no terms within the same means are accepted. -/
theorem aiCounterOffer_right (pricing : AiDiplomacyPricing) (kind : SocialOfferKind)
    (durationHours : DurationHours) (terms : DiplomacyTerms) (requesterHoldings : Holdings) :
    AnswerRight pricing kind durationHours terms requesterHoldings
      (aiCounterOffer pricing kind durationHours terms requesterHoldings) := by
  unfold aiCounterOffer
  cases hrequired : requiredForOffer pricing kind durationHours with
  | none =>
      intro other
      unfold evaluateAiOffer
      rw [hrequired]
      rfl
  | some required =>
      dsimp only
      split
      · rename_i henough
        exact counter_right hrequired (Draft.Held.initial required _ requesterHoldings) henough
      · have hcannot : ∀ shortfall, 0 < (draftCounter required
            (payableTermsOf pricing kind terms) requesterHoldings).deficit →
            AnswerRight pricing kind durationHours terms requesterHoldings
              (.cannotAfford shortfall) :=
          fun shortfall hlacks => cannotAfford_right hrequired shortfall hlacks
        have hcounter : ¬ 0 < (draftCounter required
            (payableTermsOf pricing kind terms) requesterHoldings).deficit →
            AnswerRight pricing kind durationHours terms requesterHoldings
              (.counter (draftCounter required (payableTermsOf pricing kind terms)
                requesterHoldings).next) :=
          fun hlacks => counter_right hrequired (held_draftCounter required _ requesterHoldings)
            (not_lt.mp hlacks)
        generalize draftCounter required (payableTermsOf pricing kind terms) requesterHoldings = d
          at hcannot hcounter
        by_cases hlacks : 0 < d.deficit
        · rw [if_pos hlacks]
          exact hcannot _ hlacks
        · rw [if_neg hlacks]
          exact hcounter hlacks

end BorderEmpires.Social
