/-
  BorderEmpires.Manpower.Settling
  **MANPOWER IS SETTLED LAZILY, AND THE MOMENTS DO NOT MATTER.**

  A player's manpower is brought up to date whenever somebody looks at it:
  regeneration since the last settle goes to a bank, and the bank is paid
  out at the player's own refill boundaries.  Below the cap this is the
  wallet of `BorderEmpires.Lib.Instalments`; above it nothing accrues and
  the pool is only cut to the ceiling.

  Amounts are exact rationals; a record's non-finite number is `none`.
-/
import Mathlib.Algebra.Order.Ring.Rat
import Mathlib.Algebra.Field.Rat
import Mathlib.Data.Rat.Floor
import BorderEmpires.Lib.Instalments
import BorderEmpires.Lib.Utf16

namespace BorderEmpires.Manpower

open Instalments

/-! ## §1. The cap. -/

inductive TownTier where
  | SETTLEMENT
  | TOWN
  | CITY
  | GREAT_CITY
  | METROPOLIS
  deriving DecidableEq

inductive TownTerrainProfileId where
  | TUNDRA
  | DESERT
  | GRASS
  | COASTAL_DESERT
  deriving DecidableEq

/-- `TOWN_MANPOWER_BY_TIER[tier].cap`. -/
def TownTier.cap : TownTier → ℚ
  | .SETTLEMENT => 150
  | .TOWN => 300
  | .CITY => 450
  | .GREAT_CITY => 750
  | .METROPOLIS => 1350

/-- `TOWN_TERRAIN_PROFILES[profile].manpowerCapacityMultiplier`. -/
def TownTerrainProfileId.manpowerCapacityMultiplier : TownTerrainProfileId → ℚ
  | .TUNDRA => 55 / 100
  | .DESERT => 60 / 100
  | .GRASS => 1
  | .COASTAL_DESERT => 60 / 100

def COASTAL_TOWN_CAPACITY_MULTIPLIER : ℚ := 12 / 10

def townIsCoastal (profile : Option TownTerrainProfileId) (coastal : Bool) : Bool :=
  coastal || decide (profile = some .COASTAL_DESERT)

/-- The capacity part of `townTerrainModifiers`. -/
def townCapacityModifier (profile : Option TownTerrainProfileId) (coastal : Bool) : ℚ :=
  let read := if profile = some .COASTAL_DESERT then some .DESERT else profile
  let terrain := (read.getD .GRASS).manpowerCapacityMultiplier
  if townIsCoastal profile coastal then terrain * COASTAL_TOWN_CAPACITY_MULTIPLIER else terrain

/-- `terrainAdjustedTownManpower(tier, profile, coastal).cap`. -/
def terrainAdjustedTownManpowerCap (tier : TownTier) (profile : Option TownTerrainProfileId)
    (coastal : Bool) : ℚ :=
  tier.cap * townCapacityModifier profile coastal

/-- One owned town of the player's summary; `biotaTier` is the lower tier
of a town short of biota. -/
structure OwnedTown where
  tier : TownTier
  biotaTier : Option TownTier
  profile : Option TownTerrainProfileId
  coastal : Bool

def OwnedTown.cap (town : OwnedTown) : ℚ :=
  terrainAdjustedTownManpowerCap (town.biotaTier.getD town.tier) town.profile town.coastal

/-- An Ancillary Depot's town: its own capacity and the Depots it supports. -/
structure DepotTown where
  town : OwnedTown
  count : Nat
  reserveLatticeActive : Bool

def ancillaryFactoryCapacityBonus (terrainAdjustedBaseCapacity : ℚ) (count : Nat)
    (reserveLatticeActive : Bool) : ℚ :=
  count * (150 + terrainAdjustedBaseCapacity
    * (if reserveLatticeActive then 35 / 100 else 10 / 100))

def DepotTown.bonus (depot : DepotTown) : ℚ :=
  ancillaryFactoryCapacityBonus depot.town.cap depot.count depot.reserveLatticeActive

/-- What the cap of a player is read from. -/
structure ManpowerCapSources where
  towns : List OwnedTown
  ancillaryDepotCount : Nat
  reserveLatticeNetworkAncillaryDepotCount : Nat
  /-- Present as soon as one town supports a Depot. -/
  ancillaryFactoryCapacityBonusByTown : Option (List DepotTown)
  ownedAfcCount : Nat
  conscriptionEngine : Bool
  /-- `additiveEffectForPlayer(player, "alliedLevyShare")`. -/
  levyPerAlly : ℚ
  mutualAfcAllies : Nat

def ANCILLARY_DEPOT_MANPOWER_CAP_BONUS : ℚ := 150
def NEURAL_WORKS_NETWORK_MANPOWER_CAP_PER_ANCILLARY_DEPOT : ℚ := 300
def STARTING_CAPITAL_MANPOWER_CAP : ℚ := 720
def CONSCRIPTION_ENGINE_MANPOWER_CAP : ℚ := 2000
def ALLIED_LEVY_MAX_ALLIES : Nat := 3
def MAX_SAFE_INTEGER : ℚ := 2 ^ 53 - 1

def playerManpowerCapFromSummary (sources : ManpowerCapSources) (depotCount latticeCount : Nat) : ℚ :=
  (if 0 < sources.ownedAfcCount then STARTING_CAPITAL_MANPOWER_CAP else 0)
    + ((sources.towns.map OwnedTown.cap).sum
      + depotCount * ANCILLARY_DEPOT_MANPOWER_CAP_BONUS
      + latticeCount * NEURAL_WORKS_NETWORK_MANPOWER_CAP_PER_ANCILLARY_DEPOT
      + (((sources.ancillaryFactoryCapacityBonusByTown.getD []).map DepotTown.bonus).sum)
      + (min sources.ownedAfcCount 1 : Nat) * TownTier.cap .SETTLEMENT)

def baseManpowerCap (playerId : String) (sources : ManpowerCapSources) : ℚ :=
  if playerId = "barbarian-1" then MAX_SAFE_INTEGER
  else
    let perTown := sources.ancillaryFactoryCapacityBonusByTown.isSome
    playerManpowerCapFromSummary sources
        (if perTown then 0 else sources.ancillaryDepotCount)
        (if perTown then 0 else sources.reserveLatticeNetworkAncillaryDepotCount)
      + (if sources.conscriptionEngine then CONSCRIPTION_ENGINE_MANPOWER_CAP else 0)

def afcAlliedLevyShare (sources : ManpowerCapSources) : ℚ :=
  if sources.levyPerAlly ≤ 0 then 0
  else sources.levyPerAlly * (min ALLIED_LEVY_MAX_ALLIES sources.mutualAfcAllies : Nat)

def playerManpowerCap (playerId : String) (sources : ManpowerCapSources) : ℚ :=
  baseManpowerCap playerId sources * (1 + afcAlliedLevyShare sources)

theorem townCapacityModifier_nonneg (profile : Option TownTerrainProfileId) (coastal : Bool) :
    0 ≤ townCapacityModifier profile coastal := by
  rcases profile with _ | profile <;> [skip; cases profile] <;> cases coastal <;> decide +kernel

theorem OwnedTown.cap_nonneg (town : OwnedTown) : 0 ≤ town.cap := by
  have htier : ∀ tier : TownTier, 0 ≤ tier.cap := by
    intro tier
    cases tier <;> decide +kernel
  exact mul_nonneg (htier _) (townCapacityModifier_nonneg _ _)

theorem DepotTown.bonus_nonneg (depot : DepotTown) : 0 ≤ depot.bonus := by
  have hbase := depot.town.cap_nonneg
  unfold DepotTown.bonus ancillaryFactoryCapacityBonus
  split <;> positivity

theorem sum_map_nonneg {α : Type} (f : α → ℚ) (hf : ∀ a, 0 ≤ f a) (l : List α) :
    0 ≤ (l.map f).sum := by
  induction l with
  | nil => simp
  | cons a rest ih =>
      have ha := hf a
      simp only [List.map_cons, List.sum_cons]
      linarith

/-- **A cap is never negative**, whatever a player owns. -/
theorem playerManpowerCap_nonneg (playerId : String) (sources : ManpowerCapSources) :
    0 ≤ playerManpowerCap playerId sources := by
  have hsummary : ∀ depotCount latticeCount : Nat,
      0 ≤ playerManpowerCapFromSummary sources depotCount latticeCount := by
    intro depotCount latticeCount
    have htowns := sum_map_nonneg OwnedTown.cap OwnedTown.cap_nonneg sources.towns
    have hdepots := sum_map_nonneg DepotTown.bonus DepotTown.bonus_nonneg
      (sources.ancillaryFactoryCapacityBonusByTown.getD [])
    unfold playerManpowerCapFromSummary STARTING_CAPITAL_MANPOWER_CAP
      ANCILLARY_DEPOT_MANPOWER_CAP_BONUS NEURAL_WORKS_NETWORK_MANPOWER_CAP_PER_ANCILLARY_DEPOT
      TownTier.cap
    split <;> positivity
  have hbase : 0 ≤ baseManpowerCap playerId sources := by
    unfold baseManpowerCap MAX_SAFE_INTEGER CONSCRIPTION_ENGINE_MANPOWER_CAP
    dsimp only
    split
    · norm_num
    · exact add_nonneg (hsummary _ _) (by split <;> norm_num)
  have hshare : 0 ≤ afcAlliedLevyShare sources := by
    unfold afcAlliedLevyShare
    split
    · exact le_rfl
    · next h => exact mul_nonneg (not_le.mp h).le (Nat.cast_nonneg _)
  exact mul_nonneg hbase (by linarith)

/-! ## §2. The refill schedule. -/

def MANPOWER_REFILL_WINDOW_MS : Nat := 4 * 60 * 60 * 1000

def hashPlayerId (playerId : String) : Nat :=
  (Utf16.units playerId).foldl (fun hash unit => ((hash ^^^ unit) * 0x01000193) % 2 ^ 32)
    0x811c9dc5

def manpowerRefillOffsetMs (playerId : String) : Nat :=
  hashPlayerId playerId % MANPOWER_REFILL_WINDOW_MS

/-- The most recent refill boundary at or before `nowMs`. -/
def lastManpowerRefillAtMs (playerId : String) (nowMs : ℚ) : ℚ :=
  lastBoundary (MANPOWER_REFILL_WINDOW_MS : ℚ) (manpowerRefillOffsetMs playerId) nowMs

theorem windowMs_pos : (0 : ℚ) < (MANPOWER_REFILL_WINDOW_MS : ℚ) := by
  unfold MANPOWER_REFILL_WINDOW_MS
  norm_num

theorem lastManpowerRefillAtMs_le (playerId : String) (nowMs : ℚ) :
    lastManpowerRefillAtMs playerId nowMs ≤ nowMs :=
  lastBoundary_le windowMs_pos _ _

theorem lastManpowerRefillAtMs_eq (playerId : String) {s t : ℚ} (hst : s ≤ t)
    (hle : lastManpowerRefillAtMs playerId t ≤ s) :
    lastManpowerRefillAtMs playerId s = lastManpowerRefillAtMs playerId t :=
  lastBoundary_eq_of_le windowMs_pos _ hst hle

/-! ## §3. The settle. -/

structure RuntimePlayer where
  id : String
  manpower : Option ℚ
  manpowerBanked : Option ℚ
  manpowerUpdatedAt : Option ℚ
  manpowerCapSnapshot : Option ℚ
  waystationManpowerOverflow : Option ℚ
  landingReserveGranted : Bool
  deriving DecidableEq

/-- The most manpower `player` may hold. -/
def manpowerCeiling (player : RuntimePlayer) (cap : ℚ) : ℚ :=
  cap + max 0 (player.waystationManpowerOverflow.getD 0)

structure ManpowerAccrual where
  manpower : ℚ
  banked : ℚ
  deriving DecidableEq

def accrueManpower (player : RuntimePlayer) (cap regenPerMinute nowMs : ℚ) : ManpowerAccrual :=
  let banked := max 0 (player.manpowerBanked.getD 0)
  match player.manpower with
  | none => ⟨cap, 0⟩
  | some pool =>
      let ceiling := manpowerCeiling player cap
      match player.manpowerUpdatedAt with
      | none => ⟨min ceiling (max 0 pool), banked⟩
      | some updatedAt =>
          -- overflow above the cap is held as it is
          if cap ≤ pool then ⟨min ceiling pool, 0⟩
          else
            let rate := max 0 regenPerMinute
            let boundary := lastManpowerRefillAtMs player.id nowMs
            if updatedAt < boundary then
              let manpower := min cap (max 0 pool + banked + rate * (boundary - updatedAt) / 60000)
              let pending := rate * max 0 (nowMs - boundary) / 60000
              ⟨manpower, min pending (max 0 (cap - manpower))⟩
            else
              let manpower := max 0 pool
              let pending := banked + rate * max 0 (nowMs - updatedAt) / 60000
              ⟨manpower, min pending (max 0 (cap - manpower))⟩

/-- Shrinks the overflow allowance to what is still held above the cap. -/
def settleWaystationManpowerOverflow (player : RuntimePlayer) (cap : ℚ) : RuntimePlayer :=
  match player.waystationManpowerOverflow with
  | none => player
  | some overflow =>
      let remaining := max 0 (min overflow (player.manpower.getD 0 - cap))
      { player with waystationManpowerOverflow := if 0 < remaining then some remaining else none }

def grantOverflowManpower (player : RuntimePlayer) (amount cap : ℚ) : RuntimePlayer :=
  let manpower := max 0 (player.manpower.getD 0) + amount
  { player with
    manpower := some manpower
    waystationManpowerOverflow :=
      if 0 < manpower - cap then some (manpower - cap) else player.waystationManpowerOverflow }

def LANDING_MANPOWER_RESERVE : ℚ := 2000
def STARTING_CAPITAL_MANPOWER_REGEN_PER_MINUTE : ℚ := 4 / 10

def lateJoinManpowerCatchUp (nowMs : ℚ) (seasonStartedAt : Option ℚ) : ℚ :=
  match seasonStartedAt with
  | none => 0
  | some startedAt =>
      (⌊max 0 (nowMs - startedAt) / 60000 * STARTING_CAPITAL_MANPOWER_REGEN_PER_MINUTE⌋ : ℚ)

def landingManpowerReserve (nowMs : ℚ) (seasonStartedAt : Option ℚ) : ℚ :=
  LANDING_MANPOWER_RESERVE + lateJoinManpowerCatchUp nowMs seasonStartedAt

def isBarbarian (playerId : String) : Bool := playerId.startsWith "barbarian-"

/-- Only the first settle of an empire grants it. -/
def grantLandingManpowerReserve (seasonStartedAt : Option ℚ) (player : RuntimePlayer)
    (cap nowMs : ℚ) : RuntimePlayer :=
  if isBarbarian player.id || player.landingReserveGranted then player
  else
    { grantOverflowManpower player (landingManpowerReserve nowMs seasonStartedAt) cap with
      landingReserveGranted := true }

/-- What a settle reads beside the record; `epsilon` is the bank a settle
drops as rounding dust. -/
structure SettleRules where
  cap : ℚ
  regenPerMinute : ℚ
  seasonStartedAt : Option ℚ
  epsilon : ℚ

variable (rules : SettleRules)

def MANPOWER_EPSILON : ℚ := 1 / 1000000

def stampSettle (nowMs : ℚ) (player : RuntimePlayer) : RuntimePlayer :=
  { player with manpowerUpdatedAt := some nowMs, manpowerCapSnapshot := some rules.cap }

/-- A cap that grew since the last settle lifts the pool with it. -/
def growWithCap (cap pool : ℚ) (player : RuntimePlayer) : RuntimePlayer :=
  let previousCap := player.manpowerCapSnapshot.getD cap
  if previousCap < cap then
    { player with
      manpower := some (min (manpowerCeiling player cap) (max 0 pool + (cap - previousCap))) }
  else player

def writeAccrual (accrual : ManpowerAccrual) (player : RuntimePlayer) : RuntimePlayer :=
  { player with
    manpower := some accrual.manpower
    manpowerBanked := if rules.epsilon < accrual.banked then some accrual.banked else none }

def storeAccrual (accrual : ManpowerAccrual) (player : RuntimePlayer) : RuntimePlayer :=
  settleWaystationManpowerOverflow (writeAccrual rules accrual player) rules.cap

def refreshManpowerOnlyForPlayer (player : RuntimePlayer) (nowMs : ℚ) : RuntimePlayer :=
  match player.manpower with
  | none =>
      stampSettle rules nowMs
        (grantLandingManpowerReserve rules.seasonStartedAt
          { player with manpower := some rules.cap, manpowerBanked := none } rules.cap nowMs)
  | some pool =>
      let grown := growWithCap rules.cap pool player
      match player.manpowerUpdatedAt with
      | none =>
          let held := { grown with
            manpower := grown.manpower.map fun m =>
              max 0 (min (manpowerCeiling player rules.cap) m) }
          stampSettle rules nowMs
            (settleWaystationManpowerOverflow
              (grantLandingManpowerReserve rules.seasonStartedAt held rules.cap nowMs) rules.cap)
      | some _ =>
          stampSettle rules nowMs
            (storeAccrual rules (accrueManpower grown rules.cap rules.regenPerMinute nowMs) grown)

/-! ## §4. Below the cap. -/

/-- A record a settle has left at `at'`: both numbers are finite. -/
def RuntimePlayer.SettledAt (player : RuntimePlayer) (settledAt : ℚ) : Prop :=
  player.manpower.isSome ∧ player.manpowerUpdatedAt = some settledAt

theorem settleWaystation_manpower (player : RuntimePlayer) (cap : ℚ) :
    (settleWaystationManpowerOverflow player cap).manpower = player.manpower := by
  unfold settleWaystationManpowerOverflow
  split <;> rfl

/-- The wallet of a record, as the settle reads it. -/
def walletOf (player : RuntimePlayer) (pool : ℚ) : Wallet ℚ :=
  ⟨max 0 pool, max 0 (player.manpowerBanked.getD 0)⟩

def settleWallet (playerId : String) (since now : ℚ) (w : Wallet ℚ) : Wallet ℚ :=
  w.settle (lastManpowerRefillAtMs playerId) rules.cap (max 0 rules.regenPerMinute / 60000)
    since now

theorem bank_eq (cap manpower pending : ℚ) (h : manpower ≤ cap) :
    min pending (max 0 (cap - manpower)) = min cap (manpower + pending) - manpower := by
  rw [max_eq_right (by linarith)]
  rcases le_total pending (cap - manpower) with hp | hp
  · rw [min_eq_left hp, min_eq_right (by linarith)]
    ring
  · rw [min_eq_right hp, min_eq_left (by linarith)]

theorem rate_nonneg (regenPerMinute : ℚ) : 0 ≤ max 0 regenPerMinute / 60000 :=
  div_nonneg (le_max_left 0 _) (by norm_num)

/-- **Below the cap the accrual is the wallet's settle.** -/
theorem accrueManpower_eq_settle (hcap : 0 ≤ rules.cap) (player : RuntimePlayer)
    {pool since now : ℚ} (hpool : player.manpower = some pool)
    (hsince : player.manpowerUpdatedAt = some since) (hle : pool ≤ rules.cap) (hnow : since ≤ now) :
    accrueManpower player rules.cap rules.regenPerMinute now
      = ⟨(settleWallet rules player.id since now (walletOf player pool)).paid,
          (settleWallet rules player.id since now (walletOf player pool)).banked⟩ := by
  set wallet := settleWallet rules player.id since now (walletOf player pool)
  have hrate := rate_nonneg rules.regenPerMinute
  have hheld : max 0 pool ≤ rules.cap := max_le hcap hle
  have hbank : 0 ≤ max 0 (player.manpowerBanked.getD 0) := le_max_left 0 _
  have hboundary := lastManpowerRefillAtMs_le player.id now
  unfold accrueManpower
  rw [hpool, hsince]
  dsimp only
  by_cases hfull : rules.cap ≤ pool
  · -- a full pool: nothing is earned, and the ceiling is no lower than the cap
    have heq : pool = rules.cap := le_antisymm hle hfull
    have hceiling : rules.cap ≤ manpowerCeiling player rules.cap := by
      unfold manpowerCeiling
      linarith [le_max_left 0 (player.waystationManpowerOverflow.getD 0)]
    have hearned : ∀ t, since ≤ t → Wallet.earned rules.cap
        (max 0 rules.regenPerMinute / 60000) since t (walletOf player pool) = rules.cap := by
      intro t ht
      have hgain := mul_nonneg hrate (sub_nonneg.mpr ht)
      show min rules.cap (max 0 pool + max 0 (player.manpowerBanked.getD 0) + _) = _
      rw [min_eq_left]
      have := le_max_right 0 pool
      linarith
    have hpaid : wallet.paid = rules.cap := by
      show (if _ then _ else _) = _
      split
      · next h => exact hearned _ h.le
      · show max 0 pool = rules.cap
        rw [heq, max_eq_right hcap]
    have hbanked : wallet.banked = 0 := by
      show _ - wallet.paid = 0
      rw [hpaid, hearned now hnow, sub_self]
    rw [if_pos hfull, hpaid, hbanked, heq, min_eq_right hceiling]
  · rw [if_neg hfull]
    by_cases hcross : since < lastManpowerRefillAtMs player.id now
    · -- the bank is paid out at the boundary, and a new one starts there
      have hpaid : wallet.paid
          = min rules.cap (max 0 pool + max 0 (player.manpowerBanked.getD 0)
              + max 0 rules.regenPerMinute
                * (lastManpowerRefillAtMs player.id now - since) / 60000) := by
        show (if _ then _ else _) = _
        rw [if_pos hcross]
        show min rules.cap (max 0 pool + max 0 (player.manpowerBanked.getD 0) + _) = _
        ring_nf
      have hpaidLe := min_le_left rules.cap (max 0 pool + max 0 (player.manpowerBanked.getD 0)
        + max 0 rules.regenPerMinute * (lastManpowerRefillAtMs player.id now - since) / 60000)
      have hpending : 0 ≤ max 0 rules.regenPerMinute
          * (now - lastManpowerRefillAtMs player.id now) / 60000 :=
        div_nonneg (mul_nonneg (le_max_left 0 _) (by linarith)) (by norm_num)
      rw [if_pos hcross, max_eq_right (sub_nonneg.mpr hboundary), bank_eq _ _ _ hpaidLe,
        min_min_add _ _ hpending]
      have hbanked : wallet.banked
          = min rules.cap (max 0 pool + max 0 (player.manpowerBanked.getD 0)
                + max 0 rules.regenPerMinute / 60000 * (now - since))
              - wallet.paid := rfl
      rw [hbanked, hpaid]
      ring_nf
    · -- no boundary: only the bank grows
      have hpaid : wallet.paid = max 0 pool := by
        show (if _ then _ else _) = _
        rw [if_neg hcross]
        rfl
      have hbanked : wallet.banked
          = min rules.cap (max 0 pool + max 0 (player.manpowerBanked.getD 0)
                + max 0 rules.regenPerMinute / 60000 * (now - since))
              - wallet.paid := rfl
      rw [if_neg hcross, max_eq_right (sub_nonneg.mpr hnow), bank_eq _ _ _ hheld, hbanked, hpaid]
      ring_nf

/-! ## §5. Splitting a settle. -/

variable {player : RuntimePlayer}

theorem growWithCap_eq (cap : ℚ) {pool : ℚ} (hpool : player.manpower = some pool) :
    ∃ grown, growWithCap cap pool player = { player with manpower := some grown } := by
  unfold growWithCap
  dsimp only
  split
  · exact ⟨_, rfl⟩
  · exact ⟨pool, by rw [← hpool]⟩

theorem growWithCap_of_snapshot {cap pool : ℚ} (hsnapshot : player.manpowerCapSnapshot = some cap) :
    growWithCap cap pool player = player := by
  unfold growWithCap
  rw [hsnapshot]
  exact if_neg (lt_irrefl cap)

theorem refresh_of_grown {pool grown since : ℚ} (now : ℚ) (hpool : player.manpower = some pool)
    (hgrown : growWithCap rules.cap pool player = { player with manpower := some grown })
    (hsince : player.manpowerUpdatedAt = some since) :
    refreshManpowerOnlyForPlayer rules player now
      = stampSettle rules now (storeAccrual rules
          (accrueManpower { player with manpower := some grown } rules.cap rules.regenPerMinute now)
          { player with manpower := some grown }) := by
  unfold refreshManpowerOnlyForPlayer
  rw [hpool]
  dsimp only
  rw [hgrown]
  dsimp only
  rw [hsince]

/-- A record settled with its pool within the cap: no overflow is left. -/
def heldBelow (now : ℚ) (w : Wallet ℚ) (player : RuntimePlayer) : RuntimePlayer :=
  { player with
    manpower := some w.paid
    manpowerBanked := if 0 < w.banked then some w.banked else none
    manpowerUpdatedAt := some now
    manpowerCapSnapshot := some rules.cap
    waystationManpowerOverflow := none }

/-- A record settled with its pool above the cap: nothing is banked, and
the allowance is what is held above. -/
def heldAbove (now pool : ℚ) (player : RuntimePlayer) : RuntimePlayer :=
  { player with
    manpower := some pool
    manpowerBanked := none
    manpowerUpdatedAt := some now
    manpowerCapSnapshot := some rules.cap
    waystationManpowerOverflow := if 0 < pool - rules.cap then some (pool - rules.cap) else none }

theorem overflow_settled (player : RuntimePlayer) {cap pool : ℚ}
    (hpool : player.manpower = some pool) (hle : pool ≤ manpowerCeiling player cap) :
    settleWaystationManpowerOverflow player cap
      = { player with
          waystationManpowerOverflow := if 0 < pool - cap then some (pool - cap) else none } := by
  obtain ⟨id, manpower, banked, updatedAt, snapshot, overflow, granted⟩ := player
  unfold manpowerCeiling at hle
  unfold settleWaystationManpowerOverflow
  dsimp only at hpool hle
  cases overflow with
  | none =>
      have hwithin : pool ≤ cap := by simpa using hle
      dsimp only
      rw [if_neg (by linarith)]
  | some overflow =>
      dsimp only
      rw [hpool]
      simp only [Option.getD_some] at hle ⊢
      rcases le_total overflow 0 with hneg | hpos
      · -- a spent allowance: the pool is within the cap
        rw [max_eq_left hneg] at hle
        have hrest : max 0 (min overflow (pool - cap)) = 0 :=
          max_eq_left (le_trans (min_le_left _ _) hneg)
        rw [hrest, if_neg (lt_irrefl 0), if_neg (by linarith)]
      · rw [max_eq_right hpos] at hle
        rw [min_eq_right (by linarith)]
        rcases le_total (pool - cap) 0 with h | h
        · rw [max_eq_left h, if_neg (lt_irrefl 0), if_neg (not_lt.mpr h)]
        · rw [max_eq_right h]

theorem storeAccrual_within {rules : SettleRules} (hepsilon : rules.epsilon = 0) {w : Wallet ℚ}
    (hw : w.Within rules.cap) (now : ℚ) (player : RuntimePlayer) :
    stampSettle rules now (storeAccrual rules ⟨w.paid, w.banked⟩ player)
      = heldBelow rules now w player := by
  have hceiling : w.paid ≤ rules.cap + max 0 (player.waystationManpowerOverflow.getD 0) := by
    have hallow : 0 ≤ max 0 (player.waystationManpowerOverflow.getD 0) := le_max_left 0 _
    have hpaid := hw.paid_le
    linarith
  have hnone : ¬ 0 < w.paid - rules.cap := not_lt.mpr (sub_nonpos.mpr hw.paid_le)
  have hpaid : (writeAccrual rules ⟨w.paid, w.banked⟩ player).manpower = some w.paid := rfl
  rw [storeAccrual, overflow_settled _ hpaid hceiling, if_neg hnone]
  unfold writeAccrual
  rw [hepsilon]
  rfl

theorem refresh_below {rules : SettleRules} (hepsilon : rules.epsilon = 0) (hcap : 0 ≤ rules.cap)
    {pool grown since now : ℚ} (hpool : player.manpower = some pool)
    (hgrown : growWithCap rules.cap pool player = { player with manpower := some grown })
    (hsince : player.manpowerUpdatedAt = some since) (hle : grown ≤ rules.cap) (hnow : since ≤ now)
    :
    refreshManpowerOnlyForPlayer rules player now
      = heldBelow rules now (settleWallet rules player.id since now (walletOf player grown))
          player := by
  have hwithin : (walletOf player grown).Within rules.cap :=
    ⟨le_max_left 0 _, max_le hcap hle, le_max_left 0 _⟩
  rw [refresh_of_grown rules now hpool hgrown hsince,
    accrueManpower_eq_settle rules hcap { player with manpower := some grown } rfl hsince hle hnow]
  exact storeAccrual_within hepsilon (hwithin.settle (rate_nonneg rules.regenPerMinute)
    (lastManpowerRefillAtMs_le player.id) hnow) now _

theorem refresh_above {rules : SettleRules} (hepsilon : rules.epsilon = 0) {pool grown since : ℚ}
    (now : ℚ) (hpool : player.manpower = some pool)
    (hgrown : growWithCap rules.cap pool player = { player with manpower := some grown })
    (hsince : player.manpowerUpdatedAt = some since) (hle : rules.cap ≤ grown) :
    refreshManpowerOnlyForPlayer rules player now
      = heldAbove rules now (min (manpowerCeiling player rules.cap) grown) player := by
  have haccrued : accrueManpower { player with manpower := some grown } rules.cap
      rules.regenPerMinute now = ⟨min (manpowerCeiling player rules.cap) grown, 0⟩ := by
    unfold accrueManpower
    dsimp only
    rw [hsince]
    exact if_pos hle
  rw [refresh_of_grown rules now hpool hgrown hsince, haccrued]
  generalize hheld : min (manpowerCeiling player rules.cap) grown = held
  have hceiling : held ≤ manpowerCeiling player rules.cap := hheld ▸ min_le_left _ _
  have hwritten : (writeAccrual rules ⟨held, 0⟩ { player with manpower := some grown }).manpower
      = some held := rfl
  rw [storeAccrual, overflow_settled _ hwritten hceiling]
  unfold writeAccrual
  rw [hepsilon, if_neg (lt_irrefl 0)]
  rfl

theorem walletOf_heldBelow (now : ℚ) {w : Wallet ℚ} (hw : w.Within rules.cap)
    (player : RuntimePlayer) :
    walletOf (heldBelow rules now w player) w.paid = w := by
  ext
  · exact max_eq_right hw.paid_nonneg
  · show max 0 ((if 0 < w.banked then some w.banked else none).getD 0) = w.banked
    split
    · exact max_eq_right hw.banked_nonneg
    · next h => exact (le_antisymm (not_lt.mp h) hw.banked_nonneg).symm

/-- **Settling in between changes nothing**: neither the pool, nor the
bank, nor the overflow allowance. -/
theorem refreshManpowerOnlyForPlayer_split (rules : SettleRules) (hepsilon : rules.epsilon = 0)
    (hcap : 0 ≤ rules.cap) (player : RuntimePlayer) {t₀ t₁ t₂ : ℚ}
    (hsettled : player.SettledAt t₀) (h₁ : t₀ ≤ t₁) (h₂ : t₁ ≤ t₂) :
    refreshManpowerOnlyForPlayer rules (refreshManpowerOnlyForPlayer rules player t₁) t₂
      = refreshManpowerOnlyForPlayer rules player t₂ := by
  obtain ⟨hfinite, hsince⟩ := hsettled
  obtain ⟨pool, hpool⟩ := Option.isSome_iff_exists.mp hfinite
  obtain ⟨grown, hgrown⟩ := growWithCap_eq rules.cap hpool
  have hrate := rate_nonneg rules.regenPerMinute
  rcases le_total grown rules.cap with hle | hle
  · -- within the cap: both runs are settles of one wallet
    have hwithin : (walletOf player grown).Within rules.cap :=
      ⟨le_max_left 0 _, max_le hcap hle, le_max_left 0 _⟩
    have hmid : (settleWallet rules player.id t₀ t₁ (walletOf player grown)).Within rules.cap :=
      hwithin.settle hrate (lastManpowerRefillAtMs_le player.id) h₁
    rw [refresh_below hepsilon hcap hpool hgrown hsince hle h₁,
      refresh_below hepsilon hcap hpool hgrown hsince hle (h₁.trans h₂),
      refresh_below hepsilon hcap rfl (growWithCap_of_snapshot rfl) rfl hmid.paid_le h₂,
      walletOf_heldBelow rules t₁ hmid player]
    have hsplit : settleWallet rules player.id t₁ t₂
          (settleWallet rules player.id t₀ t₁ (walletOf player grown))
        = settleWallet rules player.id t₀ t₂ (walletOf player grown) :=
      Wallet.settle_settle hrate (fun _ _ hst hb => lastManpowerRefillAtMs_eq player.id hst hb)
        h₁ h₂ _
    show heldBelow rules t₂ (settleWallet rules player.id t₁ t₂ _) _ = _
    rw [hsplit]
    rfl
  · -- above the cap: cut to the ceiling once, and the ceiling is then exact
    have hceiling : rules.cap ≤ manpowerCeiling player rules.cap := by
      unfold manpowerCeiling
      linarith [le_max_left 0 (player.waystationManpowerOverflow.getD 0)]
    have hheld : rules.cap ≤ min (manpowerCeiling player rules.cap) grown := le_min hceiling hle
    rw [refresh_above hepsilon t₁ hpool hgrown hsince hle,
      refresh_above hepsilon t₂ hpool hgrown hsince hle,
      refresh_above hepsilon t₂ rfl (growWithCap_of_snapshot rfl) rfl hheld]
    have hexact : manpowerCeiling (heldAbove rules t₁
          (min (manpowerCeiling player rules.cap) grown) player) rules.cap
        = min (manpowerCeiling player rules.cap) grown := by
      generalize min (manpowerCeiling player rules.cap) grown = held at hheld
      show rules.cap + max 0 ((if 0 < held - rules.cap then some (held - rules.cap)
        else none).getD 0) = held
      split
      · next h => rw [Option.getD_some, max_eq_right h.le]; ring
      · next h => rw [Option.getD_none, max_self]; linarith
    rw [hexact, min_self]
    rfl

/-- A settled human player across a refill boundary, with part of the
window banked and an allowance to drop. -/
theorem refreshManpowerOnlyForPlayer_split_window :
    refreshManpowerOnlyForPlayer ⟨720, 1, none, 0⟩
        (refreshManpowerOnlyForPlayer ⟨720, 1, none, 0⟩
          ⟨"player-1", some 100, some 20, some 0, some 700, some 50, true⟩ 600000) 30000000
      = refreshManpowerOnlyForPlayer ⟨720, 1, none, 0⟩
          ⟨"player-1", some 100, some 20, some 0, some 700, some 50, true⟩ 30000000 :=
  refreshManpowerOnlyForPlayer_split ⟨720, 1, none, 0⟩ rfl (by norm_num)
    ⟨"player-1", some 100, some 20, some 0, some 700, some 50, true⟩
    ⟨rfl, rfl⟩ (by norm_num) (by norm_num)

/-- An empire that is yet to be settled, and one that has lost its number. -/
def unsettledEmpire : RuntimePlayer := ⟨"player-1", some 100, none, none, none, none, false⟩
def numberlessEmpire : RuntimePlayer := ⟨"player-1", none, none, some 0, none, none, false⟩

/-- **The first settle does not split**: the reserve it grants grows with the
moment at which it is made, and the same goes for a pool that is no number. -/
theorem first_settle_not_split :
    (refreshManpowerOnlyForPlayer ⟨720, 1, some 0, 0⟩
          (refreshManpowerOnlyForPlayer ⟨720, 1, some 0, 0⟩ unsettledEmpire 600000)
          30000000).manpower
        ≠ (refreshManpowerOnlyForPlayer ⟨720, 1, some 0, 0⟩ unsettledEmpire 30000000).manpower
      ∧ (refreshManpowerOnlyForPlayer ⟨720, 1, some 0, 0⟩
          (refreshManpowerOnlyForPlayer ⟨720, 1, some 0, 0⟩ numberlessEmpire 600000)
          30000000).manpower
        ≠ (refreshManpowerOnlyForPlayer ⟨720, 1, some 0, 0⟩ numberlessEmpire 30000000).manpower := by
  constructor <;> decide +kernel

/-! ## §6. What a settle leaves. -/

/-- A finite pool between zero and the ceiling. -/
structure Solvent (player : RuntimePlayer) (cap : ℚ) : Prop where
  finite : player.manpower = some (player.manpower.getD 0)
  nonneg : 0 ≤ player.manpower.getD 0
  le_ceiling : player.manpower.getD 0 ≤ manpowerCeiling player cap

theorem Solvent.of_some {cap pool : ℚ} (hpool : player.manpower = some pool) (hnonneg : 0 ≤ pool)
    (hle : pool ≤ manpowerCeiling player cap) : Solvent player cap := by
  refine ⟨?_, ?_, ?_⟩ <;> rw [hpool]
  · rfl
  · exact hnonneg
  · exact hle

theorem cap_le_ceiling (player : RuntimePlayer) (cap : ℚ) : cap ≤ manpowerCeiling player cap := by
  unfold manpowerCeiling
  linarith [le_max_left 0 (player.waystationManpowerOverflow.getD 0)]

theorem solvent_settled {cap : ℚ} (h : Solvent player cap) :
    Solvent (settleWaystationManpowerOverflow player cap) cap := by
  have hpool : (settleWaystationManpowerOverflow player cap).manpower
      = some (player.manpower.getD 0) :=
    (settleWaystation_manpower player cap).trans h.finite
  refine Solvent.of_some hpool h.nonneg ?_
  rw [overflow_settled player h.finite h.le_ceiling]
  show _ ≤ cap + max 0 ((if 0 < player.manpower.getD 0 - cap
    then some (player.manpower.getD 0 - cap) else none).getD 0)
  split
  · rw [Option.getD_some]
    linarith [le_max_right 0 (player.manpower.getD 0 - cap)]
  · next h => rw [Option.getD_none, max_self]; linarith

theorem landingManpowerReserve_nonneg (nowMs : ℚ) (seasonStartedAt : Option ℚ) :
    0 ≤ landingManpowerReserve nowMs seasonStartedAt := by
  have hcatchUp : 0 ≤ lateJoinManpowerCatchUp nowMs seasonStartedAt := by
    unfold lateJoinManpowerCatchUp
    cases seasonStartedAt with
    | none => exact le_rfl
    | some startedAt =>
        have hmissed : 0 ≤ max 0 (nowMs - startedAt) / 60000
            * STARTING_CAPITAL_MANPOWER_REGEN_PER_MINUTE := by
          unfold STARTING_CAPITAL_MANPOWER_REGEN_PER_MINUTE
          have := le_max_left 0 (nowMs - startedAt)
          positivity
        exact Int.cast_nonneg (Int.floor_nonneg.mpr hmissed)
  unfold landingManpowerReserve LANDING_MANPOWER_RESERVE
  linarith

theorem solvent_landed (seasonStartedAt : Option ℚ) {cap : ℚ} (nowMs : ℚ) (h : Solvent player cap) :
    Solvent (grantLandingManpowerReserve seasonStartedAt player cap nowMs) cap := by
  have hreserve := landingManpowerReserve_nonneg nowMs seasonStartedAt
  unfold grantLandingManpowerReserve
  split
  · exact h
  have hpool : 0 ≤ max 0 (player.manpower.getD 0) + landingManpowerReserve nowMs seasonStartedAt :=
    add_nonneg (le_max_left 0 _) hreserve
  unfold grantOverflowManpower
  dsimp only
  generalize max 0 (player.manpower.getD 0) + landingManpowerReserve nowMs seasonStartedAt = pool
    at hpool
  refine Solvent.of_some rfl hpool ?_
  show pool ≤ cap + max 0 ((if 0 < pool - cap then some (pool - cap)
    else player.waystationManpowerOverflow).getD 0)
  split
  · rw [Option.getD_some]
    linarith [le_max_right 0 (pool - cap)]
  · linarith [le_max_left 0 (player.waystationManpowerOverflow.getD 0)]

theorem accrueManpower_bounds {player : RuntimePlayer} {cap pool since : ℚ} (hcap : 0 ≤ cap)
    (regenPerMinute nowMs : ℚ) (hpool : player.manpower = some pool)
    (hsince : player.manpowerUpdatedAt = some since) :
    0 ≤ (accrueManpower player cap regenPerMinute nowMs).manpower
      ∧ (accrueManpower player cap regenPerMinute nowMs).manpower ≤ manpowerCeiling player cap := by
  have hceiling := cap_le_ceiling player cap
  unfold accrueManpower
  rw [hpool, hsince]
  dsimp only
  split
  · next hfull => exact ⟨le_min (by linarith) (by linarith), min_le_left _ _⟩
  next hroom =>
    split
    · next hcross =>
        have hgain : 0 ≤ max 0 regenPerMinute
            * (lastManpowerRefillAtMs player.id nowMs - since) / 60000 :=
          div_nonneg (mul_nonneg (le_max_left 0 _) (by linarith)) (by norm_num)
        have hheld := le_max_left 0 pool
        have hbank := le_max_left 0 (player.manpowerBanked.getD 0)
        exact ⟨le_min hcap (by linarith), le_trans (min_le_left _ _) hceiling⟩
    · exact ⟨le_max_left 0 _, le_trans (max_le hcap (by linarith)) hceiling⟩

/-- **After a settle** the pool is finite, not negative and within the
ceiling. -/
theorem refresh_solvent (hcap : 0 ≤ rules.cap) (player : RuntimePlayer) (nowMs : ℚ) :
    Solvent (refreshManpowerOnlyForPlayer rules player nowMs) rules.cap := by
  have hstamp : ∀ p : RuntimePlayer, Solvent p rules.cap →
      Solvent (stampSettle rules nowMs p) rules.cap := fun p hp => ⟨hp.1, hp.2, hp.3⟩
  unfold refreshManpowerOnlyForPlayer
  split
  · exact hstamp _ (solvent_landed _ _ (Solvent.of_some rfl hcap (cap_le_ceiling _ _)))
  next pool hpool =>
    obtain ⟨grown, hgrown⟩ := growWithCap_eq rules.cap hpool
    dsimp only
    rw [hgrown]
    dsimp only
    split
    · have hceiling := hcap.trans (cap_le_ceiling player rules.cap)
      refine hstamp _ (solvent_settled (solvent_landed _ _ (Solvent.of_some rfl
        (le_max_left 0 _) (max_le hceiling (min_le_left _ _)))))
    · next since hsince =>
        obtain ⟨hnonneg, hle⟩ := @accrueManpower_bounds { player with manpower := some grown }
          rules.cap grown since hcap rules.regenPerMinute nowMs rfl hsince
        exact hstamp _ (solvent_settled (Solvent.of_some rfl hnonneg hle))

end BorderEmpires.Manpower
