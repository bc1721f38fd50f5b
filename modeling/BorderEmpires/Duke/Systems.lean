/-
  BorderEmpires.Duke.Systems
  **A DUKE'S SYSTEMS: FIGHTERS, BUILD SLOTS, COMBAT.**

  Each Planet a Duke holds is a system with one build slot, its stationed
  Fighters and its Probes.  The state is what the functions that move
  Fighters read; a step comes with its news, the digest lines that are about
  Fighters, each as the event it tells of.
-/
import Mathlib.Algebra.Field.Rat
import Mathlib.Data.Rat.Floor
import Mathlib.Algebra.Order.Ring.Rat
import BorderEmpires.Lib.Utf16

namespace BorderEmpires.Duke

/-! ## §1. Constants. -/

def MS_PER_DAY : Nat := 24 * 60 * 60 * 1000
def CYCLE_DAYS : Nat := 7
def CYCLE_MS : Nat := CYCLE_DAYS * MS_PER_DAY

def FIGHTER_COST : ℚ := 40
def PROBE_COST : ℚ := 25
def FORTIFY_COST_PER_POINT : ℚ := 2
def HULL_MAX : Int := 100
def FIGHTER_WEAPONS : Int := 3
def FIGHTER_ARMOR : Int := 2
def WARDEN_WEAPONS : Int := 2
def WARDEN_ARMOR : Int := 1
def WARDEN_HULL : Int := 50
/-- `computeFleetTravelTimeMs({ SCOUT: 1 })`: two days at speed 5. -/
def PROBE_TRAVEL_MS : Nat := 2 * MS_PER_DAY / 5
/-- `computeFleetTravelTimeMs({ RAIDER: 1 })`: two days at speed 4. -/
def FIGHTER_TRAVEL_MS : Nat := 2 * MS_PER_DAY / 4

def MAX_FIGHTERS_PER_SYSTEM : Nat := 3
def MAX_PROBES_PER_SYSTEM : Nat := 3
def MAX_FLIGHTS : Nat := 6
def MAX_ORBITING_PROBES : Nat := 3
def MAX_INTEL : Nat := 100
def MAX_LENT_FIGHTERS : Nat := 1
def IDLE_BANK_CYCLES : ℚ := 1

/-! ## §2. The state of a Duke. -/

inductive GalaxySpecialization where
  | INDUSTRIAL
  | EXTRACTION
  | LOGISTICS
  | TRADE
  | CAPITAL

inductive GalaxyBodyKind where
  | GAS_GIANT
  | ASTEROID_BELT
  | ICE_MOON

inductive DevelopmentKind where
  | HARVESTER
  | MINING
  | CRYO

/-- What a build slot can be working on. -/
inductive DukeBuildKind where
  | FIGHTER
  | PROBE
  | REFIT
  | FORTIFY (points : Int)
  | DEVELOP (bodyIndex : Nat) (development : DevelopmentKind)

/-- `kind === "FIGHTER"`. -/
def DukeBuildKind.isFighter : DukeBuildKind → Bool
  | .FIGHTER => true
  | _ => false

/-- `Omit<DukeBuild, "progress">`. -/
structure PlannedBuild where
  kind : DukeBuildKind
  cost : ℚ

/-- A build under way, with the production paid into it so far. -/
structure DukeBuild extends PlannedBuild where
  progress : ℚ

structure DukeFighter where
  hull : Int
  deriving DecidableEq

structure SystemDevelopment where
  bodyIndex : Nat
  kind : DevelopmentKind

/-- Credit towards the next Warden, and the arrival of one announced. -/
structure SystemIncursion where
  credit : ℚ
  arrivesAt : Option Nat
  count : Nat
  lastCreditAt : Nat

/-- One system of a duke: its bank, build slot, Fighters and probes. -/
structure SystemState where
  seasonId : String
  specialization : GalaxySpecialization
  slot : Option DukeBuild
  idleBank : ℚ
  fighters : List DukeFighter
  probeStock : Nat
  developments : List SystemDevelopment
  incursion : SystemIncursion

/-- `kind` of an order, with what only a raid has. -/
inductive OrderKind where
  | PROBE
  | RAID (fighterHull : Int) (courtWrit : Bool)
  deriving DecidableEq

/-- A probe or raid on its way. -/
structure InFlightOrder where
  kind : OrderKind
  fromSeasonId : String
  seasonId : String
  launchedAt : Nat
  arrivesAt : Nat
  deriving DecidableEq

structure OrbitingProbe where
  seasonId : String
  arrivedAt : Nat

/-- What a probe last saw of a system. -/
structure DukeIntel where
  seasonId : String
  stability : ℚ
  defenderHull : Option Int
  seenAt : Nat
  live : Bool
  deriving DecidableEq

inductive WritKind where
  | FIGHTER
  | STRIKE (targetAuthUid targetSeasonId : String)

structure WritOffer where
  kind : WritKind
  offeredAt : Nat
  expiresAt : Nat

structure WritState where
  offer : Option WritOffer
  lastOfferCycle : Int

/-- Since when the duke leads, and whether the favour is gone. -/
structure CourtFavor where
  leadSince : Option Nat
  revoked : Bool
  lastDrainCycle : Int

/-- A Fighter lent to the Court, and when it comes home. -/
structure LentFighter where
  fromSeasonId : String
  hull : Int
  returnsAt : Nat

inductive CourtOfferState where
  | NOT_OFFERED
  | PENDING
  | DECLINED
  | ACCEPTED (acceptedAt : Nat)

/-- All the game keeps of one duke. -/
structure DukeState where
  authUid : String
  lastAdvancedAt : Nat
  systems : List SystemState
  orbiting : List OrbitingProbe
  intel : List DukeIntel
  flights : List InFlightOrder
  courtOffer : CourtOfferState
  writ : Option WritState
  favor : Option CourtFavor
  lent : List LentFighter

/-- What happens to a Fighter of the system; the digest tells of each. -/
inductive FleetEvent where
  /-- A FIGHTER build is complete. -/
  | completed (seasonId : String)
  /-- A FIGHTER Writ is accepted. -/
  | joined (seasonId : String)
  /-- A Fighter is destroyed in combat. -/
  | destroyed (seasonId : String)
  /-- A Fighter comes home and finds no berth. -/
  | noBerth (seasonId : String)
  deriving DecidableEq

/-- A state and the news on the way to it. -/
structure DukeStep where
  state : DukeState
  news : List FleetEvent

variable (fighters : List DukeFighter) (state : DukeState)

/-- One step after another. -/
def DukeStep.andThen (step : DukeStep) (f : DukeState → DukeStep) : DukeStep where
  state := (f step.state).state
  news := step.news ++ (f step.state).news

/-! ## §3. Systems. -/

/-- A Planet held, of those that the world resolves for an account. -/
structure HeldPlanet where
  seasonId : String
  specialization : GalaxySpecialization

/-- A system as it joins: empty bank, nothing built. -/
def newSystemState (planet : HeldPlanet) (now : Nat) (arrivesAt : Option Nat) : SystemState where
  seasonId := planet.seasonId
  specialization := planet.specialization
  slot := none
  idleBank := 0
  fighters := []
  probeStock := 0
  developments := []
  incursion := ⟨0, arrivesAt, 0, now⟩

def FIRST_CONTACT_WARNING_MS : Nat := 3 * MS_PER_DAY

def createDukeState (authUid : String) (planets : List HeldPlanet) (now : Nat) : DukeState where
  authUid := authUid
  lastAdvancedAt := now
  systems :=
    match planets with
    | [] => []
    | first :: rest =>
        newSystemState first now (some (now + FIRST_CONTACT_WARNING_MS))
          :: rest.map fun p => newSystemState p now none
  orbiting := []
  intel := []
  flights := []
  courtOffer := .PENDING
  writ := none
  favor := none
  lent := []

/-- Drops the systems lost and adds the planets won. -/
def syncSystems (planets : List HeldPlanet) (now : Nat) : DukeState :=
  let kept := state.systems.filter fun s => s.seasonId ∈ planets.map HeldPlanet.seasonId
  let added := (planets.filter fun p => p.seasonId ∉ kept.map SystemState.seasonId).map
    fun p => newSystemState p now none
  if kept.length = state.systems.length ∧ added.length = 0 then state
  else { state with systems := kept ++ added }

def findSystem (seasonId : String) : Option SystemState :=
  state.systems.find? fun s => s.seasonId = seasonId

def replaceSystem (system : SystemState) : DukeState :=
  { state with
    systems := state.systems.map fun s => if s.seasonId = system.seasonId then system else s }

def dailyProductionRate : GalaxySpecialization → ℚ
  | .INDUSTRIAL => 6
  | .EXTRACTION => 6
  | .LOGISTICS => 4
  | .TRADE => 2
  | .CAPITAL => 2

def DevelopmentKind.productionPerCycle : DevelopmentKind → ℚ
  | .HARVESTER => 8
  | .MINING => 5
  | .CRYO => 0

def DevelopmentKind.cost : DevelopmentKind → ℚ
  | .HARVESTER => 80
  | .MINING => 50
  | .CRYO => 70

def DEVELOPMENT_FOR_BODY : GalaxyBodyKind → DevelopmentKind
  | .GAS_GIANT => .HARVESTER
  | .ASTEROID_BELT => .MINING
  | .ICE_MOON => .CRYO

/-- Production a day: the planet's own and its developments'. -/
def systemDailyRate (system : SystemState) : ℚ :=
  dailyProductionRate system.specialization
    + (system.developments.map fun d => d.kind.productionPerCycle / (CYCLE_DAYS : ℚ)).sum

/-! ## §4. Combat. -/

def healthiestFighterIndex : Option Nat :=
  fighters.zipIdx.foldl (fun best e =>
    if 0 < e.1.hull ∧ (best.all fun b => decide ((fighters[b]?.elim 0 DukeFighter.hull) < e.1.hull))
      then some e.2 else best) none

/-- The Fighters with one hull changed, or with one less when it is gone. -/
def withHull (index : Nat) (hull : Int) : List DukeFighter :=
  if 0 < hull then fighters.set index ⟨hull⟩ else fighters.eraseIdx index

/-- One blow: twenty a weapon less ten a plate. -/
def exchangeDamage (weapons armor : Int) : Int := max 0 (weapons * 20 - armor * 10)

structure WardenIncursionOutcome where
  fighters : List DukeFighter
  repelled : Bool
  fighterLost : Bool

/-- The healthiest Fighter meets the Warden, if there is one. -/
def resolveWardenIncursion : WardenIncursionOutcome :=
  match healthiestFighterIndex fighters with
  | none => ⟨fighters, false, false⟩
  | some idx =>
      let remaining := (fighters[idx]?.elim 0 DukeFighter.hull)
        - exchangeDamage WARDEN_WEAPONS FIGHTER_ARMOR
      { fighters := withHull fighters idx remaining
        repelled := decide (WARDEN_HULL ≤ exchangeDamage FIGHTER_WEAPONS WARDEN_ARMOR)
        fighterLost := decide (remaining ≤ 0) }

structure FighterRaidOutcome where
  attackerHullAfter : Int
  defenderFighters : List DukeFighter
  defenderLost : Bool
  attackerLost : Bool

/-- The raider and the healthiest defender deal one blow each. -/
def resolveFighterRaid (attackerHull : Int) (defenderFighters : List DukeFighter) :
    FighterRaidOutcome :=
  match healthiestFighterIndex defenderFighters with
  | none => ⟨attackerHull, defenderFighters, false, false⟩
  | some idx =>
      let damage := exchangeDamage FIGHTER_WEAPONS FIGHTER_ARMOR
      let defenderAfter := (defenderFighters[idx]?.elim 0 DukeFighter.hull) - damage
      let attackerAfter := attackerHull - damage
      { attackerHullAfter := max 0 attackerAfter
        defenderFighters := withHull defenderFighters idx defenderAfter
        defenderLost := decide (defenderAfter ≤ 0)
        attackerLost := decide (attackerAfter ≤ 0) }

/-! ## §5. Production and builds. -/

def cycleBankCap (ratePerDay : ℚ) : ℚ := ratePerDay * CYCLE_DAYS * IDLE_BANK_CYCLES

/-- Production goes into the build first; what is left is banked. -/
def advanceSystem (system : SystemState) (elapsedMs : Nat) : SystemState × Option DukeBuild :=
  let ratePerDay := systemDailyRate system
  if ratePerDay ≤ 0 ∨ elapsedMs = 0 then (system, none)
  else
    let perMs := ratePerDay / MS_PER_DAY
    match system.slot with
    | none =>
        ({ system with
            idleBank := min (cycleBankCap ratePerDay) (system.idleBank + elapsedMs * perMs) }, none)
    | some slot =>
        let msNeeded := (slot.cost - slot.progress) / perMs
        if msNeeded ≤ elapsedMs then
          ({ system with
              slot := none
              idleBank := min (cycleBankCap ratePerDay)
                (system.idleBank + (elapsedMs - msNeeded) * perMs) },
            some { slot with progress := slot.cost })
        else
          ({ system with
              slot := some { slot with progress := slot.progress + elapsedMs * perMs } }, none)

inductive BuildSpec where
  | FIGHTER
  | PROBE
  | REFIT
  | FORTIFY (points : ℚ)
  | DEVELOP (bodyIndex : Nat)

inductive PlanBuildErrorCode where
  | NO_SUCH_SYSTEM
  | SLOT_BUSY
  | FIGHTER_CAP
  | PROBE_STOCK_CAP
  | NOTHING_TO_REPAIR
  | INVALID
  | NO_SUCH_BODY
  | BODY_ALREADY_DEVELOPED

def InFlightOrder.isOwnRaid (seasonId : String) (f : InFlightOrder) : Bool :=
  match f.kind with
  | .PROBE => false
  | .RAID _ courtWrit => !courtWrit && decide (f.fromSeasonId = seasonId)

/-- The Fighters of the system that are on a raid. -/
def ownRaids (flights : List InFlightOrder) (seasonId : String) : Nat :=
  flights.countP (InFlightOrder.isOwnRaid seasonId)

def lentFrom (lent : List LentFighter) (seasonId : String) : Nat :=
  lent.countP fun l => decide (l.fromSeasonId = seasonId)

def fightersOwned (system : SystemState) : Nat :=
  system.fighters.length + ownRaids state.flights system.seasonId
    + lentFrom state.lent system.seasonId

/-- The first of the Fighters with the least hull, with its place. -/
def weakestFighter : Option (DukeFighter × Nat) :=
  fighters.zipIdx.foldl (fun best e =>
    if best.all fun b => decide (e.1.hull < b.1.hull) then some e else best) none

def refitCost (missingHullPercent : Int) : ℚ := ⌈FIGHTER_COST / 100 * missingHullPercent⌉

/-- `bodies` are the bodies of the system, `galaxySystemBodies`. -/
def planBuild (bodies : String → List GalaxyBodyKind) (state : DukeState) (seasonId : String)
    (spec : BuildSpec) (stability : ℚ) : Except PlanBuildErrorCode PlannedBuild :=
  match findSystem state seasonId with
  | none => .error .NO_SUCH_SYSTEM
  | some system =>
      if system.slot.isSome then .error .SLOT_BUSY
      else
        match spec with
        | .FIGHTER =>
            if MAX_FIGHTERS_PER_SYSTEM ≤ fightersOwned state system then .error .FIGHTER_CAP
            else .ok ⟨.FIGHTER, FIGHTER_COST⟩
        | .PROBE =>
            if MAX_PROBES_PER_SYSTEM ≤ system.probeStock then .error .PROBE_STOCK_CAP
            else .ok ⟨.PROBE, PROBE_COST⟩
        | .REFIT =>
            match weakestFighter system.fighters with
            | none => .error .NOTHING_TO_REPAIR
            | some weakest =>
                if HULL_MAX ≤ weakest.1.hull then .error .NOTHING_TO_REPAIR
                else .ok ⟨.REFIT, refitCost (HULL_MAX - weakest.1.hull)⟩
        | .FORTIFY points =>
            if ⌊points⌋ < 1 ∨ (HULL_MAX : ℚ) - stability < ⌊points⌋ then .error .INVALID
            else .ok ⟨.FORTIFY ⌊points⌋, ⌊points⌋ * FORTIFY_COST_PER_POINT⟩
        | .DEVELOP bodyIndex =>
            match (bodies seasonId)[bodyIndex]? with
            | none => .error .NO_SUCH_BODY
            | some body =>
                if system.developments.any fun d => decide (d.bodyIndex = bodyIndex) then
                  .error .BODY_ALREADY_DEVELOPED
                else .ok ⟨.DEVELOP bodyIndex (DEVELOPMENT_FOR_BODY body),
                  (DEVELOPMENT_FOR_BODY body).cost⟩

def startPlannedBuild (seasonId : String) (planned : PlannedBuild) : DukeState :=
  match findSystem state seasonId with
  | none => state
  | some system =>
      let carried := min planned.cost system.idleBank
      replaceSystem state { system with
        slot := some { planned with progress := carried }
        idleBank := system.idleBank - carried }

def cancelBuild (seasonId : String) : DukeState :=
  match findSystem state seasonId with
  | none => state
  | some system => replaceSystem state { system with slot := none }

/-- The system once its build is delivered. -/
def completedSystem (system : SystemState) (build : DukeBuild) : SystemState :=
  match build.kind with
  | .FIGHTER => { system with fighters := system.fighters ++ [⟨HULL_MAX⟩] }
  | .PROBE => { system with probeStock := min MAX_PROBES_PER_SYSTEM (system.probeStock + 1) }
  | .REFIT =>
      match weakestFighter system.fighters with
      | none => system
      | some weakest => { system with fighters := system.fighters.set weakest.2 ⟨HULL_MAX⟩ }
  | .FORTIFY _ => system
  | .DEVELOP bodyIndex development =>
      { system with developments := system.developments ++ [⟨bodyIndex, development⟩] }

def applyCompletedBuild (seasonId : String) (build : DukeBuild) : DukeStep :=
  match findSystem state seasonId with
  | none => ⟨state, []⟩
  | some system =>
      { state := replaceSystem state (completedSystem system build)
        news := if build.kind.isFighter then [.completed seasonId] else [] }

end BorderEmpires.Duke
