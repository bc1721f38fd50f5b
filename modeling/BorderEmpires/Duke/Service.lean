/-
  BorderEmpires.Duke.Service
  **THE DUKE'S TICK AND ACTIONS.**

  The service runs one operation at a time under one lock: it reads the
  stored Duke, steps it and stores it.  What the operation learns of the
  rest of the galaxy is a parameter of it: the clock, the Planets held, the
  target of each flight that has arrived.
-/
import BorderEmpires.Duke.Orders

namespace BorderEmpires.Duke

/-! ## §1. The tick. -/

/-- What a flight finds at its target: for a Probe the view, if the system
is still held; for a raid the Fighters that stand there, if it is held by
somebody else. -/
structure Arrival where
  view : Option TargetView
  defenderFighters : Option (List DukeFighter)

/-- What a tick learns of the galaxy. -/
structure TickWorld where
  now : Nat
  planets : List HeldPlanet
  capturedSectors : Nat
  /-- The target of each arrived flight, by its place in the list. -/
  arrivals : Nat → Arrival
  orbitView : String → Option TargetView

variable (state : DukeState)

def produce (elapsed : Nat) (step : DukeStep) (system : SystemState) : DukeStep :=
  let advanced := advanceSystem system elapsed
  let state := replaceSystem step.state advanced.1
  match advanced.2 with
  | none => ⟨state, step.news⟩
  | some build =>
      let done := applyCompletedBuild state system.seasonId build
      ⟨done.state, step.news ++ done.news⟩

/-- `resolveProbe`, or `resolveRaid`, of one flight. -/
def resolveFlight (world : TickWorld) (state : DukeState) (flight : InFlightOrder)
    (target : Arrival) : DukeStep :=
  match flight.kind with
  | .PROBE =>
      match target.view with
      | none => ⟨dropFlight state flight, []⟩
      | some view => ⟨arriveProbe state flight view world.now, []⟩
  | .RAID _ _ =>
      match target.defenderFighters with
      | none => returnFromNothing state flight
      | some fighters => resolveRaidArrival state flight fighters

/-- The flights of a list, from the place `i` on. -/
def resolveFlights (world : TickWorld) : Nat → List InFlightOrder → DukeState → DukeStep
  | _, [], state => ⟨state, []⟩
  | i, flight :: flights, state =>
      (resolveFlight world state flight (world.arrivals i)).andThen
        (resolveFlights world (i + 1) flights)

/-- `advanceOneDuke` on a stored Duke. -/
def advanceOneDuke (stored : DukeState) (world : TickWorld) : DukeStep :=
  if world.planets = [] then ⟨stored, []⟩
  else
    let at_ := world.now
    let synced := syncSystems stored world.planets at_
    let produced := synced.systems.foldl (produce (at_ - synced.lastAdvancedAt)) ⟨synced, []⟩
    ({ produced with state := { produced.state with lastAdvancedAt := at_ } } : DukeStep)
      |>.andThen (fun state => resolveFlights world 0 (arrivedFlights state at_) state)
      |>.andThen (fun state => returnLentFighters state at_)
      |>.andThen (fun state => ⟨accrueIncursions state world.capturedSectors at_, []⟩)
      |>.andThen (fun state =>
        landIncursions state
          (fun seasonId => decide (seasonId ∈ world.planets.map HeldPlanet.seasonId)) at_)
      |>.andThen (fun state => ⟨refreshOrbitIntel state world.orbitView at_, []⟩)

/-! ## §2. The operations. -/

/-- What the Court looks like while a Writ is answered. -/
structure CourtStrength where
  current : ℚ
  start : ℚ
  fallen : Bool

def WRIT_COURT_STRENGTH_GAIN : ℚ := 3

inductive DukeOp where
  | tick (world : TickWorld)
  | build (now : Nat) (planets : List HeldPlanet) (seasonId : String) (spec : BuildSpec)
      (stability : ℚ)
  | cancelBuild (seasonId : String)
  /-- `owned` are all Sectors of the account, `held` all Sectors of anybody. -/
  | order (now : Nat) (raid : Bool) (fromSeasonId targetSeasonId : String)
      (owned held : List String)
  | answerCourtOffer (now : Nat) (accept : Bool)
  | answerWrit (now : Nat) (accept : Bool) (court : CourtStrength)
  | lendFleet (now : Nat) (fromSeasonId : String)
  /-- The Court's pass: its favor, and perhaps a Writ. -/
  | courtPass (now : Nat) (runaway : Bool) (cycleIndex : Nat) (chance : Option WritChance)
  /-- A rival's raid lands. -/
  | raided (seasonId : String) (fighterHull : Int)

def buildAction (bodies : String → List GalaxyBodyKind) (state : DukeState)
    (planets : List HeldPlanet) (seasonId : String) (spec : BuildSpec) (stability : ℚ) :
    DukeState :=
  if seasonId ∈ planets.map HeldPlanet.seasonId then
    match planBuild bodies state seasonId spec stability with
    | .error _ => state
    | .ok plan => startPlannedBuild state seasonId plan
  else state

def cancelBuildAction (seasonId : String) : DukeState :=
  match findSystem state seasonId with
  | none => state
  | some system => if system.slot.isSome then cancelBuild state seasonId else state

def orderAction (now : Nat) (raid : Bool) (fromSeasonId targetSeasonId : String)
    (owned held : List String) : DukeState :=
  if targetSeasonId ∈ held then
    match if raid then launchRaid state fromSeasonId targetSeasonId owned now
      else launchProbe state fromSeasonId targetSeasonId owned now with
    | .error _ => state
    | .ok launched => launched
  else state

def answerCourtOfferAction (now : Nat) (accept : Bool) : DukeState :=
  match state.courtOffer with
  | .PENDING => { state with courtOffer := if accept then .ACCEPTED now else .DECLINED }
  | _ => state

def answerWritAction (now : Nat) (accept : Bool) (court : CourtStrength) : DukeStep :=
  if accept ∧ (pendingWrit state now).isSome
      ∧ (court.fallen ∨ court.start < court.current + WRIT_COURT_STRENGTH_GAIN) then ⟨state, []⟩
  else
    match answerWrit state accept now with
    | .error _ => ⟨state, []⟩
    | .ok answered => answered

def lendFleetAction (now : Nat) (fromSeasonId : String) : DukeState :=
  if (favorOf state).leadSince.isNone && !(favorOf state).revoked then state
  else
    match lendFighter state fromSeasonId now with
    | .error _ => state
    | .ok lent => resetFavorClock lent now

def drainWeakest (cycleIndex : Nat) : DukeState :=
  let favor := favorOf state
  if !favor.revoked || decide (favor.lastDrainCycle = cycleIndex) then state
  else { state with favor := some { favor with lastDrainCycle := cycleIndex } }

def courtPassFor (now : Nat) (runaway : Bool) (cycleIndex : Nat) (chance : Option WritChance) :
    DukeState :=
  let drained := drainWeakest (updateFavor state runaway now) cycleIndex
  match chance with
  | none => drained
  | some input => maybeOfferWrit drained input now

def DukeOp.perform (bodies : String → List GalaxyBodyKind) (state : DukeState) :
    DukeOp → DukeStep
  | .tick world => advanceOneDuke state world
  | .build _ planets seasonId spec stability =>
      ⟨buildAction bodies state planets seasonId spec stability, []⟩
  | .cancelBuild seasonId => ⟨cancelBuildAction state seasonId, []⟩
  | .order now raid fromSeasonId targetSeasonId owned held =>
      ⟨orderAction state now raid fromSeasonId targetSeasonId owned held, []⟩
  | .answerCourtOffer now accept => ⟨answerCourtOfferAction state now accept, []⟩
  | .answerWrit now accept court => answerWritAction state now accept court
  | .lendFleet now fromSeasonId => ⟨lendFleetAction state now fromSeasonId, []⟩
  | .courtPass now runaway cycleIndex chance =>
      ⟨courtPassFor state now runaway cycleIndex chance, []⟩
  | .raided seasonId fighterHull => defendRaid state seasonId fighterHull

/-! ## §3. Runs. -/

/-- A Duke and the news of all its operations so far. -/
abbrev Fleet := DukeStep

def Fleet.born (authUid : String) (planets : List HeldPlanet) (now : Nat) : Fleet :=
  ⟨createDukeState authUid planets now, []⟩

def Fleet.step (bodies : String → List GalaxyBodyKind) (fleet : Fleet) (op : DukeOp) : Fleet :=
  fleet.andThen fun state => op.perform bodies state

def stationed (seasonId : String) : Nat :=
  (findSystem state seasonId).elim 0 fun system => system.fighters.length

/-- The Fighters belonging to a system: stationed, on raids and lent. -/
def fightersOf (seasonId : String) : Nat :=
  stationed state seasonId + ownRaids state.flights seasonId + lentFrom state.lent seasonId

/-- **Fighters are conserved**: those of each system are the builds completed
and Writs accepted less the losses in combat, they fit their berths, and
none was lost for want of one. -/
structure Conserved (fleet : Fleet) : Prop where
  accounted : ∀ seasonId,
    fightersOf fleet.state seasonId + fleet.news.count (.destroyed seasonId)
      = fleet.news.count (.completed seasonId) + fleet.news.count (.joined seasonId)
  bounded : ∀ seasonId, fightersOf fleet.state seasonId ≤ MAX_FIGHTERS_PER_SYSTEM
  berthed : ∀ seasonId, .noBerth seasonId ∉ fleet.news

/-- No Planet is lost: a tick finds every system of the Duke among the
Planets held, each once. -/
def KeepsPlanets (fleet : Fleet) : DukeOp → Prop
  | .tick world =>
      (world.planets.map HeldPlanet.seasonId).Nodup
        ∧ ∀ system ∈ fleet.state.systems, system.seasonId ∈ world.planets.map HeldPlanet.seasonId
  | _ => True

def SystemState.buildsFighter (system : SystemState) : Bool :=
  system.slot.any fun build => build.kind.isFighter

/-- No FIGHTER Writ is accepted for the last berth of a system that is
building a Fighter for it. -/
def SparesBerth (fleet : Fleet) : DukeOp → Prop
  | .answerWrit now accept _ =>
      accept = true → ∀ offer, pendingWrit fleet.state now = some offer → offer.kind = .FIGHTER →
        ∀ target, writBerth fleet.state = some target → target.buildsFighter = true →
          fightersOwned fleet.state target + 1 ≠ MAX_FIGHTERS_PER_SYSTEM
  | _ => True

end BorderEmpires.Duke
