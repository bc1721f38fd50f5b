/-
  BorderEmpires.Duke.Orders
  **ORDERS, WRITS, LENT FIGHTERS AND INCURSIONS.**

  Where Fighters leave a system and come back to it: raids launched and
  arriving, Fighters lent to the Court and returned, Writs answered,
  Wardens landing.  Flights carry no id: `sameFlight` compares what they
  were launched with.
-/
import Mathlib.Data.List.MinMax
import BorderEmpires.Duke.Systems

namespace BorderEmpires.Duke

/-! ## §1. Launching. -/

inductive OrderErrorCode where
  | NO_SUCH_SYSTEM
  | NO_PROBE
  | NO_FIGHTER
  | TOO_MANY_FLIGHTS
  | OWN_SECTOR
  | NOT_SURVEYED

variable (state : DukeState)

def launchProbe (fromSeasonId targetSeasonId : String) (ownedSeasonIds : List String) (now : Nat) :
    Except OrderErrorCode DukeState :=
  match findSystem state fromSeasonId with
  | none => .error .NO_SUCH_SYSTEM
  | some system =>
      if targetSeasonId ∈ ownedSeasonIds then .error .OWN_SECTOR
      else if system.probeStock < 1 then .error .NO_PROBE
      else if MAX_FLIGHTS ≤ state.flights.length then .error .TOO_MANY_FLIGHTS
      else
        let flight : InFlightOrder :=
          ⟨.PROBE, fromSeasonId, targetSeasonId, now, now + PROBE_TRAVEL_MS⟩
        .ok (replaceSystem { state with flights := state.flights ++ [flight] }
          { system with probeStock := system.probeStock - 1 })

def launchRaid (fromSeasonId targetSeasonId : String) (ownedSeasonIds : List String) (now : Nat) :
    Except OrderErrorCode DukeState :=
  match findSystem state fromSeasonId with
  | none => .error .NO_SUCH_SYSTEM
  | some system =>
      if targetSeasonId ∈ ownedSeasonIds then .error .OWN_SECTOR
      else if !(state.intel.any fun i => decide (i.seasonId = targetSeasonId)) then
        .error .NOT_SURVEYED
      else
        match healthiestFighterIndex system.fighters with
        | none => .error .NO_FIGHTER
        | some idx =>
            if MAX_FLIGHTS ≤ state.flights.length then .error .TOO_MANY_FLIGHTS
            else
              let fighterHull := system.fighters[idx]?.elim 0 DukeFighter.hull
              let flight : InFlightOrder :=
                ⟨.RAID fighterHull false, fromSeasonId, targetSeasonId, now,
                  now + FIGHTER_TRAVEL_MS⟩
              .ok (replaceSystem { state with flights := state.flights ++ [flight] }
                { system with fighters := system.fighters.eraseIdx idx })

/-! ## §2. Arriving. -/

/-- The text of `kind`: what a raid carries is not compared. -/
def OrderKind.isRaid : OrderKind → Bool
  | .PROBE => false
  | .RAID _ _ => true

/-- Flights are told apart by their orders, not by an id. -/
def sameFlight (a b : InFlightOrder) : Bool :=
  decide (a.kind.isRaid = b.kind.isRaid ∧ a.fromSeasonId = b.fromSeasonId
    ∧ a.seasonId = b.seasonId ∧ a.launchedAt = b.launchedAt)

def dropFlight (flight : InFlightOrder) : DukeState :=
  { state with flights := state.flights.filter fun f => !sameFlight f flight }

def arrivedFlights (now : Nat) : List InFlightOrder :=
  state.flights.filter fun f => decide (f.arrivesAt ≤ now)

def hash (input : String) : Nat :=
  (Utf16.units input).foldl (fun h unit => ((h ^^^ unit) * 0x01000193) % 2 ^ 32) 0x811c9dc5

def DERELICT_CHANCE_PERCENT : Nat := 8
def DERELICT_PRODUCTION : ℚ := 40

inductive DerelictReward where
  | INFLUENCE
  | PRODUCTION
  deriving DecidableEq

structure DerelictRoll where
  found : Bool
  reward : DerelictReward

/-- One roll a player and season, from the hash of both. -/
def derelictRoll (authUid seasonId : String) : DerelictRoll :=
  let h := hash (authUid ++ ":" ++ seasonId)
  { found := decide (h % 100 < DERELICT_CHANCE_PERCENT)
    reward := if h / 256 % 2 = 1 then .INFLUENCE else .PRODUCTION }

/-- What a Probe sees of a system. -/
structure TargetView where
  seasonId : String
  stability : ℚ
  defenderHull : Option Int

/-- Evicts the oldest until the list fits; one round for each entry is
enough. -/
def evictIntel : Nat → List DukeIntel → List DukeIntel
  | 0, list => list
  | rounds + 1, list =>
      if MAX_INTEL < list.length then
        match list.argmin DukeIntel.seenAt with
        | none => list
        | some oldest => evictIntel rounds (list.erase oldest)
      else list

/-- The newest report on a season replaces the older one. -/
def upsertIntel (intel : DukeIntel) : DukeState :=
  let list := state.intel.filter (fun i => i.seasonId ≠ intel.seasonId) ++ [intel]
  { state with intel := evictIntel list.length list }

/-- Past the limit the oldest probes in orbit retire. -/
def retireProbes (orbiting : List OrbitingProbe) : DukeState :=
  let retired := orbiting.take (orbiting.length - MAX_ORBITING_PROBES)
  { state with
    intel := state.intel.map fun i =>
      if i.seasonId ∈ retired.map OrbitingProbe.seasonId then { i with live := false } else i
    orbiting := orbiting.drop (orbiting.length - MAX_ORBITING_PROBES) }

/-- A first look may find a derelict, whose salvage goes home. -/
def arriveProbe (flight : InFlightOrder) (target : TargetView) (now : Nat) : DukeState :=
  let firstLook := !(state.intel.any fun i => decide (i.seasonId = target.seasonId))
  let seen := upsertIntel (dropFlight state flight)
    ⟨target.seasonId, target.stability, target.defenderHull, now, true⟩
  let next := retireProbes seen
    (seen.orbiting.filter (fun o => o.seasonId ≠ target.seasonId) ++ [⟨target.seasonId, now⟩])
  let roll := derelictRoll state.authUid target.seasonId
  if firstLook && roll.found && decide (roll.reward = .PRODUCTION) then
    match (findSystem next flight.fromSeasonId).or next.systems.head? with
    | none => next
    | some home =>
        replaceSystem next { home with idleBank := home.idleBank + DERELICT_PRODUCTION }
  else next

/-- The attacker's side of a raid; `defenderFighters` stand at the target. -/
def resolveRaidArrival (attacker : DukeState) (flight : InFlightOrder)
    (defenderFighters : List DukeFighter) : DukeStep :=
  match flight.kind with
  | .PROBE => ⟨attacker, []⟩
  | .RAID fighterHull courtWrit =>
      let outcome := resolveFighterRaid fighterHull defenderFighters
      let next := dropFlight attacker flight
      match findSystem next flight.fromSeasonId with
      | some home =>
          if outcome.attackerLost || courtWrit then
            ⟨next, if courtWrit then [] else [.destroyed flight.fromSeasonId]⟩
          else
            ⟨replaceSystem next
              { home with fighters := home.fighters ++ [⟨outcome.attackerHullAfter⟩] }, []⟩
      | none =>
          ⟨next, if courtWrit then []
            else if outcome.attackerLost then [.destroyed flight.fromSeasonId]
            else [.noBerth flight.fromSeasonId]⟩

/-- The defender's side of a raid. -/
def defendRaid (defender : DukeState) (seasonId : String) (fighterHull : Int) : DukeStep :=
  match findSystem defender seasonId with
  | none => ⟨defender, []⟩
  | some defenderSystem =>
      let outcome := resolveFighterRaid fighterHull defenderSystem.fighters
      ⟨replaceSystem defender { defenderSystem with fighters := outcome.defenderFighters },
        if outcome.defenderLost then [.destroyed seasonId] else []⟩

/-- What the service's `resolveRaid` does when there is nothing to raid. -/
def returnFromNothing (flight : InFlightOrder) : DukeStep :=
  match flight.kind with
  | .PROBE => ⟨dropFlight state flight, []⟩
  | .RAID fighterHull courtWrit =>
      if courtWrit then ⟨dropFlight state flight, []⟩
      else
        match findSystem state flight.fromSeasonId with
        | some home =>
            ⟨replaceSystem (dropFlight state flight)
              { home with fighters := home.fighters ++ [⟨fighterHull⟩] }, []⟩
        | none => ⟨dropFlight state flight, [.noBerth flight.fromSeasonId]⟩

/-- A change of live intel while a Probe orbits. -/
def refreshOrbitIntel (lookup : String → Option TargetView) (now : Nat) : DukeState :=
  state.orbiting.foldl (fun next orbit =>
    match lookup orbit.seasonId, next.intel.find? fun i => i.seasonId = orbit.seasonId with
    | some view, some known =>
        if !known.live
            || decide (view.stability = known.stability ∧ view.defenderHull = known.defenderHull)
        then next
        else
          { next with
            intel := next.intel.map fun i =>
              if i.seasonId = orbit.seasonId then
                { i with stability := view.stability, defenderHull := view.defenderHull
                         seenAt := now }
              else i }
    | _, _ => next) state

/-! ## §3. Fighters lent to the Court. -/

def LEND_DURATION_MS : Nat := CYCLE_MS

inductive LendErrorCode where
  | NO_SUCH_SYSTEM
  | NO_FIGHTER
  | TOO_MANY_LENT

/-- Sends the healthiest Fighter of the system. -/
def lendFighter (fromSeasonId : String) (now : Nat) : Except LendErrorCode DukeState :=
  match findSystem state fromSeasonId with
  | none => .error .NO_SUCH_SYSTEM
  | some system =>
      match healthiestFighterIndex system.fighters with
      | none => .error .NO_FIGHTER
      | some idx =>
          if MAX_LENT_FIGHTERS ≤ state.lent.length then .error .TOO_MANY_LENT
          else
            let hull := system.fighters[idx]?.elim 0 DukeFighter.hull
            .ok (replaceSystem
              { state with lent := state.lent ++ [⟨fromSeasonId, hull, now + LEND_DURATION_MS⟩] }
              { system with fighters := system.fighters.eraseIdx idx })

/-- One lent Fighter comes home, or stays with the Court. -/
def returnLent (l : LentFighter) : DukeStep :=
  match findSystem state l.fromSeasonId with
  | some home =>
      if home.fighters.length < MAX_FIGHTERS_PER_SYSTEM then
        ⟨replaceSystem state { home with fighters := home.fighters ++ [⟨l.hull⟩] }, []⟩
      else ⟨state, [.noBerth l.fromSeasonId]⟩
  | none => ⟨state, [.noBerth l.fromSeasonId]⟩

/-- Ends the loans that are due. -/
def returnLentFighters (now : Nat) : DukeStep :=
  let due := state.lent.filter fun l => decide (l.returnsAt ≤ now)
  due.foldl (fun step l => step.andThen fun s => returnLent s l)
    ⟨{ state with lent := state.lent.filter fun l => decide (now < l.returnsAt) }, []⟩

/-! ## §4. Court Favor and Writs. -/

def BLIND_EYE_SUSTAIN_MS : Nat := CYCLE_MS
def WRIT_OFFER_MS : Nat := 3 * MS_PER_DAY

def favorOf : CourtFavor := state.favor.getD ⟨none, false, -1⟩

def updateFavor (runaway : Bool) (now : Nat) : DukeState :=
  let favor := favorOf state
  if !runaway then
    if !favor.revoked && favor.leadSince.isNone then state
    else { state with favor := some { favor with leadSince := none, revoked := false } }
  else
    let leadSince := favor.leadSince.getD now
    let revoked := decide (BLIND_EYE_SUSTAIN_MS ≤ now - leadSince)
    { state with favor := some { favor with leadSince := some leadSince, revoked := revoked } }

def resetFavorClock (now : Nat) : DukeState :=
  { state with favor := some { favorOf state with leadSince := some now, revoked := false } }

structure WritRival where
  authUid : String
  seasonId : String

structure WritChance where
  cycleIndex : Nat
  chancePercent : ℚ
  rival : Option WritRival

/-- Rolls once per Cycle whether the Court offers a Writ. -/
def maybeOfferWrit (input : WritChance) (now : Nat) : DukeState :=
  let writ := state.writ.getD ⟨none, -1⟩
  if writ.offer.any fun offer => decide (now < offer.expiresAt) then state
  else if writ.lastOfferCycle = input.cycleIndex then
    if writ.offer.isSome then { state with writ := some { writ with offer := none } } else state
  else
    let roll := hash (state.authUid ++ ":writ:" ++ toString input.cycleIndex)
    if input.chancePercent ≤ ((roll % 100 : Nat) : ℚ) then
      { state with writ := some ⟨none, input.cycleIndex⟩ }
    else
      let expiresAt := now + WRIT_OFFER_MS
      let kind : WritKind :=
        match input.rival with
        | some rival =>
            if roll / 256 % 2 = 1 then .STRIKE rival.authUid rival.seasonId else .FIGHTER
        | none => .FIGHTER
      { state with writ := some ⟨some ⟨kind, now, expiresAt⟩, input.cycleIndex⟩ }

/-- The offer, unless it has lapsed. -/
def pendingWrit (now : Nat) : Option WritOffer :=
  match state.writ with
  | none => none
  | some writ =>
      match writ.offer with
      | none => none
      | some offer => if now < offer.expiresAt then some offer else none

inductive WritErrorCode where
  | NO_PENDING_WRIT
  | NO_ROOM
  | TOO_MANY_FLIGHTS

/-- The system a Writ Fighter joins: the head of the systems sorted by the
Fighters they own, which is the first with the fewest. -/
def writBerth : Option SystemState := state.systems.argmin (fightersOwned state)

def clearWrit : DukeState :=
  { state with writ := some ⟨none, state.writ.elim (-1) WritState.lastOfferCycle⟩ }

def answerWrit (accept : Bool) (now : Nat) : Except WritErrorCode DukeStep :=
  match pendingWrit state now with
  | none => .error .NO_PENDING_WRIT
  | some offer =>
      let cleared := clearWrit state
      if !accept then .ok ⟨cleared, []⟩
      else
        match offer.kind with
        | .FIGHTER =>
            match writBerth cleared with
            | none => .error .NO_ROOM
            | some target =>
                if MAX_FIGHTERS_PER_SYSTEM ≤ fightersOwned cleared target then .error .NO_ROOM
                else
                  .ok ⟨replaceSystem cleared
                    { target with fighters := target.fighters ++ [⟨HULL_MAX⟩] },
                    [.joined target.seasonId]⟩
        | .STRIKE _ targetSeasonId =>
            match cleared.systems with
            | [] => .error .NO_ROOM
            | home :: _ =>
                if MAX_FLIGHTS ≤ cleared.flights.length then .error .TOO_MANY_FLIGHTS
                else
                  let flight : InFlightOrder :=
                    ⟨.RAID HULL_MAX true, home.seasonId, targetSeasonId, now,
                      now + FIGHTER_TRAVEL_MS⟩
                  .ok ⟨{ cleared with flights := cleared.flights ++ [flight] }, []⟩

/-! ## §5. Incursions. -/

def WARDEN_POOL_PER_CYCLE : ℚ := 3
def INCURSION_WARNING_MS : Nat := MS_PER_DAY
def MAX_INCURSION_CREDIT : ℚ := 2
def COURT_PROTECTION_MS : Nat := 30 * MS_PER_DAY

def incursionRatePerCycle (totalPlanets : Nat) : ℚ := WARDEN_POOL_PER_CYCLE / max 1 totalPlanets

def isCourtProtected (state : CourtOfferState) (now : Nat) : Bool :=
  match state with
  | .ACCEPTED acceptedAt => decide (now < acceptedAt + COURT_PROTECTION_MS)
  | _ => false

/-- The credit of one system brought up to date, and an incursion announced
at 1. -/
def accruedSystem (totalPlanets now : Nat) (system : SystemState) : SystemState :=
  let elapsed := now - system.incursion.lastCreditAt
  let credit := min MAX_INCURSION_CREDIT
    (system.incursion.credit + elapsed / CYCLE_MS * incursionRatePerCycle totalPlanets)
  if system.incursion.arrivesAt.isNone ∧ 1 ≤ credit then
    { system with
      incursion :=
        { system.incursion with
          credit := credit - 1
          arrivesAt := some (now + INCURSION_WARNING_MS)
          lastCreditAt := now } }
  else
    { system with incursion := { system.incursion with credit := credit, lastCreditAt := now } }

def accrueIncursions (totalPlanets now : Nat) : DukeState :=
  state.systems.foldl (fun next system => replaceSystem next (accruedSystem totalPlanets now system))
    state

/-- An announced Warden lands once its warning has run. -/
def landIncursion (sectors : String → Bool) (now : Nat) (step : DukeStep) (system : SystemState) :
    DukeStep :=
  match system.incursion.arrivesAt with
  | none => step
  | some arrival =>
      if now < arrival then step
      else
        let cleared : SystemState :=
          { system with
            incursion :=
              { system.incursion with arrivesAt := none, count := system.incursion.count + 1 } }
        if !sectors system.seasonId then { step with state := replaceSystem step.state cleared }
        else if isCourtProtected state.courtOffer now
            && !(state.favor.any CourtFavor.revoked) then
          { step with state := replaceSystem step.state cleared }
        else
          let outcome := resolveWardenIncursion system.fighters
          { state := replaceSystem step.state { cleared with fighters := outcome.fighters }
            news := step.news ++
              if outcome.fighterLost then [.destroyed system.seasonId] else [] }

/-- Lands every incursion whose arrival time has passed; `sectors` are those
held. -/
def landIncursions (sectors : String → Bool) (now : Nat) : DukeStep :=
  state.systems.foldl (landIncursion state sectors now) ⟨state, []⟩

end BorderEmpires.Duke
