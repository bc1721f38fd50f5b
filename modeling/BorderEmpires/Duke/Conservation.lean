/-
  BorderEmpires.Duke.Conservation
  **FIGHTERS ARE NEITHER LOST NOR GAINED ON THE WAY.**

  Every operation of a Duke keeps its books, with one exception: a FIGHTER
  Writ counts the Fighters a system owns and not the one in its build slot,
  so it can take the berth that one was planned for.
-/
import BorderEmpires.Duke.Books
import BorderEmpires.Lib.Run

namespace BorderEmpires.Duke

/-! ## §1. The tick. -/

/-- **The invariant of a run**: the books, and flights that take their time. -/
structure Berthed (fleet : Fleet) : Prop where
  accounts : Accounts fleet.state fleet.state.flights fleet.state.lent fleet.news
  timed : ∀ f ∈ fleet.state.flights, f.Timed

/-- Orders in a row may be bracketed either way. -/
theorem andThen_assoc (step : DukeStep) (f g : DukeState → DukeStep) :
    (step.andThen f).andThen g = step.andThen fun state => (f state).andThen g := by
  unfold DukeStep.andThen
  simp only [List.append_assoc]

/-- A step that moves no flight and no lent Fighter, and accounts for the rest. -/
theorem Berthed.after {step : DukeStep} (h : Berthed step) {f : DukeState → DukeStep}
    (haccounts : Accounts (f step.state).state step.state.flights step.state.lent
      (step.news ++ (f step.state).news))
    (hflights : (f step.state).state.flights = step.state.flights)
    (hlent : (f step.state).state.lent = step.state.lent) : Berthed (step.andThen f) := by
  refine ⟨?_, ?_⟩
  · rw [← hflights, ← hlent] at haccounts
    exact haccounts
  · intro g hg
    refine h.timed g ?_
    rw [← hflights]
    exact hg

/-- A step that leaves systems, flights and lent Fighters alone. -/
theorem Berthed.frame {step : DukeStep} (h : Berthed step) {f : DukeState → DukeState}
    (hframe : (f step.state).systems = step.state.systems
      ∧ (f step.state).flights = step.state.flights ∧ (f step.state).lent = step.state.lent) :
    Berthed (step.andThen fun state => ⟨f state, []⟩) := by
  refine h.after ?_ hframe.2.1 hframe.2.2
  rw [List.append_nil]
  exact h.accounts.of_systems hframe.1

/-- Systems of planets that were won come without Fighters, and none with one is
lost. -/
theorem syncSystems_accounts {state : DukeState} {raids : List InFlightOrder}
    {lent : List LentFighter} {news : List FleetEvent} (h : Accounts state raids lent news)
    (planets : List HeldPlanet) (hplanets : (planets.map HeldPlanet.seasonId).Nodup)
    (hkept : ∀ system ∈ state.systems, system.seasonId ∈ planets.map HeldPlanet.seasonId)
    (now : Nat) :
    Accounts (syncSystems state planets now) raids lent news
      ∧ (syncSystems state planets now).flights = state.flights
      ∧ (syncSystems state planets now).lent = state.lent := by
  unfold syncSystems
  have hall : (state.systems.filter fun s =>
      decide (s.seasonId ∈ planets.map HeldPlanet.seasonId)) = state.systems := by
    rw [List.filter_eq_self]
    intro s hs
    simpa using hkept s hs
  rw [hall]
  dsimp only
  generalize hadded : (planets.filter fun p =>
      decide (p.seasonId ∉ state.systems.map SystemState.seasonId)) = fresh
  split
  · exact ⟨h, rfl, rfl⟩
  have hmem : ∀ p ∈ fresh, p.seasonId ∉ systemIds state := by
    intro p hp
    rw [← hadded] at hp
    simpa [systemIds] using (List.mem_filter.mp hp).2
  set synced : DukeState :=
    { state with systems := state.systems ++ fresh.map fun p => newSystemState p now none }
  have hids : systemIds synced = systemIds state ++ fresh.map HeldPlanet.seasonId := by
    unfold systemIds
    rw [List.map_append, List.map_map]
    rfl
  -- a system of a new Planet is empty
  have hfind : ∀ id, findSystem synced id = findSystem state id
      ∨ (findSystem state id = none
        ∧ ∃ p, findSystem synced id = some (newSystemState p now none)) := by
    intro id
    unfold findSystem
    rw [List.find?_append]
    cases hold : state.systems.find? fun s => decide (s.seasonId = id) with
    | some system => exact Or.inl rfl
    | none =>
        rw [Option.none_or]
        cases hnew : (fresh.map fun p => newSystemState p now none).find?
            fun s => decide (s.seasonId = id) with
        | none => exact Or.inl rfl
        | some system =>
            right
            obtain ⟨p, _, rfl⟩ := List.mem_map.mp (List.mem_of_find?_eq_some hnew)
            exact ⟨rfl, p, rfl⟩
  have hstationed : ∀ id, stationed synced id = stationed state id := by
    intro id
    rcases hfind id with heq | ⟨hnone, p, hsome⟩
    · exact stationed_congr heq
    · rw [stationed_of_find hsome]
      unfold stationed
      rw [hnone]
      rfl
  have hreserved : ∀ id, reservedAt synced id = reservedAt state id := by
    intro id
    rcases hfind id with heq | ⟨hnone, p, hsome⟩
    · exact reservedAt_congr heq
    · rw [reservedAt_of_find hsome]
      unfold reservedAt
      rw [hnone]
      rfl
  refine ⟨?_, rfl, rfl⟩
  exact
    { distinct := by
        rw [hids, List.nodup_append]
        refine ⟨h.distinct, ?_, ?_⟩
        · rw [← hadded]
          exact hplanets.sublist (List.Sublist.map _ List.filter_sublist)
        · intro a ha b hb heq
          obtain ⟨p, hp, rfl⟩ := List.mem_map.mp hb
          exact hmem p hp (heq ▸ ha)
      accounted := fun id => by
        unfold heldBy
        rw [hstationed]
        exact h.accounted id
      reserved := fun id => by
        unfold heldBy
        rw [hstationed, hreserved]
        exact h.reserved id
      berthed := h.berthed
      raidsHoused := fun f hf id hown => by
        rw [hids]
        exact List.mem_append_left _ (h.raidsHoused f hf id hown)
      lentHoused := fun l hl => by
        rw [hids]
        exact List.mem_append_left _ (h.lentHoused l hl) }

variable {fleet : Fleet} (state : DukeState)

/-- What orbiting probes report touches no Fighter. -/
theorem refreshOrbitIntel_frame (lookup : String → Option TargetView) (now : Nat) :
    (refreshOrbitIntel state lookup now).systems = state.systems
      ∧ (refreshOrbitIntel state lookup now).flights = state.flights
      ∧ (refreshOrbitIntel state lookup now).lent = state.lent := by
  unfold refreshOrbitIntel
  generalize state.orbiting = orbiting
  induction orbiting generalizing state with
  | nil => exact ⟨rfl, rfl, rfl⟩
  | cons orbit orbiting ih =>
      rw [List.foldl_cons]
      refine ⟨(ih _).1.trans ?_, (ih _).2.1.trans ?_, (ih _).2.2.trans ?_⟩
      all_goals
        split
        · split
          · rfl
          · rfl
        · rfl

/-- **A tick keeps the books.** -/
theorem tick_berthed (h : Berthed fleet) (world : TickWorld)
    (hplanets : (world.planets.map HeldPlanet.seasonId).Nodup)
    (hkept : ∀ system ∈ fleet.state.systems,
      system.seasonId ∈ world.planets.map HeldPlanet.seasonId) :
    Berthed (fleet.andThen fun state => advanceOneDuke state world) := by
  unfold advanceOneDuke
  by_cases hnone : world.planets = []
  · simp only [if_pos hnone]
    refine ⟨?_, h.timed⟩
    have haccounts := h.accounts
    rw [← List.append_nil fleet.news] at haccounts
    exact haccounts
  · simp only [if_neg hnone]
    rw [← andThen_assoc, ← andThen_assoc, ← andThen_assoc, ← andThen_assoc, ← andThen_assoc]
    -- production
    have hproduced : Berthed (fleet.andThen fun stored =>
        let synced := syncSystems stored world.planets world.now
        let produced := synced.systems.foldl (produce (world.now - synced.lastAdvancedAt))
          ⟨synced, []⟩
        { produced with state := { produced.state with lastAdvancedAt := world.now } }) := by
      obtain ⟨hsynced, hsyncedFlights, hsyncedLent⟩ :=
        syncSystems_accounts h.accounts world.planets hplanets hkept world.now
      obtain ⟨hdone, hflights, hlent⟩ := produced_accounts hsynced
        (world.now - (syncSystems fleet.state world.planets world.now).lastAdvancedAt)
      rw [hsyncedFlights] at hflights
      rw [hsyncedLent] at hlent
      refine ⟨?_, ?_⟩
      · rw [← hflights, ← hlent] at hdone
        exact hdone.of_systems rfl
      · intro f hf
        refine h.timed f ?_
        rw [← hflights]
        exact hf
    -- orders that have arrived
    have harrived : ∀ step : DukeStep, Berthed step → Berthed (step.andThen fun state =>
        resolveFlights world 0 (arrivedFlights state world.now) state) := by
      intro step hstep
      have hsplit : Accounts step.state
          ((step.state.flights.filter fun f => !decide (f.arrivesAt ≤ world.now))
            ++ arrivedFlights step.state world.now) step.state.lent step.news := by
        have hcount : ∀ id, ownRaids
            ((step.state.flights.filter fun f => !decide (f.arrivesAt ≤ world.now))
              ++ arrivedFlights step.state world.now) id = ownRaids step.state.flights id := by
          intro id
          unfold arrivedFlights
          rw [ownRaids_append]
          induction step.state.flights with
          | nil => rfl
          | cons f flights ih =>
              rw [ownRaids_cons f flights]
              by_cases hdue : f.arrivesAt ≤ world.now
              · rw [List.filter_cons_of_neg (by simpa using hdue),
                  List.filter_cons_of_pos (by simpa using hdue), ownRaids_cons]
                omega
              · rw [List.filter_cons_of_pos (by simpa using hdue),
                  List.filter_cons_of_neg (by simpa using hdue), ownRaids_cons]
                omega
        refine hstep.accounts.congr rfl (fun _ => rfl) (fun _ => rfl) hcount ?_ (fun _ => rfl)
          (fun _ hl => hl)
        intro f hf
        rcases List.mem_append.mp hf with hf | hf
        · exact (List.mem_filter.mp hf).1
        · exact (List.mem_filter.mp hf).1
      have hresolved := resolveFlights_accounts world world.now
        (arrivedFlights step.state world.now) 0 step.state step.news hsplit hstep.timed
        (fun f hf => ⟨hstep.timed f (List.mem_filter.mp hf).1,
          by simpa using (List.mem_filter.mp hf).2⟩)
        (fun f hf hdue => List.mem_filter.mpr ⟨hf, by simpa using hdue⟩)
      exact ⟨hresolved.1, hresolved.2⟩
    have hreturned : ∀ step : DukeStep, Berthed step →
        Berthed (step.andThen fun state => returnLentFighters state world.now) := by
      intro step hstep
      obtain ⟨haccounts, hflights⟩ := returnLentFighters_accounts hstep.accounts world.now
      refine ⟨?_, ?_⟩
      · rw [← hflights] at haccounts
        exact haccounts
      · intro f hf
        refine hstep.timed f ?_
        rw [← hflights]
        exact hf
    have haccrued : ∀ step : DukeStep, Berthed step → Berthed (step.andThen fun state =>
        ⟨accrueIncursions state world.capturedSectors world.now, []⟩) := by
      intro step hstep
      obtain ⟨haccounts, hflights, hlent⟩ :=
        accrueIncursions_accounts hstep.accounts world.capturedSectors world.now
      refine hstep.after ?_ hflights hlent
      rw [List.append_nil]
      exact haccounts
    have hlanded : ∀ step : DukeStep, Berthed step → Berthed (step.andThen fun state =>
        landIncursions state
          (fun seasonId => decide (seasonId ∈ world.planets.map HeldPlanet.seasonId))
          world.now) := by
      intro step hstep
      obtain ⟨haccounts, hflights, hlent⟩ := landIncursions_accounts hstep.accounts
        (fun seasonId => decide (seasonId ∈ world.planets.map HeldPlanet.seasonId)) world.now
      exact hstep.after haccounts hflights hlent
    have hrefreshed : ∀ step : DukeStep, Berthed step → Berthed (step.andThen fun state =>
        ⟨refreshOrbitIntel state world.orbitView world.now, []⟩) :=
      fun step hstep => hstep.frame (refreshOrbitIntel_frame step.state world.orbitView world.now)
    exact hrefreshed _ (hlanded _ (haccrued _ (hreturned _ (harrived _ hproduced))))

/-! ## §2. The actions. -/

/-- **A build is planned for a free berth.** -/
theorem planBuild_fighter {bodies : String → List GalaxyBodyKind} {state : DukeState}
    {seasonId : String} {spec : BuildSpec} {stability : ℚ} {plan : PlannedBuild}
    (h : planBuild bodies state seasonId spec stability = .ok plan) :
    ∃ system, findSystem state seasonId = some system ∧ system.slot = none
      ∧ (plan.kind.isFighter = true → fightersOwned state system < MAX_FIGHTERS_PER_SYSTEM) := by
  unfold planBuild at h
  cases hfind : findSystem state seasonId with
  | none =>
      rw [hfind] at h
      cases h
  | some system =>
      rw [hfind] at h
      dsimp only at h
      split at h
      · cases h
      rename_i hslot
      refine ⟨system, rfl, by simpa using hslot, ?_⟩
      intro hfighter
      cases spec with
      | FIGHTER =>
          dsimp only at h
          split at h
          · cases h
          · omega
      | PROBE =>
          dsimp only at h
          split at h
          · cases h
          · simp only [Except.ok.injEq] at h
            rw [← h] at hfighter
            cases hfighter
      | REFIT =>
          dsimp only at h
          split at h
          · cases h
          split at h
          · cases h
          · simp only [Except.ok.injEq] at h
            rw [← h] at hfighter
            cases hfighter
      | FORTIFY points =>
          dsimp only at h
          split at h
          · cases h
          · simp only [Except.ok.injEq] at h
            rw [← h] at hfighter
            cases hfighter
      | DEVELOP bodyIndex =>
          dsimp only at h
          split at h
          · cases h
          split at h
          · cases h
          · simp only [Except.ok.injEq] at h
            rw [← h] at hfighter
            cases hfighter

/-- Fighters at home, on own raids and lent: what the caps are checked against. -/
theorem heldBy_fightersOwned {state : DukeState} {system : SystemState}
    (h : findSystem state system.seasonId = some system) :
    heldBy state state.flights state.lent system.seasonId = fightersOwned state system := by
  unfold heldBy fightersOwned
  rw [stationed_of_find h]

/-- **A build** is planned only where a berth is free for it. -/
theorem build_berthed (h : Berthed fleet) (bodies : String → List GalaxyBodyKind)
    (planets : List HeldPlanet) (seasonId : String) (spec : BuildSpec) (stability : ℚ) :
    Berthed (fleet.andThen fun state =>
      ⟨buildAction bodies state planets seasonId spec stability, []⟩) := by
  have hself : buildAction bodies fleet.state planets seasonId spec stability = fleet.state
      ∨ ∃ plan, planBuild bodies fleet.state seasonId spec stability = .ok plan
        ∧ buildAction bodies fleet.state planets seasonId spec stability
          = startPlannedBuild fleet.state seasonId plan := by
    unfold buildAction
    split
    · cases hplan : planBuild bodies fleet.state seasonId spec stability with
      | error code => exact Or.inl rfl
      | ok plan => exact Or.inr ⟨plan, rfl, rfl⟩
    · exact Or.inl rfl
  rcases hself with hsame | ⟨plan, hplan, hstart⟩
  · exact h.frame ⟨by rw [hsame], by rw [hsame], by rw [hsame]⟩
  · obtain ⟨system, hfind, hslot, hroom⟩ := planBuild_fighter hplan
    have hid := findSystem_seasonId hfind
    rw [← hid] at hfind
    unfold startPlannedBuild at hstart
    rw [← hid] at hstart
    rw [hfind] at hstart
    dsimp only at hstart
    have haccounts := @Accounts.replace _ _ _ _ [] h.accounts _ { system with
        slot := some { plan with progress := min plan.cost system.idleBank }
        idleBank := system.idleBank - min plan.cost system.idleBank } hfind rfl
      (fun e he => (by cases he)) rfl ?_
    · rw [← hid]
      refine h.after ?_ ?_ ?_
      · dsimp only
        rw [hstart]
        exact haccounts
      · dsimp only
        rw [hstart]
        rfl
      · dsimp only
        rw [hstart]
        rfl
    · -- the berth of the Fighter planned was free
      rw [heldBy_fightersOwned hfind]
      show system.fighters.length + (if plan.kind.isFighter = true then 1 else 0) ≤ _
        ∨ fightersOwned fleet.state system + system.fighters.length
          + (if plan.kind.isFighter = true then 1 else 0) ≤ _
      by_cases hfighter : plan.kind.isFighter = true
      · right
        have := hroom hfighter
        rw [if_pos hfighter]
        omega
      · left
        rw [if_neg hfighter]
        omega

/-- A build that is cancelled frees its berth. -/
theorem cancelBuild_berthed (h : Berthed fleet) (seasonId : String) :
    Berthed (fleet.andThen fun state => ⟨cancelBuildAction state seasonId, []⟩) := by
  have hself : cancelBuildAction fleet.state seasonId = fleet.state
      ∨ ∃ system, findSystem fleet.state seasonId = some system
        ∧ cancelBuildAction fleet.state seasonId
          = replaceSystem fleet.state { system with slot := none } := by
    unfold cancelBuildAction cancelBuild
    cases hfind : findSystem fleet.state seasonId with
    | none => exact Or.inl rfl
    | some system =>
        dsimp only
        split
        · exact Or.inr ⟨system, rfl, rfl⟩
        · exact Or.inl rfl
  rcases hself with hsame | ⟨system, hfind, hcancel⟩
  · exact h.frame ⟨by rw [hsame], by rw [hsame], by rw [hsame]⟩
  · have hid := findSystem_seasonId hfind
    rw [← hid] at hfind
    refine h.after ?_ ?_ ?_
    · dsimp only
      rw [hcancel]
      refine h.accounts.replace hfind rfl (fun e he => (by cases he)) rfl (Or.inl ?_)
      show system.fighters.length + 0 ≤ _
      omega
    · dsimp only
      rw [hcancel]
      rfl
    · dsimp only
      rw [hcancel]
      rfl

/-- **A Fighter leaves its system**, for a raid or for the Court. -/
theorem Accounts.depart {state : DukeState} {raids raids' : List InFlightOrder}
    {lent lent' : List LentFighter} {news : List FleetEvent} (h : Accounts state raids lent news)
    {system : SystemState} (hfind : findSystem state system.seasonId = some system) {idx : Nat}
    (hidx : idx < system.fighters.length)
    (hraids : ∀ id, id ≠ system.seasonId → ownRaids raids' id = ownRaids raids id)
    (hlent : ∀ id, id ≠ system.seasonId → lentFrom lent' id = lentFrom lent id)
    (haway : ownRaids raids' system.seasonId + lentFrom lent' system.seasonId
      = ownRaids raids system.seasonId + lentFrom lent system.seasonId + 1)
    (hraidsHoused : ∀ f ∈ raids', ∀ id, f.isOwnRaid id = true → id ∈ systemIds state)
    (hlentHoused : ∀ l ∈ lent', l.fromSeasonId ∈ systemIds state) :
    Accounts (replaceSystem state { system with fighters := system.fighters.eraseIdx idx })
      raids' lent' news := by
  set next : SystemState := { system with fighters := system.fighters.eraseIdx idx }
  have hid : next.seasonId = system.seasonId := rfl
  have hself := findSystem_replaceSystem_self hfind hid
  have hne := fun id => @findSystem_replaceSystem_ne _ state _ hid id
  have hlength := List.length_eraseIdx_of_lt hidx
  have hheld : heldBy state raids lent system.seasonId
      = system.fighters.length + ownRaids raids system.seasonId
        + lentFrom lent system.seasonId := by
    unfold heldBy
    rw [stationed_of_find hfind]
  have hheld' : heldBy (replaceSystem state next) raids' lent' system.seasonId
      = system.fighters.length - 1 + ownRaids raids' system.seasonId
        + lentFrom lent' system.seasonId := by
    unfold heldBy
    rw [stationed_of_find hself]
    show (system.fighters.eraseIdx idx).length + _ + _ = _
    rw [hlength]
  have hbound := h.reserved system.seasonId
  rw [reservedAt_of_find hfind] at hbound
  rw [← List.append_nil news]
  refine h.update system.seasonId (systemIds_replaceSystem _ _)
    (fun id hid => stationed_congr (hne id hid)) (fun id hid => reservedAt_congr (hne id hid))
    hraids hlent (fun e he => (by cases he)) ?_ ?_ hraidsHoused hlentHoused
  · simp only [List.count_nil]
    omega
  · rw [reservedAt_of_find hself]
    show _ + (if system.buildsFighter then 1 else 0) ≤ _
    omega

/-- A raid takes the healthiest Fighter out of its system. -/
theorem launchRaid_cases {state launched : DukeState} {fromSeasonId targetSeasonId : String}
    {owned : List String} {now : Nat}
    (h : launchRaid state fromSeasonId targetSeasonId owned now = .ok launched) :
    ∃ system idx hull, findSystem state fromSeasonId = some system
      ∧ idx < system.fighters.length
      ∧ launched = replaceSystem
          { state with flights := state.flights ++
            [⟨.RAID hull false, fromSeasonId, targetSeasonId, now, now + FIGHTER_TRAVEL_MS⟩] }
          { system with fighters := system.fighters.eraseIdx idx } := by
  unfold launchRaid at h
  cases hfind : findSystem state fromSeasonId with
  | none =>
      rw [hfind] at h
      cases h
  | some system =>
      rw [hfind] at h
      dsimp only at h
      split at h
      · cases h
      split at h
      · cases h
      cases hidx : healthiestFighterIndex system.fighters with
      | none =>
          rw [hidx] at h
          cases h
      | some idx =>
          rw [hidx] at h
          dsimp only at h
          split at h
          · cases h
          · simp only [Except.ok.injEq] at h
            exact ⟨system, idx, _, rfl, healthiest_lt hidx, h.symm⟩

/-- A probe takes one from the stock. -/
theorem launchProbe_cases {state launched : DukeState} {fromSeasonId targetSeasonId : String}
    {owned : List String} {now : Nat}
    (h : launchProbe state fromSeasonId targetSeasonId owned now = .ok launched) :
    ∃ system, findSystem state fromSeasonId = some system
      ∧ launched = replaceSystem
          { state with flights := state.flights ++
            [⟨.PROBE, fromSeasonId, targetSeasonId, now, now + PROBE_TRAVEL_MS⟩] }
          { system with probeStock := system.probeStock - 1 } := by
  unfold launchProbe at h
  cases hfind : findSystem state fromSeasonId with
  | none =>
      rw [hfind] at h
      cases h
  | some system =>
      rw [hfind] at h
      dsimp only at h
      split at h
      · cases h
      split at h
      · cases h
      split at h
      · cases h
      · simp only [Except.ok.injEq] at h
        exact ⟨system, rfl, h.symm⟩

/-- One more flight is one more own raid, or none. -/
theorem ownRaids_snoc (flights : List InFlightOrder) (f : InFlightOrder) (id : String) :
    ownRaids (flights ++ [f]) id = ownRaids flights id + (if f.isOwnRaid id then 1 else 0) := by
  rw [ownRaids_append, ownRaids_cons]
  simp [ownRaids]

/-- A flight that is timed joins the timed ones. -/
theorem timed_snoc {flights : List InFlightOrder} {f : InFlightOrder}
    (h : ∀ g ∈ flights, g.Timed) (hf : f.Timed) : ∀ g ∈ flights ++ [f], g.Timed := by
  intro g hg
  rcases List.mem_append.mp hg with hg | hg
  · exact h g hg
  · rw [List.mem_singleton.mp hg]
    exact hf

/-- A flight that is no own raid changes no account. -/
theorem Accounts.snoc_flight {state : DukeState} {raids : List InFlightOrder}
    {lent : List LentFighter} {news : List FleetEvent} (h : Accounts state raids lent news)
    {f : InFlightOrder} (hf : ∀ id, f.isOwnRaid id = false) :
    Accounts state (raids ++ [f]) lent news := by
  have hcount : ∀ id, ownRaids (raids ++ [f]) id = ownRaids raids id := by
    intro id
    rw [ownRaids_snoc, hf id]
    rfl
  have hheld : ∀ id, heldBy state (raids ++ [f]) lent id = heldBy state raids lent id := by
    intro id
    unfold heldBy
    rw [hcount]
  exact
    { distinct := h.distinct
      accounted := fun id => by rw [hheld]; exact h.accounted id
      reserved := fun id => by rw [hheld]; exact h.reserved id
      berthed := h.berthed
      raidsHoused := fun g hg id hown => by
        rcases List.mem_append.mp hg with hg | hg
        · exact h.raidsHoused g hg id hown
        · rw [List.mem_singleton.mp hg, hf id] at hown
          cases hown
      lentHoused := h.lentHoused }

/-- **A launch** moves a Fighter from its berth into a flight. -/
theorem order_berthed (h : Berthed fleet) (now : Nat) (raid : Bool)
    (fromSeasonId targetSeasonId : String) (owned held : List String) :
    Berthed (fleet.andThen fun state =>
      ⟨orderAction state now raid fromSeasonId targetSeasonId owned held, []⟩) := by
  have hstay : orderAction fleet.state now raid fromSeasonId targetSeasonId owned held
        = fleet.state →
      Berthed (fleet.andThen fun state =>
        ⟨orderAction state now raid fromSeasonId targetSeasonId owned held, []⟩) :=
    fun hsame => h.frame ⟨by rw [hsame], by rw [hsame], by rw [hsame]⟩
  by_cases htarget : targetSeasonId ∈ held
  · cases raid with
    | true =>
        cases hlaunch : launchRaid fleet.state fromSeasonId targetSeasonId owned now with
        | error code =>
            refine hstay ?_
            unfold orderAction
            rw [if_pos htarget, if_pos rfl, hlaunch]
        | ok launched =>
            have hself : orderAction fleet.state now true fromSeasonId targetSeasonId owned held
                = launched := by
              unfold orderAction
              rw [if_pos htarget, if_pos rfl, hlaunch]
            obtain ⟨system, idx, hull, hfind, hidx, rfl⟩ := launchRaid_cases hlaunch
            have hid := findSystem_seasonId hfind
            have hown : ∀ id, InFlightOrder.isOwnRaid id ⟨.RAID hull false, fromSeasonId,
                targetSeasonId, now, now + FIGHTER_TRAVEL_MS⟩ = decide (fromSeasonId = id) := by
              intro id
              unfold InFlightOrder.isOwnRaid
              simp
            rw [← hid] at hfind
            have hdeparted := @Accounts.depart _ _
              (fleet.state.flights ++ [⟨.RAID hull false, fromSeasonId, targetSeasonId,
                now, now + FIGHTER_TRAVEL_MS⟩]) _ fleet.state.lent _ h.accounts _ hfind _ hidx ?_ (fun _ _ => rfl) ?_ ?_
              h.accounts.lentHoused
            · refine ⟨?_, ?_⟩
              · unfold DukeStep.andThen
                dsimp only
                rw [hself, List.append_nil]
                exact hdeparted.of_systems rfl
              · unfold DukeStep.andThen
                dsimp only
                rw [hself]
                exact timed_snoc h.timed rfl
            · intro id hne
              rw [ownRaids_snoc, hown id, if_neg]
              · rfl
              · simp only [decide_eq_true_eq]
                intro heq
                exact hne (heq.symm.trans hid.symm)
            · rw [ownRaids_snoc, hown, if_pos (by simpa using hid.symm)]
              omega
            · intro f hf id hfown
              rcases List.mem_append.mp hf with hf | hf
              · exact h.accounts.raidsHoused f hf id hfown
              · rw [List.mem_singleton.mp hf, hown id] at hfown
                simp only [decide_eq_true_eq] at hfown
                rw [← hfown, ← hid]
                exact List.mem_map_of_mem (findSystem_mem hfind)
    | false =>
        cases hlaunch : launchProbe fleet.state fromSeasonId targetSeasonId owned now with
        | error code =>
            refine hstay ?_
            unfold orderAction
            rw [if_pos htarget, if_neg (by decide), hlaunch]
        | ok launched =>
            have hself : orderAction fleet.state now false fromSeasonId targetSeasonId owned held
                = launched := by
              unfold orderAction
              rw [if_pos htarget, if_neg (by decide), hlaunch]
            obtain ⟨system, hfind, rfl⟩ := launchProbe_cases hlaunch
            have hid := findSystem_seasonId hfind
            rw [← hid] at hfind
            have hreplaced := @Accounts.replace _ _ _ _ [] h.accounts _
              { system with probeStock := system.probeStock - 1 } hfind rfl
              (fun e he => (by cases he)) rfl (Or.inl (Nat.le_refl _))
            refine ⟨?_, ?_⟩
            · unfold DukeStep.andThen
              dsimp only
              rw [hself]
              exact (hreplaced.snoc_flight fun _ => rfl).of_systems rfl
            · unfold DukeStep.andThen
              dsimp only
              rw [hself]
              exact timed_snoc h.timed rfl
  · refine hstay ?_
    unfold orderAction
    rw [if_neg htarget]

/-- A loan takes the healthiest Fighter out of its system. -/
theorem lendFighter_cases {state lent : DukeState} {fromSeasonId : String} {now : Nat}
    (h : lendFighter state fromSeasonId now = .ok lent) :
    ∃ system idx hull, findSystem state fromSeasonId = some system
      ∧ idx < system.fighters.length
      ∧ lent = replaceSystem
          { state with lent := state.lent ++ [⟨fromSeasonId, hull, now + LEND_DURATION_MS⟩] }
          { system with fighters := system.fighters.eraseIdx idx } := by
  unfold lendFighter at h
  cases hfind : findSystem state fromSeasonId with
  | none =>
      rw [hfind] at h
      cases h
  | some system =>
      rw [hfind] at h
      dsimp only at h
      cases hidx : healthiestFighterIndex system.fighters with
      | none =>
          rw [hidx] at h
          cases h
      | some idx =>
          rw [hidx] at h
          dsimp only at h
          split at h
          · cases h
          · simp only [Except.ok.injEq] at h
            exact ⟨system, idx, _, rfl, healthiest_lt hidx, h.symm⟩

/-- **A loan** moves a Fighter from its berth to the Court. -/
theorem lendFleet_berthed (h : Berthed fleet) (now : Nat) (fromSeasonId : String) :
    Berthed (fleet.andThen fun state => ⟨lendFleetAction state now fromSeasonId, []⟩) := by
  have hself : lendFleetAction fleet.state now fromSeasonId = fleet.state
      ∨ ∃ lent, lendFighter fleet.state fromSeasonId now = .ok lent
        ∧ lendFleetAction fleet.state now fromSeasonId = resetFavorClock lent now := by
    unfold lendFleetAction
    split
    · exact Or.inl rfl
    · cases hlend : lendFighter fleet.state fromSeasonId now with
      | error code => exact Or.inl rfl
      | ok lent => exact Or.inr ⟨lent, rfl, rfl⟩
  rcases hself with hsame | ⟨lent, hlend, hreset⟩
  · exact h.frame ⟨by rw [hsame], by rw [hsame], by rw [hsame]⟩
  · obtain ⟨system, idx, hull, hfind, hidx, rfl⟩ := lendFighter_cases hlend
    have hid := findSystem_seasonId hfind
    rw [← hid] at hfind
    have hcount : ∀ id,
        lentFrom (fleet.state.lent ++ [⟨fromSeasonId, hull, now + LEND_DURATION_MS⟩]) id
          = lentFrom fleet.state.lent id + (if fromSeasonId = id then 1 else 0) := by
      intro id
      rw [lentFrom_append, lentFrom_cons]
      simp [lentFrom]
    have hdeparted := @Accounts.depart _ _ fleet.state.flights _
      (fleet.state.lent ++ [⟨fromSeasonId, hull, now + LEND_DURATION_MS⟩]) _ h.accounts _ hfind _
      hidx
      (fun _ _ => rfl) ?_ ?_ h.accounts.raidsHoused ?_
    · refine ⟨?_, ?_⟩
      · unfold DukeStep.andThen
        dsimp only
        rw [hreset, List.append_nil]
        exact hdeparted.of_systems rfl
      · unfold DukeStep.andThen
        dsimp only
        rw [hreset]
        exact h.timed
    · intro id hne
      rw [hcount, if_neg]
      · rfl
      · intro heq
        exact hne (heq.symm.trans hid.symm)
    · rw [hcount, if_pos hid.symm]
      omega
    · intro l hl
      rcases List.mem_append.mp hl with hl | hl
      · exact h.accounts.lentHoused l hl
      · rw [List.mem_singleton.mp hl]
        show fromSeasonId ∈ _
        rw [← hid]
        exact List.mem_map_of_mem (findSystem_mem hfind)

/-- No berth is kept by the offer itself. -/
theorem writBerth_clearWrit :
    writBerth (clearWrit state) = writBerth state := rfl

/-- The offer is no part of what is owned. -/
theorem fightersOwned_clearWrit (system : SystemState) :
    fightersOwned (clearWrit state) system = fightersOwned state system := rfl

/-- **A Writ** that is accepted puts its Fighter into a berth that is spared. -/
theorem answerWrit_berthed (h : Berthed fleet) (now : Nat) (accept : Bool) (court : CourtStrength)
    (hspares : SparesBerth fleet (.answerWrit now accept court)) :
    Berthed (fleet.andThen fun state => answerWritAction state now accept court) := by
  have hstay : answerWritAction fleet.state now accept court = ⟨fleet.state, []⟩ →
      Berthed (fleet.andThen fun state => answerWritAction state now accept court) := by
    intro hsame
    refine h.after ?_ (by rw [hsame]) (by rw [hsame])
    rw [hsame, List.append_nil]
    exact h.accounts
  by_cases hrefused : accept ∧ (pendingWrit fleet.state now).isSome
      ∧ (court.fallen ∨ court.start < court.current + WRIT_COURT_STRENGTH_GAIN)
  · refine hstay ?_
    unfold answerWritAction
    rw [if_pos hrefused]
  · have hanswer : answerWritAction fleet.state now accept court = _ := if_neg hrefused
    unfold answerWrit at hanswer
    cases hoffer : pendingWrit fleet.state now with
    | none =>
        rw [hoffer] at hanswer
        exact hstay hanswer
    | some offer =>
        rw [hoffer] at hanswer
        dsimp only at hanswer
        cases accept with
        | false =>
            rw [if_pos (by decide)] at hanswer
            dsimp only at hanswer
            refine h.after ?_ (by rw [hanswer]; rfl) (by rw [hanswer]; rfl)
            rw [hanswer, List.append_nil]
            exact h.accounts.of_systems rfl
        | true =>
            rw [if_neg (by decide)] at hanswer
            cases hkind : offer.kind with
            | FIGHTER =>
                rw [hkind] at hanswer
                dsimp only at hanswer
                rw [writBerth_clearWrit] at hanswer
                cases hberth : writBerth fleet.state with
                | none =>
                    rw [hberth] at hanswer
                    exact hstay hanswer
                | some target =>
                    rw [hberth] at hanswer
                    dsimp only at hanswer
                    rw [fightersOwned_clearWrit] at hanswer
                    by_cases hfull : MAX_FIGHTERS_PER_SYSTEM ≤ fightersOwned fleet.state target
                    · rw [if_pos hfull] at hanswer
                      exact hstay hanswer
                    · rw [if_neg hfull] at hanswer
                      dsimp only at hanswer
                      have hmem : target ∈ fleet.state.systems := List.argmin_mem hberth
                      have hfind := findSystem_of_mem h.accounts.distinct hmem
                      have hspare := hspares rfl offer hoffer hkind target hberth
                      refine h.after ?_ (by rw [hanswer]; rfl) (by rw [hanswer]; rfl)
                      rw [hanswer]
                      have hjoined := @Accounts.replace _ _ _ _ [.joined target.seasonId] h.accounts _
                        { target with fighters := target.fighters ++ [⟨HULL_MAX⟩] } hfind
                        rfl (fun e he => Or.inr (Or.inl (List.mem_singleton.mp he))) (by simp) ?_
                      · exact hjoined.of_systems rfl
                      · -- a berth is left beside the one reserved
                        right
                        rw [heldBy_fightersOwned hfind]
                        show _ + (target.fighters ++ [DukeFighter.mk HULL_MAX]).length
                          + (if target.buildsFighter then 1 else 0) ≤ _
                        rw [List.length_append, List.length_singleton]
                        by_cases hbuilds : target.buildsFighter = true
                        · have := hspare hbuilds
                          rw [if_pos hbuilds]
                          omega
                        · rw [if_neg hbuilds]
                          omega
            | STRIKE targetAuthUid targetSeasonId =>
                rw [hkind] at hanswer
                dsimp only at hanswer
                have hcleared : (clearWrit fleet.state).systems = fleet.state.systems := rfl
                rw [hcleared] at hanswer
                cases hsystems : fleet.state.systems with
                | nil =>
                    rw [hsystems] at hanswer
                    exact hstay hanswer
                | cons home rest =>
                    rw [hsystems] at hanswer
                    dsimp only at hanswer
                    by_cases hfull : MAX_FLIGHTS ≤ (clearWrit fleet.state).flights.length
                    · rw [if_pos hfull] at hanswer
                      exact hstay hanswer
                    · rw [if_neg hfull] at hanswer
                      dsimp only at hanswer
                      refine ⟨?_, ?_⟩
                      · unfold DukeStep.andThen
                        dsimp only
                        rw [hanswer, List.append_nil]
                        exact (h.accounts.snoc_flight fun _ => rfl).of_systems hsystems.symm
                      · unfold DukeStep.andThen
                        dsimp only
                        rw [hanswer]
                        exact timed_snoc h.timed rfl

/-- **A rival's raid keeps the books.** -/
theorem raided_berthed (h : Berthed fleet) (seasonId : String) (fighterHull : Int) :
    Berthed (fleet.andThen fun state => defendRaid state seasonId fighterHull) := by
  cases hfind : findSystem fleet.state seasonId with
  | none =>
      have hself : defendRaid fleet.state seasonId fighterHull = ⟨fleet.state, []⟩ := by
        unfold defendRaid
        rw [hfind]
      refine h.after ?_ (by rw [hself]) (by rw [hself])
      rw [hself, List.append_nil]
      exact h.accounts
  | some system =>
      have hself : defendRaid fleet.state seasonId fighterHull
          = ⟨replaceSystem fleet.state { system with
              fighters := (resolveFighterRaid fighterHull system.fighters).defenderFighters },
            if (resolveFighterRaid fighterHull system.fighters).defenderLost then
              [.destroyed seasonId] else []⟩ := by
        unfold defendRaid
        rw [hfind]
      have hid := findSystem_seasonId hfind
      have hlength := defenders_length fighterHull system.fighters
      rw [← hid] at hfind
      refine h.after ?_ (by rw [hself]; rfl) (by rw [hself]; rfl)
      rw [hself]
      refine h.accounts.replace hfind rfl ?_ ?_ (Or.inl ?_)
      · intro e he
        right
        right
        dsimp only at he
        split at he
        · rw [hid]
          exact List.mem_singleton.mp he
        · cases he
      · dsimp only
        rw [hid]
        split at hlength
        · rename_i hlost
          rw [if_pos hlost]
          simp
          omega
        · rename_i hlost
          rw [if_neg hlost]
          simp only [List.count_nil]
          omega
      · show (resolveFighterRaid fighterHull system.fighters).defenderFighters.length
            + (if system.buildsFighter then 1 else 0) ≤ _
        omega

/-- An offer touches no Fighter. -/
theorem maybeOfferWrit_frame (input : WritChance) (now : Nat) :
    (maybeOfferWrit state input now).systems = state.systems
      ∧ (maybeOfferWrit state input now).flights = state.flights
      ∧ (maybeOfferWrit state input now).lent = state.lent := by
  unfold maybeOfferWrit
  dsimp only
  split
  · exact ⟨rfl, rfl, rfl⟩
  split
  · split
    · exact ⟨rfl, rfl, rfl⟩
    · exact ⟨rfl, rfl, rfl⟩
  · split
    · exact ⟨rfl, rfl, rfl⟩
    · exact ⟨rfl, rfl, rfl⟩

/-- The Court's pass touches no Fighter. -/
theorem courtPassFor_frame (now : Nat) (runaway : Bool) (cycleIndex : Nat)
    (chance : Option WritChance) :
    (courtPassFor state now runaway cycleIndex chance).systems = state.systems
      ∧ (courtPassFor state now runaway cycleIndex chance).flights = state.flights
      ∧ (courtPassFor state now runaway cycleIndex chance).lent = state.lent := by
  have hfavor : (updateFavor state runaway now).systems = state.systems
      ∧ (updateFavor state runaway now).flights = state.flights
      ∧ (updateFavor state runaway now).lent = state.lent := by
    unfold updateFavor
    dsimp only
    split
    · split
      · exact ⟨rfl, rfl, rfl⟩
      · exact ⟨rfl, rfl, rfl⟩
    · exact ⟨rfl, rfl, rfl⟩
  have hdrained : ∀ s : DukeState, (drainWeakest s cycleIndex).systems = s.systems
      ∧ (drainWeakest s cycleIndex).flights = s.flights
      ∧ (drainWeakest s cycleIndex).lent = s.lent := by
    intro s
    unfold drainWeakest
    dsimp only
    split
    · exact ⟨rfl, rfl, rfl⟩
    · exact ⟨rfl, rfl, rfl⟩
  obtain ⟨h1, h2, h3⟩ := hdrained (updateFavor state runaway now)
  unfold courtPassFor
  cases chance with
  | none => exact ⟨h1.trans hfavor.1, h2.trans hfavor.2.1, h3.trans hfavor.2.2⟩
  | some input =>
      obtain ⟨h4, h5, h6⟩ :=
        maybeOfferWrit_frame (drainWeakest (updateFavor state runaway now) cycleIndex) input now
      exact ⟨h4.trans (h1.trans hfavor.1), h5.trans (h2.trans hfavor.2.1),
        h6.trans (h3.trans hfavor.2.2)⟩

/-- The answer to the Court touches no Fighter. -/
theorem answerCourtOffer_frame (now : Nat) (accept : Bool) :
    (answerCourtOfferAction state now accept).systems = state.systems
      ∧ (answerCourtOfferAction state now accept).flights = state.flights
      ∧ (answerCourtOfferAction state now accept).lent = state.lent := by
  unfold answerCourtOfferAction
  split
  · exact ⟨rfl, rfl, rfl⟩
  · exact ⟨rfl, rfl, rfl⟩

/-! ## §3. Runs. -/

/-- **Every operation keeps the books**, if no Planet is lost and the berth of
a Fighter being built is spared. -/
theorem step_berthed (bodies : String → List GalaxyBodyKind) (fleet : Fleet) (op : DukeOp)
    (h : Berthed fleet) (hop : KeepsPlanets fleet op ∧ SparesBerth fleet op) :
    Berthed (Fleet.step bodies fleet op) := by
  obtain ⟨hkept, hspares⟩ := hop
  cases op with
  | tick world => exact tick_berthed h world hkept.1 hkept.2
  | build now planets seasonId spec stability =>
      exact build_berthed h bodies planets seasonId spec stability
  | cancelBuild seasonId => exact cancelBuild_berthed h seasonId
  | order now raid fromSeasonId targetSeasonId owned held =>
      exact order_berthed h now raid fromSeasonId targetSeasonId owned held
  | answerCourtOffer now accept => exact h.frame (answerCourtOffer_frame fleet.state now accept)
  | answerWrit now accept court => exact answerWrit_berthed h now accept court hspares
  | lendFleet now fromSeasonId => exact lendFleet_berthed h now fromSeasonId
  | courtPass now runaway cycleIndex chance =>
      exact h.frame (courtPassFor_frame fleet.state now runaway cycleIndex chance)
  | raided seasonId fighterHull => exact raided_berthed h seasonId fighterHull

/-- A Duke is born with one Fighter in each system. -/
theorem born_berthed (authUid : String) {planets : List HeldPlanet}
    (hplanets : (planets.map HeldPlanet.seasonId).Nodup) (now : Nat) :
    Berthed (Fleet.born authUid planets now) := by
  have hempty : ∀ system ∈ (createDukeState authUid planets now).systems,
      system.fighters = [] ∧ system.slot = none := by
    unfold createDukeState
    cases planets with
    | nil => exact fun system hmem => (by cases hmem)
    | cons first rest =>
        intro system hmem
        rcases List.mem_cons.mp hmem with rfl | hmem
        · exact ⟨rfl, rfl⟩
        · obtain ⟨p, _, rfl⟩ := List.mem_map.mp hmem
          exact ⟨rfl, rfl⟩
  have hids : systemIds (createDukeState authUid planets now)
      = planets.map HeldPlanet.seasonId := by
    unfold systemIds createDukeState
    cases planets with
    | nil => rfl
    | cons first rest =>
        dsimp only
        rw [List.map_cons, List.map_cons, List.map_map]
        rfl
  have hheld : ∀ id, heldBy (createDukeState authUid planets now) [] [] id = 0
      ∧ reservedAt (createDukeState authUid planets now) id = 0 := by
    intro id
    cases hfind : findSystem (createDukeState authUid planets now) id with
    | none =>
        unfold heldBy stationed reservedAt
        rw [hfind]
        exact ⟨rfl, rfl⟩
    | some system =>
        obtain ⟨hfighters, hslot⟩ := hempty system (findSystem_mem hfind)
        unfold heldBy
        rw [stationed_of_find hfind, reservedAt_of_find hfind, hfighters]
        unfold SystemState.buildsFighter
        rw [hslot]
        exact ⟨rfl, rfl⟩
  refine ⟨?_, fun f hf => (by cases hf)⟩
  exact
    { distinct := by
        show (systemIds (createDukeState authUid planets now)).Nodup
        rw [hids]
        exact hplanets
      accounted := fun id => (hheld id).1
      reserved := fun id => by
        have h1 := (hheld id).1
        have h2 := (hheld id).2
        show heldBy (createDukeState authUid planets now) [] [] id
          + reservedAt (createDukeState authUid planets now) id ≤ _
        omega
      berthed := fun id hmem => (by cases hmem)
      raidsHoused := fun f hf => (by cases hf)
      lentHoused := fun l hl => (by cases hl) }

/-- What is berthed is conserved. -/
theorem conserved_of_berthed (fleet : Fleet) (h : Berthed fleet) : Conserved fleet where
  accounted := h.accounts.accounted
  bounded := fun id => by
    have hbound : fightersOf fleet.state id + reservedAt fleet.state id
      ≤ MAX_FIGHTERS_PER_SYSTEM := h.accounts.reserved id
    omega
  berthed := h.accounts.berthed

/-- **Fighters are conserved** in every state of every run that loses no
Planet and accepts no FIGHTER Writ for the berth of a Fighter being built. -/
theorem fighters_conserved (bodies : String → List GalaxyBodyKind) (authUid : String)
    (planets : List HeldPlanet) (now : Nat) (ops : List DukeOp)
    (hplanets : (planets.map HeldPlanet.seasonId).Nodup)
    (hrun : Run.StepsMeet (Fleet.step bodies) (fun fleet op =>
      KeepsPlanets fleet op ∧ SparesBerth fleet op) (Fleet.born authUid planets now) ops) :
    Run.Along (Fleet.step bodies) Conserved (Fleet.born authUid planets now) ops :=
  Run.Along.mono conserved_of_berthed ops _
    (Run.along_of_stepsMeet (step_berthed bodies) ops _ (born_berthed authUid hplanets now) hrun)

/-! ## §4. A Writ for the berth of a Fighter being built. -/

/-- One planet. -/
def homeworld : List HeldPlanet := [⟨"season-1", .INDUSTRIAL⟩]

/-- A system without bodies to develop. -/
def noBodies : String → List GalaxyBodyKind := fun _ => []

/-- The scheduler's tick on a day. -/
def tickAt (day : Nat) : DukeOp :=
  .tick ⟨day * MS_PER_DAY, homeworld, 2, fun _ => ⟨none, none⟩, fun _ => none⟩

/-- A Fighter ordered on a day. -/
def buildAt (day : Nat) : DukeOp := .build (day * MS_PER_DAY) homeworld "season-1" .FIGHTER 100

/-- Two Fighters stand, a third is being built, and the Court sends one. -/
def crowded : List DukeOp :=
  [.answerCourtOffer 0 true, buildAt 0, tickAt 7, buildAt 7, tickAt 14, buildAt 14,
    .courtPass (14 * MS_PER_DAY) true 2 (some ⟨2, 20, some ⟨"rival", "season-2"⟩⟩),
    .answerWrit (14 * MS_PER_DAY) true ⟨100, 300, false⟩, tickAt 21]

/-- No planet is lost in the run. -/
theorem crowded_keeps :
    Run.StepsMeet (Fleet.step noBodies) KeepsPlanets (Fleet.born "duke-16" homeworld 0)
      crowded := by
  refine ⟨trivial, trivial, ⟨by decide, ?_⟩, trivial, ⟨by decide, ?_⟩, trivial, trivial, trivial,
    ⟨by decide, ?_⟩, trivial⟩
  · decide +kernel
  · decide +kernel
  · decide +kernel

/-- It ends with four Fighters at home. -/
theorem crowded_ends :
    fightersOf (crowded.foldl (Fleet.step noBodies) (Fleet.born "duke-16" homeworld 0)).state
      "season-1" = 4 := by
  decide +kernel

/-- The system ends with four Fighters. -/
theorem writ_takes_reserved_berth :
    ¬ ∀ (bodies : String → List GalaxyBodyKind) (authUid : String) (planets : List HeldPlanet)
      (now : Nat) (ops : List DukeOp), (planets.map HeldPlanet.seasonId).Nodup →
      Run.StepsMeet (Fleet.step bodies) KeepsPlanets (Fleet.born authUid planets now) ops →
      Run.Along (Fleet.step bodies) Conserved (Fleet.born authUid planets now) ops := by
  intro hclaim
  have halong := hclaim noBodies "duke-16" homeworld 0 crowded (by decide) crowded_keeps
  have hlast := halong.2.2.2.2.2.2.2.2.2
  have hbound := hlast.bounded "season-1"
  have hfour := crowded_ends
  exact absurd (hfour.symm.trans_le hbound) (by decide)

/-- One Fighter is lent, another built, the Writ refused, and a raid comes. -/
theorem fighters_conserved_on_loan :
    Run.Along (Fleet.step noBodies) Conserved (Fleet.born "duke-16" homeworld 0)
      [.answerCourtOffer 0 true, buildAt 0, tickAt 7, .courtPass (7 * MS_PER_DAY) true 1 none,
        .lendFleet (7 * MS_PER_DAY) "season-1", buildAt 7, tickAt 14,
        .answerWrit (14 * MS_PER_DAY) false ⟨100, 300, false⟩, .raided "season-1" 100] := by
  refine fighters_conserved noBodies "duke-16" homeworld 0 _ (by decide)
    ⟨⟨trivial, trivial⟩, ⟨trivial, trivial⟩, ⟨⟨by decide, ?_⟩, trivial⟩, ⟨trivial, trivial⟩,
      ⟨trivial, trivial⟩, ⟨trivial, trivial⟩, ⟨⟨by decide, ?_⟩, trivial⟩, ⟨trivial, nofun⟩,
      ⟨trivial, trivial⟩, trivial⟩
  · decide +kernel
  · decide +kernel

end BorderEmpires.Duke
