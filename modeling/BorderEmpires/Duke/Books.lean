/-
  BorderEmpires.Duke.Books
  **THE BOOKS OF A DUKE.**

  The books (`Accounts`) count each system's Fighters: those stationed, on
  raids and lent, against the builds, Writs and losses the news tells of.  A
  berth is reserved for the Fighter in the build slot, so that whatever is
  away finds room.  While flights are being resolved, those taken from the
  list and not resolved yet stay on the books.
-/
import BorderEmpires.Duke.Service

namespace BorderEmpires.Duke

/-! ## §1. Finding and replacing systems. -/

def systemIds (state : DukeState) : List String := state.systems.map SystemState.seasonId

def reservedAt (state : DukeState) (seasonId : String) : Nat :=
  (findSystem state seasonId).elim 0 fun system => if system.buildsFighter then 1 else 0

variable {system : SystemState} {f : InFlightOrder} {lent : List LentFighter} {seasonId : String}
  {news : List FleetEvent} {raids : List InFlightOrder} {state : DukeState}

theorem findSystem_seasonId (h : findSystem state seasonId = some system) :
    system.seasonId = seasonId := by
  have := List.find?_some h
  simpa using this

theorem findSystem_mem (h : findSystem state seasonId = some system) : system ∈ state.systems :=
  List.mem_of_find?_eq_some h

theorem findSystem_isSome (h : seasonId ∈ systemIds state) :
    ∃ system, findSystem state seasonId = some system := by
  obtain ⟨system, hmem, hid⟩ := List.mem_map.mp h
  rw [← Option.isSome_iff_exists]
  unfold findSystem
  rw [List.find?_isSome]
  exact ⟨system, hmem, by simpa using hid⟩

theorem findSystem_of_mem (hnodup : (systemIds state).Nodup) (h : system ∈ state.systems) :
    findSystem state system.seasonId = some system := by
  obtain ⟨found, hfound⟩ := findSystem_isSome (List.mem_map_of_mem h)
  have heq := List.inj_on_of_nodup_map hnodup (findSystem_mem hfound) h (findSystem_seasonId hfound)
  rw [hfound, heq]

@[simp] theorem systemIds_replaceSystem (state : DukeState) (system : SystemState) :
    systemIds (replaceSystem state system) = systemIds state := by
  unfold systemIds replaceSystem
  rw [List.map_map]
  refine List.map_congr_left fun s _ => ?_
  show (if s.seasonId = system.seasonId then system else s).seasonId = s.seasonId
  split
  · rename_i h
    exact h.symm
  · rfl

theorem find?_replace (systems : List SystemState) (system : SystemState) (seasonId : String) :
    (systems.map fun s => if s.seasonId = system.seasonId then system else s).find?
        (fun s => s.seasonId = seasonId)
      = if seasonId = system.seasonId then
          (systems.find? fun s => s.seasonId = seasonId).map fun _ => system
        else systems.find? fun s => s.seasonId = seasonId := by
  induction systems with
  | nil => simp
  | cons s systems ih =>
      by_cases hs : s.seasonId = system.seasonId
      · by_cases hid : seasonId = system.seasonId
        · simp [hs, hid]
        · have hne : ¬ system.seasonId = seasonId := fun h => hid h.symm
          simpa [hs, hid, hne] using ih
      · by_cases hid : seasonId = system.seasonId
        · have hne : ¬ s.seasonId = seasonId := fun h => hs (h.trans hid)
          simpa [hs, hid, hne] using ih
        · by_cases hsid : s.seasonId = seasonId
          · simp [hid, hsid]
          · simpa [hs, hid, hsid] using ih

theorem findSystem_replaceSystem_self {next : SystemState} (h : findSystem state seasonId = some system)
    (hid : next.seasonId = seasonId) :
    findSystem (replaceSystem state next) seasonId = some next := by
  subst hid
  unfold findSystem replaceSystem at *
  rw [find?_replace, if_pos rfl, h]
  rfl

theorem findSystem_replaceSystem_ne {next : SystemState} (hid : next.seasonId = seasonId)
    {other : String} (h : other ≠ seasonId) :
    findSystem (replaceSystem state next) other = findSystem state other := by
  subst hid
  unfold findSystem replaceSystem
  rw [find?_replace, if_neg h]

theorem stationed_of_find (h : findSystem state seasonId = some system) :
    stationed state seasonId = system.fighters.length := by
  unfold stationed
  rw [h]
  rfl

theorem reservedAt_of_find (h : findSystem state seasonId = some system) :
    reservedAt state seasonId = if system.buildsFighter then 1 else 0 := by
  unfold reservedAt
  rw [h]
  rfl

theorem stationed_congr {state state' : DukeState}
    (h : findSystem state' seasonId = findSystem state seasonId) :
    stationed state' seasonId = stationed state seasonId := by
  unfold stationed
  rw [h]

theorem reservedAt_congr {state state' : DukeState}
    (h : findSystem state' seasonId = findSystem state seasonId) :
    reservedAt state' seasonId = reservedAt state seasonId := by
  unfold reservedAt
  rw [h]

theorem replaceSystem_tuned {state : DukeState} {system next : SystemState}
    (hfind : findSystem state system.seasonId = some system)
    (hid : next.seasonId = system.seasonId) (hfighters : next.fighters = system.fighters)
    (hbuilds : next.buildsFighter = system.buildsFighter) (id : String) :
    stationed (replaceSystem state next) id = stationed state id
      ∧ reservedAt (replaceSystem state next) id = reservedAt state id := by
  by_cases heq : id = system.seasonId
  · have hself := findSystem_replaceSystem_self hfind hid
    subst heq
    rw [stationed_of_find hself, stationed_of_find hfind, reservedAt_of_find hself,
      reservedAt_of_find hfind, hfighters, hbuilds]
    exact ⟨rfl, rfl⟩
  · have hne := @findSystem_replaceSystem_ne _ state _ hid id heq
    exact ⟨stationed_congr hne, reservedAt_congr hne⟩

/-! ## §2. Hulls. -/

theorem healthiest_lt {fighters : List DukeFighter} {idx : Nat}
    (h : healthiestFighterIndex fighters = some idx) : idx < fighters.length := by
  -- the index kept is one of those passed
  have key : ∀ (entries : List (DukeFighter × Nat)) (best : Option Nat),
      (∀ e ∈ entries, e.2 < fighters.length) → (∀ b ∈ best, b < fighters.length) →
      ∀ b ∈ entries.foldl (fun best e =>
        if 0 < e.1.hull
            ∧ (best.all fun b => decide ((fighters[b]?.elim 0 DukeFighter.hull) < e.1.hull))
        then some e.2 else best) best, b < fighters.length := by
    intro entries
    induction entries with
    | nil =>
        intro best _ hbest
        exact hbest
    | cons e entries ih =>
        intro best hentries hbest
        refine ih _ (fun e he => hentries e (List.mem_cons_of_mem _ he)) ?_
        dsimp only
        split
        · intro b hb
          rw [Option.mem_some_iff] at hb
          rw [← hb]
          exact hentries e List.mem_cons_self
        · exact hbest
  refine key fighters.zipIdx none ?_ (fun b hb => (by cases hb)) idx h
  intro e he
  have := List.mem_zipIdx he
  omega

theorem withHull_length {fighters : List DukeFighter} {idx : Nat} (h : idx < fighters.length)
    (hull : Int) :
    (withHull fighters idx hull).length + (if hull ≤ 0 then 1 else 0) = fighters.length := by
  unfold withHull
  by_cases hpos : 0 < hull
  · rw [if_pos hpos, if_neg (by omega), List.length_set]
    rfl
  · rw [if_neg hpos, if_pos (by omega), List.length_eraseIdx_of_lt h]
    omega

theorem wardens_length (fighters : List DukeFighter) :
    (resolveWardenIncursion fighters).fighters.length
        + (if (resolveWardenIncursion fighters).fighterLost then 1 else 0)
      = fighters.length := by
  unfold resolveWardenIncursion
  cases hidx : healthiestFighterIndex fighters with
  | none => rfl
  | some idx =>
      have hlength := withHull_length (healthiest_lt hidx)
        ((fighters[idx]?.elim 0 DukeFighter.hull) - exchangeDamage WARDEN_WEAPONS FIGHTER_ARMOR)
      simpa only [decide_eq_true_eq] using hlength

theorem defenders_length (attackerHull : Int) (fighters : List DukeFighter) :
    (resolveFighterRaid attackerHull fighters).defenderFighters.length
        + (if (resolveFighterRaid attackerHull fighters).defenderLost then 1 else 0)
      = fighters.length := by
  unfold resolveFighterRaid
  cases hidx : healthiestFighterIndex fighters with
  | none => rfl
  | some idx =>
      have hlength := withHull_length (healthiest_lt hidx)
        ((fighters[idx]?.elim 0 DukeFighter.hull) - exchangeDamage FIGHTER_WEAPONS FIGHTER_ARMOR)
      simpa only [decide_eq_true_eq] using hlength

/-! ## §3. The books. -/

/-- The Fighters of a system, with the raids and the loans that are on the
books. -/
def heldBy (state : DukeState) (raids : List InFlightOrder) (lent : List LentFighter)
    (seasonId : String) : Nat :=
  stationed state seasonId + ownRaids raids seasonId + lentFrom lent seasonId

/-- **The books of a Duke**, with what is still away and the news. -/
structure Accounts (state : DukeState) (raids : List InFlightOrder) (lent : List LentFighter)
    (news : List FleetEvent) : Prop where
  distinct : (systemIds state).Nodup
  accounted : ∀ seasonId,
    heldBy state raids lent seasonId + news.count (.destroyed seasonId)
      = news.count (.completed seasonId) + news.count (.joined seasonId)
  reserved : ∀ seasonId,
    heldBy state raids lent seasonId + reservedAt state seasonId ≤ MAX_FIGHTERS_PER_SYSTEM
  berthed : ∀ seasonId, .noBerth seasonId ∉ news
  raidsHoused : ∀ f ∈ raids, ∀ seasonId, f.isOwnRaid seasonId = true → seasonId ∈ systemIds state
  lentHoused : ∀ l ∈ lent, l.fromSeasonId ∈ systemIds state

theorem isOwnRaid_from (h : f.isOwnRaid seasonId = true) : f.fromSeasonId = seasonId := by
  unfold InFlightOrder.isOwnRaid at h
  split at h
  · cases h
  · simp only [Bool.and_eq_true, decide_eq_true_eq] at h
    exact h.2

section
variable {state state' : DukeState} {raids raids' : List InFlightOrder}
  {lent lent' : List LentFighter} {news events : List FleetEvent}

/-- **What happens at one system.** -/
theorem Accounts.update (h : Accounts state raids lent news) (k : String)
    (hids : systemIds state' = systemIds state)
    (hstationed : ∀ id, id ≠ k → stationed state' id = stationed state id)
    (hreserved : ∀ id, id ≠ k → reservedAt state' id = reservedAt state id)
    (hraids : ∀ id, id ≠ k → ownRaids raids' id = ownRaids raids id)
    (hlent : ∀ id, id ≠ k → lentFrom lent' id = lentFrom lent id)
    (hevents : ∀ e ∈ events, e = .completed k ∨ e = .joined k ∨ e = .destroyed k)
    (haccounted : heldBy state' raids' lent' k + events.count (.destroyed k)
      = heldBy state raids lent k + events.count (.completed k) + events.count (.joined k))
    (hbound : heldBy state' raids' lent' k + reservedAt state' k ≤ MAX_FIGHTERS_PER_SYSTEM)
    (hraidsHoused : ∀ f ∈ raids', ∀ id, f.isOwnRaid id = true → id ∈ systemIds state)
    (hlentHoused : ∀ l ∈ lent', l.fromSeasonId ∈ systemIds state) :
    Accounts state' raids' lent' (news ++ events) := by
  have hother : ∀ id, id ≠ k → heldBy state' raids' lent' id = heldBy state raids lent id := by
    intro id hid
    unfold heldBy
    rw [hstationed id hid, hraids id hid, hlent id hid]
  -- the events say nothing of another system
  have hsilent : ∀ id, id ≠ k → events.count (.destroyed id) = 0
      ∧ events.count (.completed id) = 0 ∧ events.count (.joined id) = 0 := by
    intro id hid
    refine ⟨?_, ?_, ?_⟩
    all_goals
      rw [List.count_eq_zero]
      intro hmem
      rcases hevents _ hmem with heq | heq | heq
    all_goals simp_all
  refine
    { distinct := by rw [hids]; exact h.distinct
      accounted := ?_
      reserved := ?_
      berthed := ?_
      raidsHoused := by rw [hids]; exact hraidsHoused
      lentHoused := by rw [hids]; exact hlentHoused }
  · intro id
    rw [List.count_append, List.count_append, List.count_append]
    by_cases hid : id = k
    · subst hid
      have := h.accounted id
      omega
    · obtain ⟨h1, h2, h3⟩ := hsilent id hid
      have := h.accounted id
      rw [hother id hid]
      omega
  · intro id
    by_cases hid : id = k
    · rw [hid]
      exact hbound
    · rw [hother id hid, hreserved id hid]
      exact h.reserved id
  · intro id hmem
    rcases List.mem_append.mp hmem with hmem | hmem
    · exact h.berthed id hmem
    · rcases hevents _ hmem with heq | heq | heq
      · cases heq
      · cases heq
      · cases heq

/-- The books see the systems alone, and what is away by its number for each
system. -/
theorem Accounts.congr (h : Accounts state raids lent news)
    (hids : systemIds state' = systemIds state)
    (hstationed : ∀ id, stationed state' id = stationed state id)
    (hreserved : ∀ id, reservedAt state' id = reservedAt state id)
    (hraids : ∀ id, ownRaids raids' id = ownRaids raids id) (hraidsMem : ∀ f ∈ raids', f ∈ raids)
    (hlent : ∀ id, lentFrom lent' id = lentFrom lent id) (hlentMem : ∀ l ∈ lent', l ∈ lent) :
    Accounts state' raids' lent' news := by
  have hheld : ∀ id, heldBy state' raids' lent' id = heldBy state raids lent id := by
    intro id
    unfold heldBy
    rw [hstationed, hraids, hlent]
  exact
    { distinct := by rw [hids]; exact h.distinct
      accounted := fun id => by rw [hheld]; exact h.accounted id
      reserved := fun id => by rw [hheld, hreserved]; exact h.reserved id
      berthed := h.berthed
      raidsHoused := by rw [hids]; exact fun f hf => h.raidsHoused f (hraidsMem f hf)
      lentHoused := by rw [hids]; exact fun l hl => h.lentHoused l (hlentMem l hl) }

theorem Accounts.of_systems (h : Accounts state raids lent news)
    (hsystems : state'.systems = state.systems) : Accounts state' raids lent news := by
  have hfind : ∀ id, findSystem state' id = findSystem state id := by
    intro id
    unfold findSystem
    rw [hsystems]
  exact h.congr (by unfold systemIds; rw [hsystems]) (fun id => stationed_congr (hfind id))
    (fun id => reservedAt_congr (hfind id)) (fun _ => rfl) (fun _ hf => hf) (fun _ => rfl)
    (fun _ hl => hl)

/-- **A system rewritten**: what is on the books is its Fighters, its slot and
the news. -/
theorem Accounts.replace (h : Accounts state raids lent news) {system next : SystemState}
    (hfind : findSystem state system.seasonId = some system)
    (hid : next.seasonId = system.seasonId)
    (hevents : ∀ e ∈ events, e = .completed system.seasonId ∨ e = .joined system.seasonId
      ∨ e = .destroyed system.seasonId)
    (haccounted : next.fighters.length + events.count (.destroyed system.seasonId)
      = system.fighters.length + events.count (.completed system.seasonId)
        + events.count (.joined system.seasonId))
    (hbound : next.fighters.length + (if next.buildsFighter then 1 else 0)
      ≤ system.fighters.length + (if system.buildsFighter then 1 else 0)
        ∨ heldBy state raids lent system.seasonId + next.fighters.length
            + (if next.buildsFighter then 1 else 0)
          ≤ MAX_FIGHTERS_PER_SYSTEM + system.fighters.length) :
    Accounts (replaceSystem state next) raids lent (news ++ events) := by
  have hself := findSystem_replaceSystem_self hfind hid
  have hne := fun id => @findSystem_replaceSystem_ne _ state _ hid id
  have hst := stationed_of_find hfind
  have hst' := stationed_of_find hself
  have hres := reservedAt_of_find hfind
  have hres' := reservedAt_of_find hself
  have hbefore := h.reserved system.seasonId
  unfold heldBy at hbefore hbound
  rw [hst, hres] at hbefore
  rw [hst] at hbound
  refine h.update system.seasonId (systemIds_replaceSystem state next)
    (fun id hid => stationed_congr (hne id hid)) (fun id hid => reservedAt_congr (hne id hid))
    (fun _ _ => rfl) (fun _ _ => rfl) hevents ?_ ?_ h.raidsHoused h.lentHoused
  · unfold heldBy
    rw [hst, hst']
    omega
  · unfold heldBy
    rw [hst', hres']
    rcases hbound with hbound | hbound
    · omega
    · omega

end

/-! ## §4. Production. -/

/-- **Loops over the systems**: a body that keeps the books and touches its
own system alone keeps them over all systems. -/
theorem foldl_systems (f : DukeStep → SystemState → DukeStep)
    (hf : ∀ step system, Accounts step.state raids lent (news ++ step.news) →
      findSystem step.state system.seasonId = some system →
      Accounts (f step system).state raids lent (news ++ (f step system).news)
        ∧ (f step system).state.flights = step.state.flights
        ∧ (f step system).state.lent = step.state.lent
        ∧ ∀ id, id ≠ system.seasonId →
            findSystem (f step system).state id = findSystem step.state id) :
    ∀ (systems : List SystemState) (step : DukeStep),
      (systems.map SystemState.seasonId).Nodup →
      (∀ system ∈ systems, findSystem step.state system.seasonId = some system) →
      Accounts step.state raids lent (news ++ step.news) →
      Accounts (systems.foldl f step).state raids lent (news ++ (systems.foldl f step).news)
        ∧ (systems.foldl f step).state.flights = step.state.flights
        ∧ (systems.foldl f step).state.lent = step.state.lent := by
  intro systems
  induction systems with
  | nil =>
      intro step _ _ h
      exact ⟨h, rfl, rfl⟩
  | cons system systems ih =>
      intro step hnodup hfind h
      rw [List.map_cons, List.nodup_cons] at hnodup
      obtain ⟨haccounts, hflights, hlent, hother⟩ :=
        hf step system h (hfind system List.mem_cons_self)
      have hrest := ih (f step system) hnodup.2 ?_ haccounts
      · rw [List.foldl_cons]
        exact ⟨hrest.1, hrest.2.1.trans hflights, hrest.2.2.trans hlent⟩
      · -- the systems to come are as they were
        intro other hmem
        rw [hother]
        · exact hfind other (List.mem_cons_of_mem _ hmem)
        · intro heq
          exact hnodup.1 (heq ▸ List.mem_map_of_mem hmem)

/-- What production does to a system: nothing to its Fighters, and the slot
is emptied when the build is complete. -/
theorem advanceSystem_spec (system : SystemState) (elapsed : Nat) :
    (advanceSystem system elapsed).1.seasonId = system.seasonId
      ∧ (advanceSystem system elapsed).1.fighters = system.fighters
      ∧ ((advanceSystem system elapsed).2 = none →
          (advanceSystem system elapsed).1.buildsFighter = system.buildsFighter)
      ∧ ∀ build, (advanceSystem system elapsed).2 = some build →
          (advanceSystem system elapsed).1.buildsFighter = false
            ∧ ∃ slot, system.slot = some slot ∧ build.kind = slot.kind := by
  unfold advanceSystem
  by_cases hidle : systemDailyRate system ≤ 0 ∨ elapsed = 0
  · rw [if_pos hidle]
    exact ⟨rfl, rfl, fun _ => rfl, fun build hbuild => (by cases hbuild)⟩
  · rw [if_neg hidle]
    cases hslot : system.slot with
    | none =>
        refine ⟨rfl, rfl, fun _ => ?_, fun build hbuild => (by cases hbuild)⟩
        unfold SystemState.buildsFighter
        rw [hslot]
    | some slot =>
        dsimp only
        split
        · refine ⟨rfl, rfl, fun hnone => (by cases hnone), ?_⟩
          intro build hbuild
          rw [Option.some.injEq] at hbuild
          exact ⟨rfl, slot, rfl, by rw [← hbuild]⟩
        · refine ⟨rfl, rfl, fun _ => ?_, fun build hbuild => (by cases hbuild)⟩
          unfold SystemState.buildsFighter
          rw [hslot]
          rfl

theorem completedSystem_spec (system : SystemState) (build : DukeBuild) :
    (completedSystem system build).seasonId = system.seasonId
      ∧ (completedSystem system build).buildsFighter = system.buildsFighter
      ∧ (completedSystem system build).fighters.length
        = system.fighters.length + (if build.kind.isFighter then 1 else 0) := by
  unfold completedSystem
  cases build.kind with
  | FIGHTER => exact ⟨rfl, rfl, by simp [DukeBuildKind.isFighter]⟩
  | PROBE => exact ⟨rfl, rfl, rfl⟩
  | REFIT =>
      dsimp only
      cases weakestFighter system.fighters with
      | none => exact ⟨rfl, rfl, rfl⟩
      | some weakest => exact ⟨rfl, rfl, by simp [DukeBuildKind.isFighter]⟩
  | FORTIFY points => exact ⟨rfl, rfl, rfl⟩
  | DEVELOP bodyIndex development => exact ⟨rfl, rfl, rfl⟩

theorem produce_accounts (elapsed : Nat) (step : DukeStep) (system : SystemState)
    (h : Accounts step.state raids lent (news ++ step.news))
    (hfind : findSystem step.state system.seasonId = some system) :
    Accounts (produce elapsed step system).state raids lent
        (news ++ (produce elapsed step system).news)
      ∧ (produce elapsed step system).state.flights = step.state.flights
      ∧ (produce elapsed step system).state.lent = step.state.lent
      ∧ ∀ id, id ≠ system.seasonId →
          findSystem (produce elapsed step system).state id = findSystem step.state id := by
  obtain ⟨hid, hfighters, hkept, hdone⟩ := advanceSystem_spec system elapsed
  unfold produce
  generalize advanceSystem system elapsed = advanced at hid hfighters hkept hdone ⊢
  obtain ⟨next, completed⟩ := advanced
  dsimp only at hid hfighters hkept hdone ⊢
  have hself := findSystem_replaceSystem_self hfind hid
  have hne := fun id => @findSystem_replaceSystem_ne _ step.state _ hid id
  cases completed with
  | none =>
      refine ⟨?_, rfl, rfl, hne⟩
      have := @Accounts.replace _ _ _ _ [] h _ _ hfind hid (fun e he => (by cases he))
        (by simp [hfighters])
        (Or.inl (by rw [hfighters, hkept rfl]))
      simpa using this
  | some build =>
      obtain ⟨hfree, slot, hslot, hkind⟩ := hdone build rfl
      dsimp only
      unfold applyCompletedBuild
      rw [hself]
      dsimp only
      obtain ⟨hcid, hcslot, hclength⟩ := completedSystem_spec next build
      -- both rewrites are about one system
      have htwice : replaceSystem (replaceSystem step.state next) (completedSystem next build)
          = replaceSystem step.state (completedSystem next build) := by
        unfold replaceSystem
        rw [hcid]
        simp only [List.map_map]
        refine congrArg (fun systems => { step.state with systems := systems }) ?_
        refine List.map_congr_left fun s _ => ?_
        show (if (if s.seasonId = next.seasonId then next else s).seasonId = next.seasonId
            then completedSystem next build
            else (if s.seasonId = next.seasonId then next else s))
          = if s.seasonId = next.seasonId then completedSystem next build else s
        by_cases hs : s.seasonId = next.seasonId
        · rw [if_pos hs, if_pos rfl, if_pos hs]
        · rw [if_neg hs, if_neg hs]
      rw [htwice]
      refine ⟨?_, rfl, rfl, ?_⟩
      · have hbuilds : system.buildsFighter = build.kind.isFighter := by
          unfold SystemState.buildsFighter
          rw [hslot, hkind, Option.any_some]
        rw [← List.append_assoc]
        refine h.replace hfind (hcid.trans hid) ?_ ?_ (Or.inl ?_)
        · intro e he
          left
          split at he
          · exact List.mem_singleton.mp he
          · cases he
        · rw [hclength, hfighters]
          split
          · simp
          · simp
        · rw [hclength, hcslot, hfree, hbuilds, hfighters]
          simp
      · exact fun id => findSystem_replaceSystem_ne (hcid.trans hid)

/-- **Production keeps the books.** -/
theorem produced_accounts (h : Accounts state raids lent news) (elapsed : Nat) :
    Accounts (state.systems.foldl (produce elapsed) ⟨state, []⟩).state raids lent
        (news ++ (state.systems.foldl (produce elapsed) ⟨state, []⟩).news)
      ∧ (state.systems.foldl (produce elapsed) ⟨state, []⟩).state.flights = state.flights
      ∧ (state.systems.foldl (produce elapsed) ⟨state, []⟩).state.lent = state.lent := by
  refine foldl_systems (produce elapsed) (produce_accounts elapsed) state.systems ⟨state, []⟩
    h.distinct ?_ (by simpa using h)
  intro system hmem
  exact findSystem_of_mem h.distinct hmem

/-! ## §5. Flights. -/

def OrderKind.travelMs : OrderKind → Nat
  | .PROBE => PROBE_TRAVEL_MS
  | .RAID _ _ => FIGHTER_TRAVEL_MS

/-- A flight takes as long as its kind takes. -/
def InFlightOrder.Timed (f : InFlightOrder) : Prop := f.arrivesAt = f.launchedAt + f.kind.travelMs

/-- **Equal flights arrive together.** -/
theorem sameFlight_arrivesAt {f g : InFlightOrder} (hf : f.Timed) (hg : g.Timed)
    (h : sameFlight f g = true) : f.arrivesAt = g.arrivesAt := by
  unfold sameFlight at h
  simp only [decide_eq_true_eq] at h
  obtain ⟨hkind, _, _, hlaunched⟩ := h
  have htravel : f.kind.travelMs = g.kind.travelMs := by
    cases hfk : f.kind with
    | PROBE =>
        cases hgk : g.kind with
        | PROBE => rfl
        | RAID _ _ =>
            rw [hfk, hgk] at hkind
            cases hkind
    | RAID _ _ =>
        cases hgk : g.kind with
        | PROBE =>
            rw [hfk, hgk] at hkind
            cases hkind
        | RAID _ _ => rfl
  unfold InFlightOrder.Timed at hf hg
  omega

theorem sameFlight_self (f : InFlightOrder) : sameFlight f f = true := by
  unfold sameFlight
  simp

theorem ownRaids_append (a b : List InFlightOrder) (id : String) :
    ownRaids (a ++ b) id = ownRaids a id + ownRaids b id := List.countP_append

theorem ownRaids_cons (f : InFlightOrder) (rest : List InFlightOrder) (id : String) :
    ownRaids (f :: rest) id = ownRaids rest id + (if f.isOwnRaid id then 1 else 0) :=
  List.countP_cons

/-- What becomes of one flight: nothing away from its home, and there its own
Fighter comes back or is destroyed. -/
structure Resolved (state : DukeState) (f : InFlightOrder) (r : DukeStep) : Prop where
  flights : r.state.flights = (dropFlight state f).flights
  lent : r.state.lent = state.lent
  ids : systemIds r.state = systemIds state
  stationedOther : ∀ id, id ≠ f.fromSeasonId → stationed r.state id = stationed state id
  reserved : ∀ id, reservedAt r.state id = reservedAt state id
  events : ∀ e ∈ r.news, e = .destroyed f.fromSeasonId
  fate : stationed r.state f.fromSeasonId + r.news.count (.destroyed f.fromSeasonId)
    = stationed state f.fromSeasonId + (if f.isOwnRaid f.fromSeasonId then 1 else 0)

theorem dropFlight_resolved (state : DukeState) (h : f.isOwnRaid f.fromSeasonId = false) :
    Resolved state f ⟨dropFlight state f, []⟩ where
  flights := rfl
  lent := rfl
  ids := rfl
  stationedOther := fun _ _ => rfl
  reserved := fun _ => rfl
  events := fun e he => (by cases he)
  fate := by
    rw [h]
    rfl

theorem destroyed_resolved (state : DukeState) (h : f.isOwnRaid f.fromSeasonId = true) :
    Resolved state f ⟨dropFlight state f, [.destroyed f.fromSeasonId]⟩ where
  flights := rfl
  lent := rfl
  ids := rfl
  stationedOther := fun _ _ => rfl
  reserved := fun _ => rfl
  events := fun e he => List.mem_singleton.mp he
  fate := by
    rw [h]
    simp only [List.count_singleton_self, if_true]
    rfl

theorem returned_resolved {home : SystemState} (hull : Int) (h : f.isOwnRaid f.fromSeasonId = true)
    (hhome : findSystem state f.fromSeasonId = some home) :
    Resolved state f
      ⟨replaceSystem (dropFlight state f) { home with fighters := home.fighters ++ [⟨hull⟩] },
        []⟩ := by
  set next : SystemState := { home with fighters := home.fighters ++ [⟨hull⟩] }
  have hid : next.seasonId = f.fromSeasonId := @findSystem_seasonId home _ _ hhome
  have hself := @findSystem_replaceSystem_self _ _ (dropFlight state f) _ hhome hid
  have hne := fun id => @findSystem_replaceSystem_ne _ (dropFlight state f) _ hid id
  refine
    { flights := rfl
      lent := rfl
      ids := systemIds_replaceSystem _ _
      stationedOther := fun id hid => stationed_congr (hne id hid)
      reserved := ?_
      events := fun e he => (by cases he)
      fate := ?_ }
  · intro id
    by_cases heq : id = f.fromSeasonId
    · rw [heq, reservedAt_of_find hself, reservedAt_of_find hhome]
      rfl
    · exact reservedAt_congr (hne id heq)
  · rw [stationed_of_find hself, stationed_of_find hhome, h]
    exact List.length_append

theorem arriveProbe_resolved (state : DukeState) (hprobe : f.kind = .PROBE) (target : TargetView)
    (now : Nat) : Resolved state f ⟨arriveProbe state f target now, []⟩ := by
  have hnotOwn : f.isOwnRaid f.fromSeasonId = false := by
    unfold InFlightOrder.isOwnRaid
    rw [hprobe]
  have hdropped := dropFlight_resolved state hnotOwn
  unfold arriveProbe
  dsimp only
  generalize hnext : retireProbes _ _ = next
  have hsystems : next.systems = state.systems := by
    rw [← hnext]
    rfl
  have hlent : next.lent = state.lent := by
    rw [← hnext]
    rfl
  have hflights : next.flights = (dropFlight state f).flights := by
    rw [← hnext]
    rfl
  have hfind : ∀ id, findSystem next id = findSystem state id := by
    intro id
    unfold findSystem
    rw [hsystems]
  have hids : systemIds next = systemIds state := by
    unfold systemIds
    rw [hsystems]
  have hplain : Resolved state f ⟨next, []⟩ :=
    { flights := hflights
      lent := hlent
      ids := hids
      stationedOther := fun id _ => stationed_congr (hfind id)
      reserved := fun id => reservedAt_congr (hfind id)
      events := fun e he => (by cases he)
      fate := by
        rw [stationed_congr (hfind _), hnotOwn]
        rfl }
  split
  · cases hhome : (findSystem next f.fromSeasonId).or next.systems.head? with
    | none => exact hplain
    | some home =>
        -- the derelict's Production goes to the idle bank alone
        have hfound : findSystem next home.seasonId = some home := by
          cases hfrom : findSystem next f.fromSeasonId with
          | some found =>
              rw [hfrom, Option.some_or, Option.some.injEq] at hhome
              rw [← hhome, findSystem_seasonId hfrom]
              exact hfrom
          | none =>
              rw [hfrom, Option.none_or] at hhome
              unfold findSystem
              cases hlist : next.systems with
              | nil =>
                  rw [hlist] at hhome
                  cases hhome
              | cons first rest =>
                  rw [hlist, List.head?_cons, Option.some.injEq] at hhome
                  rw [hhome, List.find?_cons_of_pos (by simp)]
        have htuned := fun id => @replaceSystem_tuned _ _
          { home with idleBank := home.idleBank + DERELICT_PRODUCTION } hfound rfl rfl rfl id
        exact
          { flights := hflights
            lent := hlent
            ids := (systemIds_replaceSystem _ _).trans hids
            stationedOther := fun id hid =>
              (htuned id).1.trans (hplain.stationedOther id hid)
            reserved := fun id => (htuned id).2.trans (hplain.reserved id)
            events := fun e he => (by cases he)
            fate := by
              show stationed _ _ + _ = _
              rw [(htuned _).1]
              exact hplain.fate }
  · exact hplain

/-- **Each flight has its fate.** -/
theorem resolveFlight_resolved (world : TickWorld)
    (hhoused : ∀ id, f.isOwnRaid id = true → id ∈ systemIds state) (target : Arrival) :
    Resolved state f (resolveFlight world state f target) := by
  unfold resolveFlight
  cases hkind : f.kind with
  | PROBE =>
      have hnotOwn : f.isOwnRaid f.fromSeasonId = false := by
        unfold InFlightOrder.isOwnRaid
        rw [hkind]
      dsimp only
      split
      · exact dropFlight_resolved state hnotOwn
      · exact arriveProbe_resolved state hkind _ world.now
  | RAID fighterHull courtWrit =>
      have hown : f.isOwnRaid f.fromSeasonId = !courtWrit := by
        unfold InFlightOrder.isOwnRaid
        rw [hkind]
        simp
      cases courtWrit with
      | true =>
          -- the Court's own Fighter goes back to the Court
          cases target.defenderFighters with
          | none =>
              unfold returnFromNothing
              rw [hkind]
              exact dropFlight_resolved state hown
          | some fighters =>
              dsimp only
              unfold resolveRaidArrival
              rw [hkind]
              dsimp only
              split
              · rw [if_pos (by simp)]
                exact dropFlight_resolved state hown
              · exact dropFlight_resolved state hown
      | false =>
          obtain ⟨home, hhome⟩ := findSystem_isSome (hhoused f.fromSeasonId hown)
          cases target.defenderFighters with
          | none =>
              unfold returnFromNothing
              rw [hkind]
              dsimp only
              rw [if_neg (by decide), hhome]
              exact returned_resolved fighterHull hown hhome
          | some fighters =>
              dsimp only
              unfold resolveRaidArrival
              rw [hkind]
              have hdropped : findSystem (dropFlight state f) f.fromSeasonId = some home := hhome
              dsimp only
              rw [hdropped]
              dsimp only
              split
              · exact destroyed_resolved state hown
              · exact returned_resolved _ hown hhome

/-- The flights that have not arrived. -/
def underway (state : DukeState) (now : Nat) : List InFlightOrder :=
  state.flights.filter fun f => !decide (f.arrivesAt ≤ now)

/-- **Equal flights each resolve once**: those taken from the list stay on
the books until their turn, and no flight still under way is dropped with
them. -/
theorem resolveFlights_accounts (world : TickWorld) (now : Nat) :
    ∀ (pending : List InFlightOrder) (i : Nat) (state : DukeState) (news : List FleetEvent),
      Accounts state (underway state now ++ pending)
        state.lent news →
      (∀ f ∈ state.flights, f.Timed) → (∀ f ∈ pending, f.Timed ∧ f.arrivesAt ≤ now) →
      (∀ f ∈ state.flights, f.arrivesAt ≤ now → f ∈ pending) →
      Accounts (resolveFlights world i pending state).state
          (resolveFlights world i pending state).state.flights
          (resolveFlights world i pending state).state.lent
          (news ++ (resolveFlights world i pending state).news)
        ∧ ∀ f ∈ (resolveFlights world i pending state).state.flights, f.Timed := by
  intro pending
  induction pending with
  | nil =>
      intro i state news h htimed _ harrived
      refine ⟨?_, htimed⟩
      show Accounts state state.flights state.lent (news ++ [])
      rw [List.append_nil]
      have hnone : underway state now = state.flights := by
        unfold underway
        rw [List.filter_eq_self]
        intro f hf
        by_contra hcon
        simp only [Bool.not_eq_true', decide_eq_false_iff_not, not_not] at hcon
        exact absurd (harrived f hf hcon) List.not_mem_nil
      rwa [hnone, List.append_nil] at h
  | cons f rest ih =>
      intro i state news h htimed hpending harrived
      obtain ⟨hfTimed, hfArrived⟩ := hpending f List.mem_cons_self
      have hmem : f ∈ underway state now ++ f :: rest := List.mem_append_right _ List.mem_cons_self
      have hr := resolveFlight_resolved world (h.raidsHoused f hmem) (world.arrivals i)
      generalize hstep : resolveFlight world state f (world.arrivals i) = r at hr
      -- the flights dropped with `f` have all arrived
      have hsame : ∀ g ∈ state.flights, sameFlight g f = true → g.arrivesAt ≤ now := by
        intro g hg hsame
        rw [sameFlight_arrivesAt (htimed g hg) hfTimed hsame]
        exact hfArrived
      have hflights : ∀ g, g ∈ r.state.flights ↔ g ∈ state.flights ∧ sameFlight g f = false := by
        intro g
        rw [hr.flights]
        show g ∈ state.flights.filter _ ↔ _
        simp
      have hunder : underway r.state now = underway state now := by
        unfold underway
        rw [hr.flights]
        show (state.flights.filter fun g => !sameFlight g f).filter _ = _
        rw [List.filter_filter]
        refine List.filter_congr fun g hg => ?_
        cases hgf : sameFlight g f with
        | false => simp
        | true => simp [hsame g hg hgf]
      have hcount : ∀ id, ownRaids
          (underway state now ++ f :: rest) id
          = ownRaids (underway state now ++ rest) id + (if f.isOwnRaid id then 1 else 0) := by
        intro id
        rw [ownRaids_append, ownRaids_append, ownRaids_cons]
        omega
      have hnext : Accounts r.state
          (underway r.state now ++ rest)
          r.state.lent (news ++ r.news) := by
        rw [hunder]
        have hquiet : r.news.count (.completed f.fromSeasonId) = 0
            ∧ r.news.count (.joined f.fromSeasonId) = 0 := by
          refine ⟨?_, ?_⟩
          · rw [List.count_eq_zero]
            intro he
            exact (nomatch hr.events _ he)
          · rw [List.count_eq_zero]
            intro he
            exact (nomatch hr.events _ he)
        have hheld : heldBy r.state
            (underway state now ++ rest) r.state.lent
              f.fromSeasonId
              + r.news.count (.destroyed f.fromSeasonId)
            = heldBy state
                (underway state now ++ f :: rest)
                state.lent f.fromSeasonId := by
          have hfate := hr.fate
          have hc := hcount f.fromSeasonId
          unfold heldBy
          rw [hr.lent]
          omega
        refine h.update f.fromSeasonId hr.ids hr.stationedOther (fun id _ => hr.reserved id) ?_ ?_
          (fun e he => Or.inr (Or.inr (hr.events e he))) ?_ ?_ ?_ ?_
        · intro id hid
          rw [hcount id, if_neg]
          · rfl
          · intro hown
            exact hid (isOwnRaid_from hown).symm
        · intro id _
          rw [hr.lent]
        · rw [hquiet.1, hquiet.2]
          omega
        · have := h.reserved f.fromSeasonId
          rw [hr.reserved]
          omega
        · intro g hg
          refine h.raidsHoused g ?_
          rcases List.mem_append.mp hg with hg | hg
          · exact List.mem_append_left _ hg
          · exact List.mem_append_right _ (List.mem_cons_of_mem _ hg)
        · rw [hr.lent]
          exact h.lentHoused
      have hrest := ih (i + 1) r.state (news ++ r.news) hnext
        (fun g hg => htimed g ((hflights g).mp hg).1)
        (fun g hg => hpending g (List.mem_cons_of_mem _ hg)) ?_
      · unfold resolveFlights DukeStep.andThen
        rw [hstep]
        rw [List.append_assoc] at hrest
        exact hrest
      · intro g hg hgArrived
        obtain ⟨hgmem, hgne⟩ := (hflights g).mp hg
        rcases List.mem_cons.mp (harrived g hgmem hgArrived) with heq | hmem
        · rw [heq, sameFlight_self] at hgne
          cases hgne
        · exact hmem

/-! ## §6. Fighters lent to the Court. -/

theorem lentFrom_append (a b : List LentFighter) (id : String) :
    lentFrom (a ++ b) id = lentFrom a id + lentFrom b id := List.countP_append

theorem lentFrom_cons (l : LentFighter) (rest : List LentFighter) (id : String) :
    lentFrom (l :: rest) id = lentFrom rest id + (if l.fromSeasonId = id then 1 else 0) := by
  unfold lentFrom
  rw [List.countP_cons]
  simp

/-- **A lent Fighter finds its berth**: what is away is on the books. -/
theorem returnLent_accounts {later due : List LentFighter} {l : LentFighter}
    (h : Accounts state raids (later ++ l :: due) news) :
    Accounts (returnLent state l).state raids (later ++ due) (news ++ (returnLent state l).news)
      ∧ (returnLent state l).state.flights = state.flights
      ∧ (returnLent state l).state.lent = state.lent := by
  obtain ⟨home, hhome⟩ := findSystem_isSome (h.lentHoused l (by simp))
  have hid := findSystem_seasonId hhome
  have hcount : ∀ id, lentFrom (later ++ l :: due) id
      = lentFrom (later ++ due) id + (if l.fromSeasonId = id then 1 else 0) := by
    intro id
    rw [lentFrom_append, lentFrom_append, lentFrom_cons]
    omega
  have hheld : heldBy state raids (later ++ l :: due) l.fromSeasonId
      = home.fighters.length + ownRaids raids l.fromSeasonId
        + (lentFrom (later ++ due) l.fromSeasonId + 1) := by
    unfold heldBy
    rw [stationed_of_find hhome, hcount, if_pos rfl]
  have hbound := h.reserved l.fromSeasonId
  have hroom : home.fighters.length < MAX_FIGHTERS_PER_SYSTEM := by omega
  have hreturn : returnLent state l
      = ⟨replaceSystem state { home with fighters := home.fighters ++ [⟨l.hull⟩] }, []⟩ := by
    unfold returnLent
    rw [hhome]
    dsimp only
    rw [if_pos hroom]
  rw [hreturn]
  refine ⟨?_, rfl, rfl⟩
  set next : SystemState := { home with fighters := home.fighters ++ [⟨l.hull⟩] }
  have hself := @findSystem_replaceSystem_self _ _ _ next hhome hid
  have hne := fun id => @findSystem_replaceSystem_ne _ state next hid id
  have hheld' : heldBy (replaceSystem state next) raids (later ++ due) l.fromSeasonId
      = home.fighters.length + 1 + ownRaids raids l.fromSeasonId
        + lentFrom (later ++ due) l.fromSeasonId := by
    unfold heldBy
    rw [stationed_of_find hself, List.length_append]
    rfl
  refine h.update l.fromSeasonId (systemIds_replaceSystem _ _)
    (fun id hid => stationed_congr (hne id hid)) (fun id hid => reservedAt_congr (hne id hid))
    (fun _ _ => rfl) ?_ (fun e he => (by cases he)) ?_ ?_ h.raidsHoused ?_
  · intro id hid
    rw [hcount, if_neg (fun heq => hid heq.symm)]
    rfl
  · rw [hheld, hheld']
    simp only [List.count_nil]
    omega
  · rw [reservedAt_of_find hhome] at hbound
    rw [reservedAt_of_find hself, hheld']
    rw [hheld] at hbound
    show _ + (if home.buildsFighter then 1 else 0) ≤ _
    omega
  · intro other hother
    refine h.lentHoused other ?_
    rcases List.mem_append.mp hother with hother | hother
    · exact List.mem_append_left _ hother
    · exact List.mem_append_right _ (List.mem_cons_of_mem _ hother)

theorem foldl_returnLent_accounts {later : List LentFighter} :
    ∀ (due : List LentFighter) (step : DukeStep),
      Accounts step.state raids (later ++ due) (news ++ step.news) →
      Accounts (due.foldl (fun step l => step.andThen fun s => returnLent s l) step).state raids
          later (news ++ (due.foldl (fun step l => step.andThen fun s => returnLent s l) step).news)
        ∧ (due.foldl (fun step l => step.andThen fun s => returnLent s l) step).state.flights
          = step.state.flights
        ∧ (due.foldl (fun step l => step.andThen fun s => returnLent s l) step).state.lent
          = step.state.lent := by
  intro due
  induction due with
  | nil =>
      intro step h
      rw [List.append_nil] at h
      exact ⟨h, rfl, rfl⟩
  | cons l due ih =>
      intro step h
      obtain ⟨hl, hflights, hlent⟩ := returnLent_accounts h
      rw [List.append_assoc] at hl
      obtain ⟨hrest, hrestFlights, hrestLent⟩ := ih (step.andThen fun s => returnLent s l) hl
      exact ⟨hrest, hrestFlights.trans hflights, hrestLent.trans hlent⟩

/-- **Lent Fighters come home.** -/
theorem returnLentFighters_accounts (h : Accounts state raids state.lent news) (now : Nat) :
    Accounts (returnLentFighters state now).state raids (returnLentFighters state now).state.lent
        (news ++ (returnLentFighters state now).news)
      ∧ (returnLentFighters state now).state.flights = state.flights := by
  -- the list is split into those not due and those due
  have hcount : ∀ id, lentFrom
      ((state.lent.filter fun l => decide (now < l.returnsAt))
        ++ state.lent.filter fun l => decide (l.returnsAt ≤ now)) id = lentFrom state.lent id := by
    intro id
    rw [lentFrom_append]
    induction state.lent with
    | nil => rfl
    | cons l lent ih =>
        rw [lentFrom_cons l lent]
        by_cases hdue : l.returnsAt ≤ now
        · have hnot : ¬ now < l.returnsAt := by omega
          rw [List.filter_cons_of_neg (by simpa using hdue),
            List.filter_cons_of_pos (by simpa using hdue), lentFrom_cons]
          omega
        · have hlater : now < l.returnsAt := by omega
          rw [List.filter_cons_of_pos (by simpa using hlater),
            List.filter_cons_of_neg (by simpa using hlater), lentFrom_cons]
          omega
  have hsplit : Accounts
      { state with lent := state.lent.filter fun l => decide (now < l.returnsAt) } raids
      ((state.lent.filter fun l => decide (now < l.returnsAt))
        ++ state.lent.filter fun l => decide (l.returnsAt ≤ now)) (news ++ []) := by
    rw [List.append_nil]
    refine h.congr rfl (fun _ => rfl) (fun _ => rfl) (fun _ => rfl) (fun _ hf => hf) hcount ?_
    intro l hl
    rcases List.mem_append.mp hl with hl | hl
    · exact (List.mem_filter.mp hl).1
    · exact (List.mem_filter.mp hl).1
  obtain ⟨haccounts, hflights, hlent⟩ := foldl_returnLent_accounts
    (state.lent.filter fun l => decide (l.returnsAt ≤ now))
    ⟨{ state with lent := state.lent.filter fun l => decide (now < l.returnsAt) }, []⟩ hsplit
  unfold returnLentFighters
  refine ⟨?_, hflights⟩
  rw [hlent]
  exact haccounts

/-! ## §7. Incursions. -/

theorem accruedSystem_spec (totalPlanets now : Nat) (system : SystemState) :
    (accruedSystem totalPlanets now system).seasonId = system.seasonId
      ∧ (accruedSystem totalPlanets now system).fighters = system.fighters
      ∧ (accruedSystem totalPlanets now system).buildsFighter = system.buildsFighter := by
  unfold accruedSystem
  dsimp only
  split
  · exact ⟨rfl, rfl, rfl⟩
  · exact ⟨rfl, rfl, rfl⟩

theorem accrueIncursions_accounts (h : Accounts state raids lent news) (totalPlanets now : Nat) :
    Accounts (accrueIncursions state totalPlanets now) raids lent news
      ∧ (accrueIncursions state totalPlanets now).flights = state.flights
      ∧ (accrueIncursions state totalPlanets now).lent = state.lent := by
  have hbody : ∀ (step : DukeStep) (system : SystemState),
      Accounts step.state raids lent (news ++ step.news) →
      findSystem step.state system.seasonId = some system →
      Accounts (replaceSystem step.state (accruedSystem totalPlanets now system)) raids lent
          (news ++ step.news)
        ∧ (replaceSystem step.state (accruedSystem totalPlanets now system)).flights
          = step.state.flights
        ∧ (replaceSystem step.state (accruedSystem totalPlanets now system)).lent = step.state.lent
        ∧ ∀ id, id ≠ system.seasonId →
            findSystem (replaceSystem step.state (accruedSystem totalPlanets now system)) id
              = findSystem step.state id := by
    intro step system hstep hfind
    obtain ⟨hid, hfighters, hbuilds⟩ := accruedSystem_spec totalPlanets now system
    have hreplaced := @Accounts.replace _ _ _ _ [] hstep _ _ hfind hid (fun e he => (by cases he))
      (by rw [hfighters]; rfl) (Or.inl (by rw [hfighters, hbuilds]))
    rw [List.append_nil] at hreplaced
    exact ⟨hreplaced, rfl, rfl, fun id => findSystem_replaceSystem_ne hid⟩
  have hloop := foldl_systems
    (fun step system => { step with
      state := replaceSystem step.state (accruedSystem totalPlanets now system) }) hbody
    state.systems ⟨state, []⟩ h.distinct
    (fun system hmem => findSystem_of_mem h.distinct hmem) (by simpa using h)
  -- the loop of the source carries no news
  have hstate : ∀ (systems : List SystemState) (step : DukeStep),
      systems.foldl (fun (step : DukeStep) system =>
          { step with state := replaceSystem step.state (accruedSystem totalPlanets now system) })
          step
        = ⟨systems.foldl
            (fun next system => replaceSystem next (accruedSystem totalPlanets now system))
            step.state, step.news⟩ := by
    intro systems
    induction systems with
    | nil => exact fun _ => rfl
    | cons system systems ih => exact fun step => ih _
  rw [hstate, List.append_nil] at hloop
  exact hloop

/-- **Incursions keep the books.** -/
theorem landIncursions_accounts (h : Accounts state raids lent news) (sectors : String → Bool)
    (now : Nat) :
    Accounts (landIncursions state sectors now).state raids lent
        (news ++ (landIncursions state sectors now).news)
      ∧ (landIncursions state sectors now).state.flights = state.flights
      ∧ (landIncursions state sectors now).state.lent = state.lent := by
  refine foldl_systems (landIncursion state sectors now) ?_ state.systems ⟨state, []⟩ h.distinct
    (fun system hmem => findSystem_of_mem h.distinct hmem) (by simpa using h)
  intro step system hstep hfind
  -- without a fight the system keeps its Fighters
  have hquiet : ∀ incursion : SystemIncursion,
      Accounts (replaceSystem step.state { system with incursion := incursion }) raids lent
          (news ++ step.news)
        ∧ (replaceSystem step.state { system with incursion := incursion }).flights
          = step.state.flights
        ∧ (replaceSystem step.state { system with incursion := incursion }).lent = step.state.lent
        ∧ ∀ id, id ≠ system.seasonId →
            findSystem (replaceSystem step.state { system with incursion := incursion }) id
              = findSystem step.state id := by
    intro incursion
    have hreplaced := @Accounts.replace _ _ _ _ [] hstep _ { system with incursion := incursion }
      hfind rfl (fun e he => (by cases he)) rfl (Or.inl (Nat.le_refl _))
    rw [List.append_nil] at hreplaced
    exact ⟨hreplaced, rfl, rfl, fun _ hne => findSystem_replaceSystem_ne rfl hne⟩
  unfold landIncursion
  cases harrival : system.incursion.arrivesAt with
  | none => exact ⟨hstep, rfl, rfl, fun _ _ => rfl⟩
  | some arrival =>
      dsimp only
      split
      · exact ⟨hstep, rfl, rfl, fun _ _ => rfl⟩
      split
      · exact hquiet _
      split
      · exact hquiet _
      have hlength := wardens_length system.fighters
      refine ⟨?_, rfl, rfl, ?_⟩
      · rw [← List.append_assoc]
        refine hstep.replace hfind rfl ?_ ?_ (Or.inl ?_)
        · intro e he
          right
          right
          split at he
          · exact List.mem_singleton.mp he
          · cases he
        · show (resolveWardenIncursion system.fighters).fighters.length + _ = _
          split at hlength
          · rename_i hlost
            rw [if_pos hlost]
            simp
            omega
          · rename_i hlost
            rw [if_neg hlost]
            simp only [List.count_nil]
            omega
        · show (resolveWardenIncursion system.fighters).fighters.length
              + (if system.buildsFighter then 1 else 0) ≤ _
          omega
      · exact fun _ hne => findSystem_replaceSystem_ne rfl hne

end BorderEmpires.Duke
