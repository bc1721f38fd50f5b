/-
  BorderEmpires.Duke.Derelicts
  **DERELICTS, FOUND BY THE FIRST PROBE TO LOOK.**

  Whether an arrival is a first look is read off the intel list, which
  keeps `MAX_INTEL` sectors and evicts the one seen longest ago.  A sector
  that has been evicted is looked at for the first time again, and its
  derelict pays again.
-/
import BorderEmpires.Duke.Service

namespace BorderEmpires.Duke

/-! ## §1. The reward of an arrival. -/

/-- What a Probe's arrival pays: Influence to the account, or Production to
the system it came from, else to the first. -/
def derelictReward (state : DukeState) (target : TargetView) : Option DerelictReward :=
  let firstLook := !(state.intel.any fun i => decide (i.seasonId = target.seasonId))
  let roll := derelictRoll state.authUid target.seasonId
  if firstLook && roll.found then
    match roll.reward with
    | .INFLUENCE => some .INFLUENCE
    | .PRODUCTION => if state.systems.isEmpty then none else some .PRODUCTION
  else none

def rewardHome (state : DukeState) (flight : InFlightOrder) : Option SystemState :=
  (findSystem state flight.fromSeasonId).or state.systems.head?

theorem rewardHome_mem {state : DukeState} {flight : InFlightOrder} {home : SystemState}
    (h : rewardHome state flight = some home) : home ∈ state.systems := by
  unfold rewardHome at h
  obtain hfrom | ⟨_, hfirst⟩ := Option.or_eq_some_iff.mp h
  · exact List.mem_of_find?_eq_some hfrom
  · exact List.mem_of_head? hfirst

/-- **The systems after an arrival**: a Production reward is added to the
idle bank of one, and nothing else happens to them. -/
theorem arriveProbe_systems (state : DukeState) (flight : InFlightOrder) (target : TargetView)
    (now : Nat) :
    (derelictReward state target ≠ some .PRODUCTION ∧
        (arriveProbe state flight target now).systems = state.systems)
      ∨ (derelictReward state target = some .PRODUCTION ∧
        ∃ home, rewardHome state flight = some home
          ∧ (arriveProbe state flight target now).systems
            = (replaceSystem state
                { home with idleBank := home.idleBank + DERELICT_PRODUCTION }).systems) := by
  unfold arriveProbe derelictReward
  dsimp only
  generalize hnext : retireProbes _ _ = next
  have hsystems : next.systems = state.systems := by
    rw [← hnext]
    rfl
  have hhome : (findSystem next flight.fromSeasonId).or next.systems.head?
      = rewardHome state flight := by
    unfold rewardHome findSystem
    rw [hsystems]
  rw [hhome]
  cases hfirst : !(state.intel.any fun i => decide (i.seasonId = target.seasonId)) &&
    (derelictRoll state.authUid target.seasonId).found with
  | false => exact Or.inl ⟨by simp, by simpa using hsystems⟩
  | true =>
      cases hreward : (derelictRoll state.authUid target.seasonId).reward with
      | INFLUENCE => exact Or.inl ⟨by simp, by simpa using hsystems⟩
      | PRODUCTION =>
          cases hsome : rewardHome state flight with
          | none =>
              -- without a system there is nobody to pay
              have hempty : state.systems = [] := by
                unfold rewardHome at hsome
                exact List.head?_eq_none_iff.mp (Option.or_eq_none_iff.mp hsome).2
              exact Or.inl ⟨by simp [hempty], by simpa using hsystems⟩
          | some home =>
              have hne : state.systems ≠ [] := List.ne_nil_of_mem (rewardHome_mem hsome)
              refine Or.inr ⟨by simp [hne], home, rfl, ?_⟩
              simp only [Bool.and_self, decide_true, if_true]
              show next.systems.map _ = state.systems.map _
              rw [hsystems]

/-! ## §2. The intel list as a memory of visits. -/

structure Visit where
  seasonId : String
  seenAt : Nat
  deriving DecidableEq

def DukeIntel.visit (i : DukeIntel) : Visit := ⟨i.seasonId, i.seenAt⟩

/-- Forgets the visits longest ago until `MAX_INTEL` are left. -/
def evictVisits : Nat → List Visit → List Visit
  | 0, list => list
  | rounds + 1, list =>
      if MAX_INTEL < list.length then
        match list.argmin Visit.seenAt with
        | none => list
        | some oldest => evictVisits rounds (list.erase oldest)
      else list

def remember (memory : List Visit) (v : Visit) : List Visit :=
  let list := memory.filter (fun u => u.seasonId ≠ v.seasonId) ++ [v]
  evictVisits list.length list

def remembered (visits : List Visit) : List Visit := visits.foldl remember []

theorem remembered_snoc (visits : List Visit) (v : Visit) :
    remembered (visits ++ [v]) = remember (remembered visits) v := by
  unfold remembered
  rw [List.foldl_append]
  rfl

theorem evictVisits_sublist (rounds : Nat) :
    ∀ list : List Visit, (evictVisits rounds list).Sublist list := by
  induction rounds with
  | zero => exact fun list => List.Sublist.refl list
  | succ rounds ih =>
      intro list
      unfold evictVisits
      split
      · split
        · exact List.Sublist.refl list
        · exact (ih _).trans List.erase_sublist
      · exact List.Sublist.refl list

theorem visited_nodup {memory : List Visit} (h : (memory.map Visit.seasonId).Nodup)
    (v : Visit) :
    ((memory.filter (fun u => u.seasonId ≠ v.seasonId) ++ [v]).map Visit.seasonId).Nodup := by
  rw [List.map_append]
  refine List.nodup_append.mpr
    ⟨h.sublist (List.filter_sublist.map Visit.seasonId), List.nodup_singleton _, ?_⟩
  intro a ha b hb hab
  obtain ⟨u, hu, rfl⟩ := List.mem_map.mp ha
  have hne : u.seasonId ≠ v.seasonId := by simpa using (List.mem_filter.mp hu).2
  rw [List.map_singleton, List.mem_singleton] at hb
  exact hne (hab.trans hb)

theorem remembered_nodup (visits : List Visit) :
    ((remembered visits).map Visit.seasonId).Nodup := by
  induction visits using List.reverseRecOn with
  | nil => exact List.nodup_nil
  | append_singleton visits v ih =>
      rw [remembered_snoc]
      exact (visited_nodup ih v).sublist ((evictVisits_sublist _ _).map Visit.seasonId)

theorem remembered_subset (visits : List Visit) : remembered visits ⊆ visits := by
  induction visits using List.reverseRecOn with
  | nil => exact List.Subset.refl _
  | append_singleton visits v ih =>
      rw [remembered_snoc]
      intro u hu
      obtain hold | hnew := List.mem_append.mp ((evictVisits_sublist _ _).subset hu)
      · exact List.mem_append_left _ (ih (List.mem_filter.mp hold).1)
      · exact List.mem_append_right _ hnew

/-! ### The list the code keeps. -/

theorem argmin_map {α β : Type} (f : α → β) (g : β → Nat) (l : List α) :
    (l.map f).argmin g = (l.argmin (g ∘ f)).map f := by
  induction l using List.reverseRecOn with
  | nil => rfl
  | append_singleton l a ih =>
      rw [List.map_append, List.map_singleton, List.argmin_concat, List.argmin_concat, ih]
      cases l.argmin (g ∘ f) with
      | none => rfl
      | some least =>
          show (if g (f a) < g (f least) then some (f a) else some (f least))
            = Option.map f (if g (f a) < g (f least) then some a else some least)
          split
          · rfl
          · rfl

theorem map_erase_of_nodup {α β : Type} [DecidableEq α] [DecidableEq β] (f : α → β) {a : α} :
    ∀ {l : List α}, (l.map f).Nodup → a ∈ l → (l.erase a).map f = (l.map f).erase (f a) := by
  intro l
  induction l with
  | nil => exact fun _ h => absurd h List.not_mem_nil
  | cons b l ih =>
      intro hnodup hmem
      rw [List.map_cons, List.nodup_cons] at hnodup
      by_cases hab : b = a
      · rw [hab, List.erase_cons_head, List.map_cons, List.erase_cons_head]
      · have hin : a ∈ l := (List.mem_cons.mp hmem).resolve_left (fun h => hab h.symm)
        have hf : f b ≠ f a := fun h => hnodup.1 (h ▸ List.mem_map_of_mem hin)
        rw [List.erase_cons_tail (by simpa using hab), List.map_cons, List.map_cons,
          List.erase_cons_tail (by simpa using hf), ih hnodup.2 hin]

theorem evictIntel_visits (rounds : Nat) :
    ∀ {list : List DukeIntel}, (list.map DukeIntel.visit).Nodup →
      (evictIntel rounds list).map DukeIntel.visit
        = evictVisits rounds (list.map DukeIntel.visit) := by
  induction rounds with
  | zero => exact fun _ => rfl
  | succ rounds ih =>
      intro list hnodup
      unfold evictIntel evictVisits
      rw [List.length_map, argmin_map]
      split
      · show _ = match (list.argmin DukeIntel.seenAt).map DukeIntel.visit with
          | none => list.map DukeIntel.visit
          | some oldest => evictVisits rounds ((list.map DukeIntel.visit).erase oldest)
        cases holdest : list.argmin DukeIntel.seenAt with
        | none => rfl
        | some oldest =>
            have herase := map_erase_of_nodup DukeIntel.visit hnodup (List.argmin_mem holdest)
            show (evictIntel rounds (list.erase oldest)).map DukeIntel.visit = _
            rw [ih, herase]
            · rfl
            · exact hnodup.sublist (List.erase_sublist.map DukeIntel.visit)
      · rfl

theorem map_visit_seasonId (list : List DukeIntel) :
    (list.map DukeIntel.visit).map Visit.seasonId = list.map DukeIntel.seasonId := by
  rw [List.map_map]
  rfl

/-- **The intel after an arrival** remembers one visit more. -/
theorem arriveProbe_intel {state : DukeState}
    (hnodup : ((state.intel.map DukeIntel.visit).map Visit.seasonId).Nodup)
    (flight : InFlightOrder) (target : TargetView) (now : Nat) :
    (arriveProbe state flight target now).intel.map DukeIntel.visit
      = remember (state.intel.map DukeIntel.visit) ⟨target.seasonId, now⟩ := by
  have hsame : (arriveProbe state flight target now).intel.map DukeIntel.visit
      = (upsertIntel (dropFlight state flight)
          ⟨target.seasonId, target.stability, target.defenderHull, now, true⟩).intel.map
            DukeIntel.visit := by
    have hretire : ∀ (s : DukeState) (orbiting : List OrbitingProbe),
        (retireProbes s orbiting).intel.map DukeIntel.visit = s.intel.map DukeIntel.visit := by
      intro s orbiting
      unfold retireProbes
      dsimp only
      rw [List.map_map]
      refine List.map_congr_left (fun i _ => ?_)
      show DukeIntel.visit (if _ then _ else _) = _
      split
      · rfl
      · rfl
    unfold arriveProbe
    dsimp only
    split
    · split
      · exact hretire _ _
      · exact hretire _ _
    · exact hretire _ _
  have hlist : (state.intel.filter (fun i : DukeIntel => i.seasonId ≠ target.seasonId)
        ++ [(⟨target.seasonId, target.stability, target.defenderHull, now, true⟩ :
          DukeIntel)]).map DukeIntel.visit
      = (state.intel.map DukeIntel.visit).filter (fun u => u.seasonId ≠ target.seasonId)
        ++ [⟨target.seasonId, now⟩] := by
    rw [List.map_append, List.filter_map]
    rfl
  rw [hsame]
  unfold upsertIntel remember
  dsimp only
  rw [← hlist, List.length_map]
  have hvisited := visited_nodup hnodup ⟨target.seasonId, now⟩
  rw [← hlist] at hvisited
  exact evictIntel_visits _ (List.Nodup.of_map Visit.seasonId hvisited)

/-! ## §3. Runs of Probes. -/

def probeView (flight : InFlightOrder) (target : Arrival) : Option TargetView :=
  match flight.kind with
  | .PROBE => target.view
  | .RAID _ _ => none

/-- A Duke with the visits its Probes made and the sectors that paid a
reward, in order. -/
structure ProbeRun where
  state : DukeState
  visits : List Visit
  paid : List String

/-- What happens to a Duke, as far as its Probes go. -/
inductive ProbeOp where
  | launch (fromSeasonId targetSeasonId : String) (owned : List String) (now : Nat)
  /-- All Probes that have arrived at the clock of the tick. -/
  | arrive (world : TickWorld)
  /-- Everything else leaves some systems, with any Probes in stock. -/
  | elsewhere (first : SystemState) (rest : List SystemState)

namespace ProbeRun

def born (authUid : String) (first : HeldPlanet) (rest : List HeldPlanet) (now : Nat) : ProbeRun :=
  ⟨createDukeState authUid (first :: rest) now, [], []⟩

def land (now : Nat) (r : ProbeRun) (flight : InFlightOrder) (target : TargetView) : ProbeRun where
  state := arriveProbe r.state flight target now
  visits := r.visits ++ [⟨target.seasonId, now⟩]
  paid := r.paid ++ if (derelictReward r.state target).isSome then [target.seasonId] else []

/-- `resolveFlights`, with what the arrivals pay. -/
def landAll (world : TickWorld) : Nat → List InFlightOrder → ProbeRun → ProbeRun
  | _, [], r => r
  | i, flight :: flights, r =>
      landAll world (i + 1) flights
        (match probeView flight (world.arrivals i) with
          | some target => land world.now r flight target
          | none => { r with
              state := (resolveFlight world r.state flight (world.arrivals i)).state })

def step (r : ProbeRun) : ProbeOp → ProbeRun
  | .launch fromSeasonId targetSeasonId owned now =>
      match launchProbe r.state fromSeasonId targetSeasonId owned now with
      | .error _ => r
      | .ok launched => { r with state := launched }
  | .arrive world => landAll world 0 (arrivedFlights r.state world.now) r
  | .elsewhere first rest => { r with state := { r.state with systems := first :: rest } }

/-! ## §4. What a run pays. -/

/-- **The condition**: whenever a Probe visits a sector with a derelict
again, the sector is among those remembered. -/
def RevisitsRemembered (authUid : String) (visits : List Visit) : Prop :=
  ∀ before v after, visits = before ++ v :: after →
    (derelictRoll authUid v.seasonId).found = true →
      v.seasonId ∈ before.map Visit.seasonId → v.seasonId ∈ (remembered before).map Visit.seasonId

theorem revisitsRemembered_snoc (authUid : String) (visits : List Visit) (v : Visit) :
    RevisitsRemembered authUid (visits ++ [v])
      ↔ RevisitsRemembered authUid visits
        ∧ ((derelictRoll authUid v.seasonId).found = true →
            v.seasonId ∈ visits.map Visit.seasonId →
              v.seasonId ∈ (remembered visits).map Visit.seasonId) := by
  constructor
  · intro h
    refine ⟨fun before u after heq => h before u (after ++ [v]) ?_, h visits v [] rfl⟩
    rw [heq, List.append_assoc, List.cons_append]
  · intro ⟨hold, hnew⟩ before u after heq
    cases after using List.reverseRecOn with
    | nil =>
        obtain ⟨hbefore, hlast⟩ := List.append_inj' heq rfl
        cases hlast
        exact hbefore ▸ hnew
    | append_singleton after w =>
        rw [← List.cons_append, ← List.append_assoc] at heq
        exact hold before u after (List.append_inj' heq rfl).1

/-- The Duke has a system, only Probes in flight, and remembers its visits;
the sectors paid for are the derelicts visited. -/
structure Kept (authUid : String) (r : ProbeRun) : Prop where
  uid : r.state.authUid = authUid
  housed : r.state.systems ≠ []
  probes : ∀ f ∈ r.state.flights, f.kind = .PROBE
  memory : r.state.intel.map DukeIntel.visit = remembered r.visits
  paidFor : ∀ seasonId, seasonId ∈ r.paid
    ↔ (derelictRoll authUid seasonId).found = true ∧ seasonId ∈ r.visits.map Visit.seasonId
  once : r.paid.Nodup ↔ RevisitsRemembered authUid r.visits

variable {authUid : String} {r : ProbeRun}

theorem Kept.paid_iff (h : Kept authUid r) (target : TargetView) :
    (derelictReward r.state target).isSome = true
      ↔ (derelictRoll authUid target.seasonId).found = true
        ∧ target.seasonId ∉ (remembered r.visits).map Visit.seasonId := by
  have hseen : (r.state.intel.any fun i => decide (i.seasonId = target.seasonId)) = true
      ↔ target.seasonId ∈ (remembered r.visits).map Visit.seasonId := by
    rw [← h.memory, map_visit_seasonId, List.any_eq_true, List.mem_map]
    simp
  have hempty : r.state.systems.isEmpty = false := by
    simpa using h.housed
  unfold derelictReward
  rw [h.uid, hempty, ← hseen]
  generalize (r.state.intel.any fun i => decide (i.seasonId = target.seasonId)) = seen
  cases hfound : (derelictRoll authUid target.seasonId).found with
  | false => simp [hfound]
  | true =>
      cases seen with
      | true => simp
      | false =>
          cases hreward : (derelictRoll authUid target.seasonId).reward <;>
            simp [hfound, hreward]

theorem arriveProbe_frame (state : DukeState) (flight : InFlightOrder) (target : TargetView)
    (now : Nat) :
    (arriveProbe state flight target now).authUid = state.authUid
      ∧ (arriveProbe state flight target now).flights = (dropFlight state flight).flights := by
  unfold arriveProbe
  dsimp only
  split
  · split
    · exact ⟨rfl, rfl⟩
    · exact ⟨rfl, rfl⟩
  · exact ⟨rfl, rfl⟩

theorem Kept.land (h : Kept authUid r) (flight : InFlightOrder) (target : TargetView)
    (now : Nat) : Kept authUid (ProbeRun.land now r flight target) := by
  have hframe := arriveProbe_frame r.state flight target now
  have hpaid := h.paid_iff target
  have hvisited : target.seasonId ∈ (remembered r.visits).map Visit.seasonId →
      target.seasonId ∈ r.visits.map Visit.seasonId :=
    fun hmem => List.map_subset _ (remembered_subset r.visits) hmem
  refine
    { uid := hframe.1.trans h.uid
      housed := ?_
      probes := fun f hf => h.probes f ?_
      memory := ?_
      paidFor := fun seasonId => ?_
      once := ?_ }
  · show (arriveProbe r.state flight target now).systems ≠ []
    obtain ⟨_, hsystems⟩ | ⟨_, home, _, hsystems⟩ := arriveProbe_systems r.state flight target now
    · rw [hsystems]
      exact h.housed
    · rw [hsystems]
      exact fun hnil => h.housed (List.map_eq_nil_iff.mp hnil)
  · change f ∈ (arriveProbe r.state flight target now).flights at hf
    rw [hframe.2] at hf
    exact (List.mem_filter.mp hf).1
  · show (arriveProbe r.state flight target now).intel.map DukeIntel.visit
      = remembered (r.visits ++ [(⟨target.seasonId, now⟩ : Visit)])
    rw [remembered_snoc, ← h.memory]
    exact arriveProbe_intel (h.memory ▸ remembered_nodup r.visits) flight target now
  · show seasonId ∈ r.paid ++ (if _ then _ else _)
      ↔ _ ∧ seasonId ∈ (r.visits ++ [(⟨target.seasonId, now⟩ : Visit)]).map Visit.seasonId
    rw [List.mem_append, h.paidFor, List.map_append, List.mem_append, List.map_singleton,
      List.mem_singleton]
    by_cases hreward : (derelictReward r.state target).isSome = true
    · rw [if_pos hreward, List.mem_singleton]
      have hfound := (hpaid.mp hreward).1
      constructor
      · rintro (⟨hroll, hmem⟩ | rfl)
        · exact ⟨hroll, Or.inl hmem⟩
        · exact ⟨hfound, Or.inr rfl⟩
      · rintro ⟨hroll, hmem | rfl⟩
        · exact Or.inl ⟨hroll, hmem⟩
        · exact Or.inr rfl
    · rw [if_neg hreward]
      constructor
      · rintro (⟨hroll, hmem⟩ | hnil)
        · exact ⟨hroll, Or.inl hmem⟩
        · cases hnil
      · rintro ⟨hroll, hmem | rfl⟩
        · exact Or.inl ⟨hroll, hmem⟩
        · -- not paid though found: it is remembered, so it has been visited
          refine Or.inl ⟨hroll, hvisited ?_⟩
          by_contra hforgotten
          exact hreward (hpaid.mpr ⟨hroll, hforgotten⟩)
  · show (r.paid ++ (if _ then _ else _)).Nodup
      ↔ RevisitsRemembered authUid (r.visits ++ [⟨target.seasonId, now⟩])
    rw [revisitsRemembered_snoc, ← h.once]
    by_cases hreward : (derelictReward r.state target).isSome = true
    · obtain ⟨hfound, hforgotten⟩ := hpaid.mp hreward
      rw [if_pos hreward]
      constructor
      · intro hnodup
        obtain ⟨hold, _, hdisjoint⟩ := List.nodup_append.mp hnodup
        refine ⟨hold, fun _ hvisit => absurd rfl
          (hdisjoint _ ((h.paidFor _).mpr ⟨hfound, hvisit⟩) target.seasonId ?_)⟩
        exact List.mem_singleton.mpr rfl
      · intro ⟨hold, hagain⟩
        refine List.nodup_append.mpr ⟨hold, List.nodup_singleton _, fun a ha b hb hab => ?_⟩
        rw [List.mem_singleton.mp hb] at hab
        exact hforgotten (hagain hfound ((h.paidFor _).mp (hab ▸ ha)).2)
    · rw [if_neg hreward, List.append_nil]
      refine ⟨fun hold => ⟨hold, fun hfound _ => ?_⟩, fun hboth => hboth.1⟩
      by_contra hforgotten
      exact hreward (hpaid.mpr ⟨hfound, hforgotten⟩)

theorem Kept.landAll (world : TickWorld) (flights : List InFlightOrder) :
    ∀ (i : Nat) {r : ProbeRun}, Kept authUid r → (∀ f ∈ flights, f.kind = .PROBE) →
      Kept authUid (ProbeRun.landAll world i flights r) := by
  induction flights with
  | nil => exact fun _ _ h _ => h
  | cons flight flights ih =>
      intro i r h hprobes
      refine ih (i + 1) ?_ (fun f hf => hprobes f (List.mem_cons_of_mem _ hf))
      unfold probeView resolveFlight
      rw [hprobes flight List.mem_cons_self]
      dsimp only
      cases (world.arrivals i).view with
      | some target => exact h.land flight target world.now
      | none =>
          exact
            { uid := h.uid
              housed := h.housed
              probes := fun f hf => h.probes f (List.mem_filter.mp hf).1
              memory := h.memory
              paidFor := h.paidFor
              once := h.once }

/-- **One operation** keeps the books of the payments. -/
theorem Kept.step (h : Kept authUid r) (op : ProbeOp) : Kept authUid (r.step op) := by
  cases op with
  | launch fromSeasonId targetSeasonId owned now =>
      unfold ProbeRun.step
      dsimp only
      unfold launchProbe
      split
      next => exact h
      next launched hlaunch =>
        split at hlaunch
        · cases hlaunch
        next system _ =>
          split_ifs at hlaunch
          cases hlaunch
          refine
            { uid := h.uid
              housed := fun hnil => h.housed (List.map_eq_nil_iff.mp hnil)
              probes := fun f hf => ?_
              memory := h.memory
              paidFor := h.paidFor
              once := h.once }
          obtain hold | hnew := List.mem_append.mp hf
          · exact h.probes f hold
          · rw [List.mem_singleton.mp hnew]
  | arrive world =>
      exact h.landAll world _ 0 (fun f hf => h.probes f (List.mem_filter.mp hf).1)
  | elsewhere first rest =>
      exact
        { uid := h.uid
          housed := List.cons_ne_nil first rest
          probes := h.probes
          memory := h.memory
          paidFor := h.paidFor
          once := h.once }

theorem kept_born (authUid : String) (first : HeldPlanet) (rest : List HeldPlanet) (now : Nat) :
    Kept authUid (born authUid first rest now) where
  uid := rfl
  housed := List.cons_ne_nil _ _
  probes := fun _ hf => absurd hf List.not_mem_nil
  memory := rfl
  paidFor := fun _ => ⟨fun h => absurd h List.not_mem_nil, fun h => absurd h.2 List.not_mem_nil⟩
  once := iff_of_true List.nodup_nil (fun before v after heq =>
    absurd heq.symm (List.append_ne_nil_of_right_ne_nil before (List.cons_ne_nil v after)))

theorem kept_run (h : Kept authUid r) (ops : List ProbeOp) :
    Kept authUid (ops.foldl ProbeRun.step r) := by
  induction ops generalizing r with
  | nil => exact h
  | cons op ops ih => exact ih (h.step op)

/-- **Derelicts pay once** exactly when every derelict that is visited again
is still remembered. -/
theorem derelicts_paid_once_iff (authUid : String) (first : HeldPlanet) (rest : List HeldPlanet)
    (now : Nat) (ops : List ProbeOp) :
    let r := ops.foldl ProbeRun.step (born authUid first rest now)
    r.paid.Nodup ↔ RevisitsRemembered authUid r.visits :=
  (kept_run (kept_born authUid first rest now) ops).once

end ProbeRun

/-! ## §5. A derelict that pays twice. -/

/-- The sector of the Probe with this number; of 102, the last goes where the
first went. -/
def sectorOf (probe : Nat) : String := toString (probe % (MAX_INTEL + 1))

def salvo (now probe : Nat) : List ProbeOp :=
  .elsewhere { newSystemState ⟨"home", .TRADE⟩ 0 none with probeStock := MAX_PROBES_PER_SYSTEM } []
    :: (List.range 3).map fun i => .launch "home" (sectorOf (probe + i)) ["home"] now

def surveyTrip (n : Nat) : List ProbeOp :=
  salvo (n * CYCLE_MS) (6 * n) ++ salvo (n * CYCLE_MS) (6 * n + 3) ++
    [.arrive
      { now := n * CYCLE_MS + PROBE_TRAVEL_MS
        planets := []
        capturedSectors := 0
        arrivals := fun i => ⟨some ⟨sectorOf (6 * n + i), 60, none⟩, none⟩
        orbitView := fun _ => none }]

/-- Seventeen Cycles of Probes. -/
def survey : ProbeRun :=
  ((List.range 17).flatMap surveyTrip).foldl ProbeRun.step (.born "17" ⟨"home", .TRADE⟩ [] 0)

/-- A hundred other sectors are looked at before the Probe returns to the
first, whose derelict pays again. -/
theorem derelict_pays_twice :
    survey.paid.count (sectorOf 0) = 2 ∧ ¬ survey.paid.Nodup := by
  have htwice : survey.paid.count (sectorOf 0) = 2 := by decide +kernel
  refine ⟨htwice, fun hnodup => ?_⟩
  have honce := List.nodup_iff_count_le_one.mp hnodup (sectorOf 0)
  omega

end BorderEmpires.Duke
