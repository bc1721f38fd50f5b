/-
  BorderEmpires.Vision.AllianceRuns
  **ALLIANCE CHANGES, AND THE ACCOUNTS ALONG A RUN.**

  `syncAllianceChange` adds or retracts the territory of both sides
  always, and their bonus rings only when the matching callback is
  supplied.  So the accounts survive an alliance change exactly when the
  callback is there or neither side has a ring over any cell
  (`RingsSynced`); every other call keeps them anyway.
-/
import BorderEmpires.Vision.Accounts

namespace BorderEmpires.Vision

variable {W : WorldSize} (footprint : TileKey W → Nat → List (TileKey W))

/-! ## §1. Rings handed to one viewer. -/

theorem refcount_applyBonuses_enter (rings : InsertionMap (TileKey W) Nat)
    (viewerId v : PlayerId) (onEnter : Bool) (cache : VisibilityCoverageCache W)
    (cell : TileKey W) :
    (VisibilityCoverageTracker.applyBonusesToViewer footprint rings viewerId onEnter false
        cache).refcount v cell
      = cache.refcount v cell
        + if onEnter = true ∧ viewerId = v then ringShare footprint rings cell else 0 := by
  unfold VisibilityCoverageTracker.applyBonusesToViewer ringShare InsertionMap.total
  rw [← Loops.sum_map_ite]
  refine Loops.foldl_add (fun cache : VisibilityCoverageCache W => cache.refcount v cell) ?_
  intro cache e
  cases onEnter with
  | false => simp
  | true =>
      simp only [Bool.false_eq_true, if_false, if_true, true_and]
      exact cache.refcount_addFootprint viewerId v _ true cell

theorem refcount_applyBonuses_leave (rings : InsertionMap (TileKey W) Nat)
    (viewerId v : PlayerId) (onLeave : Bool) (cache : VisibilityCoverageCache W)
    (cell : TileKey W) :
    (VisibilityCoverageTracker.applyBonusesToViewer footprint rings viewerId false onLeave
        cache).refcount v cell
      = cache.refcount v cell
        - if onLeave = true ∧ viewerId = v then ringShare footprint rings cell else 0 := by
  unfold VisibilityCoverageTracker.applyBonusesToViewer ringShare InsertionMap.total
  rw [← Loops.sum_map_ite]
  refine Loops.foldl_sub (fun cache : VisibilityCoverageCache W => cache.refcount v cell) ?_
  intro cache e
  cases onLeave with
  | false => simp
  | true =>
      simp only [Bool.false_eq_true, if_false, if_true, true_and]
      exact cache.refcount_removeFootprint viewerId v _ true cell

/-! ## §2. What an alliance change does to the counts. -/

/-- What the sync hands over of a source: its territory, and its rings when
the callback is supplied. -/
def syncedShare (tiles : InsertionMap (TileKey W) TileOwnership) (t : VisibilityCoverageTracker W)
    (supplied : Bool) (cell : TileKey W) (p : PlayerId) : Nat :=
  territoryShare footprint tiles p (usedRadius t.radiusBySource p) cell
    + if supplied then bonusShare footprint t p cell else 0

/-- The state after the sync: radii looked up on the way, rings as they
were, and the counts of the two sides moved by what is handed over. -/
theorem syncAllianceChange_spec (t : VisibilityCoverageTracker W) (s : VisionState W)
    (visionRadiusForPlayer : PlayerId → Nat) {a b : PlayerId} (hab : a ≠ b)
    (ha : a.isBarbarian = false) (hb : b.isBarbarian = false) (allied : Bool)
    (callbacks : VisibilityTransitionCallbacks) :
    ∃ t', t.syncAllianceChange footprint (s.deps visionRadiusForPlayer) a b allied callbacks = t'
      ∧ t'.bonusRadii = t.bonusRadii ∧ Extends t'.radiusBySource t.radiusBySource
      ∧ ∀ v cell, t'.cache.refcount v cell
          = if allied then
              t.cache.refcount v cell
                + (if v = b then syncedShare footprint s.tiles t' callbacks.onEnter cell a else 0)
                + (if v = a then syncedShare footprint s.tiles t' callbacks.onEnter cell b else 0)
            else
              t.cache.refcount v cell
                - (if v = b then syncedShare footprint s.tiles t' callbacks.onLeave cell a else 0)
                - (if v = a then syncedShare footprint s.tiles t' callbacks.onLeave cell b
                  else 0) := by
  set deps := s.deps visionRadiusForPlayer with hdeps
  obtain ⟨hcacheA, hbonusA, hextA, hgetA⟩ := radiusForSource_spec t deps a
  set ra := t.radiusForSource deps a with hra
  obtain ⟨hcacheB, hbonusB, hextB, hgetB⟩ := radiusForSource_spec ra.2 deps b
  set rb := ra.2.radiusForSource deps b with hrb
  refine ⟨_, rfl, ?_, ?_, ?_⟩
  · unfold VisibilityCoverageTracker.syncAllianceChange
    rw [if_neg (by simp [ha, hb])]
    exact hbonusB.trans hbonusA
  · unfold VisibilityCoverageTracker.syncAllianceChange
    rw [if_neg (by simp [ha, hb])]
    exact hextA.trans hextB
  · intro v cell
    unfold VisibilityCoverageTracker.syncAllianceChange
    rw [if_neg (by simp [ha, hb])]
    dsimp only
    simp only [← hra, ← hrb]
    -- the radii handed over are the ones on record afterwards
    have husedA : usedRadius rb.2.radiusBySource a = ra.1 := by
      unfold usedRadius
      rw [hextB a ra.1 hgetA, Option.getD_some]
    have husedB : usedRadius rb.2.radiusBySource b = rb.1 := by
      unfold usedRadius
      rw [hgetB, Option.getD_some]
    have hcache : rb.2.cache = t.cache := hcacheB.trans hcacheA
    have hshare : ∀ supplied p radius, usedRadius rb.2.radiusBySource p = radius →
        ∀ cache, syncedShare footprint s.tiles { rb.2 with cache := cache } supplied cell p
          = footprintsShare footprint (settledTileKeysForPlayer s.tiles p) radius cell
            + footprintsShare footprint (frontierTileKeysForPlayer s.tiles p)
                FRONTIER_STANDING_VISION_RADIUS cell
            + if supplied then bonusShare footprint rb.2 p cell else 0 := by
      intro supplied p radius hradius cache
      unfold syncedShare
      dsimp only
      rw [hradius, territoryShare_split]
      rfl
    rw [hshare _ a _ husedA, hshare _ b _ husedB, hshare _ a _ husedA, hshare _ b _ husedB]
    have hfold : ∀ (keys : List (TileKey W)) radius,
        ((keys.map (fun key => footprint key radius)).map (fun cells => cells.count cell)).sum
          = footprintsShare footprint keys radius cell := fun _ _ => rfl
    have hsettled : deps.settledTileKeysForPlayer = settledTileKeysForPlayer s.tiles := rfl
    have hfrontier : deps.frontierTileKeysForPlayer = frontierTileKeysForPlayer s.tiles := rfl
    rw [hsettled, hfrontier]
    have hcommA : (a = v) = (v = a) := propext eq_comm
    have hcommB : (b = v) = (v = b) := propext eq_comm
    cases allied with
    | true =>
        rw [if_pos rfl, if_pos rfl]
        simp only [refcount_applyBonuses_enter,
          VisibilityCoverageCache.refcount_addSourceContribution, hfold, hcommA, hcommB]
        rw [hcache]
        unfold bonusShare
        by_cases hva : v = a
        · simp only [hva, hab, if_true, if_false, and_true, and_false]
          split <;> omega
        · by_cases hvb : v = b
          · simp only [hvb, hab.symm, if_true, if_false, and_true, and_false]
            split <;> omega
          · simp only [hva, hvb, if_false, and_false]
    | false =>
        rw [if_neg (by simp), if_neg (by simp)]
        simp only [refcount_applyBonuses_leave,
          VisibilityCoverageCache.refcount_removeSourceContribution, hfold, hcommA, hcommB]
        rw [hcache]
        unfold bonusShare
        by_cases hva : v = a
        · simp only [hva, hab, if_true, if_false, and_true, and_false]
          split <;> omega
        · by_cases hvb : v = b
          · simp only [hvb, hab.symm, if_true, if_false, and_true, and_false]
            split <;> omega
          · simp only [hva, hvb, if_false, and_false]
            omega

/-! ## §3. When an alliance change is synced. -/

def ringCells (t : VisibilityCoverageTracker W) (p : PlayerId) : List (TileKey W) :=
  [BonusKind.town, .outpost, .observatory].flatMap
    (fun kind => (t.ringsOf kind p).entries.flatMap (fun e => footprint e.1 e.2))

theorem count_ringCells (t : VisibilityCoverageTracker W) (p : PlayerId) (cell : TileKey W) :
    (ringCells footprint t p).count cell = bonusShare footprint t p cell := by
  have hone : ∀ kind, ((t.ringsOf kind p).entries.flatMap (fun e => footprint e.1 e.2)).count cell
      = ringShare footprint (t.ringsOf kind p) cell := by
    intro kind
    rw [List.count_flatMap]
    rfl
  unfold ringCells bonusShare
  rw [List.count_flatMap]
  simp only [List.map_cons, List.map_nil, List.sum_cons, List.sum_nil, Function.comp, hone]
  omega

/-- The command changes the relation of two registered players. -/
def ChangesAlliance (s : VisionState W) (a b : PlayerId) (allied : Bool) : Prop :=
  a ≠ b ∧ s.alliances.players.has a = true ∧ s.alliances.players.has b = true
    ∧ decide (b ∈ s.alliances.alliesOf a) ≠ allied

/-- **The rings of both sides go with the alliance change**: the callback
that carries them is supplied, or there is no ring over any cell.  Calls
that change no alliance between players meet this. -/
def RingsSynced (s : VisionState W) (call : VisionCall W) : Prop :=
  match call.op with
  | .syncAlliance a b allied =>
      ChangesAlliance s a b allied → a.isBarbarian = false → b.isBarbarian = false →
        (if allied then call.callbacks.onEnter else call.callbacks.onLeave) = true
          ∨ (ringCells footprint s.tracker a = [] ∧ ringCells footprint s.tracker b = [])
  | _ => True

/-! ## §4. The step lemma for alliance changes. -/

/-- What is handed over of a source is its whole contribution, when its
rings go along or there are none. -/
theorem syncedShare_eq_contribution {s : VisionState W} (h : Accounted footprint s)
    {t' : VisibilityCoverageTracker W} (hbonus : t'.bonusRadii = s.tracker.bonusRadii)
    (hext : Extends t'.radiusBySource s.tracker.radiusBySource) {p : PlayerId}
    (hp : p.isBarbarian = false) {supplied : Bool}
    (hrings : supplied = true ∨ ringCells footprint s.tracker p = []) (cell : TileKey W) :
    syncedShare footprint s.tiles t' supplied cell p
      = contribution footprint s.tiles s.tracker cell p := by
  unfold syncedShare
  rw [contribution_player footprint hp, territoryShare_extends footprint h.known hext hp,
    bonusShare_congr footprint hbonus]
  cases hrings with
  | inl hsupplied => rw [if_pos hsupplied]
  | inr hnil =>
      have hzero := count_ringCells footprint s.tracker p cell
      rw [hnil, List.count_nil] at hzero
      rw [← hzero, ite_self]

theorem contribution_extends {s : VisionState W} (h : Accounted footprint s)
    {t' : VisibilityCoverageTracker W} (hbonus : t'.bonusRadii = s.tracker.bonusRadii)
    (hext : Extends t'.radiusBySource s.tracker.radiusBySource) (cell : TileKey W)
    (p : PlayerId) :
    contribution footprint s.tiles t' cell p = contribution footprint s.tiles s.tracker cell p := by
  cases hp : p.isBarbarian with
  | true => rw [contribution_barbarian footprint hp, contribution_barbarian footprint hp]
  | false =>
      rw [contribution_player footprint hp, contribution_player footprint hp,
        territoryShare_extends footprint h.known hext hp, bonusShare_congr footprint hbonus]

theorem known_extends {tiles : InsertionMap (TileKey W) TileOwnership}
    {radii radii' : InsertionMap PlayerId Nat} (hknown : RadiusKnown tiles radii)
    (hext : Extends radii' radii) : RadiusKnown tiles radii' := by
  intro key o p hget howner hp hstate
  obtain ⟨r, hr⟩ := Option.isSome_iff_exists.mp (hknown key o p hget howner hp hstate)
  rw [hext p r hr]
  rfl

/-- The tracker's reply to an alliance change, barbarians included: both
sides gain, or lose, the whole contribution of the other. -/
theorem syncAlliance_counts {s : VisionState W} (h : Accounted footprint s)
    (alliances : AllianceTable) (visionRadiusForPlayer : PlayerId → Nat) {a b : PlayerId}
    (hab : a ≠ b) (allied : Bool) (callbacks : VisibilityTransitionCallbacks)
    (hsynced : a.isBarbarian = false → b.isBarbarian = false →
      (if allied then callbacks.onEnter else callbacks.onLeave) = true
        ∨ (ringCells footprint s.tracker a = [] ∧ ringCells footprint s.tracker b = [])) :
    ∃ t', s.tracker.syncAllianceChange footprint
        ((VisionState.mk alliances s.tiles s.tracker).deps visionRadiusForPlayer) a b allied
        callbacks = t'
      ∧ RadiusKnown s.tiles t'.radiusBySource
      ∧ (∀ cell p, contribution footprint s.tiles t' cell p
          = contribution footprint s.tiles s.tracker cell p)
      ∧ ∀ v, v.isBarbarian = false → ∀ cell,
          t'.cache.refcount v cell
            = if allied then s.tracker.cache.refcount v cell
                + (if v = a then contribution footprint s.tiles s.tracker cell b
                  else if v = b then contribution footprint s.tiles s.tracker cell a else 0)
              else s.tracker.cache.refcount v cell
                - (if v = a then contribution footprint s.tiles s.tracker cell b
                  else if v = b then contribution footprint s.tiles s.tracker cell a else 0) := by
  by_cases hbarb : a.isBarbarian = true ∨ b.isBarbarian = true
  · -- a barbarian neither looks through anybody nor is looked through
    refine ⟨s.tracker, ?_, h.known, fun _ _ => rfl, ?_⟩
    · unfold VisibilityCoverageTracker.syncAllianceChange
      rw [if_pos (by simpa using hbarb)]
    · intro v hv cell
      have hzero : (if v = a then contribution footprint s.tiles s.tracker cell b
          else if v = b then contribution footprint s.tiles s.tracker cell a else 0) = 0 := by
        by_cases hva : v = a
        · rw [if_pos hva]
          apply contribution_barbarian
          apply hbarb.resolve_left
          rw [← hva, hv]
          exact Bool.false_ne_true
        · by_cases hvb : v = b
          · rw [if_neg hva, if_pos hvb]
            apply contribution_barbarian
            apply hbarb.resolve_right
            rw [← hvb, hv]
            exact Bool.false_ne_true
          · rw [if_neg hva, if_neg hvb]
      rw [hzero]
      cases allied <;> rfl
  · rw [not_or, Bool.not_eq_true, Bool.not_eq_true] at hbarb
    obtain ⟨ha, hb⟩ := hbarb
    obtain ⟨t', heq, hbonus, hext, hcounts⟩ := syncAllianceChange_spec footprint s.tracker
      (VisionState.mk alliances s.tiles s.tracker) visionRadiusForPlayer hab ha hb allied callbacks
    refine ⟨t', heq, known_extends h.known hext, contribution_extends footprint h hbonus hext, ?_⟩
    intro v _ cell
    rw [hcounts v cell]
    have hor := hsynced ha hb
    have hshare : ∀ supplied, supplied = (if allied then callbacks.onEnter else callbacks.onLeave) →
        syncedShare footprint s.tiles t' supplied cell a
            = contribution footprint s.tiles s.tracker cell a
          ∧ syncedShare footprint s.tiles t' supplied cell b
            = contribution footprint s.tiles s.tracker cell b := by
      intro supplied hsupplied
      rw [← hsupplied] at hor
      exact ⟨syncedShare_eq_contribution footprint h hbonus hext ha
          (hor.imp id (·.1)) cell,
        syncedShare_eq_contribution footprint h hbonus hext hb
          (hor.imp id (·.2)) cell⟩
    cases allied with
    | true =>
        obtain ⟨hshareA, hshareB⟩ := hshare callbacks.onEnter rfl
        rw [if_pos rfl, if_pos rfl, hshareA, hshareB]
        by_cases hva : v = a
        · rw [if_neg (fun hvb => hab (hva.symm.trans hvb)), if_pos hva]
          omega
        · rw [if_neg hva, if_neg hva]
          omega
    | false =>
        obtain ⟨hshareA, hshareB⟩ := hshare callbacks.onLeave rfl
        rw [if_neg Bool.false_ne_true, if_neg Bool.false_ne_true, hshareA, hshareB]
        by_cases hva : v = a
        · rw [if_neg (fun hvb => hab (hva.symm.trans hvb)), if_pos hva]
          omega
        · rw [if_neg hva, if_neg hva]
          omega

/-- **An alliance change keeps the accounts** when the rings go with it. -/
theorem syncAlliance_accounted {s : VisionState W} (h : Accounted footprint s)
    (a b : PlayerId) (allied : Bool) (callbacks : VisibilityTransitionCallbacks)
    (visionRadiusForPlayer : PlayerId → Nat)
    (hsynced : RingsSynced footprint s
      ⟨.syncAlliance a b allied, callbacks, visionRadiusForPlayer⟩) :
    Accounted footprint
      (s.handleSyncAllianceCommand footprint a b allied callbacks visionRadiusForPlayer) := by
  unfold VisionState.handleSyncAllianceCommand
  split
  next la lb hla hlb =>
    split
    next _ => exact h
    next hab =>
      have hmutual := s.alliances.mutual
      have hfriendsA : s.alliances.alliesOf a = la := AllianceTable.alliesOf_eq hla
      have hfriendsB : s.alliances.alliesOf b = lb := AllianceTable.alliesOf_eq hlb
      have hboth : b ∈ la ↔ a ∈ lb := by
        rw [← hfriendsA, ← hfriendsB]
        exact AllianceTable.mem_alliesOf_comm
      -- what the two ally lists become
      set alliances := (if allied = true then s.alliances.ally hab hla hlb
        else s.alliances.unally hab hla hlb) with halliances
      have hread : ∀ p, alliances.alliesOf p
          = if p = a then (if allied then InsertionSet.add la b
              else la.filter (fun q => decide (q ≠ b)))
            else if p = b then (if allied then InsertionSet.add lb a
              else lb.filter (fun q => decide (q ≠ a)))
            else s.alliances.alliesOf p := by
        intro p
        rw [halliances]
        cases allied with
        | true => exact AllianceTable.alliesOf_ally s.alliances hab hla hlb p
        | false => exact AllianceTable.alliesOf_unally s.alliances hab hla hlb p
      have hreadA := (hread a).trans (if_pos rfl)
      have hreadB := ((hread b).trans (if_neg (fun hba => hab hba.symm))).trans (if_pos rfl)
      have hrest : ∀ p, p ≠ a → p ≠ b → alliances.alliesOf p = s.alliances.alliesOf p :=
        fun p hpa hpb => ((hread p).trans (if_neg hpa)).trans (if_neg hpb)
      dsimp only
      split
      next hchange =>
        have hchanges : ChangesAlliance s a b allied := by
          refine ⟨hab, ?_, ?_, ?_⟩
          · unfold InsertionMap.has
            rw [hla]
            rfl
          · unfold InsertionMap.has
            rw [hlb]
            rfl
          · rw [hfriendsA]
            exact hchange
        obtain ⟨t', heq, hknown, hsame, hcounts⟩ := syncAlliance_counts footprint h alliances
          visionRadiusForPlayer hab allied callbacks (hsynced hchanges)
        rw [heq]
        constructor
        · exact hknown
        · intro v hv cell
          show t'.cache.refcount v cell = Broadcast.received alliances.alliesOf
            (contribution footprint s.tiles t' cell) v
          rw [Broadcast.received_congr (hsame cell), hcounts v hv cell, h.counts v hv cell]
          cases allied with
          | true =>
              -- not allied before: each is appended to the other's list
              have hnot : b ∉ la := by
                intro hmem
                exact hchange (decide_eq_true hmem)
              have hnot' : a ∉ lb := fun hmem => hnot (hboth.mpr hmem)
              rw [if_pos rfl] at hreadA hreadB ⊢
              unfold InsertionSet.add at hreadA hreadB
              rw [if_neg hnot] at hreadA
              rw [if_neg hnot'] at hreadB
              exact (Broadcast.received_befriend (hfriendsA ▸ hreadA) (hfriendsB ▸ hreadB) hrest
                (contribution footprint s.tiles s.tracker cell) v).symm
          | false =>
              have hmem : b ∈ la := by
                by_contra hnot
                exact hchange (decide_eq_false hnot)
              rw [if_neg Bool.false_ne_true] at hreadA hreadB
              rw [if_neg Bool.false_ne_true]
              have hsum := Broadcast.received_unfriend hmutual (hfriendsA ▸ hmem)
                (hfriendsA ▸ hreadA) (hfriendsB ▸ hreadB) hrest
                (contribution footprint s.tiles s.tracker cell) v
              omega
      next hkeep =>
        -- the lists already said so: writing them again changes nothing
        have hsame : alliances.alliesOf = s.alliances.alliesOf := by
          funext p
          rw [not_not] at hkeep
          by_cases hpa : p = a
          · rw [hpa, hreadA, hfriendsA]
            cases allied with
            | true =>
                rw [if_pos rfl]
                unfold InsertionSet.add
                rw [if_pos (of_decide_eq_true hkeep)]
            | false =>
                rw [if_neg Bool.false_ne_true]
                apply List.filter_eq_self.mpr
                intro q hq
                apply decide_eq_true
                intro hqb
                exact of_decide_eq_false hkeep (hqb ▸ hq)
          · by_cases hpb : p = b
            · rw [hpb, hreadB, hfriendsB]
              cases allied with
              | true =>
                  rw [if_pos rfl]
                  unfold InsertionSet.add
                  rw [if_pos (hboth.mp (of_decide_eq_true hkeep))]
              | false =>
                  rw [if_neg Bool.false_ne_true]
                  apply List.filter_eq_self.mpr
                  intro q hq
                  apply decide_eq_true
                  intro hqa
                  exact of_decide_eq_false hkeep (hboth.mpr (hqa ▸ hq))
            · exact hrest p hpa hpb
        constructor
        · exact h.known
        · intro v hv cell
          show s.tracker.cache.refcount v cell = Broadcast.received alliances.alliesOf
            (contribution footprint s.tiles s.tracker cell) v
          rw [hsame]
          exact h.counts v hv cell
  next _ => exact h

/-! ## §5. Runs. -/

/-- **Every call keeps the accounts**, given that rings go with alliance
changes. -/
theorem apply_accounted {s : VisionState W} (h : Accounted footprint s) (call : VisionCall W)
    (hsynced : RingsSynced footprint s call) : Accounted footprint (s.apply footprint call) := by
  obtain ⟨op, callbacks, visionRadiusForPlayer⟩ := call
  cases op with
  | replaceTileState key next =>
      exact replaceTileState_accounted footprint h key next callbacks visionRadiusForPlayer
  | resyncVisionRadius playerId =>
      exact resyncVisionRadius_accounted footprint h playerId callbacks visionRadiusForPlayer
  | setVisionBonus kind sourceId key bonusRadius =>
      exact setVisionBonus_accounted footprint h kind sourceId key bonusRadius callbacks
        visionRadiusForPlayer
  | removeVisionBonus kind sourceId key =>
      exact removeVisionBonus_accounted footprint h kind sourceId key callbacks
        visionRadiusForPlayer
  | syncAlliance a b allied =>
      exact syncAlliance_accounted footprint h a b allied callbacks visionRadiusForPlayer hsynced

def VisionStep (s : VisionState W) (call : VisionCall W) (s' : VisionState W) : Prop :=
  s' = s.apply footprint call

/-- A call whose rings, if it changes an alliance, go with it. -/
def SyncedStep (s : VisionState W) (call : VisionCall W) (s' : VisionState W) : Prop :=
  RingsSynced footprint s call ∧ s' = s.apply footprint call

/-- The sources a player has: its tiles and its rings, with the radius
each projects at. -/
def sourcesOf (s : VisionState W) (p : PlayerId) : List (TileKey W × Nat) :=
  (settledTileKeysForPlayer s.tiles p).map (fun key => (key, usedRadius s.tracker.radiusBySource p))
    ++ (frontierTileKeysForPlayer s.tiles p).map (fun key => (key, FRONTIER_STANDING_VISION_RADIUS))
    ++ [BonusKind.town, .outpost, .observatory].flatMap
        (fun kind => (s.tracker.ringsOf kind p).entries)

/-- **The sources a viewer sees through now**: its own and its current
allies', barbarians excepted. -/
def currentSources (s : VisionState W) (viewerId : PlayerId) : List (TileKey W × Nat) :=
  (viewerId :: s.alliances.alliesOf viewerId).flatMap
    (fun p => if p.isBarbarian then [] else sourcesOf s p)

def covers (cell : TileKey W) (src : TileKey W × Nat) : Nat := (footprint src.1 src.2).count cell

theorem sum_sourcesOf (s : VisionState W) {p : PlayerId} (hp : p.isBarbarian = false)
    (cell : TileKey W) :
    ((sourcesOf s p).map (covers footprint cell)).sum
      = contribution footprint s.tiles s.tracker cell p := by
  rw [contribution_player footprint hp, territoryShare_split]
  have hring : ∀ kind, ((s.tracker.ringsOf kind p).entries.map (covers footprint cell)).sum
      = ringShare footprint (s.tracker.ringsOf kind p) cell := fun _ => rfl
  unfold sourcesOf bonusShare footprintsShare
  simp only [List.map_append, List.sum_append, List.map_map, List.flatMap_cons, List.flatMap_nil,
    List.append_nil, hring]
  simp only [Function.comp_def, covers]
  omega

theorem sum_currentSources (s : VisionState W) (viewerId : PlayerId) (cell : TileKey W) :
    ((currentSources s viewerId).map (covers footprint cell)).sum
      = Broadcast.received s.alliances.alliesOf (contribution footprint s.tiles s.tracker cell)
          viewerId := by
  unfold currentSources Broadcast.received Broadcast.audience
  induction viewerId :: s.alliances.alliesOf viewerId with
  | nil => rfl
  | cons p l ih =>
      rw [List.flatMap_cons, List.map_append, List.sum_append, ih, List.map_cons, List.sum_cons]
      cases hp : p.isBarbarian with
      | true =>
          rw [if_pos rfl, contribution_barbarian footprint hp]
          rfl
      | false =>
          rw [if_neg (by simp), sum_sourcesOf footprint s hp]

/-- **THE REFCOUNTS COUNT THE CURRENT SOURCES.**  Along every run whose
alliance changes carry their rings, a viewer's refcount at a cell is how
often its current sources cover it: the number of them over the cell when
no footprint lists a cell twice.  So it sees a cell exactly when one of
them covers it. -/
theorem refcounts_count_sources {alliances : AllianceTable} {calls : List (VisionCall W)}
    {s : VisionState W} (hrun : Run (SyncedStep footprint) (VisionState.boot alliances) calls s)
    (viewerId : PlayerId) (hviewer : viewerId.isBarbarian = false) (cell : TileKey W) :
    s.tracker.cache.refcount viewerId cell
        = ((currentSources s viewerId).map (covers footprint cell)).sum
      ∧ ((∀ src ∈ currentSources s viewerId, (footprint src.1 src.2).Nodup) →
          s.tracker.cache.refcount viewerId cell
            = (currentSources s viewerId).countP (fun src => cell ∈ footprint src.1 src.2))
      ∧ (s.tracker.cache.isVisible viewerId cell = true
          ↔ ∃ src ∈ currentSources s viewerId, cell ∈ footprint src.1 src.2) := by
  have hinv : Accounted footprint s := by
    refine Run.invariant (I := Accounted footprint) ?_ hrun (boot_accounted footprint alliances)
    intro s call t hs hstep
    rw [hstep.2]
    exact apply_accounted footprint hs call hstep.1
  have hcount : s.tracker.cache.refcount viewerId cell
      = ((currentSources s viewerId).map (covers footprint cell)).sum := by
    rw [sum_currentSources, hinv.counts viewerId hviewer cell]
  refine ⟨hcount, ?_, ?_⟩
  · intro hnodup
    rw [hcount]
    -- a footprint without repetition covers a cell once or not at all
    generalize currentSources s viewerId = sources at hnodup
    induction sources with
    | nil => rfl
    | cons src sources ih =>
        rw [List.map_cons, List.sum_cons, List.countP_cons,
          ih (fun src' h => hnodup src' (List.mem_cons_of_mem _ h))]
        unfold covers
        rw [List.Nodup.count (hnodup src List.mem_cons_self)]
        simp only [decide_eq_true_eq]
        omega
  · rw [VisibilityCoverageCache.isVisible_iff, hcount, List.sum_pos_iff_exists_pos_nat]
    constructor
    · rintro ⟨n, hn, hpos⟩
      obtain ⟨src, hsrc, rfl⟩ := List.mem_map.mp hn
      exact ⟨src, hsrc, List.count_pos_iff.mp hpos⟩
    · rintro ⟨src, hsrc, hcell⟩
      exact ⟨covers footprint cell src, List.mem_map_of_mem hsrc, List.count_pos_iff.mpr hcell⟩

/-! ## §6. Two runs. -/

/-- The smallest footprint: a source sees its own tile. -/
def ownTile (key : TileKey W) (_ : Nat) : List (TileKey W) := [key]

def townTile : TileKey smallestWorld := wrappedTile smallestWorld 10 10

/-- Player one sets a town ring, then allies with player two; the alliance
call is made with the callbacks given. -/
def ringThenAlliance (callbacks : VisibilityTransitionCallbacks) :
    List (VisionCall smallestWorld) :=
  [⟨.setVisionBonus .town playerOne townTile 3, .none, fun _ => 2⟩,
    ⟨.syncAlliance playerOne playerTwo true, callbacks, fun _ => 2⟩]

def afterRing : VisionState smallestWorld :=
  (VisionState.boot (AllianceTable.strangers [playerOne, playerTwo])).apply ownTile
    ⟨.setVisionBonus .town playerOne townTile 3, .none, fun _ => 2⟩

def afterAlliance (callbacks : VisibilityTransitionCallbacks) : VisionState smallestWorld :=
  afterRing.apply ownTile ⟨.syncAlliance playerOne playerTwo true, callbacks, fun _ => 2⟩

/-- With both callbacks the new ally sees the town. -/
theorem refcounts_count_sources_ring :
    (afterAlliance ⟨true, true⟩).tracker.cache.refcount playerTwo townTile = 1
      ∧ (afterAlliance ⟨true, true⟩).tracker.cache.refcount playerTwo townTile
        = ((currentSources (afterAlliance ⟨true, true⟩) playerTwo).map
            (covers ownTile townTile)).sum := by
  have hring : SyncedStep ownTile
      (VisionState.boot (AllianceTable.strangers [playerOne, playerTwo]))
      ⟨.setVisionBonus .town playerOne townTile 3, .none, fun _ => 2⟩ afterRing := ⟨trivial, rfl⟩
  have halliance : SyncedStep ownTile afterRing
      ⟨.syncAlliance playerOne playerTwo true, ⟨true, true⟩, fun _ => 2⟩
      (afterAlliance ⟨true, true⟩) := ⟨fun _ _ _ => Or.inl rfl, rfl⟩
  exact ⟨by decide, (refcounts_count_sources ownTile
    (.cons hring (.cons halliance (.nil _))) playerTwo (by decide) townTile).1⟩

/-- **Without callbacks the ring is not handed over**: the new ally counts
nothing over the town, though one of its sources covers it. -/
theorem alliance_without_callbacks_drops_ring :
    Run (VisionStep ownTile)
        (VisionState.boot (AllianceTable.strangers [playerOne, playerTwo]))
        (ringThenAlliance .none) (afterAlliance .none)
      ∧ (afterAlliance .none).tracker.cache.refcount playerTwo townTile = 0
      ∧ (currentSources (afterAlliance .none) playerTwo).countP
          (fun src => townTile ∈ ownTile src.1 src.2) = 1 := by
  have hring : VisionStep ownTile
      (VisionState.boot (AllianceTable.strangers [playerOne, playerTwo]))
      ⟨.setVisionBonus .town playerOne townTile 3, .none, fun _ => 2⟩ afterRing := rfl
  have halliance : VisionStep ownTile afterRing
      ⟨.syncAlliance playerOne playerTwo true, .none, fun _ => 2⟩ (afterAlliance .none) := rfl
  exact ⟨.cons hring (.cons halliance (.nil _)), by decide, by decide⟩

end BorderEmpires.Vision
