/-
  BorderEmpires.Reach.BorderRuns
  **THE BORDER OVER WHOLE RUNS.**

  A run activates and deactivates reach anchors in any order over a fixed
  terrain.  The border is path dependent — first claim stands, guaranteed
  zones override, deactivation hands over to a rival — yet in every state
  it selects, for each tile, one of the owners whose live anchors cover
  it: `border_owner_iff_covered`.
-/
import BorderEmpires.Lib.Run
import BorderEmpires.Lib.Selection
import BorderEmpires.Reach.Border

namespace BorderEmpires

variable {W : WorldSize}

/-! ## §1. States and events. -/

/-- The border, the anchors live right now, and every overtaken tile so far. -/
structure ReachState (W : WorldSize) where
  border : ReachBorder W
  active : List ReachAnchor
  allOvertaken : List (OvertakenTile W)

def ReachState.initial : ReachState W := ⟨InsertionMap.empty, [], []⟩

/-- The ACTIVATE arm of `applyAnchorEvents`: the anchor is live before its
own grant; `settledOwnerAt` is the runtime's optional lookup. -/
def ReachState.activate (landConnectivity : Option (LandConnectivityQuery W))
    (s : ReachState W) (anchor : ReachAnchor)
    (settledOwnerAt : TileKey W → Option PlayerId) : ReachState W :=
  let active := s.active ++ [anchor]
  let result := grantAnchorToBorderInPlace s.border anchor
    (fun ownerId => liveReachForOwner ownerId active landConnectivity) settledOwnerAt
    landConnectivity
  ⟨result.1, active, s.allOvertaken ++ result.2⟩

/-- A deactivation: the anchor is gone, and its disk is reassessed against
the live reach that remains. -/
def ReachState.deactivate (landConnectivity : Option (LandConnectivityQuery W))
    (s : ReachState W) (anchor : ReachAnchor) (rivalOwnerIds : List PlayerId) :
    ReachState W :=
  let active := s.active.erase anchor
  let result := reassessBorderOnAnchorDeactivationInPlace s.border anchor
    (liveReachForOwner anchor.ownerId active landConnectivity)
    (fun rivalId => liveReachForOwner rivalId active landConnectivity) rivalOwnerIds
    landConnectivity
  ⟨result.1, active, s.allOvertaken ++ result.2⟩

theorem ReachState.activate_get (landConnectivity : Option (LandConnectivityQuery W))
    (s : ReachState W) (anchor : ReachAnchor) (settledOwnerAt : TileKey W → Option PlayerId)
    (k : TileKey W) :
    (s.activate landConnectivity anchor settledOwnerAt).border.get k
      = if k ∈ tileKeysInReach anchor landConnectivity
        then grantedOwner anchor
          (fun o => liveReachForOwner o (s.active ++ [anchor]) landConnectivity)
          settledOwnerAt k (s.border.get k)
        else s.border.get k :=
  grantAnchorToBorderInPlace_get anchor _ settledOwnerAt s.border landConnectivity k

theorem ReachState.deactivate_get (landConnectivity : Option (LandConnectivityQuery W))
    (s : ReachState W) (anchor : ReachAnchor) (rivalOwnerIds : List PlayerId) (k : TileKey W) :
    (s.deactivate landConnectivity anchor rivalOwnerIds).border.get k
      = if k ∈ tileKeysInReach anchor landConnectivity
        then reassessedOwner anchor
          (liveReachForOwner anchor.ownerId (s.active.erase anchor) landConnectivity)
          (fun o => liveReachForOwner o (s.active.erase anchor) landConnectivity)
          rivalOwnerIds k (s.border.get k)
        else s.border.get k :=
  reassessBorderOnAnchorDeactivationInPlace_get anchor _ _ rivalOwnerIds s.border
    landConnectivity k

inductive ReachEvent (W : WorldSize) where
  | activate (anchor : ReachAnchor) (settledOwnerAt : TileKey W → Option PlayerId)
  | deactivate (anchor : ReachAnchor) (rivalOwnerIds : List PlayerId)

/-- One event.  A deactivation is given every owner with live anchors as
rivals, in any order. -/
inductive ReachStep (landConnectivity : Option (LandConnectivityQuery W)) :
    ReachState W → ReachEvent W → ReachState W → Prop
  | activate (s : ReachState W) (anchor : ReachAnchor)
      (settledOwnerAt : TileKey W → Option PlayerId) :
      ReachStep landConnectivity s (.activate anchor settledOwnerAt)
        (s.activate landConnectivity anchor settledOwnerAt)
  | deactivate (s : ReachState W) (anchor : ReachAnchor) (rivalOwnerIds : List PlayerId)
      (rivals_complete : ∀ a ∈ s.active.erase anchor, a.ownerId ∈ rivalOwnerIds) :
      ReachStep landConnectivity s (.deactivate anchor rivalOwnerIds)
        (s.deactivate landConnectivity anchor rivalOwnerIds)

/-- The live anchors after an event. -/
def ReachEvent.live (active : List ReachAnchor) : ReachEvent W → List ReachAnchor
  | .activate anchor _ => active ++ [anchor]
  | .deactivate anchor _ => active.erase anchor

/-! ## §2. The invariant. -/

/-- Some live anchor of `o` covers the tile. -/
def Covers (landConnectivity : Option (LandConnectivityQuery W)) (active : List ReachAnchor)
    (key : TileKey W) (o : PlayerId) : Prop :=
  ∃ anchor ∈ active, anchor.ownerId = o ∧ key ∈ tileKeysInReach anchor landConnectivity

def BorderInv (landConnectivity : Option (LandConnectivityQuery W)) (s : ReachState W) : Prop :=
  Selects (Covers landConnectivity s.active) s.border.get

variable {landConnectivity : Option (LandConnectivityQuery W)}

theorem mem_liveReach_iff_covers {active : List ReachAnchor} {key : TileKey W} {o : PlayerId} :
    key ∈ liveReachForOwner o active landConnectivity ↔ Covers landConnectivity active key o :=
  mem_liveReachForOwner_iff

theorem covers_append_iff {active : List ReachAnchor} {anchor : ReachAnchor}
    {key : TileKey W} {o : PlayerId} :
    Covers landConnectivity (active ++ [anchor]) key o
      ↔ Covers landConnectivity active key o
        ∨ (anchor.ownerId = o ∧ key ∈ tileKeysInReach anchor landConnectivity) := by
  constructor
  · rintro ⟨a, ha, hcov⟩
    rcases List.mem_append.mp ha with ha | ha
    · exact Or.inl ⟨a, ha, hcov⟩
    · rw [List.mem_singleton.mp ha] at hcov
      exact Or.inr hcov
  · intro h
    rcases h with ⟨a, ha, hcov⟩ | hcov
    · exact ⟨a, List.mem_append_left _ ha, hcov⟩
    · exact ⟨anchor, List.mem_append_right _ (List.mem_singleton.mpr rfl), hcov⟩

/-- A grant gives the tile to the anchor's owner, or leaves it because a
rival holder defends it. -/
theorem grantedOwner_cases (anchor : ReachAnchor) (defenderLiveReach : PlayerId → List (TileKey W))
    (settledOwnerAt : TileKey W → Option PlayerId) (key : TileKey W)
    (existing : Option PlayerId) :
    grantedOwner anchor defenderLiveReach settledOwnerAt key existing = some anchor.ownerId
      ∨ (grantedOwner anchor defenderLiveReach settledOwnerAt key existing = existing
        ∧ ∃ holder, existing.or (settledOwnerAt key) = some holder
          ∧ holder ≠ anchor.ownerId ∧ key ∉ guaranteedTileKeys W anchor
          ∧ key ∈ defenderLiveReach holder) := by
  unfold grantedOwner
  cases hh : existing.or (settledOwnerAt key) with
  | none => exact Or.inl rfl
  | some holder =>
      dsimp only
      split
      next hd => exact Or.inr ⟨rfl, holder, rfl, hd⟩
      next hd => exact Or.inl rfl

/-- **Activation keeps the border a selection.** -/
theorem borderInv_activate {s : ReachState W} (h : BorderInv landConnectivity s)
    (anchor : ReachAnchor) (settledOwnerAt : TileKey W → Option PlayerId) :
    BorderInv landConnectivity (s.activate landConnectivity anchor settledOwnerAt) := by
  have hget := s.activate_get landConnectivity anchor settledOwnerAt
  have hmono : ∀ k o, Covers landConnectivity s.active k o →
      Covers landConnectivity (s.active ++ [anchor]) k o := by
    intro k o hc
    exact covers_append_iff.mpr (Or.inl hc)
  refine Selects.grow h hmono ?_ ?_ ?_
  · -- a holder is the former one or the anchor's owner
    intro k o ho
    rw [hget] at ho
    split at ho
    next hk =>
      rcases grantedOwner_cases anchor _ settledOwnerAt k (s.border.get k) with hg | ⟨hg, _⟩
      · rw [hg] at ho
        cases ho
        exact Or.inr (covers_append_iff.mpr (Or.inr ⟨rfl, hk⟩))
      · exact Or.inl (hg ▸ ho)
    next hk => exact Or.inl ho
  · -- a tile left alone was covered before, or its defender was
    intro k o hc heq
    rcases covers_append_iff.mp hc with hc | ⟨hown, hk⟩
    · exact Or.inl hc
    · rw [hget, if_pos hk] at heq
      rcases grantedOwner_cases anchor
        (fun p => liveReachForOwner p (s.active ++ [anchor]) landConnectivity)
        settledOwnerAt k (s.border.get k) with hg | ⟨_, holder, _, hne, _, hdef⟩
      · exact Or.inr ⟨anchor.ownerId, by rw [← heq, hg]⟩
      · rcases covers_append_iff.mp (mem_liveReach_iff_covers.mp hdef) with hc' | ⟨heq', _⟩
        · exact Or.inr (h.total k holder hc')
        · exact absurd heq'.symm hne
  · intro k
    rw [hget]
    split
    next hk =>
      rcases grantedOwner_cases anchor
        (fun p => liveReachForOwner p (s.active ++ [anchor]) landConnectivity)
        settledOwnerAt k (s.border.get k) with hg | ⟨hg, _⟩
      · exact Or.inr ⟨anchor.ownerId, hg⟩
      · exact Or.inl hg
    next hk => exact Or.inl rfl

/-- **Deactivation keeps the border a selection.** -/
theorem borderInv_deactivate {s : ReachState W} (h : BorderInv landConnectivity s)
    (anchor : ReachAnchor) (rivalOwnerIds : List PlayerId)
    (hrivals : ∀ a ∈ s.active.erase anchor, a.ownerId ∈ rivalOwnerIds) :
    BorderInv landConnectivity (s.deactivate landConnectivity anchor rivalOwnerIds) := by
  have hget := s.deactivate_get landConnectivity anchor rivalOwnerIds
  have hmono : ∀ k o, Covers landConnectivity (s.active.erase anchor) k o →
      Covers landConnectivity s.active k o := by
    rintro k o ⟨a, ha, hcov⟩
    exact ⟨a, List.mem_of_mem_erase ha, hcov⟩
  refine Selects.shrink h hmono ?_ ?_ ?_
  · -- a holder that still covers is not the deactivated owner, or is self-covered
    intro k o ho hc
    rw [hget]
    split
    next hk =>
      unfold reassessedOwner
      rw [if_neg, ho]
      rintro ⟨hown, hlive⟩
      rw [ho] at hown
      cases hown
      exact hlive (mem_liveReach_iff_covers.mpr hc)
    next hk => exact ho
  · -- a holder that lost its cover is the deactivated owner, inside the disk
    intro k o ho hnc
    obtain ⟨a, ha, hao, hak⟩ := h.sound k o ho
    have haeq : a = anchor := by
      by_contra hne
      exact hnc ⟨a, (List.mem_erase_of_ne hne).mpr ha, hao, hak⟩
    subst haeq
    subst hao
    have hlive : k ∉ liveReachForOwner a.ownerId (s.active.erase a) landConnectivity :=
      fun hmem => hnc (mem_liveReach_iff_covers.mp hmem)
    rw [hget, if_pos hak]
    unfold reassessedOwner
    rw [if_pos ⟨ho, hlive⟩]
    constructor
    · intro o' ho'
      have hp := List.find?_some ho'
      rw [Bool.and_eq_true, decide_eq_true_eq, decide_eq_true_eq] at hp
      exact mem_liveReach_iff_covers.mp hp.2
    · rintro ⟨o', hc'⟩
      obtain ⟨b, hb, hbo, hbk⟩ := hc'
      have hne : o' ≠ a.ownerId := by
        intro heq
        subst heq
        exact hnc ⟨b, hb, hbo, hbk⟩
      have hsome : (rivalOwnerIds.find? (fun rivalId => decide (rivalId ≠ a.ownerId)
          && decide (k ∈ liveReachForOwner rivalId (s.active.erase a)
            landConnectivity))).isSome = true := by
        rw [List.find?_isSome]
        refine ⟨o', hbo ▸ hrivals b hb, ?_⟩
        rw [Bool.and_eq_true, decide_eq_true_eq, decide_eq_true_eq]
        exact ⟨hne, mem_liveReach_iff_covers.mpr ⟨b, hb, hbo, hbk⟩⟩
      exact Option.isSome_iff_exists.mp hsome
  · intro k hk
    rw [hget]
    split
    next hk' =>
      unfold reassessedOwner
      rw [if_neg, hk]
      rintro ⟨hown, _⟩
      rw [hk] at hown
      cases hown
    next hk' => exact hk

theorem borderInv_initial : BorderInv landConnectivity (ReachState.initial : ReachState W) where
  sound := by
    intro k o ho
    cases ho
  total := by
    rintro k o ⟨a, ha, _⟩
    cases ha

theorem borderInv_step (s : ReachState W) (ev : ReachEvent W) (t : ReachState W)
    (h : BorderInv landConnectivity s) (hstep : ReachStep landConnectivity s ev t) :
    BorderInv landConnectivity t := by
  cases hstep with
  | activate anchor settledOwnerAt => exact borderInv_activate h anchor settledOwnerAt
  | deactivate anchor rivals hrivals => exact borderInv_deactivate h anchor rivals hrivals

theorem borderInv_run {events : List (ReachEvent W)} {s : ReachState W}
    (hrun : Run (ReachStep landConnectivity) ReachState.initial events s) :
    BorderInv landConnectivity s :=
  hrun.invariant borderInv_step borderInv_initial

/-! ## §3. The border theorem. -/

theorem active_run {events : List (ReachEvent W)} {s : ReachState W}
    (hrun : Run (ReachStep landConnectivity) ReachState.initial events s) :
    s.active = events.foldl ReachEvent.live [] := by
  refine hrun.part_foldl (fun s event t hstep => ?_)
  cases hstep <;> rfl

/-- **The border over every run**: the live anchors are those activated and
not deactivated since, a tile has an owner exactly when one of them covers it,
and its owner has one that covers it. -/
theorem border_owner_iff_covered (landConnectivity : Option (LandConnectivityQuery W))
    (events : List (ReachEvent W)) (s : ReachState W)
    (hrun : Run (ReachStep landConnectivity) ReachState.initial events s) (key : TileKey W) :
    s.active = events.foldl ReachEvent.live []
      ∧ ((∃ o, s.border.get key = some o)
        ↔ ∃ anchor ∈ s.active, key ∈ tileKeysInReach anchor landConnectivity)
      ∧ ∀ o, s.border.get key = some o →
          ∃ anchor ∈ s.active, anchor.ownerId = o
            ∧ key ∈ tileKeysInReach anchor landConnectivity := by
  have hinv := borderInv_run hrun
  refine ⟨active_run hrun, ?_, fun o ho => hinv.sound key o ho⟩
  rw [hinv.held_iff]
  constructor
  · rintro ⟨o, a, ha, _, hk⟩
    exact ⟨a, ha, hk⟩
  · rintro ⟨a, ha, hk⟩
    exact ⟨a.ownerId, a, ha, rfl, hk⟩

/-- A town, a rival dock inside its disk, and the town lost again: the
hand-over run meets the theorem. -/
theorem border_owner_iff_covered_handover :
    let town := ReachAnchor.plain 10 10 playerOne 1 .TOWN
    let dock := ReachAnchor.plain 11 10 playerTwo 2 .DOCK
    let s := ((((ReachState.initial : ReachState smallestWorld).activate none town
      (fun _ => none)).activate none dock (fun _ => none)).deactivate none town [playerTwo])
    let key := wrappedTile smallestWorld 12 11
    s.active = [dock]
      ∧ ((∃ o, s.border.get key = some o) ↔ ∃ anchor ∈ s.active, key ∈ tileKeysInReach anchor none)
      ∧ ∀ o, s.border.get key = some o →
          ∃ anchor ∈ s.active, anchor.ownerId = o ∧ key ∈ tileKeysInReach anchor none :=
  border_owner_iff_covered none
    [.activate (ReachAnchor.plain 10 10 playerOne 1 .TOWN) (fun _ => none),
      .activate (ReachAnchor.plain 11 10 playerTwo 2 .DOCK) (fun _ => none),
      .deactivate (ReachAnchor.plain 10 10 playerOne 1 .TOWN) [playerTwo]] _
    (.cons (.activate _ _ _) (.cons (.activate _ _ _)
      (.cons (.deactivate _ _ _ (by decide)) (.nil _)))) _

end BorderEmpires
