/-
  BorderEmpires.Reach.Restore
  **RESTORING THE BORDER AT BOOT.**

  `restoreReachBorder` starts from the persisted border, drops what its
  owner no longer covers, and replays every live anchor, earliest first,
  through the normal activation path.  A restored tile stays put under an
  ordinary replayed anchor, since its holder still defends it — but not
  under one that guarantees the tile: such an anchor takes it whatever
  the defence, and unsettles it on the way.
-/
import Mathlib.Data.List.Sort
import BorderEmpires.Lib.Succession
import BorderEmpires.Reach.Apply
import BorderEmpires.Reach.BorderRuns

namespace BorderEmpires

variable {W : WorldSize}

/-! ## §1. The restore. -/

/-- What the boot pass reads and writes: the border, what
`gatherReachAnchors` returns now, the tiles. -/
structure RestoreState (W : WorldSize) where
  border : ReachBorder W
  anchors : List ReachAnchor
  tileOwnership : TileKey W → Option TileOwnership

/-- The border after the restore, the tiles it unsettled in order, and how
many persisted entries it dropped. -/
structure RestoreResult (W : WorldSize) where
  border : ReachBorder W
  unsettled : List (TileKey W)
  dropped : Nat

/-- The starting border: the persisted entries their owners still cover,
or, without any, the owned tiles their owners cover. -/
def startBorder (landConnectivity : Option (LandConnectivityQuery W))
    (anchors : List ReachAnchor) (persisted : Option (ReachBorder W))
    (tiles : InsertionMap (TileKey W) TileOwnership) : ReachBorder W × Nat :=
  match persisted with
  | some border =>
      border.entries.foldl (fun st e =>
        if !e.2.isBarbarian && decide (e.1 ∈ liveReachForOwner e.2 anchors landConnectivity)
        then (st.1.set e.1 e.2, st.2)
        else (st.1, st.2 + 1)) (InsertionMap.empty, 0)
  | none =>
      (tiles.entries.foldl (fun start e =>
        match e.2.ownerId with
        | some ownerId =>
            if !ownerId.isBarbarian
                && decide (e.1 ∈ liveReachForOwner ownerId anchors landConnectivity)
            then start.set e.1 ownerId
            else start
        | none => start) InsertionMap.empty, 0)

section Replay

variable (landConnectivity : Option (LandConnectivityQuery W))
  (downgradeToFrontier : RestoreState W → TileKey W → RestoreState W)

/-- One turn of `settleOvertaken`: the downgrade runs in the runtime, which
may re-enter; the tile is logged as unsettled. -/
def settleOvertakenTile (st : RestoreState W × List (TileKey W)) (o : OvertakenTile W) :
    RestoreState W × List (TileKey W) :=
  if unsettles st.1.tileOwnership o then
    (downgradeToFrontier st.1 o.tileKey, st.2 ++ [o.tileKey])
  else st

/-- One replayed anchor; neutral auto-claim is skipped at boot. -/
def replayAnchor (st : RestoreState W × List (TileKey W)) (anchor : ReachAnchor) :
    RestoreState W × List (TileKey W) :=
  let m := mutateForActivation landConnectivity st.1.border anchor st.1.anchors
    st.1.tileOwnership
  m.overtaken.foldl (settleOvertakenTile downgradeToFrontier)
    ({ st.1 with border := m.border }, st.2)

/-- `[...anchors].sort((left, right) => left.activatedAt - right.activatedAt)`,
which is stable. -/
def orderedAnchors (anchors : List ReachAnchor) : List ReachAnchor :=
  anchors.insertionSort (fun left right => left.activatedAt ≤ right.activatedAt)

def restoreReachBorder (persisted : Option (ReachBorder W))
    (tiles : InsertionMap (TileKey W) TileOwnership) (gathered : List ReachAnchor) :
    RestoreResult W :=
  let start := startBorder landConnectivity gathered persisted tiles
  let final := (orderedAnchors gathered).foldl
    (replayAnchor landConnectivity downgradeToFrontier)
    (⟨start.1, gathered, tiles.get⟩, [])
  ⟨final.1.border, final.2, start.2⟩

end Replay

/-- **The restore keeps a border**: no tile dropped, none handed over, none
unsettled. -/
structure RestoreKeeps (border : ReachBorder W) (result : RestoreResult W) : Prop where
  border_eq : ∀ key, result.border.get key = border.get key
  unsettled_nil : result.unsettled = []
  dropped_zero : result.dropped = 0

/-! ## §2. One tile under one replayed anchor. -/

def Guarantees (landConnectivity : Option (LandConnectivityQuery W)) (anchor : ReachAnchor)
    (key : TileKey W) : Prop :=
  key ∈ tileKeysInReach anchor landConnectivity ∧ key ∈ guaranteedTileKeys W anchor

instance (landConnectivity : Option (LandConnectivityQuery W)) (anchor : ReachAnchor)
    (key : TileKey W) : Decidable (Guarantees landConnectivity anchor key) :=
  inferInstanceAs (Decidable (_ ∧ _))

/-- The owners who take a tile in turn while the anchors are replayed. -/
def claimants (landConnectivity : Option (LandConnectivityQuery W))
    (anchors : List ReachAnchor) (key : TileKey W) : List PlayerId :=
  (anchors.filter (fun a => decide (Guarantees landConnectivity a key))).map
    ReachAnchor.ownerId

variable {landConnectivity : Option (LandConnectivityQuery W)}

theorem mem_claimants_iff {anchors : List ReachAnchor} {key : TileKey W} {o : PlayerId} :
    o ∈ claimants landConnectivity anchors key
      ↔ ∃ a ∈ anchors, Guarantees landConnectivity a key ∧ a.ownerId = o := by
  unfold claimants
  simp only [List.mem_map, List.mem_filter, decide_eq_true_eq, and_assoc]

theorem claimants_cons (anchor : ReachAnchor) (anchors : List ReachAnchor) (key : TileKey W) :
    claimants landConnectivity (anchor :: anchors) key
      = claimants landConnectivity [anchor] key ++ claimants landConnectivity anchors key := by
  unfold claimants
  rw [← List.map_append, ← List.filter_append]
  rfl

theorem claimants_of_guarantees {anchor : ReachAnchor} {key : TileKey W}
    (h : Guarantees landConnectivity anchor key) :
    claimants landConnectivity [anchor] key = [anchor.ownerId] := by
  unfold claimants
  rw [List.filter_cons, if_pos (decide_eq_true h)]
  rfl

theorem claimants_of_not_guarantees {anchor : ReachAnchor} {key : TileKey W}
    (h : ¬ Guarantees landConnectivity anchor key) :
    claimants landConnectivity [anchor] key = [] := by
  unfold claimants
  rw [List.filter_cons, if_neg (by simpa using h)]
  rfl

/-- The holder of a tile after one replayed anchor, over a border in which
every holder still covers its tile. -/
theorem mutateForActivation_get {anchors : List ReachAnchor} {border : ReachBorder W}
    (hsel : Selects (Covers landConnectivity anchors) border.get) {anchor : ReachAnchor}
    (hmem : anchor ∈ anchors) (own : TileKey W → Option TileOwnership) (key : TileKey W) :
    (mutateForActivation landConnectivity border anchor anchors own).border.get key
      = (border.get key).map
          (fun h => (claimants landConnectivity [anchor] key).getLastD h) := by
  unfold mutateForActivation
  dsimp only
  rw [grantAnchorToBorderInPlace_get]
  by_cases hk : key ∈ tileKeysInReach anchor landConnectivity
  · rw [if_pos hk]
    obtain ⟨h, hh⟩ := hsel.total key anchor.ownerId ⟨anchor, hmem, rfl, hk⟩
    have hlive : key ∈ liveReachForOwner h anchors landConnectivity :=
      mem_liveReach_iff_covers.mpr (hsel.sound key h hh)
    unfold grantedOwner
    rw [hh, Option.some_or, Option.map_some]
    dsimp only
    by_cases hg : key ∈ guaranteedTileKeys W anchor
    · rw [if_neg (fun hc => hc.2.1 hg), claimants_of_guarantees ⟨hk, hg⟩]
      rfl
    · rw [claimants_of_not_guarantees (fun hc => hg hc.2), List.getLastD_nil]
      by_cases ho : h = anchor.ownerId
      · rw [if_neg (fun hc => hc.1 ho), ho]
      · rw [if_pos ⟨ho, hg, hlive⟩]
  · rw [if_neg hk, claimants_of_not_guarantees (fun hc => hk hc.1)]
    cases border.get key with
    | none => rfl
    | some h => rfl

theorem mem_mutateForActivation_overtaken {anchors : List ReachAnchor}
    {border : ReachBorder W} (hsel : Selects (Covers landConnectivity anchors) border.get)
    {anchor : ReachAnchor} (hmem : anchor ∈ anchors)
    (own : TileKey W → Option TileOwnership) (o : OvertakenTile W) :
    o ∈ (mutateForActivation landConnectivity border anchor anchors own).overtaken
      ↔ o.toOwnerId = some anchor.ownerId ∧ ∃ h, border.get o.tileKey = some h
          ∧ o.fromOwnerId ∈ Succession.losers h
              (claimants landConnectivity [anchor] o.tileKey) := by
  unfold mutateForActivation
  dsimp only
  rw [mem_grantAnchorToBorderInPlace_overtaken]
  constructor
  · rintro ⟨hk, hto, hfrom⟩
    obtain ⟨h, hh⟩ := hsel.total o.tileKey anchor.ownerId ⟨anchor, hmem, rfl, hk⟩
    have hlive : o.tileKey ∈ liveReachForOwner h anchors landConnectivity :=
      mem_liveReach_iff_covers.mpr (hsel.sound o.tileKey h hh)
    unfold displacedOwner at hfrom
    rw [hh, Option.some_or] at hfrom
    dsimp only at hfrom
    split at hfrom
    next hc =>
      cases hfrom
      have hg : o.tileKey ∈ guaranteedTileKeys W anchor := by
        rcases hc.2 with hg | hnl
        · exact hg
        · exact absurd hlive hnl
      refine ⟨hto, o.fromOwnerId, hh, ?_⟩
      rw [claimants_of_guarantees ⟨hk, hg⟩, Succession.losers, if_neg (fun heq => hc.1 heq.symm)]
      exact List.mem_cons_self
    next hc => cases hfrom
  · rintro ⟨hto, h, hh, hfrom⟩
    by_cases hg : Guarantees landConnectivity anchor o.tileKey
    · rw [claimants_of_guarantees hg, Succession.losers] at hfrom
      split at hfrom
      next heq => cases hfrom
      next hne =>
        rw [Succession.losers, List.mem_singleton] at hfrom
        refine ⟨hg.1, hto, ?_⟩
        unfold displacedOwner
        rw [hh, Option.some_or]
        dsimp only
        rw [if_pos ⟨fun heq => hne heq.symm, Or.inl hg.2⟩, hfrom]
    · rw [claimants_of_not_guarantees hg] at hfrom
      cases hfrom

theorem selects_mutateForActivation {anchors : List ReachAnchor} {border : ReachBorder W}
    (hsel : Selects (Covers landConnectivity anchors) border.get) {anchor : ReachAnchor}
    (hmem : anchor ∈ anchors) (own : TileKey W → Option TileOwnership) :
    Selects (Covers landConnectivity anchors)
      (mutateForActivation landConnectivity border anchor anchors own).border.get where
  sound := by
    intro key o ho
    rw [mutateForActivation_get hsel hmem, Option.map_eq_some_iff] at ho
    obtain ⟨h, hh, hlast⟩ := ho
    by_cases hg : Guarantees landConnectivity anchor key
    · rw [claimants_of_guarantees hg] at hlast
      exact ⟨anchor, hmem, hlast, hg.1⟩
    · rw [claimants_of_not_guarantees hg] at hlast
      exact (show h = o from hlast) ▸ hsel.sound key h hh
  total := by
    intro key o hc
    obtain ⟨h, hh⟩ := hsel.total key o hc
    rw [mutateForActivation_get hsel hmem, hh]
    exact ⟨_, rfl⟩

/-! ## §3. The log of unsettled tiles. -/

variable (downgradeToFrontier : RestoreState W → TileKey W → RestoreState W)

/-- `x` has the tile SETTLED and is no barbarian. -/
def SettledBy (own : TileKey W → Option TileOwnership) (key : TileKey W) (x : PlayerId) : Prop :=
  unsettles own ⟨key, x, none⟩ = true

theorem settleOvertaken_quiet (overtaken : List (OvertakenTile W))
    (st : RestoreState W × List (TileKey W))
    (h : ∀ o ∈ overtaken, unsettles st.1.tileOwnership o = false) :
    overtaken.foldl (settleOvertakenTile downgradeToFrontier) st = st := by
  induction overtaken with
  | nil => rfl
  | cons o os ih =>
      have ho : settleOvertakenTile downgradeToFrontier st o = st := by
        unfold settleOvertakenTile
        rw [h o List.mem_cons_self]
        rfl
      rw [List.foldl_cons, ho]
      exact ih (fun o' ho' => h o' (List.mem_cons_of_mem _ ho'))

theorem settleOvertaken_length_le (overtaken : List (OvertakenTile W)) :
    ∀ st : RestoreState W × List (TileKey W),
      st.2.length ≤ (overtaken.foldl (settleOvertakenTile downgradeToFrontier) st).2.length := by
  induction overtaken with
  | nil =>
      intro st
      exact Nat.le_refl _
  | cons o os ih =>
      intro st
      refine Nat.le_trans ?_ (ih _)
      unfold settleOvertakenTile
      split
      · simp
      · exact Nat.le_refl _

theorem settleOvertaken_noisy (overtaken : List (OvertakenTile W))
    (st : RestoreState W × List (TileKey W))
    (h : ∃ o ∈ overtaken, unsettles st.1.tileOwnership o = true) :
    st.2.length < (overtaken.foldl (settleOvertakenTile downgradeToFrontier) st).2.length := by
  induction overtaken with
  | nil =>
      obtain ⟨o, ho, _⟩ := h
      cases ho
  | cons o os ih =>
      rw [List.foldl_cons]
      by_cases hu : unsettles st.1.tileOwnership o = true
      · -- the first such tile is logged, and the log never shrinks
        refine Nat.lt_of_lt_of_le ?_ (settleOvertaken_length_le downgradeToFrontier os _)
        unfold settleOvertakenTile
        rw [if_pos hu]
        simp
      · have ho : settleOvertakenTile downgradeToFrontier st o = st := by
          unfold settleOvertakenTile
          rw [if_neg hu]
        rw [ho]
        apply ih
        obtain ⟨o', ho', hu'⟩ := h
        rcases List.mem_cons.mp ho' with heq | hmem
        · exact absurd (heq ▸ hu') hu
        · exact ⟨o', hmem, hu'⟩

theorem replay_length_le (anchors : List ReachAnchor) :
    ∀ st : RestoreState W × List (TileKey W),
      st.2.length
        ≤ (anchors.foldl (replayAnchor landConnectivity downgradeToFrontier) st).2.length := by
  induction anchors with
  | nil =>
      intro st
      exact Nat.le_refl _
  | cons a l ih =>
      intro st
      refine Nat.le_trans ?_ (ih _)
      exact settleOvertaken_length_le downgradeToFrontier
        (mutateForActivation landConnectivity st.1.border a st.1.anchors
          st.1.tileOwnership).overtaken
        ({ st.1 with
          border := (mutateForActivation landConnectivity st.1.border a st.1.anchors
            st.1.tileOwnership).border }, st.2)

/-- **The replay, tile by tile.**  Nothing is unsettled exactly when no
succession displaces a settled owner; and then every tile ends with the
last of its claimants. -/
theorem replay_spec {anchors : List ReachAnchor} (own : TileKey W → Option TileOwnership)
    (log : List (TileKey W)) (l : List ReachAnchor) :
    ∀ border : ReachBorder W, (∀ a ∈ l, a ∈ anchors) →
      Selects (Covers landConnectivity anchors) border.get →
      ((l.foldl (replayAnchor landConnectivity downgradeToFrontier)
            (⟨border, anchors, own⟩, log)).2 = log
          ↔ ∀ key h, border.get key = some h →
              ∀ x ∈ Succession.losers h (claimants landConnectivity l key), ¬ SettledBy own key x)
        ∧ ((l.foldl (replayAnchor landConnectivity downgradeToFrontier)
              (⟨border, anchors, own⟩, log)).2 = log →
            ∀ key, (l.foldl (replayAnchor landConnectivity downgradeToFrontier)
                (⟨border, anchors, own⟩, log)).1.border.get key
              = (border.get key).map
                  (fun h => (claimants landConnectivity l key).getLastD h)) := by
  induction l with
  | nil =>
      intro border hl hsel
      refine ⟨⟨fun _ key h hh x hx => ?_, fun _ => rfl⟩, fun _ key => ?_⟩
      · cases hx
      · show border.get key = (border.get key).map (fun h => h)
        rw [Option.map_id']
  | cons a l ih =>
      intro border hl hsel
      have ha : a ∈ anchors := hl a List.mem_cons_self
      have hl' : ∀ b ∈ l, b ∈ anchors := fun b hb => hl b (List.mem_cons_of_mem _ hb)
      rw [List.foldl_cons]
      by_cases hnoise : ∃ o ∈ (mutateForActivation landConnectivity border a anchors
          own).overtaken, unsettles own o = true
      · -- the log grows at once, and some claimant displaces a settled owner
        have hgrow : log.length < (l.foldl (replayAnchor landConnectivity downgradeToFrontier)
            (replayAnchor landConnectivity downgradeToFrontier
              (⟨border, anchors, own⟩, log) a)).2.length := by
          refine Nat.lt_of_lt_of_le ?_ (replay_length_le downgradeToFrontier l _)
          exact settleOvertaken_noisy downgradeToFrontier _ (_, log) hnoise
        have hne : ¬ (l.foldl (replayAnchor landConnectivity downgradeToFrontier)
            (replayAnchor landConnectivity downgradeToFrontier
              (⟨border, anchors, own⟩, log) a)).2 = log := by
          intro heq
          rw [heq] at hgrow
          exact Nat.lt_irrefl _ hgrow
        refine ⟨⟨fun h => absurd h hne, fun h => ?_⟩, fun h => absurd h hne⟩
        obtain ⟨o, ho, hu⟩ := hnoise
        obtain ⟨_, holder, hholder, hlost⟩ :=
          (mem_mutateForActivation_overtaken hsel ha own o).mp ho
        refine absurd hu (h o.tileKey holder hholder o.fromOwnerId ?_)
        rw [claimants_cons, Succession.losers_append]
        exact List.mem_append_left _ hlost
      · -- a quiet anchor only moves the border
        have hquiet : ∀ o ∈ (mutateForActivation landConnectivity border a anchors
            own).overtaken, unsettles own o = false := by
          intro o ho
          cases hu : unsettles own o with
          | false => rfl
          | true => exact absurd ⟨o, ho, hu⟩ hnoise
        have hstep : replayAnchor landConnectivity downgradeToFrontier
            (⟨border, anchors, own⟩, log) a
            = (⟨(mutateForActivation landConnectivity border a anchors own).border, anchors,
                own⟩, log) :=
          settleOvertaken_quiet downgradeToFrontier _ (_, log) hquiet
        rw [hstep]
        obtain ⟨ihlog, ihget⟩ := ih _ hl' (selects_mutateForActivation hsel ha own)
        constructor
        · rw [ihlog]
          constructor
          · intro h key holder hholder x hx
            rw [claimants_cons, Succession.losers_append] at hx
            rcases List.mem_append.mp hx with hx | hx
            · intro hset
              have ho := (mem_mutateForActivation_overtaken hsel ha own
                ⟨key, x, some a.ownerId⟩).mpr ⟨rfl, holder, hholder, hx⟩
              exact hnoise ⟨_, ho, hset⟩
            · refine h key _ ?_ x hx
              rw [mutateForActivation_get hsel ha, hholder]
              rfl
          · intro h key holder' hholder' x hx
            rw [mutateForActivation_get hsel ha, Option.map_eq_some_iff] at hholder'
            obtain ⟨holder, hholder, hlast⟩ := hholder'
            refine h key holder hholder x ?_
            rw [claimants_cons, Succession.losers_append, hlast]
            exact List.mem_append_right _ hx
        · intro hlog key
          rw [ihget hlog key, mutateForActivation_get hsel ha, Option.map_map]
          congr 1
          funext h
          rw [claimants_cons a l key, Succession.getLastD_append]
          rfl

/-! ## §4. The start and the order. -/

variable (landConnectivity) in
theorem startBorder_fold (anchors : List ReachAnchor) (entries : List (TileKey W × PlayerId))
    (h : ∀ e ∈ entries, e.2.isBarbarian = false
      ∧ e.1 ∈ liveReachForOwner e.2 anchors landConnectivity) :
    ∀ st : ReachBorder W × Nat, entries.foldl (fun st e =>
        if !e.2.isBarbarian && decide (e.1 ∈ liveReachForOwner e.2 anchors landConnectivity)
        then (st.1.set e.1 e.2, st.2)
        else (st.1, st.2 + 1)) st = (st.1.setAll entries, st.2) := by
  induction entries with
  | nil =>
      intro st
      rfl
  | cons e entries ih =>
      intro st
      obtain ⟨hb, hlive⟩ := h e List.mem_cons_self
      rw [List.foldl_cons, hb, decide_eq_true hlive]
      rw [if_pos (by rfl), ih (fun e' he' => h e' (List.mem_cons_of_mem _ he'))]
      rfl

/-- Nothing is dropped from a border whose owners are players that cover
their tiles. -/
theorem startBorder_persisted (anchors : List ReachAnchor) (persisted : ReachBorder W)
    (tiles : InsertionMap (TileKey W) TileOwnership)
    (h : ∀ key o, persisted.get key = some o → o.isBarbarian = false
      ∧ key ∈ liveReachForOwner o anchors landConnectivity) :
    (∀ key, (startBorder landConnectivity anchors (some persisted) tiles).1.get key
        = persisted.get key)
      ∧ (startBorder landConnectivity anchors (some persisted) tiles).2 = 0 := by
  have hfold := startBorder_fold landConnectivity anchors persisted.entries
    (fun e he => h e.1 e.2 ((persisted.mem_entries_iff e.1 e.2).mp he))
    (InsertionMap.empty, 0)
  unfold startBorder
  dsimp only
  rw [hfold]
  refine ⟨fun key => Option.ext fun o => ?_, rfl⟩
  show (InsertionMap.ofEntries persisted.entries).get key = some o ↔ _
  rw [InsertionMap.get_ofEntries_iff, persisted.mem_entries_iff]
  intro k x x' hx hx'
  rw [persisted.mem_entries_iff] at hx hx'
  rw [hx] at hx'
  exact Option.some.inj hx'

theorem orderedAnchors_perm (anchors : List ReachAnchor) : (orderedAnchors anchors).Perm anchors :=
  List.perm_insertionSort _ anchors

theorem orderedAnchors_pairwise (anchors : List ReachAnchor) :
    (orderedAnchors anchors).Pairwise (fun a b => a.activatedAt ≤ b.activatedAt) := by
  have : Std.Total (fun a b : ReachAnchor => a.activatedAt ≤ b.activatedAt) :=
    ⟨fun a b => Int.le_total _ _⟩
  have : IsTrans ReachAnchor (fun a b => a.activatedAt ≤ b.activatedAt) :=
    ⟨fun _ _ _ h h' => Int.le_trans h h'⟩
  exact List.pairwise_insertionSort _ anchors

/-- **Any last word**: some gathering order replays `a` after every anchor
that is not later than it. -/
theorem exists_order_ending_with {active : List ReachAnchor} {a : ReachAnchor}
    (ha : a ∈ active) :
    ∃ gathered early late : List ReachAnchor, gathered.Perm active
      ∧ orderedAnchors gathered = early ++ a :: late
      ∧ ∀ b ∈ late, a.activatedAt < b.activatedAt := by
  have hpair := orderedAnchors_pairwise active
  have hamem : a ∈ (orderedAnchors active).filter (fun b => b.activatedAt ≤ a.activatedAt) := by
    rw [List.mem_filter]
    exact ⟨(orderedAnchors_perm active).mem_iff.mpr ha, decide_eq_true (Int.le_refl _)⟩
  refine ⟨((orderedAnchors active).filter (fun b => b.activatedAt ≤ a.activatedAt)).erase a
      ++ a :: (orderedAnchors active).filter (fun b => !decide (b.activatedAt ≤ a.activatedAt)),
    ((orderedAnchors active).filter (fun b => b.activatedAt ≤ a.activatedAt)).erase a,
    (orderedAnchors active).filter (fun b => !decide (b.activatedAt ≤ a.activatedAt)),
    ?_, ?_, ?_⟩
  · refine List.Perm.trans ?_ (orderedAnchors_perm active)
    refine List.Perm.trans List.perm_middle ?_
    rw [← List.cons_append]
    exact ((List.perm_cons_erase hamem).symm.append_right _).trans
      (List.filter_append_perm _ _)
  · -- the list is in order already, so the stable sort leaves it
    refine List.Pairwise.insertionSort_eq ?_
    rw [List.pairwise_append, List.pairwise_cons]
    refine ⟨(hpair.filter _).sublist List.erase_sublist, ⟨?_, hpair.filter _⟩, ?_⟩
    · intro b hb
      have := (List.mem_filter.mp hb).2
      simp at this
      omega
    · intro b hb c hc
      have hb' := (List.mem_filter.mp (List.mem_of_mem_erase hb)).2
      rw [decide_eq_true_eq] at hb'
      rcases List.mem_cons.mp hc with rfl | hc
      · exact hb'
      · have := (List.mem_filter.mp hc).2
        simp at this
        omega
  · intro b hb
    have := (List.mem_filter.mp hb).2
    simp at this
    omega

/-! ## §5. When the restore is a no-op. -/

/-- A run whose live anchors are players': barbarians hold no anchors. -/
def PlayersOnly (active : List ReachAnchor) : Prop := ∀ a ∈ active, a.ownerId.isBarbarian = false

/-- **One gathering order.**  The restore keeps the border exactly when, at
every held tile, the succession of its claimants ends with the holder and
displaces no settled owner. -/
theorem restoreKeeps_iff_succession {s : ReachState W} (hinv : BorderInv landConnectivity s)
    (hplayers : PlayersOnly s.active) {persisted : ReachBorder W}
    (hpersisted : ∀ key, persisted.get key = s.border.get key)
    (tiles : InsertionMap (TileKey W) TileOwnership) {gathered : List ReachAnchor}
    (hgathered : gathered.Perm s.active) :
    RestoreKeeps s.border
        (restoreReachBorder landConnectivity downgradeToFrontier (some persisted) tiles gathered)
      ↔ ∀ key o, s.border.get key = some o →
          (claimants landConnectivity (orderedAnchors gathered) key).getLastD o = o
            ∧ ∀ x ∈ Succession.losers o
                (claimants landConnectivity (orderedAnchors gathered) key),
              ¬ SettledBy tiles.get key x := by
  have hcovers : ∀ key o, Covers landConnectivity gathered key o
      ↔ Covers landConnectivity s.active key o := by
    intro key o
    constructor
    · rintro ⟨a, ha, hc⟩
      exact ⟨a, hgathered.mem_iff.mp ha, hc⟩
    · rintro ⟨a, ha, hc⟩
      exact ⟨a, hgathered.mem_iff.mpr ha, hc⟩
  have howner : ∀ key o, persisted.get key = some o → o.isBarbarian = false
      ∧ key ∈ liveReachForOwner o gathered landConnectivity := by
    intro key o ho
    rw [hpersisted] at ho
    obtain ⟨a, ha, hao, hak⟩ := hinv.sound key o ho
    exact ⟨hao ▸ hplayers a ha,
      mem_liveReach_iff_covers.mpr ((hcovers key o).mpr ⟨a, ha, hao, hak⟩)⟩
  obtain ⟨hstart, hdropped⟩ := startBorder_persisted gathered persisted tiles howner
  have hget : ∀ key, (startBorder landConnectivity gathered (some persisted) tiles).1.get key
      = s.border.get key := fun key => (hstart key).trans (hpersisted key)
  have hsel : Selects (Covers landConnectivity gathered)
      (startBorder landConnectivity gathered (some persisted) tiles).1.get := by
    refine ⟨?_, ?_⟩
    · intro key o ho
      rw [hget] at ho
      exact (hcovers key o).mpr (hinv.sound key o ho)
    · intro key o hc
      rw [hget]
      exact hinv.total key o ((hcovers key o).mp hc)
  obtain ⟨hlog, hfinal⟩ := replay_spec downgradeToFrontier tiles.get [] (orderedAnchors gathered)
    _ (fun a ha => (orderedAnchors_perm gathered).mem_iff.mp ha) hsel
  constructor
  · intro hkeeps key o ho
    have hnil := hkeeps.unsettled_nil
    have hkey := hkeeps.border_eq key
    refine ⟨?_, hlog.mp hnil key o ((hget key).trans ho)⟩
    have hmap := (hfinal hnil key).symm.trans hkey
    rw [hget, ho, Option.map_some, Option.some.injEq] at hmap
    exact hmap
  · intro h
    have hnil := hlog.mpr (fun key o ho => (h key o ((hget key).symm.trans ho)).2)
    refine ⟨?_, hnil, hdropped⟩
    intro key
    refine (hfinal hnil key).trans ?_
    rw [hget]
    cases ho : s.border.get key with
    | none => rfl
    | some o => rw [Option.map_some, (h key o ho).1]

/-- **The condition**: every anchor that guarantees a tile is the border
owner's; or the latest of them all are, and none of their owners has the
tile SETTLED. -/
def RestoreSafe (landConnectivity : Option (LandConnectivityQuery W))
    (active : List ReachAnchor) (border : ReachBorder W)
    (own : TileKey W → Option TileOwnership) : Prop :=
  ∀ key o, border.get key = some o →
    (∀ a ∈ active, Guarantees landConnectivity a key → a.ownerId = o)
      ∨ ((∀ a ∈ active, Guarantees landConnectivity a key →
            (∀ b ∈ active, Guarantees landConnectivity b key →
              b.activatedAt ≤ a.activatedAt) → a.ownerId = o)
          ∧ ∀ a ∈ active, Guarantees landConnectivity a key → ¬ SettledBy own key a.ownerId)

theorem succession_of_restoreSafe {active gathered : List ReachAnchor}
    {border : ReachBorder W} {own : TileKey W → Option TileOwnership}
    (hsafe : RestoreSafe landConnectivity active border own) (hperm : gathered.Perm active)
    {key : TileKey W} {o : PlayerId} (ho : border.get key = some o) :
    (claimants landConnectivity (orderedAnchors gathered) key).getLastD o = o
      ∧ ∀ x ∈ Succession.losers o (claimants landConnectivity (orderedAnchors gathered) key),
          ¬ SettledBy own key x := by
  have hmem : ∀ a, a ∈ orderedAnchors gathered ↔ a ∈ active := by
    intro a
    exact ((orderedAnchors_perm gathered).trans hperm).mem_iff
  rcases hsafe key o ho with hall | ⟨hlatest, hfree⟩
  · have hclaim : ∀ c ∈ claimants landConnectivity (orderedAnchors gathered) key, c = o := by
      intro c hc
      obtain ⟨a, ha, hg, hao⟩ := mem_claimants_iff.mp hc
      exact hao ▸ hall a ((hmem a).mp ha) hg
    refine ⟨Succession.getLastD_eq_self hclaim, ?_⟩
    rw [Succession.losers_eq_nil hclaim]
    intro x hx
    cases hx
  · rcases List.eq_nil_or_concat' ((orderedAnchors gathered).filter
        (fun a => decide (Guarantees landConnectivity a key))) with hnil | ⟨init, last, hconcat⟩
    · have hc : claimants landConnectivity (orderedAnchors gathered) key = [] := by
        unfold claimants
        rw [hnil]
        rfl
      rw [hc]
      exact ⟨rfl, fun x hx => absurd hx List.not_mem_nil⟩
    · -- the last claimant is a latest one, hence the owner's
      have hc : claimants landConnectivity (orderedAnchors gathered) key
          = init.map ReachAnchor.ownerId ++ [last.ownerId] := by
        unfold claimants
        rw [hconcat, List.map_append]
        rfl
      have hsorted := (orderedAnchors_pairwise gathered).filter
        (fun a => decide (Guarantees landConnectivity a key))
      rw [hconcat, List.pairwise_append] at hsorted
      have hin : ∀ b, b ∈ init ++ [last]
          ↔ b ∈ active ∧ Guarantees landConnectivity b key := by
        intro b
        rw [← hconcat, List.mem_filter, decide_eq_true_eq, hmem]
      have hlast := (hin last).mp (List.mem_append_right _ (List.mem_singleton.mpr rfl))
      have hown : last.ownerId = o := by
        refine hlatest last hlast.1 hlast.2 ?_
        intro b hb hg
        rcases List.mem_append.mp ((hin b).mpr ⟨hb, hg⟩) with hb' | hb'
        · exact hsorted.2.2 b hb' last (List.mem_singleton.mpr rfl)
        · rw [List.mem_singleton.mp hb']
      refine ⟨?_, ?_⟩
      · rw [hc, Succession.getLastD_append]
        exact hown
      · intro x hx
        have hx' : x ∈ claimants landConnectivity (orderedAnchors gathered) key := by
          rcases Succession.mem_of_mem_losers _ o x hx with rfl | hx'
          · rw [hc, hown]
            exact List.mem_append_right _ (List.mem_singleton.mpr rfl)
          · exact hx'
        obtain ⟨a, ha, hg, hao⟩ := mem_claimants_iff.mp hx'
        exact hao ▸ hfree a ((hmem a).mp ha) hg

theorem restoreSafe_of_successions {active : List ReachAnchor} {border : ReachBorder W}
    {own : TileKey W → Option TileOwnership}
    (h : ∀ gathered : List ReachAnchor, gathered.Perm active →
      ∀ key o, border.get key = some o →
        (claimants landConnectivity (orderedAnchors gathered) key).getLastD o = o
          ∧ ∀ x ∈ Succession.losers o
              (claimants landConnectivity (orderedAnchors gathered) key),
            ¬ SettledBy own key x) :
    RestoreSafe landConnectivity active border own := by
  intro key o ho
  by_cases hall : ∀ a ∈ active, Guarantees landConnectivity a key → a.ownerId = o
  · exact Or.inl hall
  · right
    constructor
    · -- gather a latest guaranteeing anchor last: it has the last word
      intro a ha hg hlatest
      obtain ⟨gathered, early, late, hperm, horder, hlate⟩ := exists_order_ending_with ha
      have hfinal := (h gathered hperm key o ho).1
      have hnone : claimants landConnectivity late key = [] := by
        unfold claimants
        rw [List.map_eq_nil_iff, List.filter_eq_nil_iff]
        intro b hb hgb
        rw [decide_eq_true_eq] at hgb
        have hbm : b ∈ active := by
          rw [← hperm.mem_iff, ← (orderedAnchors_perm gathered).mem_iff, horder]
          exact List.mem_append_right _ (List.mem_cons_of_mem _ hb)
        have hle := hlatest b hbm hgb
        have hlt := hlate b hb
        omega
      have hclaim : claimants landConnectivity (orderedAnchors gathered) key
          = claimants landConnectivity early key ++ [a.ownerId] := by
        rw [horder]
        have happ : claimants landConnectivity (early ++ a :: late) key
            = claimants landConnectivity early key
              ++ claimants landConnectivity (a :: late) key := by
          unfold claimants
          rw [List.filter_append, List.map_append]
        rw [happ, claimants_cons, hnone, claimants_of_guarantees hg, List.append_nil]
      rw [hclaim, Succession.getLastD_append] at hfinal
      exact hfinal
    · -- somebody else claims the tile and loses it again, so everybody lost it
      intro a ha hg
      obtain ⟨hlast, hquiet⟩ := h active (List.Perm.refl _) key o ho
      have hmem : ∀ b, b ∈ orderedAnchors active ↔ b ∈ active := fun b =>
        (orderedAnchors_perm active).mem_iff
      have hother : ∃ c ∈ claimants landConnectivity (orderedAnchors active) key, c ≠ o := by
        by_contra hno
        refine hall (fun b hb hgb => ?_)
        by_contra hne
        exact hno ⟨b.ownerId, mem_claimants_iff.mpr ⟨b, (hmem b).mpr hb, hgb, rfl⟩, hne⟩
      refine hquiet a.ownerId (Succession.mem_losers_of_return hlast hother ?_)
      exact mem_claimants_iff.mpr ⟨a, (hmem a).mpr ha, hg, rfl⟩

/-- **When a restart keeps the border.**  For the border of any run, any
tiles and whatever a downgrade sets off: the restore keeps the border for
every insertion order of the persisted border and every gathering order of
its live anchors exactly when `RestoreSafe` holds. -/
theorem restoreReachBorder_keeps_iff (landConnectivity : Option (LandConnectivityQuery W))
    (downgradeToFrontier : RestoreState W → TileKey W → RestoreState W)
    (events : List (ReachEvent W)) (s : ReachState W)
    (hrun : Run (ReachStep landConnectivity) ReachState.initial events s)
    (hplayers : PlayersOnly s.active) (tiles : InsertionMap (TileKey W) TileOwnership) :
    (∀ (persisted : ReachBorder W) (gathered : List ReachAnchor),
        (∀ key, persisted.get key = s.border.get key) → gathered.Perm s.active →
        RestoreKeeps s.border (restoreReachBorder landConnectivity downgradeToFrontier
          (some persisted) tiles gathered))
      ↔ RestoreSafe landConnectivity s.active s.border tiles.get := by
  have hinv := borderInv_run hrun
  constructor
  · intro h
    apply restoreSafe_of_successions
    intro gathered hperm
    exact (restoreKeeps_iff_succession downgradeToFrontier hinv hplayers (fun _ => rfl) tiles
      hperm).mp (h s.border gathered (fun _ => rfl) hperm)
  · intro hsafe persisted gathered hpersisted hperm
    refine (restoreKeeps_iff_succession downgradeToFrontier hinv hplayers hpersisted tiles
      hperm).mpr ?_
    intro key o ho
    exact succession_of_restoreSafe hsafe hperm ho

/-! ## §6. Two landed AFCs. -/

def landedAfc (x y : Int) (ownerId : PlayerId) (activatedAt : Int) : ReachAnchor :=
  { ReachAnchor.plain x y ownerId activatedAt .TOWN with guaranteedRadius := some 1 }

/-- The downgrade of a tile that carries no anchor. -/
def demoteTile (st : RestoreState W) (key : TileKey W) : RestoreState W :=
  { st with
    tileOwnership := fun k =>
      if k = key then (st.tileOwnership k).map (fun tile =>
        { tile with ownershipState := some .FRONTIER })
      else st.tileOwnership k }

/-- The state after two AFCs landed two tiles apart, the later one's owner
holding the column between them. -/
def twoAfcs : ReachState smallestWorld :=
  (ReachState.initial.activate none (landedAfc 10 10 playerOne 1) (fun _ => none)).activate
    none (landedAfc 12 10 playerTwo 2) (fun _ => none)

def columnTiles : InsertionMap (TileKey smallestWorld) TileOwnership :=
  InsertionMap.empty.set (wrappedTile smallestWorld 11 10) ⟨some playerTwo, some .SETTLED⟩

theorem twoAfcs_run : Run (ReachStep none) ReachState.initial
    [.activate (landedAfc 10 10 playerOne 1) (fun _ => none),
      .activate (landedAfc 12 10 playerTwo 2) (fun _ => none)] twoAfcs :=
  .cons (.activate _ _ _) (.cons (.activate _ _ _) (.nil _))

theorem twoAfcs_column : twoAfcs.border.get (wrappedTile smallestWorld 11 10)
    = some playerTwo := by
  have hdisk : wrappedTile smallestWorld 11 10
      ∈ tileKeysInReach (landedAfc 12 10 playerTwo 2) none := by decide
  have hzone : wrappedTile smallestWorld 11 10
      ∈ guaranteedTileKeys smallestWorld (landedAfc 12 10 playerTwo 2) := by decide
  rw [twoAfcs, ReachState.activate_get, if_pos hdisk]
  rcases grantedOwner_cases (landedAfc 12 10 playerTwo 2) _ (fun _ => none)
    (wrappedTile smallestWorld 11 10) _ with h | ⟨_, _, _, _, hnot, _⟩
  · exact h
  · exact absurd hzone hnot

/-- The two guarantee the column, and its holder has it SETTLED: the restore
does not keep the border. -/
theorem restoreReachBorder_keeps_iff_afcs :
    ¬ ∀ (persisted : ReachBorder smallestWorld) (gathered : List ReachAnchor),
        (∀ key, persisted.get key = twoAfcs.border.get key) → gathered.Perm twoAfcs.active →
        RestoreKeeps twoAfcs.border (restoreReachBorder none demoteTile (some persisted)
          columnTiles gathered) := by
  rw [restoreReachBorder_keeps_iff none demoteTile _ twoAfcs twoAfcs_run
    (by unfold PlayersOnly; decide) columnTiles]
  intro hsafe
  rcases hsafe _ _ twoAfcs_column with hall | ⟨-, hfree⟩
  · exact absurd (hall (landedAfc 10 10 playerOne 1) (by decide) (by decide)) (by decide)
  · exact hfree (landedAfc 12 10 playerTwo 2) (by decide) (by decide) (by unfold SettledBy; decide)

/-- **The restart unsettles the column**: replaying the earlier AFC takes
the tile from its holder, and the SETTLED tile is downgraded before the
later AFC takes it back. -/
theorem restoreReachBorder_unsettles :
    Run (ReachStep none) ReachState.initial
        [.activate (landedAfc 10 10 playerOne 1) (fun _ => none),
          .activate (landedAfc 12 10 playerTwo 2) (fun _ => none)] twoAfcs
      ∧ ¬ RestoreKeeps twoAfcs.border
          (restoreReachBorder none demoteTile (some twoAfcs.border) columnTiles
            twoAfcs.active) := by
  refine ⟨twoAfcs_run, ?_⟩
  intro hkeeps
  have hplayers : PlayersOnly twoAfcs.active := by
    unfold PlayersOnly
    decide
  have hclaim : claimants none (orderedAnchors twoAfcs.active)
      (wrappedTile smallestWorld 11 10) = [playerOne, playerTwo] := by decide
  have hsucc := ((restoreKeeps_iff_succession demoteTile (borderInv_run twoAfcs_run) hplayers
    (fun _ => rfl) columnTiles (List.Perm.refl _)).mp hkeeps _ _ twoAfcs_column).2
  rw [hclaim] at hsucc
  exact hsucc playerTwo (by decide) (by unfold SettledBy; decide)

end BorderEmpires
