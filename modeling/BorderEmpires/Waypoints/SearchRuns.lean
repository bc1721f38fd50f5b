/-
  BorderEmpires.Waypoints.SearchRuns
  **WHAT HOLDS WHILE THE PLANNER SEARCHES.**

  `SearchInv` is the invariant of the search: every label is a source's or
  came by a legal move from another label that pays for it, the queue
  agrees with the labels, and the frontier invariant of best-first search
  holds.  It holds once the sources and the docks are seeded, a turn of
  the loop keeps it, and so it holds wherever the loop ends.

  Nothing here depends on the durations: they may be negative.
-/
import Mathlib.Data.Fintype.Option
import BorderEmpires.Waypoints.Planner

namespace BorderEmpires.Waypoints

open BestFirst (Frontier QueueSound ParentsPay Relaxed)

variable {W : WorldSize}

/-! ## §1. Directions. -/

theorem neighbor_offset_small : ∀ dirIdx : Fin 8,
    (-1 ≤ (NEIGHBOR_OFFSETS.getD dirIdx.val (0, 0)).1
      ∧ (NEIGHBOR_OFFSETS.getD dirIdx.val (0, 0)).1 ≤ 1)
    ∧ (-1 ≤ (NEIGHBOR_OFFSETS.getD dirIdx.val (0, 0)).2
      ∧ (NEIGHBOR_OFFSETS.getD dirIdx.val (0, 0)).2 ≤ 1) := by decide

theorem neighbor_offset_ne : ∀ dirIdx : Fin 8,
    NEIGHBOR_OFFSETS.getD dirIdx.val (0, 0) ≠ (0, 0) := by decide

theorem neighbor_offset_mem : ∀ dirIdx : Fin 8,
    NEIGHBOR_OFFSETS.getD dirIdx.val (0, 0) ∈ NEIGHBOR_OFFSETS := by decide

theorem neighbor_offset_inj : ∀ d e : Fin 8,
    NEIGHBOR_OFFSETS.getD d.val (0, 0) = NEIGHBOR_OFFSETS.getD e.val (0, 0) → d = e := by decide

theorem neighborOf_ne (t : TileKey W) (dirIdx : Fin 8) : neighborOf t dirIdx ≠ t := by
  obtain ⟨hx, hy⟩ := neighbor_offset_small dirIdx
  have hw := W.width_ok
  have hh := W.height_ok
  exact Vision.shift_ne_self (by omega) (by omega) (neighbor_offset_ne dirIdx)

theorem neighborOf_mem_neighbors (t : TileKey W) (dirIdx : Fin 8) :
    neighborOf t dirIdx ∈ t.neighbors :=
  List.mem_map_of_mem (neighbor_offset_mem dirIdx)

theorem shift_shift (t : TileKey W) (d e : Int × Int) :
    (t.shift d).shift e = t.shift (d.1 + e.1, d.2 + e.2) := by
  rw [TileKey.shift, TileKey.shift, TileKey.shift]
  dsimp only
  rw [wrappedTile_x, wrappedTile_y]
  refine wrappedTile_congr ?_ ?_
  · rw [Int.emod_add_emod, add_assoc]
  · rw [Int.emod_add_emod, add_assoc]

theorem neighborOf_inj {t : TileKey W} {d e : Fin 8} (h : neighborOf t d = neighborOf t e) :
    d = e := by
  by_contra hne
  obtain ⟨hdx, hdy⟩ := neighbor_offset_small d
  obtain ⟨hex, hey⟩ := neighbor_offset_small e
  have hoff := fun heq => hne (neighbor_offset_inj d e heq)
  unfold neighborOf at h
  generalize NEIGHBOR_OFFSETS.getD d.val (0, 0) = a at h hdx hdy hoff
  generalize NEIGHBOR_OFFSETS.getD e.val (0, 0) = b at h hex hey hoff
  have hw := W.width_ok
  have hh := W.height_ok
  -- the difference of the two offsets would lead back to the tile
  have hback : t.shift (a.1 + -b.1, a.2 + -b.2) = t := by
    rw [← shift_shift t a (-b.1, -b.2), h, TileKey.shift_neg]
  refine Vision.shift_ne_self (t := t) (d := (a.1 + -b.1, a.2 + -b.2)) ?_ ?_ ?_ hback
  · show (a.1 + -b.1).natAbs < W.width
    omega
  · show (a.2 + -b.2).natAbs < W.height
    omega
  · intro hzero
    obtain ⟨h1, h2⟩ := Prod.mk.inj hzero
    exact hoff (Prod.ext (by omega) (by omega))

/-! ## §2. Sources and classes. -/

variable {v : Survey W}

namespace Survey

theorem mem_sources_iff {t : TileKey W} : t ∈ v.sources ↔
    ∃ tile, v.state.tiles.get t = some tile ∧ isSource v.c.me v.c.now tile = true := by
  unfold sources
  rw [List.mem_map]
  constructor
  · rintro ⟨e, he, rfl⟩
    obtain ⟨hmem, hsource⟩ := List.mem_filter.mp he
    exact ⟨e.2, (v.state.tiles.mem_entries_iff e.1 e.2).mp hmem, hsource⟩
  · rintro ⟨tile, hget, hsource⟩
    exact ⟨(t, tile),
      List.mem_filter.mpr ⟨(v.state.tiles.mem_entries_iff t tile).mpr hget, hsource⟩, rfl⟩

/-- **The search treats as owned exactly the tiles it starts from.** -/
theorem classify_eq_OWN_iff {t : TileKey W} : v.classify t = .OWN ↔ t ∈ v.sources := by
  rw [mem_sources_iff]
  unfold classify classifyForSearch
  cases hget : v.state.tiles.get t with
  | none => simp
  | some tile => simp [classifyTile_eq_OWN_iff]

theorem classifyIfPassable_eq_some {t : TileKey W} {classified : ClassifiedTile}
    (h : v.classifyIfPassable t = some classified) :
    classified = v.classify t ∧ v.classify t ≠ .IMPASSABLE ∧ v.outOfReach t = false := by
  unfold classifyIfPassable at h
  by_cases himp : v.classify t = .IMPASSABLE
  · rw [if_pos himp] at h
    cases h
  · rw [if_neg himp] at h
    by_cases hout : v.outOfReach t = true
    · rw [if_pos hout] at h
      cases h
    · rw [if_neg hout] at h
      exact ⟨(Option.some.inj h).symm, himp, Bool.not_eq_true _ ▸ hout⟩

theorem classifyIfPassable_of {t : TileKey W} (himp : v.classify t ≠ .IMPASSABLE)
    (hreach : v.outOfReach t = false) : v.classifyIfPassable t = some (v.classify t) := by
  unfold classifyIfPassable
  rw [if_neg himp, if_neg (by simp [hreach])]

end Survey

/-! ## §3. Moves. -/

/-- The penalty of going on in a direction; a crossing has none. -/
def turnTo (heading : Option (Fin 8)) : Option (Fin 8) → ℚ
  | none => 0
  | some dirIdx => turnPenalty heading dirIdx

def moveCost (v : Survey W) (p n : SearchNode W) : ℚ :=
  (v.classify n.tile).durationMs + turnTo p.dir n.dir

/-- **A legal move** of the search, and whether it crosses from a dock. -/
inductive Move (v : Survey W) : Bool → SearchNode W → SearchNode W → Prop
  | walk (p : SearchNode W) (dirIdx : Fin 8) (classified : ClassifiedTile)
      (hpass : v.classifyIfPassable (neighborOf p.tile dirIdx) = some classified) :
      Move v false p ⟨neighborOf p.tile dirIdx, some dirIdx⟩
  | jump (src dest : TileKey W) (classified : ClassifiedTile) (hsrc : src ∈ v.sources)
      (hdest : dest ∈ v.dockLinks src) (hpass : v.classifyIfPassable dest = some classified) :
      Move v true ⟨src, none⟩ ⟨dest, none⟩

theorem Move.passable {dock : Bool} {p n : SearchNode W} (h : Move v dock p n) :
    v.classify n.tile ≠ .IMPASSABLE ∧ v.outOfReach n.tile = false := by
  cases h with
  | walk _ dirIdx classified hpass => exact (Survey.classifyIfPassable_eq_some hpass).2
  | jump src dest classified hsrc hdest hpass =>
      exact (Survey.classifyIfPassable_eq_some hpass).2

theorem Move.ne {dock : Bool} {p n : SearchNode W} (h : Move v dock p n)
    (hfree : n.dir = none → n.tile ∉ v.sources) : p ≠ n := by
  cases h with
  | walk _ dirIdx classified hpass =>
      intro heq
      exact neighborOf_ne p.tile dirIdx (congrArg SearchNode.tile heq).symm
  | jump src dest classified hsrc hdest hpass =>
      intro heq
      have hsame : src = dest := congrArg SearchNode.tile heq
      exact hfree rfl (hsame ▸ hsrc)

/-- The moves a chain of steps can make: to a neighbour not yet owned. -/
def StepMove (v : Survey W) (p n : SearchNode W) (cost : ℚ) : Prop :=
  ∃ dirIdx, n = ⟨neighborOf p.tile dirIdx, some dirIdx⟩ ∧ cost = moveCost v p n
    ∧ v.classify n.tile ≠ .IMPASSABLE ∧ v.outOfReach n.tile = false ∧ n.tile ∉ v.sources

def AtGoal (v : Survey W) (n : SearchNode W) : Prop := n.tile = v.goal

def Search.queued (s : Search W) (score : ℚ) (n : SearchNode W) : Prop :=
  ⟨score, n⟩ ∈ s.heap.entries

/-! ## §4. The invariant. -/

/-- **The invariant of the search**, with the frontier waived at the states
being expanded. -/
structure SearchInv (v : Survey W) (waived : SearchNode W → Prop) (s : Search W) : Prop where
  sourced : ∀ src ∈ v.sources, s.gScore ⟨src, none⟩ = some 0
  moved : ∀ n p, s.cameFrom n = some p → Move v (s.viaDock n) p n
  rooted : ∀ n k, s.gScore n = some k → s.cameFrom n = none → n.tile ∈ v.sources
  pays : ParentsPay (moveCost v) s.gScore s.cameFrom
  queueSound : QueueSound (fun n => v.h n.tile) s.gScore s.queued
  frontier : Frontier (StepMove v) (fun n => v.h n.tile) (AtGoal v) waived s.gScore s.queued
  nonneg : (∀ t, 0 ≤ (v.classify t).durationMs) → ∀ n k, s.gScore n = some k → 0 ≤ k

theorem turnPenalty_nonneg (parentDir : Option (Fin 8)) (dirIdx : Fin 8) :
    0 ≤ turnPenalty parentDir dirIdx := by
  have hturn : (0 : ℚ) ≤ TURN_PENALTY_MS := by decide +kernel
  unfold turnPenalty
  split
  · exact le_refl _
  · split
    · exact le_refl _
    · exact hturn

theorem turnTo_nonneg (heading dir : Option (Fin 8)) : 0 ≤ turnTo heading dir := by
  cases dir with
  | none => exact le_refl _
  | some dirIdx => exact turnPenalty_nonneg heading dirIdx

theorem le_moveCost (p n : SearchNode W) : (v.classify n.tile).durationMs ≤ moveCost v p n :=
  le_add_of_nonneg_right (turnTo_nonneg _ _)

theorem queued_record (s : Search W) (current next : SearchNode W) (tentative : ℚ) (dock : Bool)
    (score : ℚ) (n : SearchNode W) :
    (s.record v current next tentative dock).queued score n ↔
      (score = tentative + v.h next.tile ∧ n = next) ∨ s.queued score n := by
  unfold Search.queued Search.record
  rw [BinaryHeap.MinHeap.mem_push, HeapEntry.mk.injEq]

theorem le_of_improves {tentative : ℚ} {existing : Option ℚ}
    (h : improves tentative existing = true) : ∀ k, existing = some k → tentative ≤ k := by
  intro k hk
  subst hk
  exact le_of_lt (of_decide_eq_true h)

variable {s : Search W} {waived : SearchNode W → Prop}

theorem SearchInv.record (hs : SearchInv v waived s) {dock : Bool} {current next : SearchNode W}
    {currentG : ℚ} (hmove : Move v dock current next) (hlabel : s.gScore current = some currentG)
    (hfree : next.dir = none → next.tile ∉ v.sources)
    (himp : improves (currentG + moveCost v current next) (s.gScore next) = true) :
    SearchInv v waived
      (s.record v current next (currentG + moveCost v current next) dock) := by
  have hle := le_of_improves himp
  have hne := hmove.ne hfree
  constructor
  · intro src hsrc
    show Function.update s.gScore next _ ⟨src, none⟩ = some 0
    rw [Function.update_of_ne]
    · exact hs.sourced src hsrc
    · rintro rfl
      exact hfree rfl hsrc
  · intro n p hparent
    change Function.update s.cameFrom next (some current) n = some p at hparent
    show Move v (Function.update s.viaDock next dock n) p n
    by_cases hn : n = next
    · subst hn
      rw [Function.update_self] at hparent ⊢
      cases hparent
      exact hmove
    · rw [Function.update_of_ne hn] at hparent ⊢
      exact hs.moved n p hparent
  · intro n k hk hparent
    change Function.update s.gScore next _ n = some k at hk
    change Function.update s.cameFrom next (some current) n = none at hparent
    by_cases hn : n = next
    · subst hn
      rw [Function.update_self] at hparent
      cases hparent
    · rw [Function.update_of_ne hn] at hk hparent
      exact hs.rooted n k hk hparent
  · exact hs.pays.relax hlabel hne (le_refl _) hle
  · exact hs.queueSound.lower hle
      (fun score n hq => (queued_record s current next _ dock score n).mp hq)
  · exact hs.frontier.lower hle
      (fun score n hq => (queued_record s current next _ dock score n).mpr (Or.inr hq))
      ((queued_record s current next _ dock _ _).mpr (Or.inl ⟨rfl, rfl⟩))
  · intro hdur n k hk
    change Function.update s.gScore next _ n = some k at hk
    by_cases hn : n = next
    · subst hn
      rw [Function.update_self] at hk
      rw [← Option.some.inj hk]
      exact add_nonneg (hs.nonneg hdur _ _ hlabel) (le_trans (hdur _) (le_moveCost _ _))
    · rw [Function.update_of_ne hn] at hk
      exact hs.nonneg hdur n k hk

/-- **The step lemma**: relaxing a legal move keeps the invariant.  A way
back onto a source is never an improvement. -/
theorem SearchInv.relax (hs : SearchInv v waived s) {dock : Bool} {current next : SearchNode W}
    {currentG : ℚ} (hmove : Move v dock current next) (hlabel : s.gScore current = some currentG)
    (hback : next.dir = none → next.tile ∈ v.sources → currentG + moveCost v current next = 0) :
    SearchInv v waived
      (s.relax v current next (currentG + moveCost v current next) dock) := by
  unfold Search.relax
  split
  · rename_i himp
    refine hs.record hmove hlabel ?_ himp
    intro hdir hsource
    have hnode : next = ⟨next.tile, none⟩ := by
      cases next
      cases hdir
      rfl
    rw [hback hdir hsource, hnode, hs.sourced _ hsource] at himp
    exact lt_irrefl (0 : ℚ) (of_decide_eq_true himp)
  · exact hs

theorem relax_label (s : Search W) (current next : SearchNode W) (tentative : ℚ) (dock : Bool) :
    (∃ k, (s.relax v current next tentative dock).gScore next = some k ∧ k ≤ tentative)
      ∧ ∀ n k, s.gScore n = some k →
        ∃ k', (s.relax v current next tentative dock).gScore n = some k' ∧ k' ≤ k := by
  unfold Search.relax
  split
  · rename_i himp
    refine ⟨⟨tentative, Function.update_self _ _ _, le_refl _⟩, ?_⟩
    intro n k hk
    show ∃ k', Function.update s.gScore next (some tentative) n = some k' ∧ k' ≤ k
    by_cases hn : n = next
    · subst hn
      exact ⟨tentative, Function.update_self _ _ _, le_of_improves himp k hk⟩
    · rw [Function.update_of_ne hn]
      exact ⟨k, hk, le_refl _⟩
  · rename_i hnot
    refine ⟨?_, fun n k hk => ⟨k, hk, le_refl _⟩⟩
    cases hg : s.gScore next with
    | none =>
        rw [hg] at hnot
        exact absurd rfl hnot
    | some existing =>
        rw [hg] at hnot
        exact ⟨existing, rfl, le_of_not_gt (fun hlt => hnot (decide_eq_true hlt))⟩

theorem relax_label_ne (s : Search W) {current next n : SearchNode W} (tentative : ℚ)
    (dock : Bool) (hn : n ≠ next) :
    (s.relax v current next tentative dock).gScore n = s.gScore n := by
  unfold Search.relax
  split
  · exact Function.update_of_ne hn _ _
  · rfl

/-- Labels of the first search are kept or lowered by the second. -/
def LabelsDrop (s s' : Search W) : Prop :=
  ∀ n k, s.gScore n = some k → ∃ k', s'.gScore n = some k' ∧ k' ≤ k

theorem LabelsDrop.refl (s : Search W) : LabelsDrop s s := fun _ k h => ⟨k, h, le_refl k⟩

theorem LabelsDrop.trans {s s' s'' : Search W} (h : LabelsDrop s s') (h' : LabelsDrop s' s'') :
    LabelsDrop s s'' := by
  intro n k hk
  obtain ⟨k', hk', hle⟩ := h n k hk
  obtain ⟨k'', hk'', hle'⟩ := h' n k' hk'
  exact ⟨k'', hk'', le_trans hle' hle⟩

/-! ## §5. Seeding. -/

structure SourcesSeeded (v : Survey W) (l : List (TileKey W)) (s : Search W) : Prop where
  labels : ∀ n k, s.gScore n = some k ↔ k = 0 ∧ ∃ src ∈ l, n = ⟨src, none⟩
  parents : ∀ n, s.cameFrom n = none
  queue : ∀ score n, s.queued score n ↔ ∃ src ∈ l, score = v.h src ∧ n = ⟨src, none⟩

theorem SourcesSeeded.seedSource {l : List (TileKey W)} (h : SourcesSeeded v l s) (src : TileKey W)
    :
    SourcesSeeded v (l ++ [src]) (s.seedSource v src) := by
  constructor
  · intro n k
    show Function.update s.gScore ⟨src, none⟩ (some 0) n = some k ↔ _
    by_cases hn : n = ⟨src, none⟩
    · subst hn
      rw [Function.update_self]
      constructor
      · intro heq
        exact ⟨(Option.some.inj heq).symm, src, by simp, rfl⟩
      · rintro ⟨rfl, -⟩
        rfl
    · rw [Function.update_of_ne hn, h.labels]
      refine and_congr_right (fun _ => ?_)
      constructor
      · rintro ⟨x, hx, rfl⟩
        exact ⟨x, List.mem_append_left _ hx, rfl⟩
      · rintro ⟨x, hx, rfl⟩
        rcases List.mem_append.mp hx with hin | hlast
        · exact ⟨x, hin, rfl⟩
        · rw [List.mem_singleton.mp hlast] at hn
          exact absurd rfl hn
  · exact h.parents
  · intro score n
    have hpush : (s.seedSource v src).queued score n
        ↔ (score = v.h src ∧ n = ⟨src, none⟩) ∨ s.queued score n := by
      unfold Search.queued Search.seedSource
      rw [BinaryHeap.MinHeap.mem_push, HeapEntry.mk.injEq]
    rw [hpush, h.queue]
    constructor
    · rintro (⟨rfl, rfl⟩ | ⟨x, hx, rfl, rfl⟩)
      · exact ⟨src, by simp, rfl, rfl⟩
      · exact ⟨x, List.mem_append_left _ hx, rfl, rfl⟩
    · rintro ⟨x, hx, rfl, rfl⟩
      rcases List.mem_append.mp hx with hin | hlast
      · exact Or.inr ⟨x, hin, rfl, rfl⟩
      · rw [List.mem_singleton.mp hlast]
        exact Or.inl ⟨rfl, rfl⟩

theorem sourcesSeeded_foldl (l : List (TileKey W)) : ∀ (done : List (TileKey W)) (s : Search W),
    SourcesSeeded v done s → SourcesSeeded v (done ++ l) (l.foldl (Search.seedSource v) s) := by
  induction l with
  | nil =>
      intro done s h
      rw [List.append_nil]
      exact h
  | cons src rest ih =>
      intro done s h
      have hnext := ih (done ++ [src]) (s.seedSource v src) (h.seedSource src)
      rw [List.append_assoc] at hnext
      exact hnext

theorem sourcesSeeded_start : SourcesSeeded v [] (Search.start (W := W)) := by
  refine ⟨?_, fun _ => rfl, ?_⟩
  · intro n k
    exact ⟨fun h => (by cases h), fun ⟨_, src, hsrc, _⟩ => (by cases hsrc)⟩
  · intro score n
    exact ⟨fun h => (by cases h), fun ⟨src, hsrc, _⟩ => (by cases hsrc)⟩

theorem SourcesSeeded.inv (h : SourcesSeeded v v.sources s) : SearchInv v (fun _ => False) s := by
  constructor
  · intro src hsrc
    exact (h.labels _ _).mpr ⟨rfl, src, hsrc, rfl⟩
  · intro n p hparent
    rw [h.parents n] at hparent
    cases hparent
  · intro n k hk _
    obtain ⟨-, src, hsrc, rfl⟩ := (h.labels n k).mp hk
    exact hsrc
  · intro n p hparent
    rw [h.parents n] at hparent
    cases hparent
  · intro score n hq
    obtain ⟨src, hsrc, rfl, rfl⟩ := (h.queue score n).mp hq
    exact ⟨0, (h.labels _ _).mpr ⟨rfl, src, hsrc, rfl⟩, by rw [zero_add]⟩
  · intro n k hk _
    obtain ⟨rfl, src, hsrc, rfl⟩ := (h.labels n k).mp hk
    exact Or.inl ((h.queue _ _).mpr ⟨src, hsrc, by rw [zero_add], rfl⟩)
  · intro _ n k hk
    exact le_of_eq ((h.labels n k).mp hk).1.symm

/-- A landing tile the search may enter is labelled, at no more than it
costs to land there. -/
def Landed (v : Survey W) (s : Search W) (dest : TileKey W) : Prop :=
  v.classify dest ≠ .IMPASSABLE → v.outOfReach dest = false →
    ∃ k, s.gScore ⟨dest, none⟩ = some k ∧ k ≤ (v.classify dest).durationMs

theorem Landed.drop {s s' : Search W} {dest : TileKey W} (h : Landed v s dest)
    (hd : LabelsDrop s s') : Landed v s' dest := by
  intro himp hreach
  obtain ⟨k, hk, hle⟩ := h himp hreach
  obtain ⟨k', hk', hle'⟩ := hd _ k hk
  exact ⟨k', hk', le_trans hle' hle⟩

theorem SearchInv.seedJump (hs : SearchInv v (fun _ => False) s) {src dest : TileKey W}
    (hsrc : src ∈ v.sources) (hdest : dest ∈ v.dockLinks src) :
    SearchInv v (fun _ => False) (s.seedJump v src dest)
      ∧ LabelsDrop s (s.seedJump v src dest) ∧ Landed v (s.seedJump v src dest) dest := by
  unfold Search.seedJump
  cases hpass : v.classifyIfPassable dest with
  | none =>
      refine ⟨hs, LabelsDrop.refl s, ?_⟩
      intro himp hreach
      rw [Survey.classifyIfPassable_of himp hreach] at hpass
      cases hpass
  | some classified =>
      obtain ⟨rfl, -, -⟩ := Survey.classifyIfPassable_eq_some hpass
      have hcost : (v.classify dest).durationMs
          = 0 + moveCost v ⟨src, none⟩ ⟨dest, none⟩ := by
        unfold moveCost turnTo
        rw [zero_add, add_zero]
      have hrelax := relax_label (v := v) s ⟨src, none⟩ ⟨dest, none⟩
        (v.classify dest).durationMs true
      refine ⟨?_, hrelax.2, fun _ _ => hrelax.1⟩
      dsimp only
      rw [hcost]
      refine hs.relax (.jump src dest _ hsrc hdest hpass) (hs.sourced src hsrc) ?_
      intro _ hsource
      rw [← hcost, Survey.classify_eq_OWN_iff.mpr hsource]
      rfl

theorem seedJumps_spec {src : TileKey W} (hsrc : src ∈ v.sources) (l : List (TileKey W)) :
    ∀ s : Search W, (∀ dest ∈ l, dest ∈ v.dockLinks src) → SearchInv v (fun _ => False) s →
      SearchInv v (fun _ => False) (l.foldl (Search.seedJump v src) s)
        ∧ LabelsDrop s (l.foldl (Search.seedJump v src) s)
        ∧ ∀ dest ∈ l, Landed v (l.foldl (Search.seedJump v src) s) dest := by
  induction l with
  | nil =>
      intro s _ hs
      exact ⟨hs, LabelsDrop.refl s, fun _ h => (by cases h)⟩
  | cons dest rest ih =>
      intro s hl hs
      obtain ⟨hs', hdrop, hlanded⟩ := hs.seedJump hsrc (hl dest List.mem_cons_self)
      obtain ⟨hend, hdrop', hrest⟩ := ih _ (fun d hd => hl d (List.mem_cons_of_mem _ hd)) hs'
      refine ⟨hend, hdrop.trans hdrop', ?_⟩
      intro d hd
      rcases List.mem_cons.mp hd with rfl | hin
      · exact hlanded.drop hdrop'
      · exact hrest d hin

theorem seedDocks_spec (l : List (TileKey W)) :
    ∀ s : Search W, (∀ src ∈ l, src ∈ v.sources) → SearchInv v (fun _ => False) s →
      SearchInv v (fun _ => False) (l.foldl (Search.seedDocks v) s)
        ∧ LabelsDrop s (l.foldl (Search.seedDocks v) s)
        ∧ ∀ src ∈ l, ∀ dest ∈ v.dockLinks src, Landed v (l.foldl (Search.seedDocks v) s) dest := by
  induction l with
  | nil =>
      intro s _ hs
      exact ⟨hs, LabelsDrop.refl s, fun _ h => (by cases h)⟩
  | cons src rest ih =>
      intro s hl hs
      obtain ⟨hs', hdrop, hlanded⟩ :=
        seedJumps_spec (hl src List.mem_cons_self) (v.dockLinks src) s (fun _ h => h) hs
      obtain ⟨hend, hdrop', hrest⟩ :=
        ih (s.seedDocks v src) (fun x hx => hl x (List.mem_cons_of_mem _ hx)) hs'
      refine ⟨hend, hdrop.trans hdrop', ?_⟩
      intro x hx dest hdest
      rcases List.mem_cons.mp hx with rfl | hin
      · exact (hlanded dest hdest).drop hdrop'
      · exact hrest x hin dest hdest

/-- **The invariant holds before the first turn**, and every landing is
labelled. -/
theorem searchInv_seeded (v : Survey W) : SearchInv v (fun _ => False) (Search.seeded v)
    ∧ ∀ src ∈ v.sources, ∀ dest ∈ v.dockLinks src, Landed v (Search.seeded v) dest := by
  have hsources := sourcesSeeded_foldl v.sources [] Search.start (sourcesSeeded_start (v := v))
  rw [List.nil_append] at hsources
  obtain ⟨hinv, -, hlanded⟩ := seedDocks_spec v.sources _ (fun _ h => h) hsources.inv
  exact ⟨hinv, hlanded⟩

/-! ## §6. One turn. -/

/-- What has been relaxed of the state being expanded. -/
def VisitedTo (v : Survey W) (s : Search W) (current : SearchNode W) (currentG : ℚ)
    (dirIdx : Fin 8) : Prop :=
  v.classify (neighborOf current.tile dirIdx) ≠ .IMPASSABLE →
    v.outOfReach (neighborOf current.tile dirIdx) = false →
      ∃ k, s.gScore ⟨neighborOf current.tile dirIdx, some dirIdx⟩ = some k
        ∧ k ≤ currentG + moveCost v current ⟨neighborOf current.tile dirIdx, some dirIdx⟩

theorem SearchInv.visit (hs : SearchInv v waived s) {current : SearchNode W} {currentG : ℚ}
    (hlabel : s.gScore current = some currentG) (dirIdx : Fin 8) :
    SearchInv v waived (s.visit v current currentG dirIdx)
      ∧ LabelsDrop s (s.visit v current currentG dirIdx)
      ∧ (s.visit v current currentG dirIdx).gScore current = some currentG
      ∧ VisitedTo v (s.visit v current currentG dirIdx) current currentG dirIdx
      ∧ (s.visit v current currentG dirIdx).heap.size ≤ s.heap.size + 1
      ∧ (s.visit v current currentG dirIdx).expanded = s.expanded := by
  unfold Search.visit VisitedTo
  cases hpass : v.classifyIfPassable (neighborOf current.tile dirIdx) with
  | none =>
      refine ⟨hs, LabelsDrop.refl s, hlabel, ?_, Nat.le_succ _, rfl⟩
      intro himp hreach
      rw [Survey.classifyIfPassable_of himp hreach] at hpass
      cases hpass
  | some classified =>
      obtain ⟨rfl, -, -⟩ := Survey.classifyIfPassable_eq_some hpass
      dsimp only
      have hcost : currentG + (v.classify (neighborOf current.tile dirIdx)).durationMs
            + turnPenalty current.dir dirIdx
          = currentG + moveCost v current ⟨neighborOf current.tile dirIdx, some dirIdx⟩ := by
        unfold moveCost turnTo
        rw [add_assoc]
      rw [hcost]
      have hrelax := relax_label (v := v) s current ⟨neighborOf current.tile dirIdx, some dirIdx⟩
        (currentG + moveCost v current ⟨neighborOf current.tile dirIdx, some dirIdx⟩) false
      refine ⟨hs.relax (.walk current dirIdx _ hpass) hlabel (fun h => (by cases h)), hrelax.2,
        ?_, fun _ _ => hrelax.1, ?_, ?_⟩
      · rw [relax_label_ne s _ false]
        · exact hlabel
        · intro heq
          exact neighborOf_ne current.tile dirIdx (congrArg SearchNode.tile heq).symm
      · unfold Search.relax
        split
        · exact le_of_eq (BinaryHeap.MinHeap.size_push _ _)
        · exact Nat.le_succ _
      · unfold Search.relax
        split
        · rfl
        · rfl

theorem visits_spec {current : SearchNode W} {currentG : ℚ} (l : List (Fin 8)) :
    ∀ s : Search W, SearchInv v waived s →
      s.gScore current = some currentG →
      SearchInv v waived (l.foldl (Search.visit v current currentG) s)
        ∧ LabelsDrop s (l.foldl (Search.visit v current currentG) s)
        ∧ (l.foldl (Search.visit v current currentG) s).gScore current = some currentG
        ∧ (∀ dirIdx ∈ l,
          VisitedTo v (l.foldl (Search.visit v current currentG) s) current currentG dirIdx)
        ∧ (l.foldl (Search.visit v current currentG) s).heap.size ≤ s.heap.size + l.length
        ∧ (l.foldl (Search.visit v current currentG) s).expanded = s.expanded := by
  induction l with
  | nil =>
      intro s hs hlabel
      exact ⟨hs, LabelsDrop.refl s, hlabel, fun _ h => (by cases h), Nat.le_refl _, rfl⟩
  | cons dirIdx rest ih =>
      intro s hs hlabel
      obtain ⟨hs', hdrop, hlabel', hvisited, hsize, hexp⟩ := hs.visit hlabel dirIdx
      obtain ⟨hend, hdrop', hlabelEnd, hrest, hsize', hexp'⟩ := ih _ hs' hlabel'
      refine ⟨hend, hdrop.trans hdrop', hlabelEnd, ?_, ?_, hexp'.trans hexp⟩
      · intro d hd
        rcases List.mem_cons.mp hd with rfl | hin
        · intro himp hreach
          obtain ⟨k, hk, hle⟩ := hvisited himp hreach
          obtain ⟨k', hk', hle'⟩ := hdrop' _ k hk
          exact ⟨k', hk', le_trans hle' hle⟩
        · exact hrest d hin
      · rw [List.length_cons]
        show (rest.foldl (Search.visit v current currentG)
          (s.visit v current currentG dirIdx)).heap.size ≤ _
        omega

theorem SearchInv.take {s : Search W} (hs : SearchInv v (fun _ => False) s)
    {popped : HeapEntry W} {rest : BinaryHeap.MinHeap (fun entry : HeapEntry W => entry.score)}
    (hpop : s.heap.pop = some (popped, rest)) :
    SearchInv v (fun n => n = popped.node) { s with heap := rest } := by
  refine { sourced := hs.sourced, moved := hs.moved, rooted := hs.rooted, pays := hs.pays,
           queueSound := ?_, frontier := ?_, nonneg := hs.nonneg }
  · intro score n hq
    exact hs.queueSound score n ((BinaryHeap.MinHeap.mem_pop hpop _).mpr (Or.inr hq))
  · refine @BestFirst.Frontier.take _ _ _ _ _ _ _ _ _ _ hs.frontier _ popped.score
      (fun score n hq => ?_)
    rcases (BinaryHeap.MinHeap.mem_pop hpop _).mp hq with heq | hin
    · exact Or.inl ⟨congrArg HeapEntry.score heq, congrArg HeapEntry.node heq⟩
    · exact Or.inr hin

theorem SearchInv.skip {s : Search W} (hs : SearchInv v (fun _ => False) s)
    {popped : HeapEntry W} {rest : BinaryHeap.MinHeap (fun entry : HeapEntry W => entry.score)}
    (hpop : s.heap.pop = some (popped, rest))
    (hstale : ∀ k, s.gScore popped.node = some k → k + v.h popped.node.tile < popped.score) :
    SearchInv v (fun _ => False) { s with heap := rest } := by
  have htake := hs.take hpop
  refine { sourced := hs.sourced, moved := hs.moved, rooted := hs.rooted, pays := hs.pays,
           queueSound := htake.queueSound, frontier := ?_, nonneg := hs.nonneg }
  refine @BestFirst.Frontier.skip _ _ _ _ _ _ _ _ _ _ hs.frontier popped.node popped.score
    (fun score n hq => ?_) hstale
  rcases (BinaryHeap.MinHeap.mem_pop hpop _).mp hq with heq | hin
  · exact Or.inl ⟨congrArg HeapEntry.score heq, congrArg HeapEntry.node heq⟩
  · exact Or.inr hin

theorem SearchInv.expand {s : Search W} {current : SearchNode W} {currentG : ℚ}
    (hs : SearchInv v (fun n => n = current) s) (hlabel : s.gScore current = some currentG)
    (hgoal : current.tile ≠ v.goal) :
    SearchInv v (fun _ => False) (s.expand v current currentG)
      ∧ LabelsDrop s (s.expand v current currentG)
      ∧ (s.expand v current currentG).heap.size ≤ s.heap.size + 8
      ∧ (s.expand v current currentG).expanded = s.expanded + 1 := by
  have hcounted : SearchInv v (fun n => n = current) { s with expanded := s.expanded + 1 } :=
    ⟨hs.sourced, hs.moved, hs.rooted, hs.pays, hs.queueSound, hs.frontier, hs.nonneg⟩
  obtain ⟨hend, hdrop, hlabelEnd, hvisited, hsize, hexp⟩ :=
    visits_spec (List.finRange 8) _ hcounted hlabel
  refine ⟨?_, hdrop, ?_, hexp⟩
  · refine { sourced := hend.sourced, moved := hend.moved, rooted := hend.rooted,
             pays := hend.pays, queueSound := hend.queueSound, frontier := ?_,
             nonneg := hend.nonneg }
    refine hend.frontier.settle hgoal ?_
    intro k hk n cost hmove
    have hsame : k = currentG := Option.some.inj (hk.symm.trans hlabelEnd)
    subst hsame
    obtain ⟨dirIdx, rfl, rfl, himp, hreach, -⟩ := hmove
    exact hvisited dirIdx (List.mem_finRange dirIdx) himp hreach
  · rw [List.length_finRange] at hsize
    exact hsize

/-! ## §7. The whole search. -/

/-- What is left to pop: what is queued and what can still be pushed. -/
def turnsLeft (s : Search W) : Nat := s.heap.size + DIR_CODES * (maxExpanded - s.expanded)

/-- A search that ended without a goal: when the budget sufficed it ran dry
or reached the cap. -/
structure EndedWithout (v : Survey W) (fuel : Nat) (s s' : Search W) : Prop where
  inv : SearchInv v (fun _ => False) s'
  drop : LabelsDrop s s'
  ended : turnsLeft s < fuel → s'.heap.entries = [] ∨ maxExpanded ≤ s'.expanded

structure EndedAt (v : Survey W) (s s' : Search W) (popped : HeapEntry W)
    (rest : BinaryHeap.MinHeap (fun entry : HeapEntry W => entry.score)) : Prop where
  inv : SearchInv v (fun _ => False) s'
  drop : LabelsDrop s s'
  pop : s'.heap.pop = some (popped, rest)
  goal : popped.node.tile = v.goal

/-- **The run lemma**: the invariant holds where the loop ends. -/
theorem searchLoop_spec (fuel : Nat) : ∀ s : Search W, SearchInv v (fun _ => False) s →
    (∃ s', searchLoop v fuel s = (s', none) ∧ EndedWithout v fuel s s')
      ∨ ∃ s' popped rest, searchLoop v fuel s = ({ s' with heap := rest }, some popped.node)
          ∧ EndedAt v s s' popped rest := by
  induction fuel with
  | zero =>
      intro s hs
      exact Or.inl ⟨s, rfl, hs, LabelsDrop.refl s, fun h => absurd h (Nat.not_lt_zero _)⟩
  | succ fuel ih =>
      intro s hs
      -- a turn that leads to `next` ends as the rest of the loop does
      have hturn : ∀ next : Search W, searchLoop v (fuel + 1) s = searchLoop v fuel next →
          SearchInv v (fun _ => False) next → LabelsDrop s next →
          turnsLeft next < turnsLeft s →
          (∃ s', searchLoop v (fuel + 1) s = (s', none) ∧ EndedWithout v (fuel + 1) s s')
            ∨ ∃ s' popped rest,
                searchLoop v (fuel + 1) s = ({ s' with heap := rest }, some popped.node)
                  ∧ EndedAt v s s' popped rest := by
        intro next hstep hnext hdrop hless
        rw [hstep]
        rcases ih next hnext with ⟨s', heq, hend⟩ | ⟨s', popped, rest, heq, hend⟩
        · exact Or.inl ⟨s', heq, hend.inv, hdrop.trans hend.drop, fun h => hend.ended (by omega)⟩
        · exact Or.inr ⟨s', popped, rest, heq, hend.inv, hdrop.trans hend.drop, hend.pop, hend.goal⟩
      by_cases hcap : s.expanded < maxExpanded
      · cases hpop : s.heap.pop with
        | none =>
            refine Or.inl ⟨s, ?_, hs, LabelsDrop.refl s,
              fun _ => Or.inl ((BinaryHeap.MinHeap.pop_eq_none_iff _).mp hpop)⟩
            rw [searchLoop, if_pos hcap, hpop]
        | some pair =>
            obtain ⟨popped, rest⟩ := pair
            have hsize := BinaryHeap.MinHeap.size_pop hpop
            have hentry : s.queued popped.score popped.node :=
              (BinaryHeap.MinHeap.mem_pop hpop _).mpr (Or.inl rfl)
            obtain ⟨currentG, hlabel, hscore⟩ := hs.queueSound _ _ hentry
            have hfewer : turnsLeft { s with heap := rest } < turnsLeft s := by
              unfold turnsLeft
              dsimp only
              omega
            by_cases hstale : currentG + v.h popped.node.tile < popped.score
            · refine hturn { s with heap := rest } ?_ ?_ (LabelsDrop.refl s) hfewer
              · rw [searchLoop, if_pos hcap, hpop]
                dsimp only
                rw [hlabel]
                exact if_pos hstale
              · refine hs.skip hpop ?_
                intro k hk
                rw [Option.some.inj (hk.symm.trans hlabel)]
                exact hstale
            · by_cases hgoal : popped.node.tile = v.goal
              · refine Or.inr ⟨s, popped, rest, ?_, hs, LabelsDrop.refl s, hpop, hgoal⟩
                rw [searchLoop, if_pos hcap, hpop]
                dsimp only
                rw [hlabel]
                dsimp only
                rw [if_neg hstale, if_pos hgoal]
              · obtain ⟨hnext, hdrop, hgrown, hexp⟩ :=
                  @SearchInv.expand _ _ _ _ currentG (hs.take hpop) hlabel hgoal
                refine hturn _ ?_ hnext hdrop ?_
                · rw [searchLoop, if_pos hcap, hpop]
                  dsimp only
                  rw [hlabel]
                  dsimp only
                  rw [if_neg hstale, if_neg hgoal]
                · unfold turnsLeft DIR_CODES at *
                  rw [hexp]
                  dsimp only at hgrown hfewer ⊢
                  omega
      · refine Or.inl ⟨s, ?_, hs, LabelsDrop.refl s, fun _ => Or.inr (Nat.not_lt.mp hcap)⟩
        rw [searchLoop, if_neg hcap]

theorem seeded_expanded_le (v : Survey W) : turnsLeft (Search.seeded v) < turnBudget (Search.seeded v) := by
  unfold turnsLeft turnBudget DIR_CODES
  omega

theorem search_spec (v : Survey W) :
    (∃ s', search v = (s', none)
        ∧ EndedWithout v (turnBudget (Search.seeded v)) (Search.seeded v) s')
      ∨ ∃ s' popped rest, search v = ({ s' with heap := rest }, some popped.node)
          ∧ EndedAt v (Search.seeded v) s' popped rest :=
  searchLoop_spec _ _ (searchInv_seeded v).1

/-- **The budget is never what ends the search.** -/
theorem searchLoop_ended {s' : Search W} (h : search v = (s', none)) :
    s'.heap.entries = [] ∨ maxExpanded ≤ s'.expanded := by
  rcases search_spec v with ⟨s'', heq, hend⟩ | ⟨s'', popped, rest, heq, -⟩
  · rw [h] at heq
    cases heq
    exact hend.ended (seeded_expanded_le v)
  · rw [h] at heq
    exact (nomatch congrArg Prod.snd heq)

/-! ## §8. Walking back. -/

def SearchNode.equivProd : TileKey W × Option (Fin 8) ≃ SearchNode W where
  toFun p := ⟨p.1, p.2⟩
  invFun n := (n.tile, n.dir)
  left_inv _ := rfl
  right_inv _ := rfl

instance : Fintype (SearchNode W) := Fintype.ofEquiv _ SearchNode.equivProd

theorem SearchNode.card : Fintype.card (SearchNode W) = W.width * W.height * DIR_CODES := by
  rw [← Fintype.card_congr SearchNode.equivProd, Fintype.card_prod, TileKey.card,
    Fintype.card_option, Fintype.card_fin]
  rfl

/-- **A walk back that outlasts the states never ends**, whatever budget it
is given. -/
theorem walkBack_never {goalState : SearchNode W} (h : reconstruct v s goalState = none)
    (turns : Nat) :
    BestFirst.traceBack (fun node => v.preOwned node.tile) s.cameFrom turns goalState [] = none := by
  unfold reconstruct at h
  rw [← SearchNode.card] at h
  exact BestFirst.traceBack_never h turns

end BorderEmpires.Waypoints
