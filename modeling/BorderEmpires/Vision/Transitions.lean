/-
  BorderEmpires.Vision.Transitions
  **WHAT ENTERED A VIEWER'S VISION, AND WHAT LEFT IT.**

  The accumulator hears every edge the coverage reports between two calls
  of `take`; an edge cancels the opposite one.  The net result is right as
  long as the edges of a cell alternate.  A removal, though, reports a cell
  as left whenever its refcount ends at zero, even if it was at zero
  before.
-/
import BorderEmpires.Lib.Run
import BorderEmpires.Vision.Accounts
import BorderEmpires.Vision.TerrainRuns

namespace BorderEmpires.Vision

variable {W : WorldSize}

/-! ## §1. The accumulator. -/

/-- A `Map<string, Set<string>>`. -/
abbrev TilesByViewer (W : WorldSize) := InsertionMap PlayerId (Finset (TileKey W))

def TilesByViewer.of (map : TilesByViewer W) (viewerId : PlayerId) : Finset (TileKey W) :=
  (map.get viewerId).getD ∅

structure VisionTransitionAccumulator (W : WorldSize) where
  entered : TilesByViewer W
  left : TilesByViewer W

namespace VisionTransitionAccumulator

/-- As `take` leaves it. -/
def fresh : VisionTransitionAccumulator W := ⟨.empty, .empty⟩

/-- `recordEdge`: the opposite edge is taken back, or else this one is
kept; the second component is the target. -/
def recordEdge (opposite target : TilesByViewer W) (viewerId : PlayerId) (tileKey : TileKey W) :
    TilesByViewer W × TilesByViewer W :=
  if tileKey ∈ opposite.of viewerId then
    (opposite.set viewerId ((opposite.of viewerId).erase tileKey), target)
  else (opposite, target.set viewerId (insert tileKey (target.of viewerId)))

def record (acc : VisionTransitionAccumulator W) :
    VisionEdge W → VisionTransitionAccumulator W
  | .enter viewerId tileKey =>
      let recorded := recordEdge acc.left acc.entered viewerId tileKey
      ⟨recorded.2, recorded.1⟩
  | .leave viewerId tileKey =>
      let recorded := recordEdge acc.entered acc.left viewerId tileKey
      ⟨recorded.1, recorded.2⟩

end VisionTransitionAccumulator

/-! ## §2. Coverage changes. -/

inductive CoverageCall (W : WorldSize) where
  | addFootprint (viewerId : PlayerId) (cells : List (TileKey W))
  | removeFootprint (viewerId : PlayerId) (cells : List (TileKey W))

namespace VisibilityCoverageCache

def call (cache : VisibilityCoverageCache W) : CoverageCall W → VisibilityCoverageCache W
  | .addFootprint viewerId cells => cache.addFootprint viewerId cells true
  | .removeFootprint viewerId cells => cache.removeFootprint viewerId cells true

/-- What has accumulated since the cache was `before`. -/
def taken (before cache : VisibilityCoverageCache W) : VisionTransitionAccumulator W :=
  (cache.edges.drop before.edges.length).foldl VisionTransitionAccumulator.record .fresh

/-- Entered is what is visible now and was not then; left is what was
visible then and is not now. -/
def TakenRight (before cache : VisibilityCoverageCache W) : Prop :=
  ∀ viewerId tileKey,
    (tileKey ∈ (taken before cache).entered.of viewerId
        ↔ cache.isVisible viewerId tileKey = true ∧ before.isVisible viewerId tileKey = false)
      ∧ (tileKey ∈ (taken before cache).left.of viewerId
        ↔ before.isVisible viewerId tileKey = true ∧ cache.isVisible viewerId tileKey = false)

/-- A removal visits the cell more often than its refcount, for a viewer
who has a map. -/
def Ghost (cache : VisibilityCoverageCache W) (viewerId : PlayerId) (tileKey : TileKey W) :
    CoverageCall W → Prop
  | .addFootprint _ _ => False
  | .removeFootprint viewer cells => viewer = viewerId
      ∧ (cache.coverage.get viewerId).isSome = true
      ∧ cache.refcount viewerId tileKey < cells.count tileKey

/-- A ghost is only made of what was visible at the previous `take`. -/
def GhostsSeen (before cache : VisibilityCoverageCache W) (call : CoverageCall W) : Prop :=
  ∀ viewerId tileKey, cache.Ghost viewerId tileKey call → before.isVisible viewerId tileKey = true

end VisibilityCoverageCache

/-! ## §3. One edge. -/

/-- The marks of a cell: what the accumulator holds when the cell counts as
`seen` at the start and is `visible` now. -/
structure Marks (acc : VisionTransitionAccumulator W) (viewerId : PlayerId) (tileKey : TileKey W)
    (seen visible : Prop) : Prop where
  entered : tileKey ∈ acc.entered.of viewerId ↔ visible ∧ ¬ seen
  left : tileKey ∈ acc.left.of viewerId ↔ seen ∧ ¬ visible

theorem TilesByViewer.mem_of_set (map : TilesByViewer W) (viewerId v : PlayerId)
    (tiles : Finset (TileKey W)) (tileKey : TileKey W) :
    tileKey ∈ TilesByViewer.of (map.set viewerId tiles) v
      ↔ if viewerId = v then tileKey ∈ tiles else tileKey ∈ map.of v := by
  unfold TilesByViewer.of
  rw [InsertionMap.get_set]
  by_cases h : viewerId = v
  · rw [if_pos h, if_pos h, Option.getD_some]
  · rw [if_neg h, if_neg h]

namespace VisionTransitionAccumulator

/-- **What an edge changes**: its own cell, in the opposite set or in its
own. -/
theorem mem_recordEdge (opposite target : TilesByViewer W) (viewerId v : PlayerId)
    (key tileKey : TileKey W) :
    (tileKey ∈ (recordEdge opposite target viewerId key).1.of v
        ↔ tileKey ∈ opposite.of v ∧ ¬ (viewerId = v ∧ key = tileKey))
      ∧ (tileKey ∈ (recordEdge opposite target viewerId key).2.of v
        ↔ tileKey ∈ target.of v ∨ ((viewerId = v ∧ key = tileKey) ∧ tileKey ∉ opposite.of v)) := by
  unfold recordEdge
  by_cases hv : viewerId = v
  · subst hv
    by_cases hkey : key = tileKey
    · subst hkey
      split
      next hmem => simp [TilesByViewer.mem_of_set, hmem]
      next hnot => simp [TilesByViewer.mem_of_set, hnot]
    · have hkey' : tileKey ≠ key := fun h => hkey h.symm
      split
      · simp [TilesByViewer.mem_of_set, hkey, hkey']
      · simp [TilesByViewer.mem_of_set, hkey, hkey']
  · split
    · simp [TilesByViewer.mem_of_set, hv]
    · simp [TilesByViewer.mem_of_set, hv]

theorem marks_fresh (viewerId : PlayerId) (tileKey : TileKey W) (visible : Prop) :
    Marks fresh viewerId tileKey visible visible := by
  constructor
  · simp [fresh, TilesByViewer.of]
  · simp [fresh, TilesByViewer.of]

end VisionTransitionAccumulator

open VisionTransitionAccumulator (record mem_recordEdge)

variable {acc : VisionTransitionAccumulator W} {viewerId : PlayerId} {tileKey : TileKey W}
  {seen visible : Prop}

theorem Marks.enter (h : Marks acc viewerId tileKey seen visible) (hnot : ¬ visible) :
    Marks (record acc (.enter viewerId tileKey)) viewerId tileKey seen True where
  entered := by
    refine (mem_recordEdge acc.left acc.entered viewerId viewerId tileKey tileKey).2.trans ?_
    rw [h.entered, h.left]
    by_cases hseen : seen <;> simp [hseen, hnot]
  left := by
    refine (mem_recordEdge acc.left acc.entered viewerId viewerId tileKey tileKey).1.trans ?_
    simp

theorem Marks.leave (h : Marks acc viewerId tileKey seen visible) :
    Marks (record acc (.leave viewerId tileKey)) viewerId tileKey (seen ∨ ¬ visible) False where
  entered := by
    refine (mem_recordEdge acc.entered acc.left viewerId viewerId tileKey tileKey).1.trans ?_
    simp
  left := by
    refine (mem_recordEdge acc.entered acc.left viewerId viewerId tileKey tileKey).2.trans ?_
    rw [h.entered, h.left]
    by_cases hseen : seen <;> by_cases hvisible : visible <;> simp [hseen, hvisible]

theorem Marks.other (h : Marks acc viewerId tileKey seen visible) {v : PlayerId} {key : TileKey W}
    (hne : ¬ (v = viewerId ∧ key = tileKey)) :
    Marks (record acc (.enter v key)) viewerId tileKey seen visible
      ∧ Marks (record acc (.leave v key)) viewerId tileKey seen visible := by
  have henter := mem_recordEdge acc.left acc.entered v viewerId key tileKey
  have hleave := mem_recordEdge acc.entered acc.left v viewerId key tileKey
  simp only [hne, not_false_eq_true, and_true, false_and, or_false] at henter hleave
  exact ⟨⟨henter.2.trans h.entered, henter.1.trans h.left⟩,
    ⟨hleave.1.trans h.entered, hleave.2.trans h.left⟩⟩

theorem Marks.congr (h : Marks acc viewerId tileKey seen visible) {seen' visible' : Prop}
    (hseen : seen ↔ seen') (hvisible : visible ↔ visible') :
    Marks acc viewerId tileKey seen' visible' := by
  rwa [← propext hseen, ← propext hvisible]

/-! ## §4. One call. -/

def VisionEdge.viewer : VisionEdge W → PlayerId
  | .enter viewerId _ => viewerId
  | .leave viewerId _ => viewerId

/-- What the accumulator heard since there were `n` edges. -/
def heard (n : ℕ) (edges : List (VisionEdge W)) : VisionTransitionAccumulator W :=
  (edges.drop n).foldl record .fresh

theorem heard_append {n : ℕ} {edges : List (VisionEdge W)} (h : n ≤ edges.length)
    (new : List (VisionEdge W)) : heard n (edges ++ new) = new.foldl record (heard n edges) := by
  unfold heard
  rw [List.drop_append_of_le_length h, List.foldl_append]

theorem Marks.others {new : List (VisionEdge W)} (hnew : ∀ edge ∈ new, edge.viewer ≠ viewerId) :
    ∀ {acc : VisionTransitionAccumulator W}, Marks acc viewerId tileKey seen visible →
      Marks (new.foldl record acc) viewerId tileKey seen visible := by
  induction new with
  | nil => exact fun h => h
  | cons edge new ih =>
      intro acc h
      rw [List.foldl_cons]
      apply ih (fun e he => hnew e (List.mem_cons_of_mem edge he))
      have hedge := hnew edge List.mem_cons_self
      cases edge with
      | enter v key => exact (h.other fun heq => hedge heq.1).1
      | leave v key => exact (h.other fun heq => hedge heq.1).2

namespace VisibilityCoverageCache

theorem edges_foldl {viewer : PlayerId}
    {visit : CellCounts W × List (VisionEdge W) → TileKey W → CellCounts W × List (VisionEdge W)}
    (hvisit : ∀ s cell, ∃ new, (visit s cell).2 = s.2 ++ new ∧ ∀ edge ∈ new, edge.viewer = viewer)
    (cells : List (TileKey W)) :
    ∀ s, ∃ new, (cells.foldl visit s).2 = s.2 ++ new ∧ ∀ edge ∈ new, edge.viewer = viewer := by
  induction cells with
  | nil =>
      intro s
      exact ⟨[], (List.append_nil _).symm, fun _ h => (by cases h)⟩
  | cons cell cells ih =>
      intro s
      obtain ⟨new, hnew, hviewer⟩ := ih (visit s cell)
      obtain ⟨first, hfirst, hof⟩ := hvisit s cell
      refine ⟨first ++ new, by rw [List.foldl_cons, hnew, hfirst, List.append_assoc], ?_⟩
      intro edge hedge
      exact (List.mem_append.mp hedge).elim (hof edge) (hviewer edge)

theorem edges_foldl_addCell (viewer : PlayerId) (cells : List (TileKey W)) :
    ∀ s, ∃ new, (cells.foldl (addCell viewer true) s).2 = s.2 ++ new
      ∧ ∀ edge ∈ new, edge.viewer = viewer := by
  refine edges_foldl (fun s cell => ?_) cells
  unfold addCell
  dsimp only
  split
  · exact ⟨[.enter viewer cell], rfl, by simp [VisionEdge.viewer]⟩
  · exact ⟨[], (List.append_nil _).symm, by simp⟩

theorem edges_foldl_removeCell (viewer : PlayerId) (cells : List (TileKey W)) :
    ∀ s, ∃ new, (cells.foldl (removeCell viewer true) s).2 = s.2 ++ new
      ∧ ∀ edge ∈ new, edge.viewer = viewer := by
  refine edges_foldl (fun s cell => ?_) cells
  unfold removeCell
  dsimp only
  split
  · exact ⟨[.leave viewer cell], rfl, by simp [VisionEdge.viewer]⟩
  · exact ⟨[], (List.append_nil _).symm, by simp⟩

/-- **The visits of an addition** report the cell when its count leaves
zero. -/
theorem marks_foldl_addCell {n : ℕ} (cells : List (TileKey W)) :
    ∀ s : CellCounts W × List (VisionEdge W), n ≤ s.2.length →
      Marks (heard n s.2) viewerId tileKey seen (0 < s.1.count tileKey) →
      Marks (heard n (cells.foldl (addCell viewerId true) s).2) viewerId tileKey seen
        (0 < (cells.foldl (addCell viewerId true) s).1.count tileKey) := by
  induction cells with
  | nil => exact fun _ _ h => h
  | cons cell cells ih =>
      intro s hn h
      rw [List.foldl_cons]
      have hcount : (addCell viewerId true s cell).1.count tileKey
          = s.1.count tileKey + if cell = tileKey then 1 else 0 :=
        CellCounts.count_increment s.1 cell tileKey
      by_cases hfire : s.1.count cell = 0
      · have hedges : (addCell viewerId true s cell).2 = s.2 ++ [.enter viewerId cell] := by
          simp [addCell, hfire]
        apply ih
        · rw [hedges, List.length_append]
          omega
        · rw [hedges, heard_append hn, hcount]
          by_cases hcell : cell = tileKey
          · subst hcell
            exact (h.enter (by omega)).congr Iff.rfl (by simp)
          · rw [if_neg hcell]
            exact (h.other fun heq => hcell heq.2).1
      · have hedges : (addCell viewerId true s cell).2 = s.2 := by
          simp [addCell, hfire]
        apply ih
        · rw [hedges]
          exact hn
        · rw [hedges, hcount]
          refine h.congr Iff.rfl ?_
          by_cases hcell : cell = tileKey
          · subst hcell
            simp only [if_true]
            omega
          · rw [if_neg hcell, Nat.add_zero]

/-- **The visits of a removal** report the cell when its count ends at zero,
and a cell that they visit once too often as if it had been seen. -/
theorem marks_foldl_removeCell {n : ℕ} (cells : List (TileKey W)) :
    ∀ (s : CellCounts W × List (VisionEdge W)) (seen : Prop), n ≤ s.2.length →
      Marks (heard n s.2) viewerId tileKey seen (0 < s.1.count tileKey) →
      Marks (heard n (cells.foldl (removeCell viewerId true) s).2) viewerId tileKey
        (seen ∨ s.1.count tileKey < cells.count tileKey)
        (0 < (cells.foldl (removeCell viewerId true) s).1.count tileKey) := by
  induction cells with
  | nil =>
      intro s seen _ h
      exact h.congr (by simp) Iff.rfl
  | cons cell cells ih =>
      intro s seen hn h
      rw [List.foldl_cons]
      have hcount : (removeCell viewerId true s cell).1.count tileKey
          = s.1.count tileKey - if cell = tileKey then 1 else 0 :=
        CellCounts.count_decrement s.1 cell tileKey
      have hvisits : (cell :: cells).count tileKey
          = cells.count tileKey + if cell = tileKey then 1 else 0 := by
        rw [List.count_cons]
        simp
      by_cases hfire : s.1.count cell - 1 = 0
      · have hedges : (removeCell viewerId true s cell).2 = s.2 ++ [.leave viewerId cell] := by
          simp [removeCell, hfire]
        have hn' : n ≤ (removeCell viewerId true s cell).2.length := by
          rw [hedges, List.length_append]
          omega
        by_cases hcell : cell = tileKey
        · subst hcell
          rw [if_pos rfl] at hcount hvisits
          have hnext : Marks (heard n (removeCell viewerId true s cell).2) viewerId cell
              (seen ∨ ¬ 0 < s.1.count cell)
              (0 < (removeCell viewerId true s cell).1.count cell) := by
            rw [hedges, heard_append hn, hcount]
            exact h.leave.congr Iff.rfl (by simp; omega)
          refine (ih _ _ hn' hnext).congr ?_ Iff.rfl
          rw [hcount, hvisits, or_assoc]
          refine or_congr_right ?_
          omega
        · rw [if_neg hcell] at hcount hvisits
          have hnext : Marks (heard n (removeCell viewerId true s cell).2) viewerId tileKey seen
              (0 < (removeCell viewerId true s cell).1.count tileKey) := by
            rw [hedges, heard_append hn, hcount]
            exact (h.other fun heq => hcell heq.2).2
          refine (ih _ _ hn' hnext).congr ?_ Iff.rfl
          rw [hcount, hvisits]
          simp
      · have hedges : (removeCell viewerId true s cell).2 = s.2 := by
          simp [removeCell, hfire]
        have hn' : n ≤ (removeCell viewerId true s cell).2.length := by
          rw [hedges]
          exact hn
        have hnext : Marks (heard n (removeCell viewerId true s cell).2) viewerId tileKey seen
            (0 < (removeCell viewerId true s cell).1.count tileKey) := by
          rw [hedges, hcount]
          refine h.congr Iff.rfl ?_
          by_cases hcell : cell = tileKey
          · subst hcell
            rw [if_pos rfl]
            omega
          · rw [if_neg hcell, Nat.sub_zero]
        refine (ih _ _ hn' hnext).congr ?_ Iff.rfl
        rw [hcount, hvisits]
        refine or_congr_right ?_
        by_cases hcell : cell = tileKey
        · subst hcell
          rw [if_pos rfl]
          omega
        · rw [if_neg hcell, Nat.sub_zero, Nat.add_zero]

variable (cache : VisibilityCoverageCache W)

/-- **What an addition leaves** for a cell: nothing but its visibility. -/
theorem marks_addFootprint {n : ℕ} (viewer : PlayerId) (cells : List (TileKey W))
    (hn : n ≤ cache.edges.length)
    (h : Marks (heard n cache.edges) viewerId tileKey seen (0 < cache.refcount viewerId tileKey)) :
    Marks (heard n (cache.addFootprint viewer cells true).edges) viewerId tileKey seen
      (0 < (cache.addFootprint viewer cells true).refcount viewerId tileKey) := by
  have hedges : (cache.addFootprint viewer cells true).edges
      = (cells.foldl (addCell viewer true) (cache.mapFor viewer, cache.edges)).2 := rfl
  rw [hedges, refcount_addFootprint]
  by_cases hviewer : viewer = viewerId
  · subst hviewer
    have hfold := marks_foldl_addCell cells (cache.mapFor viewer, cache.edges) hn h
    rw [count_foldl_addCell] at hfold
    rw [if_pos rfl]
    exact hfold
  · obtain ⟨new, hnew, hof⟩ := edges_foldl_addCell viewer cells (cache.mapFor viewer, cache.edges)
    rw [hnew, heard_append hn, if_neg hviewer, Nat.add_zero]
    exact h.others fun edge hedge heq => hviewer ((hof edge hedge).symm.trans heq)

/-- **What a removal leaves** for a cell: its visibility, and a ghost counts
as seen. -/
theorem marks_removeFootprint {n : ℕ} (viewer : PlayerId) (cells : List (TileKey W))
    (hn : n ≤ cache.edges.length)
    (h : Marks (heard n cache.edges) viewerId tileKey seen (0 < cache.refcount viewerId tileKey)) :
    Marks (heard n (cache.removeFootprint viewer cells true).edges) viewerId tileKey
      (seen ∨ cache.Ghost viewerId tileKey (.removeFootprint viewer cells))
      (0 < (cache.removeFootprint viewer cells true).refcount viewerId tileKey) := by
  rw [refcount_removeFootprint]
  cases hmap : cache.coverage.get viewer with
  | none =>
      have hsame : cache.removeFootprint viewer cells true = cache := by
        unfold removeFootprint
        rw [hmap]
      rw [hsame]
      refine h.congr ?_ ?_
      · refine ⟨Or.inl, fun hor => hor.resolve_right ?_⟩
        rintro ⟨rfl, hsome, -⟩
        rw [hmap] at hsome
        cases hsome
      · by_cases hviewer : viewer = viewerId
        · subst hviewer
          have hzero : cache.refcount viewer tileKey = 0 := by
            unfold refcount mapFor
            rw [hmap]
            rfl
          rw [hzero, Nat.zero_sub]
        · rw [if_neg hviewer, Nat.sub_zero]
  | some map =>
      have hedges : (cache.removeFootprint viewer cells true).edges
          = (cells.foldl (removeCell viewer true) (map, cache.edges)).2 := by
        unfold removeFootprint
        rw [hmap]
        dsimp only
        split <;> rfl
      rw [hedges]
      by_cases hviewer : viewer = viewerId
      · subst hviewer
        have hcount : cache.refcount viewer tileKey = map.count tileKey := by
          unfold refcount mapFor
          rw [hmap, Option.getD_some]
        rw [hcount] at h
        have hfold := marks_foldl_removeCell cells (map, cache.edges) seen hn h
        rw [count_foldl_removeCell] at hfold
        rw [if_pos rfl, hcount]
        refine hfold.congr (or_congr_right ?_) Iff.rfl
        show map.count tileKey < _ ↔ _ ∧ (cache.coverage.get viewer).isSome = true
          ∧ cache.refcount viewer tileKey < _
        rw [hcount, hmap]
        simp
      · obtain ⟨new, hnew, hof⟩ := edges_foldl_removeCell viewer cells (map, cache.edges)
        rw [hnew, heard_append hn, if_neg hviewer, Nat.sub_zero]
        have hothers := h.others fun edge hedge heq =>
          hviewer ((hof edge hedge).symm.trans heq)
        exact hothers.congr ⟨Or.inl, fun hor => hor.resolve_right fun hghost => hviewer hghost.1⟩
          Iff.rfl

theorem edges_call (call : CoverageCall W) :
    cache.edges.length ≤ (cache.call call).edges.length := by
  cases call with
  | addFootprint viewer cells =>
      obtain ⟨new, hnew, -⟩ := edges_foldl_addCell viewer cells (cache.mapFor viewer, cache.edges)
      show _ ≤ (cells.foldl (addCell viewer true) (cache.mapFor viewer, cache.edges)).2.length
      rw [hnew, List.length_append]
      exact Nat.le_add_right _ _
  | removeFootprint viewer cells =>
      show _ ≤ (cache.removeFootprint viewer cells true).edges.length
      cases hmap : cache.coverage.get viewer with
      | none =>
          unfold removeFootprint
          rw [hmap]
      | some map =>
          obtain ⟨new, hnew, -⟩ := edges_foldl_removeCell viewer cells (map, cache.edges)
          have hedges : (cache.removeFootprint viewer cells true).edges
              = (cells.foldl (removeCell viewer true) (map, cache.edges)).2 := by
            unfold removeFootprint
            rw [hmap]
            dsimp only
            split <;> rfl
          rw [hedges, hnew, List.length_append]
          exact Nat.le_add_right _ _

theorem marks_call {n : ℕ} (call : CoverageCall W) (hn : n ≤ cache.edges.length)
    (h : Marks (heard n cache.edges) viewerId tileKey seen (0 < cache.refcount viewerId tileKey)) :
    Marks (heard n (cache.call call).edges) viewerId tileKey
      (seen ∨ cache.Ghost viewerId tileKey call)
      (0 < (cache.call call).refcount viewerId tileKey) := by
  cases call with
  | addFootprint viewer cells =>
      exact (marks_addFootprint cache viewer cells hn h).congr
        ⟨Or.inl, fun hor => hor.resolve_right id⟩ Iff.rfl
  | removeFootprint viewer cells => exact marks_removeFootprint cache viewer cells hn h

/-! ## §5. A window. -/

/-- Some call of the window makes a ghost of the cell. -/
def Haunted (viewerId : PlayerId) (tileKey : TileKey W) :
    VisibilityCoverageCache W → List (CoverageCall W) → Prop
  | _, [] => False
  | cache, call :: calls =>
      cache.Ghost viewerId tileKey call ∨ Haunted viewerId tileKey (cache.call call) calls

/-- **What a window leaves** for a cell: its visibility, and what was a
ghost counts as seen at the start.  The induction is on the calls. -/
theorem marks_window {n : ℕ} (calls : List (CoverageCall W)) :
    ∀ (cache : VisibilityCoverageCache W) (seen : Prop), n ≤ cache.edges.length →
      Marks (heard n cache.edges) viewerId tileKey seen (0 < cache.refcount viewerId tileKey) →
      Marks (heard n (calls.foldl call cache).edges) viewerId tileKey
        (seen ∨ Haunted viewerId tileKey cache calls)
        (0 < (calls.foldl call cache).refcount viewerId tileKey) := by
  induction calls with
  | nil =>
      intro cache seen _ h
      exact h.congr ⟨Or.inl, fun hor => hor.resolve_right id⟩ Iff.rfl
  | cons c calls ih =>
      intro cache seen hn h
      rw [List.foldl_cons]
      have hnext := marks_call cache c hn h
      exact (ih (cache.call c) _ (Nat.le_trans hn (edges_call cache c)) hnext).congr or_assoc Iff.rfl

theorem ghostsSeen_iff (before : VisibilityCoverageCache W) (calls : List (CoverageCall W)) :
    ∀ cache : VisibilityCoverageCache W,
      Run.StepsMeet call (GhostsSeen before) cache calls
        ↔ ∀ viewerId tileKey, Haunted viewerId tileKey cache calls →
          before.isVisible viewerId tileKey = true := by
  induction calls with
  | nil =>
      intro cache
      exact ⟨fun _ _ _ h => h.elim, fun _ => trivial⟩
  | cons c calls ih =>
      intro cache
      constructor
      · rintro ⟨hhere, hlater⟩ viewerId tileKey hhaunted
        rcases hhaunted with hghost | hhaunted
        · exact hhere viewerId tileKey hghost
        · exact (ih _).mp hlater viewerId tileKey hhaunted
      · intro h
        refine ⟨fun viewerId tileKey hghost => h viewerId tileKey (Or.inl hghost), ?_⟩
        exact (ih _).mpr fun viewerId tileKey hhaunted => h viewerId tileKey (Or.inr hhaunted)

/-- Marks say the net result exactly when they count as seen what was
visible. -/
theorem marks_right_iff {acc : VisionTransitionAccumulator W} {viewerId : PlayerId}
    {tileKey : TileKey W} {ghost was visible : Prop}
    (h : Marks acc viewerId tileKey (was ∨ ghost) visible) :
    ((tileKey ∈ acc.entered.of viewerId ↔ visible ∧ ¬ was)
        ∧ (tileKey ∈ acc.left.of viewerId ↔ was ∧ ¬ visible))
      ↔ (ghost → was) := by
  rw [h.entered, h.left]
  by_cases hwas : was <;> by_cases hghost : ghost <;> by_cases hvisible : visible <;>
    simp [hwas, hghost, hvisible]

/-- **The net result is right** exactly when every ghost of the window was
visible at its start. -/
theorem takenRight_iff (before : VisibilityCoverageCache W) (calls : List (CoverageCall W)) :
    TakenRight before (calls.foldl call before)
      ↔ Run.StepsMeet call (GhostsSeen before) before calls := by
  rw [ghostsSeen_iff]
  have hright : ∀ viewerId tileKey,
      ((tileKey ∈ (taken before (calls.foldl call before)).entered.of viewerId
          ↔ (calls.foldl call before).isVisible viewerId tileKey = true
            ∧ before.isVisible viewerId tileKey = false)
        ∧ (tileKey ∈ (taken before (calls.foldl call before)).left.of viewerId
          ↔ before.isVisible viewerId tileKey = true
            ∧ (calls.foldl call before).isVisible viewerId tileKey = false))
      ↔ (Haunted viewerId tileKey before calls → before.isVisible viewerId tileKey = true) := by
    intro viewerId tileKey
    have hstart : Marks (heard before.edges.length before.edges) viewerId tileKey
        (0 < before.refcount viewerId tileKey) (0 < before.refcount viewerId tileKey) := by
      unfold heard
      rw [List.drop_length]
      exact VisionTransitionAccumulator.marks_fresh viewerId tileKey _
    have hmarks := marks_window calls before _ (Nat.le_refl _) hstart
    rw [← isVisible_iff, ← isVisible_iff] at hmarks
    have hiff := marks_right_iff hmarks
    rw [Bool.not_eq_true, Bool.not_eq_true] at hiff
    exact hiff
  constructor
  · intro h viewerId tileKey
    exact (hright viewerId tileKey).mp (h viewerId tileKey)
  · intro h viewerId tileKey
    exact (hright viewerId tileKey).mpr (h viewerId tileKey)

end VisibilityCoverageCache

/-! ## §6. The tracker's operations. -/

namespace VisibilityCoverageCache

def Calls (cache cache' : VisibilityCoverageCache W) : Prop :=
  ∃ calls : List (CoverageCall W), cache' = calls.foldl call cache

variable (cache : VisibilityCoverageCache W)

theorem Calls.refl : Calls cache cache := ⟨[], rfl⟩

theorem Calls.trans {a b c : VisibilityCoverageCache W} (h : Calls a b) (h' : Calls b c) :
    Calls a c := by
  obtain ⟨calls, rfl⟩ := h
  obtain ⟨calls', rfl⟩ := h'
  exact ⟨calls ++ calls', by rw [List.foldl_append]⟩

theorem calls_addFootprint (viewerId : PlayerId) (cells : List (TileKey W)) :
    Calls cache (cache.addFootprint viewerId cells true) :=
  ⟨[.addFootprint viewerId cells], rfl⟩

theorem calls_removeFootprint (viewerId : PlayerId) (cells : List (TileKey W)) :
    Calls cache (cache.removeFootprint viewerId cells true) :=
  ⟨[.removeFootprint viewerId cells], rfl⟩

theorem calls_foldl {α : Type*} {f : VisibilityCoverageCache W → α → VisibilityCoverageCache W}
    (h : ∀ cache a, Calls cache (f cache a)) (l : List α) :
    ∀ cache, Calls cache (l.foldl f cache) := by
  induction l with
  | nil => exact Calls.refl
  | cons a l ih =>
      intro cache
      exact (h cache a).trans (ih (f cache a))

theorem calls_addSourceContribution (viewerId : PlayerId) (footprints : List (List (TileKey W))) :
    Calls cache (cache.addSourceContribution viewerId footprints true) :=
  calls_foldl (fun cache cells => calls_addFootprint cache viewerId cells) footprints cache

theorem calls_removeSourceContribution (viewerId : PlayerId) (footprints : List (List (TileKey W)))
    :
    Calls cache (cache.removeSourceContribution viewerId footprints true) :=
  calls_foldl (fun cache cells => calls_removeFootprint cache viewerId cells) footprints cache

end VisibilityCoverageCache

namespace VisibilityCoverageTracker

open VisibilityCoverageCache (Calls calls_foldl calls_addFootprint calls_removeFootprint
  calls_addSourceContribution calls_removeSourceContribution)

variable (footprint : TileKey W → Nat → List (TileKey W)) (t : VisibilityCoverageTracker W)
  (deps : VisibilityCoverageTrackerDeps W)

def accumulatorCallbacks : VisibilityTransitionCallbacks := ⟨true, true⟩

theorem calls_cancelPrevious (previous : Option TileOwnership) (key : TileKey W) :
    Calls t.cache (t.cancelPrevious footprint deps previous key accumulatorCallbacks).cache := by
  unfold cancelPrevious
  split
  · exact Calls.refl _
  split
  · exact Calls.refl _
  · dsimp only
    rw [(territoryRadius_spec t deps _ _).1]
    exact calls_foldl (fun cache viewerId => calls_removeFootprint cache viewerId _) _ _

theorem calls_applyNext (next : TileOwnership) (key : TileKey W) :
    Calls t.cache (t.applyNext footprint deps next key accumulatorCallbacks).cache := by
  unfold applyNext
  split
  · exact Calls.refl _
  split
  · exact Calls.refl _
  · dsimp only
    rw [(territoryRadius_spec t deps _ _).1]
    exact calls_foldl (fun cache viewerId => calls_addFootprint cache viewerId _) _ _

theorem calls_resyncVisionRadius (playerId : PlayerId) :
    Calls t.cache (t.resyncVisionRadius footprint deps playerId accumulatorCallbacks).cache := by
  unfold resyncVisionRadius
  dsimp only
  split
  · exact Calls.refl _
  refine Calls.trans ?_
    (calls_foldl (fun cache viewerId => calls_addSourceContribution cache viewerId _) _ _)
  split
  · exact Calls.refl _
  · exact calls_foldl (fun cache viewerId => calls_removeSourceContribution cache viewerId _) _ _

theorem calls_setVisionBonus (kind : BonusKind) (sourceId : PlayerId) (key : TileKey W)
    (bonusRadius : Nat) :
    Calls t.cache
      (t.setVisionBonus footprint kind deps sourceId key bonusRadius accumulatorCallbacks).cache := by
  unfold setVisionBonus
  dsimp only
  split
  · exact Calls.refl _
  split
  · exact Calls.refl _
  apply calls_foldl
  intro cache viewerId
  refine Calls.trans ?_ (calls_addFootprint _ viewerId _)
  split
  · exact Calls.refl _
  · exact calls_removeFootprint _ viewerId _

theorem calls_removeVisionBonus (kind : BonusKind) (sourceId : PlayerId) (key : TileKey W) :
    Calls t.cache
      (t.removeVisionBonus footprint kind deps sourceId key accumulatorCallbacks).cache := by
  unfold removeVisionBonus
  split
  · exact Calls.refl _
  · split
    · exact Calls.refl _
    · exact calls_foldl (fun cache viewerId => calls_removeFootprint cache viewerId _) _ _

theorem calls_applyBonusesToViewer (rings : InsertionMap (TileKey W) Nat) (viewerId : PlayerId)
    (onEnter onLeave : Bool) (cache : VisibilityCoverageCache W) :
    Calls cache (applyBonusesToViewer footprint rings viewerId onEnter onLeave cache) := by
  unfold applyBonusesToViewer
  apply calls_foldl
  intro cache e
  dsimp only
  have hadd : Calls cache
      (if onEnter = true then cache.addFootprint viewerId (footprint e.1 e.2) true else cache) := by
    split
    · exact calls_addFootprint cache viewerId _
    · exact Calls.refl _
  apply hadd.trans
  generalize (if onEnter = true then _ else cache) = added
  split
  · exact calls_removeFootprint added viewerId _
  · exact Calls.refl _

theorem calls_syncAllianceChange (actorId targetId : PlayerId) (allied : Bool) :
    Calls t.cache
      (t.syncAllianceChange footprint deps actorId targetId allied accumulatorCallbacks).cache := by
  unfold syncAllianceChange
  split
  · exact Calls.refl _
  dsimp only
  have hcache : (((t.radiusForSource deps actorId).2.radiusForSource deps targetId).2).cache
      = t.cache := by
    rw [(radiusForSource_spec _ deps targetId).1, (radiusForSource_spec t deps actorId).1]
  have hbonus := calls_applyBonusesToViewer footprint
  rw [hcache]
  split
  · refine Calls.trans ?_ (hbonus _ _ _ _ _)
    refine Calls.trans ?_ (hbonus _ _ _ _ _)
    refine Calls.trans ?_ (hbonus _ _ _ _ _)
    refine Calls.trans ?_ (hbonus _ _ _ _ _)
    refine Calls.trans ?_ (hbonus _ _ _ _ _)
    refine Calls.trans ?_ (hbonus _ _ _ _ _)
    refine Calls.trans ?_ (calls_addSourceContribution _ _ _)
    refine Calls.trans ?_ (calls_addSourceContribution _ _ _)
    refine Calls.trans ?_ (calls_addSourceContribution _ _ _)
    exact calls_addSourceContribution _ _ _
  · refine Calls.trans ?_ (hbonus _ _ _ _ _)
    refine Calls.trans ?_ (hbonus _ _ _ _ _)
    refine Calls.trans ?_ (hbonus _ _ _ _ _)
    refine Calls.trans ?_ (hbonus _ _ _ _ _)
    refine Calls.trans ?_ (hbonus _ _ _ _ _)
    refine Calls.trans ?_ (hbonus _ _ _ _ _)
    refine Calls.trans ?_ (calls_removeSourceContribution _ _ _)
    refine Calls.trans ?_ (calls_removeSourceContribution _ _ _)
    refine Calls.trans ?_ (calls_removeSourceContribution _ _ _)
    exact calls_removeSourceContribution _ _ _

end VisibilityCoverageTracker

namespace VisionState

open VisibilityCoverageCache (Calls)
open VisibilityCoverageTracker

/-- **Every operation is calls**: what the runtime tells the tracker with
the accumulator's callbacks changes the cache by calls alone. -/
theorem apply_calls (footprint : TileKey W → Nat → List (TileKey W)) (s : VisionState W)
    (op : VisionOp W) (visionRadiusForPlayer : PlayerId → Nat) :
    Calls s.tracker.cache
      (s.apply footprint ⟨op, accumulatorCallbacks, visionRadiusForPlayer⟩).tracker.cache := by
  unfold apply
  dsimp only
  split
  · unfold replaceTileState
    dsimp only
    split
    · exact (calls_cancelPrevious footprint s.tracker _ _ _).trans
        (calls_applyNext footprint _ _ _ _)
    · exact Calls.refl _
  · exact calls_resyncVisionRadius footprint s.tracker _ _
  · exact calls_setVisionBonus footprint s.tracker _ _ _ _ _
  · exact calls_removeVisionBonus footprint s.tracker _ _ _ _
  · unfold handleSyncAllianceCommand
    split
    · split
      · exact Calls.refl _
      dsimp only
      split
      · exact calls_syncAllianceChange footprint s.tracker _ _ _ _
      · exact Calls.refl _
    · exact Calls.refl _

end VisionState

/-- **The transitions of a window**: for every sequence of calls to the
coverage, from any coverage, the net result is right exactly when no removal
takes a cell below zero that was not visible at the previous `take`; and
whatever the runtime tells the tracker, over whatever terrain, is such a
sequence. -/
theorem visionTransitions_window :
    (∀ (before : VisibilityCoverageCache W) (calls : List (CoverageCall W)),
        VisibilityCoverageCache.TakenRight before
            (calls.foldl VisibilityCoverageCache.call before)
          ↔ Run.StepsMeet VisibilityCoverageCache.call
            (VisibilityCoverageCache.GhostsSeen before) before calls)
      ∧ ∀ (footprint : TileKey W → Nat → List (TileKey W)) (s : VisionState W) (op : VisionOp W)
          (visionRadiusForPlayer : PlayerId → Nat),
          VisibilityCoverageCache.Calls s.tracker.cache
            (s.apply footprint ⟨op, VisibilityCoverageTracker.accumulatorCallbacks,
              visionRadiusForPlayer⟩).tracker.cache :=
  ⟨VisibilityCoverageCache.takenRight_iff, VisionState.apply_calls⟩

/-! ## §7. A mountain that goes. -/

namespace TerrainVision

/-- The mountain beside the lookout is removed: the coverage stays. -/
def afterOpening : TerrainVision smallestWorld :=
  afterLookout.apply plains (.removeMountain (wrappedTile smallestWorld 9 10))

def afterOpenRemoval : TerrainVision smallestWorld :=
  afterOpening.apply plains (.removeSource lookout true)

set_option maxRecDepth 4000 in
/-- **What was never seen has left**: the lookout was added with the mountain
in its view and is removed without it; the cells behind it are reported. -/
theorem opened_pass_not_right :
    ¬ VisibilityCoverageCache.TakenRight afterOpening.cache afterOpenRemoval.cache := by
  intro hright
  have hleft : wrappedTile smallestWorld 8 10
      ∈ (VisibilityCoverageCache.taken afterOpening.cache afterOpenRemoval.cache).left.of
        playerOne := by decide +kernel
  have hseen := ((hright playerOne (wrappedTile smallestWorld 8 10)).2.mp hleft).1
  have hunseen : afterOpening.cache.isVisible playerOne (wrappedTile smallestWorld 8 10) = false := by
    decide +kernel
  rw [hunseen] at hseen
  cases hseen

end TerrainVision

end BorderEmpires.Vision
