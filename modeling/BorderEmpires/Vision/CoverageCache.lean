/-
  BorderEmpires.Vision.CoverageCache
  **THE PER-VIEWER REFCOUNT RASTER.**

  `VisibilityCoverageCache` of `visibility-coverage-cache.ts`: for each
  viewer a map from cells to refcounts.  A footprint is the list of cells
  one vision source dilates into; adding it increments every cell,
  removing it decrements every cell and forgets those that reach zero.

  The callbacks of a call are modelled by whether the caller supplies
  them, and the calls made to them by the list `edges`.
-/
import Mathlib.Algebra.Order.Ring.Nat
import BorderEmpires.Lib.Ledger
import BorderEmpires.Lib.Loops
import BorderEmpires.World

namespace BorderEmpires.Vision

variable {W : WorldSize}

/-! ## §1. The refcounts of one viewer. -/

/-- The cells a viewer sees, each with a positive refcount. -/
structure CellCounts (W : WorldSize) where
  counts : InsertionMap (TileKey W) Nat
  positive : ∀ key n, counts.get key = some n → 0 < n

namespace CellCounts

def empty : CellCounts W := ⟨InsertionMap.empty, fun _ _ h => by cases h⟩

/-- `map.get(key) ?? 0`. -/
def count (map : CellCounts W) (key : TileKey W) : Nat := (map.counts.get key).getD 0

theorem positive_credit (map : CellCounts W) (key : TileKey W) {key' : TileKey W} {n : Nat}
    (h : (Ledger.credit map.counts key 1).get key' = some n) : 0 < n := by
  unfold Ledger.credit at h
  rw [InsertionMap.get_set] at h
  split at h
  · injection h with h
    omega
  · exact map.positive key' n h

/-- `map.set(key, (map.get(key) ?? 0) + 1)`. -/
def increment (map : CellCounts W) (key : TileKey W) : CellCounts W where
  counts := Ledger.credit map.counts key 1
  positive _ _ := map.positive_credit key

theorem positive_debit (map : CellCounts W) (key : TileKey W) {key' : TileKey W} {n : Nat}
    (h : (Ledger.debit map.counts key 1).get key' = some n) : 0 < n := by
  unfold Ledger.debit at h
  split at h
  next _ =>
    rw [InsertionMap.get_erase] at h
    split at h
    · cases h
    · exact map.positive key' n h
  next hleft =>
    rw [InsertionMap.get_set] at h
    split at h
    · injection h with h
      omega
    · exact map.positive key' n h

/-- The count less one, the key deleted when nothing is left. -/
def decrement (map : CellCounts W) (key : TileKey W) : CellCounts W where
  counts := Ledger.debit map.counts key 1
  positive _ _ := map.positive_debit key

theorem count_increment (map : CellCounts W) (key key' : TileKey W) :
    (map.increment key).count key' = map.count key' + if key = key' then 1 else 0 :=
  Ledger.balance_credit map.counts key key' 1

theorem count_decrement (map : CellCounts W) (key key' : TileKey W) :
    (map.decrement key).count key' = map.count key' - if key = key' then 1 else 0 := by
  show Ledger.balance (Ledger.debit map.counts key 1) key' = Ledger.balance map.counts key' - _
  rw [Ledger.balance_debit]
  split <;> omega

theorem keys_eq_nil {map : CellCounts W} (h : ∀ key, map.count key = 0) :
    map.counts.keys = [] := by
  apply List.eq_nil_iff_forall_not_mem.mpr
  intro key hkey
  obtain ⟨n, hn⟩ := Option.isSome_iff_exists.mp ((map.counts.mem_keys_iff key).mp hkey)
  have hpos : 0 < n := map.positive key n hn
  have hzero : map.count key = 0 := h key
  unfold count at hzero
  rw [hn, Option.getD_some] at hzero
  omega

end CellCounts

/-! ## §2. The cache. -/

/-- A call made to one of the optional callbacks. -/
inductive VisionEdge (W : WorldSize) where
  | enter (viewerId : PlayerId) (key : TileKey W)
  | leave (viewerId : PlayerId) (key : TileKey W)
  deriving DecidableEq

structure VisibilityTransitionCallbacks where
  onEnter : Bool
  onLeave : Bool
  deriving DecidableEq

/-- `callbacks` left out. -/
def VisibilityTransitionCallbacks.none : VisibilityTransitionCallbacks := ⟨false, false⟩

structure VisibilityCoverageCache (W : WorldSize) where
  coverage : InsertionMap PlayerId (CellCounts W)
  /-- The callback calls so far, oldest first. -/
  edges : List (VisionEdge W)

namespace VisibilityCoverageCache

def empty : VisibilityCoverageCache W := ⟨InsertionMap.empty, []⟩

/-- `mapFor`: the viewer's counts, fresh ones if there are none. -/
def mapFor (cache : VisibilityCoverageCache W) (viewerId : PlayerId) : CellCounts W :=
  (cache.coverage.get viewerId).getD CellCounts.empty

def refcount (cache : VisibilityCoverageCache W) (viewerId : PlayerId) (key : TileKey W) : Nat :=
  (cache.mapFor viewerId).count key

def isVisible (cache : VisibilityCoverageCache W) (viewerId : PlayerId) (key : TileKey W) : Bool :=
  0 < cache.refcount viewerId key

def visibleKeysForViewer (cache : VisibilityCoverageCache W) (viewerId : PlayerId) :
    List (TileKey W) :=
  (cache.mapFor viewerId).counts.keys

/-- The visit of `addFootprint` to one cell. -/
def addCell (viewerId : PlayerId) (onEnter : Bool) (s : CellCounts W × List (VisionEdge W))
    (key : TileKey W) : CellCounts W × List (VisionEdge W) :=
  let next := s.1.count key + 1
  (s.1.increment key, if next = 1 ∧ onEnter then s.2 ++ [.enter viewerId key] else s.2)

def addFootprint (cache : VisibilityCoverageCache W) (viewerId : PlayerId)
    (cells : List (TileKey W)) (onEnter : Bool) : VisibilityCoverageCache W :=
  let visited := cells.foldl (addCell viewerId onEnter) (cache.mapFor viewerId, cache.edges)
  ⟨cache.coverage.set viewerId visited.1, visited.2⟩

/-- The visit of `removeFootprint` to one cell. -/
def removeCell (viewerId : PlayerId) (onLeave : Bool) (s : CellCounts W × List (VisionEdge W))
    (key : TileKey W) : CellCounts W × List (VisionEdge W) :=
  let next := s.1.count key - 1
  (s.1.decrement key, if next = 0 ∧ onLeave then s.2 ++ [.leave viewerId key] else s.2)

def removeFootprint (cache : VisibilityCoverageCache W) (viewerId : PlayerId)
    (cells : List (TileKey W)) (onLeave : Bool) : VisibilityCoverageCache W :=
  match cache.coverage.get viewerId with
  | none => cache
  | some map =>
      let visited := cells.foldl (removeCell viewerId onLeave) (map, cache.edges)
      -- a viewer left with no cell loses its map
      if visited.1.counts.keys = [] then ⟨cache.coverage.erase viewerId, visited.2⟩
      else ⟨cache.coverage.set viewerId visited.1, visited.2⟩

def addSourceContribution (cache : VisibilityCoverageCache W) (viewerId : PlayerId)
    (footprints : List (List (TileKey W))) (onEnter : Bool) : VisibilityCoverageCache W :=
  footprints.foldl (fun acc cells => acc.addFootprint viewerId cells onEnter) cache

def removeSourceContribution (cache : VisibilityCoverageCache W) (viewerId : PlayerId)
    (footprints : List (List (TileKey W))) (onLeave : Bool) : VisibilityCoverageCache W :=
  footprints.foldl (fun acc cells => acc.removeFootprint viewerId cells onLeave) cache

/-! ## §3. What a call does to the refcounts. -/

theorem count_foldl_addCell (viewerId : PlayerId) (onEnter : Bool) (key : TileKey W)
    (cells : List (TileKey W)) (s : CellCounts W × List (VisionEdge W)) :
    (cells.foldl (addCell viewerId onEnter) s).1.count key = s.1.count key + cells.count key := by
  rw [← Loops.sum_indicator]
  refine Loops.foldl_add (fun s : CellCounts W × List (VisionEdge W) => s.1.count key) ?_
  exact fun s c => s.1.count_increment c key

theorem count_foldl_removeCell (viewerId : PlayerId) (onLeave : Bool) (key : TileKey W)
    (cells : List (TileKey W)) (s : CellCounts W × List (VisionEdge W)) :
    (cells.foldl (removeCell viewerId onLeave) s).1.count key
      = s.1.count key - cells.count key := by
  rw [← Loops.sum_indicator]
  refine Loops.foldl_sub (fun s : CellCounts W × List (VisionEdge W) => s.1.count key) ?_
  exact fun s c => s.1.count_decrement c key

variable (cache : VisibilityCoverageCache W) (viewerId v : PlayerId)

/-- **Adding a footprint** raises the viewer's count at each of its cells. -/
theorem refcount_addFootprint (cells : List (TileKey W)) (onEnter : Bool) (key : TileKey W) :
    (cache.addFootprint viewerId cells onEnter).refcount v key
      = cache.refcount v key + if viewerId = v then cells.count key else 0 := by
  unfold addFootprint refcount mapFor
  dsimp only
  rw [InsertionMap.get_set]
  by_cases h : viewerId = v
  · subst h
    rw [if_pos rfl, if_pos rfl, Option.getD_some, count_foldl_addCell]
  · rw [if_neg h, if_neg h]
    rfl

/-- **Removing a footprint** lowers the viewer's count at each of its
cells, never below zero. -/
theorem refcount_removeFootprint (cells : List (TileKey W)) (onLeave : Bool) (key : TileKey W) :
    (cache.removeFootprint viewerId cells onLeave).refcount v key
      = cache.refcount v key - if viewerId = v then cells.count key else 0 := by
  unfold removeFootprint
  cases hmap : cache.coverage.get viewerId with
  | none =>
      -- nothing is stored for this viewer: its counts are zero already
      show cache.refcount v key = _
      by_cases h : viewerId = v
      · subst h
        have hzero : cache.refcount viewerId key = 0 := by
          unfold refcount mapFor
          rw [hmap]
          rfl
        omega
      · rw [if_neg h]
        omega
  | some map =>
      dsimp only
      by_cases h : viewerId = v
      · subst h
        have hbefore : cache.refcount viewerId key = map.count key := by
          unfold refcount mapFor
          rw [hmap, Option.getD_some]
        have hvisited := count_foldl_removeCell viewerId onLeave key cells (map, cache.edges)
        rw [if_pos rfl, hbefore, ← hvisited]
        split
        next hnil =>
          -- the map is dropped: every count in it was zero
          have hnone : (cells.foldl (removeCell viewerId onLeave) (map, cache.edges)).1.counts.get key
              = none := by
            apply Option.not_isSome_iff_eq_none.mp
            rw [← InsertionMap.mem_keys_iff, hnil]
            exact List.not_mem_nil
          unfold refcount mapFor CellCounts.count
          dsimp only
          rw [InsertionMap.get_erase_self, hnone]
          rfl
        next hleft =>
          unfold refcount mapFor
          dsimp only
          rw [InsertionMap.get_set_self, Option.getD_some]
      · rw [if_neg h, Nat.sub_zero]
        split
        · unfold refcount mapFor
          dsimp only
          rw [InsertionMap.get_erase_ne _ h]
        · unfold refcount mapFor
          dsimp only
          rw [InsertionMap.get_set_ne _ h]

theorem refcount_addSourceContribution (onEnter : Bool) (key : TileKey W)
    (footprints : List (List (TileKey W))) (cache : VisibilityCoverageCache W) :
    (cache.addSourceContribution viewerId footprints onEnter).refcount v key
      = cache.refcount v key
        + if viewerId = v then (footprints.map (fun cells => cells.count key)).sum else 0 := by
  rw [← Loops.sum_map_ite]
  refine Loops.foldl_add (fun cache : VisibilityCoverageCache W => cache.refcount v key) ?_
  exact fun cache cells => cache.refcount_addFootprint viewerId v cells onEnter key

theorem refcount_removeSourceContribution (onLeave : Bool) (key : TileKey W)
    (footprints : List (List (TileKey W))) (cache : VisibilityCoverageCache W) :
    (cache.removeSourceContribution viewerId footprints onLeave).refcount v key
      = cache.refcount v key
        - if viewerId = v then (footprints.map (fun cells => cells.count key)).sum else 0 := by
  rw [← Loops.sum_map_ite]
  refine Loops.foldl_sub (fun cache : VisibilityCoverageCache W => cache.refcount v key) ?_
  exact fun cache cells => cache.refcount_removeFootprint viewerId v cells onLeave key

theorem isVisible_iff (viewerId : PlayerId) (key : TileKey W) :
    cache.isVisible viewerId key = true ↔ 0 < cache.refcount viewerId key := by
  unfold isVisible
  exact decide_eq_true_iff

theorem visibleKeys_eq_nil {cache : VisibilityCoverageCache W} {viewerId : PlayerId}
    (h : ∀ key, cache.refcount viewerId key = 0) : cache.visibleKeysForViewer viewerId = [] :=
  CellCounts.keys_eq_nil h

/-! ## §4. Leave edges. -/

theorem leave_foldl_removeCell (onLeave : Bool) (key : TileKey W) :
    ∀ (cells : List (TileKey W)) (s : CellCounts W × List (VisionEdge W)),
      VisionEdge.leave v key ∈ (cells.foldl (removeCell viewerId onLeave) s).2 →
        VisionEdge.leave v key ∈ s.2
          ∨ (v = viewerId ∧ (cells.foldl (removeCell viewerId onLeave) s).1.count key = 0) := by
  intro cells
  induction cells with
  | nil => intro s h; exact Or.inl h
  | cons c cells ih =>
      intro s h
      rw [List.foldl_cons] at h ⊢
      cases ih (removeCell viewerId onLeave s c) h with
      | inr hlater => exact Or.inr hlater
      | inl hnow =>
          unfold removeCell at hnow
          dsimp only at hnow
          split at hnow
          next hfire =>
            cases List.mem_append.mp hnow with
            | inl hold => exact Or.inl hold
            | inr hnew =>
                -- reported here: the count is zero now, and stays there
                have heq := List.mem_singleton.mp hnew
                injection heq with hv hkey
                refine Or.inr ⟨hv, ?_⟩
                rw [count_foldl_removeCell]
                show (s.1.decrement c).count key - _ = 0
                rw [CellCounts.count_decrement, if_pos hkey.symm, hkey]
                omega
          next _ => exact Or.inl hnow

/-- **A leave edge a removal reports** is for a cell of that viewer which
no count is left on. -/
theorem leave_removeFootprint (cells : List (TileKey W)) (onLeave : Bool) (key : TileKey W)
    (h : VisionEdge.leave v key ∈ (cache.removeFootprint viewerId cells onLeave).edges) :
    VisionEdge.leave v key ∈ cache.edges
      ∨ (cache.removeFootprint viewerId cells onLeave).refcount v key = 0 := by
  cases hmap : cache.coverage.get viewerId with
  | none =>
      unfold removeFootprint at h
      rw [hmap] at h
      exact Or.inl h
  | some map =>
      have hedges : (cache.removeFootprint viewerId cells onLeave).edges
          = (cells.foldl (removeCell viewerId onLeave) (map, cache.edges)).2 := by
        unfold removeFootprint
        rw [hmap]
        dsimp only
        split <;> rfl
      rw [hedges] at h
      cases leave_foldl_removeCell viewerId v onLeave key cells (map, cache.edges) h with
      | inl hold => exact Or.inl hold
      | inr hzero =>
          obtain ⟨rfl, hcount⟩ := hzero
          refine Or.inr ?_
          have hbefore : cache.refcount v key = map.count key := by
            unfold refcount mapFor
            rw [hmap, Option.getD_some]
          rw [refcount_removeFootprint, if_pos rfl, hbefore]
          rw [count_foldl_removeCell] at hcount
          exact hcount

theorem leave_addFootprint (cells : List (TileKey W)) (onEnter : Bool) (key : TileKey W)
    (h : VisionEdge.leave v key ∈ (cache.addFootprint viewerId cells onEnter).edges) :
    VisionEdge.leave v key ∈ cache.edges := by
  have hfold : ∀ (cells : List (TileKey W)) (s : CellCounts W × List (VisionEdge W)),
      VisionEdge.leave v key ∈ (cells.foldl (addCell viewerId onEnter) s).2 →
        VisionEdge.leave v key ∈ s.2 := by
    intro cells
    induction cells with
    | nil => intro s h; exact h
    | cons c cells ih =>
        intro s h
        have hnow := ih (addCell viewerId onEnter s c) h
        unfold addCell at hnow
        dsimp only at hnow
        split at hnow
        · cases List.mem_append.mp hnow with
          | inl hold => exact hold
          | inr hnew => cases List.mem_singleton.mp hnew
        · exact hnow
  exact hfold cells _ h

end VisibilityCoverageCache

end BorderEmpires.Vision
