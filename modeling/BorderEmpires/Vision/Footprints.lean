/-
  BorderEmpires.Vision.Footprints
  **WHAT A SOURCE SEES, AND HOW LONG THAT IS REMEMBERED.**

  The rays of `vision-line-of-sight.ts` and the memo of
  `vision-footprint-table.ts`.  A footprint depends on the mountains and
  the forest around its source and on whether the source stands on hills;
  the table keeps those that met no mountain until forest is cleared
  anywhere, and the others until any terrain epoch change.
-/
import Mathlib.Tactic.Ring
import BorderEmpires.Lib.InsertionMap
import BorderEmpires.World

namespace BorderEmpires.Vision

variable {W : WorldSize}

abbrev Offset := Int × Int

/-! ## §1. The ground. -/

def FOREST_VISION_RANGE : Nat := 1
def HILLS_VISION_BONUS : Nat := 1

/-- What world generation fixes about each tile. -/
structure Worldgen (W : WorldSize) where
  /-- `landBiomeAt(x, y) === "GRASS"`. -/
  grass : TileKey W → Bool
  /-- The generated shade is `"DARK"`. -/
  dark : TileKey W → Bool
  /-- `isHillsRegionAt`. -/
  hillsRegion : TileKey W → Bool

/-- What play changes: tile terrain, cleared forest, and the two epochs
that announce the changes. -/
structure Ground (W : WorldSize) where
  terrain : InsertionMap (TileKey W) Terrain
  cleared : List (TileKey W)
  terrainEpoch : Nat
  forestClearingEpoch : Nat

namespace Ground

variable (gen : Worldgen W)

def mountainAt (g : Ground W) (t : TileKey W) : Bool := g.terrain.get t = some .MOUNTAIN

def isForestTileAt (g : Ground W) (t : TileKey W) : Bool :=
  gen.grass t && gen.dark t && !g.cleared.contains t

def wasForestBeforeClearingAt (g : Ground W) (t : TileKey W) : Bool :=
  g.cleared.contains t && gen.dark t

def isHillsTileAt (g : Ground W) (t : TileKey W) : Bool :=
  gen.hillsRegion t && !g.isForestTileAt gen t && !g.wasForestBeforeClearingAt gen t

/-- `clearForestAt`: the epoch moves when the shade was `"DARK"`. -/
def clearForestAt (g : Ground W) (t : TileKey W) : Ground W :=
  if g.cleared.contains t then g
  else
    { g with
      cleared := t :: g.cleared
      forestClearingEpoch :=
        if gen.dark t then g.forestClearingEpoch + 1 else g.forestClearingEpoch }

/-- `{ ...target, terrain }` put in place. -/
def writeTerrain (g : Ground W) (t : TileKey W) (terrain : Terrain) : Ground W :=
  { g with terrain := g.terrain.set t terrain }

def bumpTerrainEpoch (g : Ground W) : Ground W := { g with terrainEpoch := g.terrainEpoch + 1 }

theorem mountainAt_writeTerrain_ne (g : Ground W) {t u : TileKey W} (h : u ≠ t)
    (terrain : Terrain) : (g.writeTerrain t terrain).mountainAt u = g.mountainAt u := by
  unfold mountainAt writeTerrain
  simp only [InsertionMap.get_set_ne _ (fun htu => h htu.symm)]

end Ground

/-! ## §2. Rays. -/

/-- `Math.round(a / b)`: the nearest integer, halves upwards. -/
def roundDiv (a : Int) (b : Nat) : Int := (2 * a + b) / (2 * b)

def raySteps (d : Offset) : Nat := max d.1.natAbs d.2.natAbs

/-- The lattice point the ray to `d` passes at step `i`. -/
def rayPoint (d : Offset) (i : Nat) : Offset :=
  (roundDiv (d.1 * i) (raySteps d), roundDiv (d.2 * i) (raySteps d))

/-- A mountain lies strictly between the source and `d`. -/
def rayIsBlockedByMountain (mountainAt : TileKey W → Bool) (t : TileKey W) (d : Offset) : Bool :=
  (List.range' 1 (raySteps d - 1)).any (fun i => mountainAt (t.shift (rayPoint d i)))

/-- The walk of `rayIsOccludedByForest`, from the step the first forest
was hit at, if any. -/
def forestWalk (forestAtStep : Nat → Bool) : Option Nat → List Nat → Bool
  | _, [] => false
  | forestHitAtStep, i :: rest =>
      let forestHitAtStep :=
        match forestHitAtStep with
        | none => if forestAtStep i then some i else none
        | some hit => some hit
      match forestHitAtStep with
      | some hit =>
          if hit + FOREST_VISION_RANGE < i then true
          else forestWalk forestAtStep (some hit) rest
      | none => forestWalk forestAtStep none rest

def rayIsOccludedByForest (forestAt : TileKey W → Bool) (t : TileKey W) (d : Offset) : Bool :=
  forestWalk (fun i => forestAt (t.shift (rayPoint d i))) none (List.range' 1 (raySteps d))

def squareOffsets (radius : Nat) : List Offset :=
  (List.range (2 * radius + 1)).flatMap (fun row : Nat =>
    (List.range (2 * radius + 1)).map (fun col : Nat =>
      ((col : Int) - radius, (row : Int) - radius)))

def computeLosOffsets (mountainAt forestAt : TileKey W → Bool) (t : TileKey W) (radius : Nat) :
    List Offset :=
  (squareOffsets radius).filter
    (fun d => !rayIsBlockedByMountain mountainAt t d && !rayIsOccludedByForest forestAt t d)

/-! ## §3. The table. -/

def MAX_PACKABLE_RADIUS : Nat := 1024

def packKey (t : TileKey W) (radius : Nat) : Nat :=
  (t.x.val * W.height + t.y.val) * MAX_PACKABLE_RADIUS + radius

/-- The memo.  In `permanentByKey` an absent value stands for "clean: use
the shared plain square". -/
structure VisionFootprintTable where
  plainSquareByRadius : InsertionMap Nat (List Offset)
  permanentByKey : InsertionMap Nat (Option (List Offset))
  epochScopedByKey : InsertionMap Nat (List Offset)
  epoch : Int
  forestEpoch : Nat

namespace VisionFootprintTable

def new (forestClearingEpoch : Nat) : VisionFootprintTable :=
  ⟨.empty, .empty, .empty, -1, forestClearingEpoch⟩

def plainSquare (table : VisionFootprintTable) (radius : Nat) :
    List Offset × VisionFootprintTable :=
  match table.plainSquareByRadius.get radius with
  | some offsets => (offsets, table)
  | none =>
      (squareOffsets radius,
        { table with
          plainSquareByRadius := table.plainSquareByRadius.set radius (squareOffsets radius) })

/-- Does an offset of the square other than the source's own meet the
occluder? -/
def scanOccluder (at_ : TileKey W → Bool) (t : TileKey W) (radius : Nat) : Bool :=
  (squareOffsets radius).any (fun d => decide (d ≠ (0, 0)) && at_ (t.shift d))

def invalidateIfEpochChanged (g : Ground W) (table : VisionFootprintTable) : VisionFootprintTable :=
  let table :=
    if g.forestClearingEpoch ≠ table.forestEpoch then
      { table with
        forestEpoch := g.forestClearingEpoch
        permanentByKey := .empty
        epochScopedByKey := .empty }
    else table
  if (g.terrainEpoch : Int) = table.epoch then table
  else { table with epoch := g.terrainEpoch, epochScopedByKey := .empty }

variable (gen : Worldgen W)

def effectiveRadius (g : Ground W) (t : TileKey W) (radius : Nat) : Nat :=
  if 0 < radius ∧ g.isHillsTileAt gen t = true then radius + HILLS_VISION_BONUS else radius

def getOffsets (g : Ground W) (t : TileKey W) (radius : Nat) (table : VisionFootprintTable) :
    List Offset × VisionFootprintTable :=
  let table := invalidateIfEpochChanged g table
  let effective := effectiveRadius gen g t radius
  let key := packKey t effective
  match table.permanentByKey.get key with
  | some (some offsets) => (offsets, table)
  | some none => table.plainSquare effective
  | none =>
      match table.epochScopedByKey.get key with
      | some offsets => (offsets, table)
      | none =>
          let hasMountain := scanOccluder g.mountainAt t effective
          let hasForest := scanOccluder (g.isForestTileAt gen) t effective
          if !hasMountain && !hasForest then
            ({ table with permanentByKey := table.permanentByKey.set key none }).plainSquare
              effective
          else
            let offsets := computeLosOffsets g.mountainAt (g.isForestTileAt gen) t effective
            if hasMountain then
              (offsets, { table with epochScopedByKey := table.epochScopedByKey.set key offsets })
            else
              (offsets,
                { table with permanentByKey := table.permanentByKey.set key (some offsets) })

/-! ## §4. What the table answers. -/

/-- What a query that finds no memo computes. -/
def freshOffsets (g : Ground W) (t : TileKey W) (effective : Nat) : List Offset :=
  if !scanOccluder g.mountainAt t effective && !scanOccluder (g.isForestTileAt gen) t effective
  then squareOffsets effective
  else computeLosOffsets g.mountainAt (g.isForestTileAt gen) t effective

def permanentMemo (g : Ground W) (table : VisionFootprintTable) (t : TileKey W)
    (effective : Nat) : Option (List Offset) :=
  if table.forestEpoch = g.forestClearingEpoch then
    (table.permanentByKey.get (packKey t effective)).map (fun o => o.getD (squareOffsets effective))
  else none

def scopedMemo (g : Ground W) (table : VisionFootprintTable) (t : TileKey W) (effective : Nat) :
    Option (List Offset) :=
  if table.forestEpoch = g.forestClearingEpoch ∧ table.epoch = g.terrainEpoch then
    table.epochScopedByKey.get (packKey t effective)
  else none

/-- **The answer to a query**: the memo in force, else a fresh one. -/
def recalled (g : Ground W) (table : VisionFootprintTable) (t : TileKey W) (effective : Nat) :
    List Offset :=
  (permanentMemo g table t effective).getD
    ((scopedMemo g table t effective).getD (freshOffsets gen g t effective))

def SquaresShared (table : VisionFootprintTable) : Prop :=
  ∀ radius offsets, table.plainSquareByRadius.get radius = some offsets →
    offsets = squareOffsets radius

theorem packKey_injective {t t' : TileKey W} {e e' : Nat} (he : e < MAX_PACKABLE_RADIUS)
    (he' : e' < MAX_PACKABLE_RADIUS) (h : packKey t e = packKey t' e') : t = t' ∧ e = e' := by
  unfold packKey MAX_PACKABLE_RADIUS at *
  have hy := t.y.isLt
  have hy' := t'.y.isLt
  -- the radius is the remainder, then the row, then the column
  have hradius : e = e' := by omega
  have hcell : t.x.val * W.height + t.y.val = t'.x.val * W.height + t'.y.val := by omega
  have hrow : t.y.val = t'.y.val := by
    have hmod : (t.x.val * W.height + t.y.val) % W.height
        = (t'.x.val * W.height + t'.y.val) % W.height := by rw [hcell]
    rw [Nat.mul_add_mod_of_lt hy, Nat.mul_add_mod_of_lt hy'] at hmod
    exact hmod
  have hcol : t.x.val = t'.x.val := by
    have hmul : t.x.val * W.height = t'.x.val * W.height := by omega
    exact Nat.eq_of_mul_eq_mul_right W.height_pos hmul
  exact ⟨TileKey.ext (Fin.ext hcol) (Fin.ext hrow), hradius⟩

/-- Invalidation brings both epochs up to date and drops nothing in
force. -/
theorem invalidate_spec (g : Ground W) (table : VisionFootprintTable) :
    (invalidateIfEpochChanged g table).epoch = g.terrainEpoch
      ∧ (invalidateIfEpochChanged g table).forestEpoch = g.forestClearingEpoch
      ∧ (invalidateIfEpochChanged g table).plainSquareByRadius = table.plainSquareByRadius
      ∧ (∀ (t : TileKey W) e, permanentMemo g (invalidateIfEpochChanged g table) t e
          = permanentMemo g table t e)
      ∧ ∀ (t : TileKey W) e, scopedMemo g (invalidateIfEpochChanged g table) t e
          = scopedMemo g table t e := by
  unfold invalidateIfEpochChanged permanentMemo scopedMemo
  by_cases hforest : g.forestClearingEpoch = table.forestEpoch
  · by_cases hterrain : (g.terrainEpoch : Int) = table.epoch
    · simp [hforest, hterrain]
    · have hne : ¬ table.epoch = (g.terrainEpoch : Int) := fun h => hterrain h.symm
      simp [hforest, hterrain, hne]
  · have hne : ¬ table.forestEpoch = g.forestClearingEpoch := fun h => hforest h.symm
    by_cases hterrain : (g.terrainEpoch : Int) = table.epoch
    · simp [hforest, hterrain, hne]
    · simp [hforest, hterrain, hne]

/-- A table with the ground's epochs, whose stored memos are those in force in
`table`. -/
structure UpToDate (g : Ground W) (table table₀ : VisionFootprintTable) : Prop where
  squares : SquaresShared table₀
  epoch : table₀.epoch = g.terrainEpoch
  forestEpoch : table₀.forestEpoch = g.forestClearingEpoch
  permanentMemos : ∀ (t : TileKey W) e, permanentMemo g table₀ t e = permanentMemo g table t e
  scopedMemos : ∀ (t : TileKey W) e, scopedMemo g table₀ t e = scopedMemo g table t e

theorem upToDate_invalidate (g : Ground W) {table : VisionFootprintTable}
    (h : SquaresShared table) : UpToDate g table (invalidateIfEpochChanged g table) := by
  obtain ⟨hepoch, hforest, hplain, hperm, hscoped⟩ := invalidate_spec g table
  exact ⟨fun r offsets hr => h r offsets (hplain ▸ hr), hepoch, hforest, hperm, hscoped⟩

theorem plainSquare_spec {table : VisionFootprintTable} (h : SquaresShared table)
    (radius : Nat) :
    (table.plainSquare radius).1 = squareOffsets radius
      ∧ SquaresShared (table.plainSquare radius).2
      ∧ (table.plainSquare radius).2.permanentByKey = table.permanentByKey
      ∧ (table.plainSquare radius).2.epochScopedByKey = table.epochScopedByKey
      ∧ (table.plainSquare radius).2.epoch = table.epoch
      ∧ (table.plainSquare radius).2.forestEpoch = table.forestEpoch := by
  unfold plainSquare
  cases hget : table.plainSquareByRadius.get radius with
  | some offsets => exact ⟨h radius offsets hget, h, rfl, rfl, rfl, rfl⟩
  | none =>
      refine ⟨rfl, ?_, rfl, rfl, rfl, rfl⟩
      intro r offsets hr
      have hread : (table.plainSquareByRadius.set radius (squareOffsets radius)).get r
          = some offsets := hr
      rw [InsertionMap.get_set] at hread
      split at hread
      next hrr =>
        injection hread with hread
        rw [← hread, hrr]
      next _ => exact h r offsets hread

/-- What a query at `(t, e)` does to the table, read at `(t', e')`: the
permanent memo there is as before, or it is the fresh answer just noted;
either way the answer there is as before. -/
structure Asked (g : Ground W) (t : TileKey W) (e : Nat) (table table' : VisionFootprintTable) :
    Prop where
  squares : SquaresShared table'
  epoch : table'.epoch = g.terrainEpoch
  forestEpoch : table'.forestEpoch = g.forestClearingEpoch
  permanent : ∀ t' e', e' < MAX_PACKABLE_RADIUS →
    permanentMemo g table' t' e' = permanentMemo g table t' e'
      ∨ (permanentMemo g table t' e' = none
          ∧ permanentMemo g table' t' e' = some (freshOffsets gen g t' e'))
  answers : ∀ t' e', e' < MAX_PACKABLE_RADIUS →
    recalled gen g table' t' e' = recalled gen g table t' e'

/-- No memo of `(t, e)` is in force. -/
def Missed (g : Ground W) (table : VisionFootprintTable) (t : TileKey W) (e : Nat) : Prop :=
  permanentMemo g table t e = none ∧ scopedMemo g table t e = none

section Queries

variable {gen} {g : Ground W} {table table₀ table' : VisionFootprintTable} {t : TileKey W} {e : Nat}

theorem Missed.recalled_eq (h : Missed g table t e) :
    recalled gen g table t e = freshOffsets gen g t e := by
  unfold recalled
  rw [h.1, h.2]
  rfl

theorem UpToDate.permanentMemo_eq (h : UpToDate g table table₀)
    (hforest : table'.forestEpoch = table₀.forestEpoch) (t : TileKey W) (e : Nat) :
    permanentMemo g table' t e = (table'.permanentByKey.get (packKey t e)).map
      (fun o => o.getD (squareOffsets e)) := by
  unfold permanentMemo
  rw [if_pos (hforest.trans h.forestEpoch)]

theorem UpToDate.scopedMemo_eq (h : UpToDate g table table₀) (hepoch : table'.epoch = table₀.epoch)
    (hforest : table'.forestEpoch = table₀.forestEpoch) (t : TileKey W) (e : Nat) :
    scopedMemo g table' t e = table'.epochScopedByKey.get (packKey t e) := by
  unfold scopedMemo
  rw [if_pos ⟨hforest.trans h.forestEpoch, hepoch.trans h.epoch⟩]

/-- A query that finds its memo, or none but the shared square. -/
theorem UpToDate.asked_still (h : UpToDate g table table₀) (hsquares : SquaresShared table')
    (hperm : table'.permanentByKey = table₀.permanentByKey)
    (hscoped : table'.epochScopedByKey = table₀.epochScopedByKey)
    (hepoch : table'.epoch = table₀.epoch) (hforest : table'.forestEpoch = table₀.forestEpoch) :
    Asked gen g t e table table' := by
  have hp : ∀ (t' : TileKey W) e', permanentMemo g table' t' e' = permanentMemo g table t' e' := by
    intro t' e'
    rw [← h.permanentMemos, h.permanentMemo_eq hforest, h.permanentMemo_eq rfl, hperm]
  have hs : ∀ (t' : TileKey W) e', scopedMemo g table' t' e' = scopedMemo g table t' e' := by
    intro t' e'
    rw [← h.scopedMemos, h.scopedMemo_eq hepoch hforest, h.scopedMemo_eq rfl rfl, hscoped]
  refine ⟨hsquares, hepoch.trans h.epoch, hforest.trans h.forestEpoch,
    fun t' e' _ => Or.inl (hp t' e'), fun t' e' _ => ?_⟩
  unfold recalled
  rw [hp, hs]

/-- A query that notes its answer for good. -/
theorem UpToDate.asked_permanent (h : UpToDate g table table₀) (hmissed : Missed g table t e)
    (hsmall : e < MAX_PACKABLE_RADIUS) (value : Option (List Offset))
    (hvalue : value.getD (squareOffsets e) = freshOffsets gen g t e)
    (hsquares : SquaresShared table')
    (hperm : table'.permanentByKey = table₀.permanentByKey.set (packKey t e) value)
    (hscoped : table'.epochScopedByKey = table₀.epochScopedByKey)
    (hepoch : table'.epoch = table₀.epoch) (hforest : table'.forestEpoch = table₀.forestEpoch) :
    Asked gen g t e table table' := by
  have hread : ∀ t' e', permanentMemo g table' t' e'
      = if packKey t e = packKey t' e' then some (value.getD (squareOffsets e'))
        else permanentMemo g table t' e' := by
    intro t' e'
    rw [← h.permanentMemos, h.permanentMemo_eq hforest, h.permanentMemo_eq rfl, hperm,
      InsertionMap.get_set]
    split <;> rfl
  refine ⟨hsquares, hepoch.trans h.epoch, hforest.trans h.forestEpoch, fun t' e' he' => ?_,
    fun t' e' he' => ?_⟩
  · rw [hread]
    by_cases hkey : packKey t e = packKey t' e'
    · obtain ⟨rfl, rfl⟩ := packKey_injective hsmall he' hkey
      rw [if_pos rfl, hvalue]
      exact Or.inr ⟨hmissed.1, rfl⟩
    · rw [if_neg hkey]
      exact Or.inl rfl
  · by_cases hkey : packKey t e = packKey t' e'
    · obtain ⟨rfl, rfl⟩ := packKey_injective hsmall he' hkey
      rw [hmissed.recalled_eq]
      unfold recalled
      rw [hread, if_pos rfl, hvalue]
      rfl
    · unfold recalled
      rw [hread, if_neg hkey, ← h.scopedMemos, h.scopedMemo_eq hepoch hforest, h.scopedMemo_eq rfl rfl,
        hscoped]

/-- A query that notes its answer for the terrain epoch. -/
theorem UpToDate.asked_scoped (h : UpToDate g table table₀) (hmissed : Missed g table t e)
    (hsmall : e < MAX_PACKABLE_RADIUS) :
    Asked gen g t e table { table₀ with
      epochScopedByKey := table₀.epochScopedByKey.set (packKey t e) (freshOffsets gen g t e) } := by
  refine ⟨h.squares, h.epoch, h.forestEpoch, fun t' e' _ => Or.inl (h.permanentMemos t' e'),
    fun t' e' he' => ?_⟩
  have hread := @UpToDate.scopedMemo_eq _ g table table₀ { table₀ with
    epochScopedByKey := table₀.epochScopedByKey.set (packKey t e) (freshOffsets gen g t e) } h rfl rfl
    t' e'
  rw [InsertionMap.get_set] at hread
  have hperm : permanentMemo g { table₀ with
      epochScopedByKey := table₀.epochScopedByKey.set (packKey t e) (freshOffsets gen g t e) } t' e'
      = permanentMemo g table t' e' := h.permanentMemos t' e'
  by_cases hkey : packKey t e = packKey t' e'
  · obtain ⟨rfl, rfl⟩ := packKey_injective hsmall he' hkey
    rw [hmissed.recalled_eq]
    unfold recalled
    rw [hread, hperm, hmissed.1, if_pos rfl]
    rfl
  · unfold recalled
    rw [hread, hperm, if_neg hkey, ← h.scopedMemos, h.scopedMemo_eq rfl rfl]

end Queries

/-- **A query returns what was recalled**, and changes no later answer. -/
theorem getOffsets_spec (g : Ground W) (t : TileKey W) (radius : Nat)
    {table : VisionFootprintTable} (hsquares : SquaresShared table)
    (hsmall : effectiveRadius gen g t radius < MAX_PACKABLE_RADIUS) :
    (getOffsets gen g t radius table).1 = recalled gen g table t (effectiveRadius gen g t radius)
      ∧ Asked gen g t (effectiveRadius gen g t radius) table (getOffsets gen g t radius table).2 := by
  have hnow := upToDate_invalidate g hsquares
  unfold getOffsets
  generalize invalidateIfEpochChanged g table = table₀ at hnow
  generalize effectiveRadius gen g t radius = e at hsmall
  dsimp only
  have hpermanent := (hnow.permanentMemos t e).symm.trans (hnow.permanentMemo_eq rfl t e)
  have hscoped := (hnow.scopedMemos t e).symm.trans (hnow.scopedMemo_eq rfl rfl t e)
  have hkept : Asked gen g t e table table₀ := hnow.asked_still hnow.squares rfl rfl rfl rfl
  cases hmemo : table₀.permanentByKey.get (packKey t e) with
  | some memo =>
      rw [hmemo] at hpermanent
      cases memo with
      | some offsets =>
          refine ⟨?_, hkept⟩
          unfold recalled
          rw [hpermanent]
          rfl
      | none =>
          obtain ⟨hvalue, hsq, h1, h2, h3, h4⟩ := plainSquare_spec hnow.squares e
          refine ⟨?_, hnow.asked_still hsq h1 h2 h3 h4⟩
          show (table₀.plainSquare e).1 = _
          unfold recalled
          rw [hvalue, hpermanent]
          rfl
  | none =>
      rw [hmemo] at hpermanent
      dsimp only
      cases hstored : table₀.epochScopedByKey.get (packKey t e) with
      | some offsets =>
          refine ⟨?_, hkept⟩
          unfold recalled
          rw [hpermanent, hscoped, hstored]
          rfl
      | none =>
          have hmissed : Missed g table t e := ⟨hpermanent, hscoped.trans hstored⟩
          dsimp only
          rw [hmissed.recalled_eq]
          by_cases hclean : (!scanOccluder g.mountainAt t e
              && !scanOccluder (g.isForestTileAt gen) t e) = true
          · rw [if_pos hclean]
            have hvalue : freshOffsets gen g t e = squareOffsets e := if_pos hclean
            have hsq₁ : SquaresShared { table₀ with
                permanentByKey := table₀.permanentByKey.set (packKey t e) none } := hnow.squares
            obtain ⟨hplainValue, hsq, h1, h2, h3, h4⟩ := plainSquare_spec hsq₁ e
            exact ⟨hplainValue.trans hvalue.symm,
              hnow.asked_permanent hmissed hsmall none hvalue.symm hsq h1 h2 h3 h4⟩
          · rw [if_neg hclean]
            have hvalue : freshOffsets gen g t e
                = computeLosOffsets g.mountainAt (g.isForestTileAt gen) t e := if_neg hclean
            rw [← hvalue]
            split
            · exact ⟨rfl, hnow.asked_scoped hmissed hsmall⟩
            · exact ⟨rfl, hnow.asked_permanent hmissed hsmall (some _) rfl hnow.squares rfl rfl rfl rfl⟩

end VisionFootprintTable

/-! ## §5. A tile's own terrain. -/

theorem roundDiv_bounds {a n : Int} {b : Nat} (hb : 0 < b) (hlo : -(n * b) ≤ a)
    (hhi : a ≤ n * b) : -n ≤ roundDiv a b ∧ roundDiv a b ≤ n := by
  unfold roundDiv
  have hpos : (0 : Int) < 2 * b := by omega
  constructor
  · apply (Int.le_ediv_iff_mul_le hpos).mpr
    have hexpand : -n * (2 * (b : Int)) = -(n * b) + -(n * b) := by ring
    omega
  · have hlt : (2 * a + b) / (2 * (b : Int)) < n + 1 := by
      apply (Int.ediv_lt_iff_lt_mul hpos).mpr
      have hexpand : (n + 1) * (2 * (b : Int)) = n * b + n * b + 2 * b := by ring
      omega
    omega

theorem roundDiv_mul_self (i : Int) {b : Nat} (hb : 0 < b) : roundDiv (b * i) b = i := by
  unfold roundDiv
  have hexpand : 2 * ((b : Int) * i) + b = b + i * (2 * b) := by ring
  have hsmall : (b : Int) / (2 * b) = 0 := Int.ediv_eq_zero_of_lt (by omega) (by omega)
  rw [hexpand, Int.add_mul_ediv_right _ _ (by omega), hsmall, zero_add]

theorem roundDiv_neg_mul_self (i : Int) {b : Nat} (hb : 0 < b) : roundDiv (-b * i) b = -i := by
  have hneg : -(b : Int) * i = b * -i := by ring
  rw [hneg]
  exact roundDiv_mul_self (-i) hb

theorem rayPoint_bounds (d : Offset) {i : Nat} (hi : i ≤ raySteps d) (hpos : 0 < raySteps d) :
    (rayPoint d i).1.natAbs ≤ d.1.natAbs ∧ (rayPoint d i).2.natAbs ≤ d.2.natAbs := by
  have hone : ∀ c : Int, (roundDiv (c * i) (raySteps d)).natAbs ≤ c.natAbs := by
    intro c
    have hprod : (c.natAbs * i : Nat) ≤ c.natAbs * raySteps d := Nat.mul_le_mul_left _ hi
    have habs : (c * i).natAbs = c.natAbs * i := by rw [Int.natAbs_mul, Int.natAbs_natCast]
    have hcast : ((c.natAbs : Int)) * (raySteps d : Int) = ((c.natAbs * raySteps d : Nat) : Int) := by
      rw [Int.natCast_mul]
    obtain ⟨hlo, hhi⟩ := roundDiv_bounds (a := c * i) (n := (c.natAbs : Int)) hpos
      (by rw [hcast]; omega) (by rw [hcast]; omega)
    omega
  exact ⟨hone d.1, hone d.2⟩

theorem rayPoint_ne_zero (d : Offset) {i : Nat} (hi : 0 < i) (hpos : 0 < raySteps d) :
    rayPoint d i ≠ (0, 0) := by
  intro hzero
  have h1 : roundDiv (d.1 * i) (raySteps d) = 0 := congrArg Prod.fst hzero
  have h2 : roundDiv (d.2 * i) (raySteps d) = 0 := congrArg Prod.snd hzero
  -- one of the two coordinates is the number of steps, up to sign
  have hcoord : ∀ c : Int, c.natAbs = raySteps d → roundDiv (c * i) (raySteps d) ≠ 0 := by
    intro c hc
    cases Int.natAbs_eq c with
    | inl heq =>
        rw [heq, hc, roundDiv_mul_self _ hpos]
        omega
    | inr heq =>
        rw [heq, hc, roundDiv_neg_mul_self _ hpos]
        omega
  cases le_total d.1.natAbs d.2.natAbs with
  | inl hle => exact hcoord d.2 (by unfold raySteps; omega) h2
  | inr hle => exact hcoord d.1 (by unfold raySteps; omega) h1

theorem shift_ne_self {t : TileKey W} {d : Offset} (h1 : d.1.natAbs < W.width)
    (h2 : d.2.natAbs < W.height) (hd : d ≠ (0, 0)) : t.shift d ≠ t := by
  intro heq
  have hx := t.x.isLt
  have hy := t.y.isLt
  have hxs : ((t.x.val : Int) + d.1) % W.width = t.x.val := by
    rw [← wrappedTile_x (W := W) (t.x.val + d.1) (t.y.val + d.2)]
    exact congrArg (fun u : TileKey W => (u.x.val : Int)) heq
  have hys : ((t.y.val : Int) + d.2) % W.height = t.y.val := by
    rw [← wrappedTile_y (W := W) (t.x.val + d.1) (t.y.val + d.2)]
    exact congrArg (fun u : TileKey W => (u.y.val : Int)) heq
  -- a whole turn in either direction is too long
  have hzero : ∀ (v c : Int) (size : Nat), 0 ≤ v → v < size → c.natAbs < size →
      (v + c) % size = v → c = 0 := by
    intro v c size hv hlt hc hmod
    have hdiv : (size : Int) ∣ c := by
      have hsub : (size : Int) ∣ (v + c) - v := Int.dvd_self_sub_of_emod_eq hmod
      rwa [add_sub_cancel_left] at hsub
    exact Int.eq_zero_of_abs_lt_dvd hdiv (by rw [Int.abs_eq_natAbs]; omega)
  apply hd
  ext
  · exact hzero t.x.val d.1 W.width (by omega) (by omega) h1 hxs
  · exact hzero t.y.val d.2 W.height (by omega) (by omega) h2 hys

theorem mem_squareOffsets {radius : Nat} {d : Offset} (h : d ∈ squareOffsets radius) :
    d.1.natAbs ≤ radius ∧ d.2.natAbs ≤ radius := by
  unfold squareOffsets at h
  obtain ⟨row, hrow, hmem⟩ := List.mem_flatMap.mp h
  obtain ⟨col, hcol, rfl⟩ := List.mem_map.mp hmem
  rw [List.mem_range] at hrow hcol
  constructor
  · show ((col : Int) - radius).natAbs ≤ radius
    omega
  · show ((row : Int) - radius).natAbs ≤ radius
    omega

theorem forestWalk_congr {f f' : Nat → Bool} {l : List Nat} (h : ∀ i ∈ l, f i = f' i) :
    ∀ hit, forestWalk f hit l = forestWalk f' hit l := by
  induction l with
  | nil =>
      intro hit
      rfl
  | cons i l ih =>
      have hl := ih (fun j hj => h j (List.mem_cons_of_mem _ hj))
      intro hit
      simp only [forestWalk]
      rw [h i List.mem_cons_self]
      cases hit with
      | some step => simp only [hl]
      | none =>
          dsimp only
          cases f' i <;> simp [hl]

theorem any_congr_mem {α : Type} {p q : α → Bool} {l : List α} (h : ∀ a ∈ l, p a = q a) :
    l.any p = l.any q := by
  apply Bool.eq_iff_iff.mpr
  rw [List.any_eq_true, List.any_eq_true]
  constructor
  · rintro ⟨a, ha, hp⟩
    exact ⟨a, ha, (h a ha) ▸ hp⟩
  · rintro ⟨a, ha, hq⟩
    exact ⟨a, ha, (h a ha).symm ▸ hq⟩

/-- **Lines of sight look at other tiles only**: two occluders that agree
off the source give the same footprint. -/
theorem freshOffsets_congr {gen gen' : Worldgen W} {g g' : Ground W} {t : TileKey W} {e : Nat}
    (hx : e < W.width) (hy : e < W.height)
    (hmountain : ∀ u, u ≠ t → g'.mountainAt u = g.mountainAt u)
    (hforest : ∀ u, u ≠ t → g'.isForestTileAt gen' u = g.isForestTileAt gen u) :
    VisionFootprintTable.freshOffsets gen' g' t e = VisionFootprintTable.freshOffsets gen g t e := by
  have hne : ∀ d : Offset, d.1.natAbs ≤ e → d.2.natAbs ≤ e → d ≠ (0, 0) → t.shift d ≠ t :=
    fun d h1 h2 hd => shift_ne_self (by omega) (by omega) hd
  have hscan : ∀ at_ at_' : TileKey W → Bool, (∀ u, u ≠ t → at_' u = at_ u) →
      VisionFootprintTable.scanOccluder at_' t e = VisionFootprintTable.scanOccluder at_ t e := by
    intro at_ at_' hat
    unfold VisionFootprintTable.scanOccluder
    apply any_congr_mem
    intro d hd
    obtain ⟨h1, h2⟩ := mem_squareOffsets hd
    by_cases hzero : d = (0, 0)
    · simp [hzero]
    · rw [hat _ (hne d h1 h2 hzero)]
  have hray : ∀ d ∈ squareOffsets e, ∀ i, 1 ≤ i → i ≤ raySteps d → t.shift (rayPoint d i) ≠ t := by
    intro d hd i hi hsteps
    obtain ⟨h1, h2⟩ := mem_squareOffsets hd
    have hpos : 0 < raySteps d := by omega
    obtain ⟨hb1, hb2⟩ := rayPoint_bounds d hsteps hpos
    exact hne _ (by omega) (by omega) (rayPoint_ne_zero d (by omega) hpos)
  have hlos : computeLosOffsets g'.mountainAt (g'.isForestTileAt gen') t e
      = computeLosOffsets g.mountainAt (g.isForestTileAt gen) t e := by
    unfold computeLosOffsets
    apply List.filter_congr
    intro d hd
    have hblocked : rayIsBlockedByMountain g'.mountainAt t d
        = rayIsBlockedByMountain g.mountainAt t d := by
      unfold rayIsBlockedByMountain
      apply any_congr_mem
      intro i hi
      rw [List.mem_range'_1] at hi
      exact hmountain _ (hray d hd i (by omega) (by omega))
    have hoccluded : rayIsOccludedByForest (g'.isForestTileAt gen') t d
        = rayIsOccludedByForest (g.isForestTileAt gen) t d := by
      unfold rayIsOccludedByForest
      apply forestWalk_congr
      intro i hi
      rw [List.mem_range'_1] at hi
      exact hforest _ (hray d hd i (by omega) (by omega))
    rw [hblocked, hoccluded]
  unfold VisionFootprintTable.freshOffsets
  rw [hscan _ _ hmountain, hscan _ _ hforest, hlos]

end BorderEmpires.Vision
