/-
  BorderEmpires.Vision.FootprintRuns
  **ARE REMEMBERED FOOTPRINTS STILL TRUE?**

  Queries of the footprint table between mountains made, mountains removed
  and forest cleared.  A footprint that met a mountain is dropped at every
  terrain epoch.  One that met none is kept until forest is cleared, and
  nothing drops it when a mountain rises within its radius.
-/
import BorderEmpires.Vision.TerrainRuns

namespace BorderEmpires.Vision

variable {W : WorldSize}

open VisionFootprintTable

/-! ## §1. Lines of sight. -/

theorem mem_squareOffsets_iff {radius : Nat} {d : Offset} :
    d ∈ squareOffsets radius ↔ d.1.natAbs ≤ radius ∧ d.2.natAbs ≤ radius := by
  refine ⟨mem_squareOffsets, ?_⟩
  rintro ⟨h1, h2⟩
  unfold squareOffsets
  rw [List.mem_flatMap]
  refine ⟨(d.2 + radius).toNat, ?_, ?_⟩
  · rw [List.mem_range]
    omega
  · rw [List.mem_map]
    refine ⟨(d.1 + radius).toNat, ?_, ?_⟩
    · rw [List.mem_range]
      omega
    · ext
      · show (((d.1 + radius).toNat : Nat) : Int) - radius = d.1
        omega
      · show (((d.2 + radius).toNat : Nat) : Int) - radius = d.2
        omega

theorem rayPoint_mem {radius : Nat} {d : Offset} (hd : d ∈ squareOffsets radius) {i : Nat}
    (hi : 1 ≤ i) (hsteps : i ≤ raySteps d) :
    rayPoint d i ∈ squareOffsets radius ∧ rayPoint d i ≠ (0, 0) := by
  have hpos : 0 < raySteps d := by omega
  obtain ⟨h1, h2⟩ := mem_squareOffsets_iff.mp hd
  obtain ⟨hb1, hb2⟩ := rayPoint_bounds d hsteps hpos
  refine ⟨mem_squareOffsets_iff.mpr ⟨by omega, by omega⟩, rayPoint_ne_zero d (by omega) hpos⟩

/-- **Lines of sight depend on the square around the source only.** -/
theorem los_congr {m m' f f' : TileKey W → Bool} {t : TileKey W} {e : Nat}
    (hm : ∀ d ∈ squareOffsets e, d ≠ (0, 0) → m' (t.shift d) = m (t.shift d))
    (hf : ∀ d ∈ squareOffsets e, d ≠ (0, 0) → f' (t.shift d) = f (t.shift d)) :
    computeLosOffsets m' f' t e = computeLosOffsets m f t e := by
  unfold computeLosOffsets
  apply List.filter_congr
  intro d hd
  have hblocked : rayIsBlockedByMountain m' t d = rayIsBlockedByMountain m t d := by
    unfold rayIsBlockedByMountain
    apply any_congr_mem
    intro i hi
    rw [List.mem_range'_1] at hi
    obtain ⟨hmem, hne⟩ := rayPoint_mem hd (show 1 ≤ i by omega) (by omega)
    exact hm _ hmem hne
  have hoccluded : rayIsOccludedByForest f' t d = rayIsOccludedByForest f t d := by
    unfold rayIsOccludedByForest
    apply forestWalk_congr
    intro i hi
    rw [List.mem_range'_1] at hi
    obtain ⟨hmem, hne⟩ := rayPoint_mem hd (show 1 ≤ i by omega) (by omega)
    exact hf _ hmem hne
  rw [hblocked, hoccluded]

theorem los_clear (t : TileKey W) (e : Nat) :
    computeLosOffsets (fun _ => false) (fun _ => false) t e = squareOffsets e := by
  have hwalk : ∀ l, forestWalk (fun _ => false) none l = false := by
    intro l
    induction l with
    | nil => rfl
    | cons i l ih => simp [forestWalk, ih]
  unfold computeLosOffsets
  rw [List.filter_eq_self]
  intro d _
  simp [rayIsBlockedByMountain, rayIsOccludedByForest, hwalk]

theorem scanOccluder_eq_false {occluder : TileKey W → Bool} {t : TileKey W} {e : Nat} :
    scanOccluder occluder t e = false ↔
      ∀ d ∈ squareOffsets e, d ≠ (0, 0) → occluder (t.shift d) = false := by
  unfold scanOccluder
  rw [List.any_eq_false]
  constructor
  · intro h d hd hne
    have hat := h d hd
    simpa [hne] using hat
  · intro h d hd
    by_cases hne : d = (0, 0)
    · simp [hne]
    · simp [hne, h d hd hne]

variable (gen : Worldgen W)

/-- `computeLosOffsets` on the ground as it is. -/
def losOffsets (g : Ground W) (t : TileKey W) (effective : Nat) : List Offset :=
  computeLosOffsets g.mountainAt (g.isForestTileAt gen) t effective

/-- **The short cut is one**: where the scan meets nothing, the plain square
is the line of sight. -/
theorem freshOffsets_eq_los (g : Ground W) (t : TileKey W) (e : Nat) :
    freshOffsets gen g t e = losOffsets gen g t e := by
  unfold freshOffsets losOffsets
  split
  next hclean =>
    rw [Bool.and_eq_true, Bool.not_eq_true', Bool.not_eq_true', scanOccluder_eq_false,
      scanOccluder_eq_false] at hclean
    rw [← los_clear t e]
    exact los_congr (fun d hd hne => (hclean.1 d hd hne).symm)
      (fun d hd hne => (hclean.2 d hd hne).symm)
  · rfl

/-! ## §2. Runs. -/

/-- The ground and the table that remembers it. -/
structure Footprints (W : WorldSize) where
  ground : Ground W
  table : VisionFootprintTable

inductive FootprintOp (W : WorldSize) where
  | getOffsets (t : TileKey W) (radius : Nat)
  | createMountain (t : TileKey W)
  | removeMountain (t : TileKey W)
  | clearForest (t : TileKey W)

namespace Footprints

def boot (ground : Ground W) : Footprints W := ⟨ground, .new ground.forestClearingEpoch⟩

def step (s : Footprints W) : FootprintOp W → Footprints W
  | .getOffsets t radius => { s with table := (getOffsets gen s.ground t radius s.table).2 }
  | .createMountain t => { s with ground := (s.ground.writeTerrain t .MOUNTAIN).bumpTerrainEpoch }
  | .removeMountain t => { s with ground := (s.ground.writeTerrain t .LAND).bumpTerrainEpoch }
  | .clearForest t => { s with ground := s.ground.clearForestAt gen t }

/-- **No footprint kept for good is touched**: a mountain rises outside the
radius of each, and a query packs its radius. -/
def Untouched (s : Footprints W) : FootprintOp W → Prop
  | .getOffsets t radius => effectiveRadius gen s.ground t radius < MAX_PACKABLE_RADIUS
  | .createMountain t => ∀ u e, e < MAX_PACKABLE_RADIUS →
      (permanentMemo s.ground s.table u e).isSome = true →
      ∀ d ∈ squareOffsets e, d ≠ (0, 0) → u.shift d ≠ t
  | _ => True

/-- **What is remembered is true**, and what is kept for good met no
mountain. -/
structure Truthful (s : Footprints W) : Prop where
  squares : SquaresShared s.table
  epoch : s.table.epoch ≤ s.ground.terrainEpoch
  forestEpoch : s.table.forestEpoch ≤ s.ground.forestClearingEpoch
  answers : ∀ t e, e < MAX_PACKABLE_RADIUS →
    recalled gen s.ground s.table t e = losOffsets gen s.ground t e
  clear : ∀ t e, e < MAX_PACKABLE_RADIUS → (permanentMemo s.ground s.table t e).isSome = true →
    scanOccluder s.ground.mountainAt t e = false

theorem truthful_boot (ground : Ground W) : Truthful gen (boot ground) where
  squares := nofun
  epoch := by
    show (-1 : Int) ≤ ground.terrainEpoch
    omega
  forestEpoch := le_rfl
  answers := by
    intro t e _
    have hpermanent : permanentMemo ground (.new ground.forestClearingEpoch) t e = none := by
      simp [permanentMemo, VisionFootprintTable.new]
    have hscoped : scopedMemo ground (.new ground.forestClearingEpoch) t e = none := by
      simp [scopedMemo, VisionFootprintTable.new]
    show recalled gen ground (.new ground.forestClearingEpoch) t e = losOffsets gen ground t e
    unfold recalled
    rw [hpermanent, hscoped]
    exact freshOffsets_eq_los gen ground t e
  clear := by
    intro t e _ hsome
    have hpermanent : permanentMemo (boot ground).ground (boot ground).table t e = none := by
      simp [boot, permanentMemo, VisionFootprintTable.new]
    rw [hpermanent] at hsome
    cases hsome

/-- **A query keeps for good only what met no mountain.** -/
theorem getOffsets_clear (g : Ground W) (t : TileKey W) (radius : Nat)
    {table : VisionFootprintTable}
    (hsmall : effectiveRadius gen g t radius < MAX_PACKABLE_RADIUS) (t' : TileKey W) {e' : Nat}
    (he' : e' < MAX_PACKABLE_RADIUS)
    (hsome : (permanentMemo g (getOffsets gen g t radius table).2 t' e').isSome = true) :
    (permanentMemo g table t' e').isSome = true ∨ scanOccluder g.mountainAt t' e' = false := by
  obtain ⟨-, -, -, hperm, -⟩ := invalidate_spec g table
  have hperm := hperm t' e'
  unfold getOffsets at hsome
  generalize invalidateIfEpochChanged g table = table₀ at hsome hperm
  dsimp only at hsome
  have hsquare : ∀ (table₁ : VisionFootprintTable) (r : Nat),
      permanentMemo g (table₁.plainSquare r).2 t' e' = permanentMemo g table₁ t' e' := by
    intro table₁ r
    unfold plainSquare
    split <;> rfl
  -- a note under another key leaves this memo alone
  have hnote : ∀ (value : Option (List Offset)) (table₁ : VisionFootprintTable),
      table₁.forestEpoch = table₀.forestEpoch →
      table₁.permanentByKey
        = table₀.permanentByKey.set (packKey t (effectiveRadius gen g t radius)) value →
      (permanentMemo g table₁ t' e').isSome = true →
      (permanentMemo g table t' e').isSome = true
        ∨ (t = t' ∧ effectiveRadius gen g t radius = e') := by
    intro value table₁ h1 h2 h
    rw [← hperm]
    unfold permanentMemo at h ⊢
    rw [h1, h2, InsertionMap.get_set] at h
    split at h
    next hforest =>
      rw [if_pos hforest]
      split at h
      next hkey => exact Or.inr (packKey_injective hsmall he' hkey)
      · exact Or.inl h
    · cases h
  cases hpermanent : table₀.permanentByKey.get (packKey t (effectiveRadius gen g t radius)) with
  | some memo =>
      rw [hpermanent] at hsome
      left
      rw [← hperm]
      cases memo with
      | some offsets => exact hsome
      | none =>
          rw [← hsquare table₀ (effectiveRadius gen g t radius)]
          exact hsome
  | none =>
      rw [hpermanent] at hsome
      dsimp only at hsome
      split at hsome
      · rw [← hperm]
        exact Or.inl hsome
      · split at hsome
        next hclean =>
          rw [Bool.and_eq_true, Bool.not_eq_true', Bool.not_eq_true'] at hclean
          rw [hsquare] at hsome
          rcases hnote none { table₀ with
            permanentByKey := table₀.permanentByKey.set _ none } rfl rfl hsome with h | ⟨rfl, rfl⟩
          · exact Or.inl h
          · exact Or.inr hclean.1
        · split at hsome
          · rw [← hperm]
            exact Or.inl hsome
          next hmountain =>
            rcases hnote (some _) { table₀ with
              permanentByKey := table₀.permanentByKey.set _ (some _) } rfl rfl hsome with h | ⟨rfl, rfl⟩
            · exact Or.inl h
            · exact Or.inr (Bool.eq_false_iff.mpr hmountain)

theorem truthful_getOffsets {s : Footprints W} (h : Truthful gen s) (t : TileKey W) (radius : Nat)
    (hsmall : effectiveRadius gen s.ground t radius < MAX_PACKABLE_RADIUS) :
    Truthful gen (s.step gen (.getOffsets t radius)) := by
  obtain ⟨-, hasked⟩ := getOffsets_spec gen s.ground t radius h.squares hsmall
  refine ⟨hasked.squares, le_of_eq hasked.epoch, le_of_eq hasked.forestEpoch, ?_, ?_⟩
  · exact fun t' e' he' => (hasked.answers t' e' he').trans (h.answers t' e' he')
  · intro t' e' he' hsome
    rcases getOffsets_clear gen s.ground t radius hsmall t' he' hsome with hbefore | hclear
    · exact h.clear t' e' he' hbefore
    · exact hclear

/-- **A change of the mountains** spares what was kept for good, where each
kept square has the mountains it had, none. -/
theorem truthful_reshape {s : Footprints W} (h : Truthful gen s) (t : TileKey W)
    (terrain : Terrain)
    (hspared : ∀ u e, e < MAX_PACKABLE_RADIUS →
      (permanentMemo s.ground s.table u e).isSome = true → ∀ d ∈ squareOffsets e, d ≠ (0, 0) →
        (s.ground.writeTerrain t terrain).mountainAt (u.shift d) = false) :
    Truthful gen { s with ground := (s.ground.writeTerrain t terrain).bumpTerrainEpoch } where
  squares := h.squares
  epoch := by
    have hepoch := h.epoch
    show s.table.epoch ≤ ((s.ground.terrainEpoch + 1 : Nat) : Int)
    omega
  forestEpoch := h.forestEpoch
  answers := by
    intro u e he
    show recalled gen (s.ground.writeTerrain t terrain).bumpTerrainEpoch s.table u e
      = losOffsets gen (s.ground.writeTerrain t terrain).bumpTerrainEpoch u e
    have hmemo : permanentMemo (s.ground.writeTerrain t terrain).bumpTerrainEpoch s.table u e
        = permanentMemo s.ground s.table u e := rfl
    have hanswer := h.answers u e he
    unfold recalled at hanswer ⊢
    rw [hmemo]
    cases hkept : permanentMemo s.ground s.table u e with
    | some offsets =>
        rw [hkept, Option.getD_some] at hanswer
        rw [Option.getD_some, hanswer]
        have hbefore := scanOccluder_eq_false.mp (h.clear u e he (by rw [hkept]; rfl))
        apply los_congr
        · intro d hd hne
          rw [hbefore d hd hne]
          exact (hspared u e he (by rw [hkept]; rfl) d hd hne).symm
        · exact fun _ _ _ => rfl
    | none =>
        -- the epoch has moved past the scoped memos
        have hscoped : scopedMemo (s.ground.writeTerrain t terrain).bumpTerrainEpoch s.table u e
            = none := by
          unfold scopedMemo
          apply if_neg
          rintro ⟨-, hepoch⟩
          have hbound := h.epoch
          have hmoved : s.table.epoch = ((s.ground.terrainEpoch + 1 : Nat) : Int) := hepoch
          omega
        rw [hscoped]
        exact freshOffsets_eq_los gen _ u e
  clear := by
    intro u e he hsome
    exact scanOccluder_eq_false.mpr (hspared u e he hsome)

/-- **Clearing forest** drops every memo, or changes nothing they saw. -/
theorem truthful_clearForest {s : Footprints W} (h : Truthful gen s) (t : TileKey W) :
    Truthful gen (s.step gen (.clearForest t)) := by
  obtain ⟨hgrowth, hterrain, hepoch⟩ := TerrainVision.clearForestAt_regrown gen s.ground t
  set ground := s.ground.clearForestAt gen t
  have hmountain : ground.mountainAt = s.ground.mountainAt := by
    unfold Ground.mountainAt
    rw [hterrain]
  have hterrainEpoch : s.table.epoch ≤ ground.terrainEpoch := by
    rw [hepoch]
    exact h.epoch
  rcases hgrowth with hcleared | hsame
  · have hlater : s.table.forestEpoch ≠ ground.forestClearingEpoch := by
      have hbound := h.forestEpoch
      omega
    have hpermanent : ∀ u e, permanentMemo ground s.table u e = none := fun u e => if_neg hlater
    have hscoped : ∀ u e, scopedMemo ground s.table u e = none :=
      fun u e => if_neg (fun heq => hlater heq.1)
    refine ⟨h.squares, hterrainEpoch, le_of_lt (lt_of_le_of_lt h.forestEpoch hcleared), ?_, ?_⟩
    · intro u e _
      show recalled gen ground s.table u e = _
      unfold recalled
      rw [hpermanent, hscoped]
      exact freshOffsets_eq_los gen _ u e
    · intro u e _ hsome
      have hsome : (permanentMemo ground s.table u e).isSome = true := hsome
      rw [hpermanent] at hsome
      cases hsome
  · have hlos : ∀ u e, losOffsets gen ground u e = losOffsets gen s.ground u e := by
      intro u e
      unfold losOffsets
      rw [hmountain]
      exact los_congr (fun _ _ _ => rfl) (fun d _ _ => hsame.forest (u.shift d))
    have hpermanent := fun u e => hsame.permanentMemo gen s.table u e
    have hscoped : ∀ u e, scopedMemo ground s.table u e = scopedMemo s.ground s.table u e := by
      intro u e
      unfold scopedMemo
      rw [hsame.epoch, hepoch]
    refine ⟨h.squares, hterrainEpoch, ?_, ?_, ?_⟩
    · show s.table.forestEpoch ≤ ground.forestClearingEpoch
      rw [hsame.epoch]
      exact h.forestEpoch
    · intro u e he
      show recalled gen ground s.table u e = losOffsets gen ground u e
      rw [hlos, ← h.answers u e he]
      unfold recalled
      rw [hpermanent, hscoped, freshOffsets_eq_los, freshOffsets_eq_los, hlos]
    · intro u e he hsome
      have hsome : (permanentMemo ground s.table u e).isSome = true := hsome
      rw [hpermanent] at hsome
      show scanOccluder ground.mountainAt u e = false
      rw [hmountain]
      exact h.clear u e he hsome

/-- **One step** that touches no kept footprint. -/
theorem truthful_step (s : Footprints W) (op : FootprintOp W) (h : Truthful gen s)
    (hop : s.Untouched gen op) : Truthful gen (s.step gen op) := by
  cases op with
  | getOffsets t radius => exact truthful_getOffsets gen h t radius hop
  | createMountain t =>
      apply truthful_reshape gen h t .MOUNTAIN
      intro u e he hsome d hd hne
      rw [Ground.mountainAt_writeTerrain_ne _ (hop u e he hsome d hd hne)]
      exact scanOccluder_eq_false.mp (h.clear u e he hsome) d hd hne
  | removeMountain t =>
      apply truthful_reshape gen h t .LAND
      intro u e he hsome d hd hne
      by_cases ht : u.shift d = t
      · unfold Ground.mountainAt Ground.writeTerrain
        rw [ht]
        simp
      · rw [Ground.mountainAt_writeTerrain_ne _ ht]
        exact scanOccluder_eq_false.mp (h.clear u e he hsome) d hd hne
  | clearForest t => exact truthful_clearForest gen h t

end Footprints

open Footprints

/-- **Remembered footprints are true.**  Along every run from any ground
whose steps touch no footprint kept for good, each query whose radius packs
returns the line of sight on the ground as it is then. -/
theorem footprints_true (ground : Ground W) (ops : List (FootprintOp W))
    (huntouched : Run.StepsMeet (step gen) (Untouched gen) (boot ground) ops) :
    Run.Along (step gen) (fun s => ∀ t radius,
      effectiveRadius gen s.ground t radius < MAX_PACKABLE_RADIUS →
        (getOffsets gen s.ground t radius s.table).1
          = computeLosOffsets s.ground.mountainAt (s.ground.isForestTileAt gen) t
            (effectiveRadius gen s.ground t radius)) (boot ground) ops := by
  refine Run.Along.mono ?_ ops _ (Run.along_of_stepsMeet (truthful_step gen) ops _
    (truthful_boot gen ground) huntouched)
  intro s h t radius hsmall
  obtain ⟨hvalue, -⟩ := getOffsets_spec gen s.ground t radius h.squares hsmall
  exact hvalue.trans (h.answers t _ hsmall)

def openLand : Ground smallestWorld where
  terrain := .empty
  cleared := []
  terrainEpoch := 0
  forestClearingEpoch := 0

/-- A mountain rises, then (10,10) is looked at. -/
def mountainFirst : List (FootprintOp smallestWorld) :=
  [.createMountain (wrappedTile smallestWorld 11 10),
    .getOffsets (wrappedTile smallestWorld 10 10) 2]

theorem footprints_true_mountain_first :
    Run.Along (step TerrainVision.plains) (fun s => ∀ t radius,
      effectiveRadius TerrainVision.plains s.ground t radius < MAX_PACKABLE_RADIUS →
        (getOffsets TerrainVision.plains s.ground t radius s.table).1
          = computeLosOffsets s.ground.mountainAt (s.ground.isForestTileAt TerrainVision.plains) t
            (effectiveRadius TerrainVision.plains s.ground t radius))
      (boot openLand) mountainFirst := by
  refine footprints_true TerrainVision.plains openLand mountainFirst ⟨?_, ?_, trivial⟩
  · intro u e _ hkept
    have hnone : permanentMemo (boot openLand).ground (boot openLand).table u e = none := by
      simp [boot, permanentMemo, VisionFootprintTable.new]
    rw [hnone] at hkept
    cases hkept
  · show effectiveRadius TerrainVision.plains _ (wrappedTile smallestWorld 10 10) 2
      < MAX_PACKABLE_RADIUS
    decide

/-- **A kept footprint outlives a new mountain**: looked at first from open
land, the cell behind the mountain is still answered. -/
theorem footprint_outlives_mountain :
    ¬ ∀ (gen : Worldgen smallestWorld) (ground : Ground smallestWorld)
        (ops : List (FootprintOp smallestWorld)) (t : TileKey smallestWorld) (radius : Nat),
        (getOffsets gen (ops.foldl (step gen) (boot ground)).ground t radius
            (ops.foldl (step gen) (boot ground)).table).1
          = computeLosOffsets (ops.foldl (step gen) (boot ground)).ground.mountainAt
            ((ops.foldl (step gen) (boot ground)).ground.isForestTileAt gen) t
            (effectiveRadius gen (ops.foldl (step gen) (boot ground)).ground t radius) := by
  intro hall
  have hsame := hall TerrainVision.plains openLand
    [.getOffsets (wrappedTile smallestWorld 10 10) 2,
      .createMountain (wrappedTile smallestWorld 11 10)] (wrappedTile smallestWorld 10 10) 2
  revert hsame
  decide +kernel

end BorderEmpires.Vision
