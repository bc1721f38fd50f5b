/-
  BorderEmpires.Indexes.SupportRing
  **WHICH TILES LIE IN THE RING OF A GROWN TOWN.**

  The runtime counts, for each owner and tile, the settled towns above the
  settlement tier whose support ring covers the tile, and moves the counts
  along with every write of a tile.  A write reports the tiles that its
  new ring covers for the first time.

  A tile's coordinates are its key.
-/
import BorderEmpires.Lib.RefCounts
import BorderEmpires.Lib.Run
import BorderEmpires.Economy.TownTiles
import Mathlib.Data.Finset.Card

namespace BorderEmpires.SupportRing

open Economy (PopulationTier TownState TownTile supportRingRadiusForTier supportRingCandidates)
open RefCounts (Counts)

variable {W : WorldSize}

/-! ## §1. The source's functions. -/

abbrev TownTiles (W : WorldSize) := InsertionMap (TileKey W) TownTile

abbrev GrownTownSupportRingByOwner (W : WorldSize) := Counts PlayerId (TileKey W)

def addRingRef (map : GrownTownSupportRingByOwner W) (ownerId : PlayerId) (tileKey : TileKey W) :
    GrownTownSupportRingByOwner W :=
  RefCounts.addRef map ownerId tileKey

def removeRingRef (map : GrownTownSupportRingByOwner W) (ownerId : PlayerId)
    (tileKey : TileKey W) : GrownTownSupportRingByOwner W :=
  RefCounts.removeRef map ownerId tileKey

/-- The radius of the tile as a settled grown town of `ownerId`. -/
def ringRadiusForOwnedTownTile (tile : Option TownTile) (ownerId : Option PlayerId) : Option ℕ :=
  tile.bind fun tile =>
    if ownerId = none ∨ tile.ownerId ≠ ownerId then none
    else if tile.ownershipState ≠ some .SETTLED then none
    else tile.town.bind fun town =>
      if town.populationTier = .SETTLEMENT then none
      else some (supportRingRadiusForTier (some town.populationTier))

def ringTileKeysAround (tiles : TownTiles W) (center : TileKey W) (radius : ℕ) : List (TileKey W) :=
  (supportRingCandidates tiles.get center radius).map fun candidate => candidate.key

/-- An entry of the result. -/
structure RingDelta (W : WorldSize) where
  ownerId : PlayerId
  newlyCoveredTileKeys : List (TileKey W)
  deriving DecidableEq

/-- The old ring goes. -/
def clearRing (tiles : TownTiles W) (tileKey : TileKey W) (prevOwnerId : Option PlayerId)
    (prevRadius : Option ℕ) (map : GrownTownSupportRingByOwner W) :
    GrownTownSupportRingByOwner W :=
  match prevOwnerId, prevRadius with
  | some ownerId, some radius =>
      (ringTileKeysAround tiles tileKey radius).foldl
        (fun acc key => removeRingRef acc ownerId key) map
  | _, _ => map

/-- The new ring comes; `addRefs` is the filter of its keys by
`addRingRef`. -/
def coverRing (tiles : TownTiles W) (tileKey : TileKey W) (nextOwnerId : Option PlayerId)
    (nextRadius : Option ℕ) (map : GrownTownSupportRingByOwner W) :
    GrownTownSupportRingByOwner W × List (RingDelta W) :=
  match nextOwnerId, nextRadius with
  | some ownerId, some radius =>
      let added := RefCounts.addRefs map ownerId (ringTileKeysAround tiles tileKey radius)
      (added.1, if added.2 = [] then [] else [⟨ownerId, added.2⟩])
  | _, _ => (map, [])

def syncTownSupportRingForTileChange (tileKey : TileKey W) (previous : Option TownTile)
    (next : TownTile) (tiles : TownTiles W) (map : GrownTownSupportRingByOwner W) :
    GrownTownSupportRingByOwner W × List (RingDelta W) :=
  let prevOwnerId := previous.bind fun tile => tile.ownerId
  let nextOwnerId := next.ownerId
  let prevRadius := ringRadiusForOwnedTownTile previous prevOwnerId
  let nextRadius := ringRadiusForOwnedTownTile (some next) nextOwnerId
  if prevRadius = none ∧ nextRadius = none then (map, [])
  else if prevRadius = nextRadius ∧ prevOwnerId = nextOwnerId then (map, [])
  else coverRing tiles tileKey nextOwnerId nextRadius
    (clearRing tiles tileKey prevOwnerId prevRadius map)

def seedGrownTownSupportRingForTownTile (map : GrownTownSupportRingByOwner W)
    (tileKey : TileKey W) (tile : TownTile) (tiles : TownTiles W) :
    GrownTownSupportRingByOwner W :=
  match tile.ownerId, ringRadiusForOwnedTownTile (some tile) tile.ownerId with
  | some ownerId, some radius =>
      (ringTileKeysAround tiles tileKey radius).foldl
        (fun acc key => addRingRef acc ownerId key) map
  | _, _ => map

/-! ## §2. Runs. -/

/-- What the index is kept next to. -/
structure RingWorld (W : WorldSize) where
  tiles : TownTiles W
  rings : GrownTownSupportRingByOwner W

structure TileChange (W : WorldSize) where
  tileKey : TileKey W
  next : TownTile

/-- The call of a change: the tile map has the new tile already. -/
def RingWorld.sync (w : RingWorld W) (change : TileChange W) :
    GrownTownSupportRingByOwner W × List (RingDelta W) :=
  syncTownSupportRingForTileChange change.tileKey (w.tiles.get change.tileKey) change.next
    (w.tiles.set change.tileKey change.next) w.rings

def RingWorld.step (w : RingWorld W) (change : TileChange W) : RingWorld W :=
  ⟨w.tiles.set change.tileKey change.next, (w.sync change).1⟩

/-- The counts after the boot pass over the tiles. -/
def RingWorld.boot (tiles : TownTiles W) : RingWorld W :=
  ⟨tiles, tiles.entries.foldl
    (fun acc e => seedGrownTownSupportRingForTownTile acc e.1 e.2 tiles) .empty⟩

def RingWorld.refcount (w : RingWorld W) (ownerId : PlayerId) (tileKey : TileKey W) : ℕ :=
  RefCounts.count w.rings ownerId tileKey

/-! ## §3. What the counts should be. -/

def ringOf (tile : Option TownTile) : Option (PlayerId × ℕ) :=
  tile.bind fun t => t.ownerId.bind fun ownerId =>
    (ringRadiusForOwnedTownTile tile (some ownerId)).map fun radius => (ownerId, radius)

/-- A ring at `center` is one of `ownerId` and has the tile in it. -/
def ringCovers (tiles : TownTiles W) (center : TileKey W) (ring : Option (PlayerId × ℕ))
    (ownerId : PlayerId) (tileKey : TileKey W) : Bool :=
  ring.any fun r => decide (r.1 = ownerId ∧ tileKey ∈ ringTileKeysAround tiles center r.2)

/-- The settled grown towns of an owner whose ring covers the tile. -/
def coveringTowns (tiles : TownTiles W) (ownerId : PlayerId) (tileKey : TileKey W) :
    Finset (TileKey W) :=
  Finset.univ.filter fun town => ringCovers tiles town (ringOf (tiles.get town)) ownerId tileKey = true

def RingWorld.Counted (w : RingWorld W) : Prop :=
  ∀ ownerId tileKey, w.refcount ownerId tileKey = (coveringTowns w.tiles ownerId tileKey).card

def Reported (deltas : List (RingDelta W)) (ownerId : PlayerId) (tileKey : TileKey W) : Prop :=
  ∃ delta ∈ deltas, delta.ownerId = ownerId ∧ tileKey ∈ delta.newlyCoveredTileKeys

/-- A change does what it should: the counts are right after it, and what
it reports are the tiles whose count went from zero to positive. -/
structure RingWorld.Right (w : RingWorld W) (change : TileChange W) : Prop where
  counted : (w.step change).Counted
  reported : ∀ ownerId tileKey, Reported (w.sync change).2 ownerId tileKey
    ↔ w.refcount ownerId tileKey = 0 ∧ 0 < (w.step change).refcount ownerId tileKey

def CreatesOutside (w : RingWorld W) (change : TileChange W) : Prop :=
  w.tiles.get change.tileKey = none →
    ∀ ownerId, coveringTowns (w.tiles.set change.tileKey change.next) ownerId change.tileKey = ∅

/-- Where a town stays with its owner and its radius changes, each tile of
both rings is covered by another town of that owner. -/
def ResizesCovered (w : RingWorld W) (change : TileChange W) : Prop :=
  ∀ ownerId prevRadius nextRadius,
    ringOf (w.tiles.get change.tileKey) = some (ownerId, prevRadius) →
    ringOf (some change.next) = some (ownerId, nextRadius) → prevRadius ≠ nextRadius →
    ∀ tileKey ∈ ringTileKeysAround w.tiles change.tileKey prevRadius,
      tileKey ∈ ringTileKeysAround w.tiles change.tileKey nextRadius →
      ∃ town ∈ coveringTowns w.tiles ownerId tileKey, town ≠ change.tileKey

/-! ## §4. Rings. -/

/-- The double loop of the ring scan. -/
def ringOffsets (radius : ℕ) : List (ℤ × ℤ) :=
  (List.range (2 * radius + 1)).flatMap fun i : ℕ =>
    (List.range (2 * radius + 1)).filterMap fun j : ℕ =>
      if (j : ℤ) - radius = 0 ∧ (i : ℤ) - radius = 0 then none
      else some ((j : ℤ) - radius, (i : ℤ) - radius)

variable {radius : ℕ} (tiles : TownTiles W) (ownerId : PlayerId) (tileKey : TileKey W)
  (center : TileKey W)

theorem ringTileKeysAround_eq (radius : ℕ) :
    ringTileKeysAround tiles center radius
      = ((ringOffsets radius).map center.shift).filter fun key => (tiles.get key).isSome := by
  unfold ringTileKeysAround supportRingCandidates ringOffsets
  rw [List.map_flatMap, List.map_flatMap, List.filter_flatMap]
  congr 1
  funext i
  generalize List.range (2 * radius + 1) = row
  induction row with
  | nil => rfl
  | cons j row ih =>
      by_cases hzero : (j : ℤ) - radius = 0 ∧ (i : ℤ) - radius = 0
      · rw [List.filterMap_cons_none (by simp [hzero]), List.filterMap_cons_none (by simp [hzero])]
        exact ih
      · cases hget : tiles.get (center.shift ((j : ℤ) - radius, (i : ℤ) - radius)) with
        | none =>
            simp only [List.filterMap_cons, if_neg hzero, hget, Option.map_none, List.map_cons]
            rw [List.filter_cons_of_neg (by simp [hget])]
            exact ih
        | some tile =>
            simp only [List.filterMap_cons, if_neg hzero, hget, Option.map_some, List.map_cons]
            rw [List.filter_cons_of_pos (by simp [hget])]
            exact congrArg _ ih

theorem mem_ringTileKeysAround {tiles : TownTiles W} {center : TileKey W} {tileKey : TileKey W} :
    tileKey ∈ ringTileKeysAround tiles center radius
      ↔ (tiles.get tileKey).isSome = true ∧ ∃ d ∈ ringOffsets radius, center.shift d = tileKey := by
  rw [ringTileKeysAround_eq, List.mem_filter, List.mem_map, and_comm]

theorem eq_of_emod_eq {a b c : ℤ} {n : ℕ} (hn : 64 ≤ n) (h : (c + a) % n = (c + b) % n)
    (hab : (a - b).natAbs < 64) : a = b := by
  have hdvd : (n : ℤ) ∣ a - b := by
    have hsub := Int.emod_eq_emod_iff_emod_sub_eq_zero.mp h
    rw [show c + a - (c + b) = a - b by omega] at hsub
    exact Int.dvd_of_emod_eq_zero hsub
  have hzero : a - b = 0 :=
    Int.eq_zero_of_dvd_of_natAbs_lt_natAbs hdvd (by rw [Int.natAbs_natCast]; omega)
  omega

/-- **The world is wide enough**: short ways from a tile end apart. -/
theorem shift_injective {center : TileKey W} {d e : ℤ × ℤ} (h : center.shift d = center.shift e)
    (hx : (d.1 - e.1).natAbs < 64) (hy : (d.2 - e.2).natAbs < 64) : d = e := by
  have hxs : ((center.shift d).x.val : ℤ) = (center.shift e).x.val := by rw [h]
  have hys : ((center.shift d).y.val : ℤ) = (center.shift e).y.val := by rw [h]
  unfold TileKey.shift at hxs hys
  rw [wrappedTile_x, wrappedTile_x] at hxs
  rw [wrappedTile_y, wrappedTile_y] at hys
  exact Prod.ext (eq_of_emod_eq W.width_ok.1 hxs hx) (eq_of_emod_eq W.height_ok.1 hys hy)

def IsRingRadius (radius : ℕ) : Prop := radius = 1 ∨ radius = 2

theorem ringOffsets_small (h : IsRingRadius radius) :
    (ringOffsets radius).Nodup
      ∧ ∀ d ∈ ringOffsets radius, d ≠ (0, 0) ∧ d.1.natAbs ≤ 2 ∧ d.2.natAbs ≤ 2 := by
  rcases h with rfl | rfl
  · decide
  · decide

theorem nodup_ringTileKeysAround (h : IsRingRadius radius) :
    (ringTileKeysAround tiles center radius).Nodup := by
  obtain ⟨hnodup, hsmall⟩ := ringOffsets_small h
  rw [ringTileKeysAround_eq]
  apply List.Nodup.filter
  refine List.Nodup.map_on (fun d hd e he heq => ?_) hnodup
  obtain ⟨-, hdx, hdy⟩ := hsmall d hd
  obtain ⟨-, hex, hey⟩ := hsmall e he
  exact shift_injective heq (by omega) (by omega)

theorem center_notMem (h : IsRingRadius radius) :
    center ∉ ringTileKeysAround tiles center radius := by
  intro hmem
  obtain ⟨-, d, hd, hshift⟩ := mem_ringTileKeysAround.mp hmem
  obtain ⟨hne, hx, hy⟩ := (ringOffsets_small h).2 d hd
  have hzero : center.shift (0, 0) = center := by
    show wrappedTile W _ _ = center
    rw [add_zero, add_zero]
    exact wrappedTile_self center
  exact hne (shift_injective (hshift.trans hzero.symm) (by simp; omega) (by simp; omega))

/-- **Who has a ring**: a settled town above the settlement tier, for its
owner, with the radius of its tier. -/
theorem ringOf_eq_some_iff {tile : TownTile} {ownerId : PlayerId} :
    ringOf (some tile) = some (ownerId, radius)
      ↔ tile.ownerId = some ownerId ∧ tile.ownershipState = some .SETTLED
        ∧ ∃ town, tile.town = some town ∧ town.populationTier ≠ .SETTLEMENT
          ∧ supportRingRadiusForTier (some town.populationTier) = radius := by
  unfold ringOf ringRadiusForOwnedTownTile
  rw [Option.bind_some]
  cases howner : tile.ownerId with
  | none => simp
  | some tileOwner =>
      rw [Option.bind_some, Option.bind_some, if_neg (by simp [howner])]
      by_cases hsettled : tile.ownershipState = some .SETTLED
      · rw [if_neg (not_not_intro hsettled)]
        cases htown : tile.town with
        | none => simp
        | some town =>
            rw [Option.bind_some]
            by_cases htier : town.populationTier = .SETTLEMENT
            · simp [htier]
            · simp [htier, hsettled]
      · simp [hsettled]

theorem isRingRadius_of_ringOf {tile : Option TownTile} {ownerId : PlayerId}
    (h : ringOf tile = some (ownerId, radius)) : IsRingRadius radius := by
  cases tile with
  | none => cases h
  | some tile =>
      obtain ⟨-, -, town, -, -, rfl⟩ := ringOf_eq_some_iff.mp h
      unfold supportRingRadiusForTier IsRingRadius
      split
      · exact Or.inr rfl
      · exact Or.inl rfl

/-! ## §5. One change. -/

theorem ringOf_eq (tile : TownTile) :
    ringOf (some tile)
      = tile.ownerId.bind fun ownerId =>
          (ringRadiusForOwnedTownTile (some tile) tile.ownerId).map fun radius =>
            (ownerId, radius) := by
  unfold ringOf
  rw [Option.bind_some]
  cases tile.ownerId with
  | none => rfl
  | some ownerId => rfl

theorem radius_eq_none_of_unowned {tile : Option TownTile} :
    ringRadiusForOwnedTownTile tile none = none := by
  cases tile with
  | none => rfl
  | some tile =>
      unfold ringRadiusForOwnedTownTile
      rw [Option.bind_some, if_pos (Or.inl rfl)]

theorem clearRing_eq (tile : Option TownTile) (map : GrownTownSupportRingByOwner W) :
    clearRing tiles tileKey (tile.bind fun t => t.ownerId)
        (ringRadiusForOwnedTownTile tile (tile.bind fun t => t.ownerId)) map
      = (ringOf tile).elim map fun ring =>
          RefCounts.removeRefs map ring.1 (ringTileKeysAround tiles tileKey ring.2) := by
  cases tile with
  | none => rfl
  | some tile =>
      rw [ringOf_eq, Option.bind_some]
      cases tile.ownerId with
      | none => rfl
      | some ownerId =>
          cases ringRadiusForOwnedTownTile (some tile) (some ownerId) with
          | none => rfl
          | some radius => rfl

theorem coverRing_eq (tile : TownTile) (map : GrownTownSupportRingByOwner W) :
    coverRing tiles tileKey tile.ownerId (ringRadiusForOwnedTownTile (some tile) tile.ownerId) map
      = (ringOf (some tile)).elim (map, []) fun ring =>
          let added := RefCounts.addRefs map ring.1 (ringTileKeysAround tiles tileKey ring.2)
          (added.1, if added.2 = [] then [] else [⟨ring.1, added.2⟩]) := by
  rw [ringOf_eq]
  cases tile.ownerId with
  | none => rfl
  | some ownerId =>
      cases ringRadiusForOwnedTownTile (some tile) (some ownerId) with
      | none => rfl
      | some radius => rfl

/-- **The shortcuts are one**: nothing is done where the ring stays. -/
theorem sync_eq (previous : Option TownTile) (next : TownTile) (tiles : TownTiles W)
    (map : GrownTownSupportRingByOwner W) :
    syncTownSupportRingForTileChange tileKey previous next tiles map
      = if ringOf previous = ringOf (some next) then (map, [])
        else (ringOf (some next)).elim
          ((ringOf previous).elim map fun ring =>
            RefCounts.removeRefs map ring.1 (ringTileKeysAround tiles tileKey ring.2), [])
          fun ring =>
            let cleared := (ringOf previous).elim map fun ring =>
              RefCounts.removeRefs map ring.1 (ringTileKeysAround tiles tileKey ring.2)
            let added := RefCounts.addRefs cleared ring.1 (ringTileKeysAround tiles tileKey ring.2)
            (added.1, if added.2 = [] then [] else [⟨ring.1, added.2⟩]) := by
  have hprev : ringOf previous
      = (previous.bind fun t => t.ownerId).bind fun ownerId =>
          (ringRadiusForOwnedTownTile previous (previous.bind fun t => t.ownerId)).map
            fun radius => (ownerId, radius) := by
    cases previous with
    | none => rfl
    | some tile => exact ringOf_eq tile
  unfold syncTownSupportRingForTileChange
  dsimp only
  rw [clearRing_eq, coverRing_eq, hprev, ringOf_eq]
  generalize hp : (previous.bind fun t => t.ownerId) = prevOwnerId
  generalize hn : next.ownerId = nextOwnerId
  cases prevOwnerId with
  | none =>
      rw [radius_eq_none_of_unowned]
      cases nextOwnerId with
      | none =>
          rw [radius_eq_none_of_unowned]
          rfl
      | some nextOwnerId =>
          cases ringRadiusForOwnedTownTile (some next) (some nextOwnerId) with
          | none => rfl
          | some nextRadius => simp
  | some prevOwnerId =>
      cases nextOwnerId with
      | none =>
          rw [radius_eq_none_of_unowned]
          cases ringRadiusForOwnedTownTile previous (some prevOwnerId) with
          | none => rfl
          | some prevRadius => simp
      | some nextOwnerId =>
          cases ringRadiusForOwnedTownTile previous (some prevOwnerId) with
          | none =>
              cases ringRadiusForOwnedTownTile (some next) (some nextOwnerId) with
              | none => rfl
              | some nextRadius => simp
          | some prevRadius =>
              cases ringRadiusForOwnedTownTile (some next) (some nextOwnerId) with
              | none => simp
              | some nextRadius => simp [and_comm]

theorem ringCovers_iff {tiles : TownTiles W} {center : TileKey W} {ring : Option (PlayerId × ℕ)}
    {ownerId : PlayerId} {tileKey : TileKey W} :
    ringCovers tiles center ring ownerId tileKey = true
      ↔ ∃ radius, ring = some (ownerId, radius)
          ∧ tileKey ∈ ringTileKeysAround tiles center radius := by
  unfold ringCovers
  cases ring with
  | none => simp
  | some r =>
      rw [Option.any_some, decide_eq_true_eq]
      constructor
      · rintro ⟨rfl, hmem⟩
        exact ⟨r.2, rfl, hmem⟩
      · rintro ⟨radius, h, hmem⟩
        obtain rfl : r = (ownerId, radius) := Option.some.inj h
        exact ⟨rfl, hmem⟩

def ringShare (tiles : TownTiles W) (center : TileKey W) (ring : Option (PlayerId × ℕ))
    (ownerId : PlayerId) (tileKey : TileKey W) : ℕ :=
  if ringCovers tiles center ring ownerId tileKey = true then 1 else 0

theorem ringShare_some (ring : PlayerId × ℕ) (ownerId : PlayerId) (tileKey : TileKey W) :
    ringShare tiles center (some ring) ownerId tileKey
      = if ring.1 = ownerId ∧ tileKey ∈ ringTileKeysAround tiles center ring.2 then 1 else 0 := by
  unfold ringShare ringCovers
  simp only [Option.any_some, decide_eq_true_eq]

section Change

variable (tiles : TownTiles W) (center : TileKey W) (previous : Option TownTile) (next : TownTile)
  (map : GrownTownSupportRingByOwner W) (ownerId : PlayerId) (tileKey : TileKey W)

/-- The counts with the old ring gone. -/
def cleared : GrownTownSupportRingByOwner W :=
  (ringOf previous).elim map fun ring =>
    RefCounts.removeRefs map ring.1 (ringTileKeysAround tiles center ring.2)

theorem count_cleared :
    RefCounts.count (cleared tiles center previous map) ownerId tileKey
      = RefCounts.count map ownerId tileKey
        - ringShare tiles center (ringOf previous) ownerId tileKey := by
  unfold cleared
  cases hring : ringOf previous with
  | none => rfl
  | some ring =>
      rw [Option.elim_some, ringShare_some]
      exact RefCounts.count_removeRefs _ _ _
        (nodup_ringTileKeysAround tiles center (isRingRadius_of_ringOf hring)) map

theorem sync_of_ne (h : ringOf previous ≠ ringOf (some next)) :
    syncTownSupportRingForTileChange center previous next tiles map
      = (ringOf (some next)).elim (cleared tiles center previous map, []) fun ring =>
          let added := RefCounts.addRefs (cleared tiles center previous map) ring.1
            (ringTileKeysAround tiles center ring.2)
          (added.1, if added.2 = [] then [] else [⟨ring.1, added.2⟩]) := by
  rw [sync_eq, if_neg h]
  rfl

/-- **What one change does to the counts**: the share of the old ring goes,
that of the new one comes. -/
theorem count_synced (hle : ringShare tiles center (ringOf previous) ownerId tileKey
      ≤ RefCounts.count map ownerId tileKey) :
    RefCounts.count (syncTownSupportRingForTileChange center previous next tiles map).1 ownerId
        tileKey
      = RefCounts.count map ownerId tileKey
        - ringShare tiles center (ringOf previous) ownerId tileKey
        + ringShare tiles center (ringOf (some next)) ownerId tileKey := by
  by_cases hsame : ringOf previous = ringOf (some next)
  · rw [sync_eq, if_pos hsame, ← hsame]
    show RefCounts.count map ownerId tileKey = _
    omega
  · rw [sync_of_ne _ _ _ _ _ hsame, ← count_cleared]
    cases hring : ringOf (some next) with
    | none => rfl
    | some ring =>
        rw [Option.elim_some, ringShare_some]
        exact RefCounts.count_addRefs _ _ _
          (nodup_ringTileKeysAround tiles center (isRingRadius_of_ringOf hring)) _

/-- **What it reports**: the tiles of the new ring that nothing covers once
the old ring is gone. -/
theorem mem_reported_iff :
    Reported (syncTownSupportRingForTileChange center previous next tiles map).2 ownerId tileKey
      ↔ ringOf previous ≠ ringOf (some next)
        ∧ ringShare tiles center (ringOf (some next)) ownerId tileKey = 1
        ∧ RefCounts.count map ownerId tileKey
            - ringShare tiles center (ringOf previous) ownerId tileKey = 0 := by
  unfold Reported
  by_cases hsame : ringOf previous = ringOf (some next)
  · rw [sync_eq, if_pos hsame]
    simp [hsame]
  · rw [sync_of_ne _ _ _ _ _ hsame, ← count_cleared, and_iff_right hsame]
    cases hring : ringOf (some next) with
    | none => simp [ringShare, ringCovers]
    | some ring =>
        have hfresh := RefCounts.mem_fresh_addRefs ring.1 tileKey
          (nodup_ringTileKeysAround tiles center (isRingRadius_of_ringOf hring))
          (cleared tiles center previous map)
        rw [Option.elim_some, ringShare_some]
        dsimp only
        have hentry : (∃ delta ∈ (if (RefCounts.addRefs (cleared tiles center previous map) ring.1
              (ringTileKeysAround tiles center ring.2)).2 = [] then [] else
              [(⟨ring.1, (RefCounts.addRefs (cleared tiles center previous map) ring.1
                (ringTileKeysAround tiles center ring.2)).2⟩ : RingDelta W)]),
              delta.ownerId = ownerId ∧ tileKey ∈ delta.newlyCoveredTileKeys)
            ↔ ring.1 = ownerId ∧ tileKey ∈ (RefCounts.addRefs (cleared tiles center previous map)
              ring.1 (ringTileKeysAround tiles center ring.2)).2 := by
          split
          next hnil => simp [hnil]
          next => simp
        rw [hentry, hfresh]
        by_cases ho : ring.1 = ownerId
        · subst ho
          simp
        · simp [ho]

end Change

/-! ## §6. The towns that cover a tile. -/

section Towns

variable (tiles : TownTiles W) (ownerId : PlayerId) (tileKey changed : TileKey W)

theorem card_coveringTowns :
    (coveringTowns tiles ownerId tileKey).card
      = ((Finset.univ.erase changed).filter fun town =>
          ringCovers tiles town (ringOf (tiles.get town)) ownerId tileKey = true).card
        + ringShare tiles changed (ringOf (tiles.get changed)) ownerId tileKey := by
  unfold coveringTowns ringShare
  conv_lhs => rw [← Finset.insert_erase (Finset.mem_univ changed)]
  rw [Finset.filter_insert]
  split
  · rw [Finset.card_insert_of_notMem (by simp)]
  · rfl

theorem share_le_card :
    ringShare tiles changed (ringOf (tiles.get changed)) ownerId tileKey
      ≤ (coveringTowns tiles ownerId tileKey).card := by
  rw [card_coveringTowns tiles ownerId tileKey changed]
  omega

variable {tiles tileKey changed}

theorem mem_ring_set {next : TownTile} {center : TileKey W} {radius : ℕ}
    (h : tileKey ≠ changed ∨ (tiles.get changed).isSome = true) :
    tileKey ∈ ringTileKeysAround (tiles.set changed next) center radius
      ↔ tileKey ∈ ringTileKeysAround tiles center radius := by
  rw [mem_ringTileKeysAround, mem_ringTileKeysAround, InsertionMap.get_set]
  by_cases heq : changed = tileKey
  · subst heq
    have hsome : (tiles.get changed).isSome = true := h.resolve_left (fun hne => hne rfl)
    simp [hsome]
  · rw [if_neg heq]

theorem ringCovers_set {next : TownTile} {center : TileKey W} {ring : Option (PlayerId × ℕ)}
    (h : tileKey ≠ changed ∨ (tiles.get changed).isSome = true) :
    ringCovers (tiles.set changed next) center ring ownerId tileKey
      = ringCovers tiles center ring ownerId tileKey := by
  rw [Bool.eq_iff_iff, ringCovers_iff, ringCovers_iff]
  simp only [mem_ring_set h]

theorem share_previous (next : TownTile) :
    ringShare (tiles.set changed next) changed (ringOf (tiles.get changed)) ownerId tileKey
      = ringShare tiles changed (ringOf (tiles.get changed)) ownerId tileKey := by
  cases hget : tiles.get changed with
  | none => rfl
  | some tile =>
      unfold ringShare
      rw [ringCovers_set ownerId (Or.inr (by rw [hget]; rfl))]

theorem card_set (next : TownTile)
    (h : tileKey ≠ changed ∨ (tiles.get changed).isSome = true) :
    (coveringTowns (tiles.set changed next) ownerId tileKey).card
      = (coveringTowns tiles ownerId tileKey).card
        - ringShare tiles changed (ringOf (tiles.get changed)) ownerId tileKey
        + ringShare (tiles.set changed next) changed (ringOf (some next)) ownerId tileKey := by
  rw [card_coveringTowns _ ownerId tileKey changed, card_coveringTowns tiles ownerId tileKey changed,
    InsertionMap.get_set_self, Nat.add_sub_cancel]
  congr 2
  apply Finset.filter_congr
  intro town htown
  rw [InsertionMap.get_set_ne _ (Finset.ne_of_mem_erase htown).symm, ringCovers_set ownerId h]

theorem coveringTowns_of_absent (h : tiles.get tileKey = none) :
    coveringTowns tiles ownerId tileKey = ∅ := by
  unfold coveringTowns
  apply Finset.filter_eq_empty_iff.mpr
  intro town _ hcovers
  obtain ⟨radius, -, hmem⟩ := ringCovers_iff.mp hcovers
  have hsome := (mem_ringTileKeysAround.mp hmem).1
  rw [h] at hsome
  cases hsome

theorem share_self (tile : Option TownTile) :
    ringShare tiles tileKey (ringOf tile) ownerId tileKey = 0 := by
  unfold ringShare
  apply if_neg
  intro hcovers
  obtain ⟨radius, hring, hmem⟩ := ringCovers_iff.mp hcovers
  exact center_notMem tiles tileKey (isRingRadius_of_ringOf hring) hmem

end Towns

/-! ## §7. When a change is right. -/

section Right

variable {w : RingWorld W} (h : w.Counted) (change : TileChange W)
include h

theorem refcount_step (ownerId : PlayerId) (tileKey : TileKey W) :
    (w.step change).refcount ownerId tileKey
      = w.refcount ownerId tileKey
        - ringShare w.tiles change.tileKey (ringOf (w.tiles.get change.tileKey)) ownerId tileKey
        + ringShare (w.tiles.set change.tileKey change.next) change.tileKey
            (ringOf (some change.next)) ownerId tileKey := by
  have hle := share_le_card w.tiles ownerId tileKey change.tileKey
  rw [← h ownerId tileKey, ← share_previous ownerId change.next] at hle
  rw [← share_previous ownerId change.next]
  exact count_synced _ _ _ _ _ _ _ hle

/-- **The counts stay right** exactly when no tile comes into being inside a
ring. -/
theorem counted_step_iff : (w.step change).Counted ↔ CreatesOutside w change := by
  have hother : ∀ ownerId tileKey,
      tileKey ≠ change.tileKey ∨ (w.tiles.get change.tileKey).isSome = true →
      (w.step change).refcount ownerId tileKey
        = (coveringTowns (w.step change).tiles ownerId tileKey).card := by
    intro ownerId tileKey hkey
    rw [refcount_step h, h ownerId tileKey]
    exact (card_set ownerId change.next hkey).symm
  constructor
  · intro hcounted habsent ownerId
    have hcount := hcounted ownerId change.tileKey
    rw [refcount_step h, share_self, share_self, h ownerId change.tileKey,
      coveringTowns_of_absent ownerId habsent] at hcount
    exact Finset.card_eq_zero.mp hcount.symm
  · intro houtside ownerId tileKey
    by_cases hkey : tileKey = change.tileKey
    · subst hkey
      cases hget : w.tiles.get change.tileKey with
      | some tile => exact hother ownerId _ (Or.inr (by rw [hget]; rfl))
      | none =>
          show _ = (coveringTowns (w.tiles.set change.tileKey change.next) ownerId _).card
          rw [refcount_step h, share_self, share_self, h ownerId change.tileKey,
            coveringTowns_of_absent ownerId hget, houtside hget ownerId]
          rfl
    · exact hother ownerId tileKey (Or.inl hkey)

theorem reported_iff (ownerId : PlayerId) (tileKey : TileKey W) :
    Reported (w.sync change).2 ownerId tileKey
      ↔ ringOf (w.tiles.get change.tileKey) ≠ ringOf (some change.next)
        ∧ ringShare (w.tiles.set change.tileKey change.next) change.tileKey
            (ringOf (some change.next)) ownerId tileKey = 1
        ∧ (coveringTowns w.tiles ownerId tileKey).card
            - ringShare w.tiles change.tileKey (ringOf (w.tiles.get change.tileKey)) ownerId tileKey
            = 0 := by
  rw [← h ownerId tileKey, ← share_previous ownerId change.next]
  exact mem_reported_iff _ _ _ _ _ _ _

omit h in
theorem share_lt_card {ownerId : PlayerId} {tileKey : TileKey W}
    (hother : ∃ town ∈ coveringTowns w.tiles ownerId tileKey, town ≠ change.tileKey) :
    ringShare w.tiles change.tileKey (ringOf (w.tiles.get change.tileKey)) ownerId tileKey
      < (coveringTowns w.tiles ownerId tileKey).card := by
  obtain ⟨town, hmem, hne⟩ := hother
  have hpos : 0 < ((Finset.univ.erase change.tileKey).filter fun t =>
      ringCovers w.tiles t (ringOf (w.tiles.get t)) ownerId tileKey = true).card := by
    apply Finset.card_pos.mpr
    refine ⟨town, Finset.mem_filter.mpr ⟨?_, (Finset.mem_filter.mp hmem).2⟩⟩
    exact Finset.mem_erase.mpr ⟨hne, Finset.mem_univ town⟩
  rw [card_coveringTowns w.tiles ownerId tileKey change.tileKey]
  omega

omit h in
theorem card_le_share_of_alone {ownerId : PlayerId} {tileKey : TileKey W}
    (halone : ¬ ∃ town ∈ coveringTowns w.tiles ownerId tileKey, town ≠ change.tileKey) :
    (coveringTowns w.tiles ownerId tileKey).card
      ≤ ringShare w.tiles change.tileKey (ringOf (w.tiles.get change.tileKey)) ownerId tileKey := by
  rw [card_coveringTowns w.tiles ownerId tileKey change.tileKey]
  have hempty : ((Finset.univ.erase change.tileKey).filter fun t =>
      ringCovers w.tiles t (ringOf (w.tiles.get t)) ownerId tileKey = true) = ∅ := by
    apply Finset.filter_eq_empty_iff.mpr
    intro town htown hcovers
    exact halone ⟨town, Finset.mem_filter.mpr ⟨Finset.mem_univ town, hcovers⟩,
      Finset.ne_of_mem_erase htown⟩
  rw [hempty, Finset.card_empty, Nat.zero_add]

omit h in
theorem ringShare_eq_one_iff {tiles : TownTiles W} {center : TileKey W}
    {ring : Option (PlayerId × ℕ)} {ownerId : PlayerId} {tileKey : TileKey W} :
    ringShare tiles center ring ownerId tileKey = 1
      ↔ ∃ radius, ring = some (ownerId, radius)
          ∧ tileKey ∈ ringTileKeysAround tiles center radius := by
  rw [← ringCovers_iff]
  unfold ringShare
  split
  next hcovers => simp [hcovers]
  next hnot => simp [hnot]

omit h in
theorem ringShare_le_one (tiles : TownTiles W) (center : TileKey W)
    (ring : Option (PlayerId × ℕ)) (ownerId : PlayerId) (tileKey : TileKey W) :
    ringShare tiles center ring ownerId tileKey ≤ 1 := by
  unfold ringShare
  split
  · exact Nat.le_refl 1
  · exact Nat.zero_le 1

omit h in
theorem isSome_of_ringOf {tile : Option TownTile} {ring : PlayerId × ℕ}
    (hring : ringOf tile = some ring) : tile.isSome = true := by
  cases tile with
  | none => cases hring
  | some tile => rfl

/-- **The report is right** exactly when no tile of both rings hangs on the
resized town alone. -/
theorem reported_step_iff :
    (∀ ownerId tileKey, Reported (w.sync change).2 ownerId tileKey
        ↔ w.refcount ownerId tileKey = 0 ∧ 0 < (w.step change).refcount ownerId tileKey)
      ↔ ResizesCovered w change := by
  constructor
  · intro hreport ownerId prevRadius nextRadius hprev hnext hne tileKey hold hnew
    by_contra halone
    have hcard := card_le_share_of_alone change halone
    have hpresent := isSome_of_ringOf hprev
    have hshare : ringShare w.tiles change.tileKey (ringOf (w.tiles.get change.tileKey)) ownerId
        tileKey = 1 := ringShare_eq_one_iff.mpr ⟨prevRadius, hprev, hold⟩
    have hcovers : Reported (w.sync change).2 ownerId tileKey := by
      rw [reported_iff h]
      refine ⟨?_, ringShare_eq_one_iff.mpr ⟨nextRadius, hnext, ?_⟩, by omega⟩
      · rw [hprev, hnext]
        intro heq
        exact hne (congrArg Prod.snd (Option.some.inj heq))
      · exact (mem_ring_set (Or.inr hpresent)).mpr hnew
    -- the count was one, so the tile was covered before
    have hzero := ((hreport ownerId tileKey).mp hcovers).1
    have hle := share_le_card w.tiles ownerId tileKey change.tileKey
    rw [h ownerId tileKey] at hzero
    omega
  · intro hresize ownerId tileKey
    have hle := share_le_card w.tiles ownerId tileKey change.tileKey
    have hone := ringShare_le_one (w.tiles.set change.tileKey change.next) change.tileKey
      (ringOf (some change.next)) ownerId tileKey
    rw [reported_iff h, refcount_step h, h ownerId tileKey]
    constructor
    · rintro ⟨hne, hnew, hleft⟩
      have hshare : ringShare w.tiles change.tileKey (ringOf (w.tiles.get change.tileKey)) ownerId
          tileKey ≠ 1 := by
        intro hold
        obtain ⟨nextRadius, hnext, hnewmem⟩ := ringShare_eq_one_iff.mp hnew
        obtain ⟨prevRadius, hprev, holdmem⟩ := ringShare_eq_one_iff.mp hold
        have hradius : prevRadius ≠ nextRadius := by
          rintro rfl
          exact hne (hprev.trans hnext.symm)
        have hmem := (mem_ring_set (Or.inr (isSome_of_ringOf hprev))).mp hnewmem
        have hlt := share_lt_card change
          (hresize ownerId prevRadius nextRadius hprev hnext hradius tileKey holdmem hmem)
        omega
      have hold := ringShare_le_one w.tiles change.tileKey (ringOf (w.tiles.get change.tileKey))
        ownerId tileKey
      omega
    · rintro ⟨hzero, hpos⟩
      refine ⟨?_, by omega, by omega⟩
      intro hsame
      rw [← hsame, share_previous] at hpos
      omega

/-- **A change is right** exactly when it meets both conditions. -/
theorem ringRight_iff :
    w.Right change ↔ CreatesOutside w change ∧ ResizesCovered w change := by
  rw [← counted_step_iff h change, ← reported_step_iff h change]
  exact ⟨fun hright => ⟨hright.1, hright.2⟩, fun hboth => ⟨hboth.1, hboth.2⟩⟩

end Right

/-! ## §8. From the boot on. -/

theorem count_seeded (tile : TownTile) (map : GrownTownSupportRingByOwner W) (ownerId : PlayerId)
    (tileKey : TileKey W) :
    RefCounts.count (seedGrownTownSupportRingForTownTile map center tile tiles) ownerId tileKey
      = RefCounts.count map ownerId tileKey
        + ringShare tiles center (ringOf (some tile)) ownerId tileKey := by
  have heq : seedGrownTownSupportRingForTownTile map center tile tiles
      = (ringOf (some tile)).elim map fun ring =>
          (RefCounts.addRefs map ring.1 (ringTileKeysAround tiles center ring.2)).1 := by
    unfold seedGrownTownSupportRingForTownTile
    rw [ringOf_eq]
    cases tile.ownerId with
    | none => rfl
    | some tileOwner =>
        cases ringRadiusForOwnedTownTile (some tile) (some tileOwner) with
        | none => rfl
        | some radius =>
            show _ = (RefCounts.addRefs map tileOwner _).1
            rw [RefCounts.addRefs_fst]
            rfl
  rw [heq]
  cases hring : ringOf (some tile) with
  | none => rfl
  | some ring =>
      rw [Option.elim_some, ringShare_some]
      exact RefCounts.count_addRefs _ _ _
        (nodup_ringTileKeysAround tiles center (isRingRadius_of_ringOf hring)) map

theorem count_seed_foldl (entries : List (TileKey W × TownTile)) :
    ∀ map : GrownTownSupportRingByOwner W,
      RefCounts.count (entries.foldl
          (fun acc e => seedGrownTownSupportRingForTownTile acc e.1 e.2 tiles) map) ownerId tileKey
        = RefCounts.count map ownerId tileKey
          + (entries.filter fun e =>
              ringCovers tiles e.1 (ringOf (some e.2)) ownerId tileKey).length := by
  induction entries with
  | nil =>
      intro map
      rfl
  | cons e entries ih =>
      intro map
      rw [List.foldl_cons, ih, count_seeded, List.filter_cons]
      unfold ringShare
      split
      · rw [List.length_cons]
        omega
      · rfl

theorem card_coveringTowns_eq :
    (coveringTowns tiles ownerId tileKey).card
      = (tiles.entries.filter fun e =>
          ringCovers tiles e.1 (ringOf (some e.2)) ownerId tileKey).length := by
  have hnodup : ((tiles.entries.filter fun e =>
      ringCovers tiles e.1 (ringOf (some e.2)) ownerId tileKey).map Prod.fst).Nodup :=
    tiles.nodupKeys.sublist (List.filter_sublist.map Prod.fst)
  rw [← List.length_map Prod.fst, ← List.toFinset_card_of_nodup hnodup]
  congr 1
  ext town
  unfold coveringTowns
  simp only [Finset.mem_filter, Finset.mem_univ, true_and, List.mem_toFinset, List.mem_map,
    List.mem_filter, Prod.exists, exists_and_right, exists_eq_right]
  constructor
  · intro hcovers
    obtain ⟨radius, hring, -⟩ := ringCovers_iff.mp hcovers
    obtain ⟨tile, htile⟩ := Option.isSome_iff_exists.mp (isSome_of_ringOf hring)
    rw [htile] at hcovers
    exact ⟨tile, (InsertionMap.mem_entries_iff tiles town tile).mpr htile, hcovers⟩
  · rintro ⟨tile, hmem, hcovers⟩
    rw [(InsertionMap.mem_entries_iff tiles town tile).mp hmem]
    exact hcovers

theorem counted_boot : (RingWorld.boot tiles).Counted := by
  intro ownerId tileKey
  show RefCounts.count (tiles.entries.foldl _ .empty) ownerId tileKey = _
  rw [count_seed_foldl, RefCounts.count_empty, Nat.zero_add]
  exact (card_coveringTowns_eq tiles ownerId tileKey).symm

/-- **The support rings, run after run**: from the boot over any tiles, every
change leaves the right counts and reports the tiles newly covered, exactly
when none creates a tile inside a ring or resizes a town whose old and new
ring share a tile that nothing else of its owner covers. -/
theorem supportRing_runs (tiles : TownTiles W) (changes : List (TileChange W)) :
    (RingWorld.boot tiles).Counted
      ∧ (Run.StepsMeet RingWorld.step RingWorld.Right (.boot tiles) changes
        ↔ Run.StepsMeet RingWorld.step (fun w change => CreatesOutside w change
          ∧ ResizesCovered w change) (.boot tiles) changes) := by
  refine ⟨counted_boot tiles, ?_⟩
  apply Run.stepsMeet_iff_stepsMeet
  · intro w change hw hmeet
    exact (counted_step_iff hw change).mpr hmeet.1
  · intro w change hw
    exact ringRight_iff hw change
  · exact counted_boot tiles

/-! ## §9. A city that grows. -/

def plainTile : TownTile := ⟨⟨none, none⟩, .LAND, none, none⟩

def ownTown (populationTier : PopulationTier) : TownTile :=
  ⟨⟨some playerOne, some .SETTLED⟩, .LAND, some ⟨none, populationTier⟩, none⟩

def townAndNeighbor : TownTiles smallestWorld :=
  (InsertionMap.empty.set (wrappedTile smallestWorld 20 20) (ownTown .CITY)).set
    (wrappedTile smallestWorld 21 20) plainTile

/-- **The grown city reports what it covered already.** -/
theorem greatCity_reports_covered :
    ¬ (RingWorld.boot townAndNeighbor).Right
      ⟨wrappedTile smallestWorld 20 20, ownTown .GREAT_CITY⟩ := by
  intro hright
  have hreported : Reported ((RingWorld.boot townAndNeighbor).sync
      ⟨wrappedTile smallestWorld 20 20, ownTown .GREAT_CITY⟩).2 playerOne
        (wrappedTile smallestWorld 21 20) := by
    refine ⟨⟨playerOne, [wrappedTile smallestWorld 21 20]⟩, ?_, rfl, List.mem_singleton.mpr rfl⟩
    decide +kernel
  have hzero := ((hright.reported _ _).mp hreported).1
  have hone : (RingWorld.boot townAndNeighbor).refcount playerOne
      (wrappedTile smallestWorld 21 20) = 1 := by decide +kernel
  omega

end BorderEmpires.SupportRing
