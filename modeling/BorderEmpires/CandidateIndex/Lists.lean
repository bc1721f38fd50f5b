/-
  BorderEmpires.CandidateIndex.Lists
  **THE ATTACK CANDIDATES AROUND AN ANCHOR, INDEXED.**

  For every registered anchor the index keeps the attackable tiles up to
  the anchor's largest radius, sorted, and rebuilds the list when a watched
  tile changes.  A sweep finds them from scratch.  The index collects its
  tiles around the torus but narrows to a smaller radius by the distance on
  the flat map, and it watches only tiles that exist when the anchor is
  registered.
-/
import BorderEmpires.Lib.OwnerIndex
import BorderEmpires.Lib.RingDistance
import BorderEmpires.Lib.Run
import BorderEmpires.Lib.SortedInsert
import BorderEmpires.World

namespace BorderEmpires.CandidateIndex

open Ranking SortedInsert

universe u

variable {W : WorldSize} {Rest : Type u}

/-! ## §1. Tiles. -/

/-- The fields of a tile but for its coordinates; `rest` is what the index
hands on unread. -/
structure TileFields (Rest : Type u) where
  terrain : Terrain
  ownerId : Option PlayerId
  ownershipState : Option OwnershipState
  rest : Rest

/-- A tile, as the map stores it under its own coordinates. -/
structure DomainTileState (W : WorldSize) (Rest : Type u) where
  key : TileKey W
  fields : TileFields Rest

abbrev Tiles (W : WorldSize) (Rest : Type u) := TileKey W → Option (TileFields Rest)

def getTile (tiles : Tiles W Rest) (key : TileKey W) : Option (DomainTileState W Rest) :=
  (tiles key).map fun fields => ⟨key, fields⟩

def isEnemyTile (ownerId : PlayerId) (tile : DomainTileState W Rest) : Bool :=
  decide (tile.fields.terrain = .LAND)
    && tile.fields.ownerId.isSome
    && decide (tile.fields.ownerId ≠ some ownerId)
    && (decide (tile.fields.ownershipState = some .FRONTIER)
      || decide (tile.fields.ownershipState = some .SETTLED)
      || decide (tile.fields.ownershipState = some .BARBARIAN))

/-! ## §2. Distances and the order of candidates. -/

def chebyshevDistanceSimple (a b : TileKey W) : ℕ :=
  max ((a.x.val : ℤ) - b.x.val).natAbs ((a.y.val : ℤ) - b.y.val).natAbs

/-- The offsets of `coordsInChebyshevRadius`: rows from top to bottom, the
centre left out. -/
def chebyshevOffsets (radius : ℕ) : List (ℤ × ℤ) :=
  ((List.range (2 * radius + 1)).flatMap fun row : ℕ =>
    (List.range (2 * radius + 1)).map fun col : ℕ =>
      ((col : ℤ) - radius, (row : ℤ) - radius)).filter fun d => decide (d ≠ (0, 0))

def coordsInChebyshevRadius (center : TileKey W) (radius : ℕ) : List (TileKey W) :=
  (chebyshevOffsets radius).map center.shift

/-- `distA - distB || a.x - b.x || a.y - b.y`. -/
def compareCandidates (anchor : TileKey W) (a b : DomainTileState W Rest) : ℤ :=
  let byDistance : ℤ :=
    (chebyshevDistanceSimple anchor a.key : ℤ) - chebyshevDistanceSimple anchor b.key
  if byDistance ≠ 0 then byDistance
  else if (a.key.x.val : ℤ) - b.key.x.val ≠ 0 then (a.key.x.val : ℤ) - b.key.x.val
  else (a.key.y.val : ℤ) - b.key.y.val

def candidateLe (anchor : TileKey W) (a b : DomainTileState W Rest) : Bool :=
  decide (compareCandidates anchor a b ≤ 0)

/-- The test of the binary search in `sortedInsert`. -/
def standsBefore (anchor : TileKey W) (m tile : DomainTileState W Rest) : Bool :=
  let mDist := chebyshevDistanceSimple anchor m.key
  let dist := chebyshevDistanceSimple anchor tile.key
  decide (mDist < dist)
    || (decide (mDist = dist)
      && (decide (m.key.x.val < tile.key.x.val)
        || (decide (m.key.x.val = tile.key.x.val) && decide (m.key.y.val < tile.key.y.val))))

def sortedInsert (anchor : TileKey W) (tiles : List (DomainTileState W Rest))
    (tile : DomainTileState W Rest) : List (DomainTileState W Rest) :=
  insertSorted (standsBefore anchor) tiles tile

/-! ## §3. The sweep. -/

def sweepAttackCandidates (tiles : Tiles W Rest) (outpost : TileKey W) (playerId : PlayerId)
    (radius : ℕ) : List (DomainTileState W Rest) :=
  (((coordsInChebyshevRadius outpost radius).filterMap (getTile tiles)).filter
    (isEnemyTile playerId)).mergeSort (candidateLe outpost)

/-! ## §4. The index. -/

structure AnchorEntry (W : WorldSize) (Rest : Type u) where
  anchorKey : TileKey W
  anchorOwnerId : PlayerId
  maxRadius : ℕ
  claimCandidatesByRadius : List (List (TileKey W))
  sortedAttackTiles : List (DomainTileState W Rest)

/-- The ring at each radius, by the distance around the torus. -/
def buildClaimCandidatesByRadius (anchor : TileKey W) (maxRadius : ℕ) : List (List (TileKey W)) :=
  (List.range maxRadius).map fun r : ℕ =>
    (coordsInChebyshevRadius anchor maxRadius).filter fun key =>
      decide (chebyshevWithWrap W key.x.val key.y.val anchor.x.val anchor.y.val = (r : ℤ) + 1)

def collectTile (tiles : Tiles W Rest) (anchor : TileKey W) (ownerId : PlayerId)
    (sortedAttackTiles : List (DomainTileState W Rest)) (key : TileKey W) :
    List (DomainTileState W Rest) :=
  match getTile tiles key with
  | none => sortedAttackTiles
  | some tile =>
      if isEnemyTile ownerId tile then sortedInsert anchor sortedAttackTiles tile
      else sortedAttackTiles

def attackTilesOf (tiles : Tiles W Rest) (anchor : TileKey W) (ownerId : PlayerId)
    (rings : List (List (TileKey W))) : List (DomainTileState W Rest) :=
  rings.flatten.foldl (collectTile tiles anchor ownerId) []

structure PlayerCandidateIndex (W : WorldSize) (Rest : Type u) where
  anchors : InsertionMap (TileKey W) (AnchorEntry W Rest)
  watchedKeys : InsertionMap (TileKey W) (List (TileKey W))

/-- The watch of the registration loop: a tile that is not there is passed over. -/
def watchTile (tiles : Tiles W Rest) (anchor : TileKey W)
    (watchedKeys : InsertionMap (TileKey W) (List (TileKey W))) (key : TileKey W) :
    InsertionMap (TileKey W) (List (TileKey W)) :=
  match getTile tiles key with
  | none => watchedKeys
  | some _ => OwnerIndex.enter watchedKeys key anchor

/-- `watchers.delete(anchor)`; the last watcher takes the key along. -/
def unwatchTile (anchor : TileKey W)
    (watchedKeys : InsertionMap (TileKey W) (List (TileKey W))) (key : TileKey W) :
    InsertionMap (TileKey W) (List (TileKey W)) :=
  match watchedKeys.get key with
  | none => watchedKeys
  | some watchers =>
      if watchers.filter (fun other => decide (other ≠ anchor)) = [] then watchedKeys.erase key
      else watchedKeys.set key (watchers.filter fun other => decide (other ≠ anchor))

namespace PlayerCandidateIndex

def empty : PlayerCandidateIndex W Rest := ⟨.empty, .empty⟩

def registerAnchor (index : PlayerCandidateIndex W Rest) (anchorTileKey : TileKey W)
    (anchorOwnerId : PlayerId) (maxRadius : ℕ) (tiles : Tiles W Rest) :
    PlayerCandidateIndex W Rest :=
  let claimCandidatesByRadius := buildClaimCandidatesByRadius anchorTileKey maxRadius
  { anchors := index.anchors.set anchorTileKey
      { anchorKey := anchorTileKey
        anchorOwnerId := anchorOwnerId
        maxRadius := maxRadius
        claimCandidatesByRadius := claimCandidatesByRadius
        sortedAttackTiles :=
          attackTilesOf tiles anchorTileKey anchorOwnerId claimCandidatesByRadius }
    watchedKeys :=
      claimCandidatesByRadius.flatten.foldl (watchTile tiles anchorTileKey) index.watchedKeys }

def unregisterAnchor (index : PlayerCandidateIndex W Rest) (anchorTileKey : TileKey W) :
    PlayerCandidateIndex W Rest :=
  match index.anchors.get anchorTileKey with
  | none => index
  | some entry =>
      { anchors := index.anchors.erase anchorTileKey
        watchedKeys :=
          entry.claimCandidatesByRadius.flatten.foldl (unwatchTile anchorTileKey)
            index.watchedKeys }

/-- Rebuild the list of one affected anchor. -/
def refreshAnchor (tiles : Tiles W Rest) (anchors : InsertionMap (TileKey W) (AnchorEntry W Rest))
    (anchorKey : TileKey W) : InsertionMap (TileKey W) (AnchorEntry W Rest) :=
  match anchors.get anchorKey with
  | none => anchors
  | some entry =>
      anchors.set anchorKey
        { entry with
          sortedAttackTiles :=
            attackTilesOf tiles anchorKey entry.anchorOwnerId entry.claimCandidatesByRadius }

def refreshAroundTile (index : PlayerCandidateIndex W Rest) (tileKey : TileKey W)
    (tiles : Tiles W Rest) : PlayerCandidateIndex W Rest :=
  { index with
    anchors := (OwnerIndex.members index.watchedKeys tileKey).foldl (refreshAnchor tiles)
      index.anchors }

/-- The answer of an entry: the whole list, or the list narrowed on the
flat map. -/
def narrowed (anchorTileKey : TileKey W) (entry : AnchorEntry W Rest) (currentRadius : ℕ) :
    List (DomainTileState W Rest) :=
  if entry.maxRadius ≤ currentRadius then entry.sortedAttackTiles
  else entry.sortedAttackTiles.filter fun t =>
    decide (chebyshevDistanceSimple anchorTileKey t.key ≤ currentRadius)

def sortedAttackCandidates (index : PlayerCandidateIndex W Rest) (anchorTileKey : TileKey W)
    (currentRadius : ℕ) : List (DomainTileState W Rest) :=
  match index.anchors.get anchorTileKey with
  | none => []
  | some entry => narrowed anchorTileKey entry currentRadius

end PlayerCandidateIndex

/-! ## §5. Runs. -/

structure IndexedMap (W : WorldSize) (Rest : Type u) where
  tiles : Tiles W Rest
  index : PlayerCandidateIndex W Rest

/-- What is done to the two; `none` takes a tile off the map. -/
inductive IndexOp (W : WorldSize) (Rest : Type u) where
  | registerAnchor (anchorTileKey : TileKey W) (anchorOwnerId : PlayerId) (maxRadius : ℕ)
  | unregisterAnchor (anchorTileKey : TileKey W)
  | tileChanged (tileKey : TileKey W) (next : Option (TileFields Rest))

def setTile (tiles : Tiles W Rest) (tileKey : TileKey W) (next : Option (TileFields Rest)) :
    Tiles W Rest :=
  fun key => if key = tileKey then next else tiles key

def step (m : IndexedMap W Rest) : IndexOp W Rest → IndexedMap W Rest
  | .registerAnchor key ownerId maxRadius =>
      { m with index := m.index.registerAnchor key ownerId maxRadius m.tiles }
  | .unregisterAnchor key => { m with index := m.index.unregisterAnchor key }
  | .tileChanged key next =>
      { tiles := setTile m.tiles key next
        index := m.index.refreshAroundTile key (setTile m.tiles key next) }

/-- A map with no anchor registered yet. -/
def fresh (tiles : Tiles W Rest) : IndexedMap W Rest := ⟨tiles, .empty⟩

/-- **Every registered anchor is answered as by a sweep**, at every radius
up to its maximum. -/
def Right (m : IndexedMap W Rest) : Prop :=
  ∀ anchorTileKey entry, m.index.anchors.get anchorTileKey = some entry →
    ∀ radius, 1 ≤ radius → radius ≤ entry.maxRadius →
      m.index.sortedAttackCandidates anchorTileKey radius
        = sweepAttackCandidates m.tiles anchorTileKey entry.anchorOwnerId radius

/-! ## §6. When the answers are right. -/

def attackable (tiles : Tiles W Rest) (playerId : PlayerId) (key : TileKey W) :
    Option (DomainTileState W Rest) :=
  (getTile tiles key).filter (isEnemyTile playerId)

def IsWithin (radius : ℕ) (d : ℤ × ℤ) : Prop := d.1.natAbs ≤ radius ∧ d.2.natAbs ≤ radius

instance (radius : ℕ) (d : ℤ × ℤ) : Decidable (IsWithin radius d) :=
  inferInstanceAs (Decidable (_ ∧ _))

/-- The tile is no way round the world back to the anchor, and near on the
flat map; at the largest radius the list is not narrowed. -/
def IsListed (anchor : TileKey W) (maxRadius radius : ℕ) (key : TileKey W) : Prop :=
  key ≠ anchor ∧ (radius = maxRadius ∨ chebyshevDistanceSimple anchor key ≤ radius)

instance (anchor : TileKey W) (maxRadius radius : ℕ) (key : TileKey W) :
    Decidable (IsListed anchor maxRadius radius key) :=
  inferInstanceAs (Decidable (_ ∧ (_ ∨ _)))

/-- **Both distances agree where it matters**: of the ways to attackable
tiles, those within the radius are the ones that end near on the flat map. -/
def DistancesAgree (tiles : Tiles W Rest) (anchor : TileKey W) (playerId : PlayerId)
    (maxRadius radius : ℕ) : Prop :=
  ∀ d ∈ chebyshevOffsets maxRadius, (attackable tiles playerId (anchor.shift d)).isSome = true →
    (IsListed anchor maxRadius radius (anchor.shift d) ↔ IsWithin radius d)

/-- The tile is in reach of the anchor, and not the anchor itself. -/
def IsInRings (anchor : TileKey W) (maxRadius : ℕ) (key : TileKey W) : Prop :=
  key ≠ anchor ∧ ∃ d ∈ chebyshevOffsets maxRadius, anchor.shift d = key

/-- **The exact condition on a step.**  Distances agree around the anchor
that is registered, and around every anchor once a tile has changed; and a
change that an anchor in reach does not watch is none to it. -/
def StepIsSeen (m : IndexedMap W Rest) : IndexOp W Rest → Prop
  | .registerAnchor key ownerId maxRadius =>
      ∀ radius, 1 ≤ radius → radius ≤ maxRadius →
        DistancesAgree m.tiles key ownerId maxRadius radius
  | .unregisterAnchor _ => True
  | .tileChanged tileKey next =>
      ∀ anchorTileKey entry, m.index.anchors.get anchorTileKey = some entry →
        (∀ radius, 1 ≤ radius → radius ≤ entry.maxRadius →
          DistancesAgree (setTile m.tiles tileKey next) anchorTileKey entry.anchorOwnerId
            entry.maxRadius radius)
        ∧ (anchorTileKey ∉ OwnerIndex.members m.index.watchedKeys tileKey →
            IsInRings anchorTileKey entry.maxRadius tileKey →
            attackable (setTile m.tiles tileKey next) entry.anchorOwnerId tileKey
              = attackable m.tiles entry.anchorOwnerId tileKey)

/-! ## §7. Offsets and rings. -/

theorem mem_chebyshevOffsets {radius : ℕ} {d : ℤ × ℤ} :
    d ∈ chebyshevOffsets radius ↔ d ≠ (0, 0) ∧ IsWithin radius d := by
  unfold chebyshevOffsets IsWithin
  rw [List.mem_filter, decide_eq_true_eq, and_comm]
  apply and_congr_right
  intro _
  simp only [List.mem_flatMap, List.mem_map, List.mem_range]
  constructor
  · rintro ⟨row, hrow, col, hcol, rfl⟩
    dsimp only
    omega
  · intro h
    refine ⟨(d.2 + radius).toNat, by omega, (d.1 + radius).toNat, by omega, ?_⟩
    apply Prod.ext
    · dsimp only
      omega
    · dsimp only
      omega

theorem nodup_chebyshevOffsets (radius : ℕ) : (chebyshevOffsets radius).Nodup := by
  unfold chebyshevOffsets
  apply List.Nodup.filter
  rw [List.nodup_flatMap]
  constructor
  · intro row _
    refine List.Nodup.map (fun i j h => ?_) List.nodup_range
    have hcol := (Prod.mk.injEq _ _ _ _ ▸ h).1
    omega
  · refine List.nodup_range.imp ?_
    intro i j hij
    -- two rows have different heights
    show List.Disjoint _ _
    intro d hi hj
    obtain ⟨_, _, rfl⟩ := List.mem_map.mp hi
    obtain ⟨_, _, heq⟩ := List.mem_map.mp hj
    have hrow := (Prod.mk.injEq _ _ _ _ ▸ heq).2
    omega

theorem chebyshevOffsets_perm {radius maxRadius : ℕ} (h : radius ≤ maxRadius) :
    (chebyshevOffsets radius).Perm
      ((chebyshevOffsets maxRadius).filter fun d => decide (IsWithin radius d)) := by
  rw [List.perm_ext_iff_of_nodup (nodup_chebyshevOffsets _) ((nodup_chebyshevOffsets _).filter _)]
  intro d
  rw [List.mem_filter, mem_chebyshevOffsets, mem_chebyshevOffsets, decide_eq_true_eq]
  unfold IsWithin
  constructor
  · rintro ⟨hd, hx, hy⟩
    exact ⟨⟨hd, by omega, by omega⟩, hx, hy⟩
  · rintro ⟨⟨hd, _⟩, hin⟩
    exact ⟨hd, hin⟩

theorem ring_le {anchor : TileKey W} {radius : ℕ} {d : ℤ × ℤ} (h : IsWithin radius d) :
    chebyshevWithWrap W (anchor.shift d).x.val (anchor.shift d).y.val anchor.x.val anchor.y.val
      ≤ radius := by
  exact max_le (RingDistance.le_of_offset h.1 (anchor.shift_x_emod d))
    (RingDistance.le_of_offset h.2 (anchor.shift_y_emod d))

theorem one_le_ring {anchor key : TileKey W} :
    1 ≤ chebyshevWithWrap W key.x.val key.y.val anchor.x.val anchor.y.val ↔ key ≠ anchor := by
  have hkx := key.x.isLt
  have hky := key.y.isLt
  have hax := anchor.x.isLt
  have hay := anchor.y.isLt
  have heq : key = anchor ↔ key.x.val = anchor.x.val ∧ key.y.val = anchor.y.val := by
    rw [TileKey.ext_iff, Fin.ext_iff, Fin.ext_iff]
  rw [Ne, heq]
  unfold chebyshevWithWrap
  dsimp only
  omega

variable {t : DomainTileState W Rest} (tiles : Tiles W Rest) (anchor : TileKey W)
  (playerId : PlayerId)

theorem rings_perm (maxRadius : ℕ) :
    (buildClaimCandidatesByRadius anchor maxRadius).flatten.Perm
      (((chebyshevOffsets maxRadius).filter fun d => decide (anchor.shift d ≠ anchor)).map
        anchor.shift) := by
  unfold buildClaimCandidatesByRadius
  refine (groups_perm (fun key : TileKey W =>
    chebyshevWithWrap W key.x.val key.y.val anchor.x.val anchor.y.val) _ maxRadius).trans ?_
  unfold coordsInChebyshevRadius
  rw [List.filter_map]
  apply List.Perm.of_eq
  congr 1
  apply List.filter_congr
  intro d hd
  rw [Function.comp_apply, decide_eq_decide, one_le_ring]
  constructor
  · exact fun h => h.1
  · exact fun h => ⟨h, ring_le (mem_chebyshevOffsets.mp hd).2⟩

theorem mem_rings {anchor key : TileKey W} {maxRadius : ℕ} :
    key ∈ (buildClaimCandidatesByRadius anchor maxRadius).flatten
      ↔ IsInRings anchor maxRadius key := by
  rw [(rings_perm anchor maxRadius).mem_iff, List.mem_map]
  unfold IsInRings
  constructor
  · rintro ⟨d, hd, rfl⟩
    obtain ⟨hd, hne⟩ := List.mem_filter.mp hd
    exact ⟨of_decide_eq_true hne, d, hd, rfl⟩
  · rintro ⟨hne, d, hd, rfl⟩
    exact ⟨d, List.mem_filter.mpr ⟨hd, decide_eq_true hne⟩, rfl⟩

/-! ## §8. The order of candidates. -/

theorem candidateLe_iff (a b : DomainTileState W Rest) :
    candidateLe anchor a b = true
      ↔ chebyshevDistanceSimple anchor a.key < chebyshevDistanceSimple anchor b.key
        ∨ (chebyshevDistanceSimple anchor a.key = chebyshevDistanceSimple anchor b.key
          ∧ (a.key.x.val < b.key.x.val
            ∨ (a.key.x.val = b.key.x.val ∧ a.key.y.val ≤ b.key.y.val))) := by
  unfold candidateLe compareCandidates
  rw [decide_eq_true_eq]
  dsimp only
  generalize chebyshevDistanceSimple anchor a.key = da
  generalize chebyshevDistanceSimple anchor b.key = db
  split_ifs <;> omega

theorem standsBefore_eq (a b : DomainTileState W Rest) :
    standsBefore anchor a b = !candidateLe anchor b a := by
  rw [Bool.eq_iff_iff, Bool.not_eq_true', ← Bool.not_eq_true, candidateLe_iff]
  unfold standsBefore
  simp only [Bool.or_eq_true, Bool.and_eq_true, decide_eq_true_eq]
  omega

theorem candidateLe_ranks {l : List (DomainTileState W Rest)}
    (h : ∀ t ∈ l, getTile tiles t.key = some t) :
    Ranks (candidateLe anchor) l where
  total := by
    intro a b
    rw [Bool.or_eq_true, candidateLe_iff, candidateLe_iff]
    omega
  trans := by
    intro a b c
    rw [candidateLe_iff, candidateLe_iff, candidateLe_iff]
    omega
  apart := by
    intro a ha b hb
    rw [candidateLe_iff, candidateLe_iff]
    intro hab hba
    have hkey : a.key = b.key := by
      apply TileKey.ext
      · apply Fin.ext
        omega
      · apply Fin.ext
        omega
    have hget := h a ha
    rw [hkey, h b hb] at hget
    exact (Option.some.inj hget).symm

theorem getTile_key {tiles : Tiles W Rest} {key : TileKey W} (h : getTile tiles key = some t) :
    t.key = key := by
  obtain ⟨fields, _, rfl⟩ := Option.map_eq_some_iff.mp h
  rfl

theorem attackable_eq_some {tiles : Tiles W Rest} {playerId : PlayerId} {key : TileKey W} :
    attackable tiles playerId key = some t
      ↔ getTile tiles key = some t ∧ isEnemyTile playerId t = true := by
  unfold attackable
  exact Option.filter_eq_some_iff

theorem attackable_key {tiles : Tiles W Rest} {playerId : PlayerId} {key : TileKey W}
    (h : attackable tiles playerId key = some t) : t.key = key :=
  getTile_key (attackable_eq_some.mp h).1

/-- The attackable tiles at the ends of the selected ways. -/
def picked (tiles : Tiles W Rest) (anchor : TileKey W) (playerId : PlayerId) (maxRadius : ℕ)
    (p : ℤ × ℤ → Bool) : List (DomainTileState W Rest) :=
  ((chebyshevOffsets maxRadius).filter p).filterMap fun d =>
    attackable tiles playerId (anchor.shift d)

theorem ranks_attackable (keys : List (TileKey W)) :
    Ranks (candidateLe anchor) (keys.filterMap (attackable tiles playerId)) := by
  apply candidateLe_ranks tiles
  intro t ht
  obtain ⟨key, _, hkey⟩ := List.mem_filterMap.mp ht
  rw [attackable_key hkey]
  exact (attackable_eq_some.mp hkey).1

theorem ranks_picked (maxRadius : ℕ) (p : ℤ × ℤ → Bool) :
    Ranks (candidateLe anchor) (picked tiles anchor playerId maxRadius p) := by
  have h := ranks_attackable tiles anchor playerId
    (((chebyshevOffsets maxRadius).filter p).map anchor.shift)
  rw [List.filterMap_map] at h
  exact h

/-! ## §9. What the two lists hold. -/

theorem sweep_eq {radius maxRadius : ℕ} (h : radius ≤ maxRadius) :
    sweepAttackCandidates tiles anchor playerId radius
      = (picked tiles anchor playerId maxRadius fun d => decide (IsWithin radius d)).mergeSort
          (candidateLe anchor) := by
  unfold sweepAttackCandidates coordsInChebyshevRadius
  rw [List.filter_filterMap, List.filterMap_map]
  apply sort_perm (ranks_picked tiles anchor playerId maxRadius _)
  exact (chebyshevOffsets_perm h).filterMap _

theorem collectTile_eq (acc : List (DomainTileState W Rest)) (key : TileKey W) :
    collectTile tiles anchor playerId acc key
      = (attackable tiles playerId key).elim acc (insertSorted (standsBefore anchor) acc) := by
  unfold collectTile attackable sortedInsert
  cases getTile tiles key with
  | none => rfl
  | some tile =>
      cases hEnemy : isEnemyTile playerId tile with
      | false => simp [Option.filter_some, hEnemy]
      | true => simp [Option.filter_some, hEnemy]

theorem attackTilesOf_eq_sort (rings : List (List (TileKey W))) :
    attackTilesOf tiles anchor playerId rings
      = (rings.flatten.filterMap (attackable tiles playerId)).mergeSort
          (candidateLe anchor) := by
  rw [← insertAll_eq_sort (ranks_attackable tiles anchor playerId rings.flatten)
    (standsBefore_eq anchor)]
  unfold attackTilesOf
  rw [List.foldl_filterMap]
  congr 1
  funext acc key
  rw [collectTile_eq]
  cases attackable tiles playerId key with
  | none => rfl
  | some tile => rfl

theorem attackTilesOf_eq (maxRadius : ℕ) :
    attackTilesOf tiles anchor playerId (buildClaimCandidatesByRadius anchor maxRadius)
      = (picked tiles anchor playerId maxRadius fun d =>
          decide (anchor.shift d ≠ anchor)).mergeSort (candidateLe anchor) := by
  rw [attackTilesOf_eq_sort]
  apply sort_perm (ranks_picked tiles anchor playerId maxRadius _)
  have h := (rings_perm anchor maxRadius).filterMap (attackable tiles playerId)
  rw [List.filterMap_map] at h
  exact h

theorem mem_attackTilesOf {tiles : Tiles W Rest} {anchor : TileKey W} {playerId : PlayerId}
    {maxRadius : ℕ} :
    t ∈ attackTilesOf tiles anchor playerId (buildClaimCandidatesByRadius anchor maxRadius)
      ↔ IsInRings anchor maxRadius t.key ∧ attackable tiles playerId t.key = some t := by
  rw [attackTilesOf_eq_sort, List.mem_mergeSort, List.mem_filterMap]
  constructor
  · rintro ⟨key, hkey, ht⟩
    rw [attackable_key ht]
    exact ⟨mem_rings.mp hkey, ht⟩
  · rintro ⟨hring, ht⟩
    exact ⟨t.key, mem_rings.mpr hring, ht⟩

/-- **The narrowed list** sorts what lies within the largest radius and is
listed at the smaller one. -/
theorem narrowed_eq {tiles : Tiles W Rest} {anchor : TileKey W} {entry : AnchorEntry W Rest}
    (hfresh : entry.sortedAttackTiles = attackTilesOf tiles anchor entry.anchorOwnerId
      (buildClaimCandidatesByRadius anchor entry.maxRadius))
    {radius : ℕ} (h : radius ≤ entry.maxRadius) :
    PlayerCandidateIndex.narrowed anchor entry radius
      = (picked tiles anchor entry.anchorOwnerId entry.maxRadius fun d =>
          decide (IsListed anchor entry.maxRadius radius (anchor.shift d))).mergeSort
            (candidateLe anchor) := by
  unfold PlayerCandidateIndex.narrowed
  rw [hfresh, attackTilesOf_eq]
  by_cases hall : entry.maxRadius ≤ radius
  · rw [if_pos hall]
    congr 2
    funext d
    rw [decide_eq_decide]
    have heq : radius = entry.maxRadius := by omega
    simp [IsListed, heq]
  · rw [if_neg hall, sort_filter (ranks_picked tiles anchor _ _ _)]
    congr 1
    unfold picked
    rw [List.filter_filterMap, List.filterMap_filter, List.filterMap_filter]
    apply List.filterMap_congr
    intro d _
    have hne : radius ≠ entry.maxRadius := by omega
    cases hpick : attackable tiles entry.anchorOwnerId (anchor.shift d) with
    | none => simp
    | some t =>
        have hkey := attackable_key hpick
        by_cases hself : anchor.shift d = anchor
        · simp [IsListed, hself]
        · simp [IsListed, hself, hne, hkey, Option.filter_some]

/-- **When an up-to-date list, narrowed, is the sweep.** -/
theorem sortedAttackCandidates_eq_sweep_iff {tiles : Tiles W Rest} {anchor : TileKey W}
    {entry : AnchorEntry W Rest}
    (hfresh : entry.sortedAttackTiles = attackTilesOf tiles anchor entry.anchorOwnerId
      (buildClaimCandidatesByRadius anchor entry.maxRadius))
    {radius : ℕ} (h : radius ≤ entry.maxRadius) :
    PlayerCandidateIndex.narrowed anchor entry radius
        = sweepAttackCandidates tiles anchor entry.anchorOwnerId radius
      ↔ DistancesAgree tiles anchor entry.anchorOwnerId entry.maxRadius radius := by
  rw [narrowed_eq hfresh h, sweep_eq tiles anchor _ h]
  have hperm : ∀ p q : ℤ × ℤ → Bool,
      (picked tiles anchor entry.anchorOwnerId entry.maxRadius p).mergeSort (candidateLe anchor)
          = (picked tiles anchor entry.anchorOwnerId entry.maxRadius q).mergeSort
            (candidateLe anchor)
        ↔ (picked tiles anchor entry.anchorOwnerId entry.maxRadius p).Perm
            (picked tiles anchor entry.anchorOwnerId entry.maxRadius q) := by
    intro p q
    constructor
    · intro heq
      refine (List.mergeSort_perm _ (candidateLe anchor)).symm.trans ?_
      rw [heq]
      exact List.mergeSort_perm _ _
    · exact sort_perm (ranks_picked tiles anchor _ _ q)
  rw [hperm]
  unfold picked DistancesAgree
  rw [perm_picked_iff]
  · apply forall_congr'
    intro d
    apply imp_congr_right
    intro _
    apply imp_congr_right
    intro _
    exact decide_eq_decide
  · -- ways to one tile end at one place
    intro d _ e _ t hd he
    have hkey : anchor.shift d = anchor.shift e := (attackable_key hd).symm.trans (attackable_key he)
    rw [hkey]

end BorderEmpires.CandidateIndex
