/-
  BorderEmpires.CandidateIndex.Runs
  **THE CANDIDATE INDEX KEPT UP TO DATE.**

  Anchors come and go and tiles change, each change followed by a refresh
  of the anchors that watch the tile.  An anchor is answered right at every
  radius when its list is fresh and the distances agree around it; what one
  step does to either is decided by the condition `StepIsSeen`.
-/
import BorderEmpires.CandidateIndex.Lists

namespace BorderEmpires.CandidateIndex

open Ranking SortedInsert

universe u

variable {W : WorldSize} {Rest : Type u}

/-! ## §1. One anchor. -/

/-- The list is what collecting it now would give. -/
def IsFresh (tiles : Tiles W Rest) (anchor : TileKey W) (entry : AnchorEntry W Rest) : Prop :=
  entry.sortedAttackTiles = attackTilesOf tiles anchor entry.anchorOwnerId
    (buildClaimCandidatesByRadius anchor entry.maxRadius)

/-- **What an entry keeps**: its rings, and a list that was once collected. -/
structure Built (anchor : TileKey W) (entry : AnchorEntry W Rest) : Prop where
  rings : entry.claimCandidatesByRadius = buildClaimCandidatesByRadius anchor entry.maxRadius
  once : ∃ tiles, IsFresh tiles anchor entry

/-- The entry with its list collected anew. -/
def refreshed (tiles : Tiles W Rest) (anchor : TileKey W) (entry : AnchorEntry W Rest) :
    AnchorEntry W Rest :=
  { entry with
    sortedAttackTiles :=
      attackTilesOf tiles anchor entry.anchorOwnerId entry.claimCandidatesByRadius }

variable {anchor : TileKey W} {entry : AnchorEntry W Rest} (tiles : Tiles W Rest)

theorem isFresh_refreshed (hbuilt : Built anchor entry) (tiles : Tiles W Rest) :
    IsFresh tiles anchor (refreshed tiles anchor entry) := by
  show attackTilesOf tiles anchor entry.anchorOwnerId entry.claimCandidatesByRadius = _
  rw [hbuilt.rings]
  rfl

def EntryRight (tiles : Tiles W Rest) (anchor : TileKey W) (entry : AnchorEntry W Rest) : Prop :=
  ∀ radius, 1 ≤ radius → radius ≤ entry.maxRadius →
    PlayerCandidateIndex.narrowed anchor entry radius
      = sweepAttackCandidates tiles anchor entry.anchorOwnerId radius

theorem attackTilesOf_zero (anchor : TileKey W) (playerId : PlayerId) :
    attackTilesOf tiles anchor playerId (buildClaimCandidatesByRadius anchor 0) = [] := rfl

theorem distancesAgree_max_iff {tiles : Tiles W Rest} {playerId : PlayerId} {maxRadius : ℕ} :
    DistancesAgree tiles anchor playerId maxRadius maxRadius
      ↔ ∀ d ∈ chebyshevOffsets maxRadius,
          (attackable tiles playerId (anchor.shift d)).isSome = true → anchor.shift d ≠ anchor := by
  apply forall_congr'
  intro d
  apply imp_congr_right
  intro hd
  apply imp_congr_right
  intro _
  have hwithin := (mem_chebyshevOffsets.mp hd).2
  constructor
  · exact fun h => (h.mpr hwithin).1
  · exact fun h => ⟨fun _ => hwithin, fun _ => ⟨h, Or.inl rfl⟩⟩

theorem isFresh_of_right {tiles : Tiles W Rest} (hbuilt : Built anchor entry)
    (h : EntryRight tiles anchor entry) : IsFresh tiles anchor entry := by
  obtain ⟨old, hold⟩ := hbuilt.once
  unfold IsFresh at hold ⊢
  by_cases hzero : entry.maxRadius = 0
  · rw [hold, hzero, attackTilesOf_zero, attackTilesOf_zero]
  · have hmax : entry.sortedAttackTiles
        = sweepAttackCandidates tiles anchor entry.anchorOwnerId entry.maxRadius := by
      have hwhole := h entry.maxRadius (by omega) (Nat.le_refl _)
      unfold PlayerCandidateIndex.narrowed at hwhole
      rw [if_pos (Nat.le_refl _)] at hwhole
      exact hwhole
    -- the list never holds the anchor, so neither does the sweep
    have hagree : DistancesAgree tiles anchor entry.anchorOwnerId entry.maxRadius
        entry.maxRadius := by
      rw [distancesAgree_max_iff]
      intro d hd hsome
      obtain ⟨t, ht⟩ := Option.isSome_iff_exists.mp hsome
      have hmem : t ∈ entry.sortedAttackTiles := by
        rw [hmax, sweep_eq tiles anchor _ (Nat.le_refl _), List.mem_mergeSort]
        apply List.mem_filterMap.mpr
        refine ⟨d, List.mem_filter.mpr ⟨hd, ?_⟩, ht⟩
        exact decide_eq_true (mem_chebyshevOffsets.mp hd).2
      rw [hold] at hmem
      rw [← attackable_key ht]
      exact (mem_attackTilesOf.mp hmem).1.1
    have hrebuilt := (sortedAttackCandidates_eq_sweep_iff (isFresh_refreshed hbuilt tiles)
      (Nat.le_refl _)).mpr hagree
    unfold PlayerCandidateIndex.narrowed at hrebuilt
    rw [if_pos (Nat.le_refl _)] at hrebuilt
    rw [← hbuilt.rings, hmax]
    exact hrebuilt.symm

/-- **When an anchor is answered right**: its list is fresh, and the
distances agree at every radius. -/
theorem entryRight_iff (hbuilt : Built anchor entry) :
    EntryRight tiles anchor entry
      ↔ IsFresh tiles anchor entry
        ∧ ∀ radius, 1 ≤ radius → radius ≤ entry.maxRadius →
          DistancesAgree tiles anchor entry.anchorOwnerId entry.maxRadius radius := by
  constructor
  · intro h
    have hfresh := isFresh_of_right hbuilt h
    refine ⟨hfresh, fun radius h1 hle => ?_⟩
    exact (sortedAttackCandidates_eq_sweep_iff hfresh hle).mp (h radius h1 hle)
  · rintro ⟨hfresh, hagree⟩ radius h1 hle
    exact (sortedAttackCandidates_eq_sweep_iff hfresh hle).mpr (hagree radius h1 hle)

/-- **A change that is not collected** leaves a fresh list fresh exactly
when it is none to the anchor. -/
theorem isFresh_setTile_iff {tiles : Tiles W Rest} (hfresh : IsFresh tiles anchor entry)
    (tileKey : TileKey W) (next : Option (TileFields Rest)) :
    IsFresh (setTile tiles tileKey next) anchor entry
      ↔ (IsInRings anchor entry.maxRadius tileKey →
          attackable (setTile tiles tileKey next) entry.anchorOwnerId tileKey
            = attackable tiles entry.anchorOwnerId tileKey) := by
  unfold IsFresh at hfresh ⊢
  rw [hfresh]
  constructor
  · intro heq hring
    -- the tile is in the list under its own key or not at all
    apply Option.ext
    intro t
    have hmem : ∀ tiles' : Tiles W Rest, attackable tiles' entry.anchorOwnerId tileKey = some t
        ↔ t.key = tileKey ∧ t ∈ attackTilesOf tiles' anchor entry.anchorOwnerId
          (buildClaimCandidatesByRadius anchor entry.maxRadius) := by
      intro tiles'
      rw [mem_attackTilesOf]
      constructor
      · intro ht
        have hkey := attackable_key ht
        rw [hkey]
        exact ⟨rfl, hring, ht⟩
      · rintro ⟨hkey, -, ht⟩
        rw [← hkey]
        exact ht
    rw [hmem, hmem, ← heq]
  · intro hsame
    rw [attackTilesOf_eq_sort, attackTilesOf_eq_sort]
    congr 1
    apply List.filterMap_congr
    intro key hkey
    by_cases heq : key = tileKey
    · rw [heq]
      rw [heq] at hkey
      exact (hsame (mem_rings.mp hkey)).symm
    · have hget : setTile tiles tileKey next key = tiles key := if_neg heq
      unfold attackable getTile
      rw [hget]

/-! ## §2. The steps. -/

def Inv (m : IndexedMap W Rest) : Prop :=
  ∀ anchor entry, m.index.anchors.get anchor = some entry → Built anchor entry

theorem get_refreshAnchor (anchors : InsertionMap (TileKey W) (AnchorEntry W Rest))
    (changed anchor : TileKey W) :
    (PlayerCandidateIndex.refreshAnchor tiles anchors changed).get anchor
      = if changed = anchor then (anchors.get anchor).map (refreshed tiles anchor)
        else anchors.get anchor := by
  unfold PlayerCandidateIndex.refreshAnchor
  cases hget : anchors.get changed with
  | none =>
      by_cases h : changed = anchor
      · rw [if_pos h, ← h, hget, Option.map_none]
      · rw [if_neg h]
  | some entry =>
      dsimp only
      rw [InsertionMap.get_set]
      by_cases h : changed = anchor
      · rw [if_pos h, if_pos h, ← h, hget, Option.map_some]
        rfl
      · rw [if_neg h, if_neg h]

/-- **What a refresh does**: the watchers are collected anew, however often
they are named. -/
theorem get_refreshAnchors (anchor : TileKey W) (l : List (TileKey W)) :
    ∀ anchors : InsertionMap (TileKey W) (AnchorEntry W Rest),
      (l.foldl (PlayerCandidateIndex.refreshAnchor tiles) anchors).get anchor
        = if anchor ∈ l then (anchors.get anchor).map (refreshed tiles anchor)
          else anchors.get anchor := by
  induction l with
  | nil => intro anchors; rfl
  | cons changed l ih =>
      intro anchors
      rw [List.foldl_cons, ih, get_refreshAnchor]
      by_cases h : changed = anchor
      · rw [if_pos h, if_pos (List.mem_cons.mpr (Or.inl h.symm)), Option.map_map]
        -- a list collected twice is the list collected once
        have htwice : refreshed tiles anchor ∘ refreshed tiles anchor
            = (refreshed tiles anchor : AnchorEntry W Rest → AnchorEntry W Rest) := rfl
        rw [htwice, ite_self]
      · rw [if_neg h]
        simp [List.mem_cons, Ne.symm h]

theorem get_refreshAroundTile (index : PlayerCandidateIndex W Rest) (tiles : Tiles W Rest)
    (tileKey anchor : TileKey W) :
    (index.refreshAroundTile tileKey tiles).anchors.get anchor
      = if anchor ∈ OwnerIndex.members index.watchedKeys tileKey
        then (index.anchors.get anchor).map (refreshed tiles anchor)
        else index.anchors.get anchor :=
  get_refreshAnchors tiles anchor _ index.anchors

def newEntry (tiles : Tiles W Rest) (anchor : TileKey W) (ownerId : PlayerId) (maxRadius : ℕ) :
    AnchorEntry W Rest where
  anchorKey := anchor
  anchorOwnerId := ownerId
  maxRadius := maxRadius
  claimCandidatesByRadius := buildClaimCandidatesByRadius anchor maxRadius
  sortedAttackTiles :=
    attackTilesOf tiles anchor ownerId (buildClaimCandidatesByRadius anchor maxRadius)

theorem built_newEntry (anchor : TileKey W) (ownerId : PlayerId) (maxRadius : ℕ) :
    Built anchor (newEntry tiles anchor ownerId maxRadius) :=
  ⟨rfl, tiles, rfl⟩

theorem built_refreshed (hbuilt : Built anchor entry) (tiles : Tiles W Rest) :
    Built anchor (refreshed tiles anchor entry) :=
  ⟨hbuilt.rings, tiles, isFresh_refreshed hbuilt tiles⟩

theorem get_registerAnchor (index : PlayerCandidateIndex W Rest) (tiles : Tiles W Rest)
    (key : TileKey W) (ownerId : PlayerId) (maxRadius : ℕ) (anchor : TileKey W) :
    (index.registerAnchor key ownerId maxRadius tiles).anchors.get anchor
      = if key = anchor then some (newEntry tiles key ownerId maxRadius)
        else index.anchors.get anchor := by
  show (index.anchors.set key (newEntry tiles key ownerId maxRadius)).get anchor = _
  rw [InsertionMap.get_set]

theorem get_unregisterAnchor (index : PlayerCandidateIndex W Rest) (key anchor : TileKey W) :
    (index.unregisterAnchor key).anchors.get anchor
      = if key = anchor then none else index.anchors.get anchor := by
  unfold PlayerCandidateIndex.unregisterAnchor
  cases hget : index.anchors.get key with
  | none =>
      by_cases h : key = anchor
      · rw [if_pos h, ← h]
        exact hget
      · rw [if_neg h]
  | some entry =>
      show (index.anchors.erase key).get anchor = _
      rw [InsertionMap.get_erase]

/-- **What a step leaves**: an entry is new, as it was, or has its attack tiles
listed again. -/
theorem step_entry {m : IndexedMap W Rest} {op : IndexOp W Rest} {anchor : TileKey W}
    {entry : AnchorEntry W Rest} (hget : (step m op).index.anchors.get anchor = some entry) :
    (∃ ownerId maxRadius, op = .registerAnchor anchor ownerId maxRadius
        ∧ entry = newEntry m.tiles anchor ownerId maxRadius)
      ∨ m.index.anchors.get anchor = some entry
      ∨ ∃ tiles old, m.index.anchors.get anchor = some old ∧ entry = refreshed tiles anchor old := by
  cases op with
  | registerAnchor key ownerId maxRadius =>
      unfold step at hget
      dsimp only at hget
      rw [get_registerAnchor] at hget
      by_cases h : key = anchor
      · rw [if_pos h, Option.some.injEq] at hget
        subst h
        exact Or.inl ⟨ownerId, maxRadius, rfl, hget.symm⟩
      · rw [if_neg h] at hget
        exact Or.inr (Or.inl hget)
  | unregisterAnchor key =>
      unfold step at hget
      dsimp only at hget
      rw [get_unregisterAnchor] at hget
      by_cases h : key = anchor
      · rw [if_pos h] at hget
        cases hget
      · rw [if_neg h] at hget
        exact Or.inr (Or.inl hget)
  | tileChanged tileKey next =>
      unfold step at hget
      dsimp only at hget
      rw [get_refreshAroundTile] at hget
      by_cases hwatched : anchor ∈ OwnerIndex.members m.index.watchedKeys tileKey
      · rw [if_pos hwatched] at hget
        obtain ⟨old, hold, rfl⟩ := Option.map_eq_some_iff.mp hget
        exact Or.inr (Or.inr ⟨_, old, hold, rfl⟩)
      · rw [if_neg hwatched] at hget
        exact Or.inr (Or.inl hget)

theorem inv_step {m : IndexedMap W Rest} (hinv : Inv m) (op : IndexOp W Rest) :
    Inv (step m op) := by
  intro anchor entry hget
  obtain ⟨ownerId, maxRadius, -, rfl⟩ | hold | ⟨tiles, old, hold, rfl⟩ := step_entry hget
  · exact built_newEntry m.tiles anchor ownerId maxRadius
  · exact hinv anchor entry hold
  · exact built_refreshed (hinv anchor old hold) tiles

theorem right_iff (m : IndexedMap W Rest) :
    Right m ↔ ∀ anchor entry, m.index.anchors.get anchor = some entry →
      EntryRight m.tiles anchor entry := by
  apply forall_congr'
  intro anchor
  apply forall_congr'
  intro entry
  apply imp_congr_right
  intro hget
  unfold EntryRight PlayerCandidateIndex.sortedAttackCandidates
  rw [hget]

/-- **Step lemma**: whether the answers stay right is decided by the
condition. -/
theorem right_step_iff {m : IndexedMap W Rest} (hinv : Inv m) (hright : Right m)
    (op : IndexOp W Rest) : Right (step m op) ↔ StepIsSeen m op := by
  rw [right_iff] at hright ⊢
  cases op with
  | registerAnchor key ownerId maxRadius =>
      unfold StepIsSeen step
      dsimp only
      have hnew := entryRight_iff m.tiles
        (built_newEntry m.tiles key ownerId maxRadius)
      constructor
      · intro h
        refine (hnew.mp (h key _ ?_)).2
        rw [get_registerAnchor, if_pos rfl]
      · intro hagree anchor entry hget
        rw [get_registerAnchor] at hget
        by_cases heq : key = anchor
        · rw [if_pos heq, Option.some.injEq] at hget
          rw [← hget, ← heq]
          exact hnew.mpr ⟨rfl, hagree⟩
        · rw [if_neg heq] at hget
          exact hright anchor entry hget
  | unregisterAnchor key =>
      unfold StepIsSeen step
      dsimp only
      refine ⟨fun _ => trivial, fun _ anchor entry hget => ?_⟩
      rw [get_unregisterAnchor] at hget
      by_cases heq : key = anchor
      · rw [if_pos heq] at hget
        cases hget
      · rw [if_neg heq] at hget
        exact hright anchor entry hget
  | tileChanged tileKey next =>
      unfold StepIsSeen step
      dsimp only
      -- anchor by anchor: a watcher is fresh again, another is if it saw no change
      have hone : ∀ anchor entry, m.index.anchors.get anchor = some entry →
          ((∀ entry', (m.index.refreshAroundTile tileKey
              (setTile m.tiles tileKey next)).anchors.get anchor = some entry' →
              EntryRight (setTile m.tiles tileKey next) anchor entry')
            ↔ (∀ radius, 1 ≤ radius → radius ≤ entry.maxRadius →
                DistancesAgree (setTile m.tiles tileKey next) anchor entry.anchorOwnerId
                  entry.maxRadius radius)
              ∧ (anchor ∉ OwnerIndex.members m.index.watchedKeys tileKey →
                IsInRings anchor entry.maxRadius tileKey →
                attackable (setTile m.tiles tileKey next) entry.anchorOwnerId tileKey
                  = attackable m.tiles entry.anchorOwnerId tileKey)) := by
        intro anchor entry hget
        have hbuilt := hinv anchor entry hget
        rw [get_refreshAroundTile, hget, Option.map_some]
        by_cases hwatched : anchor ∈ OwnerIndex.members m.index.watchedKeys tileKey
        · rw [if_pos hwatched]
          have h := entryRight_iff (setTile m.tiles tileKey next)
            (built_refreshed hbuilt (setTile m.tiles tileKey next))
          constructor
          · intro hr
            exact ⟨(h.mp (hr _ rfl)).2, fun hnot => absurd hwatched hnot⟩
          · rintro ⟨hagree, -⟩ entry' hentry'
            rw [← Option.some.inj hentry']
            exact h.mpr ⟨isFresh_refreshed hbuilt _, hagree⟩
        · rw [if_neg hwatched]
          have h := entryRight_iff (setTile m.tiles tileKey next) hbuilt
          have hfresh := ((entryRight_iff m.tiles hbuilt).mp (hright anchor entry hget)).1
          have hkept := isFresh_setTile_iff hfresh tileKey next
          constructor
          · intro hr
            obtain ⟨hfresh', hagree⟩ := h.mp (hr entry rfl)
            exact ⟨hagree, fun _ => hkept.mp hfresh'⟩
          · rintro ⟨hagree, hsame⟩ entry' hentry'
            rw [← Option.some.inj hentry']
            exact h.mpr ⟨hkept.mpr (hsame hwatched), hagree⟩
      constructor
      · intro h anchor entry hget
        exact (hone anchor entry hget).mp (fun entry' hget' => h anchor entry' hget')
      · intro h anchor entry' hget'
        cases hget : m.index.anchors.get anchor with
        | none =>
            rw [get_refreshAroundTile, hget, Option.map_none, ite_self] at hget'
            cases hget'
        | some entry => exact (hone anchor entry hget).mpr (h anchor entry hget) entry' hget'

/-! ## §3. Runs. -/

theorem inv_fresh : Inv (fresh tiles) := by
  intro anchor entry hget
  cases hget

theorem right_fresh : Right (fresh tiles) := by
  intro anchor entry hget
  cases hget

/-- **When every answer is right all through a run**: exactly when every
step is seen. -/
theorem sortedAttackCandidates_right_iff (tiles : Tiles W Rest) (ops : List (IndexOp W Rest)) :
    Run.Along step Right (fresh tiles) ops ↔ Run.StepsMeet step StepIsSeen (fresh tiles) ops :=
  Run.along_iff_stepsMeet (fun _ op hinv _ _ => inv_step hinv op)
    (fun _ op hinv hright => right_step_iff hinv hright op) ops (fresh tiles)
    (inv_fresh tiles) (right_fresh tiles)

/-! ## §4. The claim scan. -/

/-- The keys around an anchor for the claim loop, ring by ring outward. -/
def PlayerCandidateIndex.claimCandidates (index : PlayerCandidateIndex W Rest)
    (anchorTileKey : TileKey W) (currentRadius : ℕ) : List (TileKey W) :=
  match index.anchors.get anchorTileKey with
  | none => []
  | some entry =>
      (entry.claimCandidatesByRadius.take (min currentRadius entry.maxRadius)).flatten

def distanceTo (anchor key : TileKey W) : ℤ :=
  chebyshevWithWrap W key.x.val key.y.val anchor.x.val anchor.y.val

/-- **What a scan gives**: every tile of the square but its middle, once, the
nearest first. -/
structure ScansSquare (anchor : TileKey W) (radius : ℕ) (keys : List (TileKey W)) : Prop where
  once : keys.Nodup
  covers : ∀ key, key ∈ keys ↔ key ≠ anchor ∧ distanceTo anchor key ≤ radius
  nearestFirst : keys.Pairwise fun a b => distanceTo anchor a ≤ distanceTo anchor b

/-- Every scan covers its square, up to the radius of its anchor; a wider one
goes on where a narrower one stops; where no anchor is there is no scan. -/
def ScansInOrder (m : IndexedMap W Rest) : Prop :=
  ∀ anchor, match m.index.anchors.get anchor with
    | none => ∀ radius, m.index.claimCandidates anchor radius = []
    | some entry =>
        (∀ radius, ScansSquare anchor (min radius entry.maxRadius)
          (m.index.claimCandidates anchor radius))
        ∧ ∀ radius wider, radius ≤ wider →
          m.index.claimCandidates anchor radius <+: m.index.claimCandidates anchor wider

/-- No square reaches itself around the world. -/
def FitsTheWorld (W : WorldSize) (radius : ℕ) : Prop := 2 * radius < W.width ∧ 2 * radius < W.height

def RegistersFitting (_ : IndexedMap W Rest) : IndexOp W Rest → Prop
  | .registerAnchor _ _ maxRadius => FitsTheWorld W maxRadius
  | .unregisterAnchor _ => True
  | .tileChanged _ _ => True

theorem mem_coordsInChebyshevRadius {anchor key : TileKey W} {maxRadius : ℕ}
    (hne : key ≠ anchor) :
    key ∈ coordsInChebyshevRadius anchor maxRadius ↔ distanceTo anchor key ≤ maxRadius := by
  have hkx := key.x.isLt
  have hky := key.y.isLt
  have hax := anchor.x.isLt
  have hay := anchor.y.isLt
  constructor
  · intro h
    obtain ⟨d, hd, rfl⟩ := List.mem_map.mp h
    exact ring_le (mem_chebyshevOffsets.mp hd).2
  · intro h
    have haxes := max_le_iff.mp h
    obtain ⟨dx, hdx, hx⟩ := RingDistance.offset_of_le (by omega) haxes.1
    obtain ⟨dy, hdy, hy⟩ := RingDistance.offset_of_le (by omega) haxes.2
    have hshift : anchor.shift (dx, dy) = key := by
      show wrappedTile W (anchor.x.val + dx) (anchor.y.val + dy) = key
      rw [← wrappedTile_congr hx hy, wrappedTile_self]
    refine List.mem_map.mpr ⟨(dx, dy), mem_chebyshevOffsets.mpr ⟨?_, hdx, hdy⟩, hshift⟩
    -- the offset of no step is the anchor itself
    intro hzero
    rw [hzero] at hshift
    apply hne
    rw [← hshift]
    show wrappedTile W (anchor.x.val + 0) (anchor.y.val + 0) = anchor
    rw [Int.add_zero, Int.add_zero, wrappedTile_self]

theorem offset_unique {size r : ℕ} {a d e : ℤ} (hfits : 2 * r < size) (hd : d.natAbs ≤ r)
    (he : e.natAbs ≤ r) (h : (a + d) % size = (a + e) % size) : d = e := by
  have hdvd : (size : ℤ) ∣ d - e := by
    rw [Int.emod_eq_emod_iff_emod_sub_eq_zero, show a + d - (a + e) = d - e by omega] at h
    exact Int.dvd_of_emod_eq_zero h
  have hzero : d - e = 0 := Int.eq_zero_of_dvd_of_natAbs_lt_natAbs hdvd (by omega)
  omega

theorem nodup_coordsInChebyshevRadius {maxRadius : ℕ} (anchor : TileKey W)
    (hfits : FitsTheWorld W maxRadius) : (coordsInChebyshevRadius anchor maxRadius).Nodup := by
  refine List.Nodup.map_on (fun d hd e he heq => ?_) (nodup_chebyshevOffsets maxRadius)
  obtain ⟨-, hdx, hdy⟩ := mem_chebyshevOffsets.mp hd
  obtain ⟨-, hex, hey⟩ := mem_chebyshevOffsets.mp he
  have hx := anchor.shift_x_emod d
  have hy := anchor.shift_y_emod d
  rw [heq, anchor.shift_x_emod e] at hx
  rw [heq, anchor.shift_y_emod e] at hy
  exact Prod.ext (offset_unique hfits.1 hdx hex hx.symm) (offset_unique hfits.2 hdy hey hy.symm)

theorem take_rings {radius maxRadius : ℕ} (anchor : TileKey W) (h : radius ≤ maxRadius) :
    (buildClaimCandidatesByRadius anchor maxRadius).take radius
      = (List.range radius).map fun r : ℕ =>
          (coordsInChebyshevRadius anchor maxRadius).filter fun key =>
            decide (distanceTo anchor key = (r : ℤ) + 1) := by
  unfold buildClaimCandidatesByRadius
  rw [← List.map_take, List.take_range, Nat.min_eq_left h]
  rfl

theorem scansSquare_take {radius maxRadius : ℕ} {anchor : TileKey W}
    (hfits : FitsTheWorld W maxRadius) (h : radius ≤ maxRadius) :
    ScansSquare anchor radius
      ((buildClaimCandidatesByRadius anchor maxRadius).take radius).flatten := by
  rw [take_rings anchor h]
  have hperm := groups_perm (distanceTo anchor) (coordsInChebyshevRadius anchor maxRadius) radius
  constructor
  · rw [hperm.nodup_iff]
    exact (nodup_coordsInChebyshevRadius anchor hfits).filter _
  · intro key
    rw [hperm.mem_iff, List.mem_filter, decide_eq_true_eq]
    constructor
    · intro hkey
      exact ⟨one_le_ring.mp hkey.2.1, hkey.2.2⟩
    · intro hkey
      refine ⟨?_, one_le_ring.mpr hkey.1, hkey.2⟩
      rw [mem_coordsInChebyshevRadius hkey.1]
      exact hkey.2.trans (by omega)
  · exact groups_pairwise (distanceTo anchor) _ radius

def RingsFit (m : IndexedMap W Rest) : Prop :=
  ∀ anchor entry, m.index.anchors.get anchor = some entry →
    entry.claimCandidatesByRadius = buildClaimCandidatesByRadius anchor entry.maxRadius
      ∧ FitsTheWorld W entry.maxRadius

theorem ringsFit_step {m : IndexedMap W Rest} {op : IndexOp W Rest} (h : RingsFit m)
    (hop : RegistersFitting m op) : RingsFit (step m op) := by
  intro anchor entry hget
  obtain ⟨ownerId, maxRadius, rfl, rfl⟩ | hold | ⟨tiles, old, hold, rfl⟩ := step_entry hget
  · exact ⟨rfl, hop⟩
  · exact h anchor entry hold
  · exact h anchor old hold

theorem scansInOrder_of_ringsFit {m : IndexedMap W Rest} (h : RingsFit m) : ScansInOrder m := by
  intro anchor
  unfold PlayerCandidateIndex.claimCandidates
  cases hget : m.index.anchors.get anchor with
  | none => exact fun _ => rfl
  | some entry =>
      obtain ⟨hrings, hfits⟩ := h anchor entry hget
      dsimp only
      rw [hrings]
      constructor
      · intro radius
        exact scansSquare_take hfits (by omega)
      · intro radius wider hle
        -- the rings of the narrower scan come first in the wider one
        have hshort : min radius entry.maxRadius
            = min (min radius entry.maxRadius) (min wider entry.maxRadius) := by omega
        rw [hshort, ← List.take_take]
        exact (List.take_prefix _ _).flatten

/-- **The claim scan goes outward**: in every run whose anchors fit the world,
whatever the tiles do. -/
theorem claimCandidates_in_order_along (tiles : Tiles W Rest) (ops : List (IndexOp W Rest))
    (hfit : Run.StepsMeet step RegistersFitting (fresh tiles) ops) :
    Run.Along step ScansInOrder (fresh tiles) ops := by
  refine Run.Along.mono (fun _ => scansInOrder_of_ringsFit) ops _ ?_
  refine Run.along_of_stepsMeet (fun _ _ => ringsFit_step) ops _ ?_ hfit
  intro anchor entry hget
  cases hget

/-! ## §5. An anchor at the edge. -/

def oneEnemyAt (enemy : TileKey smallestWorld) : Tiles smallestWorld Unit :=
  fun key =>
    if key = enemy then some ⟨.LAND, some playerTwo, some .FRONTIER, ()⟩
    else some ⟨.LAND, none, none, ()⟩

def cornerKey : TileKey smallestWorld := ⟨⟨0, by decide⟩, ⟨0, by decide⟩⟩
def acrossKey : TileKey smallestWorld := ⟨⟨63, by decide⟩, ⟨0, by decide⟩⟩

/-- Registered in the corner of the map with the radius of the sweeps: the
enemy next door, over the edge, is not among the nearest. -/
theorem edgeAnchor_not_right :
    ¬ Run.Along step Right (fresh (oneEnemyAt acrossKey))
        [.registerAnchor cornerKey playerOne 5] := by
  intro h
  have hseen := (right_step_iff (inv_fresh _) (right_fresh _) _).mp h.2
  have hagree := hseen 1 (by decide) (by decide) (-1, 0) (by decide) (by decide)
  revert hagree
  decide

theorem claimCandidates_in_order_along_corner :
    Run.Along step ScansInOrder (fresh (oneEnemyAt acrossKey))
      [.registerAnchor cornerKey playerOne 5, .tileChanged acrossKey none] :=
  claimCandidates_in_order_along _ _
    ⟨⟨by decide, by decide⟩, trivial, trivial⟩

end BorderEmpires.CandidateIndex
