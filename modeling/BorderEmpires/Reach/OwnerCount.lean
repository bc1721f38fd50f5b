/-
  BorderEmpires.Reach.OwnerCount
  **HOW MANY OWNERS REACH A TILE.**

  A land-gated disk is what the paths over LAND tiles inside its radius
  lead to.  `reachOwnerCountAt` skips owners it has counted, drops anchors
  by their distance alone, and looks into a disk only where the anchor is
  gated; the count is still that of the owners whose live reach holds the
  tile.

  The distance test reads raw coordinates and is right while the position
  and the anchor are at most one world apart, as any two tiles are.
-/
import BorderEmpires.Lib.RingDistance
import BorderEmpires.Reach.Border
import Mathlib.Data.Set.Card

universe u

namespace BorderEmpires

/-! ## §1. Paths. -/

/-- **What a flood meets lies at the end of a path** of neighbours that starts
at the root, keeps to accepted vertices, and goes on only from vertices the
flood pushes on from. -/
theorem floods_iff_path {V : Type u} {nbrs : V → List V} {accept push : V → Bool} {root w : V} :
    Worklist.Floods nbrs accept push root w
      ↔ ∃ path : List V, path.head? = some root ∧ path.getLast? = some w
          ∧ path.IsChain (fun u v => v ∈ nbrs u)
          ∧ (∀ v ∈ path.tail, accept v = true)
          ∧ ∀ v ∈ path.dropLast, v = root ∨ push v = true := by
  constructor
  · intro h
    induction h with
    | root => exact ⟨[root], rfl, rfl, by simp, by simp, by simp⟩
    | @step v w _ hexp hnb hacc ih =>
        obtain ⟨path, hhead, hlast, hchain, haccept, hpush⟩ := ih
        have hne : path ≠ [] := by
          intro hnil
          rw [hnil] at hhead
          cases hhead
        refine ⟨path ++ [w], ?_, ?_, ?_, ?_, ?_⟩
        · rw [List.head?_append_of_ne_nil _ hne]
          exact hhead
        · simp
        · rw [List.isChain_append]
          refine ⟨hchain, List.isChain_singleton w, ?_⟩
          intro x hx y hy
          rw [hlast] at hx
          obtain rfl := Option.some.inj hx
          obtain rfl := Option.some.inj hy
          exact hnb
        · intro x hx
          rw [List.tail_append_of_ne_nil hne] at hx
          rcases List.mem_append.mp hx with hold | hnew
          · exact haccept x hold
          · rw [List.mem_singleton.mp hnew]
            exact hacc
        · intro x hx
          rw [List.dropLast_concat] at hx
          -- the end of the old path is the vertex that was expanded
          rw [← List.dropLast_append_getLast? v hlast] at hx
          rcases List.mem_append.mp hx with hold | hnew
          · exact hpush x hold
          · rw [List.mem_singleton.mp hnew]
            exact hexp
  · rintro ⟨path, hhead, hlast, hchain, haccept, hpush⟩
    induction path using List.reverseRecOn generalizing w with
    | nil => cases hhead
    | append_singleton path v ih =>
        obtain rfl : v = w := by simpa using hlast
        by_cases hnil : path = []
        · rw [hnil] at hhead
          obtain rfl : v = root := by simpa using hhead
          exact .root
        · obtain ⟨x, hx⟩ : ∃ x, path.getLast? = some x :=
            ⟨path.getLast hnil, List.getLast?_eq_some_getLast hnil⟩
          rw [List.isChain_append] at hchain
          rw [List.head?_append_of_ne_nil _ hnil] at hhead
          rw [List.tail_append_of_ne_nil hnil] at haccept
          rw [List.dropLast_concat] at hpush
          have hmem : x ∈ path := List.mem_of_getLast? hx
          have hflood : Worklist.Floods nbrs accept push root x := by
            apply ih hhead hx hchain.1
            · intro y hy
              exact haccept y (List.mem_append_left _ hy)
            · intro y hy
              exact hpush y (List.mem_of_mem_dropLast hy)
          exact .step hflood (hpush x hmem) (hchain.2.2 x hx v rfl)
            (haccept v (List.mem_append_right _ (List.mem_singleton_self v)))

variable {W : WorldSize}

/-- The tile lies within the wrapped Chebyshev radius of the anchor tile. -/
def WithinRadius (a : TileKey W) (radius : Nat) (t : TileKey W) : Prop :=
  chebyshevWithWrap W a.x.val a.y.val t.x.val t.y.val ≤ radius

/-- **A path over LAND**: from the anchor tile to `t` by neighbours, within
the radius, every tile before the last one LAND or the anchor tile. -/
structure LandPath (isLand : LandConnectivityQuery W) (a : TileKey W) (radius : Nat)
    (t : TileKey W) (path : List (TileKey W)) : Prop where
  starts : path.head? = some a
  ends : path.getLast? = some t
  connected : path.IsChain (fun u v => v ∈ u.neighbors)
  within : ∀ u ∈ path, WithinRadius a radius u
  overLand : ∀ u ∈ path.dropLast, u = a ∨ isLand u = true

theorem withinRadius_self (a : TileKey W) (radius : Nat) : WithinRadius a radius a := by
  unfold WithinRadius chebyshevWithWrap
  dsimp only
  omega

theorem mem_landGatedTileKeysInDisk_iff_path (anchorX anchorY : Int) (radius : Nat)
    (isLand : LandConnectivityQuery W) (t : TileKey W) :
    t ∈ landGatedTileKeysInDisk anchorX anchorY radius isLand
      ↔ ∃ path, LandPath isLand (wrappedTile W anchorX anchorY) radius t path := by
  rw [mem_landGatedTileKeysInDisk_iff, floods_iff_path]
  apply exists_congr
  intro path
  constructor
  · rintro ⟨hhead, hlast, hchain, haccept, hpush⟩
    refine ⟨hhead, hlast, hchain, ?_, hpush⟩
    intro u hu
    cases path with
    | nil => cases hu
    | cons a tail =>
        obtain rfl := Option.some.inj hhead
        rcases List.mem_cons.mp hu with rfl | htail
        · exact withinRadius_self _ _
        · have hin := haccept u htail
          unfold WithinRadius
          simpa using hin
  · intro h
    refine ⟨h.starts, h.ends, h.connected, ?_, h.overLand⟩
    intro u hu
    have hin := h.within u (List.mem_of_mem_tail hu)
    unfold WithinRadius at hin
    simpa using hin

theorem nodup_landGatedTileKeysInDisk (anchorX anchorY : Int) (radius : Nat)
    (isLand : LandConnectivityQuery W) :
    (landGatedTileKeysInDisk anchorX anchorY radius isLand).Nodup :=
  (Worklist.floodInv_flood _ _ (le_of_eq TileKey.card)).nodup

/-! ## §2. Distances on the torus. -/

/-- A position and an anchor at most one world apart in their raw coordinates,
as the coordinates of any two tiles are. -/
def WithinOneWorld (W : WorldSize) (x y : Int) (anchor : ReachAnchor) : Prop :=
  (x - anchor.x).natAbs ≤ W.width ∧ (y - anchor.y).natAbs ≤ W.height

instance (x y : Int) (anchor : ReachAnchor) : Decidable (WithinOneWorld W x y anchor) :=
  inferInstanceAs (Decidable (_ ∧ _))

theorem le_radius_iff_axes {ax ay bx byy : Int} {radius : Nat} :
    chebyshevWithWrap W ax ay bx byy ≤ radius
      ↔ min ((ax - bx).natAbs : Int) (W.width - (ax - bx).natAbs) ≤ radius
        ∧ min ((ay - byy).natAbs : Int) (W.height - (ay - byy).natAbs) ≤ radius := by
  unfold chebyshevWithWrap
  dsimp only
  exact max_le_iff

theorem wrappedTile_eq_iff {x y x' y' : Int} :
    wrappedTile W x y = wrappedTile W x' y'
      ↔ x % W.width = x' % W.width ∧ y % W.height = y' % W.height := by
  constructor
  · intro h
    rw [← wrappedTile_x (W := W) x y, ← wrappedTile_y (W := W) x y, h]
    exact ⟨wrappedTile_x x' y', wrappedTile_y x' y'⟩
  · intro h
    exact wrappedTile_congr h.1 h.2

/-- **The square is the distance test**, for positions one world apart at most. -/
theorem wrappedTile_mem_squareTileKeys_iff {x y ax ay : Int} {radius : Nat}
    (hx : (x - ax).natAbs ≤ W.width) (hy : (y - ay).natAbs ≤ W.height) :
    wrappedTile W x y ∈ squareTileKeys W ax ay radius ↔ chebyshevWithWrap W x y ax ay ≤ radius := by
  rw [mem_squareTileKeys_iff, le_radius_iff_axes]
  constructor
  · intro h
    obtain ⟨dx, dy, hdx, hdy, heq⟩ := h
    obtain ⟨hwx, hwy⟩ := wrappedTile_eq_iff.mp heq
    exact ⟨RingDistance.le_of_offset hdx hwx, RingDistance.le_of_offset hdy hwy⟩
  · intro h
    obtain ⟨dx, hdx, hwx⟩ := RingDistance.offset_of_le hx h.1
    obtain ⟨dy, hdy, hwy⟩ := RingDistance.offset_of_le hy h.2
    exact ⟨dx, dy, hdx, hdy, wrappedTile_eq_iff.mpr ⟨hwx, hwy⟩⟩

theorem le_radius_of_mem_landGated {x y ax ay : Int} {radius : Nat}
    {isLand : LandConnectivityQuery W}
    (h : wrappedTile W x y ∈ landGatedTileKeysInDisk ax ay radius isLand) :
    chebyshevWithWrap W x y ax ay ≤ radius := by
  obtain ⟨path, hpath⟩ := (mem_landGatedTileKeysInDisk_iff_path ax ay radius isLand _).mp h
  have hin := hpath.within _ (List.mem_of_getLast? hpath.ends)
  -- the distance of the wrapped coordinates gives the offsets, which the raw ones share
  obtain ⟨haxis, hayis⟩ := le_radius_iff_axes.mp hin
  have hbx := (wrappedTile W x y).x.isLt
  have hby := (wrappedTile W x y).y.isLt
  have hax := (wrappedTile W ax ay).x.isLt
  have hay := (wrappedTile W ax ay).y.isLt
  obtain ⟨dx, hdx, hwx⟩ := RingDistance.offset_of_le (by omega) haxis
  obtain ⟨dy, hdy, hwy⟩ := RingDistance.offset_of_le (by omega) hayis
  rw [wrappedTile_x, wrappedTile_x, Int.emod_emod, Int.emod_add_emod] at hwx
  rw [wrappedTile_y, wrappedTile_y, Int.emod_emod, Int.emod_add_emod] at hwy
  have hflipx : (x - ax).natAbs = (ax - x).natAbs := by omega
  have hflipy : (y - ay).natAbs = (ay - y).natAbs := by omega
  rw [le_radius_iff_axes, hflipx, hflipy]
  exact ⟨RingDistance.le_of_offset hdx hwx, RingDistance.le_of_offset hdy hwy⟩

/-! ## §3. Counting owners. -/

/-- The tests of one turn: the distance, and for a gated anchor its disk. -/
def covers (x y : Int) (landConnectivity : Option (LandConnectivityQuery W))
    (anchor : ReachAnchor) : Bool :=
  if chebyshevWithWrap W x y anchor.x anchor.y > reachRadiusForAnchor anchor then false
  else
    match landConnectivity with
    | some isLand =>
        if anchor.crossesWater then true
        else
          decide (wrappedTile W x y
            ∈ landGatedTileKeysInDisk anchor.x anchor.y (reachRadiusForAnchor anchor) isLand)
    | none => true

/-- One turn of the loop over the anchors. -/
def countOwner (x y : Int) (landConnectivity : Option (LandConnectivityQuery W))
    (owners : List PlayerId) (anchor : ReachAnchor) : List PlayerId :=
  if anchor.ownerId ∈ owners then owners
  else if covers x y landConnectivity anchor then InsertionSet.add owners anchor.ownerId
  else owners

def reachOwnerCountAt (x y : Int) (anchors : List ReachAnchor)
    (landConnectivity : Option (LandConnectivityQuery W)) : Nat :=
  (anchors.foldl (countOwner x y landConnectivity) []).length

/-- **The two tests on an anchor are membership in its disk.** -/
theorem covers_iff {x y : Int} {anchor : ReachAnchor} (hnear : WithinOneWorld W x y anchor)
    (landConnectivity : Option (LandConnectivityQuery W)) :
    covers x y landConnectivity anchor = true
      ↔ wrappedTile W x y ∈ tileKeysInReach anchor landConnectivity := by
  have hsquare : wrappedTile W x y
      ∈ squareTileKeys W anchor.x anchor.y (reachRadiusForAnchor anchor)
        ↔ chebyshevWithWrap W x y anchor.x anchor.y ≤ reachRadiusForAnchor anchor :=
    wrappedTile_mem_squareTileKeys_iff hnear.1 hnear.2
  unfold covers tileKeysInReach
  by_cases hfar : chebyshevWithWrap W x y anchor.x anchor.y > reachRadiusForAnchor anchor
  · -- out of the radius, so in no disk of either kind
    rw [if_pos hfar]
    have hout : wrappedTile W x y
        ∉ squareTileKeys W anchor.x anchor.y (reachRadiusForAnchor anchor) := by
      rw [hsquare]
      omega
    cases landConnectivity with
    | none => simpa using hout
    | some isLand =>
        cases hwater : anchor.crossesWater with
        | true => simpa using hout
        | false =>
            have hdry : wrappedTile W x y ∉ landGatedTileKeysInDisk anchor.x anchor.y
                (reachRadiusForAnchor anchor) isLand := by
              intro hmem
              have hle := le_radius_of_mem_landGated hmem
              omega
            simpa using hdry
  · rw [if_neg hfar]
    have hin : wrappedTile W x y
        ∈ squareTileKeys W anchor.x anchor.y (reachRadiusForAnchor anchor) := by
      rw [hsquare]
      omega
    cases landConnectivity with
    | none => simpa using hin
    | some isLand =>
        cases hwater : anchor.crossesWater with
        | true => simpa using hin
        | false => simp

theorem nodup_countOwner {owners : List PlayerId} (h : owners.Nodup) (x y : Int)
    (landConnectivity : Option (LandConnectivityQuery W)) (anchor : ReachAnchor) :
    (countOwner x y landConnectivity owners anchor).Nodup := by
  unfold countOwner
  split
  · exact h
  · split
    · exact InsertionSet.nodup_add h anchor.ownerId
    · exact h

theorem mem_countOwner_iff (owners : List PlayerId) (x y : Int)
    (landConnectivity : Option (LandConnectivityQuery W)) (anchor : ReachAnchor)
    (ownerId : PlayerId) :
    ownerId ∈ countOwner x y landConnectivity owners anchor
      ↔ ownerId ∈ owners
        ∨ anchor.ownerId = ownerId ∧ covers x y landConnectivity anchor = true := by
  unfold countOwner
  by_cases hcounted : anchor.ownerId ∈ owners
  · rw [if_pos hcounted]
    constructor
    · exact Or.inl
    · rintro (h | ⟨rfl, _⟩)
      · exact h
      · exact hcounted
  · rw [if_neg hcounted]
    cases covers x y landConnectivity anchor with
    | true => simp [InsertionSet.mem_add, eq_comm]
    | false => simp

/-- **The owners counted after some anchors**: no one twice, and exactly the
owners of anchors that cover the tile. -/
theorem mem_countOwners_iff (x y : Int) (landConnectivity : Option (LandConnectivityQuery W))
    (anchors : List ReachAnchor) :
    ∀ owners : List PlayerId, owners.Nodup →
      (anchors.foldl (countOwner x y landConnectivity) owners).Nodup
        ∧ ∀ ownerId, ownerId ∈ anchors.foldl (countOwner x y landConnectivity) owners
          ↔ ownerId ∈ owners ∨ ∃ anchor ∈ anchors, anchor.ownerId = ownerId
            ∧ covers x y landConnectivity anchor = true := by
  induction anchors with
  | nil =>
      intro owners h
      exact ⟨h, fun ownerId => by simp⟩
  | cons anchor anchors ih =>
      intro owners h
      rw [List.foldl_cons]
      obtain ⟨hnodup, hmem⟩ := ih _ (nodup_countOwner h x y landConnectivity anchor)
      refine ⟨hnodup, fun ownerId => ?_⟩
      rw [hmem, mem_countOwner_iff]
      simp [or_assoc]

/-- **The count is that of the owners whose live reach holds the tile.** -/
theorem reachOwnerCountAt_eq {x y : Int} {anchors : List ReachAnchor}
    (hnear : ∀ anchor ∈ anchors, WithinOneWorld W x y anchor)
    (landConnectivity : Option (LandConnectivityQuery W)) :
    reachOwnerCountAt x y anchors landConnectivity
      = {ownerId | wrappedTile W x y
          ∈ liveReachForOwner ownerId anchors landConnectivity}.ncard := by
  obtain ⟨hnodup, hmem⟩ := mem_countOwners_iff x y landConnectivity anchors [] List.nodup_nil
  have hset : {ownerId | wrappedTile W x y ∈ liveReachForOwner ownerId anchors landConnectivity}
      = ((anchors.foldl (countOwner x y landConnectivity) []).toFinset : Set PlayerId) := by
    ext ownerId
    show wrappedTile W x y ∈ liveReachForOwner ownerId anchors landConnectivity
      ↔ ownerId ∈ (anchors.foldl (countOwner x y landConnectivity) []).toFinset
    rw [List.mem_toFinset, hmem, mem_liveReachForOwner_iff]
    constructor
    · rintro ⟨anchor, hanchor, howner, hin⟩
      exact Or.inr ⟨anchor, hanchor, howner,
        (covers_iff (hnear anchor hanchor) landConnectivity).mpr hin⟩
    · rintro (h | ⟨anchor, hanchor, howner, hcovers⟩)
      · cases h
      · exact ⟨anchor, hanchor, howner,
          (covers_iff (hnear anchor hanchor) landConnectivity).mp hcovers⟩
  rw [hset, Set.ncard_coe_finset, List.toFinset_card_of_nodup hnodup]
  rfl

/-- **Land-gated disks and the owner count.** -/
theorem reach_disks_and_owner_count (W : WorldSize) :
    (∀ (anchorX anchorY : Int) (radius : Nat) (isLand : LandConnectivityQuery W),
      (landGatedTileKeysInDisk anchorX anchorY radius isLand).Nodup
        ∧ ∀ t, t ∈ landGatedTileKeysInDisk anchorX anchorY radius isLand
          ↔ ∃ path, LandPath isLand (wrappedTile W anchorX anchorY) radius t path)
    ∧ ∀ (x y : Int) (anchors : List ReachAnchor)
        (landConnectivity : Option (LandConnectivityQuery W)),
        (∀ anchor ∈ anchors, WithinOneWorld W x y anchor) →
        reachOwnerCountAt x y anchors landConnectivity
          = {ownerId | wrappedTile W x y
              ∈ liveReachForOwner ownerId anchors landConnectivity}.ncard := by
  refine ⟨?_, ?_⟩
  · intro anchorX anchorY radius isLand
    exact ⟨nodup_landGatedTileKeysInDisk anchorX anchorY radius isLand,
      mem_landGatedTileKeysInDisk_iff_path anchorX anchorY radius isLand⟩
  · intro x y anchors landConnectivity hnear
    exact reachOwnerCountAt_eq hnear landConnectivity

/-- A town three tiles off over water, and an outpost across the world's edge
that may cross it: the tile has one owner in reach. -/
def twoAnchors : List ReachAnchor :=
  [.plain 5 5 playerOne 0 .TOWN, ⟨63, 5, playerTwo, 0, .OUTPOST, none, true, none⟩]

theorem owner_count_over_water :
    {ownerId | wrappedTile smallestWorld 2 5
      ∈ liveReachForOwner ownerId twoAnchors (some fun _ => false)}.ncard = 1 := by
  have hcount := (reach_disks_and_owner_count smallestWorld).2 2 5 twoAnchors
    (some fun _ => false) (by decide)
  rw [← hcount]
  decide +kernel

end BorderEmpires
