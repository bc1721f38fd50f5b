/-
  BorderEmpires.Reach.Apply
  **APPLYING AN ANCHOR CHANGE TO THE LIVE BORDER.**

  The runtime captures the disk's owners, mutates the border in place,
  hands the before-image to `onBorderMutated`, and only then runs the
  callbacks that claim neutral ground and unsettle what changed hands.
  This module has the pieces of that path and the diff it persists.
-/
import BorderEmpires.Reach.Border

namespace BorderEmpires

variable {W : WorldSize}

/-! ## §1. Tiles as the border code sees them. -/

variable (landConnectivity : Option (LandConnectivityQuery W)) (border : ReachBorder W)
  (anchor : ReachAnchor)

/-- `tile?.ownershipState === "SETTLED" ? tile.ownerId : undefined`. -/
def settledOwnerOf (tileOwnership : TileKey W → Option TileOwnership) (key : TileKey W) :
    Option PlayerId :=
  match tileOwnership key with
  | some tile => if tile.ownershipState = some .SETTLED then tile.ownerId else none
  | none => none

/-! ## §2. The in-place mutation. -/

/-- One turn of the `ownersBefore` loop. -/
def recordBefore (border before : ReachBorder W) (key : TileKey W) : ReachBorder W :=
  match border.get key with
  | some ownerId => before.set key ownerId
  | none => before

def ownersBefore (keys : List (TileKey W)) : ReachBorder W :=
  keys.foldl (recordBefore border) InsertionMap.empty

/-- What one in-place mutation leaves behind. -/
structure BorderMutation (W : WorldSize) where
  border : ReachBorder W
  overtaken : List (OvertakenTile W)
  before : ReachBorder W
  diskKeys : List (TileKey W)

/-- The mutating part of `applyReachAnchorActivationToBorder`. -/
def mutateForActivation (anchors : List ReachAnchor)
    (tileOwnership : TileKey W → Option TileOwnership) : BorderMutation W :=
  let diskKeys := tileKeysInReach anchor landConnectivity
  let result := grantAnchorToBorderInPlace border anchor
    (fun ownerId => liveReachForOwner ownerId anchors landConnectivity)
    (settledOwnerOf tileOwnership) landConnectivity
  ⟨result.1, result.2, ownersBefore border diskKeys, diskKeys⟩

/-- The mutating part of `applyReachAnchorDeactivationToBorder`; `anchors`
already reflects the deactivation. -/
def mutateForDeactivation (anchors : List ReachAnchor) (rivalOwnerIds : List PlayerId) :
    BorderMutation W :=
  let diskKeys := tileKeysInReach anchor landConnectivity
  let result := reassessBorderOnAnchorDeactivationInPlace border anchor
    (liveReachForOwner anchor.ownerId anchors landConnectivity)
    (fun ownerId => liveReachForOwner ownerId anchors landConnectivity) rivalOwnerIds
    landConnectivity
  ⟨result.1, result.2, ownersBefore border diskKeys, diskKeys⟩

theorem recordBefore_get (border before : ReachBorder W) (key k : TileKey W) :
    (recordBefore border before key).get k
      = if key = k then (border.get key).or (before.get key) else before.get k := by
  unfold recordBefore
  cases border.get key with
  | none =>
      rw [Option.none_or]
      dsimp only
      split
      next h => rw [h]
      next h => rfl
  | some o =>
      rw [Option.some_or]
      dsimp only
      rw [InsertionMap.get_set]

theorem ownersBefore_get (keys : List (TileKey W)) (k : TileKey W) :
    (ownersBefore border keys).get k = if k ∈ keys then border.get k else none := by
  have hidem : ∀ (a : TileKey W) (v : Option PlayerId),
      (border.get a).or ((border.get a).or v) = (border.get a).or v := by
    intro a v
    cases border.get a with
    | none => rfl
    | some o => rfl
  unfold ownersBefore
  rw [Pointwise.foldl_read (fun (m : ReachBorder W) k => m.get k) (recordBefore_get border)
    hidem keys InsertionMap.empty k, InsertionMap.get_empty, Option.or_none]

theorem mutateForActivation_frame (anchors : List ReachAnchor)
    (tileOwnership : TileKey W → Option TileOwnership) (k : TileKey W)
    (hk : k ∉ (mutateForActivation landConnectivity border anchor anchors tileOwnership).diskKeys) :
    (mutateForActivation landConnectivity border anchor anchors tileOwnership).border.get k
      = border.get k := by
  unfold mutateForActivation at hk ⊢
  dsimp only at hk ⊢
  rw [grantAnchorToBorderInPlace_get, if_neg hk]

theorem mutateForDeactivation_frame (anchors : List ReachAnchor) (rivalOwnerIds : List PlayerId)
    (k : TileKey W)
    (hk : k ∉ (mutateForDeactivation landConnectivity border anchor anchors rivalOwnerIds).diskKeys)
    :
    (mutateForDeactivation landConnectivity border anchor anchors rivalOwnerIds).border.get k
      = border.get k := by
  unfold mutateForDeactivation at hk ⊢
  dsimp only at hk ⊢
  rw [reassessBorderOnAnchorDeactivationInPlace_get, if_neg hk]

/-! ## §3. The callbacks' inputs. -/

def autoClaimKeys (m : BorderMutation W) (border : ReachBorder W)
    (tileOwnership : TileKey W → Option TileOwnership) (skipNeutralAutoClaim : Bool) :
    List (TileKey W) :=
  m.diskKeys.filter (fun key =>
    decide (border.get key = some anchor.ownerId)
      && decide (m.before.get key ≠ some anchor.ownerId)
      && !skipNeutralAutoClaim
      && !anchor.ownerId.isBarbarian
      && ((tileOwnership key).bind TileOwnership.ownerId).isNone)

/-- `settleOvertaken` unsettles the tile: its former holder is no
barbarian and still has it SETTLED. -/
def unsettles (tileOwnership : TileKey W → Option TileOwnership) (o : OvertakenTile W) : Bool :=
  !o.fromOwnerId.isBarbarian
    && match tileOwnership o.tileKey with
      | some tile => decide (tile.ownerId = some o.fromOwnerId)
          && decide (tile.ownershipState = some .SETTLED)
      | none => false

/-! ## §4. Diffs. -/

/-- `ownerId` is `none` where the source writes `null`. -/
structure ReachBorderChange (W : WorldSize) where
  tileKey : TileKey W
  ownerId : Option PlayerId
  deriving DecidableEq

/-- The border diff over `keys`. -/
def diffReachBorder (oldBorder newBorder : ReachBorder W) (keys : List (TileKey W)) :
    List (ReachBorderChange W) :=
  keys.filterMap (fun key =>
    if oldBorder.get key ≠ newBorder.get key then some ⟨key, newBorder.get key⟩ else none)

def applyChange (change : ReachBorderChange W) : ReachBorder W :=
  match change.ownerId with
  | some ownerId => border.set change.tileKey ownerId
  | none => border.erase change.tileKey

def applyReachBorderChanges (changes : List (ReachBorderChange W)) : ReachBorder W :=
  changes.foldl applyChange border

theorem applyChange_get (change : ReachBorderChange W) (k : TileKey W) :
    (applyChange border change).get k
      = if change.tileKey = k then change.ownerId else border.get k := by
  unfold applyChange
  cases hc : change.ownerId with
  | some ownerId => exact InsertionMap.get_set border change.tileKey k ownerId
  | none => exact InsertionMap.get_erase border change.tileKey k

def applyDiffAt (oldBorder newBorder border : ReachBorder W) (key : TileKey W) : ReachBorder W :=
  if oldBorder.get key ≠ newBorder.get key then
    applyChange border ⟨key, newBorder.get key⟩
  else border

theorem applyReachBorderChanges_diff (oldBorder newBorder : ReachBorder W)
    (keys : List (TileKey W)) : ∀ base : ReachBorder W,
      applyReachBorderChanges base (diffReachBorder oldBorder newBorder keys)
        = keys.foldl (applyDiffAt oldBorder newBorder) base := by
  induction keys with
  | nil =>
      intro base
      rfl
  | cons key keys ih =>
      intro base
      rw [List.foldl_cons, ← ih]
      unfold diffReachBorder applyDiffAt
      rw [List.filterMap_cons]
      by_cases hd : oldBorder.get key ≠ newBorder.get key
      · rw [if_pos hd, if_pos hd]
        rfl
      · rw [if_neg hd, if_neg hd]

theorem applyReachBorderChanges_diff_get (base oldBorder newBorder : ReachBorder W)
    (keys : List (TileKey W)) (k : TileKey W) :
    (applyReachBorderChanges base (diffReachBorder oldBorder newBorder keys)).get k
      = if k ∈ keys then
          (if oldBorder.get k ≠ newBorder.get k then newBorder.get k else base.get k)
        else base.get k := by
  rw [applyReachBorderChanges_diff]
  refine Pointwise.foldl_read (fun (m : ReachBorder W) k => m.get k)
    (f := fun k v => if oldBorder.get k ≠ newBorder.get k then newBorder.get k else v)
    ?_ ?_ keys base k
  · intro border key k'
    unfold applyDiffAt
    dsimp only
    by_cases hd : oldBorder.get key ≠ newBorder.get key
    · rw [if_pos hd, if_pos hd]
      exact applyChange_get border _ k'
    · rw [if_neg hd, if_neg hd]
      split
      next h => rw [h]
      next h => rfl
  · intro key v
    split <;> rfl

/-- **A diff closes the gap**: on any border that holds the old or the new
owner at each disk key, and the new one elsewhere, it gives the new border. -/
theorem apply_diff_get {base oldBorder newBorder : ReachBorder W} {keys : List (TileKey W)}
    (hframe : ∀ k, k ∉ keys → base.get k = newBorder.get k)
    (hbetween : ∀ k, k ∈ keys → base.get k = oldBorder.get k ∨ base.get k = newBorder.get k)
    (k : TileKey W) :
    (applyReachBorderChanges base (diffReachBorder oldBorder newBorder keys)).get k
      = newBorder.get k := by
  rw [applyReachBorderChanges_diff_get]
  by_cases hk : k ∈ keys
  · rw [if_pos hk]
    by_cases hd : oldBorder.get k ≠ newBorder.get k
    · rw [if_pos hd]
    · rw [if_neg hd]
      rcases hbetween k hk with hb | hb
      · rw [hb, not_not.mp hd]
      · exact hb
  · rw [if_neg hk]
    exact hframe k hk

end BorderEmpires
