/-
  BorderEmpires.Reach.Border
  **THE OWNERSHIP BORDER AND ITS TWO MUTATIONS.**

  The border maps a tile to the owner holding reach over it.  Activating
  an anchor contests every tile of its disk (`grantAnchorToBorderInPlace`);
  deactivating one re-resolves every tile of its disk its owner still
  holds (`reassessBorderOnAnchorDeactivationInPlace`).

  Each loop has one specification lemma, read off the border tile by tile.
-/
import BorderEmpires.Lib.InsertionMap
import BorderEmpires.Lib.Pointwise
import BorderEmpires.Reach.Geometry

namespace BorderEmpires

variable {W : WorldSize}

/-- `tileKey -> ownerId`, in insertion order. -/
abbrev ReachBorder (W : WorldSize) := InsertionMap (TileKey W) PlayerId

/-- A tile that changed owner; `toOwnerId` is `none` where the source
writes the empty id for a vacated tile. -/
structure OvertakenTile (W : WorldSize) where
  tileKey : TileKey W
  fromOwnerId : PlayerId
  toOwnerId : Option PlayerId
  deriving DecidableEq

def liveReachForOwner (ownerId : PlayerId) (activeAnchors : List ReachAnchor)
    (landConnectivity : Option (LandConnectivityQuery W)) : List (TileKey W) :=
  (activeAnchors.filter (fun anchor => anchor.ownerId = ownerId)).flatMap
    (fun anchor => tileKeysInReach anchor landConnectivity)

theorem mem_liveReachForOwner_iff {ownerId : PlayerId} {activeAnchors : List ReachAnchor}
    {landConnectivity : Option (LandConnectivityQuery W)} {key : TileKey W} :
    key ∈ liveReachForOwner ownerId activeAnchors landConnectivity
      ↔ ∃ anchor ∈ activeAnchors, anchor.ownerId = ownerId
          ∧ key ∈ tileKeysInReach anchor landConnectivity := by
  simp only [liveReachForOwner, List.mem_flatMap, List.mem_filter, decide_eq_true_eq, and_assoc]

/-! ## §1. Activation. -/

/-- One turn of the activation loop. -/
def grantTile (anchor : ReachAnchor) (guaranteedKeys : List (TileKey W))
    (defenderLiveReach : PlayerId → List (TileKey W))
    (settledOwnerAt : TileKey W → Option PlayerId)
    (st : ReachBorder W × List (OvertakenTile W)) (key : TileKey W) :
    ReachBorder W × List (OvertakenTile W) :=
  let isOwnTile := decide (key ∈ guaranteedKeys)
  match st.1.get key with
  | none =>
      match settledOwnerAt key with
      | some settledOwner =>
          if settledOwner ≠ anchor.ownerId then
            -- an empty slot over a rival's settled ground is a contest too
            if !isOwnTile && decide (key ∈ defenderLiveReach settledOwner) then st
            else (st.1.set key anchor.ownerId, st.2 ++ [⟨key, settledOwner, some anchor.ownerId⟩])
          else (st.1.set key anchor.ownerId, st.2)
      | none => (st.1.set key anchor.ownerId, st.2)
  | some existingOwner =>
      if existingOwner = anchor.ownerId then st
      else
        let defended := !isOwnTile && decide (key ∈ defenderLiveReach existingOwner)
        if !defended then
          (st.1.set key anchor.ownerId, st.2 ++ [⟨key, existingOwner, some anchor.ownerId⟩])
        else st

/-- Apply an activating anchor to the border; returns the border and the
overtaken list. -/
def grantAnchorToBorderInPlace (next : ReachBorder W) (anchor : ReachAnchor)
    (defenderLiveReach : PlayerId → List (TileKey W))
    (settledOwnerAt : TileKey W → Option PlayerId)
    (landConnectivity : Option (LandConnectivityQuery W)) :
    ReachBorder W × List (OvertakenTile W) :=
  (tileKeysInReach anchor landConnectivity).foldl
    (grantTile anchor (guaranteedTileKeys W anchor) defenderLiveReach settledOwnerAt)
    (next, [])

/-- The owner of a disk tile after the grant, from its owner before. -/
def grantedOwner (anchor : ReachAnchor) (defenderLiveReach : PlayerId → List (TileKey W))
    (settledOwnerAt : TileKey W → Option PlayerId) (key : TileKey W)
    (existing : Option PlayerId) : Option PlayerId :=
  match existing.or (settledOwnerAt key) with
  | none => some anchor.ownerId
  | some holder =>
      if holder ≠ anchor.ownerId ∧ key ∉ guaranteedTileKeys W anchor
          ∧ key ∈ defenderLiveReach holder
      then existing
      else some anchor.ownerId

section Grant

variable (anchor : ReachAnchor) (defenderLiveReach : PlayerId → List (TileKey W))
  (settledOwnerAt : TileKey W → Option PlayerId)

theorem grantTile_get (st : ReachBorder W × List (OvertakenTile W)) (key k : TileKey W) :
    (grantTile anchor (guaranteedTileKeys W anchor) defenderLiveReach settledOwnerAt
        st key).1.get k
      = if key = k then grantedOwner anchor defenderLiveReach settledOwnerAt key (st.1.get key)
        else st.1.get k := by
  rw [grantTile, grantedOwner]
  cases he : st.1.get key with
  | none =>
      rw [Option.none_or]
      cases hs : settledOwnerAt key with
      | none =>
          dsimp only
          rw [InsertionMap.get_set]
      | some settledOwner =>
          dsimp only
          by_cases hne : settledOwner ≠ anchor.ownerId
          · rw [if_pos hne]
            by_cases hg : key ∈ guaranteedTileKeys W anchor
            · simp [hg, InsertionMap.get_set]
            · by_cases hd : key ∈ defenderLiveReach settledOwner
              · simp only [hg, hd, hne, decide_true, decide_false, Bool.not_false,
                  Bool.and_true, if_true, not_false_eq_true, and_self, ne_eq]
                split
                next hk => rw [← hk, he]
                next hk => rfl
              · simp [hg, hd, InsertionMap.get_set]
          · rw [if_neg hne, InsertionMap.get_set]
            simp only [hne, false_and, if_false]
  | some existingOwner =>
      rw [Option.some_or]
      dsimp only
      by_cases heq : existingOwner = anchor.ownerId
      · rw [if_pos heq]
        simp only [heq, ne_eq, not_true_eq_false, false_and, if_false]
        split
        next hk => rw [← hk, he, heq]
        next hk => rfl
      · rw [if_neg heq]
        by_cases hg : key ∈ guaranteedTileKeys W anchor
        · simp [hg, InsertionMap.get_set]
        · by_cases hd : key ∈ defenderLiveReach existingOwner
          · simp only [hg, hd, heq, decide_true, decide_false, Bool.not_false, Bool.and_true,
              Bool.not_true, Bool.false_eq_true, if_false, not_false_eq_true, and_self,
              if_true, ne_eq]
            split
            next hk => rw [← hk, he]
            next hk => rfl
          · simp [hg, hd, InsertionMap.get_set]

theorem grantedOwner_idem (key : TileKey W) (existing : Option PlayerId) :
    grantedOwner anchor defenderLiveReach settledOwnerAt key
        (grantedOwner anchor defenderLiveReach settledOwnerAt key existing)
      = grantedOwner anchor defenderLiveReach settledOwnerAt key existing := by
  have hown : grantedOwner anchor defenderLiveReach settledOwnerAt key (some anchor.ownerId)
      = some anchor.ownerId := by
    simp [grantedOwner]
  cases hg : existing.or (settledOwnerAt key) with
  | none =>
      have h : grantedOwner anchor defenderLiveReach settledOwnerAt key existing
          = some anchor.ownerId := by
        rw [grantedOwner, hg]
      rw [h, hown]
  | some holder =>
      by_cases hd : holder ≠ anchor.ownerId ∧ key ∉ guaranteedTileKeys W anchor
          ∧ key ∈ defenderLiveReach holder
      · have h : grantedOwner anchor defenderLiveReach settledOwnerAt key existing
            = existing := by
          rw [grantedOwner, hg]
          exact if_pos hd
        rw [h, h]
      · have h : grantedOwner anchor defenderLiveReach settledOwnerAt key existing
            = some anchor.ownerId := by
          rw [grantedOwner, hg]
          exact if_neg hd
        rw [h, hown]

/-- **The grant, tile by tile.** -/
theorem grantAnchorToBorderInPlace_get (next : ReachBorder W)
    (landConnectivity : Option (LandConnectivityQuery W)) (k : TileKey W) :
    (grantAnchorToBorderInPlace next anchor defenderLiveReach settledOwnerAt
        landConnectivity).1.get k
      = if k ∈ tileKeysInReach anchor landConnectivity
        then grantedOwner anchor defenderLiveReach settledOwnerAt k (next.get k)
        else next.get k :=
  Pointwise.foldl_read (fun st k => st.1.get k)
    (fun st key k => grantTile_get anchor defenderLiveReach settledOwnerAt st key k)
    (grantedOwner_idem anchor defenderLiveReach settledOwnerAt) _ (next, []) k

/-- The holder a grant displaces from a disk tile, if any. -/
def displacedOwner (key : TileKey W) (existing : Option PlayerId) : Option PlayerId :=
  match existing.or (settledOwnerAt key) with
  | none => none
  | some holder =>
      if holder ≠ anchor.ownerId
          ∧ (key ∈ guaranteedTileKeys W anchor ∨ key ∉ defenderLiveReach holder)
      then some holder
      else none

theorem grantTile_overtaken (st : ReachBorder W × List (OvertakenTile W)) (key : TileKey W)
    (o : OvertakenTile W) :
    o ∈ (grantTile anchor (guaranteedTileKeys W anchor) defenderLiveReach settledOwnerAt
        st key).2
      ↔ o ∈ st.2 ∨ (o.tileKey = key ∧ o.toOwnerId = some anchor.ownerId
        ∧ displacedOwner anchor defenderLiveReach settledOwnerAt key (st.1.get key)
          = some o.fromOwnerId) := by
  have hpush : ∀ holder, o ∈ st.2 ++ [⟨key, holder, some anchor.ownerId⟩]
      ↔ o ∈ st.2 ∨ (o.tileKey = key ∧ o.toOwnerId = some anchor.ownerId
        ∧ some holder = some o.fromOwnerId) := by
    intro holder
    rw [List.mem_append, List.mem_singleton]
    constructor
    · intro h
      rcases h with h | h
      · exact Or.inl h
      · exact Or.inr ⟨by rw [h], by rw [h], by rw [h]⟩
    · intro h
      rcases h with h | ⟨hk, hto, hfrom⟩
      · exact Or.inl h
      · right
        obtain ⟨tileKey, fromOwnerId, toOwnerId⟩ := o
        cases hk
        cases hto
        cases hfrom
        rfl
  have hkeep : ∀ displaced : Option PlayerId, displaced = none →
      (o ∈ st.2 ↔ o ∈ st.2 ∨ (o.tileKey = key ∧ o.toOwnerId = some anchor.ownerId
        ∧ displaced = some o.fromOwnerId)) := by
    intro displaced hd
    constructor
    · exact Or.inl
    · intro h
      rcases h with h | ⟨_, _, h⟩
      · exact h
      · rw [hd] at h
        cases h
  unfold grantTile displacedOwner
  cases he : st.1.get key with
  | none =>
      rw [Option.none_or]
      cases hs : settledOwnerAt key with
      | none => exact hkeep none rfl
      | some settledOwner =>
          dsimp only
          by_cases hne : settledOwner ≠ anchor.ownerId
          · rw [if_pos hne]
            by_cases hg : key ∈ guaranteedTileKeys W anchor
            · simpa [hg, hne] using hpush settledOwner
            · by_cases hd : key ∈ defenderLiveReach settledOwner
              · simp [hg, hd, hne]
              · simpa [hg, hd, hne] using hpush settledOwner
          · rw [if_neg hne]
            exact hkeep _ (if_neg (fun h => hne h.1))
  | some existingOwner =>
      rw [Option.some_or]
      dsimp only
      by_cases heq : existingOwner = anchor.ownerId
      · rw [if_pos heq]
        exact hkeep _ (if_neg (fun h => h.1 heq))
      · rw [if_neg heq]
        by_cases hg : key ∈ guaranteedTileKeys W anchor
        · simpa [hg, heq] using hpush existingOwner
        · by_cases hd : key ∈ defenderLiveReach existingOwner
          · simp [hg, hd, heq]
          · simpa [hg, hd, heq] using hpush existingOwner

theorem displacedOwner_grantedOwner (key : TileKey W) (existing : Option PlayerId) :
    displacedOwner anchor defenderLiveReach settledOwnerAt key
      (grantedOwner anchor defenderLiveReach settledOwnerAt key existing) = none := by
  have hown : displacedOwner anchor defenderLiveReach settledOwnerAt key (some anchor.ownerId)
      = none := by
    simp [displacedOwner]
  unfold grantedOwner
  cases hg : existing.or (settledOwnerAt key) with
  | none => exact hown
  | some holder =>
      dsimp only
      split
      next hd =>
        unfold displacedOwner
        rw [hg]
        apply if_neg
        intro h
        rcases h.2 with hk | hk
        · exact hd.2.1 hk
        · exact hk hd.2.2
      next hd => exact hown

/-- **The overtaken list of a grant**, read off the border before it. -/
theorem mem_grantAnchorToBorderInPlace_overtaken (next : ReachBorder W)
    (landConnectivity : Option (LandConnectivityQuery W)) (o : OvertakenTile W) :
    o ∈ (grantAnchorToBorderInPlace next anchor defenderLiveReach settledOwnerAt
        landConnectivity).2
      ↔ o.tileKey ∈ tileKeysInReach anchor landConnectivity
        ∧ o.toOwnerId = some anchor.ownerId
        ∧ displacedOwner anchor defenderLiveReach settledOwnerAt o.tileKey
            (next.get o.tileKey) = some o.fromOwnerId := by
  have hfold : ∀ (keys : List (TileKey W)) (st : ReachBorder W × List (OvertakenTile W)),
      o ∈ (keys.foldl (grantTile anchor (guaranteedTileKeys W anchor) defenderLiveReach
          settledOwnerAt) st).2
        ↔ o ∈ st.2 ∨ (o.tileKey ∈ keys ∧ o.toOwnerId = some anchor.ownerId
          ∧ displacedOwner anchor defenderLiveReach settledOwnerAt o.tileKey
              (st.1.get o.tileKey) = some o.fromOwnerId) := by
    intro keys
    induction keys with
    | nil =>
        intro st
        simp
    | cons key keys ih =>
        intro st
        rw [List.foldl_cons, ih, grantTile_overtaken, grantTile_get, List.mem_cons]
        by_cases hk : key = o.tileKey
        · -- the first visit settles the tile; later ones displace nobody
          rw [if_pos hk, hk, displacedOwner_grantedOwner]
          constructor
          · intro h
            rcases h with (h | h) | h
            · exact Or.inl h
            · exact Or.inr ⟨Or.inl rfl, h.2⟩
            · exact absurd h.2.2 (fun h => by cases h)
          · intro h
            rcases h with h | h
            · exact Or.inl (Or.inl h)
            · exact Or.inl (Or.inr ⟨rfl, h.2⟩)
        · rw [if_neg hk]
          constructor
          · intro h
            rcases h with (h | h) | h
            · exact Or.inl h
            · exact absurd h.1.symm hk
            · exact Or.inr ⟨Or.inr h.1, h.2⟩
          · intro h
            rcases h with h | h
            · exact Or.inl (Or.inl h)
            · rcases h.1 with h1 | h1
              · exact absurd h1.symm hk
              · exact Or.inr ⟨h1, h.2⟩
  unfold grantAnchorToBorderInPlace
  rw [hfold]
  simp

end Grant

/-! ## §2. Deactivation. -/

/-- One turn of the deactivation loop. -/
def reassessTile (deactivatedAnchor : ReachAnchor) (ownerLiveReach : List (TileKey W))
    (rivalLiveReachFor : PlayerId → List (TileKey W)) (rivalOwnerIds : List PlayerId)
    (st : ReachBorder W × List (OvertakenTile W)) (key : TileKey W) :
    ReachBorder W × List (OvertakenTile W) :=
  if st.1.get key ≠ some deactivatedAnchor.ownerId then st
  else if key ∈ ownerLiveReach then st
  else
    match rivalOwnerIds.find? (fun rivalId =>
        decide (rivalId ≠ deactivatedAnchor.ownerId)
          && decide (key ∈ rivalLiveReachFor rivalId)) with
    | some rivalId =>
        (st.1.set key rivalId, st.2 ++ [⟨key, deactivatedAnchor.ownerId, some rivalId⟩])
    | none => (st.1.erase key, st.2 ++ [⟨key, deactivatedAnchor.ownerId, none⟩])

def reassessBorderOnAnchorDeactivationInPlace (next : ReachBorder W)
    (deactivatedAnchor : ReachAnchor) (ownerLiveReach : List (TileKey W))
    (rivalLiveReachFor : PlayerId → List (TileKey W)) (rivalOwnerIds : List PlayerId)
    (landConnectivity : Option (LandConnectivityQuery W)) :
    ReachBorder W × List (OvertakenTile W) :=
  (tileKeysInReach deactivatedAnchor landConnectivity).foldl
    (reassessTile deactivatedAnchor ownerLiveReach rivalLiveReachFor rivalOwnerIds) (next, [])

/-- The owner of a disk tile after the deactivation, from its owner before. -/
def reassessedOwner (deactivatedAnchor : ReachAnchor) (ownerLiveReach : List (TileKey W))
    (rivalLiveReachFor : PlayerId → List (TileKey W)) (rivalOwnerIds : List PlayerId)
    (key : TileKey W) (existing : Option PlayerId) : Option PlayerId :=
  if existing = some deactivatedAnchor.ownerId ∧ key ∉ ownerLiveReach then
    rivalOwnerIds.find? (fun rivalId =>
      decide (rivalId ≠ deactivatedAnchor.ownerId)
        && decide (key ∈ rivalLiveReachFor rivalId))
  else existing

section Reassess

variable (deactivatedAnchor : ReachAnchor) (ownerLiveReach : List (TileKey W))
  (rivalLiveReachFor : PlayerId → List (TileKey W)) (rivalOwnerIds : List PlayerId)

theorem reassessTile_get (st : ReachBorder W × List (OvertakenTile W)) (key k : TileKey W) :
    (reassessTile deactivatedAnchor ownerLiveReach rivalLiveReachFor rivalOwnerIds
        st key).1.get k
      = if key = k then reassessedOwner deactivatedAnchor ownerLiveReach rivalLiveReachFor
            rivalOwnerIds key (st.1.get key)
        else st.1.get k := by
  have hkeep : ∀ o, st.1.get key = o → st.1.get k = if key = k then o else st.1.get k := by
    intro o ho
    split
    next hk => rw [← hk, ho]
    next hk => rfl
  by_cases hown : st.1.get key = some deactivatedAnchor.ownerId
  · by_cases hlive : key ∈ ownerLiveReach
    · have hc : ¬ (st.1.get key = some deactivatedAnchor.ownerId ∧ key ∉ ownerLiveReach) :=
        fun h => h.2 hlive
      rw [reassessTile, if_neg (not_not_intro hown), if_pos hlive, reassessedOwner, if_neg hc]
      exact hkeep _ rfl
    · have hc : st.1.get key = some deactivatedAnchor.ownerId ∧ key ∉ ownerLiveReach :=
        ⟨hown, hlive⟩
      rw [reassessTile, if_neg (not_not_intro hown), if_neg hlive, reassessedOwner, if_pos hc]
      cases rivalOwnerIds.find? (fun rivalId =>
          decide (rivalId ≠ deactivatedAnchor.ownerId)
            && decide (key ∈ rivalLiveReachFor rivalId)) with
      | none => exact InsertionMap.get_erase st.1 key k
      | some rivalId => exact InsertionMap.get_set st.1 key k rivalId
  · have hc : ¬ (st.1.get key = some deactivatedAnchor.ownerId ∧ key ∉ ownerLiveReach) :=
      fun h => hown h.1
    rw [reassessTile, if_pos hown, reassessedOwner, if_neg hc]
    exact hkeep _ rfl

theorem reassessedOwner_idem (key : TileKey W) (existing : Option PlayerId) :
    reassessedOwner deactivatedAnchor ownerLiveReach rivalLiveReachFor rivalOwnerIds key
        (reassessedOwner deactivatedAnchor ownerLiveReach rivalLiveReachFor rivalOwnerIds key
          existing)
      = reassessedOwner deactivatedAnchor ownerLiveReach rivalLiveReachFor rivalOwnerIds key
          existing := by
  by_cases h : existing = some deactivatedAnchor.ownerId ∧ key ∉ ownerLiveReach
  · simp only [reassessedOwner, if_pos h]
    -- the rival found is not the owner, so the second pass leaves it
    rw [if_neg]
    rintro ⟨hf, _⟩
    have := List.find?_some hf
    simp at this
  · simp only [reassessedOwner, if_neg h]

/-- **The deactivation, tile by tile.** -/
theorem reassessBorderOnAnchorDeactivationInPlace_get (next : ReachBorder W)
    (landConnectivity : Option (LandConnectivityQuery W)) (k : TileKey W) :
    (reassessBorderOnAnchorDeactivationInPlace next deactivatedAnchor ownerLiveReach
        rivalLiveReachFor rivalOwnerIds landConnectivity).1.get k
      = if k ∈ tileKeysInReach deactivatedAnchor landConnectivity
        then reassessedOwner deactivatedAnchor ownerLiveReach rivalLiveReachFor rivalOwnerIds
          k (next.get k)
        else next.get k :=
  Pointwise.foldl_read (fun st k => st.1.get k)
    (fun st key k => reassessTile_get deactivatedAnchor ownerLiveReach rivalLiveReachFor
      rivalOwnerIds st key k)
    (reassessedOwner_idem deactivatedAnchor ownerLiveReach rivalLiveReachFor rivalOwnerIds)
    _ (next, []) k

end Reassess

end BorderEmpires
