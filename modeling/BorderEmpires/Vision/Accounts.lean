/-
  BorderEmpires.Vision.Accounts
  **EVERY REFCOUNT IS A COUNT OF CURRENT SOURCES.**

  A source's contribution to a cell is the number of its footprints and
  bonus rings over it.  What a viewer holds is `Broadcast.received`: the
  sum of its own contribution and its current allies'.

  An alliance change made with no callbacks leaves the bonus rings of both
  sides out (`alliance_without_callbacks_drops_ring`).
-/
import BorderEmpires.Lib.Broadcast
import BorderEmpires.Lib.Pointwise
import BorderEmpires.Lib.Run
import BorderEmpires.Vision.Tracker

namespace BorderEmpires.Vision

variable {W : WorldSize} (footprint : TileKey W → Nat → List (TileKey W))

/-! ## §1. Contributions. -/

/-- What one owned tile contributes to `cell` for `p`, `radius` being the
full radius of `p`. -/
def tileShare (p : PlayerId) (radius : Nat) (cell key : TileKey W) (o : TileOwnership) : Nat :=
  if o.ownerId = some p then
    (footprint key (if o.ownershipState = some .FRONTIER then FRONTIER_STANDING_VISION_RADIUS
      else radius)).count cell
  else 0

/-- What a list of footprints contributes to `cell`. -/
def footprintsShare (keys : List (TileKey W)) (radius : Nat) (cell : TileKey W) : Nat :=
  ((keys.map (fun key => footprint key radius)).map (fun cells => cells.count cell)).sum

/-- What the rings of one table contribute to `cell`. -/
def ringShare (rings : InsertionMap (TileKey W) Nat) (cell : TileKey W) : Nat :=
  rings.total (fun key radius => (footprint key radius).count cell)

/-- What all rings of `p` contribute to `cell`. -/
def bonusShare (t : VisibilityCoverageTracker W) (p : PlayerId) (cell : TileKey W) : Nat :=
  ringShare footprint (t.ringsOf .town p) cell + ringShare footprint (t.ringsOf .outpost p) cell
    + ringShare footprint (t.ringsOf .observatory p) cell

def usedRadius (radii : InsertionMap PlayerId Nat) (p : PlayerId) : Nat := (radii.get p).getD 0

/-- What the territory of `p` contributes to `cell`. -/
def territoryShare (tiles : InsertionMap (TileKey W) TileOwnership) (p : PlayerId) (radius : Nat)
    (cell : TileKey W) : Nat :=
  tiles.total (tileShare footprint p radius cell)

/-- **The contribution of a source to a cell**, zero for a barbarian. -/
def contribution (tiles : InsertionMap (TileKey W) TileOwnership) (t : VisibilityCoverageTracker W)
    (cell : TileKey W) (p : PlayerId) : Nat :=
  if p.isBarbarian then 0
  else territoryShare footprint tiles p (usedRadius t.radiusBySource p) cell
    + bonusShare footprint t p cell

variable (t : VisibilityCoverageTracker W) {s : VisionState W}
  {tiles : InsertionMap (TileKey W) TileOwnership} {p : PlayerId}

theorem contribution_barbarian (hp : p.isBarbarian = true)
    (tiles : InsertionMap (TileKey W) TileOwnership) (t : VisibilityCoverageTracker W)
    (cell : TileKey W) : contribution footprint tiles t cell p = 0 := by
  unfold contribution
  rw [if_pos hp]

theorem contribution_player (hp : p.isBarbarian = false)
    (tiles : InsertionMap (TileKey W) TileOwnership) (t : VisibilityCoverageTracker W)
    (cell : TileKey W) :
    contribution footprint tiles t cell p
      = territoryShare footprint tiles p (usedRadius t.radiusBySource p) cell
        + bonusShare footprint t p cell := by
  unfold contribution
  rw [if_neg (by simp [hp])]

/-- The territory is its settled part at the full radius and its FRONTIER
part at the flat one. -/
theorem territoryShare_split (tiles : InsertionMap (TileKey W) TileOwnership) (p : PlayerId)
    (radius : Nat) (cell : TileKey W) :
    territoryShare footprint tiles p radius cell
      = footprintsShare footprint (settledTileKeysForPlayer tiles p) radius cell
        + footprintsShare footprint (frontierTileKeysForPlayer tiles p)
            FRONTIER_STANDING_VISION_RADIUS cell := by
  unfold territoryShare InsertionMap.total footprintsShare settledTileKeysForPlayer
    frontierTileKeysForPlayer
  induction tiles.entries with
  | nil => rfl
  | cons e l ih =>
      rw [List.map_cons, List.sum_cons, ih]
      -- the tile is counted on the side its state puts it on
      by_cases howner : e.2.ownerId = some p
      · by_cases hstate : e.2.ownershipState = some .FRONTIER
        · simp [tileShare, howner, hstate]
          omega
        · simp [tileShare, howner, hstate]
          omega
      · simp [tileShare, howner]

/-- A player that has settled ground has a radius on record. -/
def RadiusKnown (tiles : InsertionMap (TileKey W) TileOwnership)
    (radii : InsertionMap PlayerId Nat) : Prop :=
  ∀ key o p, tiles.get key = some o → o.ownerId = some p → p.isBarbarian = false →
    o.ownershipState ≠ some .FRONTIER → (radii.get p).isSome = true

def Extends (radii' radii : InsertionMap PlayerId Nat) : Prop :=
  ∀ p r, radii.get p = some r → radii'.get p = some r

theorem Extends.refl (radii : InsertionMap PlayerId Nat) : Extends radii radii := fun _ _ h => h

theorem Extends.trans {a b c : InsertionMap PlayerId Nat} (h : Extends b a) (h' : Extends c b) :
    Extends c a :=
  fun p r hr => h' p r (h p r hr)

theorem Extends.used {radii' radii : InsertionMap PlayerId Nat} (h : Extends radii' radii)
    (hp : (radii.get p).isSome = true) : usedRadius radii' p = usedRadius radii p := by
  obtain ⟨r, hr⟩ := Option.isSome_iff_exists.mp hp
  unfold usedRadius
  rw [hr, h p r hr]

theorem tileShare_extends {radii radii' : InsertionMap PlayerId Nat}
    (hknown : RadiusKnown tiles radii) (hext : Extends radii' radii) (hp : p.isBarbarian = false)
    {key : TileKey W} {o : TileOwnership} (hkey : tiles.get key = some o) (cell : TileKey W) :
    tileShare footprint p (usedRadius radii' p) cell key o
      = tileShare footprint p (usedRadius radii p) cell key o := by
  unfold tileShare
  by_cases howner : o.ownerId = some p
  · by_cases hstate : o.ownershipState = some .FRONTIER
    · rw [if_pos howner, if_pos howner, if_pos hstate, if_pos hstate]
    · rw [if_neg hstate, if_neg hstate, hext.used (hknown key o p hkey howner hp hstate)]
  · rw [if_neg howner, if_neg howner]

theorem territoryShare_extends {radii radii' : InsertionMap PlayerId Nat}
    (hknown : RadiusKnown tiles radii) (hext : Extends radii' radii) (hp : p.isBarbarian = false)
    (cell : TileKey W) :
    territoryShare footprint tiles p (usedRadius radii' p) cell
      = territoryShare footprint tiles p (usedRadius radii p) cell := by
  apply InsertionMap.total_congr
  intro key o hmem
  exact tileShare_extends footprint hknown hext hp ((tiles.mem_entries_iff key o).mp hmem) cell

/-! ## §2. The invariant. -/

theorem AllianceTable.mutual (table : AllianceTable) : Broadcast.Mutual table.alliesOf where
  nodup := table.nodup_alliesOf
  irrefl := table.notMem_alliesOf_self
  symm := fun _ _ h => AllianceTable.mem_alliesOf_symm h

/-- **Every refcount of a viewer is the sum of the contributions of itself
and its current allies.** -/
structure Accounted (s : VisionState W) : Prop where
  known : RadiusKnown s.tiles s.tracker.radiusBySource
  counts : ∀ v, v.isBarbarian = false → ∀ cell,
    s.tracker.cache.refcount v cell
      = Broadcast.received s.alliances.alliesOf
          (contribution footprint s.tiles s.tracker cell) v

theorem boot_accounted (alliances : AllianceTable) :
    Accounted footprint (VisionState.boot (W := W) alliances) where
  known := by
    intro key o p h
    cases h
  counts := by
    intro v _ cell
    show 0 = _
    have hzero : ∀ p, contribution footprint (VisionState.boot (W := W) alliances).tiles
        (VisionState.boot (W := W) alliances).tracker cell p = 0 := by
      intro p
      unfold contribution
      split <;> rfl
    rw [Broadcast.received_congr hzero]
    unfold Broadcast.received
    simp

/-! ## §3. Loops over the viewers of a source. -/

section loops

variable {friends : PlayerId → List PlayerId} {deps : VisibilityCoverageTrackerDeps W}
  (hfriends : deps.alliesOf = friends)

include hfriends in
theorem viewersForSource_eq {p : PlayerId} (hp : p.isBarbarian = false) :
    VisibilityCoverageTracker.viewersForSource deps p = Broadcast.audience friends p := by
  unfold VisibilityCoverageTracker.viewersForSource Broadcast.audience
  rw [if_neg (by simp [hp]), hfriends]

/-- A loop over viewers whose body takes `old` from and gives `new` to the
viewer in hand does so to every viewer it lists. -/
theorem refcount_foldl_viewers {body : VisibilityCoverageCache W → PlayerId →
    VisibilityCoverageCache W} {cell : TileKey W} {old new : Nat}
    (hbody : ∀ cache u v, (body cache u).refcount v cell
      = if u = v then cache.refcount v cell - old + new else cache.refcount v cell)
    {viewers : List PlayerId} (hnodup : viewers.Nodup) (cache : VisibilityCoverageCache W)
    (v : PlayerId) :
    (viewers.foldl body cache).refcount v cell
      = if v ∈ viewers then cache.refcount v cell - old + new else cache.refcount v cell := by
  apply Pointwise.foldl_read_nodup (fun (c : VisibilityCoverageCache W) u => c.refcount u cell)
    (f := fun _ n => n - old + new) _ hnodup cache v
  intro c u w
  by_cases huw : u = w
  · subst huw
    rw [if_pos rfl]
    exact (hbody c u u).trans (if_pos rfl)
  · rw [if_neg huw]
    exact (hbody c u w).trans (if_neg huw)

theorem refcount_foldl_remove {viewers : List PlayerId} (hnodup : viewers.Nodup)
    (cells : List (TileKey W)) (onLeave : Bool) (cache : VisibilityCoverageCache W)
    (v : PlayerId) (cell : TileKey W) :
    (viewers.foldl (fun c u => c.removeFootprint u cells onLeave) cache).refcount v cell
      = if v ∈ viewers then cache.refcount v cell - cells.count cell + 0
        else cache.refcount v cell := by
  apply refcount_foldl_viewers _ hnodup
  intro c u w
  rw [VisibilityCoverageCache.refcount_removeFootprint]
  split <;> omega

theorem refcount_foldl_add {viewers : List PlayerId} (hnodup : viewers.Nodup)
    (cells : List (TileKey W)) (onEnter : Bool) (cache : VisibilityCoverageCache W)
    (v : PlayerId) (cell : TileKey W) :
    (viewers.foldl (fun c u => c.addFootprint u cells onEnter) cache).refcount v cell
      = if v ∈ viewers then cache.refcount v cell - 0 + cells.count cell
        else cache.refcount v cell := by
  apply refcount_foldl_viewers _ hnodup
  intro c u w
  rw [VisibilityCoverageCache.refcount_addFootprint]
  split <;> omega

end loops

/-! ## §4. Radii on record. -/

theorem radiusForSource_spec (deps : VisibilityCoverageTrackerDeps W) (p : PlayerId) :
    (t.radiusForSource deps p).2.cache = t.cache
      ∧ (t.radiusForSource deps p).2.bonusRadii = t.bonusRadii
      ∧ Extends (t.radiusForSource deps p).2.radiusBySource t.radiusBySource
      ∧ (t.radiusForSource deps p).2.radiusBySource.get p = some (t.radiusForSource deps p).1 := by
  unfold VisibilityCoverageTracker.radiusForSource
  cases h : t.radiusBySource.get p with
  | some radius => exact ⟨rfl, rfl, Extends.refl _, h⟩
  | none =>
      refine ⟨rfl, rfl, ?_, InsertionMap.get_set_self _ _ _⟩
      intro q r hq
      show (t.radiusBySource.set p _).get q = some r
      rw [InsertionMap.get_set_ne]
      · exact hq
      · intro hpq
        rw [hpq, hq] at h
        cases h

theorem territoryRadius_spec (deps : VisibilityCoverageTrackerDeps W) (p : PlayerId)
    (state : Option OwnershipState) :
    (t.territoryRadius deps p state).2.cache = t.cache
      ∧ (t.territoryRadius deps p state).2.bonusRadii = t.bonusRadii
      ∧ Extends (t.territoryRadius deps p state).2.radiusBySource t.radiusBySource
      ∧ (t.territoryRadius deps p state).1
          = (if state = some .FRONTIER then FRONTIER_STANDING_VISION_RADIUS
            else usedRadius (t.territoryRadius deps p state).2.radiusBySource p)
      ∧ (state ≠ some .FRONTIER →
          ((t.territoryRadius deps p state).2.radiusBySource.get p).isSome = true) := by
  unfold VisibilityCoverageTracker.territoryRadius
  by_cases hstate : state = some .FRONTIER
  · rw [if_pos hstate, if_pos hstate]
    exact ⟨rfl, rfl, Extends.refl _, rfl, fun h => absurd hstate h⟩
  · rw [if_neg hstate, if_neg hstate]
    obtain ⟨hcache, hbonus, hext, hget⟩ := radiusForSource_spec t deps p
    refine ⟨hcache, hbonus, hext, ?_, fun _ => ?_⟩
    · unfold usedRadius
      rw [hget, Option.getD_some]
    · rw [hget]
      rfl

/-! ## §5. A tile changes hands. -/

section tileChange

variable {friends : PlayerId → List PlayerId} (hmutual : Broadcast.Mutual friends)
  {deps : VisibilityCoverageTrackerDeps W} (hfriends : deps.alliesOf = friends)

include hmutual hfriends in
/-- **The previous owner's footprint is taken back** from everyone who
held it. -/
theorem cancelPrevious_counts {tiles : InsertionMap (TileKey W) TileOwnership}
    {t : VisibilityCoverageTracker W} (hknown : RadiusKnown tiles t.radiusBySource)
    {c : PlayerId → Nat} {cell : TileKey W}
    (hcounts : ∀ v, v.isBarbarian = false →
      t.cache.refcount v cell = Broadcast.received friends c v)
    (key : TileKey W) (callbacks : VisibilityTransitionCallbacks)
    (hle : ∀ p, p.isBarbarian = false →
      tiles.share (tileShare footprint p (usedRadius t.radiusBySource p) cell) key ≤ c p) :
    ∃ cache, t.cancelPrevious footprint deps (tiles.get key) key callbacks
        = { t with cache := cache }
      ∧ ∀ v, v.isBarbarian = false → cache.refcount v cell = Broadcast.received friends
          (fun p => if p.isBarbarian then c p else c p
            - tiles.share (tileShare footprint p (usedRadius t.radiusBySource p) cell) key) v := by
  -- without a player to take from, the contributions stay what they are
  have hnobody : (∀ p, p.isBarbarian = false →
      tiles.share (tileShare footprint p (usedRadius t.radiusBySource p) cell) key = 0) →
      ∀ v, v.isBarbarian = false → t.cache.refcount v cell = Broadcast.received friends
          (fun p => if p.isBarbarian then c p else c p
            - tiles.share (tileShare footprint p (usedRadius t.radiusBySource p) cell) key) v := by
    intro hzero v hv
    rw [hcounts v hv]
    apply Broadcast.received_congr
    intro p
    cases hp : p.isBarbarian with
    | true => simp
    | false => simp [hzero p hp]
  unfold VisibilityCoverageTracker.cancelPrevious
  cases hprevious : tiles.get key with
  | none =>
      refine ⟨t.cache, rfl, hnobody ?_⟩
      intro p _
      unfold InsertionMap.share
      rw [hprevious]
      rfl
  | some o =>
      have hshare : ∀ p, tiles.share (tileShare footprint p (usedRadius t.radiusBySource p) cell) key
          = tileShare footprint p (usedRadius t.radiusBySource p) cell key o := by
        intro p
        unfold InsertionMap.share
        rw [hprevious]
        rfl
      dsimp only [Option.bind_some]
      cases howner : o.ownerId with
      | none =>
          refine ⟨t.cache, rfl, hnobody ?_⟩
          intro p _
          rw [hshare]
          unfold tileShare
          rw [if_neg (by rw [howner]; intro h; cases h)]
      | some ownerId =>
          dsimp only
          cases hbarb : ownerId.isBarbarian with
          | true =>
              rw [if_pos rfl]
              refine ⟨t.cache, rfl, hnobody ?_⟩
              intro p hp
              rw [hshare]
              unfold tileShare
              rw [if_neg]
              rw [howner]
              rintro ⟨rfl⟩
              rw [hbarb] at hp
              cases hp
          | false =>
              rw [if_neg (by simp)]
              -- the radius used is the one the tile was added with
              obtain ⟨hcache, hbonus, hext, hradius, _⟩ :=
                territoryRadius_spec t deps ownerId o.ownershipState
              have hsame : t.territoryRadius deps ownerId o.ownershipState
                  = (if o.ownershipState = some .FRONTIER then FRONTIER_STANDING_VISION_RADIUS
                    else usedRadius t.radiusBySource ownerId, t) := by
                unfold VisibilityCoverageTracker.territoryRadius
                by_cases hstate : o.ownershipState = some .FRONTIER
                · rw [if_pos hstate, if_pos hstate]
                · obtain ⟨r, hr⟩ := Option.isSome_iff_exists.mp
                    (hknown key o ownerId hprevious howner hbarb hstate)
                  rw [if_neg hstate, if_neg hstate]
                  unfold VisibilityCoverageTracker.radiusForSource usedRadius
                  rw [hr]
                  rfl
              rw [hsame]
              refine ⟨_, rfl, ?_⟩
              intro v hv
              rw [viewersForSource_eq hfriends hbarb,
                refcount_foldl_remove (hmutual.nodup_audience ownerId)]
              have hheld : tileShare footprint ownerId (usedRadius t.radiusBySource ownerId) cell
                  key o = (footprint key (if o.ownershipState = some .FRONTIER then
                    FRONTIER_STANDING_VISION_RADIUS
                    else usedRadius t.radiusBySource ownerId)).count cell := by
                unfold tileShare
                rw [if_pos howner]
              have hpart := hle ownerId hbarb
              rw [hshare] at hpart
              rw [← hheld]
              apply Broadcast.received_move hmutual _ hpart _ (hcounts v hv)
              · simp only [hbarb, hshare]
                simp
                omega
              · intro q hq
                cases hqb : q.isBarbarian with
                | true => simp
                | false =>
                    have hzero : tileShare footprint q (usedRadius t.radiusBySource q) cell key o
                        = 0 := by
                      unfold tileShare
                      rw [if_neg]
                      rw [howner]
                      rintro ⟨rfl⟩
                      exact hq rfl
                    simp [hshare, hzero]

include hmutual hfriends in
/-- **The next owner's footprint is given** to everyone who sees through
it. -/
theorem applyNext_counts {t : VisibilityCoverageTracker W} {c : PlayerId → Nat}
    {cell : TileKey W}
    (hcounts : ∀ v, v.isBarbarian = false →
      t.cache.refcount v cell = Broadcast.received friends c v)
    (next : TileOwnership) (key : TileKey W) (callbacks : VisibilityTransitionCallbacks) :
    (t.applyNext footprint deps next key callbacks).bonusRadii = t.bonusRadii
      ∧ Extends (t.applyNext footprint deps next key callbacks).radiusBySource t.radiusBySource
      ∧ (∀ p, next.ownerId = some p → p.isBarbarian = false →
          next.ownershipState ≠ some .FRONTIER →
          ((t.applyNext footprint deps next key callbacks).radiusBySource.get p).isSome = true)
      ∧ ∀ v, v.isBarbarian = false →
          (t.applyNext footprint deps next key callbacks).cache.refcount v cell
            = Broadcast.received friends
                (fun p => if p.isBarbarian then c p else c p
                  + tileShare footprint p (usedRadius
                      (t.applyNext footprint deps next key callbacks).radiusBySource p)
                      cell key next) v := by
  -- nobody gains from a tile that no player owns
  have hnobody : ∀ radii : InsertionMap PlayerId Nat,
      (∀ p, next.ownerId = some p → p.isBarbarian = true) →
      ∀ v, v.isBarbarian = false → t.cache.refcount v cell = Broadcast.received friends
        (fun p => if p.isBarbarian then c p else c p
          + tileShare footprint p (usedRadius radii p) cell key next) v := by
    intro radii hnone v hv
    rw [hcounts v hv]
    apply Broadcast.received_congr
    intro p
    cases hp : p.isBarbarian with
    | true => simp
    | false =>
        have hzero : tileShare footprint p (usedRadius radii p) cell key next = 0 := by
          unfold tileShare
          rw [if_neg]
          intro howner
          rw [hnone p howner] at hp
          cases hp
        simp [hzero]
  unfold VisibilityCoverageTracker.applyNext
  cases howner : next.ownerId with
  | none =>
      refine ⟨rfl, Extends.refl _, ?_, ?_⟩
      · intro p h
        cases h
      · apply hnobody
        intro p h
        rw [howner] at h
        cases h
  | some ownerId =>
      dsimp only
      cases hbarb : ownerId.isBarbarian with
      | true =>
          rw [if_pos rfl]
          refine ⟨rfl, Extends.refl _, ?_, ?_⟩
          · rintro p ⟨rfl⟩ hp
            rw [hbarb] at hp
            cases hp
          · apply hnobody
            intro p h
            rw [howner] at h
            injection h with h
            rw [← h]
            exact hbarb
      | false =>
          rw [if_neg (by simp)]
          obtain ⟨hcache, hbonus, hext, hradius, hsome⟩ :=
            territoryRadius_spec t deps ownerId next.ownershipState
          refine ⟨hbonus, hext, ?_, ?_⟩
          · rintro p ⟨rfl⟩ _ hstate
            exact hsome hstate
          · intro v hv
            dsimp only
            rw [viewersForSource_eq hfriends hbarb,
              refcount_foldl_add (hmutual.nodup_audience ownerId), hcache]
            apply Broadcast.received_move hmutual _ (Nat.zero_le _) _ (hcounts v hv)
            · simp only [hbarb]
              unfold tileShare
              rw [if_pos howner, ← hradius]
              simp
            · intro q hq
              cases hqb : q.isBarbarian with
              | true => simp
              | false =>
                  have hzero : ∀ r, tileShare footprint q r cell key next = 0 := by
                    intro r
                    unfold tileShare
                    rw [if_neg]
                    rw [howner]
                    rintro ⟨rfl⟩
                    exact hq rfl
                  simp [hzero]

end tileChange

theorem bonusShare_congr {t t' : VisibilityCoverageTracker W}
    (h : t'.bonusRadii = t.bonusRadii) (p : PlayerId) (cell : TileKey W) :
    bonusShare footprint t' p cell = bonusShare footprint t p cell := by
  unfold bonusShare VisibilityCoverageTracker.ringsOf
  rw [h]

theorem share_le_contribution (tiles : InsertionMap (TileKey W) TileOwnership)
    (t : VisibilityCoverageTracker W) (cell key : TileKey W) (hp : p.isBarbarian = false) :
    tiles.share (tileShare footprint p (usedRadius t.radiusBySource p) cell) key
      ≤ contribution footprint tiles t cell p := by
  have herase := tiles.total_erase key (tileShare footprint p (usedRadius t.radiusBySource p) cell)
  rw [contribution_player footprint hp]
  unfold territoryShare
  omega

/-- **A tile write keeps the accounts**, whoever owned the tile before and
whoever owns it now. -/
theorem replaceTileState_accounted (h : Accounted footprint s) (key : TileKey W)
    (next : TileOwnership) (callbacks : VisibilityTransitionCallbacks)
    (visionRadiusForPlayer : PlayerId → Nat) :
    Accounted footprint
      (s.replaceTileState footprint key next callbacks visionRadiusForPlayer) := by
  unfold VisionState.replaceTileState
  dsimp only
  split
  next _ =>
    set t := s.tracker with ht
    set deps := (VisionState.mk s.alliances (s.tiles.set key next) t).deps visionRadiusForPlayer
      with hdeps
    have hfriends : deps.alliesOf = s.alliances.alliesOf := rfl
    have hmutual := s.alliances.mutual
    -- the radii and rings after the call do not depend on the cell looked at
    have hcell : ∀ cell, ∃ cache,
        t.cancelPrevious footprint deps (s.tiles.get key) key callbacks = { t with cache := cache }
        ∧ ∀ v, v.isBarbarian = false → cache.refcount v cell
            = Broadcast.received s.alliances.alliesOf
                (fun p => if p.isBarbarian then contribution footprint s.tiles t cell p
                  else contribution footprint s.tiles t cell p
                    - s.tiles.share (tileShare footprint p (usedRadius t.radiusBySource p) cell)
                      key) v := fun cell =>
      cancelPrevious_counts footprint hmutual hfriends h.known
        (fun v hv => h.counts v hv cell) key callbacks
        (fun p hp => share_le_contribution footprint s.tiles t cell key hp)
    constructor
    · -- settled ground has its owner's radius on record
      obtain ⟨cache, hcancel, hcounts⟩ := hcell key
      obtain ⟨hbonus, hext, hnew, _⟩ := applyNext_counts footprint hmutual hfriends
        (t := { t with cache := cache }) hcounts next key callbacks
      show RadiusKnown (s.tiles.set key next)
        (t.tileOwnershipChanged footprint deps (s.tiles.get key) next key callbacks).radiusBySource
      unfold VisibilityCoverageTracker.tileOwnershipChanged
      rw [hcancel]
      intro key' o p hget howner hp hstate
      rw [InsertionMap.get_set] at hget
      split at hget
      · injection hget with hget
        subst hget
        exact hnew p howner hp hstate
      · obtain ⟨r, hr⟩ := Option.isSome_iff_exists.mp (h.known key' o p hget howner hp hstate)
        rw [hext p r hr]
        rfl
    · intro v hv cell
      obtain ⟨cache, hcancel, hcounts⟩ := hcell cell
      obtain ⟨hbonus, hext, _, hafter⟩ := applyNext_counts footprint hmutual hfriends
        (t := { t with cache := cache }) hcounts next key callbacks
      show (t.tileOwnershipChanged footprint deps (s.tiles.get key) next key
          callbacks).cache.refcount v cell
        = Broadcast.received s.alliances.alliesOf
            (contribution footprint (s.tiles.set key next)
              (t.tileOwnershipChanged footprint deps (s.tiles.get key) next key callbacks) cell) v
      unfold VisibilityCoverageTracker.tileOwnershipChanged
      rw [hcancel, hafter v hv]
      apply Broadcast.received_congr
      intro p
      set t' := ({ t with cache := cache } : VisibilityCoverageTracker W).applyNext footprint deps
        next key callbacks with ht'
      cases hp : p.isBarbarian with
      | true =>
          rw [if_pos rfl, if_pos rfl, contribution_barbarian footprint hp,
            contribution_barbarian footprint hp]
      | false =>
          -- the tile's old share goes, its new share comes, the rest stays
          have hshare := share_le_contribution footprint s.tiles t cell key hp
          have hwrite := s.tiles.total_set key next
            (tileShare footprint p (usedRadius t'.radiusBySource p) cell)
          have hrest : territoryShare footprint s.tiles p (usedRadius t'.radiusBySource p) cell
              = territoryShare footprint s.tiles p (usedRadius t.radiusBySource p) cell :=
            territoryShare_extends footprint h.known hext hp cell
          have hold : s.tiles.share (tileShare footprint p (usedRadius t'.radiusBySource p) cell) key
              = s.tiles.share (tileShare footprint p (usedRadius t.radiusBySource p) cell) key := by
            unfold InsertionMap.share
            cases hget : s.tiles.get key with
            | none => rfl
            | some o =>
                exact tileShare_extends footprint h.known hext hp hget cell
          have hrings : bonusShare footprint t' p cell = bonusShare footprint t p cell :=
            bonusShare_congr footprint hbonus p cell
          rw [contribution_player footprint hp] at hshare ⊢
          rw [contribution_player footprint hp]
          simp only [Bool.false_eq_true, if_false]
          unfold territoryShare at *
          omega
  next hsame =>
    -- same owner, same state: the tile is what it was
    rw [not_or, not_not, not_not] at hsame
    obtain ⟨⟨hsome, howner⟩, hstate⟩ := hsame
    have hget : s.tiles.get key = some next := by
      cases hprevious : s.tiles.get key with
      | none =>
          rw [hprevious] at hsome
          cases hsome
      | some o =>
          rw [hprevious] at howner hstate
          cases o
          cases next
          exact congrArg some (TileOwnership.mk.injEq .. |>.mpr ⟨howner, hstate⟩)
    constructor
    · intro key' o p hget' howner' hp hstate'
      refine h.known key' o p ?_ howner' hp hstate'
      have hread : (s.tiles.set key next).get key' = some o := hget'
      rw [InsertionMap.get_set] at hread
      split at hread
      next hkey => rw [← hkey, hget]; exact hread
      next _ => exact hread
    · intro v hv cell
      show s.tracker.cache.refcount v cell = Broadcast.received s.alliances.alliesOf
        (contribution footprint (s.tiles.set key next) s.tracker cell) v
      rw [h.counts v hv cell]
      apply Broadcast.received_congr
      intro p
      unfold contribution
      split
      · rfl
      congr 1
      unfold territoryShare
      have hwrite := s.tiles.total_set key next
        (tileShare footprint p (usedRadius s.tracker.radiusBySource p) cell)
      unfold InsertionMap.share at hwrite
      rw [hget, Option.map_some, Option.getD_some] at hwrite
      omega

/-! ## §6. A vision radius changes. -/

theorem settledTileKeys_nil {radii : InsertionMap PlayerId Nat} (hknown : RadiusKnown tiles radii)
    (hp : p.isBarbarian = false) (hnone : radii.get p = none) :
    settledTileKeysForPlayer tiles p = [] := by
  apply List.eq_nil_iff_forall_not_mem.mpr
  intro key hkey
  unfold settledTileKeysForPlayer at hkey
  obtain ⟨e, he, rfl⟩ := List.mem_map.mp hkey
  rw [List.mem_filter, decide_eq_true_eq] at he
  have hsome := hknown e.1 e.2 p ((tiles.mem_entries_iff e.1 e.2).mp he.1) he.2.1 hp he.2.2
  rw [hnone] at hsome
  cases hsome

theorem footprintsShare_nil (radius : Nat) (cell : TileKey W) :
    footprintsShare footprint [] radius cell = 0 := rfl

theorem refcount_foldl_removeSource {viewers : List PlayerId} (hnodup : viewers.Nodup)
    (keys : List (TileKey W)) (radius : Nat) (onLeave : Bool)
    (cache : VisibilityCoverageCache W) (v : PlayerId) (cell : TileKey W) :
    (viewers.foldl (fun c u => c.removeSourceContribution u
        (keys.map (fun key => footprint key radius)) onLeave) cache).refcount v cell
      = if v ∈ viewers then cache.refcount v cell - footprintsShare footprint keys radius cell + 0
        else cache.refcount v cell := by
  apply refcount_foldl_viewers _ hnodup
  intro c u w
  rw [VisibilityCoverageCache.refcount_removeSourceContribution]
  unfold footprintsShare
  split <;> omega

theorem refcount_foldl_addSource {viewers : List PlayerId} (hnodup : viewers.Nodup)
    (keys : List (TileKey W)) (radius : Nat) (onEnter : Bool)
    (cache : VisibilityCoverageCache W) (v : PlayerId) (cell : TileKey W) :
    (viewers.foldl (fun c u => c.addSourceContribution u
        (keys.map (fun key => footprint key radius)) onEnter) cache).refcount v cell
      = if v ∈ viewers then cache.refcount v cell - 0 + footprintsShare footprint keys radius cell
        else cache.refcount v cell := by
  apply refcount_foldl_viewers _ hnodup
  intro c u w
  rw [VisibilityCoverageCache.refcount_addSourceContribution]
  unfold footprintsShare
  split <;> omega

/-- **A resync keeps the accounts**: the settled ground moves from the old
radius to the new one, the FRONTIER claims and the rings stay. -/
theorem resyncVisionRadius_accounted (h : Accounted footprint s) (p : PlayerId)
    (callbacks : VisibilityTransitionCallbacks) (visionRadiusForPlayer : PlayerId → Nat) :
    Accounted footprint { s with
      tracker := s.tracker.resyncVisionRadius footprint (s.deps visionRadiusForPlayer) p
        callbacks } := by
  set deps := s.deps visionRadiusForPlayer with hdeps
  set newRadius := deps.visionRadiusForPlayer p with hnew
  by_cases hkeep : s.tracker.radiusBySource.get p = some newRadius
  · have hsame : s.tracker.resyncVisionRadius footprint deps p callbacks
        = s.tracker := by
      unfold VisibilityCoverageTracker.resyncVisionRadius
      dsimp only
      exact if_pos hkeep
    rw [hsame]
    exact h
  · set t := s.tracker with ht
    set t' := t.resyncVisionRadius footprint deps p callbacks with ht'
    have hradii : t'.radiusBySource = t.radiusBySource.set p newRadius := by
      rw [ht']
      unfold VisibilityCoverageTracker.resyncVisionRadius
      dsimp only
      rw [← hnew, if_neg hkeep]
    have hbonus : t'.bonusRadii = t.bonusRadii := by
      rw [ht']
      unfold VisibilityCoverageTracker.resyncVisionRadius
      dsimp only
      rw [← hnew, if_neg hkeep]
    have hother : ∀ q, q ≠ p →
        usedRadius t'.radiusBySource q = usedRadius t.radiusBySource q := by
      intro q hq
      unfold usedRadius
      rw [hradii, InsertionMap.get_set_ne _ (fun hpq => hq hpq.symm)]
    have hown : usedRadius t'.radiusBySource p = newRadius := by
      unfold usedRadius
      rw [hradii, InsertionMap.get_set_self, Option.getD_some]
    have hsame : ∀ cell q, q ≠ p → contribution footprint s.tiles t' cell q
        = contribution footprint s.tiles t cell q := by
      intro cell q hq
      unfold contribution
      rw [hother q hq, bonusShare_congr footprint hbonus]
    constructor
    · intro key o q hget howner hq hstate
      show (t'.radiusBySource.get q).isSome = true
      rw [hradii, InsertionMap.get_set]
      split
      · rfl
      · exact h.known key o q hget howner hq hstate
    · intro v hv cell
      show t'.cache.refcount v cell = Broadcast.received s.alliances.alliesOf
        (contribution footprint s.tiles t' cell) v
      cases hp : p.isBarbarian with
      | true =>
          -- nobody looks through a barbarian
          have hcache : t'.cache = t.cache := by
            rw [ht']
            unfold VisibilityCoverageTracker.resyncVisionRadius
              VisibilityCoverageTracker.viewersForSource
            dsimp only
            rw [← hnew, if_neg hkeep, if_pos hp]
            dsimp only [List.foldl_nil]
            cases t.radiusBySource.get p <;> rfl
          rw [hcache, h.counts v hv cell]
          apply Broadcast.received_congr
          intro q
          by_cases hq : q = p
          · rw [hq, contribution_barbarian footprint hp, contribution_barbarian footprint hp]
          · exact (hsame cell q hq).symm
      | false =>
          set settled := settledTileKeysForPlayer s.tiles p with hsettled
          set old := footprintsShare footprint settled (usedRadius t.radiusBySource p) cell with hold
          have hsplit : ∀ radius, territoryShare footprint s.tiles p radius cell
              = footprintsShare footprint settled radius cell
                + footprintsShare footprint (frontierTileKeysForPlayer s.tiles p)
                    FRONTIER_STANDING_VISION_RADIUS cell :=
            fun radius => territoryShare_split footprint s.tiles p radius cell
          have hrefcount : t'.cache.refcount v cell
              = if v ∈ Broadcast.audience s.alliances.alliesOf p then t.cache.refcount v cell - old
                  + footprintsShare footprint settled newRadius cell
                else t.cache.refcount v cell := by
            have hnodup := s.alliances.mutual.nodup_audience p
            have hviewers : VisibilityCoverageTracker.viewersForSource
                deps p
                = Broadcast.audience s.alliances.alliesOf p := viewersForSource_eq rfl hp
            rw [ht']
            unfold VisibilityCoverageTracker.resyncVisionRadius
            dsimp only
            rw [← hnew, if_neg hkeep]
            dsimp only
            rw [hviewers]
            cases hradius : t.radiusBySource.get p with
            | none =>
                -- never seen before: no settled ground, nothing to move
                have hnil : settled = [] := settledTileKeys_nil h.known hp hradius
                rw [refcount_foldl_addSource footprint hnodup]
                show (if _ then _ - 0 + footprintsShare footprint settled newRadius cell else _) = _
                rw [hold, hnil, footprintsShare_nil, footprintsShare_nil]
            | some radius =>
                have hused : usedRadius t.radiusBySource p = radius := by
                  unfold usedRadius
                  rw [hradius, Option.getD_some]
                dsimp only
                rw [refcount_foldl_addSource footprint hnodup,
                  refcount_foldl_removeSource footprint hnodup]
                show (if _ then (if _ then _ - footprintsShare footprint settled radius cell + 0
                  else _) - 0 + footprintsShare footprint settled newRadius cell else _) = _
                rw [hold, hused]
                by_cases hsees : v ∈ Broadcast.audience s.alliances.alliesOf p
                · rw [if_pos hsees, if_pos hsees, if_pos hsees]
                  omega
                · rw [if_neg hsees, if_neg hsees, if_neg hsees]
          rw [hrefcount]
          apply Broadcast.received_move s.alliances.mutual _ _ (hsame cell) (h.counts v hv cell)
          · rw [contribution_player footprint hp, contribution_player footprint hp, hown,
              bonusShare_congr footprint hbonus, hsplit, hsplit]
            omega
          · rw [contribution_player footprint hp, hsplit]
            omega

/-! ## §7. Bonus rings are set and removed. -/

theorem ringsOf_update (kind : BonusKind) (p : PlayerId) (cache : VisibilityCoverageCache W)
    {table : BonusRadiusBySourceAndTile W} {rings : InsertionMap (TileKey W) Nat}
    (hown : (table.get p).getD .empty = rings)
    (hother : ∀ q, q ≠ p → table.get q = (t.bonusRadii kind).get q) (kind' : BonusKind)
    (q : PlayerId) :
    ({ t with cache := cache, bonusRadii := Function.update t.bonusRadii kind table } :
        VisibilityCoverageTracker W).ringsOf kind' q
      = if kind' = kind ∧ q = p then rings else t.ringsOf kind' q := by
  unfold VisibilityCoverageTracker.ringsOf
  dsimp only
  by_cases hkind : kind' = kind
  · subst hkind
    rw [Function.update_self]
    by_cases hq : q = p
    · rw [if_pos ⟨rfl, hq⟩, hq, hown]
    · rw [if_neg (fun hand => hq hand.2), hother q hq]
  · rw [Function.update_of_ne hkind, if_neg (fun hand => hkind hand.1)]

/-- **One ring of one source changes**, and its viewers' counts with it. -/
theorem rings_accounted (h : Accounted footprint s) (hp : p.isBarbarian = false) (kind : BonusKind)
    {table : BonusRadiusBySourceAndTile W} (rings : InsertionMap (TileKey W) Nat)
    (hown : (table.get p).getD .empty = rings)
    (hother : ∀ q, q ≠ p → table.get q = (s.tracker.bonusRadii kind).get q)
    (old new : TileKey W → Nat)
    (hmove : ∀ cell, ringShare footprint rings cell + old cell
      = ringShare footprint (s.tracker.ringsOf kind p) cell + new cell)
    (hle : ∀ cell, old cell ≤ ringShare footprint (s.tracker.ringsOf kind p) cell)
    {cache : VisibilityCoverageCache W}
    (hcache : ∀ v cell, cache.refcount v cell
      = if v ∈ Broadcast.audience s.alliances.alliesOf p
        then s.tracker.cache.refcount v cell - old cell + new cell
        else s.tracker.cache.refcount v cell) :
    Accounted footprint { s with
      tracker := { s.tracker with
        cache := cache
        bonusRadii := Function.update s.tracker.bonusRadii kind table } } := by
  have hrings := ringsOf_update s.tracker kind p cache hown hother
  constructor
  · exact h.known
  · intro v hv cell
    show cache.refcount v cell = Broadcast.received s.alliances.alliesOf _ v
    rw [hcache]
    have hpart : ringShare footprint (s.tracker.ringsOf kind p) cell
        ≤ bonusShare footprint s.tracker p cell := by
      unfold bonusShare
      cases kind <;> omega
    apply Broadcast.received_move s.alliances.mutual _ _ _ (h.counts v hv cell)
    · rw [contribution_player footprint hp, contribution_player footprint hp]
      have hone := hmove cell
      unfold bonusShare
      rw [hrings, hrings, hrings]
      cases kind
      · rw [if_pos ⟨rfl, rfl⟩, if_neg (fun hand => by cases hand.1),
          if_neg (fun hand => by cases hand.1)]
        dsimp only
        omega
      · rw [if_neg (fun hand => by cases hand.1), if_pos ⟨rfl, rfl⟩,
          if_neg (fun hand => by cases hand.1)]
        dsimp only
        omega
      · rw [if_neg (fun hand => by cases hand.1), if_neg (fun hand => by cases hand.1),
          if_pos ⟨rfl, rfl⟩]
        dsimp only
        omega
    · rw [contribution_player footprint hp]
      have hone := hle cell
      omega
    · intro q hq
      have hne : ∀ kind', ¬ (kind' = kind ∧ q = p) := fun _ hand => hq hand.2
      unfold contribution bonusShare
      rw [hrings, hrings, hrings, if_neg (hne .town), if_neg (hne .outpost),
        if_neg (hne .observatory)]

def ringAt (rings : InsertionMap (TileKey W) Nat) (key cell : TileKey W) : Nat :=
  rings.share (fun key radius => (footprint key radius).count cell) key

theorem ringAt_le (rings : InsertionMap (TileKey W) Nat) (key cell : TileKey W) :
    ringAt footprint rings key cell ≤ ringShare footprint rings cell := by
  have herase := rings.total_erase key (fun key radius => (footprint key radius).count cell)
  unfold ringAt ringShare
  omega

theorem setVisionBonus_accounted (h : Accounted footprint s) (kind : BonusKind) (p : PlayerId)
    (key : TileKey W) (bonusRadius : Nat) (callbacks : VisibilityTransitionCallbacks)
    (visionRadiusForPlayer : PlayerId → Nat) :
    Accounted footprint { s with
      tracker := s.tracker.setVisionBonus footprint kind (s.deps visionRadiusForPlayer) p key
        bonusRadius callbacks } := by
  unfold VisibilityCoverageTracker.setVisionBonus
  cases hp : p.isBarbarian with
  | true =>
      rw [if_pos rfl]
      exact h
  | false =>
      rw [if_neg (by simp)]
      dsimp only
      split
      · exact h
      apply rings_accounted footprint h hp kind ((s.tracker.ringsOf kind p).set key bonusRadius)
        _ _
        (ringAt footprint (s.tracker.ringsOf kind p) key)
        (fun cell => (footprint key bonusRadius).count cell) _ (ringAt_le footprint _ key)
      · intro v cell
        rw [viewersForSource_eq (show _ = s.alliances.alliesOf from rfl) hp]
        apply refcount_foldl_viewers _ (s.alliances.mutual.nodup_audience p)
        intro cache u w
        rw [VisibilityCoverageCache.refcount_addFootprint]
        unfold ringAt InsertionMap.share
        cases (s.tracker.ringsOf kind p).get key with
        | none =>
            dsimp only [Option.map_none, Option.getD_none]
            split <;> omega
        | some radius =>
            dsimp only [Option.map_some, Option.getD_some]
            rw [VisibilityCoverageCache.refcount_removeFootprint]
            split <;> omega
      · rw [InsertionMap.get_set_self, Option.getD_some]
      · intro q hq
        exact InsertionMap.get_set_ne _ (fun hpq => hq hpq.symm) _
      · intro cell
        exact InsertionMap.total_set _ key bonusRadius
          (fun key radius => (footprint key radius).count cell)

theorem removeVisionBonus_accounted (h : Accounted footprint s) (kind : BonusKind) (p : PlayerId)
    (key : TileKey W) (callbacks : VisibilityTransitionCallbacks)
    (visionRadiusForPlayer : PlayerId → Nat) :
    Accounted footprint { s with
      tracker := s.tracker.removeVisionBonus footprint kind (s.deps visionRadiusForPlayer) p key
        callbacks } := by
  unfold VisibilityCoverageTracker.removeVisionBonus
  cases hp : p.isBarbarian with
  | true =>
      rw [if_pos rfl]
      exact h
  | false =>
      rw [if_neg (by simp)]
      cases hring : (s.tracker.ringsOf kind p).get key with
      | none => exact h
      | some radius =>
          dsimp only
          apply rings_accounted footprint h hp kind ((s.tracker.ringsOf kind p).erase key) _ _
            (ringAt footprint (s.tracker.ringsOf kind p) key) (fun _ => 0) _
            (ringAt_le footprint _ key)
          · intro v cell
            rw [viewersForSource_eq (show _ = s.alliances.alliesOf from rfl) hp,
              refcount_foldl_remove (s.alliances.mutual.nodup_audience p)]
            unfold ringAt InsertionMap.share
            rw [hring]
            rfl
          · -- the last ring of a source takes its table entry along
            split
            next hnil =>
              rw [InsertionMap.get_erase_self, Option.getD_none]
              generalize (s.tracker.ringsOf kind p).erase key = rest at hnil
              cases rest
              cases hnil
              rfl
            next _ => rw [InsertionMap.get_set_self, Option.getD_some]
          · intro q hq
            split
            · exact InsertionMap.get_erase_ne _ (fun hpq => hq hpq.symm)
            · exact InsertionMap.get_set_ne _ (fun hpq => hq hpq.symm) _
          · intro cell
            exact InsertionMap.total_erase _ key
              (fun key radius => (footprint key radius).count cell)

end BorderEmpires.Vision
