/-
  BorderEmpires.Vision.Tracker
  **WHO SEES THROUGH WHAT: THE COVERAGE TRACKER AND ITS CALLERS.**

  `VisibilityCoverageTracker` of `visibility-coverage-cache.ts` with its
  bonus rings (`visibility-source-bonus-tracker.ts`), and the state around
  it that its callers keep: the tiles, and each player's allies.  A source
  contributes its footprints to itself and to each current ally.

  Footprints are fixed here: `footprint tile radius` lists the cells a
  source of that radius on that tile dilates into.
-/
import Mathlib.Logic.Function.Basic
import BorderEmpires.Vision.CoverageCache

namespace BorderEmpires.Vision

variable {W : WorldSize}

def FRONTIER_STANDING_VISION_RADIUS : Nat := 1

/-! ## §1. Alliances. -/

/-- **Each player's `allies`**: a symmetric relation between registered
players, nobody allied with itself. -/
structure AllianceTable where
  players : InsertionMap PlayerId (List PlayerId)
  nodup : ∀ p l, players.get p = some l → l.Nodup
  irrefl : ∀ p l, players.get p = some l → p ∉ l
  symm : ∀ p l q, players.get p = some l → q ∈ l → ∃ l', players.get q = some l' ∧ p ∈ l'

namespace AllianceTable

/-- `source.allies`, nothing for an unregistered player. -/
def alliesOf (table : AllianceTable) (p : PlayerId) : List PlayerId := (table.players.get p).getD []

theorem alliesOf_eq {table : AllianceTable} {p : PlayerId} {l : List PlayerId}
    (h : table.players.get p = some l) : table.alliesOf p = l := by
  unfold alliesOf
  rw [h, Option.getD_some]

theorem nodup_alliesOf (table : AllianceTable) (p : PlayerId) : (table.alliesOf p).Nodup := by
  unfold alliesOf
  cases h : table.players.get p with
  | none => exact List.nodup_nil
  | some l => exact table.nodup p l h

theorem notMem_alliesOf_self (table : AllianceTable) (p : PlayerId) : p ∉ table.alliesOf p := by
  unfold alliesOf
  cases h : table.players.get p with
  | none => exact List.not_mem_nil
  | some l => exact table.irrefl p l h

theorem mem_alliesOf_symm {table : AllianceTable} {p q : PlayerId} (hq : q ∈ table.alliesOf p) :
    p ∈ table.alliesOf q := by
  unfold alliesOf at hq
  cases h : table.players.get p with
  | none =>
      rw [h] at hq
      exact absurd hq List.not_mem_nil
  | some l =>
      rw [h, Option.getD_some] at hq
      obtain ⟨l', hl', hp⟩ := table.symm p l q h hq
      rw [alliesOf_eq hl']
      exact hp

theorem mem_alliesOf_comm {table : AllianceTable} {p q : PlayerId} :
    q ∈ table.alliesOf p ↔ p ∈ table.alliesOf q :=
  ⟨mem_alliesOf_symm, mem_alliesOf_symm⟩

/-- The players with their ally lists rewritten, `f p` at `p`. -/
def pairWrite (players : InsertionMap PlayerId (List PlayerId)) (a b : PlayerId)
    (la lb : List PlayerId) : InsertionMap PlayerId (List PlayerId) :=
  (players.set a la).set b lb

theorem get_pairWrite (players : InsertionMap PlayerId (List PlayerId)) {a b : PlayerId}
    (hab : a ≠ b) (la lb : List PlayerId) (p : PlayerId) :
    (pairWrite players a b la lb).get p
      = if p = a then some la else if p = b then some lb else players.get p := by
  unfold pairWrite
  rw [InsertionMap.get_set, InsertionMap.get_set]
  by_cases ha : p = a
  · rw [if_pos ha, if_neg (fun h => hab (ha ▸ h.symm)), if_pos ha.symm]
  · by_cases hb : p = b
    · rw [if_neg ha, if_pos hb, if_pos hb.symm]
    · rw [if_neg ha, if_neg hb, if_neg (fun h => hb h.symm), if_neg (fun h => ha h.symm)]

/-- Rewrite the lists of two players so that only what each says of the
other changes, and both say the same. -/
def rewritePair (table : AllianceTable) {a b : PlayerId} (hab : a ≠ b)
    {la lb : List PlayerId} (ha : table.players.get a = some la)
    (hb : table.players.get b = some lb) (la' lb' : List PlayerId)
    (hla : la'.Nodup) (hlb : lb'.Nodup)
    (hkeepA : ∀ q, q ≠ b → (q ∈ la' ↔ q ∈ la)) (hkeepB : ∀ q, q ≠ a → (q ∈ lb' ↔ q ∈ lb))
    (hboth : b ∈ la' ↔ a ∈ lb') : AllianceTable where
  players := pairWrite table.players a b la' lb'
  nodup := by
    intro p l h
    rw [get_pairWrite _ hab] at h
    split at h
    · injection h with h
      exact h ▸ hla
    · split at h
      · injection h with h
        exact h ▸ hlb
      · exact table.nodup p l h
  irrefl := by
    intro p l h hmem
    rw [get_pairWrite _ hab] at h
    split at h
    next hp =>
      injection h with h
      subst h hp
      exact table.irrefl p la ha ((hkeepA p hab).mp hmem)
    next _ =>
      split at h
      next hp =>
        injection h with h
        subst h hp
        exact table.irrefl p lb hb ((hkeepB p hab.symm).mp hmem)
      next _ => exact table.irrefl p l h hmem
  symm := by
    intro p l q h hmem
    -- the list a registered player has after the write
    have hread : ∀ r lr, table.players.get r = some lr →
        ∃ lr', (pairWrite table.players a b la' lb').get r = some lr' ∧
          (∀ s, (r = a → s ≠ b) → (r = b → s ≠ a) → (s ∈ lr' ↔ s ∈ lr)) := by
      intro r lr hr
      rw [get_pairWrite _ hab]
      by_cases hra : r = a
      · have hlr : la = lr := by
          rw [hra, ha] at hr
          exact Option.some.inj hr
        rw [if_pos hra, ← hlr]
        exact ⟨la', rfl, fun s hs _ => hkeepA s (hs hra)⟩
      · by_cases hrb : r = b
        · have hlr : lb = lr := by
            rw [hrb, hb] at hr
            exact Option.some.inj hr
          rw [if_neg hra, if_pos hrb, ← hlr]
          exact ⟨lb', rfl, fun s _ hs => hkeepB s (hs hrb)⟩
        · rw [if_neg hra, if_neg hrb]
          exact ⟨lr, hr, fun s _ _ => Iff.rfl⟩
    have hgetA : (pairWrite table.players a b la' lb').get a = some la' := by
      rw [get_pairWrite _ hab, if_pos rfl]
    have hgetB : (pairWrite table.players a b la' lb').get b = some lb' := by
      rw [get_pairWrite _ hab, if_neg hab.symm, if_pos rfl]
    by_cases hp : p = a ∧ q = b
    · obtain ⟨rfl, rfl⟩ := hp
      rw [hgetA] at h
      injection h with h
      subst h
      exact ⟨lb', hgetB, hboth.mp hmem⟩
    · by_cases hq : p = b ∧ q = a
      · obtain ⟨rfl, rfl⟩ := hq
        rw [hgetB] at h
        injection h with h
        subst h
        exact ⟨la', hgetA, hboth.mpr hmem⟩
      · -- neither list speaks of the pair: the old symmetry carries over
        have hold : ∃ lp, table.players.get p = some lp ∧ q ∈ lp := by
          rw [get_pairWrite _ hab] at h
          split at h
          next hpa =>
            injection h with h
            subst h hpa
            exact ⟨la, ha, (hkeepA q (fun hqb => hp ⟨rfl, hqb⟩)).mp hmem⟩
          next _ =>
            split at h
            next hpb =>
              injection h with h
              subst h hpb
              exact ⟨lb, hb, (hkeepB q (fun hqa => hq ⟨rfl, hqa⟩)).mp hmem⟩
            next _ => exact ⟨l, h, hmem⟩
        obtain ⟨lp, hlp, hqlp⟩ := hold
        obtain ⟨lq, hlq, hplq⟩ := table.symm p lp q hlp hqlp
        obtain ⟨lq', hlq', hiff⟩ := hread q lq hlq
        refine ⟨lq', hlq', (hiff p ?_ ?_).mpr hplq⟩
        · intro hqa hpb
          exact hq ⟨hpb, hqa⟩
        · intro hqb hpa
          exact hp ⟨hpa, hqb⟩

/-- `actor.allies.add(target.id); target.allies.add(actor.id)`. -/
def ally (table : AllianceTable) {a b : PlayerId} (hab : a ≠ b) {la lb : List PlayerId}
    (ha : table.players.get a = some la) (hb : table.players.get b = some lb) : AllianceTable :=
  table.rewritePair hab ha hb (InsertionSet.add la b) (InsertionSet.add lb a)
    (InsertionSet.nodup_add (table.nodup a la ha) b)
    (InsertionSet.nodup_add (table.nodup b lb hb) a)
    (fun q hq => by rw [InsertionSet.mem_add]; exact ⟨fun h => h.resolve_right hq, Or.inl⟩)
    (fun q hq => by rw [InsertionSet.mem_add]; exact ⟨fun h => h.resolve_right hq, Or.inl⟩)
    (by
      rw [InsertionSet.mem_add, InsertionSet.mem_add]
      exact ⟨fun _ => Or.inr rfl, fun _ => Or.inr rfl⟩)

/-- `actor.allies.delete(target.id); target.allies.delete(actor.id)`. -/
def unally (table : AllianceTable) {a b : PlayerId} (hab : a ≠ b) {la lb : List PlayerId}
    (ha : table.players.get a = some la) (hb : table.players.get b = some lb) : AllianceTable :=
  table.rewritePair hab ha hb (la.filter (fun q => decide (q ≠ b)))
    (lb.filter (fun q => decide (q ≠ a)))
    ((table.nodup a la ha).filter _) ((table.nodup b lb hb).filter _)
    (fun q hq => by simp [hq]) (fun q hq => by simp [hq]) (by simp)

theorem getD_pairWrite (players : InsertionMap PlayerId (List PlayerId)) {a b : PlayerId}
    (hab : a ≠ b) (la lb : List PlayerId) (p : PlayerId) :
    ((pairWrite players a b la lb).get p).getD []
      = if p = a then la else if p = b then lb else (players.get p).getD [] := by
  rw [get_pairWrite _ hab]
  split
  · rfl
  · split <;> rfl

theorem alliesOf_ally (table : AllianceTable) {a b : PlayerId} (hab : a ≠ b)
    {la lb : List PlayerId} (ha : table.players.get a = some la)
    (hb : table.players.get b = some lb) (p : PlayerId) :
    (table.ally hab ha hb).alliesOf p
      = if p = a then InsertionSet.add la b else if p = b then InsertionSet.add lb a
        else table.alliesOf p :=
  getD_pairWrite table.players hab _ _ p

theorem alliesOf_unally (table : AllianceTable) {a b : PlayerId} (hab : a ≠ b)
    {la lb : List PlayerId} (ha : table.players.get a = some la)
    (hb : table.players.get b = some lb) (p : PlayerId) :
    (table.unally hab ha hb).alliesOf p
      = if p = a then la.filter (fun q => decide (q ≠ b))
        else if p = b then lb.filter (fun q => decide (q ≠ a)) else table.alliesOf p :=
  getD_pairWrite table.players hab _ _ p

def strangers (players : List PlayerId) : AllianceTable where
  players := InsertionMap.ofEntries (players.map fun p => (p, []))
  nodup := by
    intro p l h
    rw [← ((InsertionMap.get_ofEntries_map players (fun _ => []) p l).mp h).2]
    exact List.nodup_nil
  irrefl := by
    intro p l h
    rw [← ((InsertionMap.get_ofEntries_map players (fun _ => []) p l).mp h).2]
    exact List.not_mem_nil
  symm := by
    intro p l q h hq
    rw [← ((InsertionMap.get_ofEntries_map players (fun _ => []) p l).mp h).2] at hq
    exact absurd hq List.not_mem_nil

end AllianceTable

/-! ## §2. The tracker's state and what it reads. -/

/-- The three tables of bonus rings a tracker keeps. -/
inductive BonusKind where
  | town
  | outpost
  | observatory
  deriving DecidableEq

abbrev BonusRadiusBySourceAndTile (W : WorldSize) :=
  InsertionMap PlayerId (InsertionMap (TileKey W) Nat)

structure VisibilityCoverageTracker (W : WorldSize) where
  cache : VisibilityCoverageCache W
  radiusBySource : InsertionMap PlayerId Nat
  bonusRadii : BonusKind → BonusRadiusBySourceAndTile W

structure VisibilityCoverageTrackerDeps (W : WorldSize) where
  visionRadiusForPlayer : PlayerId → Nat
  /-- `getPlayer(id).allies`, nothing for an unregistered player. -/
  alliesOf : PlayerId → List PlayerId
  settledTileKeysForPlayer : PlayerId → List (TileKey W)
  frontierTileKeysForPlayer : PlayerId → List (TileKey W)

/-- A player's territory outside its FRONTIER claims. -/
def settledTileKeysForPlayer (tiles : InsertionMap (TileKey W) TileOwnership) (p : PlayerId) :
    List (TileKey W) :=
  (tiles.entries.filter (fun e =>
    decide (e.2.ownerId = some p ∧ e.2.ownershipState ≠ some .FRONTIER))).map Prod.fst

def frontierTileKeysForPlayer (tiles : InsertionMap (TileKey W) TileOwnership) (p : PlayerId) :
    List (TileKey W) :=
  (tiles.entries.filter (fun e =>
    decide (e.2.ownerId = some p ∧ e.2.ownershipState = some .FRONTIER))).map Prod.fst

namespace VisibilityCoverageTracker

def empty : VisibilityCoverageTracker W := ⟨.empty, .empty, fun _ => .empty⟩

def ringsOf (t : VisibilityCoverageTracker W) (kind : BonusKind) (sourceId : PlayerId) :
    InsertionMap (TileKey W) Nat :=
  ((t.bonusRadii kind).get sourceId).getD .empty

/-- The cached radius of a source, looked up on first use. -/
def radiusForSource (t : VisibilityCoverageTracker W) (deps : VisibilityCoverageTrackerDeps W)
    (sourceId : PlayerId) : Nat × VisibilityCoverageTracker W :=
  match t.radiusBySource.get sourceId with
  | some radius => (radius, t)
  | none =>
      let radius := deps.visionRadiusForPlayer sourceId
      (radius, { t with radiusBySource := t.radiusBySource.set sourceId radius })

/-- The source and its current allies, nobody for a barbarian. -/
def viewersForSource (deps : VisibilityCoverageTrackerDeps W) (sourceId : PlayerId) :
    List PlayerId :=
  if sourceId.isBarbarian then [] else sourceId :: deps.alliesOf sourceId

/-! ## §3. The methods. -/

variable (footprint : TileKey W → Nat → List (TileKey W))

variable (t : VisibilityCoverageTracker W) (deps : VisibilityCoverageTrackerDeps W)

/-- The radius `tileOwnershipChanged` uses for a tile in that state. -/
def territoryRadius (sourceId : PlayerId) (state : Option OwnershipState) :
    Nat × VisibilityCoverageTracker W :=
  if state = some .FRONTIER then (FRONTIER_STANDING_VISION_RADIUS, t)
  else t.radiusForSource deps sourceId

/-- The first half of `tileOwnershipChanged`: the previous owner's
footprint is cancelled. -/
def cancelPrevious (previous : Option TileOwnership) (key : TileKey W)
    (callbacks : VisibilityTransitionCallbacks) : VisibilityCoverageTracker W :=
  match previous.bind (·.ownerId) with
  | none => t
  | some ownerId =>
      if ownerId.isBarbarian then t
      else
        let (radius, t) := t.territoryRadius deps ownerId (previous.bind (·.ownershipState))
        { t with
          cache := (viewersForSource deps ownerId).foldl
            (fun cache viewerId =>
              cache.removeFootprint viewerId (footprint key radius) callbacks.onLeave) t.cache }

/-- The second half: the next owner's footprint is applied. -/
def applyNext (next : TileOwnership) (key : TileKey W) (callbacks : VisibilityTransitionCallbacks) :
    VisibilityCoverageTracker W :=
  match next.ownerId with
  | none => t
  | some ownerId =>
      if ownerId.isBarbarian then t
      else
        let (radius, t) := t.territoryRadius deps ownerId next.ownershipState
        { t with
          cache := (viewersForSource deps ownerId).foldl
            (fun cache viewerId =>
              cache.addFootprint viewerId (footprint key radius) callbacks.onEnter) t.cache }

def tileOwnershipChanged (previous : Option TileOwnership) (next : TileOwnership) (key : TileKey W)
    (callbacks : VisibilityTransitionCallbacks) :
    VisibilityCoverageTracker W :=
  (t.cancelPrevious footprint deps previous key callbacks).applyNext footprint deps next key
    callbacks

def resyncVisionRadius (playerId : PlayerId) (callbacks : VisibilityTransitionCallbacks) :
    VisibilityCoverageTracker W :=
  let newRadius := deps.visionRadiusForPlayer playerId
  let oldRadius := t.radiusBySource.get playerId
  if oldRadius = some newRadius then t
  else
    let viewers := viewersForSource deps playerId
    let settled := deps.settledTileKeysForPlayer playerId
    let cache := match oldRadius with
      | none => t.cache
      | some oldRadius =>
          viewers.foldl (fun cache viewerId => cache.removeSourceContribution viewerId
            (settled.map (fun key => footprint key oldRadius)) callbacks.onLeave) t.cache
    let cache := viewers.foldl (fun cache viewerId => cache.addSourceContribution viewerId
      (settled.map (fun key => footprint key newRadius)) callbacks.onEnter) cache
    { t with cache := cache, radiusBySource := t.radiusBySource.set playerId newRadius }

/-- `setTownVisionBonus` and `SourceBonusRadiusTracker.set`. -/
def setVisionBonus (kind : BonusKind) (t : VisibilityCoverageTracker W)
    (deps : VisibilityCoverageTrackerDeps W) (sourceId : PlayerId) (key : TileKey W)
    (bonusRadius : Nat) (callbacks : VisibilityTransitionCallbacks) :
    VisibilityCoverageTracker W :=
  if sourceId.isBarbarian then t
  else
    let existing := (t.ringsOf kind sourceId).get key
    if existing = some bonusRadius then t
    else
      let cache := (viewersForSource deps sourceId).foldl
        (fun cache viewerId =>
          (match existing with
            | none => cache
            | some radius =>
                cache.removeFootprint viewerId (footprint key radius) callbacks.onLeave).addFootprint
            viewerId (footprint key bonusRadius) callbacks.onEnter) t.cache
      { t with
        cache := cache
        bonusRadii := Function.update t.bonusRadii kind
          ((t.bonusRadii kind).set sourceId ((t.ringsOf kind sourceId).set key bonusRadius)) }

/-- `removeTownVisionBonus` and `SourceBonusRadiusTracker.remove`. -/
def removeVisionBonus (kind : BonusKind) (t : VisibilityCoverageTracker W)
    (deps : VisibilityCoverageTrackerDeps W) (sourceId : PlayerId) (key : TileKey W)
    (callbacks : VisibilityTransitionCallbacks) : VisibilityCoverageTracker W :=
  if sourceId.isBarbarian then t
  else
    match (t.ringsOf kind sourceId).get key with
    | none => t
    | some radius =>
        let cache := (viewersForSource deps sourceId).foldl
          (fun cache viewerId =>
            cache.removeFootprint viewerId (footprint key radius) callbacks.onLeave) t.cache
        let byTile := (t.ringsOf kind sourceId).erase key
        { t with
          cache := cache
          bonusRadii := Function.update t.bonusRadii kind
            (if byTile.entries = [] then (t.bonusRadii kind).erase sourceId
            else (t.bonusRadii kind).set sourceId byTile) }

def setTownVisionBonus (sourceId : PlayerId) (key : TileKey W) (bonusRadius : Nat)
    (callbacks : VisibilityTransitionCallbacks) :
    VisibilityCoverageTracker W :=
  setVisionBonus footprint .town t deps sourceId key bonusRadius callbacks

def removeTownVisionBonus (sourceId : PlayerId) (key : TileKey W)
    (callbacks : VisibilityTransitionCallbacks) : VisibilityCoverageTracker W :=
  removeVisionBonus footprint .town t deps sourceId key callbacks

/-- `applyTownBonusesToViewer` and `SourceBonusRadiusTracker.applyToViewer`:
the rings are added when `onEnter` is supplied and removed when `onLeave`
is. -/
def applyBonusesToViewer (rings : InsertionMap (TileKey W) Nat) (viewerId : PlayerId)
    (onEnter onLeave : Bool) (cache : VisibilityCoverageCache W) : VisibilityCoverageCache W :=
  rings.entries.foldl
    (fun cache e =>
      let cache := if onEnter then cache.addFootprint viewerId (footprint e.1 e.2) true else cache
      if onLeave then cache.removeFootprint viewerId (footprint e.1 e.2) true else cache) cache

def syncAllianceChange (actorId targetId : PlayerId) (allied : Bool)
    (callbacks : VisibilityTransitionCallbacks) : VisibilityCoverageTracker W :=
  if actorId.isBarbarian || targetId.isBarbarian then t
  else
    let (actorRadius, t) := t.radiusForSource deps actorId
    let (targetRadius, t) := t.radiusForSource deps targetId
    let footprints (keys : List (TileKey W)) (radius : Nat) :=
      keys.map (fun key => footprint key radius)
    let actorSettled := footprints (deps.settledTileKeysForPlayer actorId) actorRadius
    let actorFrontier :=
      footprints (deps.frontierTileKeysForPlayer actorId) FRONTIER_STANDING_VISION_RADIUS
    let targetSettled := footprints (deps.settledTileKeysForPlayer targetId) targetRadius
    let targetFrontier :=
      footprints (deps.frontierTileKeysForPlayer targetId) FRONTIER_STANDING_VISION_RADIUS
    let bonuses (kind : BonusKind) (onEnter onLeave : Bool) (cache : VisibilityCoverageCache W) :=
      applyBonusesToViewer footprint (t.ringsOf kind targetId) actorId onEnter onLeave
        (applyBonusesToViewer footprint (t.ringsOf kind actorId) targetId onEnter onLeave cache)
    let cache :=
      if allied then
        let cache := t.cache.addSourceContribution targetId actorSettled callbacks.onEnter
        let cache := cache.addSourceContribution targetId actorFrontier callbacks.onEnter
        let cache := cache.addSourceContribution actorId targetSettled callbacks.onEnter
        let cache := cache.addSourceContribution actorId targetFrontier callbacks.onEnter
        bonuses .observatory callbacks.onEnter false
          (bonuses .outpost callbacks.onEnter false (bonuses .town callbacks.onEnter false cache))
      else
        let cache := t.cache.removeSourceContribution targetId actorSettled callbacks.onLeave
        let cache := cache.removeSourceContribution targetId actorFrontier callbacks.onLeave
        let cache := cache.removeSourceContribution actorId targetSettled callbacks.onLeave
        let cache := cache.removeSourceContribution actorId targetFrontier callbacks.onLeave
        bonuses .observatory false callbacks.onLeave
          (bonuses .outpost false callbacks.onLeave (bonuses .town false callbacks.onLeave cache))
    { t with cache := cache }

end VisibilityCoverageTracker

/-! ## §4. The callers. -/

structure VisionState (W : WorldSize) where
  alliances : AllianceTable
  tiles : InsertionMap (TileKey W) TileOwnership
  tracker : VisibilityCoverageTracker W

/-- A call the runtime makes to the tracker, with the state change it
reports. -/
inductive VisionOp (W : WorldSize) where
  | replaceTileState (key : TileKey W) (next : TileOwnership)
  | resyncVisionRadius (playerId : PlayerId)
  | setVisionBonus (kind : BonusKind) (sourceId : PlayerId) (key : TileKey W) (bonusRadius : Nat)
  | removeVisionBonus (kind : BonusKind) (sourceId : PlayerId) (key : TileKey W)
  | syncAlliance (actorId targetId : PlayerId) (allied : Bool)

/-- An operation, the callbacks supplied with it, and the players'
effective vision radii at that moment. -/
structure VisionCall (W : WorldSize) where
  op : VisionOp W
  callbacks : VisibilityTransitionCallbacks
  visionRadiusForPlayer : PlayerId → Nat

namespace VisionState

variable (footprint : TileKey W → Nat → List (TileKey W))

/-- No tile owned and nothing tracked yet. -/
def boot (alliances : AllianceTable) : VisionState W := ⟨alliances, .empty, .empty⟩

def deps (s : VisionState W) (visionRadiusForPlayer : PlayerId → Nat) :
    VisibilityCoverageTrackerDeps W where
  visionRadiusForPlayer := visionRadiusForPlayer
  alliesOf := s.alliances.alliesOf
  settledTileKeysForPlayer := settledTileKeysForPlayer s.tiles
  frontierTileKeysForPlayer := frontierTileKeysForPlayer s.tiles

/-- `replaceTileState`: the tracker hears of a change of owner, and of a
change of state under one owner. -/
def replaceTileState (s : VisionState W) (key : TileKey W) (next : TileOwnership)
    (callbacks : VisibilityTransitionCallbacks) (visionRadiusForPlayer : PlayerId → Nat) :
    VisionState W :=
  let previous := s.tiles.get key
  let s := { s with tiles := s.tiles.set key next }
  let previousOwnerId := previous.bind (·.ownerId)
  let sameOwner := previousOwnerId.isSome ∧ previousOwnerId = next.ownerId
  if ¬ sameOwner ∨ previous.bind (·.ownershipState) ≠ next.ownershipState then
    { s with
      tracker := s.tracker.tileOwnershipChanged footprint (s.deps visionRadiusForPlayer)
        previous next key callbacks }
  else s

/-- `handleSyncAllianceCommand`: both ally sets are written, and the
tracker is told when the two were not in that relation already. -/
def handleSyncAllianceCommand (s : VisionState W) (actorId targetId : PlayerId) (allied : Bool)
    (callbacks : VisibilityTransitionCallbacks) (visionRadiusForPlayer : PlayerId → Nat) :
    VisionState W :=
  match ha : s.alliances.players.get actorId, hb : s.alliances.players.get targetId with
  | some actorAllies, some _ =>
      if hab : actorId = targetId then s
      else
        let wasAllied : Bool := decide (targetId ∈ actorAllies)
        let alliances :=
          if allied then s.alliances.ally hab ha hb else s.alliances.unally hab ha hb
        let s := { s with alliances := alliances }
        if wasAllied ≠ allied then
          { s with
            tracker := s.tracker.syncAllianceChange footprint (s.deps visionRadiusForPlayer)
              actorId targetId allied callbacks }
        else s
  | _, _ => s

def apply (s : VisionState W) (call : VisionCall W) : VisionState W :=
  match call.op with
  | .replaceTileState key next =>
      s.replaceTileState footprint key next call.callbacks call.visionRadiusForPlayer
  | .resyncVisionRadius playerId =>
      { s with
        tracker := s.tracker.resyncVisionRadius footprint (s.deps call.visionRadiusForPlayer)
          playerId call.callbacks }
  | .setVisionBonus kind sourceId key bonusRadius =>
      { s with
        tracker := s.tracker.setVisionBonus footprint kind (s.deps call.visionRadiusForPlayer)
          sourceId key bonusRadius call.callbacks }
  | .removeVisionBonus kind sourceId key =>
      { s with
        tracker := s.tracker.removeVisionBonus footprint kind (s.deps call.visionRadiusForPlayer)
          sourceId key call.callbacks }
  | .syncAlliance actorId targetId allied =>
      s.handleSyncAllianceCommand footprint actorId targetId allied call.callbacks
        call.visionRadiusForPlayer

end VisionState

end BorderEmpires.Vision
