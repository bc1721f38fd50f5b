/-
  BorderEmpires.Vision.WireStamp
  **THE FOG OF WAR ON THE WIRE.**

  `tile-delta-visibility-stamp.ts`: each delta the filter let through is
  stamped VISIBLE, or replaced by a FOG delta where the tile left vision,
  or merged with its reveal where it entered; what left or entered without
  a delta of its own is appended.
-/
import BorderEmpires.Vision.WireFilter

namespace BorderEmpires.Vision

variable {W : WorldSize}

/-! ## §1. The stamp. -/

structure TileKeySet (W : WorldSize) where
  keys : List (TileKey W)
  nodup : keys.Nodup

instance : Membership (TileKey W) (TileKeySet W) := ⟨fun s key => key ∈ s.keys⟩

instance (s : TileKeySet W) (key : TileKey W) : Decidable (key ∈ s) :=
  inferInstanceAs (Decidable (key ∈ s.keys))

def TileKeySet.empty : TileKeySet W := ⟨[], List.nodup_nil⟩

inductive VisibilityState where
  | VISIBLE
  | FOG
  deriving DecidableEq

def VisibilityState.wireText : VisibilityState → String
  | .VISIBLE => "VISIBLE"
  | .FOG => "FOG"

/-- `{ ...delta, visibilityState }`. -/
def TileDelta.stamp (d : TileDelta W) (state : VisibilityState) : TileDelta W :=
  d.put "visibilityState" (.text state.wireText)

def TileDelta.isStamped (state : VisibilityState) (d : TileDelta W) : Bool :=
  isForced.isTheText state.wireText (d.read "visibilityState")

structure VisibilityStampDeps (W : WorldSize) where
  leftVisionTileKeys : Option (TileKeySet W)
  enteredVisionTileKeys : Option (TileKeySet W)
  wireDeltaForTileKey : TileKey W → Option (TileDelta W)

namespace VisibilityStampDeps

/-- `leftVisionTileKeys ?? []`. -/
def left (deps : VisibilityStampDeps W) : TileKeySet W := deps.leftVisionTileKeys.getD .empty

/-- `enteredVisionTileKeys ?? []`. -/
def entered (deps : VisibilityStampDeps W) : TileKeySet W := deps.enteredVisionTileKeys.getD .empty

def stampDelta (deps : VisibilityStampDeps W) (delta : TileDelta W) : TileDelta W :=
  if delta.tile ∈ deps.left then
    match deps.wireDeltaForTileKey delta.tile with
    | some fogDelta => fogDelta.stamp .FOG
    | none => delta.stamp .FOG
  else if delta.tile ∈ deps.entered then
    match deps.wireDeltaForTileKey delta.tile with
    | some revealDelta => (TileDelta.spread delta revealDelta).stamp .VISIBLE
    | none => delta.stamp .VISIBLE
  else delta.stamp .VISIBLE

def appended (deps : VisibilityStampDeps W) (seenKeys : List (TileKey W)) (keys : TileKeySet W)
    (state : VisibilityState) : List (TileDelta W) :=
  (keys.keys.filter fun key => key ∉ seenKeys).filterMap fun key =>
    (deps.wireDeltaForTileKey key).map fun delta => delta.stamp state

end VisibilityStampDeps

def stampVisibilityAndMergeFogDeltas (filteredDeltas : List (TileDelta W))
    (deps : VisibilityStampDeps W) : List (TileDelta W) :=
  if deps.left.keys = [] ∧ deps.entered.keys = [] then
    filteredDeltas.map fun delta => delta.stamp .VISIBLE
  else
    let seenKeys := filteredDeltas.map TileDelta.tile
    filteredDeltas.map deps.stampDelta
      ++ deps.appended seenKeys deps.left .FOG
      ++ deps.appended seenKeys deps.entered .VISIBLE

/-! ## §2. One batch for one player. -/

/-- What one subscriber is sent of a batch. -/
structure FanOut (W : WorldSize) where
  filter : VisibilityFilterDeps W
  stamp : VisibilityStampDeps W
  tileDeltas : List (TileDelta W)
  playerId : PlayerId

namespace FanOut

/-- `stampVisibilityAndMergeFogDeltas(filterTileDeltasForPlayer(…))`. -/
def sent (f : FanOut W) : List (TileDelta W) :=
  stampVisibilityAndMergeFogDeltas
    (filterTileDeltasForPlayer f.filter f.tileDeltas f.playerId true) f.stamp

def covered (f : FanOut W) (key : TileKey W) : Bool :=
  match f.filter.players f.playerId with
  | some primaryPlayer => f.filter.covers f.playerId primaryPlayer key
  | none => f.filter.visibilityCoverage.any fun isVisible => isVisible f.playerId key

def dockRevealed (f : FanOut W) (key : TileKey W) : Bool :=
  (f.filter.players f.playerId).any fun primaryPlayer =>
    f.filter.isDockReveal f.playerId primaryPlayer key

/-- Outside the viewer's coverage, lock tiles, dock reveals, left set and
forced deltas. -/
structure OutOfSight (f : FanOut W) (key : TileKey W) : Prop where
  uncovered : f.covered key = false
  noLockOrigin : f.filter.isLockOrigin f.playerId key = false
  noLockTarget : f.filter.isLockTarget f.playerId key = false
  noDock : f.dockRevealed key = false
  notLeft : key ∉ f.stamp.left
  unforced : ∀ d ∈ f.tileDeltas, d.tile = key → isForced f.playerId d = false

/-- A batch that lists each tile at most once, and vision changes that agree
with the coverage, for a viewer without full vision. -/
structure Consistent (f : FanOut W) : Prop where
  noFullVision : f.filter.hasFullVision f.playerId = false
  nodup : (f.tileDeltas.map TileDelta.tile).Nodup
  disjoint : ∀ key ∈ f.stamp.left, key ∉ f.stamp.entered
  enteredCovered : ∀ key ∈ f.stamp.entered, f.covered key = true
  leftUncovered : ∀ key ∈ f.stamp.left, f.covered key = false
  wire : ∀ key, key ∈ f.stamp.left ∨ key ∈ f.stamp.entered →
    ∃ d, f.stamp.wireDeltaForTileKey key = some d ∧ d.tile = key

/-- Nothing but an ownership clear, the stamp aside. -/
def IsOwnershipClear (d : TileDelta W) : Prop :=
  d.members "ownershipClearOnly" = some (.bool true)
    ∧ ∀ name value, d.members name = some value →
      name ∈ ["ownershipClearOnly", "visibilityState"]
        ∨ (name ∈ ["ownerId", "ownershipState"] ∧ value = .undefined)

/-- **The fog of war holds** in what is sent. -/
structure FogHolds (f : FanOut W) : Prop where
  /-- No tile twice. -/
  once : (f.sent.map TileDelta.tile).Nodup
  /-- One FOG entry for each key that left. -/
  leftFogged : ∀ key ∈ f.stamp.left,
    f.sent.countP (fun d => decide (d.tile = key) && d.isStamped .FOG) = 1
  /-- One VISIBLE entry for each key that entered. -/
  enteredShown : ∀ key ∈ f.stamp.entered,
    f.sent.countP (fun d => decide (d.tile = key) && d.isStamped .VISIBLE) = 1
  /-- No other tile is stamped FOG. -/
  noOtherFog : ∀ d ∈ f.sent, d.isStamped .FOG = true → d.tile ∈ f.stamp.left
  /-- Out of sight there is nothing but a clear that is not VISIBLE. -/
  hidden : ∀ d ∈ f.sent, f.OutOfSight d.tile → IsOwnershipClear d ∧ d.isStamped .VISIBLE = false

/-- The batch clears no owner of a tile the viewer cannot see. -/
def ClearsInSight (f : FanOut W) : Prop :=
  f.filter.players f.playerId ≠ none →
    ∀ d ∈ f.tileDeltas, ownerIdCleared d = true → ¬ f.OutOfSight d.tile

end FanOut

/-! ## §3. Stamps and tiles. -/

@[simp] theorem TileDelta.stamp_tile (d : TileDelta W) (state : VisibilityState) :
    (d.stamp state).tile = d.tile := rfl

theorem TileDelta.isStamped_stamp (d : TileDelta W) (state state' : VisibilityState) :
    (d.stamp state).isStamped state' = decide (state = state') := by
  unfold TileDelta.isStamped TileDelta.stamp
  rw [TileDelta.read_put_self]
  cases state <;> cases state' <;> decide

theorem stampVisibilityAndMergeFogDeltas_eq (filteredDeltas : List (TileDelta W))
    (deps : VisibilityStampDeps W) :
    stampVisibilityAndMergeFogDeltas filteredDeltas deps
      = filteredDeltas.map deps.stampDelta
        ++ deps.appended (filteredDeltas.map TileDelta.tile) deps.left .FOG
        ++ deps.appended (filteredDeltas.map TileDelta.tile) deps.entered .VISIBLE := by
  unfold stampVisibilityAndMergeFogDeltas
  split
  · rename_i hempty
    obtain ⟨hleft, hentered⟩ := hempty
    have hplain : ∀ delta, deps.stampDelta delta = delta.stamp .VISIBLE := by
      intro delta
      have hl : delta.tile ∉ deps.left := by
        show delta.tile ∉ deps.left.keys
        simp [hleft]
      have he : delta.tile ∉ deps.entered := by
        show delta.tile ∉ deps.entered.keys
        simp [hentered]
      unfold VisibilityStampDeps.stampDelta
      rw [if_neg hl, if_neg he]
    simp [VisibilityStampDeps.appended, hleft, hentered, hplain]
  · rfl

namespace FanOut

variable {f : FanOut W}

/-- What the filter lets through. -/
def kept (f : FanOut W) : List (TileDelta W) :=
  filterTileDeltasForPlayer f.filter f.tileDeltas f.playerId true

theorem sent_eq (f : FanOut W) :
    f.sent = f.kept.map f.stamp.stampDelta
      ++ f.stamp.appended (f.kept.map TileDelta.tile) f.stamp.left .FOG
      ++ f.stamp.appended (f.kept.map TileDelta.tile) f.stamp.entered .VISIBLE :=
  stampVisibilityAndMergeFogDeltas_eq _ _

theorem stampDelta_cases (h : f.Consistent) (d : TileDelta W) :
    (d.tile ∈ f.stamp.left ∧ ∃ fog, f.stamp.wireDeltaForTileKey d.tile = some fog
        ∧ fog.tile = d.tile ∧ f.stamp.stampDelta d = fog.stamp .FOG)
    ∨ (d.tile ∈ f.stamp.entered ∧ d.tile ∉ f.stamp.left
        ∧ ∃ shown : TileDelta W, shown.tile = d.tile ∧ f.stamp.stampDelta d = shown.stamp .VISIBLE)
    ∨ (d.tile ∉ f.stamp.left ∧ d.tile ∉ f.stamp.entered
        ∧ f.stamp.stampDelta d = d.stamp .VISIBLE) := by
  unfold VisibilityStampDeps.stampDelta
  by_cases hleft : d.tile ∈ f.stamp.left
  · left
    obtain ⟨fog, hwire, htile⟩ := h.wire d.tile (Or.inl hleft)
    refine ⟨hleft, fog, hwire, htile, ?_⟩
    rw [if_pos hleft, hwire]
  · right
    by_cases hentered : d.tile ∈ f.stamp.entered
    · left
      obtain ⟨reveal, hwire, htile⟩ := h.wire d.tile (Or.inr hentered)
      refine ⟨hentered, hleft, TileDelta.spread d reveal, htile, ?_⟩
      rw [if_neg hleft, if_pos hentered, hwire]
    · right
      refine ⟨hleft, hentered, ?_⟩
      rw [if_neg hleft, if_neg hentered]

theorem stampDelta_tile (h : f.Consistent) (d : TileDelta W) :
    (f.stamp.stampDelta d).tile = d.tile := by
  rcases stampDelta_cases h d with ⟨_, fog, _, htile, heq⟩ | ⟨_, _, shown, htile, heq⟩ | ⟨_, _, heq⟩
  · rw [heq]
    exact htile
  · rw [heq]
    exact htile
  · rw [heq]
    rfl

theorem mem_appended {keys : TileKeySet W} {seen : List (TileKey W)} {state : VisibilityState}
    (hwire : ∀ key ∈ keys, ∃ d, f.stamp.wireDeltaForTileKey key = some d ∧ d.tile = key)
    {e : TileDelta W} :
    e ∈ f.stamp.appended seen keys state ↔
      ∃ d, e = d.stamp state ∧ d.tile ∈ keys ∧ d.tile ∉ seen
        ∧ f.stamp.wireDeltaForTileKey d.tile = some d := by
  unfold VisibilityStampDeps.appended
  rw [List.mem_filterMap]
  constructor
  · rintro ⟨key, hkey, he⟩
    obtain ⟨hmem, hseen⟩ := List.mem_filter.mp hkey
    obtain ⟨d, hd, htile⟩ := hwire key hmem
    rw [hd, Option.map_some, Option.some.injEq] at he
    subst htile
    exact ⟨d, he.symm, hmem, by simpa using hseen, hd⟩
  · rintro ⟨d, rfl, hmem, hseen, hd⟩
    refine ⟨d.tile, List.mem_filter.mpr ⟨hmem, by simpa using hseen⟩, ?_⟩
    rw [hd]
    rfl

theorem appended_tiles {keys : TileKeySet W} {seen : List (TileKey W)} {state : VisibilityState}
    (hwire : ∀ key ∈ keys, ∃ d, f.stamp.wireDeltaForTileKey key = some d ∧ d.tile = key) :
    (f.stamp.appended seen keys state).map TileDelta.tile
      = keys.keys.filter fun key => key ∉ seen := by
  unfold VisibilityStampDeps.appended
  have hwire : ∀ key ∈ keys.keys.filter (fun key => key ∉ seen),
      ∃ d, f.stamp.wireDeltaForTileKey key = some d ∧ d.tile = key :=
    fun key hkey => hwire key (List.mem_filter.mp hkey).1
  generalize keys.keys.filter (fun key => key ∉ seen) = unseen at hwire ⊢
  induction unseen with
  | nil => rfl
  | cons key rest ih =>
      obtain ⟨d, hd, htile⟩ := hwire key List.mem_cons_self
      rw [List.filterMap_cons, hd]
      dsimp only [Option.map_some]
      rw [List.map_cons, ih fun key hkey => hwire key (List.mem_cons_of_mem _ hkey)]
      rw [TileDelta.stamp_tile, htile]

/-- **The tiles of what is sent**: those let through, those that left, those
that entered. -/
theorem fanOut_tiles (h : f.Consistent) :
    f.sent.map TileDelta.tile
      = f.kept.map TileDelta.tile
        ++ (f.stamp.left.keys.filter fun key => key ∉ f.kept.map TileDelta.tile)
        ++ (f.stamp.entered.keys.filter fun key => key ∉ f.kept.map TileDelta.tile) := by
  rw [sent_eq, List.map_append, List.map_append, List.map_map,
    appended_tiles fun key hkey => h.wire key (Or.inl hkey),
    appended_tiles fun key hkey => h.wire key (Or.inr hkey)]
  have hmap : f.kept.map (TileDelta.tile ∘ f.stamp.stampDelta) = f.kept.map TileDelta.tile :=
    List.map_congr_left fun d _ => stampDelta_tile h d
  rw [hmap]

/-- **No tile is sent twice.** -/
theorem fanOut_nodup (h : f.Consistent) : (f.sent.map TileDelta.tile).Nodup := by
  rw [fanOut_tiles h]
  have hkept : (f.kept.map TileDelta.tile).Nodup :=
    h.nodup.sublist (filterTileDeltas_tiles_sublist f.filter f.tileDeltas f.playerId true)
  refine List.nodup_append.mpr ⟨List.nodup_append.mpr ⟨hkept, f.stamp.left.nodup.filter _, ?_⟩,
    f.stamp.entered.nodup.filter _, ?_⟩
  · intro a ha b hb hab
    subst hab
    simp only [List.mem_filter, decide_eq_true_eq] at hb
    exact hb.2 ha
  · intro a ha b hb hab
    subst hab
    simp only [List.mem_filter, decide_eq_true_eq] at hb
    rcases List.mem_append.mp ha with hkept | hleft
    · exact hb.2 hkept
    · exact h.disjoint a (List.mem_filter.mp hleft).1 hb.1

/-! ## §4. The keys that left or entered. -/

theorem mem_fanOut_left (h : f.Consistent) {key : TileKey W} (hkey : key ∈ f.stamp.left) :
    ∃ e ∈ f.sent, e.tile = key ∧ e.isStamped .FOG = true := by
  rw [sent_eq]
  by_cases hseen : key ∈ f.kept.map TileDelta.tile
  · obtain ⟨d, hd, rfl⟩ := List.mem_map.mp hseen
    refine ⟨f.stamp.stampDelta d,
      List.mem_append_left _ (List.mem_append_left _ (List.mem_map_of_mem hd)),
      stampDelta_tile h d, ?_⟩
    rcases stampDelta_cases h d with ⟨_, fog, _, _, heq⟩ | ⟨_, hnot, _⟩ | ⟨hnot, _⟩
    · rw [heq, TileDelta.isStamped_stamp]
      rfl
    · exact absurd hkey hnot
    · exact absurd hkey hnot
  · obtain ⟨fog, hwire, rfl⟩ := h.wire key (Or.inl hkey)
    refine ⟨fog.stamp .FOG, List.mem_append_left _ (List.mem_append_right _ ?_), rfl, ?_⟩
    · exact (mem_appended fun key hkey => h.wire key (Or.inl hkey)).mpr
        ⟨fog, rfl, hkey, hseen, hwire⟩
    · rw [TileDelta.isStamped_stamp]
      rfl

theorem mem_fanOut_entered (h : f.Consistent) {key : TileKey W} (hkey : key ∈ f.stamp.entered) :
    ∃ e ∈ f.sent, e.tile = key ∧ e.isStamped .VISIBLE = true := by
  rw [sent_eq]
  by_cases hseen : key ∈ f.kept.map TileDelta.tile
  · obtain ⟨d, hd, rfl⟩ := List.mem_map.mp hseen
    refine ⟨f.stamp.stampDelta d,
      List.mem_append_left _ (List.mem_append_left _ (List.mem_map_of_mem hd)),
      stampDelta_tile h d, ?_⟩
    rcases stampDelta_cases h d with ⟨hleft, _⟩ | ⟨_, _, shown, _, heq⟩ | ⟨_, hnot, _⟩
    · exact absurd hkey (h.disjoint d.tile hleft)
    · rw [heq, TileDelta.isStamped_stamp]
      rfl
    · exact absurd hkey hnot
  · obtain ⟨reveal, hwire, rfl⟩ := h.wire key (Or.inr hkey)
    refine ⟨reveal.stamp .VISIBLE, List.mem_append_right _ ?_, rfl, ?_⟩
    · exact (mem_appended fun key hkey => h.wire key (Or.inr hkey)).mpr
        ⟨reveal, rfl, hkey, hseen, hwire⟩
    · rw [TileDelta.isStamped_stamp]
      rfl

theorem countP_tile_eq_one {entries : List (TileDelta W)}
    (hnodup : (entries.map TileDelta.tile).Nodup) {key : TileKey W} {stamped : TileDelta W → Bool}
    (hmem : ∃ e ∈ entries, e.tile = key ∧ stamped e = true) :
    entries.countP (fun d => decide (d.tile = key) && stamped d) = 1 := by
  induction entries with
  | nil =>
      obtain ⟨e, he, _⟩ := hmem
      exact absurd he List.not_mem_nil
  | cons d entries ih =>
      rw [List.map_cons, List.nodup_cons] at hnodup
      obtain ⟨e, he, htile, hstamped⟩ := hmem
      rcases List.mem_cons.mp he with rfl | he
      · -- the rest of the entries are about other tiles
        have hrest : entries.countP (fun d => decide (d.tile = key) && stamped d) = 0 := by
          rw [List.countP_eq_zero]
          intro d hd hcond
          simp only [Bool.and_eq_true, decide_eq_true_eq] at hcond
          exact hnodup.1 (htile.trans hcond.1.symm ▸ List.mem_map_of_mem hd)
        rw [List.countP_cons, hrest]
        simp [htile, hstamped]
      · have hother : d.tile ≠ key := by
          intro hd
          exact hnodup.1 (hd.trans htile.symm ▸ List.mem_map_of_mem he)
        rw [List.countP_cons, ih hnodup.2 ⟨e, he, htile, hstamped⟩]
        simp [hother]

theorem fog_left (h : f.Consistent) {e : TileDelta W} (he : e ∈ f.sent)
    (hfog : e.isStamped .FOG = true) : e.tile ∈ f.stamp.left := by
  rw [sent_eq] at he
  rcases List.mem_append.mp he with hfront | hentered
  · rcases List.mem_append.mp hfront with hkept | hleft
    · obtain ⟨d, _, rfl⟩ := List.mem_map.mp hkept
      rw [stampDelta_tile h]
      rcases stampDelta_cases h d with ⟨hleft, _⟩ | ⟨_, _, shown, _, heq⟩ | ⟨_, _, heq⟩
      · exact hleft
      · rw [heq, TileDelta.isStamped_stamp] at hfog
        cases hfog
      · rw [heq, TileDelta.isStamped_stamp] at hfog
        cases hfog
    · obtain ⟨d, rfl, hmem, _⟩ := (mem_appended fun key hkey => h.wire key (Or.inl hkey)).mp hleft
      exact hmem
  · obtain ⟨d, rfl, _⟩ := (mem_appended fun key hkey => h.wire key (Or.inr hkey)).mp hentered
    rw [TileDelta.isStamped_stamp] at hfog
    cases hfog

/-! ## §5. Tiles out of sight. -/

theorem sees_of_outOfSight {primaryPlayer : WirePlayer}
    (hplayer : f.filter.players f.playerId = some primaryPlayer) {key : TileKey W}
    (hout : f.OutOfSight key) : f.filter.sees f.playerId primaryPlayer key = false := by
  have hcovered := hout.uncovered
  have hdock := hout.noDock
  unfold covered at hcovered
  unfold dockRevealed at hdock
  rw [hplayer] at hcovered hdock
  dsimp only at hcovered
  rw [Option.any_some] at hdock
  unfold VisibilityFilterDeps.sees
  rw [hcovered, hout.noLockOrigin, hdock]
  rfl

theorem mem_kept_outOfSight (h : f.Consistent) {e : TileDelta W} (hout : f.OutOfSight e.tile) :
    e ∈ f.kept ↔
      f.filter.players f.playerId ≠ none
        ∧ ∃ d ∈ f.tileDeltas, d.tile = e.tile ∧ ownerIdCleared d = true ∧ e = ownershipClear d := by
  unfold kept filterTileDeltasForPlayer
  cases hplayer : f.filter.players f.playerId with
  | none => simp
  | some primaryPlayer =>
      dsimp only
      rw [h.noFullVision, if_neg (by decide), List.mem_filterMap]
      have hfilter : ∀ d ∈ f.tileDeltas, d.tile = e.tile →
          filterDelta f.filter f.playerId primaryPlayer true d
            = if ownerIdCleared d then some (ownershipClear d) else none := by
        intro d hd htile
        refine filterDelta_of_outOfSight (hout.unforced d hd htile) ?_ ?_
        · rw [htile]
          exact sees_of_outOfSight hplayer hout
        · rw [htile]
          exact hout.noLockTarget
      constructor
      · rintro ⟨d, hd, hkept⟩
        have htile := (filterDelta_tile hkept).symm
        rw [hfilter d hd htile] at hkept
        split at hkept
        · rename_i hcleared
          exact ⟨by simp, d, hd, htile, hcleared, (Option.some.inj hkept).symm⟩
        · cases hkept
      · rintro ⟨_, d, hd, htile, hcleared, heq⟩
        refine ⟨d, hd, ?_⟩
        rw [hfilter d hd htile, if_pos hcleared, heq]

theorem mem_sent_outOfSight (h : f.Consistent) {e : TileDelta W} (hout : f.OutOfSight e.tile) :
    e ∈ f.sent ↔ ∃ d ∈ f.kept, d.tile = e.tile ∧ e = d.stamp .VISIBLE := by
  have hnotLeft := hout.notLeft
  have hnotEntered : e.tile ∉ f.stamp.entered := by
    intro hmem
    have := h.enteredCovered e.tile hmem
    rw [hout.uncovered] at this
    cases this
  rw [sent_eq]
  constructor
  · intro he
    rcases List.mem_append.mp he with hfront | hentered
    · rcases List.mem_append.mp hfront with hkept | hleft
      · obtain ⟨d, hd, heq⟩ := List.mem_map.mp hkept
        have htile : d.tile = e.tile := by
          rw [← heq, stampDelta_tile h]
        refine ⟨d, hd, htile, ?_⟩
        rcases stampDelta_cases h d with ⟨hmem, _⟩ | ⟨hmem, _⟩ | ⟨_, _, hstamp⟩
        · exact absurd (htile ▸ hmem) hnotLeft
        · exact absurd (htile ▸ hmem) hnotEntered
        · rw [← heq, hstamp]
      · obtain ⟨d, rfl, hmem, _⟩ := (mem_appended fun key hkey => h.wire key (Or.inl hkey)).mp hleft
        exact absurd hmem hnotLeft
    · obtain ⟨d, rfl, hmem, _⟩ :=
        (mem_appended fun key hkey => h.wire key (Or.inr hkey)).mp hentered
      exact absurd hmem hnotEntered
  · rintro ⟨d, hd, htile, heq⟩
    refine List.mem_append_left _ (List.mem_append_left _ (List.mem_map.mpr ⟨d, hd, ?_⟩))
    rcases stampDelta_cases h d with ⟨hmem, _⟩ | ⟨hmem, _⟩ | ⟨_, _, hstamp⟩
    · exact absurd (htile ▸ hmem) hnotLeft
    · exact absurd (htile ▸ hmem) hnotEntered
    · rw [hstamp, heq]

/-! ## §6. When the fog holds. -/

/-- **The fog of war holds exactly when the batch clears no owner out of the
viewer's sight**: the rest of the promise is kept by every batch, and a
clear that gets through is stamped VISIBLE. -/
theorem fog_of_war_iff (f : FanOut W) (h : f.Consistent) : f.FogHolds ↔ f.ClearsInSight := by
  constructor
  · intro hfog hplayer d hd hcleared hout
    have hkept : ownershipClear d ∈ f.kept :=
      (mem_kept_outOfSight h (e := ownershipClear d) hout).mpr
        ⟨hplayer, d, hd, rfl, hcleared, rfl⟩
    have hsent : (ownershipClear d).stamp .VISIBLE ∈ f.sent :=
      (mem_sent_outOfSight h (e := (ownershipClear d).stamp .VISIBLE) hout).mpr
        ⟨ownershipClear d, hkept, rfl, rfl⟩
    have hunstamped := (hfog.hidden _ hsent hout).2
    rw [TileDelta.isStamped_stamp] at hunstamped
    cases hunstamped
  · intro hclears
    refine
      { once := fanOut_nodup h
        leftFogged := fun key hkey => countP_tile_eq_one (fanOut_nodup h) (mem_fanOut_left h hkey)
        enteredShown := fun key hkey =>
          countP_tile_eq_one (fanOut_nodup h) (mem_fanOut_entered h hkey)
        noOtherFog := fun d hd hfog => fog_left h hd hfog
        hidden := ?_ }
    intro e he hout
    -- nothing at all is sent about the tile
    obtain ⟨d, hd, htile, _⟩ := (mem_sent_outOfSight h hout).mp he
    rw [← htile] at hout
    obtain ⟨hplayer, b, hb, hbtile, hcleared, _⟩ := (mem_kept_outOfSight h hout).mp hd
    exact absurd (hbtile ▸ hout) (hclears hplayer b hb hcleared)

/-! ## §7. A barbarian ghost beyond the fog. -/

/-- A player that sees its own tile at (10, 10) and nothing else. -/
def lonePlayer : VisibilityFilterDeps smallestWorld where
  catalog := ⟨fun _ => none, fun _ => none, fun _ => none⟩
  players := fun p => if p = playerOne then some ⟨[], [], [], none⟩ else none
  tiles := fun _ => none
  locksByTile := []
  docks := []
  dockLinksByDockTileKey := fun _ => []
  territoryTileKeys := fun _ => []
  visibilityCoverage := some fun p key =>
    decide (p = playerOne ∧ key = wrappedTile smallestWorld 10 10)
  hasFullVision := fun _ => false

def abandoned (x y : Int) : TileDelta smallestWorld where
  tile := wrappedTile smallestWorld x y
  members := fun name =>
    if name = "ownerId" ∨ name = "ownershipState" then some .undefined
    else if name = "terrain" then some (.text "LAND")
    else none

/-- One tile is abandoned and no vision changes. -/
def abandonedAt (x y : Int) : FanOut smallestWorld where
  filter := lonePlayer
  stamp := ⟨none, none, fun _ => none⟩
  tileDeltas := [abandoned x y]
  playerId := playerOne

theorem abandonedAt_consistent (x y : Int) : (abandonedAt x y).Consistent where
  noFullVision := rfl
  nodup := List.nodup_singleton _
  disjoint := fun key hkey => (by cases hkey)
  enteredCovered := fun key hkey => (by cases hkey)
  leftUncovered := fun key hkey => (by cases hkey)
  wire := fun key hkey => by
    rcases hkey with hkey | hkey
    · cases hkey
    · cases hkey

/-- The clear of a tile far from the player reaches it stamped VISIBLE. -/
theorem distant_clear_stamped_visible :
    ¬ ∀ f : FanOut smallestWorld, f.Consistent → f.FogHolds := by
  intro hclaim
  have hfog := hclaim (abandonedAt 40 40) (abandonedAt_consistent 40 40)
  have hsent : (ownershipClear (abandoned 40 40)).stamp .VISIBLE ∈ (abandonedAt 40 40).sent :=
    List.mem_singleton.mpr rfl
  have hout : (abandonedAt 40 40).OutOfSight (wrappedTile smallestWorld 40 40) :=
    { uncovered := by decide
      noLockOrigin := rfl
      noLockTarget := rfl
      noDock := rfl
      notLeft := fun hmem => (by cases hmem)
      unforced := fun d hd _ => by
        obtain rfl := List.mem_singleton.mp hd
        rfl }
  have hunstamped := (hfog.hidden _ hsent hout).2
  rw [TileDelta.isStamped_stamp] at hunstamped
  cases hunstamped

/-- The player attacks (30, 30) and has moved on from (20, 10) to (12, 10). -/
def raid : FanOut smallestWorld where
  filter :=
    { lonePlayer with
      locksByTile := [⟨playerOne, wrappedTile smallestWorld 10 10, wrappedTile smallestWorld 30 30⟩]
      visibilityCoverage := some fun p key =>
        decide (p = playerOne ∧ key ∈ [wrappedTile smallestWorld 10 10,
          wrappedTile smallestWorld 12 10]) }
  stamp :=
    { leftVisionTileKeys := some ⟨[wrappedTile smallestWorld 20 10], List.nodup_singleton _⟩
      enteredVisionTileKeys := some ⟨[wrappedTile smallestWorld 12 10], List.nodup_singleton _⟩
      wireDeltaForTileKey := fun key => some ⟨key, fun _ => none⟩ }
  tileDeltas := [abandoned 10 10, abandoned 20 10, abandoned 30 30,
    (abandoned 40 40).put "forceVisibleForPlayerId" (.text playerOne.text)]
  playerId := playerOne

theorem raid_consistent : raid.Consistent where
  noFullVision := rfl
  nodup := by decide
  disjoint := fun key hkey => List.mem_singleton.mp hkey ▸ by decide
  enteredCovered := fun key hkey => List.mem_singleton.mp hkey ▸ by decide
  leftUncovered := fun key hkey => List.mem_singleton.mp hkey ▸ by decide
  wire := fun _ _ => ⟨_, rfl, rfl⟩

/-- Four clears: of a tile in sight, of one that left it, of a lock's target,
and one that is forced. -/
theorem fog_of_war_iff_raid : raid.FogHolds := by
  refine (fog_of_war_iff raid raid_consistent).mpr ?_
  intro _ d hd _ hout
  simp only [raid, List.mem_cons, List.not_mem_nil, or_false] at hd
  rcases hd with rfl | rfl | rfl | rfl
  · have hcovered : raid.covered (abandoned 10 10).tile = true := by decide
    exact Bool.false_ne_true (hout.uncovered.symm.trans hcovered)
  · exact hout.notLeft (by decide)
  · have hlock := hout.noLockTarget
    cases hlock
  · have hforced := hout.unforced _ (by simp [raid]) rfl
    cases hforced

end FanOut

end BorderEmpires.Vision
