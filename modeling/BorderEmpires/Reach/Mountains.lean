/-
  BorderEmpires.Reach.Mountains
  **MOUNTAINS RAISED AND REMOVED UNDER A STANDING BORDER.**

  Terrain Shaping turns LAND into MOUNTAIN and back, and a landing AFC
  flattens the mountains of its footprint.  None of this touches the
  border, yet every disk is recomputed on the land of the day: a mountain
  can cut ground off from the anchor that was granted it.
-/
import BorderEmpires.Reach.BorderRuns

namespace BorderEmpires

variable {W : WorldSize}

/-! ## §1. Terrain edits. -/

structure ShapingTile where
  terrain : Terrain
  ownerId : Option PlayerId
  ownershipState : Option OwnershipState
  hasTown : Bool
  hasDockId : Bool
  hasFort : Bool
  hasObservatory : Bool
  hasSiegeBattery : Bool
  hasEconomicStructure : Bool
  hasSabotage : Bool
  hasNaturalWonder : Bool
  hasMuster : Bool
  deriving DecidableEq

abbrev ShapingTiles (W : WorldSize) := InsertionMap (TileKey W) ShapingTile

structure CommandRejection where
  code : String
  message : String
  deriving DecidableEq

/-- The acting player's side of a command: the tech he needs and what the
runtime's helpers answer for him. -/
structure ShapingActor (W : WorldSize) where
  hasTerrainEngineering : Bool
  isAlliedOrTruced : PlayerId → Bool
  ownedLandWithinRange : TileKey W → Nat → Bool
  isTileShieldedByEnemyObservatory : TileKey W → Bool
  pickReadyOwnedObservatoryForTarget : TileKey W → Option (TileKey W)

/-- `actor` is none for an unknown player, `payload` for one that does not
parse; a parsed payload names a tile of the world or none. -/
structure ShapingCommand (W : WorldSize) where
  actor : Option (ShapingActor W)
  payload : Option (Option (TileKey W))

/-- An accepted command: the tower that spends a shot, and the tile write. -/
structure TerrainEdit (W : WorldSize) where
  observatoryKey : TileKey W
  targetKey : TileKey W
  updatedTile : ShapingTile

/-- A hostile owner's active Aether Tower shields his own tiles only. -/
def isTargetShieldedByHostileAmbaricTransformer (actor : ShapingActor W) (targetKey : TileKey W)
    (target : ShapingTile) : Bool :=
  match target.ownerId with
  | none => false
  | some ownerId =>
      if actor.isAlliedOrTruced ownerId then false
      else actor.isTileShieldedByEnemyObservatory targetKey

def targetOf (tiles : ShapingTiles W) (payload : Option (TileKey W)) :
    Option (TileKey W × ShapingTile) :=
  payload.bind fun targetKey => (tiles.get targetKey).map (targetKey, ·)

/-- `!target || target.terrain !== "LAND" || target.town || …`, negated. -/
def ShapingTile.canBecomeMountain (target : ShapingTile) : Bool :=
  decide (target.terrain = .LAND) && !target.hasTown && !target.hasDockId && !target.hasFort
    && !target.hasObservatory && !target.hasSiegeBattery && !target.hasEconomicStructure

/-- The tile as a mountain: nobody's, and stripped of what stood on it. -/
def ShapingTile.raised (target : ShapingTile) : ShapingTile :=
  { target with
    terrain := .MOUNTAIN
    ownerId := none
    ownershipState := none
    hasSabotage := false
    hasFort := false
    hasObservatory := false
    hasNaturalWonder := false
    hasSiegeBattery := false
    hasEconomicStructure := false
    hasMuster := false }

def ShapingTile.flattened (target : ShapingTile) : ShapingTile := { target with terrain := .LAND }

def CREATE_MOUNTAIN_RANGE : Nat := 2

def handleCreateMountainCommand (tiles : ShapingTiles W) (command : ShapingCommand W) :
    Except CommandRejection (TerrainEdit W) :=
  match command.actor, command.payload with
  | some actor, some payload =>
      if !actor.hasTerrainEngineering then
        .error ⟨"CREATE_MOUNTAIN_INVALID", "requires Geoform Engine Module"⟩
      else
        match targetOf tiles payload with
        | none => .error ⟨"CREATE_MOUNTAIN_INVALID", "cannot create mountain on this tile"⟩
        | some (targetKey, target) =>
            if !target.canBecomeMountain then
              .error ⟨"CREATE_MOUNTAIN_INVALID", "cannot create mountain on this tile"⟩
            else if !actor.ownedLandWithinRange targetKey CREATE_MOUNTAIN_RANGE then
              .error ⟨"CREATE_MOUNTAIN_INVALID", "target must be within 2 tiles of your land"⟩
            else if isTargetShieldedByHostileAmbaricTransformer actor targetKey target then
              .error ⟨"CREATE_MOUNTAIN_INVALID", "blocked by an Aether Tower"⟩
            else
              match actor.pickReadyOwnedObservatoryForTarget targetKey with
              | none => .error ⟨"CREATE_MOUNTAIN_INVALID", "no ready aether tower in range"⟩
              | some observatoryKey => .ok ⟨observatoryKey, targetKey, target.raised⟩
  | _, _ => .error ⟨"BAD_COMMAND", "invalid command payload"⟩

def handleRemoveMountainCommand (tiles : ShapingTiles W) (command : ShapingCommand W) :
    Except CommandRejection (TerrainEdit W) :=
  match command.actor, command.payload with
  | some actor, some payload =>
      if !actor.hasTerrainEngineering then
        .error ⟨"REMOVE_MOUNTAIN_INVALID", "requires Geoform Engine Module"⟩
      else
        match targetOf tiles payload with
        | none => .error ⟨"REMOVE_MOUNTAIN_INVALID", "target must be mountain"⟩
        | some (targetKey, target) =>
            if target.terrain ≠ .MOUNTAIN then
              .error ⟨"REMOVE_MOUNTAIN_INVALID", "target must be mountain"⟩
            else if isTargetShieldedByHostileAmbaricTransformer actor targetKey target then
              .error ⟨"REMOVE_MOUNTAIN_INVALID", "blocked by an Aether Tower"⟩
            else
              match actor.pickReadyOwnedObservatoryForTarget targetKey with
              | none => .error ⟨"REMOVE_MOUNTAIN_INVALID", "no ready aether tower in range"⟩
              | some observatoryKey => .ok ⟨observatoryKey, targetKey, target.flattened⟩
  | _, _ => .error ⟨"BAD_COMMAND", "invalid command payload"⟩

def AFC_LANDING_FOOTPRINT_RADIUS : Nat := 1

/-- One tile of the footprint loop. -/
def flattenTile (tiles : ShapingTiles W) (tileKey : TileKey W) : ShapingTiles W :=
  match tiles.get tileKey with
  | none => tiles
  | some tile =>
      if tile.terrain ≠ .MOUNTAIN then tiles else tiles.set tileKey tile.flattened

def prepareAfcLandingFootprint (tiles : ShapingTiles W) (x y : Int) : ShapingTiles W :=
  (squareTileKeys W x y AFC_LANDING_FOOTPRINT_RADIUS).foldl flattenTile tiles

/-- `isLandTileQuery`: a tile the world does not hold counts as land. -/
def isLandTileQuery (tiles : ShapingTiles W) : LandConnectivityQuery W := fun key =>
  match tiles.get key with
  | none => true
  | some tile => decide (tile.terrain = .LAND)

def withMountain (isLand : LandConnectivityQuery W) (key : TileKey W) : LandConnectivityQuery W :=
  fun k => if key = k then false else isLand k

/-! ## §2. Runs. -/

structure ShapingState (W : WorldSize) where
  tiles : ShapingTiles W
  reach : ReachState W

/-- A world before its first anchor. -/
def ShapingState.start (tiles : ShapingTiles W) : ShapingState W := ⟨tiles, .initial⟩

def ShapingState.isLand (s : ShapingState W) : LandConnectivityQuery W := isLandTileQuery s.tiles

/-- `writeTile` is every other write to a tile the world holds: it spreads
the tile and leaves its terrain alone. -/
inductive ShapingEvent (W : WorldSize) where
  | reach (event : ReachEvent W)
  | createMountain (command : ShapingCommand W)
  | removeMountain (command : ShapingCommand W)
  | prepareAfcLandingFootprint (x y : Int)
  | writeTile (tileKey : TileKey W) (change : ShapingTile → ShapingTile)

def ReachState.apply (landConnectivity : Option (LandConnectivityQuery W)) (s : ReachState W) :
    ReachEvent W → ReachState W
  | .activate anchor settledOwnerAt => s.activate landConnectivity anchor settledOwnerAt
  | .deactivate anchor rivalOwnerIds => s.deactivate landConnectivity anchor rivalOwnerIds

def ShapingState.withTiles (s : ShapingState W) (tiles : ShapingTiles W) : ShapingState W :=
  { s with tiles := tiles }

def ShapingState.applyEdit (s : ShapingState W) :
    Except CommandRejection (TerrainEdit W) → ShapingState W
  | .error _ => s
  | .ok edit => s.withTiles (s.tiles.set edit.targetKey edit.updatedTile)

def writeTile (tiles : ShapingTiles W) (tileKey : TileKey W) (change : ShapingTile → ShapingTile) :
    ShapingTiles W :=
  match tiles.get tileKey with
  | none => tiles
  | some tile => tiles.set tileKey { change tile with terrain := tile.terrain }

/-- One event; anchors come and go on the land of the moment. -/
def ShapingState.step (s : ShapingState W) : ShapingEvent W → ShapingState W
  | .reach event => { s with reach := s.reach.apply (some s.isLand) event }
  | .createMountain command => s.applyEdit (handleCreateMountainCommand s.tiles command)
  | .removeMountain command => s.applyEdit (handleRemoveMountainCommand s.tiles command)
  | .prepareAfcLandingFootprint x y =>
      s.withTiles (BorderEmpires.prepareAfcLandingFootprint s.tiles x y)
  | .writeTile tileKey change => s.withTiles (BorderEmpires.writeTile s.tiles tileKey change)

/-! ## §3. What an edit does to the land. -/

variable (tiles : ShapingTiles W) {s : ShapingState W}

theorem isLandTileQuery_set (key : TileKey W) (tile : ShapingTile) :
    isLandTileQuery (tiles.set key tile)
      = fun k => if key = k then decide (tile.terrain = .LAND) else isLandTileQuery tiles k := by
  funext k
  unfold isLandTileQuery
  rw [InsertionMap.get_set]
  by_cases hk : key = k
  · rw [if_pos hk, if_pos hk]
  · rw [if_neg hk, if_neg hk]

theorem get_of_targetOf {tiles : ShapingTiles W} {payload : Option (TileKey W)} {targetKey : TileKey W}
    {target : ShapingTile} (h : targetOf tiles payload = some (targetKey, target)) :
    tiles.get targetKey = some target := by
  obtain ⟨key, _, hget⟩ := Option.bind_eq_some_iff.mp h
  obtain ⟨tile, htile, hpair⟩ := Option.map_eq_some_iff.mp hget
  cases hpair
  exact htile

theorem handleCreateMountainCommand_ok {tiles : ShapingTiles W} {command : ShapingCommand W}
    {edit : TerrainEdit W} (h : handleCreateMountainCommand tiles command = .ok edit) :
    ∃ target, tiles.get edit.targetKey = some target ∧ target.terrain = .LAND
      ∧ edit.updatedTile = target.raised := by
  unfold handleCreateMountainCommand at h
  split at h
  swap
  · cases h
  · rename_i actor payload _ _
    split at h
    · cases h
    cases htarget : targetOf tiles payload with
    | none => rw [htarget] at h; cases h
    | some found =>
        obtain ⟨targetKey, target⟩ := found
        rw [htarget] at h
        dsimp only at h
        have htile := get_of_targetOf htarget
        split at h
        · cases h
        rename_i hcan
        split at h
        · cases h
        split at h
        · cases h
        split at h
        · cases h
        cases h
        refine ⟨target, htile, ?_, rfl⟩
        simp [ShapingTile.canBecomeMountain] at hcan
        exact hcan.1.1.1.1.1.1

theorem handleRemoveMountainCommand_ok {tiles : ShapingTiles W} {command : ShapingCommand W}
    {edit : TerrainEdit W} (h : handleRemoveMountainCommand tiles command = .ok edit) :
    ∃ target, tiles.get edit.targetKey = some target ∧ target.terrain = .MOUNTAIN
      ∧ edit.updatedTile = target.flattened := by
  unfold handleRemoveMountainCommand at h
  split at h
  swap
  · cases h
  · rename_i actor payload _ _
    split at h
    · cases h
    cases htarget : targetOf tiles payload with
    | none => rw [htarget] at h; cases h
    | some found =>
        obtain ⟨targetKey, target⟩ := found
        rw [htarget] at h
        dsimp only at h
        have htile := get_of_targetOf htarget
        split at h
        · cases h
        rename_i hmountain
        split at h
        · cases h
        split at h
        · cases h
        · cases h
          exact ⟨target, htile, by simpa using hmountain, rfl⟩

def LandGrows (isLand isLand' : LandConnectivityQuery W) : Prop :=
  ∀ k, isLand k = true → isLand' k = true

theorem isLandTileQuery_raised {tiles : ShapingTiles W} {key : TileKey W} (target : ShapingTile) :
    isLandTileQuery (tiles.set key target.raised) = withMountain (isLandTileQuery tiles) key := by
  rw [isLandTileQuery_set]
  rfl

theorem landGrows_flattened (key : TileKey W) (target : ShapingTile) :
    LandGrows (isLandTileQuery tiles) (isLandTileQuery (tiles.set key target.flattened)) := by
  intro k hk
  rw [isLandTileQuery_set]
  by_cases hkey : key = k
  · simp [hkey, ShapingTile.flattened]
  · simp [hkey, hk]

theorem landGrows_footprint (x y : Int) :
    LandGrows (isLandTileQuery tiles) (isLandTileQuery (prepareAfcLandingFootprint tiles x y)) := by
  unfold prepareAfcLandingFootprint
  generalize squareTileKeys W x y AFC_LANDING_FOOTPRINT_RADIUS = keys
  induction keys generalizing tiles with
  | nil => exact fun k hk => hk
  | cons key keys ih =>
      intro k hk
      refine ih (flattenTile tiles key) k ?_
      unfold flattenTile
      cases tiles.get key with
      | none => exact hk
      | some tile =>
          dsimp only
          split
          · exact hk
          · exact landGrows_flattened tiles key tile k hk

theorem isLandTileQuery_writeTile (key : TileKey W) (change : ShapingTile → ShapingTile) :
    isLandTileQuery (writeTile tiles key change) = isLandTileQuery tiles := by
  unfold writeTile
  cases hget : tiles.get key with
  | none => rfl
  | some tile =>
      dsimp only
      rw [isLandTileQuery_set]
      funext k
      by_cases hk : key = k
      · subst hk
        simp [isLandTileQuery, hget]
      · simp [hk]

theorem tileKeysInReach_mono {isLand isLand' : LandConnectivityQuery W}
    (h : LandGrows isLand isLand') {anchor : ReachAnchor} {k : TileKey W}
    (hk : k ∈ tileKeysInReach anchor (some isLand)) :
    k ∈ tileKeysInReach anchor (some isLand') := by
  unfold tileKeysInReach at hk ⊢
  dsimp only at hk ⊢
  by_cases hwater : anchor.crossesWater = true
  · rw [if_pos hwater] at hk ⊢
    exact hk
  · rw [if_neg hwater, mem_landGatedTileKeysInDisk_iff] at hk ⊢
    exact hk.mono h

/-! ## §4. What a run keeps. -/

def Sound (isLand : LandConnectivityQuery W) (reach : ReachState W) : Prop :=
  ∀ key o, reach.border.get key = some o → Covers (some isLand) reach.active key o

/-- A new mountain leaves every border entry inside the disk of a live anchor
of its owner.  Everything else may happen freely. -/
def ClosesNothing (s : ShapingState W) : ShapingEvent W → Prop
  | .createMountain command =>
      ∀ edit, handleCreateMountainCommand s.tiles command = .ok edit →
        Sound (withMountain s.isLand edit.targetKey) s.reach
  | _ => True

/-- Whichever live anchor is deactivated next, its owner is left no border
entry that his live anchors do not cover. -/
def Vacates (s : ShapingState W) : Prop :=
  ∀ anchor ∈ s.reach.active, ∀ (rivalOwnerIds : List PlayerId) (key : TileKey W),
    let after := s.reach.deactivate (some s.isLand) anchor rivalOwnerIds
    after.border.get key = some anchor.ownerId →
      Covers (some s.isLand) after.active key anchor.ownerId

theorem Sound.grow {isLand isLand' : LandConnectivityQuery W} {reach : ReachState W}
    (h : Sound isLand reach) (hgrows : LandGrows isLand isLand') : Sound isLand' reach := by
  intro key o ho
  obtain ⟨anchor, hlive, hown, hk⟩ := h key o ho
  exact ⟨anchor, hlive, hown, tileKeysInReach_mono hgrows hk⟩

theorem Sound.activate {isLand : LandConnectivityQuery W} {reach : ReachState W}
    (h : Sound isLand reach) (anchor : ReachAnchor) (settledOwnerAt : TileKey W → Option PlayerId) :
    Sound isLand (reach.activate (some isLand) anchor settledOwnerAt) := by
  intro key o ho
  show Covers (some isLand) (reach.active ++ [anchor]) key o
  rw [reach.activate_get (some isLand)] at ho
  rw [covers_append_iff]
  split at ho
  · rename_i hk
    rcases grantedOwner_cases anchor _ settledOwnerAt key (reach.border.get key) with hg | ⟨hg, _⟩
    · rw [hg] at ho
      cases ho
      exact Or.inr ⟨rfl, hk⟩
    · rw [hg] at ho
      exact Or.inl (h key o ho)
  · exact Or.inl (h key o ho)

/-- **A deactivation leaves nothing uncovered**: inside today's disk the
tiles are reassessed, outside it the anchor covered none of them. -/
theorem Sound.deactivate {isLand : LandConnectivityQuery W} {reach : ReachState W}
    (h : Sound isLand reach) (anchor : ReachAnchor) (rivalOwnerIds : List PlayerId) :
    Sound isLand (reach.deactivate (some isLand) anchor rivalOwnerIds) := by
  intro key o ho
  show Covers (some isLand) (reach.active.erase anchor) key o
  rw [reach.deactivate_get (some isLand)] at ho
  have hother : ∀ o, reach.border.get key = some o →
      (o = anchor.ownerId → key ∉ tileKeysInReach anchor (some isLand)
        ∨ key ∈ liveReachForOwner o (reach.active.erase anchor) (some isLand)) →
      Covers (some isLand) (reach.active.erase anchor) key o := by
    intro o hentry hmine
    obtain ⟨a, hlive, hown, hk⟩ := h key o hentry
    by_cases ha : a = anchor
    · subst ha
      rcases hmine hown.symm with hout | hin
      · exact absurd hk hout
      · exact mem_liveReach_iff_covers.mp hin
    · exact ⟨a, (List.mem_erase_of_ne ha).mpr hlive, hown, hk⟩
  by_cases hk : key ∈ tileKeysInReach anchor (some isLand)
  · rw [if_pos hk] at ho
    unfold reassessedOwner at ho
    split at ho
    · have hrival := List.find?_some ho
      rw [Bool.and_eq_true, decide_eq_true_eq, decide_eq_true_eq] at hrival
      exact mem_liveReach_iff_covers.mp hrival.2
    · rename_i hkept
      refine hother o ho fun hmine => Or.inr ?_
      by_contra hlost
      exact hkept ⟨by rw [ho, hmine], hmine ▸ hlost⟩
  · rw [if_neg hk] at ho
    exact hother o ho fun _ => Or.inl hk

theorem Sound.vacates (h : Sound s.isLand s.reach) : Vacates s :=
  fun anchor _ rivalOwnerIds key => h.deactivate anchor rivalOwnerIds key anchor.ownerId

/-! ## §5. When nothing is left behind. -/

theorem sound_withTiles {tiles : ShapingTiles W} (h : Sound (isLandTileQuery tiles) s.reach) :
    Sound (s.withTiles tiles).isLand (s.withTiles tiles).reach := h

theorem sound_applyEdit (h : Sound s.isLand s.reach)
    {result : Except CommandRejection (TerrainEdit W)}
    (hedit : ∀ edit, result = .ok edit →
      Sound (isLandTileQuery (s.tiles.set edit.targetKey edit.updatedTile)) s.reach) :
    Sound (s.applyEdit result).isLand (s.applyEdit result).reach := by
  cases result with
  | error rejection => exact h
  | ok edit => exact sound_withTiles (hedit edit rfl)

/-- **One step**: only a mountain that closes something off leaves an entry
uncovered. -/
theorem sound_step {event : ShapingEvent W} (h : Sound s.isLand s.reach)
    (hmeets : ClosesNothing s event) : Sound (s.step event).isLand (s.step event).reach := by
  cases event with
  | reach event =>
      cases event with
      | activate anchor settledOwnerAt => exact h.activate anchor settledOwnerAt
      | deactivate anchor rivalOwnerIds => exact h.deactivate anchor rivalOwnerIds
  | createMountain command =>
      refine sound_applyEdit h fun edit hok => ?_
      obtain ⟨target, _, _, hraised⟩ := handleCreateMountainCommand_ok hok
      rw [hraised, isLandTileQuery_raised]
      exact hmeets edit hok
  | removeMountain command =>
      refine sound_applyEdit h fun edit hok => ?_
      obtain ⟨target, _, _, hflat⟩ := handleRemoveMountainCommand_ok hok
      rw [hflat]
      exact h.grow (landGrows_flattened _ _ _)
  | prepareAfcLandingFootprint x y =>
      exact sound_withTiles (h.grow (landGrows_footprint s.tiles x y))
  | writeTile tileKey change =>
      refine sound_withTiles ?_
      rw [isLandTileQuery_writeTile]
      exact h

theorem closesNothing_of_vacates {event : ShapingEvent W} (h : Sound s.isLand s.reach)
    (hvacates : Vacates (s.step event)) : ClosesNothing s event := by
  cases event with
  | createMountain command =>
      intro edit hok key o ho
      obtain ⟨target, _, _, hraised⟩ := handleCreateMountainCommand_ok hok
      obtain ⟨anchor, hlive, hown, _⟩ := h key o ho
      have hstep : s.step (.createMountain command)
          = s.withTiles (s.tiles.set edit.targetKey edit.updatedTile) := by
        show s.applyEdit (handleCreateMountainCommand s.tiles command) = _
        rw [hok]
        rfl
      rw [hstep, hraised] at hvacates
      have hland : (s.withTiles (s.tiles.set edit.targetKey target.raised)).isLand
          = withMountain s.isLand edit.targetKey := isLandTileQuery_raised target
      by_contra hcut
      have hout : ∀ a ∈ s.reach.active, a.ownerId = o →
          key ∉ tileKeysInReach a (some (withMountain s.isLand edit.targetKey)) :=
        fun a ha hao hk => hcut ⟨a, ha, hao, hk⟩
      have hleft := hvacates anchor hlive [] key
      dsimp only at hleft
      rw [hland, ReachState.deactivate_get, if_neg (hout anchor hlive hown), hown] at hleft
      obtain ⟨a, ha, hao, hk⟩ := hleft ho
      exact hout a (List.mem_of_mem_erase ha) hao hk
  | _ => exact trivial

/-- The invariant of a run that closes nothing off. -/
def ShapingState.SoundNow (s : ShapingState W) : Prop := Sound s.isLand s.reach

theorem soundNow_start : (ShapingState.start tiles).SoundNow := by
  intro key o ho
  exact absurd ho (Option.some_ne_none o).symm

theorem ShapingState.SoundNow.step {s : ShapingState W} (h : s.SoundNow) {event : ShapingEvent W}
    (hmeets : ClosesNothing s event) : (s.step event).SoundNow :=
  sound_step h hmeets

theorem ShapingState.SoundNow.vacates (h : s.SoundNow) : Vacates s := Sound.vacates h

theorem ShapingState.SoundNow.vacates_step_iff (h : s.SoundNow) {event : ShapingEvent W} :
    Vacates (s.step event) ↔ ClosesNothing s event :=
  Iff.intro (closesNothing_of_vacates h) fun hmeets => (h.step hmeets).vacates

/-- **Over every run: whatever anchor is deactivated, at whatever point, its
owner is left nothing uncovered — exactly when no mountain of the run
closes a border entry off.** -/
theorem vacates_iff_closesNothing (tiles : ShapingTiles W) (events : List (ShapingEvent W)) :
    Run.Along ShapingState.step Vacates (.start tiles) events
      ↔ Run.StepsMeet ShapingState.step ClosesNothing (.start tiles) events :=
  Run.along_iff_stepsMeet (I := ShapingState.SoundNow)
    (fun _ _ h _ hmeets => h.step hmeets) (fun _ _ h _ => h.vacates_step_iff) events
    (.start tiles) (soundNow_start tiles) (soundNow_start tiles).vacates

def bareTile (terrain : Terrain) : ShapingTile where
  terrain := terrain
  ownerId := none
  ownershipState := none
  hasTown := false
  hasDockId := false
  hasFort := false
  hasObservatory := false
  hasSiegeBattery := false
  hasEconomicStructure := false
  hasSabotage := false
  hasNaturalWonder := false
  hasMuster := false

/-- A neck of land three tiles long runs east from (10, 10), in open sea. -/
def landNeck : ShapingTiles smallestWorld :=
  .ofEntries ((squareTileKeys smallestWorld 10 10 TOWN_REACH_RADIUS).map fun key =>
    (key, bareTile (if key.y.val = 10 ∧ 10 ≤ key.x.val then .LAND else .SEA)))

def neckTown : ReachAnchor := .plain 10 10 playerOne 1 .TOWN

/-- A rival of player one with a tower at hand; he holds land nearby and
nobody's tower shields the neck. -/
def neckShaper : ShapingActor smallestWorld where
  hasTerrainEngineering := true
  isAlliedOrTruced := fun _ => false
  ownedLandWithinRange := fun _ _ => true
  isTileShieldedByEnemyObservatory := fun _ => false
  pickReadyOwnedObservatoryForTarget := fun _ => some (wrappedTile smallestWorld 14 10)

/-- The town is founded, and a mountain closes the neck behind it. -/
def closedNeck : ShapingState smallestWorld :=
  ((ShapingState.start landNeck).step (.reach (.activate neckTown fun _ => none))).step
    (.createMountain ⟨some neckShaper, some (some (wrappedTile smallestWorld 11 10))⟩)

/-- The town falls, the last anchor of its owner, and the tip of the neck
stays in his border. -/
theorem closedNeck_not_vacated :
    let after := closedNeck.reach.deactivate (some closedNeck.isLand) neckTown []
    let tip := wrappedTile smallestWorld 13 10
    after.border.get tip = some playerOne
      ∧ ¬ Covers (some closedNeck.isLand) after.active tip playerOne := by
  intro after tip
  have hactive : after.active = [] := by
    decide +kernel
  refine ⟨by decide +kernel, ?_⟩
  rw [hactive]
  rintro ⟨anchor, hlive, _⟩
  exact absurd hlive (List.not_mem_nil)

end BorderEmpires
