/-
  BorderEmpires.Checkpoints.Compaction
  **SNAPSHOTS AS THEY ARE STORED.**

  `compactSnapshotForStorage` keeps the overlays of the tiles and copies the
  other sections one by one; `expandSnapshotFromStorage` makes the tiles of
  world generation again, lays the overlays over them and copies the sections
  back.  A memo keeps the overlay of every tile object compacted before; tile
  objects are replaced, never mutated, so what a reference refers to is fixed.
-/
import BorderEmpires.Checkpoints.SnapshotTiles
import BorderEmpires.Lib.Memo

namespace BorderEmpires.Checkpoints

variable {W : WorldSize}

/-! ## §1. Payloads. -/

structure TileRef where
  id : Nat
  deriving DecidableEq

abbrev TileObjects (W : WorldSize) := TileRef → RecoveredTile W

/-- The state of a snapshot; its tiles are tile objects or what was made of
stored ones. -/
structure RecoveredSimulationState (T : Type) where
  tiles : List T
  docks : Option HostObject
  activeLocks : HostObject
  afcGlobalLosses : Option Nat
  season : Option HostObject
  players : Option HostObject
  resourceSupplyAgreements : Option HostObject
  pendingSettlements : Option HostObject
  playerYieldCollectionEpochByPlayer : Option HostObject
  reachBorder : Option HostObject

structure SimulationSnapshotSections (T : Type) where
  initialState : RecoveredSimulationState T
  commandEvents : HostObject

structure V1SnapshotPayload (W : WorldSize) where
  tileOverlay : List (V1OverlayTile W)
  docks : Option HostObject
  activeLocks : HostObject
  season : Option HostObject
  players : Option HostObject
  pendingSettlements : Option HostObject
  playerYieldCollectionEpochByPlayer : Option HostObject
  reachBorder : Option HostObject
  commandEvents : HostObject

def V1SnapshotPayload.json (payload : V1SnapshotPayload W) : V1SnapshotPayload W where
  tileOverlay := payload.tileOverlay.map V1OverlayTile.json
  docks := payload.docks.map HostObject.json
  activeLocks := payload.activeLocks.json
  season := payload.season.map HostObject.json
  players := payload.players.map HostObject.json
  pendingSettlements := payload.pendingSettlements.map HostObject.json
  playerYieldCollectionEpochByPlayer :=
    payload.playerYieldCollectionEpochByPlayer.map HostObject.json
  reachBorder := payload.reachBorder.map HostObject.json
  commandEvents := payload.commandEvents.json

inductive StoredPayload (W : WorldSize) where
  | notAnObject
  | legacy (payload : SimulationSnapshotSections (RecoveredTile W))
  | v1 (payload : V1SnapshotPayload W)

/-- `...(section ? { section } : {})`. -/
def copySection (stored : Option HostObject) : Option HostObject := stored.filter (·.1.truthy)

theorem copySection_eq (stored : Option HostObject) : copySection stored = stored := by
  cases stored with
  | none => rfl
  | some value =>
      exact Option.filter_eq_some_iff.mpr ⟨rfl, HostValue.truthy_of_isObject value.2⟩

/-! ## §2. Writing. -/

def HostObject.ofList (items : List HostValue) : HostObject := ⟨.array items.length items.get, rfl⟩

/-- What the snapshot body is made of; each section as the writer maps it. -/
structure SnapshotExportInput where
  afcGlobalLosses : Option Nat
  resourceSupplyAgreements : Option (List HostValue)
  activeLocks : List HostValue
  players : List HostValue
  pendingSettlements : List HostValue
  playerYieldCollectionEpochByPlayer : List HostValue
  reachBorder : List HostValue
  docks : List HostValue
  commandEvents : List HostValue

def buildSnapshotBody {T : Type} (input : SnapshotExportInput) (tiles : List T) :
    SimulationSnapshotSections T where
  initialState :=
    { tiles := tiles
      afcGlobalLosses := some (input.afcGlobalLosses.getD 0)
      resourceSupplyAgreements :=
        (input.resourceSupplyAgreements.filter (fun rows => rows.length ≠ 0)).map HostObject.ofList
      activeLocks := HostObject.ofList input.activeLocks
      players := some (HostObject.ofList input.players)
      pendingSettlements := some (HostObject.ofList input.pendingSettlements)
      playerYieldCollectionEpochByPlayer :=
        some (HostObject.ofList input.playerYieldCollectionEpochByPlayer)
      reachBorder := some (HostObject.ofList input.reachBorder)
      docks := if input.docks.length ≠ 0 then some (HostObject.ofList input.docks) else none
      season := none }
  commandEvents := HostObject.ofList input.commandEvents

/-- The checkpoint adds the season. -/
def withSeason {T : Type} (season : HostObject) (sections : SimulationSnapshotSections T) :
    SimulationSnapshotSections T :=
  { sections with initialState := { sections.initialState with season := some season } }

/-! ## §3. Compaction. -/

abbrev BaselineIndex (W : WorldSize) := InsertionMap (TileKey W) (RecoveredTile W)

def buildWorldgenBaselineIndex (baselineTiles : List (RecoveredTile W)) : BaselineIndex W :=
  .ofEntries (baselineTiles.map (fun tile => (tile.key, tile)))

abbrev TileOverlayMemo (W : WorldSize) := InsertionMap TileRef (Option (V1OverlayTile W))

def overlayOf (objects : TileObjects W) (baselineIndex : BaselineIndex W) (ref : TileRef) :
    Option (V1OverlayTile W) :=
  buildOverlayForTile (objects ref) (baselineIndex.get (objects ref).key)

structure ForwardPass (W : WorldSize) where
  tileOverlay : List (V1OverlayTile W)
  matchedBaselineCount : Nat
  tileOverlayMemo : Option (TileOverlayMemo W)

def compactTile (objects : TileObjects W) (baselineIndex : BaselineIndex W)
    (pass : ForwardPass W) (ref : TileRef) : ForwardPass W :=
  let baseline := baselineIndex.get (objects ref).key
  let matched :=
    if baseline.isSome then pass.matchedBaselineCount + 1 else pass.matchedBaselineCount
  match pass.tileOverlayMemo.bind (fun memo => memo.get ref) with
  | some overlay => ⟨pass.tileOverlay ++ overlay.toList, matched, pass.tileOverlayMemo⟩
  | none =>
      let overlay := buildOverlayForTile (objects ref) baseline
      ⟨pass.tileOverlay ++ overlay.toList, matched,
        pass.tileOverlayMemo.map (fun memo => memo.set ref overlay)⟩

/-- A tile of the baseline that the runtime does not have, cleared. -/
def clearedTile (tile : RecoveredTile W) : RecoveredTile W where
  key := tile.key
  field := fun f => if f = .terrain then tile.field .terrain else none

/-- The overlays of the baseline tiles that the runtime does not have. -/
def clearedOverlays (objects : TileObjects W) (tiles : List TileRef)
    (baselineIndex : BaselineIndex W) : List (V1OverlayTile W) :=
  (baselineIndex.entries.filter (fun e => e.1 ∉ tiles.map (fun ref => (objects ref).key))).filterMap
    (fun e => buildOverlayForTile (clearedTile e.2) (some e.2))

def compactSnapshotForStorage (objects : TileObjects W)
    (sections : SimulationSnapshotSections TileRef) (baselineIndex : BaselineIndex W)
    (tileOverlayMemo : Option (TileOverlayMemo W)) :
    V1SnapshotPayload W × Option (TileOverlayMemo W) :=
  let initialState := sections.initialState
  let pass := initialState.tiles.foldl (compactTile objects baselineIndex) ⟨[], 0, tileOverlayMemo⟩
  let cleared :=
    if pass.matchedBaselineCount < baselineIndex.entries.length then
      clearedOverlays objects initialState.tiles baselineIndex
    else []
  ({ tileOverlay := pass.tileOverlay ++ cleared
     docks := copySection initialState.docks
     activeLocks := initialState.activeLocks
     season := copySection initialState.season
     players := copySection initialState.players
     pendingSettlements := copySection initialState.pendingSettlements
     playerYieldCollectionEpochByPlayer :=
       copySection initialState.playerYieldCollectionEpochByPlayer
     reachBorder := copySection initialState.reachBorder
     commandEvents := sections.commandEvents },
    pass.tileOverlayMemo)

def memoAfter (objects : TileObjects W) (baselineIndex : BaselineIndex W)
    (earlier : List (SimulationSnapshotSections TileRef)) : Option (TileOverlayMemo W) :=
  earlier.foldl
    (fun memo sections => (compactSnapshotForStorage objects sections baselineIndex memo).2)
    (some .empty)

/-! ## §4. Expansion. -/

def expandSnapshotFromStorage (payload : StoredPayload W) (baselineTiles : List (RecoveredTile W)) :
    Except String (SimulationSnapshotSections (RecoveredTile W)) :=
  match payload with
  | .notAnObject => .error "expandSnapshotFromStorage: payload is not an object"
  | .legacy payload => .ok payload
  | .v1 v1 =>
      let overlayByKey : InsertionMap (TileKey W) (V1OverlayTile W) :=
        .ofEntries (v1.tileOverlay.map (fun overlay => (overlay.key, overlay)))
      .ok
        { initialState :=
            { tiles := baselineTiles.map
                (fun baseline => restoreTile baseline (overlayByKey.get baseline.key))
              docks := copySection v1.docks
              activeLocks := v1.activeLocks
              afcGlobalLosses := none
              season := copySection v1.season
              players := copySection v1.players
              resourceSupplyAgreements := none
              pendingSettlements := copySection v1.pendingSettlements
              playerYieldCollectionEpochByPlayer := copySection v1.playerYieldCollectionEpochByPlayer
              reachBorder := copySection v1.reachBorder }
          commandEvents := v1.commandEvents }

/-! ## §5. The overlays of a compaction. -/

section Overlays

variable {objects : TileObjects W} {baselineIndex : BaselineIndex W}

def MemoTrue (objects : TileObjects W) (baselineIndex : BaselineIndex W)
    (memo : Option (TileOverlayMemo W)) : Prop :=
  ∀ table, memo = some table → Memo.TrueOf table (overlayOf objects baselineIndex)

/-- **One tile**: its overlay is appended, from the memo or computed, and the
memo stays true. -/
theorem compactTile_eq {pass : ForwardPass W}
    (h : MemoTrue objects baselineIndex pass.tileOverlayMemo) (ref : TileRef) :
    (compactTile objects baselineIndex pass ref).tileOverlay
        = pass.tileOverlay ++ (overlayOf objects baselineIndex ref).toList
      ∧ (compactTile objects baselineIndex pass ref).matchedBaselineCount
        = pass.matchedBaselineCount
          + (if (baselineIndex.get (objects ref).key).isSome then 1 else 0)
      ∧ MemoTrue objects baselineIndex
        (compactTile objects baselineIndex pass ref).tileOverlayMemo := by
  have hmatched : (if (baselineIndex.get (objects ref).key).isSome then
        pass.matchedBaselineCount + 1 else pass.matchedBaselineCount)
      = pass.matchedBaselineCount
        + (if (baselineIndex.get (objects ref).key).isSome then 1 else 0) := by
    split <;> rfl
  unfold compactTile
  dsimp only
  cases hmemo : pass.tileOverlayMemo.bind (fun memo => memo.get ref) with
  | some overlay =>
      obtain ⟨table, htable, hget⟩ := Option.bind_eq_some_iff.mp hmemo
      have hoverlay : overlay = overlayOf objects baselineIndex ref := h table htable ref overlay hget
      refine ⟨?_, hmatched, h⟩
      show pass.tileOverlay ++ overlay.toList = _
      rw [hoverlay]
  | none =>
      refine ⟨rfl, hmatched, ?_⟩
      intro table htable ref' overlay hget
      obtain ⟨before, hbefore, rfl⟩ := Option.map_eq_some_iff.mp htable
      rw [InsertionMap.get_set] at hget
      split at hget
      next hsame =>
        rw [← Option.some.inj hget, ← hsame]
        rfl
      · exact h before hbefore ref' overlay hget

/-- **All tiles.** -/
theorem forwardPass_eq (tiles : List TileRef) :
    ∀ pass : ForwardPass W, MemoTrue objects baselineIndex pass.tileOverlayMemo →
      (tiles.foldl (compactTile objects baselineIndex) pass).tileOverlay
          = pass.tileOverlay ++ tiles.filterMap (overlayOf objects baselineIndex)
        ∧ (tiles.foldl (compactTile objects baselineIndex) pass).matchedBaselineCount
          = pass.matchedBaselineCount
            + tiles.countP (fun ref => (baselineIndex.get (objects ref).key).isSome)
        ∧ MemoTrue objects baselineIndex
          (tiles.foldl (compactTile objects baselineIndex) pass).tileOverlayMemo := by
  induction tiles with
  | nil =>
      intro pass h
      exact ⟨(List.append_nil _).symm, rfl, h⟩
  | cons ref rest ih =>
      intro pass h
      obtain ⟨hoverlay, hmatched, hmemo⟩ := compactTile_eq h ref
      obtain ⟨ihoverlay, ihmatched, ihmemo⟩ := ih _ hmemo
      refine ⟨?_, ?_, ihmemo⟩
      · rw [List.foldl_cons, ihoverlay, hoverlay, List.append_assoc, List.filterMap_cons]
        cases overlayOf objects baselineIndex ref <;> rfl
      · rw [List.foldl_cons, ihmatched, hmatched, List.countP_cons]
        omega

/-- **The memo is always true**, whatever was compacted before. -/
theorem memoAfter_true (earlier : List (SimulationSnapshotSections TileRef)) :
    MemoTrue objects baselineIndex (memoAfter objects baselineIndex earlier) := by
  have hrun : ∀ (earlier : List (SimulationSnapshotSections TileRef))
      (memo : Option (TileOverlayMemo W)), MemoTrue objects baselineIndex memo →
      MemoTrue objects baselineIndex (earlier.foldl
        (fun memo sections => (compactSnapshotForStorage objects sections baselineIndex memo).2)
        memo) := by
    intro earlier
    induction earlier with
    | nil => exact fun memo h => h
    | cons sections rest ih =>
        intro memo h
        exact ih _ (forwardPass_eq sections.initialState.tiles ⟨[], 0, memo⟩ h).2.2
  refine hrun earlier (some .empty) ?_
  rintro table ⟨⟩
  exact Memo.trueOf_empty _

theorem buildOverlayForTile_key {current : RecoveredTile W} {baseline : Option (RecoveredTile W)}
    {overlay : V1OverlayTile W} (h : buildOverlayForTile current baseline = some overlay) :
    overlay.key = current.key := by
  unfold buildOverlayForTile at h
  dsimp only at h
  split at h
  · rw [← Option.some.inj h]
  · cases h

end Overlays

end BorderEmpires.Checkpoints
