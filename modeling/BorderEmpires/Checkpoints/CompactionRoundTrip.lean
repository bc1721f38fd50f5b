/-
  BorderEmpires.Checkpoints.CompactionRoundTrip
  **WHAT A STORED SNAPSHOT GIVES BACK.**

  A snapshot is compacted, written as JSON, read again and expanded.  It
  gives back every tile and section exactly when no field that is not stored
  has changed, no value is mistaken for the baseline's, and the two sections
  that are not copied are empty.
-/
import BorderEmpires.Checkpoints.Compaction

namespace BorderEmpires.Checkpoints

variable {W : WorldSize}

/-! ## §1. Giving back. -/

/-- World generation makes one tile for a key. -/
structure WorldgenBaseline (W : WorldSize) where
  tiles : List (RecoveredTile W)
  nodupKeys : (tiles.map RecoveredTile.key).Nodup

def WorldgenBaseline.index (baseline : WorldgenBaseline W) : BaselineIndex W :=
  buildWorldgenBaselineIndex baseline.tiles

def CoversExactly (objects : TileObjects W) (baseline : WorldgenBaseline W)
    (sections : SimulationSnapshotSections TileRef) : Prop :=
  (sections.initialState.tiles.map (fun ref => (objects ref).key)).Perm
    (baseline.tiles.map RecoveredTile.key)

/-- A snapshot through storage; `earlier` are the compactions that filled the
memo, if there is one. -/
def restart (objects : TileObjects W) (baseline : WorldgenBaseline W)
    (earlier : Option (List (SimulationSnapshotSections TileRef)))
    (sections : SimulationSnapshotSections TileRef) :
    Except String (SimulationSnapshotSections (RecoveredTile W)) :=
  let compacted := compactSnapshotForStorage objects sections baseline.index
    (earlier.bind (memoAfter objects baseline.index))
  expandSnapshotFromStorage (.v1 compacted.1.json) baseline.tiles

def SameSection (x y : Option HostObject) : Prop := x.map HostObject.json = y.map HostObject.json

/-- **Every tile has its written fields again, and every section is there.** -/
structure GivenBack (objects : TileObjects W) (sections : SimulationSnapshotSections TileRef)
    (payload : SimulationSnapshotSections (RecoveredTile W)) : Prop where
  tiles : ∀ ref ∈ sections.initialState.tiles, ∃ tile ∈ payload.initialState.tiles,
    tile.key = (objects ref).key
      ∧ ∀ f ∈ WRITTEN_TILE_FIELDS, SameField (tile.field f) ((objects ref).field f)
  docks : SameSection payload.initialState.docks sections.initialState.docks
  activeLocks : payload.initialState.activeLocks.json = sections.initialState.activeLocks.json
  afcGlobalLosses : payload.initialState.afcGlobalLosses = sections.initialState.afcGlobalLosses
  season : SameSection payload.initialState.season sections.initialState.season
  players : SameSection payload.initialState.players sections.initialState.players
  resourceSupplyAgreements : SameSection payload.initialState.resourceSupplyAgreements
    sections.initialState.resourceSupplyAgreements
  pendingSettlements : SameSection payload.initialState.pendingSettlements
    sections.initialState.pendingSettlements
  playerYieldCollectionEpochByPlayer :
    SameSection payload.initialState.playerYieldCollectionEpochByPlayer
      sections.initialState.playerYieldCollectionEpochByPlayer
  reachBorder : SameSection payload.initialState.reachBorder sections.initialState.reachBorder
  commandEvents : payload.commandEvents.json = sections.commandEvents.json

/-- **The condition on a snapshot**, against the baseline. -/
structure CompactionKeeps (objects : TileObjects W) (baseline : WorldgenBaseline W)
    (sections : SimulationSnapshotSections TileRef) : Prop where
  unstored : ∀ ref ∈ sections.initialState.tiles, ∀ base ∈ baseline.tiles,
    base.key = (objects ref).key →
      ∀ f ∈ UNSTORED_TILE_FIELDS, SameField (base.field f) ((objects ref).field f)
  unmistaken : ∀ ref ∈ sections.initialState.tiles, ∀ base ∈ baseline.tiles,
    base.key = (objects ref).key → ∀ f ∈ WRITTEN_TILE_FIELDS, f ∈ MUTABLE_TILE_FIELDS →
      ¬ MistakenFor ((objects ref).field f) (base.field f)
  afcGlobalLosses : sections.initialState.afcGlobalLosses = none
  resourceSupplyAgreements : sections.initialState.resourceSupplyAgreements = none

/-! ## §2. The baseline index. -/

theorem WorldgenBaseline.index_get (baseline : WorldgenBaseline W) {base : RecoveredTile W}
    (hbase : base ∈ baseline.tiles) : baseline.index.get base.key = some base := by
  refine (InsertionMap.get_ofEntries_iff ?_ base.key base).mpr ?_
  · intro k tile tile' htile htile'
    obtain ⟨a, ha, heq⟩ := List.mem_map.mp htile
    obtain ⟨b, hb, heq'⟩ := List.mem_map.mp htile'
    obtain ⟨hkey, rfl⟩ := Prod.mk.inj heq
    obtain ⟨hkey', rfl⟩ := Prod.mk.inj heq'
    exact List.inj_on_of_nodup_map baseline.nodupKeys ha hb (hkey.trans hkey'.symm)
  · exact List.mem_map_of_mem hbase

theorem WorldgenBaseline.index_length_le (baseline : WorldgenBaseline W) :
    baseline.index.entries.length ≤ baseline.tiles.length := by
  have hkeys : baseline.index.keys ⊆ baseline.tiles.map RecoveredTile.key := by
    intro k hk
    obtain ⟨tile, htile⟩ := Option.isSome_iff_exists.mp ((baseline.index.mem_keys_iff k).mp hk)
    have hread : (InsertionMap.ofEntries
        (baseline.tiles.map (fun tile => (tile.key, tile)))).get k = some tile := htile
    rw [InsertionMap.ofEntries, InsertionMap.get_setAll, InsertionMap.get_empty,
      Option.or_none] at hread
    obtain ⟨base, hbase, heq⟩ :=
      List.mem_map.mp (List.mem_reverse.mp (AssocEntries.mem_of_lookup hread))
    rw [← (Prod.mk.inj heq).1]
    exact List.mem_map_of_mem hbase
  have hle := (List.subperm_of_subset baseline.index.nodupKeys hkeys).length_le
  rw [List.length_map, List.length_map] at hle
  exact hle

/-! ## §3. The tiles. -/

section Tiles

variable {objects : TileObjects W} {baseline : WorldgenBaseline W}
  {sections : SimulationSnapshotSections TileRef}

theorem CoversExactly.baselineOf (h : CoversExactly objects baseline sections) {ref : TileRef}
    (href : ref ∈ sections.initialState.tiles) :
    ∃ base ∈ baseline.tiles, base.key = (objects ref).key := by
  have hkey : (objects ref).key ∈ baseline.tiles.map RecoveredTile.key :=
    h.mem_iff.mp (List.mem_map_of_mem href)
  exact List.mem_map.mp hkey

theorem CoversExactly.matched (h : CoversExactly objects baseline sections) :
    baseline.index.entries.length ≤ sections.initialState.tiles.countP
      (fun ref => (baseline.index.get (objects ref).key).isSome) := by
  have hall : sections.initialState.tiles.countP
      (fun ref => (baseline.index.get (objects ref).key).isSome)
      = sections.initialState.tiles.length := by
    rw [List.countP_eq_length]
    intro ref href
    obtain ⟨base, hbase, hkey⟩ := h.baselineOf href
    rw [← hkey, baseline.index_get hbase]
    rfl
  have hlength := h.length_eq
  rw [List.length_map, List.length_map] at hlength
  rw [hall, hlength]
  exact baseline.index_length_le

theorem compacted_tileOverlay (h : CoversExactly objects baseline sections)
    {memo : Option (TileOverlayMemo W)} (hmemo : MemoTrue objects baseline.index memo) :
    (compactSnapshotForStorage objects sections baseline.index memo).1.tileOverlay
      = sections.initialState.tiles.filterMap (overlayOf objects baseline.index) := by
  obtain ⟨hoverlay, hmatched, _⟩ := forwardPass_eq sections.initialState.tiles ⟨[], 0, memo⟩ hmemo
  unfold compactSnapshotForStorage
  dsimp only
  rw [hoverlay, hmatched, if_neg (Nat.not_lt.mpr (by rw [Nat.zero_add]; exact h.matched)),
    List.append_nil]
  exact List.nil_append _

theorem overlayByKey_get (h : CoversExactly objects baseline sections) {ref : TileRef}
    (href : ref ∈ sections.initialState.tiles) :
    (InsertionMap.ofEntries
        (((sections.initialState.tiles.filterMap (overlayOf objects baseline.index)).map
          V1OverlayTile.json).map (fun overlay => (overlay.key, overlay)))).get (objects ref).key
      = (overlayOf objects baseline.index ref).map V1OverlayTile.json := by
  have hnodup : (sections.initialState.tiles.map (fun ref => (objects ref).key)).Nodup :=
    h.nodup_iff.mpr baseline.nodupKeys
  have hmem : ∀ k overlay, (k, overlay) ∈
      ((sections.initialState.tiles.filterMap (overlayOf objects baseline.index)).map
        V1OverlayTile.json).map (fun overlay : V1OverlayTile W => (overlay.key, overlay))
      ↔ ∃ ref' ∈ sections.initialState.tiles, (objects ref').key = k
        ∧ (overlayOf objects baseline.index ref').map V1OverlayTile.json = some overlay := by
    intro k overlay
    rw [List.mem_map]
    constructor
    · rintro ⟨stored, hstored, heq⟩
      obtain ⟨rfl, rfl⟩ := Prod.mk.inj heq
      obtain ⟨made, hmade, rfl⟩ := List.mem_map.mp hstored
      obtain ⟨ref', href', hoverlay⟩ := List.mem_filterMap.mp hmade
      refine ⟨ref', href', (buildOverlayForTile_key hoverlay).symm, ?_⟩
      rw [hoverlay]
      rfl
    · rintro ⟨ref', href', rfl, hoverlay⟩
      obtain ⟨made, hmade, rfl⟩ := Option.map_eq_some_iff.mp hoverlay
      refine ⟨made.json, List.mem_map_of_mem (List.mem_filterMap.mpr ⟨ref', href', hmade⟩), ?_⟩
      have hkey : made.key = (objects ref').key := buildOverlayForTile_key hmade
      exact Prod.ext hkey rfl
  have hsame : ∀ ref' ∈ sections.initialState.tiles, (objects ref').key = (objects ref).key →
      ref' = ref := fun ref' href' hkey => List.inj_on_of_nodup_map hnodup href' href hkey
  ext overlay
  rw [InsertionMap.get_ofEntries_iff, hmem]
  · constructor
    · rintro ⟨ref', href', hkey, hoverlay⟩
      rw [← hsame ref' href' hkey]
      exact hoverlay
    · intro hoverlay
      exact ⟨ref, href, rfl, hoverlay⟩
  · intro k overlay₁ overlay₂ h₁ h₂
    obtain ⟨ref₁, href₁, hkey₁, hoverlay₁⟩ := (hmem k overlay₁).mp h₁
    obtain ⟨ref₂, href₂, hkey₂, hoverlay₂⟩ := (hmem k overlay₂).mp h₂
    have href := List.inj_on_of_nodup_map hnodup href₁ href₂ (hkey₁.trans hkey₂.symm)
    rw [href, hoverlay₂] at hoverlay₁
    exact (Option.some.inj hoverlay₁).symm

/-- **The tile that is made of a compacted one.** -/
theorem expanded_tile (h : CoversExactly objects baseline sections) {ref : TileRef}
    (href : ref ∈ sections.initialState.tiles) {base : RecoveredTile W}
    (hbase : base ∈ baseline.tiles) (hkey : base.key = (objects ref).key) :
    restoreTile base ((InsertionMap.ofEntries
        (((sections.initialState.tiles.filterMap (overlayOf objects baseline.index)).map
          V1OverlayTile.json).map (fun overlay => (overlay.key, overlay)))).get base.key)
      = restoreTile base ((buildOverlayForTile (objects ref) (some base)).map
          V1OverlayTile.json) := by
  rw [hkey, overlayByKey_get h href]
  unfold overlayOf
  rw [← hkey, baseline.index_get hbase]

theorem restoreTile_key (base : RecoveredTile W) (overlay : Option (V1OverlayTile W)) :
    (restoreTile base overlay).key = base.key := by
  cases overlay <;> rfl

def expandedTiles (objects : TileObjects W) (baseline : WorldgenBaseline W)
    (sections : SimulationSnapshotSections TileRef) : List (RecoveredTile W) :=
  baseline.tiles.map (fun base => restoreTile base ((InsertionMap.ofEntries
    (((sections.initialState.tiles.filterMap (overlayOf objects baseline.index)).map
      V1OverlayTile.json).map (fun overlay => (overlay.key, overlay)))).get base.key))

/-- **When the tiles are given back.** -/
theorem expandedTiles_iff (h : CoversExactly objects baseline sections) :
    (∀ ref ∈ sections.initialState.tiles, ∃ tile ∈ expandedTiles objects baseline sections,
        tile.key = (objects ref).key
          ∧ ∀ f ∈ WRITTEN_TILE_FIELDS, SameField (tile.field f) ((objects ref).field f))
      ↔ ∀ ref ∈ sections.initialState.tiles, ∀ base ∈ baseline.tiles,
        base.key = (objects ref).key → ∀ f ∈ WRITTEN_TILE_FIELDS,
          if f ∈ MUTABLE_TILE_FIELDS then ¬ MistakenFor ((objects ref).field f) (base.field f)
          else SameField (base.field f) ((objects ref).field f) := by
  refine forall₂_congr (fun ref href => ?_)
  constructor
  · rintro ⟨tile, htile, hkey, hfields⟩ base hbase hbasekey f hf
    obtain ⟨base', hbase', rfl⟩ := List.mem_map.mp htile
    -- the tile of this key was made of this tile of the baseline
    have hsame : base' = base :=
      List.inj_on_of_nodup_map baseline.nodupKeys hbase' hbase
        (((restoreTile_key _ _).symm.trans hkey).trans hbasekey.symm)
    have hfield := hfields f hf
    rw [hsame, expanded_tile h href hbase hbasekey, restoreTile_same_iff] at hfield
    exact hfield
  · intro hfields
    obtain ⟨base, hbase, hkey⟩ := h.baselineOf href
    refine ⟨_, List.mem_map_of_mem hbase, (restoreTile_key _ _).trans hkey, fun f hf => ?_⟩
    rw [expanded_tile h href hbase hkey, restoreTile_same_iff]
    exact hfields base hbase hkey f hf

end Tiles

/-! ## §4. The snapshot. -/

section Snapshots

variable {objects : TileObjects W} {baseline : WorldgenBaseline W}
  {sections : SimulationSnapshotSections TileRef}

theorem sameSection_json (x : Option HostObject) : SameSection (x.map HostObject.json) x := by
  cases x with
  | none => rfl
  | some value => exact congrArg some (HostObject.json_json value)

theorem sameSection_copied (x : Option HostObject) :
    SameSection (copySection ((copySection x).map HostObject.json)) x := by
  rw [copySection_eq, copySection_eq]
  exact sameSection_json x

theorem sameSection_none_iff {x : Option HostObject} : SameSection none x ↔ x = none := by
  cases x with
  | none => exact ⟨fun _ => rfl, fun _ => rfl⟩
  | some value => exact ⟨fun h => (nomatch h), fun h => (nomatch h)⟩

/-- **What a stored snapshot gives back**: every tile and section, exactly when
the snapshot meets the condition; with a memo or without one. -/
theorem restart_gives_back_iff (objects : TileObjects W) (baseline : WorldgenBaseline W)
    (earlier : Option (List (SimulationSnapshotSections TileRef)))
    (sections : SimulationSnapshotSections TileRef)
    (h : CoversExactly objects baseline sections) :
    (∃ payload, restart objects baseline earlier sections = .ok payload
        ∧ GivenBack objects sections payload)
      ↔ CompactionKeeps objects baseline sections := by
  have hmemo : MemoTrue objects baseline.index (earlier.bind (memoAfter objects baseline.index)) := by
    cases earlier with
    | none => exact fun table htable => (nomatch htable)
    | some earlier => exact memoAfter_true earlier
  have htiles := expandedTiles_iff h
  have hoverlay := compacted_tileOverlay h hmemo
  constructor
  · rintro ⟨payload, hpayload, hback⟩
    have hstate := Except.ok.inj hpayload
    have hsame := hback.tiles
    rw [← hstate] at hsame
    have hexpanded : ∀ ref ∈ sections.initialState.tiles,
        ∃ tile ∈ expandedTiles objects baseline sections, tile.key = (objects ref).key
          ∧ ∀ f ∈ WRITTEN_TILE_FIELDS, SameField (tile.field f) ((objects ref).field f) := by
      unfold expandedTiles
      rw [← hoverlay]
      exact hsame
    have hfields := htiles.mp hexpanded
    refine ⟨?_, ?_, ?_, ?_⟩
    · intro ref href base hbase hkey f hf
      have hwritten : f ∈ WRITTEN_TILE_FIELDS := by
        revert f
        decide
      have hfield := hfields ref href base hbase hkey f hwritten
      rw [if_neg (fun hstored => (written_stored_iff hwritten).mp hstored hf)] at hfield
      exact hfield
    · intro ref href base hbase hkey f hf hstored
      have hfield := hfields ref href base hbase hkey f hf
      rw [if_pos hstored] at hfield
      exact hfield
    · rw [← hback.afcGlobalLosses, ← hstate]
    · refine sameSection_none_iff.mp ?_
      have hrows := hback.resourceSupplyAgreements
      rw [← hstate] at hrows
      exact hrows
  · intro hkeeps
    refine ⟨_, rfl, ?_⟩
    have hexpanded := htiles.mpr (fun ref href base hbase hkey f hf => by
      split
      next hstored => exact hkeeps.unmistaken ref href base hbase hkey f hf hstored
      next hstored =>
        refine hkeeps.unstored ref href base hbase hkey f ?_
        exact not_not.mp (fun hnot => hstored ((written_stored_iff hf).mpr hnot)))
    unfold expandedTiles at hexpanded
    rw [← hoverlay] at hexpanded
    exact
      { tiles := hexpanded
        docks := sameSection_copied _
        activeLocks := HostObject.json_json _
        afcGlobalLosses := hkeeps.afcGlobalLosses.symm
        season := sameSection_copied _
        players := sameSection_copied _
        resourceSupplyAgreements := sameSection_none_iff.mpr hkeeps.resourceSupplyAgreements
        pendingSettlements := sameSection_copied _
        playerYieldCollectionEpochByPlayer := sameSection_copied _
        reachBorder := sameSection_copied _
        commandEvents := HostObject.json_json _ }

/-- **No snapshot that the runtime exports is given back**: the count of lost
complexes is always written and never copied. -/
theorem exported_never_given_back (input : SnapshotExportInput) (season : HostObject)
    (tiles : List TileRef)
    (earlier : Option (List (SimulationSnapshotSections TileRef)))
    (payload : SimulationSnapshotSections (RecoveredTile W))
    (h : restart objects baseline earlier (withSeason season (buildSnapshotBody input tiles))
      = .ok payload) :
    ¬ GivenBack objects (withSeason season (buildSnapshotBody input tiles)) payload := by
  intro hback
  have hlost := hback.afcGlobalLosses
  rw [← Except.ok.inj h] at hlost
  cases hlost

end Snapshots

/-! ## §5. Salvage that world generation puts back. -/

/-- Land with precursor salvage, as world generation makes it. -/
def salvageTile : RecoveredTile smallestWorld where
  key := ⟨⟨0, smallestWorld_width_pos⟩, ⟨0, smallestWorld_height_pos⟩⟩
  field
    | .terrain => some ⟨.text "LAND", rfl⟩
    | .resource => some ⟨.text "PRECURSOR_SALVAGE", rfl⟩
    | _ => none

/-- The same land, the salvage carried off. -/
def strippedTile : RecoveredTile smallestWorld where
  key := ⟨⟨0, smallestWorld_width_pos⟩, ⟨0, smallestWorld_height_pos⟩⟩
  field
    | .terrain => some ⟨.text "LAND", rfl⟩
    | _ => none

def salvageBaseline : WorldgenBaseline smallestWorld := ⟨[salvageTile], List.nodup_singleton _⟩

/-- A snapshot of one tile object, and no other section than locks. -/
def oneTileSections : SimulationSnapshotSections TileRef where
  initialState :=
    { tiles := [⟨0⟩], docks := none, activeLocks := HostObject.ofList [], afcGlobalLosses := none
      season := none, players := none, resourceSupplyAgreements := none
      pendingSettlements := none, playerYieldCollectionEpochByPlayer := none, reachBorder := none }
  commandEvents := HostObject.ofList []

/-- The salvage settled by barbarians, as world generation makes it. -/
def barbarianTile : RecoveredTile smallestWorld where
  key := salvageTile.key
  field
    | .ownerId => some ⟨.text "barbarian-1", rfl⟩
    | .ownershipState => some ⟨.text "SETTLED", rfl⟩
    | f => salvageTile.field f

/-- Taken from them, and not settled yet. -/
def takenTile : RecoveredTile smallestWorld where
  key := salvageTile.key
  field
    | .ownerId => some ⟨.text "player-1", rfl⟩
    | f => salvageTile.field f

theorem takenTile_text {f : TileField} {value : DefinedValue}
    (h : takenTile.field f = some value) : ∃ t, value.1 = .text t := by
  revert h
  unfold takenTile salvageTile
  dsimp only
  split
  · exact fun h => ⟨_, congrArg Subtype.val (Option.some.inj h).symm⟩
  split
  · exact fun h => ⟨_, congrArg Subtype.val (Option.some.inj h).symm⟩
  · exact fun h => ⟨_, congrArg Subtype.val (Option.some.inj h).symm⟩
  · exact fun h => (nomatch h)

/-- A tile with a changed and a cleared field is given back, also from a
memo. -/
theorem restart_gives_back_taken :
    CoversExactly (fun _ => takenTile) ⟨[barbarianTile], List.nodup_singleton _⟩ oneTileSections
      ∧ ∃ payload, restart (fun _ => takenTile) ⟨[barbarianTile], List.nodup_singleton _⟩
          (some [oneTileSections]) oneTileSections = .ok payload
        ∧ GivenBack (fun _ => takenTile) oneTileSections payload := by
  have hcovers : CoversExactly (fun _ => takenTile) ⟨[barbarianTile], List.nodup_singleton _⟩
      oneTileSections := List.Perm.refl _
  refine ⟨hcovers, (restart_gives_back_iff _ _ _ _ hcovers).mpr ⟨?_, ?_, rfl, rfl⟩⟩
  · intro ref _ base hbase _ f hf
    rw [List.mem_singleton.mp hbase]
    simp only [UNSTORED_TILE_FIELDS, List.mem_cons, List.not_mem_nil, or_false] at hf
    rcases hf with rfl | rfl | rfl | rfl <;> rfl
  · intro ref _ base _ _ f _ _
    refine not_mistakenFor_of_plain (fun value hvalue => ?_)
    obtain ⟨t, ht⟩ := takenTile_text hvalue
    rw [ht]
    exact trivial

/-- The resource is not stored, so the salvage is back after a restart. -/
theorem stripped_salvage_put_back :
    CoversExactly (fun _ => strippedTile) salvageBaseline oneTileSections
      ∧ ¬ ∃ payload, restart (fun _ => strippedTile) salvageBaseline none oneTileSections
          = .ok payload
        ∧ GivenBack (fun _ => strippedTile) oneTileSections payload := by
  refine ⟨List.Perm.refl _, ?_⟩
  rintro ⟨payload, hpayload, hback⟩
  obtain ⟨tile, htile, hkey, hfields⟩ := hback.tiles ⟨0⟩ (List.mem_singleton_self _)
  have hresource := hfields .resource (by decide)
  rw [← Except.ok.inj hpayload] at htile
  have hrestored : tile.field .resource = some ⟨.text "PRECURSOR_SALVAGE", rfl⟩ := by
    rw [List.mem_singleton.mp htile]
    rfl
  rw [hrestored] at hresource
  cases hresource

end BorderEmpires.Checkpoints
