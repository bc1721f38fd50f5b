/-
  BorderEmpires.Indexes.Books
  **EVERY BOOK ABOUT THE TILES AGREES WITH THE TILES.**

  `replaceTileState` brings the upkeep caches, the players' summaries and
  the owner indexes along with each tile it writes.  Whatever is written,
  read or dropped in between, all of them stay what a recount of the
  current tiles gives.
-/
import BorderEmpires.Indexes.Summaries
import BorderEmpires.Indexes.Upkeep

namespace BorderEmpires.Indexes

variable {W : WorldSize}

/-! ## §1. Writes. -/

/-- The tiles and the books kept about them. -/
structure IndexedWorld (W : WorldSize) where
  tiles : TileMap W
  playerSummaries : InsertionMap PlayerId (PlayerRuntimeSummary W)
  ownerIndexes : RuntimeOwnerTileIndexes W
  economyCaches : UpkeepCaches

def IndexedWorld.empty : IndexedWorld W := ⟨.empty, .empty, .empty, ⟨[], .empty, .empty⟩⟩

/-- Made when first asked for. -/
def summaryForPlayer (summaries : InsertionMap PlayerId (PlayerRuntimeSummary W))
    (playerId : PlayerId) : PlayerRuntimeSummary W :=
  (summaries.get playerId).getD createEmptyPlayerRuntimeSummary

def removeTileFromPlayerSummaries (summaries : InsertionMap PlayerId (PlayerRuntimeSummary W))
    (tileKey : TileKey W) (tile : IndexTile) : InsertionMap PlayerId (PlayerRuntimeSummary W) :=
  match tile.ownerId with
  | none => summaries
  | some ownerId =>
      summaries.set ownerId
        (removeTileFromPlayerSummary (summaryForPlayer summaries ownerId) tileKey tile)

def applyTileToPlayerSummaries (summaries : InsertionMap PlayerId (PlayerRuntimeSummary W))
    (tileKey : TileKey W) (tile : IndexTile) :
    Option (InsertionMap PlayerId (PlayerRuntimeSummary W)) :=
  match tile.ownerId with
  | none => some summaries
  | some ownerId =>
      (applyTileToPlayerSummary (summaryForPlayer summaries ownerId) tileKey tile).map
        (summaries.set ownerId)

/-- `none` if the write throws. -/
def IndexedWorld.replaceTileState (w : IndexedWorld W) (tileKey : TileKey W) (next : IndexTile)
    (otherwise : Bool) : Option (IndexedWorld W) :=
  let previous := w.tiles.get tileKey
  let economyCaches := refreshEconomyCachesForTileChange w.economyCaches previous next otherwise
  let removed := previous.elim w.playerSummaries
    (removeTileFromPlayerSummaries w.playerSummaries tileKey)
  (applyTileToPlayerSummaries removed tileKey next).map fun playerSummaries =>
    { tiles := w.tiles.set tileKey next
      playerSummaries := playerSummaries
      ownerIndexes := refreshRuntimeTileIndexesForChange w.ownerIndexes tileKey previous next
      economyCaches := economyCaches }

/-- What happens to the books: a tile is written, a player joins, a
player's upkeep is read or dropped. -/
inductive BooksOp (W : WorldSize) where
  | replaceTile (tileKey : TileKey W) (next : IndexTile) (otherwise : Bool)
  | addPlayer (playerId : PlayerId)
  | readUpkeep (playerId : PlayerId)
  | dropUpkeep (playerId : PlayerId)

def IndexedWorld.step (w : IndexedWorld W) : BooksOp W → Option (IndexedWorld W)
  | .replaceTile tileKey next otherwise => w.replaceTileState tileKey next otherwise
  | .addPlayer playerId =>
      some { w with
        economyCaches :=
          { w.economyCaches with players := playerId :: w.economyCaches.players } }
  | .readUpkeep playerId =>
      -- reads start from a player of the roster
      if playerId ∈ w.economyCaches.players then
        some { w with economyCaches := (cachedUpkeepAccrual w.economyCaches w.tiles playerId).1 }
      else some w
  | .dropUpkeep playerId =>
      some { w with economyCaches := invalidateUpkeepAccrual w.economyCaches playerId }

def IndexedWorld.run (w : IndexedWorld W) (ops : List (BooksOp W)) : Option (IndexedWorld W) :=
  ops.foldlM IndexedWorld.step w

/-- **The books are what a recount of the tiles gives.** -/
structure IndexedWorld.MatchesScratch (w : IndexedWorld W) : Prop where
  indexes : IndexesInStep w.ownerIndexes w.tiles
  summaries : ∀ playerId,
    (summaryForPlayer w.playerSummaries playerId).Agrees (summaryFromScratch w.tiles playerId)
  caches : ∀ playerId cache,
    w.economyCaches.upkeepAccrualCacheByPlayer.get playerId = some cache →
      cache = buildUpkeepAccrualSnapshot playerId w.tiles

def TenthRelic (w : IndexedWorld W) (tileKey : TileKey W) (next : IndexTile) : Prop :=
  next.hasNaturalWonder = true ∧ ∃ ownerId, next.ownerId = some ownerId
    ∧ WORLD_RELIC_LIMIT < (relicsOf (w.tiles.set tileKey next) ownerId).length

/-! ## §2. One write. -/

structure BooksKept (w : IndexedWorld W) : Prop where
  indexes : IndexesInStep w.ownerIndexes w.tiles
  summaries : ∀ playerId,
    (summaryForPlayer w.playerSummaries playerId).Agrees (summaryFromScratch w.tiles playerId)
  relicsOnce : ∀ playerId, (summaryForPlayer w.playerSummaries playerId).relicTileKeys.Nodup
  upkeep : UpkeepInStep w.economyCaches w.tiles

theorem booksKept_empty : BooksKept (.empty : IndexedWorld W) where
  indexes := indexesInStep_empty
  summaries := fun playerId => agrees_empty playerId
  relicsOnce := fun _ => List.nodup_nil
  upkeep := ⟨fun _ _ h => (by cases h), fun _ _ h => (by cases h)⟩

theorem BooksKept.matchesScratch {w : IndexedWorld W} (h : BooksKept w) : w.MatchesScratch :=
  ⟨h.indexes, h.summaries, h.upkeep.built⟩

theorem summaryForPlayer_set (summaries : InsertionMap PlayerId (PlayerRuntimeSummary W))
    (ownerId : PlayerId) (summary : PlayerRuntimeSummary W) (playerId : PlayerId) :
    summaryForPlayer (summaries.set ownerId summary) playerId
      = if ownerId = playerId then summary else summaryForPlayer summaries playerId := by
  unfold summaryForPlayer
  rw [InsertionMap.get_set]
  split <;> rfl

section Write

variable {summaries : InsertionMap PlayerId (PlayerRuntimeSummary W)} {tiles : TileMap W}
  {tileKey : TileKey W}

theorem removeTile_agrees
    (h : ∀ playerId, (summaryForPlayer summaries playerId).Agrees
      (summaryFromScratch tiles playerId)) (playerId : PlayerId) :
    (summaryForPlayer ((tiles.get tileKey).elim summaries
        (removeTileFromPlayerSummaries summaries tileKey)) playerId).Agrees
      (summaryFromScratch (tiles.erase tileKey) playerId) := by
  cases hget : tiles.get tileKey with
  | none =>
      rw [InsertionMap.erase_of_get_none hget]
      exact h playerId
  | some was =>
      rw [Option.elim_some]
      unfold removeTileFromPlayerSummaries
      have hother : was.ownerId ≠ some playerId →
          (summaryForPlayer summaries playerId).Agrees
            (summaryFromScratch (tiles.erase tileKey) playerId) := by
        intro hne
        refine (h playerId).unmissed (fun x hx => ?_)
        rw [hget] at hx
        exact Option.some.inj hx ▸ hne
      cases howner : was.ownerId with
      | none => exact hother (by simp [howner])
      | some ownerId =>
          dsimp only
          rw [summaryForPlayer_set]
          by_cases hp : ownerId = playerId
          · subst hp
            rw [if_pos rfl]
            exact (h ownerId).removed hget howner
          · rw [if_neg hp]
            exact hother (by simp [howner, hp])

theorem removeTile_relicsOnce
    (h : ∀ playerId, (summaryForPlayer summaries playerId).relicTileKeys.Nodup)
    (previous : Option IndexTile) (playerId : PlayerId) :
    (summaryForPlayer (previous.elim summaries
      (removeTileFromPlayerSummaries summaries tileKey)) playerId).relicTileKeys.Nodup := by
  cases previous with
  | none => exact h playerId
  | some was =>
      rw [Option.elim_some]
      unfold removeTileFromPlayerSummaries
      split
      · exact h playerId
      rw [summaryForPlayer_set]
      split
      · exact nodup_relics_without (h _)
      · exact h playerId

variable {summaries' : InsertionMap PlayerId (PlayerRuntimeSummary W)}

theorem applyTile_cases {next : IndexTile}
    (h : applyTileToPlayerSummaries summaries tileKey next = some summaries') :
    (next.ownerId = none ∧ summaries' = summaries) ∨
    ∃ ownerId, next.ownerId = some ownerId ∧
      summaries' = summaries.set ownerId
        (summaryWithTile (summaryForPlayer summaries ownerId) tileKey next ownerId) := by
  unfold applyTileToPlayerSummaries at h
  split at h
  · rename_i howner
    exact Or.inl ⟨howner, (Option.some.inj h).symm⟩
  · rename_i ownerId howner
    obtain ⟨summary, happly, rfl⟩ := Option.map_eq_some_iff.mp h
    unfold applyTileToPlayerSummary at happly
    rw [howner] at happly
    dsimp only at happly
    split at happly
    · cases happly
    · exact Or.inr ⟨ownerId, howner, by rw [Option.some.inj happly]⟩

theorem applyTile_agrees {next : IndexTile}
    (h : ∀ playerId, (summaryForPlayer summaries playerId).Agrees
      (summaryFromScratch (tiles.erase tileKey) playerId))
    (happly : applyTileToPlayerSummaries summaries tileKey next = some summaries')
    (playerId : PlayerId) :
    (summaryForPlayer summaries' playerId).Agrees
      (summaryFromScratch (tiles.set tileKey next) playerId) := by
  obtain ⟨howner, rfl⟩ | ⟨ownerId, howner, rfl⟩ := applyTile_cases happly
  · exact (h playerId).passed (by simp [howner])
  · rw [summaryForPlayer_set]
    by_cases hp : ownerId = playerId
    · subst hp
      rw [if_pos rfl]
      exact (h ownerId).withTile howner
    · rw [if_neg hp]
      exact (h playerId).passed (by simp [howner, hp])

theorem applyTile_relicsOnce {next : IndexTile}
    (h : ∀ playerId, (summaryForPlayer summaries playerId).relicTileKeys.Nodup)
    (happly : applyTileToPlayerSummaries summaries tileKey next = some summaries')
    (playerId : PlayerId) : (summaryForPlayer summaries' playerId).relicTileKeys.Nodup := by
  obtain ⟨-, rfl⟩ | ⟨ownerId, -, rfl⟩ := applyTile_cases happly
  · exact h playerId
  · rw [summaryForPlayer_set]
    split
    · exact nodup_relics_with (h ownerId) ownerId
    · exact h playerId

end Write

def clearedSummaries (w : IndexedWorld W) (tileKey : TileKey W) :
    InsertionMap PlayerId (PlayerRuntimeSummary W) :=
  (w.tiles.get tileKey).elim w.playerSummaries
    (removeTileFromPlayerSummaries w.playerSummaries tileKey)

theorem BooksKept.cleared {w : IndexedWorld W} (h : BooksKept w) (tileKey : TileKey W)
    (playerId : PlayerId) :
    (summaryForPlayer (clearedSummaries w tileKey) playerId).Agrees
        (summaryFromScratch (w.tiles.erase tileKey) playerId)
      ∧ (summaryForPlayer (clearedSummaries w tileKey) playerId).relicTileKeys.Nodup :=
  ⟨removeTile_agrees h.summaries playerId,
    removeTile_relicsOnce h.relicsOnce (w.tiles.get tileKey) playerId⟩

theorem BooksKept.replaced {w w' : IndexedWorld W} (h : BooksKept w) {tileKey : TileKey W}
    {next : IndexTile} {otherwise : Bool}
    (hstep : w.replaceTileState tileKey next otherwise = some w') : BooksKept w' := by
  unfold IndexedWorld.replaceTileState at hstep
  obtain ⟨playerSummaries, happly, rfl⟩ := Option.map_eq_some_iff.mp hstep
  exact
    { indexes := h.indexes.refreshed tileKey next
      summaries := applyTile_agrees (fun playerId => (h.cleared tileKey playerId).1) happly
      relicsOnce := applyTile_relicsOnce (fun playerId => (h.cleared tileKey playerId).2) happly
      upkeep := h.upkeep.refreshed tileKey next otherwise }

theorem BooksKept.thrown {w : IndexedWorld W} (h : BooksKept w) {tileKey : TileKey W}
    {next : IndexTile} {otherwise : Bool} :
    w.replaceTileState tileKey next otherwise = none ↔ TenthRelic w tileKey next := by
  unfold IndexedWorld.replaceTileState TenthRelic
  dsimp only
  rw [Option.map_eq_none_iff]
  unfold applyTileToPlayerSummaries
  cases howner : next.ownerId with
  | none => simp
  | some ownerId =>
      dsimp only
      obtain ⟨hagrees, honce⟩ := h.cleared tileKey ownerId
      have hown : ∀ ownerId', next.ownerId = some ownerId' →
          (summaryForPlayer (clearedSummaries w tileKey) ownerId).Agrees
            (summaryFromScratch (w.tiles.erase tileKey) ownerId') := by
        intro ownerId' heq
        rw [howner] at heq
        exact Option.some.inj heq ▸ hagrees
      have hnone := applyTile_eq_none_iff hown honce
      rw [howner] at hnone
      rw [Option.map_eq_none_iff]
      exact hnone

/-! ## §3. Runs. -/

/-- **Every step keeps the books.** -/
theorem booksKept_step {w w' : IndexedWorld W} (h : BooksKept w) {op : BooksOp W}
    (hstep : w.step op = some w') : BooksKept w' := by
  cases op with
  | replaceTile tileKey next otherwise => exact h.replaced hstep
  | addPlayer playerId =>
      cases hstep
      exact ⟨h.indexes, h.summaries, h.relicsOnce,
        fun p cache hget => List.mem_cons_of_mem _ (h.upkeep.known p cache hget),
        h.upkeep.built⟩
  | readUpkeep playerId =>
      simp only [IndexedWorld.step] at hstep
      split at hstep
      · rename_i hplayer
        cases hstep
        exact ⟨h.indexes, h.summaries, h.relicsOnce, h.upkeep.read hplayer⟩
      · cases hstep
        exact h
  | dropUpkeep playerId =>
      cases hstep
      exact ⟨h.indexes, h.summaries, h.relicsOnce, h.upkeep.invalidated playerId⟩

theorem booksKept_run {w : IndexedWorld W} (h : BooksKept w) (ops : List (BooksOp W)) :
    (∃ w', w.run ops = some w' ∧ BooksKept w') ∨
    (w.run ops = none ∧ ∃ before tileKey next otherwise after w',
      ops = before ++ .replaceTile tileKey next otherwise :: after
        ∧ w.run before = some w' ∧ TenthRelic w' tileKey next) := by
  induction ops generalizing w with
  | nil => exact Or.inl ⟨w, rfl, h⟩
  | cons op rest ih =>
      have hrun : ∀ ops, w.run (op :: ops) = (w.step op).bind fun w₁ => w₁.run ops := fun _ => rfl
      cases hstep : w.step op with
      | none =>
          right
          rw [hrun, hstep]
          refine ⟨rfl, ?_⟩
          cases op with
          | replaceTile tileKey next otherwise =>
              exact ⟨[], tileKey, next, otherwise, rest, w, rfl, rfl, h.thrown.mp hstep⟩
          | addPlayer playerId => cases hstep
          | readUpkeep playerId =>
              simp only [IndexedWorld.step] at hstep
              split at hstep <;> cases hstep
          | dropUpkeep playerId => cases hstep
      | some w₁ =>
          rw [hrun, hstep, Option.bind_some]
          obtain ⟨w', hw', hkept⟩ | ⟨hnone, before, tileKey, next, otherwise, after, w', rfl, hw',
            htenth⟩ := ih (booksKept_step h hstep)
          · exact Or.inl ⟨w', hw', hkept⟩
          · refine Or.inr ⟨hnone, op :: before, tileKey, next, otherwise, after, w', rfl, ?_,
              htenth⟩
            rw [hrun, hstep, Option.bind_some, hw']

/-- **Every index, every summary and every upkeep cache equals its recount**,
after any run of tile writes, joins, reads and drops; the run is cut short
only by a write that would give its owner a tenth relic. -/
theorem books_match_scratch (ops : List (BooksOp W)) :
    (∃ w, (IndexedWorld.empty : IndexedWorld W).run ops = some w ∧ w.MatchesScratch) ∨
    ((IndexedWorld.empty : IndexedWorld W).run ops = none
      ∧ ∃ before tileKey next otherwise after w,
        ops = before ++ .replaceTile tileKey next otherwise :: after
          ∧ (IndexedWorld.empty : IndexedWorld W).run before = some w
          ∧ TenthRelic w tileKey next) := by
  obtain ⟨w, hrun, hkept⟩ | hthrown := booksKept_run (booksKept_empty (W := W)) ops
  · exact Or.inl ⟨w, hrun, hkept.matchesScratch⟩
  · exact Or.inr hthrown

end BorderEmpires.Indexes
