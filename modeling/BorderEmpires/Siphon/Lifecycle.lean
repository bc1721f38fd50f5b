/-
  BorderEmpires.Siphon.Lifecycle
  **THE SIPHON LIFECYCLE: TILE WRITES, FLUSHES, COMMANDS.**

  Every tile write ends in the hook `onTileReplaced`, which queues the ends
  the write calls for and flushes the queue.  Ending a siphon writes tiles,
  so the hook runs again in the middle of a flush and only queues.  A write
  may also make the runtime write other tiles before its own hook runs
  (`TileWrite.nested`: a border that moves claims and unsettles land).
-/
import BorderEmpires.Siphon.Towers

namespace BorderEmpires.Siphon

variable {W : WorldSize}

/-! ## §1. Queued ends. -/

/-- The tile map, and the ends the lifecycle has queued. -/
structure Lifecycle (W : WorldSize) where
  tiles : Tiles W
  pending : List (SiphonEndRequest W)

variable (m : Moment W) (s : Lifecycle W)

/-- `onTileReplaced` up to its flush: writes that cannot matter are passed
over, the others queue the siphons they end. -/
def enqueueEnds (tileKey : TileKey W) (previous : Option (Tile W)) (next : Tile W)
    (s : Lifecycle W) : Lifecycle W :=
  if (previous.bind Tile.siphon).isNone ∧ (previous.bind Tile.stampTower).isNone
      ∧ next.observatory.map Observatory.status ≠ some .active then s
  else
    { s with pending := s.pending ++ siphonEndsForTileChange m s.tiles tileKey previous next }

/-- `replaceTileState` while a flush runs: the nested flush does nothing. -/
def replaceWhileFlushing (tileKey : TileKey W) (next : Tile W) (s : Lifecycle W) : Lifecycle W :=
  enqueueEnds m tileKey (s.tiles.get tileKey) next { s with tiles := s.tiles.set tileKey next }

def Tile.cleared (tile : Tile W) : Tile W := { tile with sabotage := none }

def Observatory.unlocked (observatory : Observatory W) : Observatory W :=
  { observatory with siphon := none }

def Tile.released (tower : Tile W) : Tile W :=
  { tower with observatory := tower.observatory.map Observatory.unlocked }

def SiphonEndRequest.endsStampOf (request : SiphonEndRequest W) (tile : Tile W) : Bool :=
  tile.sabotage.any fun sabotage =>
    decide (sabotage.observatoryTileKey = some request.observatoryKey
      ∧ sabotage.ownerId = request.casterId)

def clearStamp (request : SiphonEndRequest W) (s : Lifecycle W) (tileKey : TileKey W) :
    Lifecycle W :=
  match s.tiles.get tileKey with
  | none => s
  | some tile =>
      if request.endsStampOf tile then replaceWhileFlushing m tileKey tile.cleared s else s

def releaseTower (request : SiphonEndRequest W) (s : Lifecycle W) : Lifecycle W :=
  match s.tiles.get request.observatoryKey with
  | none => s
  | some tower =>
      if tower.siphon.isSome then replaceWhileFlushing m request.observatoryKey tower.released s
      else s

def applyEnd (request : SiphonEndRequest W) (s : Lifecycle W) : Lifecycle W :=
  releaseTower m request (request.tileKeys.foldl (clearStamp m request) s)

/-- The loop of `flush`, with fuel. -/
def flushLoop (m : Moment W) : Nat → Lifecycle W → Lifecycle W
  | 0, s => s
  | fuel + 1, s =>
      match s.pending with
      | [] => s
      | request :: rest => flushLoop m fuel (applyEnd m request { s with pending := rest })

/-! ## §2. The flush terminates. -/

/-- A tile counts once for a siphon stamp and once for a siphon record. -/
def Tile.halves (tile : Tile W) : Nat :=
  (if tile.stampTower.isSome then 1 else 0) + (if tile.siphon.isSome then 1 else 0)

def Lifecycle.halves : Nat := (s.tiles.entries.map fun e => e.2.halves).sum

def endsPerWrite : Nat := (squareOffsets OBSERVATORY_PROTECTION_RADIUS).length + 2

def Lifecycle.flushBound : Nat := s.pending.length + s.halves * endsPerWrite

def flush : Lifecycle W := flushLoop m s.flushBound s

theorem sum_put (f : Tile W → Nat) (key : TileKey W) (next : Tile W)
    (entries : List (TileKey W × Tile W)) {tile : Tile W}
    (h : AssocEntries.lookup key entries = some tile) :
    ((AssocEntries.put key next entries).map fun e => f e.2).sum + f tile
      = (entries.map fun e => f e.2).sum + f next := by
  induction entries with
  | nil => cases h
  | cons e rest ih =>
      rw [AssocEntries.lookup] at h
      by_cases hkey : e.1 = key
      · rw [if_pos hkey] at h
        obtain rfl := Option.some.inj h
        simp only [AssocEntries.put, if_pos hkey, List.map_cons, List.sum_cons]
        omega
      · rw [if_neg hkey] at h
        have hrest := ih h
        simp only [AssocEntries.put, if_neg hkey, List.map_cons, List.sum_cons]
        omega

theorem halves_set {key : TileKey W} {tile : Tile W} (h : s.tiles.get key = some tile)
    (next : Tile W) (pending : List (SiphonEndRequest W)) :
    (⟨s.tiles.set key next, pending⟩ : Lifecycle W).halves + tile.halves = s.halves + next.halves :=
  sum_put Tile.halves key next s.tiles.entries h

theorem victimTowerEnds_length (tiles : Tiles W) (victimId : PlayerId) (keys : List (TileKey W)) :
    ∀ seen, (victimTowerEnds tiles victimId keys seen).length ≤ keys.length := by
  induction keys with
  | nil =>
      intro seen
      exact Nat.le_refl 0
  | cons key keys ih =>
      intro seen
      have hsame := ih seen
      rw [victimTowerEnds, List.length_cons]
      split
      · omega
      split
      · omega
      split
      · omega
      next observatoryKey _ =>
        have hmore := ih (observatoryKey :: seen)
        split
        · rw [List.length_cons]
          omega
        · omega

theorem siphonEndsForTileChange_length (tiles : Tiles W) (tileKey : TileKey W)
    (previous : Option (Tile W)) (next : Tile W) :
    (siphonEndsForTileChange m tiles tileKey previous next).length ≤ endsPerWrite := by
  have hcaster : (casterLostEnds tileKey previous next).length ≤ 1 := by
    unfold casterLostEnds
    split
    · simp
    · split
      · simp
      · split <;> simp
  have hdrained : (drainedLostEnds tiles tileKey previous next).length ≤ 1 := by
    unfold drainedLostEnds
    split
    · simp
    · split
      · simp
      · split <;> simp
  have hvictim : (victimReturnEnds m tiles tileKey previous next).length
      ≤ (squareOffsets OBSERVATORY_PROTECTION_RADIUS).length := by
    unfold victimReturnEnds
    split
    · simp
    next victimId _ =>
      split
      · have hscan := victimTowerEnds_length tiles victimId (protectionSquare tileKey) []
        unfold protectionSquare at hscan ⊢
        rw [List.length_map] at hscan
        exact hscan
      · simp
  unfold siphonEndsForTileChange endsPerWrite
  rw [List.length_append, List.length_append]
  omega

theorem enqueueEnds_tiles (tileKey : TileKey W) (previous : Option (Tile W)) (next : Tile W)
    (s : Lifecycle W) : (enqueueEnds m tileKey previous next s).tiles = s.tiles := by
  unfold enqueueEnds
  split <;> rfl

theorem enqueueEnds_pending_length (tileKey : TileKey W) (previous : Option (Tile W))
    (next : Tile W) (s : Lifecycle W) :
    (enqueueEnds m tileKey previous next s).pending.length ≤ s.pending.length + endsPerWrite := by
  unfold enqueueEnds
  split
  · omega
  have hlength := siphonEndsForTileChange_length m s.tiles tileKey previous next
  show (s.pending ++ _).length ≤ _
  rw [List.length_append]
  omega

/-- **A write that takes a half off the map pays for the ends it queues.** -/
theorem replaceWhileFlushing_bound {key : TileKey W} {tile next : Tile W}
    (h : s.tiles.get key = some tile) (hless : next.halves < tile.halves) :
    (replaceWhileFlushing m key next s).flushBound ≤ s.flushBound := by
  have hhalves := halves_set s h next s.pending
  have hlength := enqueueEnds_pending_length m key (s.tiles.get key) next
    { s with tiles := s.tiles.set key next }
  have htiles : (replaceWhileFlushing m key next s).halves + tile.halves
      = s.halves + next.halves := by
    rw [← hhalves]
    unfold replaceWhileFlushing Lifecycle.halves
    rw [enqueueEnds_tiles]
  have hlength : (replaceWhileFlushing m key next s).pending.length
      ≤ s.pending.length + endsPerWrite := hlength
  have hsucc : (replaceWhileFlushing m key next s).halves + 1 ≤ s.halves := by omega
  have hmul := Nat.mul_le_mul_right endsPerWrite hsucc
  rw [Nat.add_mul, Nat.one_mul] at hmul
  unfold Lifecycle.flushBound
  omega

theorem Tile.halves_cleared {tile : Tile W} (h : tile.stampTower.isSome) :
    tile.cleared.halves < tile.halves := by
  have hcleared : tile.cleared.halves = if tile.siphon.isSome then 1 else 0 := Nat.zero_add _
  rw [hcleared]
  unfold Tile.halves
  rw [if_pos h]
  omega

theorem Tile.siphon_released (tile : Tile W) : tile.released.siphon = none := by
  unfold Tile.released Tile.siphon
  cases tile.observatory <;> rfl

theorem Tile.halves_released {tile : Tile W} (h : tile.siphon.isSome) :
    tile.released.halves < tile.halves := by
  unfold Tile.halves
  rw [Tile.siphon_released, if_pos h]
  show (if tile.stampTower.isSome then 1 else 0) + 0 < _
  omega

theorem SiphonEndRequest.stampTower_of_endsStampOf {request : SiphonEndRequest W} {tile : Tile W}
    (h : request.endsStampOf tile = true) :
    ∃ sabotage, tile.sabotage = some sabotage
      ∧ sabotage.observatoryTileKey = some request.observatoryKey
      ∧ sabotage.ownerId = request.casterId := by
  unfold SiphonEndRequest.endsStampOf at h
  cases hsabotage : tile.sabotage with
  | none =>
      rw [hsabotage] at h
      cases h
  | some sabotage =>
      rw [hsabotage] at h
      exact ⟨sabotage, rfl, of_decide_eq_true h⟩

theorem clearStamp_bound (request : SiphonEndRequest W) (s : Lifecycle W) (key : TileKey W) :
    (clearStamp m request s key).flushBound ≤ s.flushBound := by
  unfold clearStamp
  split
  · omega
  next tile htile =>
    split
    next hends =>
      obtain ⟨sabotage, hsabotage, htower, -⟩ := SiphonEndRequest.stampTower_of_endsStampOf hends
      have hstamp : tile.stampTower.isSome := by
        unfold Tile.stampTower
        rw [hsabotage]
        show sabotage.observatoryTileKey.isSome
        rw [htower]
        rfl
      exact replaceWhileFlushing_bound m s htile (Tile.halves_cleared hstamp)
    next => omega

theorem releaseTower_bound (request : SiphonEndRequest W) (s : Lifecycle W) :
    (releaseTower m request s).flushBound ≤ s.flushBound := by
  unfold releaseTower
  split
  · omega
  next tower htower =>
    split
    next hsiphon => exact replaceWhileFlushing_bound m s htower (Tile.halves_released hsiphon)
    next => omega

/-- **Applying an end never adds work.** -/
theorem applyEnd_bound (request : SiphonEndRequest W) (s : Lifecycle W) :
    (applyEnd m request s).flushBound ≤ s.flushBound := by
  have hstamps : ∀ (keys : List (TileKey W)) (s : Lifecycle W),
      (keys.foldl (clearStamp m request) s).flushBound ≤ s.flushBound := by
    intro keys
    induction keys with
    | nil =>
        intro s
        exact Nat.le_refl _
    | cons key keys ih =>
        intro s
        have hfirst := clearStamp_bound m request s key
        have hrest := ih (clearStamp m request s key)
        show (keys.foldl (clearStamp m request) (clearStamp m request s key)).flushBound ≤ _
        omega
  have htower := releaseTower_bound m request (request.tileKeys.foldl (clearStamp m request) s)
  have hkeys := hstamps request.tileKeys s
  unfold applyEnd
  omega

/-- **The flush terminates**: as many rounds as the bound empty the queue. -/
theorem flushLoop_drains (fuel : Nat) :
    ∀ s : Lifecycle W, s.flushBound ≤ fuel → (flushLoop m fuel s).pending = [] := by
  induction fuel with
  | zero =>
      intro s hbound
      have hlength : s.pending.length = 0 := by
        unfold Lifecycle.flushBound at hbound
        omega
      exact List.length_eq_zero_iff.mp hlength
  | succ fuel ih =>
      intro s hbound
      rw [flushLoop]
      split
      next hempty => exact hempty
      next request rest hpending =>
        -- one request leaves the queue, its writes pay for what they add
        have happly := applyEnd_bound m request { s with pending := rest }
        refine ih _ ?_
        have hrest : ({ s with pending := rest } : Lifecycle W).flushBound + 1 = s.flushBound := by
          unfold Lifecycle.flushBound
          rw [hpending, List.length_cons]
          show rest.length + s.halves * endsPerWrite + 1 = _
          omega
        omega

theorem flushLoop_of_empty (fuel : Nat) {s : Lifecycle W} (h : s.pending = []) :
    flushLoop m fuel s = s := by
  cases fuel with
  | zero => rfl
  | succ fuel =>
      rw [flushLoop]
      split
      · rfl
      next request rest hpending =>
        rw [h] at hpending
        cases hpending

theorem flushLoop_add (fuel more : Nat) :
    ∀ s : Lifecycle W, flushLoop m (fuel + more) s = flushLoop m more (flushLoop m fuel s) := by
  induction fuel with
  | zero =>
      intro s
      rw [Nat.zero_add]
      rfl
  | succ fuel ih =>
      intro s
      rw [Nat.succ_add, flushLoop, flushLoop]
      split
      next hempty => rw [flushLoop_of_empty m more hempty]
      next request rest _ => exact ih _

theorem flush_eq_flushLoop {fuel : Nat} (h : s.flushBound ≤ fuel) :
    flushLoop m fuel s = flush m s := by
  obtain ⟨more, rfl⟩ := Nat.exists_eq_add_of_le h
  rw [flushLoop_add]
  exact flushLoop_of_empty m more (flushLoop_drains m _ s (Nat.le_refl _))

@[simp] theorem flush_pending : (flush m s).pending = [] := flushLoop_drains m _ s (Nat.le_refl _)

/-! ## §3. Tile writes. -/

/-- A call of `replaceTileState`: the tile it writes, and the calls the
runtime makes for it before its siphon hook. -/
inductive TileWrite (W : WorldSize) where
  | replace (tileKey : TileKey W) (next : Tile W) (nested : List (TileWrite W))

def onTileReplaced (tileKey : TileKey W) (previous : Option (Tile W)) (next : Tile W)
    (s : Lifecycle W) : Lifecycle W :=
  flush m (enqueueEnds m tileKey previous next s)

mutual
/-- `replaceTileState` outside a flush. -/
def replaceTileState (m : Moment W) : TileWrite W → Lifecycle W → Lifecycle W
  | .replace tileKey next nested, s =>
      onTileReplaced m tileKey (s.tiles.get tileKey) next
        (replaceNested m nested { s with tiles := s.tiles.set tileKey next })

def replaceNested (m : Moment W) : List (TileWrite W) → Lifecycle W → Lifecycle W
  | [], s => s
  | write :: rest, s => replaceNested m rest (replaceTileState m write s)
end

/-! ## §4. Commands and the sweep. -/

/-- Periodic victim-tower check. -/
def sweepShieldReturns (towerKeys : List (TileKey W)) (s : Lifecycle W) : Lifecycle W :=
  flush m { s with pending := s.pending ++ siphonEndsForShieldReturn m s.tiles towerKeys }

def endSiphon (request : SiphonEndRequest W) (s : Lifecycle W) : Lifecycle W :=
  flush m { s with pending := s.pending ++ [request] }

/-- What the handlers read of the player. -/
structure Actor where
  id : PlayerId
  hasSiphonTech : Bool
  allies : List PlayerId
  truces : List PlayerId

def isAlliedOrTruced (actor : Actor) (otherPlayerId : PlayerId) : Bool :=
  decide (otherPlayerId ∈ actor.allies) || decide (otherPlayerId ∈ actor.truces)

/-- The code and message of a `COMMAND_REJECTED`. -/
structure Rejection where
  code : String
  message : String
  deriving DecidableEq

def isActiveSiphon (tile : Tile W) (now : Nat) : Bool :=
  tile.sabotage.any fun sabotage => decide (sabotage.endsAt > now)

def siphonableTileForActor (tile : Tile W) (actor : Actor) (now : Nat) : Bool :=
  match tile.ownerId with
  | none => false
  | some ownerId =>
      decide (tile.terrain = .LAND) && decide (ownerId ≠ actor.id)
        && !isAlliedOrTruced actor ownerId && (tile.town || tile.resource)
        && !isActiveSiphon tile now

def drainableTileForActor (tiles : Tiles W) (key : TileKey W) (tile : Tile W) (actor : Actor) :
    Bool :=
  siphonableTileForActor tile actor m.now.ms
    && !isTileShieldedByEnemyObservatory m tiles actor.id key

/-- The drainable tiles in the square around the target, as they stand. -/
def affectedTiles (tiles : Tiles W) (target : TileKey W) (actor : Actor) :
    List (TileKey W × Tile W) :=
  ((squareOffsets 1).map target.shift).filterMap fun key =>
    (tiles.get key).bind fun tile =>
      if drainableTileForActor m tiles key tile actor then some (key, tile) else none

def siphonStamp (actor : Actor) (observatoryKey : TileKey W) : Sabotage W where
  ownerId := actor.id
  endsAt := SIPHON_UNTIL_CANCELLED_ENDS_AT
  outputMultiplier := 1 - SIPHON_SHARE
  observatoryTileKey := some observatoryKey

def Tile.stamped (tile : Tile W) (stamp : Sabotage W) : Tile W := { tile with sabotage := some stamp }

def lockedTower (actor : Actor) (target : TileKey W) (affected : List (TileKey W × Tile W))
    (tower : Tile W) (observatory : Observatory W) :
    Tile W :=
  { tower with
      observatory := some
        { spendAetherTowerShot observatory (m.maxShotsFor actor.id) m.now.ms with
            siphon := some ⟨target, affected.map Prod.fst, m.now.ms⟩ } }

/-- The writes of a cast: all tiles were read before the first of them. -/
def castWrites (actor : Actor) (target observatoryKey : TileKey W) (tower : Tile W)
    (observatory : Observatory W) (s : Lifecycle W) : List (TileWrite W) :=
  let affected := affectedTiles m s.tiles target actor
  affected.map (fun entry =>
      .replace entry.1 (entry.2.stamped (siphonStamp actor observatoryKey)) [])
    ++ [.replace observatoryKey (lockedTower m actor target affected tower observatory) []]

/-- `handleSiphonTileCommand`.  The payload is `none` when it does not
parse; coordinates outside the world name no tile. -/
def handleSiphonTileCommand (actor : Option Actor) (payload : Option (Option (TileKey W)))
    (s : Lifecycle W) : Except Rejection (Lifecycle W) :=
  match actor, payload with
  | some actor, some place =>
      if actor.hasSiphonTech then
        match place.bind fun key => (s.tiles.get key).map fun tile => (key, tile) with
        | none => .error ⟨"SIPHON_INVALID", "target enemy-controlled town or resource tile"⟩
        | some (target, tile) =>
            if siphonableTileForActor tile actor m.now.ms then
              if drainableTileForActor m s.tiles target tile actor then
                match pickReadyOwnedObservatoryForTarget m s.tiles actor.id target with
                | none => .error ⟨"SIPHON_INVALID", "no ready Aether Tower in range of target"⟩
                | some observatoryKey =>
                    match s.tiles.get observatoryKey with
                    | none =>
                        .error ⟨"SIPHON_INVALID", "no ready Aether Tower in range of target"⟩
                    | some tower =>
                        match tower.observatory with
                        | none =>
                            .error ⟨"SIPHON_INVALID", "no ready Aether Tower in range of target"⟩
                        | some observatory =>
                            .ok (replaceNested m
                              (castWrites m actor target observatoryKey tower observatory s) s)
              else .error ⟨"SIPHON_INVALID", "target is protected by its owner's Aether Tower"⟩
            else .error ⟨"SIPHON_INVALID", "target enemy-controlled town or resource tile"⟩
      else .error ⟨"SIPHON_INVALID", "requires Transposition Array Module"⟩
  | _, _ => .error ⟨"BAD_COMMAND", "invalid command payload"⟩

/-- `handleCancelSiphonCommand`: the place is the caster's own tower. -/
def handleCancelSiphonCommand (actor : Option Actor) (payload : Option (Option (TileKey W)))
    (s : Lifecycle W) : Except Rejection (Lifecycle W) :=
  match actor, payload with
  | some actor, some place =>
      match place.bind fun key => (s.tiles.get key).map fun tile => (key, tile) with
      | none =>
          .error ⟨"CANCEL_SIPHON_INVALID", "no Aether Tower of yours in siphon mode on that tile"⟩
      | some (observatoryKey, tower) =>
          match tower.observatory.bind fun obs => obs.siphon.map fun siphon => (obs, siphon) with
          | none =>
              .error ⟨"CANCEL_SIPHON_INVALID",
                "no Aether Tower of yours in siphon mode on that tile"⟩
          | some (observatory, siphon) =>
              if observatory.ownerId = actor.id ∧ tower.ownerId = some actor.id then
                .ok (endSiphon m ⟨observatoryKey, actor.id, siphon.tileKeys, .cancelled⟩ s)
              else
                .error ⟨"CANCEL_SIPHON_INVALID",
                  "no Aether Tower of yours in siphon mode on that tile"⟩
  | _, _ => .error ⟨"BAD_COMMAND", "invalid command payload"⟩

inductive SiphonOp (W : WorldSize) where
  | cast (m : Moment W) (actor : Option Actor) (payload : Option (Option (TileKey W)))
  | cancel (m : Moment W) (actor : Option Actor) (payload : Option (Option (TileKey W)))
  | sweep (m : Moment W) (towerKeys : List (TileKey W))
  | write (m : Moment W) (write : TileWrite W)

/-- A rejected command changes nothing. -/
def orUnchanged (outcome : Except Rejection (Lifecycle W)) : Lifecycle W :=
  match outcome with
  | .ok next => next
  | .error _ => s

def Lifecycle.step : SiphonOp W → Lifecycle W
  | .cast m actor payload => orUnchanged s (handleSiphonTileCommand m actor payload s)
  | .cancel m actor payload => orUnchanged s (handleCancelSiphonCommand m actor payload s)
  | .sweep m towerKeys => sweepShieldReturns m towerKeys s
  | .write m write => replaceTileState m write s

end BorderEmpires.Siphon
