/-
  BorderEmpires.Snapshots.Cache
  **THE SNAPSHOT CACHE AND WHAT ITS ENTRIES REFLECT.**

  An entry is stamped with the world revision its tiles were current as of,
  and only an entry stamped with the current one is served.  A tile batch
  takes an entry one revision further; messages patch an entry and leave its
  stamp.  A build is stamped with the revision it started at, so a batch
  that lands during the build makes it stale; a message that does, does not.
-/
import BorderEmpires.Lib.Run
import BorderEmpires.Snapshots.Merge

namespace BorderEmpires.Snapshots

/-! ## §1. The cache. -/

structure CacheEntry where
  snapshot : PlayerSubscriptionSnapshot
  revision : Nat

structure PlayerSnapshotCache where
  entriesByPlayerId : InsertionMap String CacheEntry
  revision : Nat
  staleReads : Nat

namespace PlayerSnapshotCache

variable (cache : PlayerSnapshotCache)

def empty : PlayerSnapshotCache := ⟨.empty, 0, 0⟩

def bumpWorldRevision : PlayerSnapshotCache :=
  { cache with revision := cache.revision + 1 }

def peek (playerId : String) : Option PlayerSubscriptionSnapshot :=
  (cache.entriesByPlayerId.get playerId).map (·.snapshot)

/-- The entry, if its stamp is the current revision; a stale one is counted. -/
def getCurrent (playerId : String) : Option PlayerSubscriptionSnapshot × PlayerSnapshotCache :=
  match cache.entriesByPlayerId.get playerId with
  | none => (none, cache)
  | some entry =>
      if entry.revision ≠ cache.revision then
        (none, { cache with staleReads := cache.staleReads + 1 })
      else (some entry.snapshot, cache)

def set (cache : PlayerSnapshotCache) (playerId : String) (snapshot : PlayerSubscriptionSnapshot)
    (atRevision : Option Nat) : PlayerSnapshotCache :=
  { cache with
    entriesByPlayerId :=
      cache.entriesByPlayerId.set playerId ⟨snapshot, atRevision.getD cache.revision⟩ }

/-- Replace the snapshot and keep its stamp. -/
def update (playerId : String) (snapshot : PlayerSubscriptionSnapshot) : PlayerSnapshotCache :=
  match cache.entriesByPlayerId.get playerId with
  | none => cache
  | some entry =>
      { cache with
        entriesByPlayerId := cache.entriesByPlayerId.set playerId ⟨snapshot, entry.revision⟩ }

def applyIfCurrent (playerId : String) (priorRevision : Nat)
    (updater : PlayerSubscriptionSnapshot → PlayerSubscriptionSnapshot) : PlayerSnapshotCache :=
  match cache.entriesByPlayerId.get playerId with
  | none => cache
  | some entry =>
      if entry.revision ≠ priorRevision then cache
      else
        { cache with
          entriesByPlayerId :=
            cache.entriesByPlayerId.set playerId ⟨updater entry.snapshot, cache.revision⟩ }

def advanceIfCurrent (playerId : String) (priorRevision : Nat) : PlayerSnapshotCache :=
  match cache.entriesByPlayerId.get playerId with
  | none => cache
  | some entry =>
      if entry.revision ≠ priorRevision then cache
      else
        { cache with
          entriesByPlayerId :=
            cache.entriesByPlayerId.set playerId { entry with revision := cache.revision } }

def delete (playerId : String) : PlayerSnapshotCache :=
  { cache with entriesByPlayerId := cache.entriesByPlayerId.erase playerId }

def clear : PlayerSnapshotCache :=
  { cache with entriesByPlayerId := .empty }

/-- What a subscribed player's entry gets of a batch. -/
def fanOut (visible : String → TileDeltas) (priorRevision : Nat) (cache : PlayerSnapshotCache)
    (playerId : String) : PlayerSnapshotCache :=
  if 0 < (visible playerId).size then
    cache.applyIfCurrent playerId priorRevision fun snapshot =>
      applyTileDeltasToSnapshot snapshot (visible playerId)
  else cache.advanceIfCurrent playerId priorRevision

/-- A tile batch: `visible` is what the filter leaves each player of it. -/
def tileDeltaBatch (visible : String → TileDeltas) (subscribedPlayerIds : List String) :
    PlayerSnapshotCache :=
  subscribedPlayerIds.foldl (fanOut visible cache.revision) cache.bumpWorldRevision

end PlayerSnapshotCache

inductive NonTileEventType where
  | PLAYER_MESSAGE | TECH_UPDATE | DOMAIN_UPDATE
deriving DecidableEq, Repr

def eventMessage (eventType : NonTileEventType) (payload : Payload) : Payload :=
  match eventType with
  | .PLAYER_MESSAGE => payload
  | .TECH_UPDATE => { payload with type := nullishType payload.type "TECH_UPDATE" }
  | .DOMAIN_UPDATE => { payload with type := nullishType payload.type "DOMAIN_UPDATE" }
where
  /-- `{ type: eventType, ...payload }.type`. -/
  nullishType (type : HostValue) (eventType : String) : HostValue :=
    if type.isUndefined then .text eventType else type

def applyNonTileEventToCache (parsers : SharedParsers) (cache : PlayerSnapshotCache)
    (eventType : NonTileEventType) (playerId : String) (payload : Option Payload) :
    PlayerSnapshotCache :=
  match payload, cache.peek playerId with
  | some payload, some cachedSnapshot =>
      cache.update playerId
        (applyPlayerMessageToSnapshot parsers cachedSnapshot (eventMessage eventType payload))
  | _, _ => cache

/-! ## §2. What happens to the service. -/

/-- What a snapshot may have to reflect. -/
inductive Happened where
  | tileBatch (visible : String → TileDeltas)
  | message (eventType : NonTileEventType) (playerId : String) (payload : Option Payload)

/-- A build under way: its stamp, and how much had happened when it started. -/
structure Build where
  playerId : String
  atRevision : Nat
  startedAfter : Nat

/-- The cache, what happened so far, and the builds under way. -/
structure Service where
  cache : PlayerSnapshotCache
  history : List Happened
  builds : List Build

inductive ServiceStep where
  | tileBatch (visible : String → TileDeltas) (subscribedPlayerIds : List String)
  | nonTileEvent (eventType : NonTileEventType) (playerId : String) (payload : Option Payload)
  | startBuild (playerId : String)
  | finishBuild (index : Nat) (snapshot : PlayerSubscriptionSnapshot)
  | read (playerId : String)
  | delete (playerId : String)
  | clear

namespace Service

def initial : Service := ⟨.empty, [], []⟩

def step (parsers : SharedParsers) (s : Service) : ServiceStep → Service
  | .tileBatch visible subscribedPlayerIds =>
      { s with
        cache := s.cache.tileDeltaBatch visible subscribedPlayerIds
        history := s.history ++ [.tileBatch visible] }
  | .nonTileEvent eventType playerId payload =>
      { s with
        cache := applyNonTileEventToCache parsers s.cache eventType playerId payload
        history := s.history ++ [.message eventType playerId payload] }
  | .startBuild playerId =>
      { s with builds := s.builds ++ [⟨playerId, s.cache.revision, s.history.length⟩] }
  | .finishBuild index snapshot =>
      match s.builds[index]? with
      | none => s
      | some build =>
          { s with
            cache := s.cache.set build.playerId snapshot (some build.atRevision)
            builds := s.builds.eraseIdx index }
  | .read playerId => { s with cache := (s.cache.getCurrent playerId).2 }
  | .delete playerId => { s with cache := s.cache.delete playerId }
  | .clear => { s with cache := s.cache.clear }

end Service

/-! ## §3. What a snapshot reflects. -/

/-- What an event says of a member of a player's snapshot. -/
def writes (parsers : SharedParsers) (playerId : String) : Happened → Field → Option HostValue
  | .tileBatch visible, .tile key name => ((visible playerId).get key).bind (·.writes name)
  | .tileBatch _, _ => none
  | .message eventType player payload, field =>
      if player = playerId then
        payload.bind fun payload => messageWrites parsers (eventMessage eventType payload) field
      else none

theorem writes_message (parsers : SharedParsers) (playerId player : String)
    (eventType : NonTileEventType) (payload : Option Payload) (field : Field) :
    writes parsers playerId (.message eventType player payload) field
      = if player = playerId then
          payload.bind fun payload => messageWrites parsers (eventMessage eventType payload) field
        else none := rfl

/-- **The event shows**: each member it writes has the value it wrote, or
one that a later event wrote. -/
def Shows (parsers : SharedParsers) (playerId : String) (history : List Happened) (n : Nat)
    (snapshot : PlayerSubscriptionSnapshot) : Prop :=
  ∀ event, history[n]? = some event → ∀ field value,
    writes parsers playerId event field = some value →
      ∃ later ∈ history.drop n, writes parsers playerId later field = some (read snapshot field)

/-- **A snapshot reflects** what happened from one point to another. -/
def Reflects (parsers : SharedParsers) (playerId : String) (history : List Happened)
    (first last : Nat) (snapshot : PlayerSubscriptionSnapshot) : Prop :=
  ∀ n, first ≤ n → n < last → Shows parsers playerId history n snapshot

/-- **Every snapshot that is served reflects all that happened.** -/
def Fresh (parsers : SharedParsers) (s : Service) : Prop :=
  ∀ playerId snapshot, (s.cache.getCurrent playerId).1 = some snapshot →
    Reflects parsers playerId s.history 0 s.history.length snapshot

/-- The assumption on builds: they reflect what happened before they started. -/
def Honest (parsers : SharedParsers) (s : Service) : ServiceStep → Prop
  | .finishBuild index snapshot => ∀ build, s.builds[index]? = some build →
      Reflects parsers build.playerId s.history 0 build.startedAfter snapshot
  | _ => True

/-- **The condition**: a build that no tile batch has made stale also reflects
what happened since it started, and a message that writes the player section
finds one in the entry that is served. -/
def Covered (parsers : SharedParsers) (s : Service) : ServiceStep → Prop
  | .finishBuild index snapshot => ∀ build, s.builds[index]? = some build →
      build.atRevision = s.cache.revision →
        Reflects parsers build.playerId s.history build.startedAfter s.history.length snapshot
  | .nonTileEvent eventType playerId payload => ∀ snapshot,
      (s.cache.getCurrent playerId).1 = some snapshot → snapshot.player = none →
        ∀ field, writes parsers playerId (.message eventType playerId payload) (.player field) = none
  | _ => True

section Shows

variable {parsers : SharedParsers} {playerId : String} {history : List Happened}
  {snapshot patched : PlayerSubscriptionSnapshot}

theorem writes_status {event : Happened} {field : WorldStatusField} {value : HostValue}
    (h : writes parsers playerId event (.status field) = some value) : value.isNullish = false := by
  cases event with
  | tileBatch visible => cases h
  | message eventType player payload =>
      rw [writes_message] at h
      split at h
      · obtain ⟨p, -, hp⟩ := Option.bind_eq_some_iff.mp h
        exact messageWrites_status parsers _ hp
      · cases h

/-- **A snapshot patched with an event reflects it, and what it reflected
before**: the members the event writes have its values, the others stay. -/
theorem reflects_snoc {event : Happened}
    (hbefore : Reflects parsers playerId history 0 history.length snapshot)
    (hwritten : ∀ field value, writes parsers playerId event field = some value →
      read patched field = value)
    (hkept : ∀ field, writes parsers playerId event field = none →
      read patched field = read snapshot field
        ∨ (∃ f, field = .status f) ∧ (read snapshot field).isNullish = true) :
    Reflects parsers playerId (history ++ [event]) 0 (history ++ [event]).length patched := by
  intro n _ hn e he field value hvalue
  have hlast : ∀ v, writes parsers playerId event field = some v →
      ∃ later ∈ (history ++ [event]).drop n,
        writes parsers playerId later field = some (read patched field) := by
    intro v hv
    refine ⟨event, ?_, ?_⟩
    · rw [List.drop_append_of_le_length (by simpa [Nat.lt_succ_iff] using hn)]
      simp
    · rw [hv, hwritten field v hv]
  by_cases hold : n < history.length
  · have he' : history[n]? = some e := by rwa [List.getElem?_append_left hold] at he
    obtain ⟨later, hmem, hlater⟩ := hbefore n (Nat.zero_le n) hold e he' field value hvalue
    cases hwrites : writes parsers playerId event field with
    | some v => exact hlast v hwrites
    | none =>
        rcases hkept field hwrites with heq | ⟨⟨f, rfl⟩, hnullish⟩
        · refine ⟨later, ?_, ?_⟩
          · rw [List.drop_append_of_le_length (by omega)]
            exact List.mem_append_left _ hmem
          · rw [hlater, heq]
        · -- no event wrote a part of the world status that is not there
          rw [writes_status hlater] at hnullish
          cases hnullish
  · have hn' : n = history.length := by
      rw [List.length_append, List.length_singleton] at hn
      omega
    have heq : event = e := by
      rw [hn', List.getElem?_append_right (Nat.le_refl _), Nat.sub_self] at he
      exact Option.some.inj he
    exact hlast value (heq ▸ hvalue)

theorem reflects_snoc_silent {event : Happened}
    (hbefore : Reflects parsers playerId history 0 history.length snapshot)
    (hsilent : ∀ field, writes parsers playerId event field = none) :
    Reflects parsers playerId (history ++ [event]) 0 (history ++ [event]).length snapshot :=
  reflects_snoc hbefore
    (fun field value hvalue => by
      rw [hsilent field] at hvalue
      exact (by cases hvalue))
    (fun _ _ => Or.inl rfl)

theorem reflects_tileBatch {visible : String → TileDeltas}
    (hbefore : Reflects parsers playerId history 0 history.length snapshot) :
    Reflects parsers playerId (history ++ [.tileBatch visible]) 0
      (history ++ [Happened.tileBatch visible]).length
      (applyTileDeltasToSnapshot snapshot (visible playerId)) := by
  refine reflects_snoc hbefore (fun field value hvalue => ?_) (fun field hnone => Or.inl ?_)
  · cases field with
    | player field => cases hvalue
    | status field => cases hvalue
    | tile key name =>
        obtain ⟨delta, hdelta, hname⟩ := Option.bind_eq_some_iff.mp hvalue
        unfold read
        dsimp only
        rw [get_applyTileDeltas, hdelta]
        show (deltaTile (snapshot.tiles.get key) delta).elim _ _ = value
        unfold deltaTile
        cases snapshot.tiles.get key with
        | some tile =>
            show (delta.writes name).getD _ = value
            rw [hname]
            rfl
        | none =>
            dsimp only
            by_cases hclear : delta.ownershipClearOnly = true
            · rw [if_pos hclear, delta.clears hclear name value hname]
              rfl
            · rw [if_neg hclear]
              show (delta.writes name).getD _ = value
              rw [hname]
              rfl
  · cases field with
    | player field => rfl
    | status field => rfl
    | tile key name =>
        unfold read
        dsimp only
        rw [get_applyTileDeltas]
        cases hdelta : (visible playerId).get key with
        | none => rfl
        | some delta =>
            have hname : delta.writes name = none := by
              have hbind : ((visible playerId).get key).bind (·.writes name) = none := hnone
              rw [hdelta] at hbind
              exact hbind
            show (deltaTile (snapshot.tiles.get key) delta).elim _ _ = _
            unfold deltaTile
            cases snapshot.tiles.get key with
            | some tile =>
                show (delta.writes name).getD _ = _
                rw [hname]
                rfl
            | none =>
                dsimp only
                by_cases hclear : delta.ownershipClearOnly = true
                · rw [if_pos hclear]
                · rw [if_neg hclear]
                  show (delta.writes name).getD _ = _
                  rw [hname]
                  rfl

theorem reflects_message {eventType : NonTileEventType} {payload : Payload}
    (hbefore : Reflects parsers playerId history 0 history.length snapshot)
    (hplayer : snapshot.player = none → ∀ field,
      messageWrites parsers (eventMessage eventType payload) (.player field) = none) :
    Reflects parsers playerId (history ++ [.message eventType playerId (some payload)]) 0
      (history ++ [Happened.message eventType playerId (some payload)]).length
      (applyPlayerMessageToSnapshot parsers snapshot (eventMessage eventType payload)) := by
  have hwrites : ∀ field, writes parsers playerId (.message eventType playerId (some payload)) field
      = messageWrites parsers (eventMessage eventType payload) field :=
    fun field => if_pos rfl
  refine reflects_snoc hbefore (fun field value hvalue => ?_) (fun field hnone => ?_)
  · rw [hwrites] at hvalue
    refine read_applyPlayerMessage parsers snapshot _ field value hvalue (fun f hf => ?_)
    rw [Option.isSome_iff_ne_none]
    intro hnone
    rw [hf, hplayer hnone f] at hvalue
    cases hvalue
  · rw [hwrites] at hnone
    exact read_applyPlayerMessage_untouched parsers snapshot _ field hnone

end Shows

/-! ## §4. The entries after a step. -/

namespace PlayerSnapshotCache

theorem getCurrent_eq_some_iff (cache : PlayerSnapshotCache) (playerId : String)
    (snapshot : PlayerSubscriptionSnapshot) :
    (cache.getCurrent playerId).1 = some snapshot
      ↔ ∃ entry, cache.entriesByPlayerId.get playerId = some entry
          ∧ entry.revision = cache.revision ∧ entry.snapshot = snapshot := by
  unfold getCurrent
  cases hget : cache.entriesByPlayerId.get playerId with
  | none => simp
  | some entry =>
      by_cases hrevision : entry.revision = cache.revision
      · simp [hrevision]
      · simp [hrevision]

theorem getCurrent_entries (cache : PlayerSnapshotCache) (playerId : String) :
    (cache.getCurrent playerId).2.entriesByPlayerId = cache.entriesByPlayerId
      ∧ (cache.getCurrent playerId).2.revision = cache.revision := by
  unfold getCurrent
  split
  · exact ⟨rfl, rfl⟩
  · split
    · exact ⟨rfl, rfl⟩
    · exact ⟨rfl, rfl⟩

/-- An entry after its share of a batch. -/
def caughtUp (visible : String → TileDeltas) (revision : Nat) (playerId : String)
    (entry : CacheEntry) : CacheEntry :=
  ⟨applyTileDeltasToSnapshot entry.snapshot (visible playerId), revision⟩

theorem fanOut_spec (visible : String → TileDeltas) (prior : Nat) (cache : PlayerSnapshotCache)
    (player playerId : String) :
    (fanOut visible prior cache player).revision = cache.revision
      ∧ (fanOut visible prior cache player).entriesByPlayerId.get playerId
        = (cache.entriesByPlayerId.get playerId).map fun entry =>
            if player = playerId ∧ entry.revision = prior then
              caughtUp visible cache.revision playerId entry
            else entry := by
  unfold fanOut applyIfCurrent advanceIfCurrent
  cases hget : cache.entriesByPlayerId.get player with
  | none =>
      dsimp only
      rw [ite_self]
      refine ⟨rfl, ?_⟩
      by_cases hplayer : player = playerId
      · rw [← hplayer, hget]
        rfl
      · simp [hplayer]
  | some entry =>
      dsimp only
      by_cases hrevision : entry.revision = prior
      · have hne : ¬ entry.revision ≠ prior := fun h => h hrevision
        rw [if_neg hne, if_neg hne]
        -- nothing to see of a batch: the snapshot stays as it is
        have hempty : ¬ 0 < (visible player).size →
            applyTileDeltasToSnapshot entry.snapshot (visible player) = entry.snapshot := by
          intro hsize
          have hentries : (visible player).entries = [] := by
            rw [← List.length_eq_zero_iff]
            exact Nat.eq_zero_of_not_pos hsize
          unfold applyTileDeltasToSnapshot
          rw [hentries]
          rfl
        constructor
        · split <;> rfl
        · by_cases hplayer : player = playerId
          · subst hplayer
            have hcond : player = player ∧ entry.revision = prior := ⟨rfl, hrevision⟩
            rw [hget, Option.map_some, if_pos hcond]
            split
            · exact InsertionMap.get_set_self _ _ _
            rename_i hsize
            unfold caughtUp
            rw [hempty hsize]
            exact InsertionMap.get_set_self _ _ _
          · have hsame : ∀ e, (cache.entriesByPlayerId.set player e).get playerId
                = cache.entriesByPlayerId.get playerId :=
              fun e => InsertionMap.get_set_ne _ hplayer e
            simp only [hplayer, false_and, if_false, Option.map_id']
            split
            · exact hsame _
            · exact hsame _
      · rw [if_pos hrevision, if_pos hrevision, ite_self]
        refine ⟨rfl, ?_⟩
        by_cases hplayer : player = playerId
        · rw [← hplayer, hget, Option.map_some, if_neg (fun h => hrevision h.2)]
        · simp [hplayer]

/-- **A batch takes the current entries of subscribed players along**, once. -/
theorem foldl_fanOut_spec (visible : String → TileDeltas) (prior : Nat) (playerId : String)
    (players : List String) :
    ∀ cache : PlayerSnapshotCache, cache.revision ≠ prior →
      (players.foldl (fanOut visible prior) cache).revision = cache.revision
        ∧ (players.foldl (fanOut visible prior) cache).entriesByPlayerId.get playerId
          = (cache.entriesByPlayerId.get playerId).map fun entry =>
              if playerId ∈ players ∧ entry.revision = prior then
                caughtUp visible cache.revision playerId entry
              else entry := by
  induction players with
  | nil =>
      intro cache _
      exact ⟨rfl, by simp⟩
  | cons player players ih =>
      intro cache hrevision
      obtain ⟨hfirst, hget⟩ := fanOut_spec visible prior cache player playerId
      obtain ⟨hrest, hgetRest⟩ := ih (fanOut visible prior cache player) (by rw [hfirst]; exact hrevision)
      rw [List.foldl_cons]
      refine ⟨hrest.trans hfirst, ?_⟩
      rw [hgetRest, hget, hfirst]
      cases cache.entriesByPlayerId.get playerId with
      | none => rfl
      | some entry =>
          simp only [Option.map_some]
          congr 1
          by_cases hfirst : player = playerId ∧ entry.revision = prior
          · -- already caught up: not on the prior revision any more
            have hcond : playerId ∈ player :: players ∧ entry.revision = prior :=
              ⟨List.mem_cons.mpr (Or.inl hfirst.1.symm), hfirst.2⟩
            have hdone : ¬ (playerId ∈ players
                ∧ (caughtUp visible cache.revision playerId entry).revision = prior) :=
              fun h => hrevision h.2
            rw [if_pos hfirst, if_pos hcond, if_neg hdone]
          · have hcond : (playerId ∈ player :: players ∧ entry.revision = prior)
                ↔ (playerId ∈ players ∧ entry.revision = prior) := by
              rw [List.mem_cons]
              constructor
              · rintro ⟨heq | hmem, hentry⟩
                · exact absurd ⟨heq.symm, hentry⟩ hfirst
                · exact ⟨hmem, hentry⟩
              · rintro ⟨hmem, hentry⟩
                exact ⟨Or.inr hmem, hentry⟩
            rw [if_neg hfirst]
            exact (if_congr hcond rfl rfl).symm

end PlayerSnapshotCache

/-- What every run keeps: stamps are not of the future. -/
structure Stamped (s : Service) : Prop where
  entries : ∀ playerId entry, s.cache.entriesByPlayerId.get playerId = some entry →
    entry.revision ≤ s.cache.revision
  builds : ∀ build ∈ s.builds, build.atRevision ≤ s.cache.revision
    ∧ build.startedAfter ≤ s.history.length

theorem stamped_initial : Stamped Service.initial where
  entries := fun _ _ h => (by cases h)
  builds := fun _ h => (by cases h)

theorem applyNonTileEvent_spec (parsers : SharedParsers) (cache : PlayerSnapshotCache)
    (eventType : NonTileEventType) (player playerId : String) (payload : Option Payload) :
    (applyNonTileEventToCache parsers cache eventType player payload).revision = cache.revision
      ∧ (applyNonTileEventToCache parsers cache eventType player payload).entriesByPlayerId.get
          playerId
        = (cache.entriesByPlayerId.get playerId).map fun entry =>
            if player = playerId then
              ⟨payload.elim entry.snapshot fun payload =>
                  applyPlayerMessageToSnapshot parsers entry.snapshot (eventMessage eventType payload),
                entry.revision⟩
            else entry := by
  unfold applyNonTileEventToCache PlayerSnapshotCache.peek PlayerSnapshotCache.update
  cases payload with
  | none => simp
  | some payload =>
      cases hget : cache.entriesByPlayerId.get player with
      | none =>
          refine ⟨rfl, ?_⟩
          show cache.entriesByPlayerId.get playerId = _
          by_cases hplayer : player = playerId
          · rw [← hplayer, hget]
            rfl
          · simp [hplayer]
      | some entry =>
          dsimp only [Option.map_some]
          refine ⟨rfl, ?_⟩
          rw [InsertionMap.get_set]
          by_cases hplayer : player = playerId
          · rw [if_pos hplayer, ← hplayer, hget]
            simp
          · simp [hplayer]

theorem stamped_step (parsers : SharedParsers) {s : Service} (h : Stamped s) (l : ServiceStep) :
    Stamped (s.step parsers l) := by
  cases l with
  | tileBatch visible subscribedPlayerIds =>
      have hspec := fun p => PlayerSnapshotCache.foldl_fanOut_spec visible s.cache.revision p
        subscribedPlayerIds s.cache.bumpWorldRevision (Nat.succ_ne_self _)
      have hrevision : (s.step parsers (.tileBatch visible subscribedPlayerIds)).cache.revision
          = s.cache.revision + 1 := (hspec "").1
      constructor
      · intro playerId entry hentry
        have hget := (hspec playerId).2
        have hentry : (subscribedPlayerIds.foldl (PlayerSnapshotCache.fanOut visible s.cache.revision)
          s.cache.bumpWorldRevision).entriesByPlayerId.get playerId = some entry := hentry
        rw [hget, Option.map_eq_some_iff] at hentry
        obtain ⟨old, hold, rfl⟩ := hentry
        rw [hrevision]
        have hle := h.entries playerId old hold
        split
        · exact Nat.le_refl _
        · omega
      · intro build hbuild
        obtain ⟨hstamp, hstart⟩ := h.builds build hbuild
        rw [hrevision]
        refine ⟨by omega, ?_⟩
        show build.startedAfter ≤ (s.history ++ [_]).length
        rw [List.length_append]
        omega
  | nonTileEvent eventType player payload =>
      have hspec := fun p =>
        applyNonTileEvent_spec parsers s.cache eventType player p payload
      constructor
      · intro playerId entry hentry
        have hentry : (applyNonTileEventToCache parsers s.cache eventType player
          payload).entriesByPlayerId.get playerId = some entry := hentry
        rw [(hspec playerId).2, Option.map_eq_some_iff] at hentry
        obtain ⟨old, hold, rfl⟩ := hentry
        have hle := h.entries playerId old hold
        show _ ≤ (applyNonTileEventToCache parsers s.cache eventType player payload).revision
        rw [(hspec playerId).1]
        split
        · exact hle
        · exact hle
      · intro build hbuild
        obtain ⟨hstamp, hstart⟩ := h.builds build hbuild
        constructor
        · show _ ≤ (applyNonTileEventToCache parsers s.cache eventType player payload).revision
          rw [(hspec "").1]
          exact hstamp
        · show build.startedAfter ≤ (s.history ++ [_]).length
          rw [List.length_append]
          omega
  | startBuild playerId =>
      refine ⟨h.entries, fun build hbuild => ?_⟩
      rcases List.mem_append.mp hbuild with hold | hnew
      · exact h.builds build hold
      · rw [List.mem_singleton.mp hnew]
        exact ⟨Nat.le_refl _, Nat.le_refl _⟩
  | finishBuild index snapshot =>
      unfold Service.step
      dsimp only
      cases hbuild : s.builds[index]? with
      | none => exact h
      | some build =>
          dsimp only
          have hmem := List.mem_of_getElem? hbuild
          refine ⟨fun playerId entry hentry => ?_,
            fun b hb => h.builds b (List.mem_of_mem_eraseIdx hb)⟩
          have hentry : (s.cache.entriesByPlayerId.set build.playerId
            ⟨snapshot, build.atRevision⟩).get playerId = some entry := hentry
          rw [InsertionMap.get_set] at hentry
          split at hentry
          · rw [← Option.some.inj hentry]
            exact (h.builds build hmem).1
          · exact h.entries playerId entry hentry
  | read playerId =>
      obtain ⟨hentries, hrevision⟩ := s.cache.getCurrent_entries playerId
      constructor
      · intro player entry hentry
        have hentry : (s.cache.getCurrent playerId).2.entriesByPlayerId.get player = some entry :=
          hentry
        rw [hentries] at hentry
        show entry.revision ≤ (s.cache.getCurrent playerId).2.revision
        rw [hrevision]
        exact h.entries player entry hentry
      · intro build hbuild
        show _ ≤ (s.cache.getCurrent playerId).2.revision ∧ _
        rw [hrevision]
        exact h.builds build hbuild
  | delete playerId =>
      refine ⟨fun player entry hentry => ?_, h.builds⟩
      have hentry : (s.cache.entriesByPlayerId.erase playerId).get player = some entry := hentry
      rw [InsertionMap.get_erase] at hentry
      split at hentry
      · cases hentry
      · exact h.entries player entry hentry
  | clear => exact ⟨fun _ _ hentry => (by cases hentry), h.builds⟩

/-! ## §5. Runs. -/

theorem fresh_initial (parsers : SharedParsers) : Fresh parsers Service.initial :=
  fun _ _ h => (by cases h)

theorem fresh_tileBatch {parsers : SharedParsers} {s : Service} (hs : Stamped s)
    (hf : Fresh parsers s) (visible : String → TileDeltas) (players : List String) :
    Fresh parsers (s.step parsers (.tileBatch visible players)) := by
  intro playerId snapshot hserved
  rw [PlayerSnapshotCache.getCurrent_eq_some_iff] at hserved
  obtain ⟨entry, hentry, hcurrent, hsnapshot⟩ := hserved
  obtain ⟨hrevision, hget⟩ := PlayerSnapshotCache.foldl_fanOut_spec visible s.cache.revision
    playerId players s.cache.bumpWorldRevision (Nat.succ_ne_self _)
  have hentry : (players.foldl (PlayerSnapshotCache.fanOut visible s.cache.revision)
    s.cache.bumpWorldRevision).entriesByPlayerId.get playerId = some entry := hentry
  have hcurrent : entry.revision = (players.foldl
    (PlayerSnapshotCache.fanOut visible s.cache.revision)
    s.cache.bumpWorldRevision).revision := hcurrent
  rw [hget, Option.map_eq_some_iff] at hentry
  obtain ⟨old, hold, hnew⟩ := hentry
  have hold : s.cache.entriesByPlayerId.get playerId = some old := hold
  rw [hrevision] at hcurrent
  have hbump : s.cache.bumpWorldRevision.revision = s.cache.revision + 1 := rfl
  split at hnew
  · rename_i hcond
    have hbefore := hf playerId old.snapshot
      ((PlayerSnapshotCache.getCurrent_eq_some_iff _ _ _).mpr ⟨old, hold, hcond.2, rfl⟩)
    rw [← hsnapshot, ← hnew]
    exact reflects_tileBatch hbefore
  · -- an entry the batch did not reach keeps its old stamp
    have hle := hs.entries playerId old hold
    rw [hnew] at hle
    omega

theorem fresh_nonTileEvent_iff {parsers : SharedParsers} {s : Service} (hf : Fresh parsers s)
    (eventType : NonTileEventType) (player : String) (payload : Option Payload) :
    Fresh parsers (s.step parsers (.nonTileEvent eventType player payload))
      ↔ Covered parsers s (.nonTileEvent eventType player payload) := by
  have hspec := fun p => applyNonTileEvent_spec parsers s.cache eventType player p payload
  constructor
  · intro hfresh snapshot hserved hsection field
    rw [PlayerSnapshotCache.getCurrent_eq_some_iff] at hserved
    obtain ⟨entry, hentry, hcurrent, rfl⟩ := hserved
    by_contra hwrites
    obtain ⟨value, hvalue⟩ := Option.ne_none_iff_exists'.mp hwrites
    obtain ⟨p, rfl⟩ : ∃ p, payload = some p := by
      cases payload with
      | some p => exact ⟨p, rfl⟩
      | none =>
          rw [writes_message, if_pos rfl] at hvalue
          cases hvalue
    have hserved : ((s.step parsers (.nonTileEvent eventType player (some p))).cache.getCurrent
        player).1 = some (applyPlayerMessageToSnapshot parsers entry.snapshot
          (eventMessage eventType p)) := by
      rw [PlayerSnapshotCache.getCurrent_eq_some_iff]
      refine ⟨⟨applyPlayerMessageToSnapshot parsers entry.snapshot (eventMessage eventType p),
        entry.revision⟩, ?_, ?_, rfl⟩
      · show (applyNonTileEventToCache parsers s.cache eventType player (some p)
          ).entriesByPlayerId.get player = _
        rw [(hspec player).2, hentry, Option.map_some, if_pos rfl]
        rfl
      · show entry.revision
          = (applyNonTileEventToCache parsers s.cache eventType player (some p)).revision
        rw [(hspec player).1]
        exact hcurrent
    -- the event is the last one, and its field is not in the snapshot
    have hlast : (s.history ++ [Happened.message eventType player (some p)])[s.history.length]?
        = some (.message eventType player (some p)) := by simp
    obtain ⟨later, hmem, hlater⟩ := hfresh player _ hserved s.history.length (Nat.zero_le _)
      (by show _ < (s.history ++ [_]).length; simp) _ hlast _ value hvalue
    have hmem : later ∈ (s.history ++ [Happened.message eventType player (some p)]).drop
        s.history.length := hmem
    rw [List.drop_left, List.mem_singleton] at hmem
    rw [hmem, hvalue] at hlater
    have hread : read (applyPlayerMessageToSnapshot parsers entry.snapshot
        (eventMessage eventType p)) (.player field) = .undefined := by
      unfold read
      dsimp only
      rw [applyPlayerMessage_player, hsection]
      rfl
    rw [hread] at hlater
    have hrule : messageWrites parsers (eventMessage eventType p) (.player field)
        = some .undefined := by
      rw [writes_message, if_pos rfl] at hvalue
      exact hvalue.trans hlater
    unfold messageWrites at hrule
    dsimp only at hrule
    split at hrule
    · exact playerMergeRules_defined parsers hrule rfl
    · cases hrule
  · intro hcovered playerId snapshot hserved
    rw [PlayerSnapshotCache.getCurrent_eq_some_iff] at hserved
    obtain ⟨entry, hentry, hcurrent, hsnapshot⟩ := hserved
    have hentry : (applyNonTileEventToCache parsers s.cache eventType player
      payload).entriesByPlayerId.get playerId = some entry := hentry
    have hcurrent : entry.revision
      = (applyNonTileEventToCache parsers s.cache eventType player payload).revision := hcurrent
    rw [(hspec playerId).1] at hcurrent
    rw [(hspec playerId).2, Option.map_eq_some_iff] at hentry
    obtain ⟨old, hold, rfl⟩ := hentry
    by_cases hplayer : player = playerId
    · subst hplayer
      rw [if_pos rfl] at hcurrent hsnapshot
      have hserved : (s.cache.getCurrent player).1 = some old.snapshot :=
        (PlayerSnapshotCache.getCurrent_eq_some_iff _ _ _).mpr ⟨old, hold, hcurrent, rfl⟩
      have hbefore := hf player old.snapshot hserved
      rw [← hsnapshot]
      cases payload with
      | none =>
          refine reflects_snoc_silent hbefore (fun field => ?_)
          rw [writes_message, if_pos rfl]
          rfl
      | some p =>
          refine reflects_message hbefore (fun hsection field => ?_)
          have hnone := hcovered old.snapshot hserved hsection field
          rw [writes_message, if_pos rfl] at hnone
          exact hnone
    · rw [if_neg hplayer] at hcurrent hsnapshot
      rw [← hsnapshot]
      refine reflects_snoc_silent (hf playerId old.snapshot
        ((PlayerSnapshotCache.getCurrent_eq_some_iff _ _ _).mpr ⟨old, hold, hcurrent, rfl⟩))
        (fun field => ?_)
      rw [writes_message, if_neg hplayer]

theorem fresh_finishBuild_iff {parsers : SharedParsers} {s : Service} (hf : Fresh parsers s)
    (index : Nat) (snapshot : PlayerSubscriptionSnapshot)
    (hhonest : Honest parsers s (.finishBuild index snapshot)) :
    Fresh parsers (s.step parsers (.finishBuild index snapshot))
      ↔ Covered parsers s (.finishBuild index snapshot) := by
  have hhonest : ∀ build, s.builds[index]? = some build →
    Reflects parsers build.playerId s.history 0 build.startedAfter snapshot := hhonest
  unfold Service.step Covered
  dsimp only
  cases hbuild : s.builds[index]? with
  | none => exact ⟨fun _ _ h => (by cases h), fun _ => hf⟩
  | some build =>
      have hearlier := hhonest build hbuild
      dsimp only
      constructor
      · intro hfresh b hb hstamp n hfirst hlast
        obtain rfl := Option.some.inj hb
        refine hfresh build.playerId snapshot ?_ n (Nat.zero_le n) hlast
        rw [PlayerSnapshotCache.getCurrent_eq_some_iff]
        exact ⟨⟨snapshot, build.atRevision⟩, InsertionMap.get_set_self _ _ _, hstamp, rfl⟩
      · intro hcovered playerId served hserved
        rw [PlayerSnapshotCache.getCurrent_eq_some_iff] at hserved
        obtain ⟨entry, hentry, hcurrent, rfl⟩ := hserved
        have hentry : (s.cache.entriesByPlayerId.set build.playerId
          ⟨snapshot, build.atRevision⟩).get playerId = some entry := hentry
        have hcurrent : entry.revision = s.cache.revision := hcurrent
        rw [InsertionMap.get_set] at hentry
        by_cases hplayer : build.playerId = playerId
        · rw [if_pos hplayer] at hentry
          obtain rfl := Option.some.inj hentry
          intro n _ hlast
          subst hplayer
          by_cases hn : n < build.startedAfter
          · exact hearlier n (Nat.zero_le n) hn
          · exact hcovered build rfl hcurrent n (by omega) hlast
        · rw [if_neg hplayer] at hentry
          exact hf playerId entry.snapshot
            ((PlayerSnapshotCache.getCurrent_eq_some_iff _ _ _).mpr ⟨entry, hentry, hcurrent, rfl⟩)

/-- **One step keeps what is served true iff it is covered.** -/
theorem fresh_step_iff {parsers : SharedParsers} {s : Service} (hs : Stamped s)
    (hf : Fresh parsers s) (l : ServiceStep) (hhonest : Honest parsers s l) :
    Fresh parsers (s.step parsers l) ↔ Covered parsers s l := by
  cases l with
  | tileBatch visible players => exact ⟨fun _ => trivial, fun _ => fresh_tileBatch hs hf visible players⟩
  | nonTileEvent eventType player payload => exact fresh_nonTileEvent_iff hf eventType player payload
  | startBuild playerId => exact ⟨fun _ => trivial, fun _ => hf⟩
  | finishBuild index snapshot => exact fresh_finishBuild_iff hf index snapshot hhonest
  | read playerId =>
      refine ⟨fun _ => trivial, fun _ player snapshot hserved => hf player snapshot ?_⟩
      obtain ⟨hentries, hrevision⟩ := s.cache.getCurrent_entries playerId
      rw [PlayerSnapshotCache.getCurrent_eq_some_iff] at hserved ⊢
      obtain ⟨entry, hentry, hcurrent, hsnapshot⟩ := hserved
      exact ⟨entry, hentries ▸ hentry, hrevision ▸ hcurrent, hsnapshot⟩
  | delete playerId =>
      refine ⟨fun _ => trivial, fun _ player snapshot hserved => hf player snapshot ?_⟩
      rw [PlayerSnapshotCache.getCurrent_eq_some_iff] at hserved ⊢
      obtain ⟨entry, hentry, hcurrent, hsnapshot⟩ := hserved
      have hentry : (s.cache.entriesByPlayerId.erase playerId).get player = some entry := hentry
      rw [InsertionMap.get_erase] at hentry
      split at hentry
      · cases hentry
      · exact ⟨entry, hentry, hcurrent, hsnapshot⟩
  | clear =>
      refine ⟨fun _ => trivial, fun _ player snapshot hserved => ?_⟩
      rw [PlayerSnapshotCache.getCurrent_eq_some_iff] at hserved
      obtain ⟨entry, hentry, -⟩ := hserved
      cases hentry

/-- **What the cache serves is true exactly when its builds are covered**:
with builds that reflect what came before them, every snapshot served on the
way reflects all that happened, iff no build ends unstale that missed a
message, and no message misses the section it writes. -/
theorem snapshots_fresh (parsers : SharedParsers) (steps : List ServiceStep)
    (hhonest : Run.StepsMeet (Service.step parsers) (Honest parsers) Service.initial steps) :
    Run.Along (Service.step parsers) (Fresh parsers) Service.initial steps
      ↔ Run.StepsMeet (Service.step parsers) (Covered parsers) Service.initial steps :=
  Run.along_iff_stepsMeet_of (I := Stamped)
    (fun _ l hs _ => stamped_step parsers hs l)
    (fun _ l hs hf hh => fresh_step_iff hs hf l hh)
    steps Service.initial stamped_initial (fresh_initial parsers) hhonest

/-! ## §6. Two short runs. -/

theorem emptyList_defined : emptyList ≠ .undefined := nofun

theorem none_defined (_ : HostValue) (parsed : HostValue)
    (h : (none : Option HostValue) = some parsed) : parsed ≠ .undefined := nomatch h

def exampleParsers : SharedParsers where
  autoSettle := fun _ => none
  relicMapHints := fun _ => emptyList
  resourceTradeHoldings := fun _ => none
  resourceTradeAgreements := fun _ => none
  autoSettleDefined := none_defined
  relicMapHintsDefined := fun _ => emptyList_defined
  holdingsDefined := none_defined
  agreementsDefined := none_defined

def exampleSnapshot (gold : ℚ) : PlayerSubscriptionSnapshot where
  player := some fun field => if field = .gold then .number gold else .undefined
  worldStatus := none
  tiles := .empty

def goldUpdate (gold : ℚ) : Payload where
  type := .text "PLAYER_UPDATE"
  status := fun _ => .undefined
  fields := fun field => if field = .gold then .number gold else .undefined

/-- The update comes after the build. -/
theorem snapshots_fresh_update_after_build :
    Run.Along (Service.step exampleParsers) (Fresh exampleParsers) Service.initial
      [.startBuild "duke", .finishBuild 0 (exampleSnapshot 100),
        .nonTileEvent .PLAYER_MESSAGE "duke" (some (goldUpdate 50)), .read "duke"] := by
  refine (snapshots_fresh exampleParsers _ ?_).mpr ?_
  · refine ⟨trivial, ?_, trivial, trivial, trivial⟩
    intro build hbuild
    obtain rfl := Option.some.inj hbuild
    exact fun n _ hn => absurd hn (Nat.not_lt_zero n)
  · refine ⟨trivial, ?_, ?_, trivial, trivial⟩
    · intro build hbuild _ n _ hn
      exact absurd hn (Nat.not_lt_zero n)
    · intro snapshot hserved hsection
      obtain rfl := Option.some.inj hserved
      cases hsection

/-- **An update that comes while a snapshot is built is lost**: the build
replaces the entry, stamped with a revision that no tile batch has moved. -/
theorem update_lost_by_slow_build :
    ∃ steps,
      Run.StepsMeet (Service.step exampleParsers) (Honest exampleParsers) Service.initial steps
        ∧ ¬ Run.Along (Service.step exampleParsers) (Fresh exampleParsers) Service.initial steps := by
  refine ⟨[.startBuild "duke", .nonTileEvent .PLAYER_MESSAGE "duke" (some (goldUpdate 50)),
    .finishBuild 0 (exampleSnapshot 100)], ⟨trivial, trivial, ?_, trivial⟩, ?_⟩
  · intro build hbuild
    obtain rfl := Option.some.inj hbuild
    exact fun n _ hn => absurd hn (Nat.not_lt_zero n)
  · rintro ⟨-, -, -, hfresh⟩
    obtain ⟨later, hmem, hlater⟩ := hfresh "duke" (exampleSnapshot 100) rfl 0 (Nat.zero_le 0)
      Nat.zero_lt_one (.message .PLAYER_MESSAGE "duke" (some (goldUpdate 50))) rfl (.player .gold)
      (.number 50) rfl
    obtain rfl := List.mem_singleton.mp hmem
    have hgold : some (HostValue.number 50) = some (HostValue.number 100) := hlater
    injection hgold with hgold
    injection hgold with hgold
    exact absurd hgold (by decide)

end BorderEmpires.Snapshots
