/-
  BorderEmpires.Snapshots.Merge
  **LIVE EVENTS MERGED ONTO A SNAPSHOT.**

  A cached snapshot is patched in place of being built again: tile deltas
  write the members they carry onto their tiles, a player message writes
  those fields of the player section that its rule accepts, a global status
  the parts of the world status it brings.
-/
import Mathlib.Logic.Function.Basic
import BorderEmpires.Lib.HostValue
import BorderEmpires.Lib.InsertionMap

namespace BorderEmpires.Snapshots

/-! ## §1. A snapshot. -/

/-- The members of the player section. -/
inductive PlayerField where
  | id | name | gold | manpower | nextManpowerBatchAmount | manpowerCap | manpowerRegenPerMinute
  | logisticsThroughputPerMinute | manpowerBreakdown | incomePerMinute | strategicResources
  | strategicProductionPerMinute | resourceSlots | dormantStructures | economyBreakdown
  | upkeepPerMinute | upkeepLastTick | developmentProcessLimit | activeDevelopmentProcessCount
  | musterFlagLimit | pendingSettlements | autoSettlementQueue | devQueue | waypointQueue | eventLog
  | techIds | afcRecovery | afcUpgradeRuleset | afcUpgradeInstallAllowed | afcInstallationPreviews
  | domainIds | chosenTrickleResource | mods | modBreakdown | autoSettle | imperialWardCharges
  | wonderLastFreeRushBuyAt | relicMapHints | galacticWonderManpowerRegenBonusPerMinute
  | galacticWonderVisionRadiusBonus | resourceTradeHoldings | resourceTradeAgreements
  | weaponsFactoryCounts
deriving DecidableEq, Repr

inductive WorldStatusField where
  | leaderboard | seasonVictory | seasonWinner
deriving DecidableEq, Repr

abbrev TileKey : Type := Int × Int

/-- The members of a tile beside its place. -/
abbrev Tile : Type := String → HostValue

/-- What a delta writes onto its tile; an ownership clear only makes members
undefined. -/
structure TileDelta where
  writes : String → Option HostValue
  ownershipClearOnly : Bool
  clears : ownershipClearOnly = true → ∀ name value, writes name = some value → value = .undefined

abbrev TileDeltas : Type := InsertionMap TileKey TileDelta

/-- The parts of a player's snapshot that live events change. -/
structure PlayerSubscriptionSnapshot where
  player : Option (PlayerField → HostValue)
  worldStatus : Option (WorldStatusField → HostValue)
  tiles : InsertionMap TileKey Tile

/-! ## §2. Tile deltas. -/

def blankTile : Tile := fun _ => .undefined

/-- `{ ...tile, ...delta }`. -/
def mergeTile (tile : Tile) (delta : TileDelta) : Tile :=
  fun name => (delta.writes name).getD (tile name)

/-- What a delta makes of a tile; a clear never inserts one. -/
def deltaTile (tile : Option Tile) (delta : TileDelta) : Option Tile :=
  match tile with
  | some tile => some (mergeTile tile delta)
  | none => if delta.ownershipClearOnly then none else some (mergeTile blankTile delta)

def applyTileDelta (tiles : InsertionMap TileKey Tile) (key : TileKey) (delta : TileDelta) :
    InsertionMap TileKey Tile :=
  match deltaTile (tiles.get key) delta with
  | some tile => tiles.set key tile
  | none => tiles

def applyTileDeltasToSnapshot (snapshot : PlayerSubscriptionSnapshot) (tileDeltas : TileDeltas) :
    PlayerSubscriptionSnapshot :=
  { snapshot with
    tiles := tileDeltas.entries.foldl (fun tiles e => applyTileDelta tiles e.1 e.2) snapshot.tiles }

theorem get_applyTileDelta_self (tiles : InsertionMap TileKey Tile) (key : TileKey)
    (delta : TileDelta) :
    (applyTileDelta tiles key delta).get key = deltaTile (tiles.get key) delta := by
  unfold applyTileDelta
  cases hget : tiles.get key with
  | some tile => exact InsertionMap.get_set_self _ _ _
  | none =>
      unfold deltaTile
      dsimp only
      by_cases hclear : delta.ownershipClearOnly = true
      · rw [if_pos hclear]
        exact hget
      · rw [if_neg hclear]
        exact InsertionMap.get_set_self _ _ _

theorem get_applyTileDelta_ne (tiles : InsertionMap TileKey Tile) {key other : TileKey}
    (h : key ≠ other) (delta : TileDelta) :
    (applyTileDelta tiles key delta).get other = tiles.get other := by
  unfold applyTileDelta
  split
  · exact InsertionMap.get_set_ne _ h _
  · rfl

theorem get_foldl_applyTileDelta (entries : List (TileKey × TileDelta)) (key : TileKey)
    (hnodup : (entries.map Prod.fst).Nodup) :
    ∀ tiles,
      (entries.foldl (fun tiles e => applyTileDelta tiles e.1 e.2) tiles).get key
        = (AssocEntries.lookup key entries).elim (tiles.get key) (deltaTile (tiles.get key)) := by
  induction entries with
  | nil => exact fun tiles => rfl
  | cons e entries ih =>
      intro tiles
      rw [List.map_cons, List.nodup_cons] at hnodup
      rw [List.foldl_cons, ih hnodup.2, AssocEntries.lookup]
      by_cases hkey : e.1 = key
      · -- the rest of the batch is about other tiles
        have hrest : AssocEntries.lookup key entries = none := by
          rw [← Option.not_isSome_iff_eq_none, AssocEntries.lookup_isSome_iff, ← hkey]
          exact hnodup.1
        rw [if_pos hkey, hrest, ← hkey]
        exact get_applyTileDelta_self tiles e.1 e.2
      · rw [if_neg hkey, get_applyTileDelta_ne tiles hkey]

variable (parsers : SharedParsers) (snapshot : PlayerSubscriptionSnapshot) (payload : Payload)

/-- **A batch, tile by tile**: a tile the batch names takes its delta, the
others stay. -/
theorem get_applyTileDeltas (tileDeltas : TileDeltas) (key : TileKey) :
    (applyTileDeltasToSnapshot snapshot tileDeltas).tiles.get key
      = (tileDeltas.get key).elim (snapshot.tiles.get key) (deltaTile (snapshot.tiles.get key)) :=
  get_foldl_applyTileDelta tileDeltas.entries key tileDeltas.nodupKeys snapshot.tiles

/-! ## §3. Player messages. -/

/-- A parsed payload: its type, and the members a merge may read. -/
structure Payload where
  type : HostValue
  status : WorldStatusField → HostValue
  fields : PlayerField → HostValue

/-- The parsers the rules call for members of a shape of their own; what they
accept is a value. -/
structure SharedParsers where
  autoSettle : HostValue → Option HostValue
  relicMapHints : HostValue → HostValue
  resourceTradeHoldings : HostValue → Option HostValue
  resourceTradeAgreements : HostValue → Option HostValue
  autoSettleDefined : ∀ value parsed, autoSettle value = some parsed → parsed ≠ .undefined
  relicMapHintsDefined : ∀ value, relicMapHints value ≠ .undefined
  holdingsDefined : ∀ value parsed, resourceTradeHoldings value = some parsed → parsed ≠ .undefined
  agreementsDefined : ∀ value parsed, resourceTradeAgreements value = some parsed →
    parsed ≠ .undefined

/-- A rule takes the member, or leaves the field untouched. -/
def takeIf (accepts : HostValue → Bool) (value : HostValue) : Option HostValue :=
  if accepts value then some value else none

def isArray : HostValue → Bool
  | .array _ _ => true
  | _ => false

def isBoolean : HostValue → Bool
  | .bool _ => true
  | _ => false

def isTextAmong (texts : List String) : HostValue → Bool
  | .text s => s ∈ texts
  | _ => false

def trickleResourceKeys : List String := ["TITANIUM", "UMBRITE", "CRYSTAL"]

/-- `PLAYER_MERGE_RULES`: what a field takes of its own member of the
payload. -/
def playerMergeRules (parsers : SharedParsers) : PlayerField → HostValue → Option HostValue
  | .id => fun _ => none
  | .name => fun _ => none
  | .gold => takeIf HostValue.isNumber
  | .manpower => takeIf HostValue.isNumber
  | .nextManpowerBatchAmount => takeIf HostValue.isNumber
  | .manpowerCap => takeIf HostValue.isNumber
  | .manpowerRegenPerMinute => takeIf HostValue.isNumber
  | .logisticsThroughputPerMinute => takeIf HostValue.isNumber
  | .manpowerBreakdown => takeIf HostValue.isObject
  | .incomePerMinute => takeIf HostValue.isNumber
  | .strategicResources => takeIf HostValue.isObject
  | .strategicProductionPerMinute => takeIf HostValue.isObject
  | .resourceSlots => takeIf HostValue.isObject
  | .dormantStructures => takeIf isArray
  | .economyBreakdown => takeIf HostValue.isObject
  | .upkeepPerMinute => takeIf HostValue.isObject
  | .upkeepLastTick => takeIf HostValue.isObject
  | .developmentProcessLimit => takeIf HostValue.isNumber
  | .activeDevelopmentProcessCount => takeIf HostValue.isNumber
  | .musterFlagLimit => takeIf HostValue.isNumber
  | .pendingSettlements => takeIf isArray
  | .autoSettlementQueue => takeIf isArray
  | .devQueue => takeIf isArray
  | .waypointQueue => takeIf isArray
  | .eventLog => takeIf isArray
  | .techIds => takeIf isArray
  | .afcRecovery => takeIf HostValue.isObject
  | .afcUpgradeRuleset => takeIf (isTextAmong ["afc-v1"])
  | .afcUpgradeInstallAllowed => takeIf isBoolean
  | .afcInstallationPreviews => takeIf HostValue.isObject
  | .domainIds => takeIf isArray
  | .chosenTrickleResource => takeIf (isTextAmong trickleResourceKeys)
  | .mods => takeIf HostValue.isObject
  | .modBreakdown => takeIf HostValue.isObject
  | .autoSettle => parsers.autoSettle
  | .imperialWardCharges => fun _ => none
  | .wonderLastFreeRushBuyAt => fun _ => none
  | .relicMapHints => fun value =>
      if value.isUndefined then none else some (parsers.relicMapHints value)
  | .galacticWonderManpowerRegenBonusPerMinute => fun _ => none
  | .galacticWonderVisionRadiusBonus => fun _ => none
  | .resourceTradeHoldings => parsers.resourceTradeHoldings
  | .resourceTradeAgreements => parsers.resourceTradeAgreements
  | .weaponsFactoryCounts => fun _ => none

theorem takeIf_defined {accepts : HostValue → Bool} (hreject : accepts .undefined = false)
    {value taken : HostValue} (h : takeIf accepts value = some taken) : taken ≠ .undefined := by
  unfold takeIf at h
  split at h
  · rename_i haccept
    rw [← Option.some.inj h]
    rintro rfl
    rw [hreject] at haccept
    cases haccept
  · cases h

theorem relicMapHints_defined {value taken : HostValue}
    (h : playerMergeRules parsers .relicMapHints value = some taken) : taken ≠ .undefined := by
  have h : (if value.isUndefined then none else some (parsers.relicMapHints value))
      = some taken := h
  split at h
  · cases h
  · rw [← Option.some.inj h]
    exact parsers.relicMapHintsDefined value

/-- **No rule takes an undefined member.** -/
theorem playerMergeRules_defined {field : PlayerField} {value taken : HostValue}
    (h : playerMergeRules parsers field value = some taken) : taken ≠ .undefined := by
  cases field <;> first
    | exact takeIf_defined rfl h
    | exact parsers.autoSettleDefined value taken h
    | exact parsers.holdingsDefined value taken h
    | exact parsers.agreementsDefined value taken h
    | exact relicMapHints_defined parsers h
    | cases h

/-- `TECH_OR_DOMAIN_UPDATE_KEYS`. -/
def techOrDomainUpdateKeys : List PlayerField :=
  [.gold, .strategicResources, .incomePerMinute, .techIds, .domainIds, .afcRecovery,
    .afcUpgradeRuleset, .afcUpgradeInstallAllowed, .afcInstallationPreviews, .mods, .modBreakdown,
    .chosenTrickleResource]

/-- `ALL_PLAYER_MERGE_KEYS`. -/
def allPlayerMergeKeys : List PlayerField :=
  [.id, .name, .gold, .manpower, .nextManpowerBatchAmount, .manpowerCap, .manpowerRegenPerMinute,
    .logisticsThroughputPerMinute, .manpowerBreakdown, .incomePerMinute, .strategicResources,
    .strategicProductionPerMinute, .resourceSlots, .dormantStructures, .economyBreakdown,
    .upkeepPerMinute, .upkeepLastTick, .developmentProcessLimit, .activeDevelopmentProcessCount,
    .musterFlagLimit, .pendingSettlements, .autoSettlementQueue, .devQueue, .waypointQueue,
    .eventLog, .techIds, .afcRecovery, .afcUpgradeRuleset, .afcUpgradeInstallAllowed,
    .afcInstallationPreviews, .domainIds, .chosenTrickleResource, .mods, .modBreakdown, .autoSettle,
    .imperialWardCharges, .wonderLastFreeRushBuyAt, .relicMapHints,
    .galacticWonderManpowerRegenBonusPerMinute, .galacticWonderVisionRadiusBonus,
    .resourceTradeHoldings, .resourceTradeAgreements, .weaponsFactoryCounts]

/-- The patches of the rules, merged in the order of the keys. -/
def combinedPatch (parsers : SharedParsers) (payload : Payload) (keys : List PlayerField) :
    PlayerField → Option HostValue :=
  keys.foldl (fun combined key =>
    match playerMergeRules parsers key (payload.fields key) with
    | some value => Function.update combined key (some value)
    | none => combined) fun _ => none

def mergePlayerFields (parsers : SharedParsers) (current : PlayerField → HostValue)
    (payload : Payload) (keys : List PlayerField) : PlayerField → HostValue :=
  fun field => (combinedPatch parsers payload keys field).getD (current field)

/-- `a ?? b`. -/
def nullish (a b : HostValue) : HostValue := if a.isNullish then b else a

def emptyList : HostValue := .array 0 fun i => i.elim0

def emptyLeaderboard : HostValue :=
  .object {"overall", "byTiles", "byIncome", "byTechs"} fun _ => emptyList

def readStatus (status : Option (WorldStatusField → HostValue)) (field : WorldStatusField) :
    HostValue :=
  status.elim .undefined fun status => status field

def mergeWorldStatus (previous : Option (WorldStatusField → HostValue)) (payload : Payload) :
    WorldStatusField → HostValue
  | .leaderboard =>
      nullish (payload.status .leaderboard) (nullish (readStatus previous .leaderboard) emptyLeaderboard)
  | .seasonVictory =>
      nullish (payload.status .seasonVictory) (nullish (readStatus previous .seasonVictory) emptyList)
  | .seasonWinner => nullish (payload.status .seasonWinner) (readStatus previous .seasonWinner)

def applyPlayerMessageToSnapshot (parsers : SharedParsers) (snapshot : PlayerSubscriptionSnapshot)
    (payload : Payload) : PlayerSubscriptionSnapshot :=
  if isTextAmong ["GLOBAL_STATUS_UPDATE"] payload.type then
    { snapshot with worldStatus := some (mergeWorldStatus snapshot.worldStatus payload) }
  else if isTextAmong ["PLAYER_UPDATE"] payload.type ∧ snapshot.player.isSome then
    { snapshot with
      player := snapshot.player.map fun player =>
        mergePlayerFields parsers player payload allPlayerMergeKeys }
  else if isTextAmong ["TECH_UPDATE", "DOMAIN_UPDATE"] payload.type ∧ snapshot.player.isSome then
    { snapshot with
      player := snapshot.player.map fun player =>
        mergePlayerFields parsers player payload techOrDomainUpdateKeys }
  else snapshot

/-! ## §4. What a message writes. -/

/-- A member of a snapshot. -/
inductive Field where
  | player (field : PlayerField)
  | status (field : WorldStatusField)
  | tile (key : TileKey) (name : String)

def read (snapshot : PlayerSubscriptionSnapshot) : Field → HostValue
  | .player field => snapshot.player.elim .undefined fun player => player field
  | .status field => readStatus snapshot.worldStatus field
  | .tile key name => (snapshot.tiles.get key).elim .undefined fun tile => tile name

/-- The fields of the player section that a message of the type may write. -/
def messageKeys (payload : Payload) : List PlayerField :=
  if isTextAmong ["PLAYER_UPDATE"] payload.type then allPlayerMergeKeys
  else if isTextAmong ["TECH_UPDATE", "DOMAIN_UPDATE"] payload.type then techOrDomainUpdateKeys
  else []

/-- **What a message says of a field.** -/
def messageWrites (parsers : SharedParsers) (payload : Payload) : Field → Option HostValue
  | .player field =>
      if field ∈ messageKeys payload then playerMergeRules parsers field (payload.fields field)
      else none
  | .status field =>
      if isTextAmong ["GLOBAL_STATUS_UPDATE"] payload.type ∧ ¬ (payload.status field).isNullish then
        some (payload.status field)
      else none
  | .tile _ _ => none

theorem isTextAmong_iff (texts : List String) (value : HostValue) :
    isTextAmong texts value = true ↔ ∃ s ∈ texts, value = .text s := by
  cases value with
  | _ => simp [isTextAmong]

theorem combinedPatch_apply (field : PlayerField) (keys : List PlayerField) :
    combinedPatch parsers payload keys field
      = if field ∈ keys then playerMergeRules parsers field (payload.fields field) else none := by
  unfold combinedPatch
  induction keys using List.reverseRecOn with
  | nil => rfl
  | append_singleton keys key ih =>
      rw [List.foldl_concat]
      by_cases hkey : key = field
      · subst hkey
        rw [if_pos (by simp)]
        cases hrule : playerMergeRules parsers key (payload.fields key) with
        | some value => exact Function.update_self _ _ _
        | none =>
            dsimp only
            rw [ih, hrule, ite_self]
      · -- the last key is another field's
        have hmem : field ∈ keys ++ [key] ↔ field ∈ keys := by simp [Ne.symm hkey]
        rw [if_congr hmem rfl rfl, ← ih]
        cases playerMergeRules parsers key (payload.fields key) with
        | some value => exact Function.update_of_ne (Ne.symm hkey) _ _
        | none => rfl

/-- **The rules, field by field.** -/
theorem mergePlayerFields_apply (current : PlayerField → HostValue) (payload : Payload)
    (keys : List PlayerField) (field : PlayerField) :
    mergePlayerFields parsers current payload keys field
      = if field ∈ keys then
          (playerMergeRules parsers field (payload.fields field)).getD (current field)
        else current field := by
  unfold mergePlayerFields
  rw [combinedPatch_apply]
  split
  · rfl
  · rfl

theorem applyPlayerMessage_player :
    (applyPlayerMessageToSnapshot parsers snapshot payload).player
      = snapshot.player.map fun player =>
          mergePlayerFields parsers player payload (messageKeys payload) := by
  have hnone : ∀ player : PlayerField → HostValue,
      mergePlayerFields parsers player payload [] = player := fun player => rfl
  unfold applyPlayerMessageToSnapshot messageKeys
  by_cases hglobal : isTextAmong ["GLOBAL_STATUS_UPDATE"] payload.type = true
  · obtain ⟨s, hs, htype⟩ := (isTextAmong_iff _ _).mp hglobal
    obtain rfl := List.mem_singleton.mp hs
    rw [if_pos hglobal, htype]
    simp [isTextAmong, hnone]
  · rw [if_neg hglobal]
    cases hplayer : snapshot.player with
    | none =>
        rw [if_neg (fun h => (by cases h.2)), if_neg (fun h => (by cases h.2)), hplayer]
        rfl
    | some player =>
        by_cases hupdate : isTextAmong ["PLAYER_UPDATE"] payload.type = true
        · rw [if_pos ⟨hupdate, rfl⟩, if_pos hupdate]
        · rw [if_neg (fun h => hupdate h.1), if_neg hupdate]
          by_cases htech : isTextAmong ["TECH_UPDATE", "DOMAIN_UPDATE"] payload.type = true
          · rw [if_pos ⟨htech, rfl⟩, if_pos htech]
          · rw [if_neg (fun h => htech h.1), if_neg htech, hplayer, Option.map_some, hnone]

theorem applyPlayerMessage_worldStatus :
    (applyPlayerMessageToSnapshot parsers snapshot payload).worldStatus
      = if isTextAmong ["GLOBAL_STATUS_UPDATE"] payload.type then
          some (mergeWorldStatus snapshot.worldStatus payload)
        else snapshot.worldStatus := by
  unfold applyPlayerMessageToSnapshot
  split
  · rfl
  split
  · rfl
  · split
    · rfl
    · rfl

theorem applyPlayerMessage_tiles :
    (applyPlayerMessageToSnapshot parsers snapshot payload).tiles = snapshot.tiles := by
  unfold applyPlayerMessageToSnapshot
  split
  · rfl
  split
  · rfl
  · split
    · rfl
    · rfl

/-- **What a message writes is read back**, given a player section to write
to. -/
theorem read_applyPlayerMessage (field : Field) (value : HostValue)
    (hwrites : messageWrites parsers payload field = some value)
    (hplayer : ∀ f, field = .player f → snapshot.player.isSome) :
    read (applyPlayerMessageToSnapshot parsers snapshot payload) field = value := by
  cases field with
  | player field =>
      obtain ⟨player, hsome⟩ := Option.isSome_iff_exists.mp (hplayer field rfl)
      unfold messageWrites at hwrites
      dsimp only at hwrites
      split at hwrites
      · rename_i hmem
        unfold read
        dsimp only
        rw [applyPlayerMessage_player, hsome, Option.map_some]
        show mergePlayerFields parsers player payload (messageKeys payload) field = value
        rw [mergePlayerFields_apply, if_pos hmem, hwrites]
        rfl
      · cases hwrites
  | status field =>
      unfold messageWrites at hwrites
      dsimp only at hwrites
      split at hwrites
      · rename_i hcond
        rw [Option.some.inj hwrites] at hcond
        unfold read
        dsimp only
        rw [applyPlayerMessage_worldStatus, if_pos hcond.1]
        have hbrought := Option.some.inj hwrites
        cases field with
        | leaderboard =>
            show nullish (payload.status .leaderboard) _ = value
            rw [hbrought]
            exact if_neg hcond.2
        | seasonVictory =>
            show nullish (payload.status .seasonVictory) _ = value
            rw [hbrought]
            exact if_neg hcond.2
        | seasonWinner =>
            show nullish (payload.status .seasonWinner) _ = value
            rw [hbrought]
            exact if_neg hcond.2
      · cases hwrites
  | tile key name => cases hwrites

/-- **What a message does not write stays**, but for a part of the world
status that was not there. -/
theorem read_applyPlayerMessage_untouched (field : Field)
    (hwrites : messageWrites parsers payload field = none) :
    read (applyPlayerMessageToSnapshot parsers snapshot payload) field = read snapshot field
      ∨ (∃ f, field = .status f) ∧ (read snapshot field).isNullish = true := by
  cases field with
  | player field =>
      left
      unfold messageWrites at hwrites
      dsimp only at hwrites
      unfold read
      dsimp only
      rw [applyPlayerMessage_player]
      cases snapshot.player with
      | none => rfl
      | some player =>
          show mergePlayerFields parsers player payload (messageKeys payload) field = player field
          rw [mergePlayerFields_apply]
          split at hwrites
          · rename_i hmem
            rw [if_pos hmem, hwrites]
            rfl
          · rename_i hmem
            rw [if_neg hmem]
  | status field =>
      by_cases hprevious : (readStatus snapshot.worldStatus field).isNullish = true
      · exact Or.inr ⟨⟨field, rfl⟩, hprevious⟩
      · left
        unfold messageWrites at hwrites
        dsimp only at hwrites
        show readStatus _ field = readStatus snapshot.worldStatus field
        rw [applyPlayerMessage_worldStatus]
        by_cases hglobal : isTextAmong ["GLOBAL_STATUS_UPDATE"] payload.type = true
        · have hbrought : (payload.status field).isNullish = true := by
            by_contra hsome
            rw [if_pos ⟨hglobal, hsome⟩] at hwrites
            cases hwrites
          rw [if_pos hglobal]
          show mergeWorldStatus snapshot.worldStatus payload field = _
          cases field with
          | leaderboard =>
              show nullish _ (nullish _ _) = _
              unfold nullish
              rw [if_pos hbrought, if_neg hprevious]
          | seasonVictory =>
              show nullish _ (nullish _ _) = _
              unfold nullish
              rw [if_pos hbrought, if_neg hprevious]
          | seasonWinner =>
              show nullish _ _ = _
              unfold nullish
              rw [if_pos hbrought]
        · rw [if_neg hglobal]
  | tile key name =>
      left
      unfold read
      dsimp only
      rw [applyPlayerMessage_tiles]

theorem messageWrites_status {field : WorldStatusField} {value : HostValue}
    (hwrites : messageWrites parsers payload (.status field) = some value) :
    value.isNullish = false := by
  unfold messageWrites at hwrites
  dsimp only at hwrites
  split at hwrites
  · rename_i hcond
    rw [Option.some.inj hwrites] at hcond
    exact Bool.not_eq_true _ ▸ hcond.2
  · cases hwrites

end BorderEmpires.Snapshots
