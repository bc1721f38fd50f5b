/-
  BorderEmpires.Social.State
  **THE SOCIAL STATE AND ITS OPERATIONS.**

  Offers, alliances, truces, notices, lockouts and cooldowns in memory, with
  every operation that changes them and the write it makes to the store.
  Most operations first sweep out what has expired, and end by building an
  update for the players concerned, which sweeps again.

  An operation reads the clock once.  Histories and the texts of updates
  are left out; an error carries its code and message.
-/
import BorderEmpires.Social.Store

namespace BorderEmpires.Social

/-! ## §1. State. -/

structure SocialError where
  code : String
  message : String
  deriving DecidableEq

/-- The players to notify, or why nothing was done. -/
abbrev SocialActionResult := Except SocialError (List PlayerId)

/-- The maps of `createSocialState`, the store its sink writes to, and the
number of UUIDs drawn. -/
structure SocialState where
  playersById : InsertionMap PlayerId SocialPlayerRecord
  allianceRequests : AllianceRequests
  allianceBreaksByPair : InsertionMap String SocialAllianceBreak
  completedAllianceBreaks : InsertionMap String SocialCompletedAllianceBreak
  truceRequests : TruceRequests
  trucesByPair : ActiveTruces
  truceLockoutUntilByPlayerId : InsertionMap PlayerId ℤ
  truceBreaksByPlayerId : InsertionMap PlayerId (List SocialTruceBreakRecord)
  offerCooldowns : InsertionMap String SocialOfferCooldown
  forcedTruceCooldowns : InsertionMap PlayerId ℤ
  settlingRequestIds : List RequestId
  staleOfferPlayerIds : List PlayerId
  drawn : Nat
  store : SocialStore

/-- An offer of either kind, as the settlement sees it. -/
inductive SocialPendingOffer where
  | truce (request : SocialTruceRequest)
  | alliance (request : SocialAllianceRequest)

namespace SocialPendingOffer

def fromPlayerId : SocialPendingOffer → PlayerId
  | .truce request => request.fromPlayerId
  | .alliance request => request.fromPlayerId

def toPlayerId : SocialPendingOffer → PlayerId
  | .truce request => request.toPlayerId
  | .alliance request => request.toPlayerId

def settlementPhase : SocialPendingOffer → Option TreatySettlementPhase
  | .truce request => request.settlementPhase
  | .alliance request => request.settlementPhase

end SocialPendingOffer

/-! ## §2. Names. -/

/-- What the host trims: white space and line terminators. -/
def isHostSpace (c : Char) : Bool :=
  [0x9, 0xA, 0xB, 0xC, 0xD, 0x20, 0xA0, 0x1680, 0x2028, 0x2029, 0x202F, 0x205F, 0x3000,
    0xFEFF].contains c.toNat || (0x2000 ≤ c.toNat && c.toNat ≤ 0x200A)

def trim (text : String) : String :=
  String.ofList ((text.toList.dropWhile isHostSpace).reverse.dropWhile isHostSpace).reverse

/-- The digits of an id of the form `ai-<n>`. -/
def aiIdDigits (id : PlayerId) : Option (List Char) :=
  match id.text.toList with
  | 'a' :: 'i' :: '-' :: digits =>
      if digits ≠ [] ∧ digits.all Char.isDigit = true then some digits else none
  | _ => none

def numberedAiNameForId (id : PlayerId) : Option String :=
  (aiIdDigits id).map (fun digits => "AI " ++ String.ofList digits)

def formatCooldownRemaining (remainingMs : ℤ) : String :=
  toString (max 1 (-(-remainingMs / 60000))) ++ "m"

def STALE_TRUCE_OFFER : SocialError :=
  ⟨"TRUCE_REQUEST_INVALID", "the truce changed since this offer was made"⟩

def settlingError : SocialError := ⟨"OFFER_SETTLING", "That offer is being settled right now."⟩

def soonestEntry (entries : List (String × SocialOfferCooldown)) :
    Option (String × SocialOfferCooldown) :=
  entries.foldl (fun best entry =>
    match best with
    | none => some entry
    | some b => if entry.2.cooldownUntil < b.2.cooldownUntil then some entry else some b) none

namespace SocialState

/-! ## §3. What the operations are made of. -/

section Parts

variable (s : SocialState)

/-- A player that is not known yet is added without allies. -/
def ensurePlayer (playerId : PlayerId) (fallbackName : Option String) : SocialState :=
  match s.playersById.get playerId with
  | some _ => s
  | none =>
      { s with
        playersById := s.playersById.set playerId ⟨fallbackName.getD playerId.text, []⟩ }

def updatePlayer (playerId : PlayerId) (f : SocialPlayerRecord → SocialPlayerRecord) : SocialState :=
  match s.playersById.get playerId with
  | some record => { s with playersById := s.playersById.set playerId (f record) }
  | none => s

def setName (playerId : PlayerId) (name : String) : SocialState :=
  s.updatePlayer playerId (fun record => { record with name := name })

def addAlly (playerId allyId : PlayerId) : SocialState :=
  s.updatePlayer playerId (fun record =>
    { record with allies := InsertionSet.add record.allies allyId })

def deleteAlly (playerId allyId : PlayerId) : SocialState :=
  s.updatePlayer playerId (fun record =>
    { record with allies := record.allies.filter (· ≠ allyId) })

def alliesOf (playerId : PlayerId) : List PlayerId :=
  ((s.playersById.get playerId).map SocialPlayerRecord.allies).getD []

def nameOf (playerId : PlayerId) : String :=
  ((s.playersById.get playerId).map SocialPlayerRecord.name).getD playerId.text

def upsertPlayer (playerId : PlayerId) (name : String) : SocialState :=
  { s with store := s.store.upsertPlayer playerId name }

def putAllianceRequest (request : SocialAllianceRequest) : SocialState :=
  { s with
    allianceRequests := s.allianceRequests.set request.id request
    store := s.store.saveAllianceRequest request }

def dropAllianceRequest (requestId : RequestId) : SocialState :=
  { s with
    allianceRequests := s.allianceRequests.erase requestId
    store := s.store.deleteAllianceRequest requestId }

def putTruceRequest (request : SocialTruceRequest) : SocialState :=
  { s with
    truceRequests := s.truceRequests.set request.id request
    store := s.store.saveTruceRequest request }

def dropTruceRequest (requestId : RequestId) : SocialState :=
  { s with
    truceRequests := s.truceRequests.erase requestId
    store := s.store.deleteTruceRequest requestId }

def lock (requestId : RequestId) : SocialState :=
  { s with settlingRequestIds := InsertionSet.add s.settlingRequestIds requestId }

def unlock (requestId : RequestId) : SocialState :=
  { s with settlingRequestIds := s.settlingRequestIds.filter (· ≠ requestId) }

def markStale (playerIds : List PlayerId) : SocialState :=
  { s with staleOfferPlayerIds := InsertionSet.addAll s.staleOfferPlayerIds playerIds }

/-- At the bound the cooldown that ends soonest makes room. -/
def putCooldown (entry : SocialOfferCooldown) : SocialState :=
  let key := cooldownKey entry.kind entry.fromPlayerId entry.toPlayerId
  let room :=
    if s.offerCooldowns.has key = false ∧ MAX_OFFER_COOLDOWNS ≤ s.offerCooldowns.size then
      match soonestEntry s.offerCooldowns.entries with
      | some soonest => s.offerCooldowns.erase soonest.1
      | none => s.offerCooldowns
    else s.offerCooldowns
  { s with offerCooldowns := room.set key entry }

def startOfferCooldown (now : ℤ) (kind : SocialOfferKind) (fromPlayerId toPlayerId : PlayerId)
    (durationMs : ℤ) : SocialState :=
  let cooldown : SocialOfferCooldown := ⟨kind, fromPlayerId, toPlayerId, now + durationMs⟩
  let s := s.putCooldown cooldown
  { s with store := s.store.saveOfferCooldown cooldown }

def remainingMs (now : ℤ) (kind : SocialOfferKind) (fromPlayerId toPlayerId : PlayerId) : ℤ :=
  match s.offerCooldowns.get (cooldownKey kind fromPlayerId toPlayerId) with
  | some entry => max 0 (entry.cooldownUntil - now)
  | none => 0

def offerCooldownError (now : ℤ) (kind : SocialOfferKind) (fromPlayerId targetId : PlayerId) :
    Option SocialError :=
  let remaining := s.remainingMs now kind fromPlayerId targetId
  if remaining ≤ 0 then none
  else
    some ⟨if kind = .truce then "TRUCE_OFFER_COOLDOWN" else "ALLIANCE_OFFER_COOLDOWN",
      "You can offer " ++ s.nameOf targetId ++ (if kind = .truce then " a truce" else " an alliance")
        ++ " again in " ++ formatCooldownRemaining remaining ++ "."⟩

/-- A human with the name comes before an AI with it, and an AI is found by
its numbered name last. -/
def resolveByName (toLocaleLowerCase : String → String) (playerName : String) : Option PlayerId :=
  let needle := toLocaleLowerCase (trim playerName)
  let named := fun (entry : PlayerId × SocialPlayerRecord) =>
    toLocaleLowerCase (trim entry.2.name) = needle
  if needle = "" then none
  else
    (((s.playersById.entries.find? (fun entry =>
        named entry ∧ numberedAiNameForId entry.1 = none)).or
      (s.playersById.entries.find? (fun entry => named entry))).or
      (s.playersById.entries.find? (fun entry =>
        (numberedAiNameForId entry.1).map toLocaleLowerCase = some needle))).map Prod.fst

/-- The target of an offer: by id where one is given, else by name. -/
def offerTarget (toLocaleLowerCase : String → String) (targetPlayerName : String)
    (targetPlayerId : Option PlayerId) : Option PlayerId :=
  match targetPlayerId with
  | some id => if s.playersById.has id then some id else none
  | none => s.resolveByName toLocaleLowerCase targetPlayerName

end Parts

/-! ## §4. Sweeping. -/

section Sweep

variable (s : SocialState) (now : ℤ)

/-- An unanswered truce offer that no settlement holds has run out. -/
def requestLapsed (requestId : RequestId) (request : SocialTruceRequest) : Bool :=
  request.expiresAt ≤ now ∧ request.settlementPhase = none ∧ requestId ∉ s.settlingRequestIds

/-- The sender may not offer again at once, and both players still show it. -/
def lapseRequest (s : SocialState) (now : ℤ) (entry : RequestId × SocialTruceRequest) :
    SocialState :=
  (({ s with truceRequests := s.truceRequests.erase entry.1 }).startOfferCooldown now .truce
    entry.2.fromPlayerId entry.2.toPlayerId OFFER_EXPIRED_COOLDOWN_MS).markStale
      [entry.2.fromPlayerId, entry.2.toPlayerId]

def lapsedRequests : List (RequestId × SocialTruceRequest) :=
  s.truceRequests.entries.filter (fun entry => s.requestLapsed now entry.1 entry.2)

def lapseRequests : SocialState :=
  (s.lapsedRequests now).foldl (fun s entry => s.lapseRequest now entry) s

/-- The loops over the other maps. -/
def dropExpired : SocialState :=
  { s with
    trucesByPair := s.trucesByPair.eraseWhere (fun _ truce => truce.endsAt ≤ now)
    staleOfferPlayerIds := InsertionSet.addAll s.staleOfferPlayerIds
      ((s.trucesByPair.values.filter (fun truce => truce.endsAt ≤ now)).flatMap
        (fun truce => [truce.playerAId, truce.playerBId]))
    completedAllianceBreaks :=
      s.completedAllianceBreaks.eraseWhere (fun _ notice => notice.notificationExpiresAt ≤ now)
    truceLockoutUntilByPlayerId :=
      s.truceLockoutUntilByPlayerId.eraseWhere (fun _ lockoutUntil => lockoutUntil ≤ now)
    offerCooldowns := s.offerCooldowns.eraseWhere (fun _ entry => entry.cooldownUntil ≤ now) }

/-- Whether the loops over the other maps drop anything. -/
def anyExpired : Bool :=
  s.trucesByPair.values.any (fun truce => truce.endsAt ≤ now)
    || s.completedAllianceBreaks.values.any (fun notice => notice.notificationExpiresAt ≤ now)
    || s.truceLockoutUntilByPlayerId.values.any (fun (lockoutUntil : ℤ) => lockoutUntil ≤ now)
    || s.offerCooldowns.values.any (fun entry => entry.cooldownUntil ≤ now)

/-- The store is pruned only when something was dropped in memory. -/
def sweepExpired : SocialState :=
  let lapsed := s.lapseRequests now
  let swept := lapsed.dropExpired now
  if (s.lapsedRequests now).isEmpty && ! lapsed.anyExpired now then swept
  else { swept with store := swept.store.pruneExpired now }

/-- `prune` of the Court's cooldowns. -/
def pruneForcedCooldowns : SocialState :=
  { s with
    forcedTruceCooldowns :=
      s.forcedTruceCooldowns.eraseWhere (fun _ cooldownUntil => cooldownUntil ≤ now) }

/-- `snapshotForPlayer`, for what it changes. -/
def snapshotForPlayer (playerId : PlayerId) : SocialState :=
  ((s.sweepExpired now).pruneForcedCooldowns now).ensurePlayer playerId none

/-- `updatePayloadsFor`: a snapshot for each player. -/
def updatePayloadsFor (playerIds : List PlayerId) : SocialState :=
  playerIds.foldl (fun s playerId => s.snapshotForPlayer now playerId) s

def ok (playerIds : List PlayerId) : SocialState × SocialActionResult :=
  (s.updatePayloadsFor now playerIds, .ok playerIds)

end Sweep

/-! ## §5. Alliances. -/

section Alliances

variable (s : SocialState) (now : ℤ)

def allianceRequestInvalid : SocialError := ⟨"ALLIANCE_REQUEST_INVALID", "request invalid"⟩

def registerPlayer (playerId : PlayerId) (name : String) : SocialState :=
  ((s.ensurePlayer playerId (some name)).setName playerId name).upsertPlayer playerId name

/-- The names an alliance offer shows, after a player changed its own. -/
def renamedAllianceRequest (playerId : PlayerId) (name : String) (request : SocialAllianceRequest) :
    SocialAllianceRequest :=
  { request with
    fromName := if request.fromPlayerId = playerId then name else request.fromName
    toName := if request.toPlayerId = playerId then name else request.toName }

def renamedTruceRequest (playerId : PlayerId) (name : String) (request : SocialTruceRequest) :
    SocialTruceRequest :=
  { request with
    fromName := if request.fromPlayerId = playerId then name else request.fromName
    toName := if request.toPlayerId = playerId then name else request.toName }

/-- The player's own offers are written again under its new name. -/
def renamePlayer (playerId : PlayerId) (name : String) : SocialState :=
  let s := s.registerPlayer playerId name
  let s := (s.allianceRequests.values.filter (fun request =>
      request.fromPlayerId = playerId ∨ request.toPlayerId = playerId)).foldl
    (fun s request => s.putAllianceRequest (renamedAllianceRequest playerId name request)) s
  (s.truceRequests.values.filter (fun request =>
      request.fromPlayerId = playerId ∨ request.toPlayerId = playerId)).foldl
    (fun s request => s.putTruceRequest (renamedTruceRequest playerId name request)) s

/-- One offer between two players at a time. -/
def requestAlliance (toLocaleLowerCase : String → String) (fromPlayerId : PlayerId)
    (targetPlayerName : String) (terms : Option DiplomacyTerms) (targetPlayerId : Option PlayerId) :
    SocialState × SocialActionResult :=
  let s := (s.sweepExpired now).ensurePlayer fromPlayerId none
  match s.offerTarget toLocaleLowerCase targetPlayerName targetPlayerId with
  | none => (s, .error ⟨"ALLIANCE_TARGET", "target not found"⟩)
  | some target =>
      if target = fromPlayerId then (s, .error ⟨"ALLIANCE_TARGET", "target not found"⟩)
      else if target ∈ s.alliesOf fromPlayerId then
        (s, .error ⟨"ALLIANCE_EXISTS", "already allied"⟩)
      else
        match findAllianceRequestBetweenPlayers s.allianceRequests fromPlayerId target with
        | some existing =>
            (s, .error ⟨"ALLIANCE_REQUEST_PENDING",
              if existing.fromPlayerId = fromPlayerId then "alliance request already pending"
              else "that player already sent you an alliance request"⟩)
        | none =>
            match s.offerCooldownError now .alliance fromPlayerId target with
            | some error => (s, .error error)
            | none =>
                (({ s with drawn := s.drawn + 1 }).putAllianceRequest
                  { id := ⟨s.drawn⟩, fromPlayerId := fromPlayerId, toPlayerId := target
                    createdAt := now, fromName := s.nameOf fromPlayerId, toName := s.nameOf target
                    terms := termsField terms, settlementPhase := none }).ok now
                  [fromPlayerId, target]

/-- Both become allies of each other; a notice of an earlier break is dropped. -/
def formAlliance (requestId : RequestId) (actorId fromId : PlayerId) : SocialState :=
  let s := ({ s with
    store := ((s.store.addAlliance actorId fromId now).deleteAllianceRequest
      requestId).removeCompletedAllianceBreak actorId fromId }.addAlly actorId fromId).addAlly
      fromId actorId
  { s with
    allianceRequests := s.allianceRequests.erase requestId
    completedAllianceBreaks := s.completedAllianceBreaks.erase (pairKey actorId fromId) }

/-- Only the player it was made to accepts it. -/
def acceptAlliance (playerId : PlayerId) (requestId : RequestId) :
    SocialState × SocialActionResult :=
  let s := s.sweepExpired now
  match s.allianceRequests.get requestId with
  | none => (s, .error allianceRequestInvalid)
  | some request =>
      if request.toPlayerId ≠ playerId then (s, .error allianceRequestInvalid)
      else
        let s := s.ensurePlayer playerId none
        if s.playersById.has request.fromPlayerId then
          ((s.formAlliance now requestId playerId request.fromPlayerId).unlock requestId).ok now
            [playerId, request.fromPlayerId]
        else
          (s.dropAllianceRequest requestId,
            .error ⟨"ALLIANCE_REQUEST_INVALID", "request sender offline/unknown"⟩)

def rejectAlliance (playerId : PlayerId) (requestId : RequestId) (startCooldown : Bool) :
    SocialState × SocialActionResult :=
  let s := s.sweepExpired now
  match s.allianceRequests.get requestId with
  | none => (s, .error allianceRequestInvalid)
  | some request =>
      if request.toPlayerId ≠ playerId then (s, .error allianceRequestInvalid)
      else if request.settlementPhase.isSome ∨ requestId ∈ s.settlingRequestIds then
        (s, .error settlingError)
      else
        let s := s.dropAllianceRequest requestId
        let s :=
          if startCooldown then
            s.startOfferCooldown now .alliance request.fromPlayerId request.toPlayerId
              OFFER_REJECTED_COOLDOWN_MS
          else s
        s.ok now [playerId, request.fromPlayerId]

def cancelAlliance (playerId : PlayerId) (requestId : RequestId) :
    SocialState × SocialActionResult :=
  let s := s.sweepExpired now
  match s.allianceRequests.get requestId with
  | none => (s, .error allianceRequestInvalid)
  | some request =>
      if request.fromPlayerId ≠ playerId then (s, .error allianceRequestInvalid)
      else if request.settlementPhase.isSome ∨ requestId ∈ s.settlingRequestIds then
        (s, .error settlingError)
      else
        ((s.dropAllianceRequest requestId).startOfferCooldown now .alliance request.fromPlayerId
          request.toPlayerId OFFER_REJECTED_COOLDOWN_MS).ok now [playerId, request.toPlayerId]

def putAllianceBreak (notice : SocialAllianceBreak) : SocialState :=
  { s with
    allianceBreaksByPair :=
      s.allianceBreaksByPair.set (pairKey notice.playerAId notice.playerBId) notice
    store := s.store.saveAllianceBreak notice }

/-- Notice is given; the alliance lasts until it runs out. -/
def breakAlliance (playerId targetPlayerId : PlayerId) : SocialState × SocialActionResult :=
  let s := (s.sweepExpired now).ensurePlayer playerId none
  if s.playersById.has targetPlayerId = false ∨ targetPlayerId ∉ s.alliesOf playerId then
    (s, .error ⟨"ALLIANCE_BREAK_INVALID", "not allied with target"⟩)
  else if s.allianceBreaksByPair.has (pairKey playerId targetPlayerId) then
    (s, .error ⟨"ALLIANCE_BREAK_INVALID", "alliance break notice already active"⟩)
  else
    (s.putAllianceBreak ⟨playerId, targetPlayerId, now, now + ALLIANCE_BREAK_NOTICE_MS,
      playerId⟩).ok now [playerId, targetPlayerId]

/-- The notices that are over; their players are added where they are not known. -/
def expiredAllianceBreaks : SocialState × List SocialAllianceBreak :=
  let expired := s.allianceBreaksByPair.values.filter (fun notice => notice.endsAt ≤ now)
  (expired.foldl (fun s notice =>
    (s.ensurePlayer notice.playerAId none).ensurePlayer notice.playerBId none) s, expired)

/-- The alliance ends on both sides and the notice is kept for showing. -/
def finalizeAllianceBreak (s : SocialState) (now : ℤ) (notice : SocialAllianceBreak) :
    SocialState :=
  let playerA := notice.playerAId
  let playerB := notice.playerBId
  let completed : SocialCompletedAllianceBreak :=
    { notice with
      finalizedAt := now
      notificationExpiresAt := now + COMPLETED_ALLIANCE_BREAK_NOTIFICATION_TTL_MS }
  let s := (((s.ensurePlayer playerA none).ensurePlayer playerB none).deleteAlly playerA
    playerB).deleteAlly playerB playerA
  { s with
    allianceBreaksByPair := s.allianceBreaksByPair.erase (pairKey playerA playerB)
    completedAllianceBreaks := s.completedAllianceBreaks.set (pairKey playerA playerB) completed
    store := ((s.store.removeAllianceBreak playerA playerB).removeAlliance playerA
      playerB).saveCompletedAllianceBreak completed }

/-- Finalize the notices that are over, or those of them for the given pairs. -/
def finalizeExpiredAllianceBreaks (pairs : Option (List (PlayerId × PlayerId))) : SocialState :=
  let allowed := fun (notice : SocialAllianceBreak) =>
    pairs.all (fun (ps : List (PlayerId × PlayerId)) =>
      (ps.map (fun pair => pairKey pair.1 pair.2)).contains
        (pairKey notice.playerAId notice.playerBId))
  let found := s.expiredAllianceBreaks now
  let expiredBreaks := found.2.filter allowed
  (expiredBreaks.foldl (fun s notice => s.finalizeAllianceBreak now notice) found.1).updatePayloadsFor
    now (InsertionSet.addAll []
      (expiredBreaks.flatMap (fun notice => [notice.playerAId, notice.playerBId])))

end Alliances

/-! ## §6. Truces. -/

section Truces

variable (s : SocialState) (now : ℤ)

def truceRequestInvalid : SocialError := ⟨"TRUCE_REQUEST_INVALID", "request invalid or expired"⟩

def runningTruce (playerAId playerBId : PlayerId) : Option SocialActiveTruce :=
  activeTruceBetween playerAId playerBId s.trucesByPair now

def lockedOut (playerId : PlayerId) : Bool :=
  playerIsTruceLockedOut playerId s.truceLockoutUntilByPlayerId now

def putTruce (key : String) (truce : SocialActiveTruce) : SocialState :=
  { s with
    trucesByPair := s.trucesByPair.set key truce
    store := s.store.saveActiveTruce truce }

def requestTruce (toLocaleLowerCase : String → String) (fromPlayerId : PlayerId)
    (targetPlayerName : String) (durationHours : DurationHours) (terms : Option DiplomacyTerms)
    (targetPlayerId : Option PlayerId) : SocialState × SocialActionResult :=
  let s := (s.sweepExpired now).ensurePlayer fromPlayerId none
  match s.offerTarget toLocaleLowerCase targetPlayerName targetPlayerId with
  | none => (s, .error ⟨"TRUCE_TARGET", "target not found"⟩)
  | some target =>
      if target = fromPlayerId ∨ "barbarian".toList.isPrefixOf target.text.toList = true then
        (s, .error ⟨"TRUCE_TARGET", "target not found"⟩)
      else if s.lockedOut now fromPlayerId then
        (s, .error ⟨"TRUCE_LOCKED_OUT",
          "you broke a truce recently and cannot request a new truce yet"⟩)
      else if truceExtensionRequestError (s.runningTruce now fromPlayerId target) durationHours
          now then
        (s, .error ⟨"TRUCE_EXTENSION_CAP", "a truce can last at most "
          ++ toString (TRUCE_MAX_LIFETIME_MS / 3600000) ++ "h in total, extensions included"⟩)
      else if (findTruceRequestBetweenPlayers s.truceRequests fromPlayerId target).isSome then
        (s, .error ⟨"TRUCE_REQUEST_PENDING", "a truce offer is already pending"⟩)
      else
        match s.offerCooldownError now .truce fromPlayerId target with
        | some error => (s, .error error)
        | none =>
            (({ s with drawn := s.drawn + 1 }).putTruceRequest
              { id := ⟨s.drawn⟩, fromPlayerId := fromPlayerId, toPlayerId := target
                createdAt := now, expiresAt := now + TRUCE_REQUEST_TTL_MS
                durationHours := durationHours, fromName := s.nameOf fromPlayerId
                toName := s.nameOf target, terms := termsField terms
                extendsTruce := (s.runningTruce now fromPlayerId target).isSome
                settlementPhase := none }).ok now [fromPlayerId, target]

/-- An accept that fails drops the offer, unless a phase is written on it. -/
def refuseTruceRequest (requestId : RequestId) (request : SocialTruceRequest) : SocialState :=
  if request.settlementPhase.isSome then s else s.dropTruceRequest requestId

/-- The truce an offer brings: the running one extended, or a new one. -/
def acceptedTruce (actorId : PlayerId) (request : SocialTruceRequest)
    (running : Option SocialActiveTruce) : SocialActiveTruce :=
  match running with
  | some truce => extendTruce truce request.durationHours now
  | none =>
      { court := false
        playerAId := (orderedPair actorId request.fromPlayerId).1
        playerBId := (orderedPair actorId request.fromPlayerId).2
        startedAt := now
        endsAt := now + request.durationHours.hours * 60 * 60000
        createdByPlayerId := request.fromPlayerId }

/-- What an accept does with an offer it found: refuse it or make the truce. -/
def settleTruceRequest (playerId : PlayerId) (requestId : RequestId) (request : SocialTruceRequest) :
    SocialState × SocialActionResult :=
  if s.playersById.has request.fromPlayerId = false then
    (s.refuseTruceRequest requestId request,
      .error ⟨"TRUCE_REQUEST_INVALID", "request sender offline/unknown"⟩)
  else if s.lockedOut now playerId ∨ s.lockedOut now request.fromPlayerId then
    ((s.refuseTruceRequest requestId request).markStale [request.fromPlayerId],
      .error ⟨"TRUCE_LOCKED_OUT", "one player broke a truce recently and is locked out"⟩)
  else if truceOfferIsStale request (s.runningTruce now playerId request.fromPlayerId) then
    ((s.refuseTruceRequest requestId request).markStale [request.fromPlayerId],
      .error STALE_TRUCE_OFFER)
  else
    ((s.dropTruceRequest requestId).putTruce (pairKey playerId request.fromPlayerId)
      (acceptedTruce now playerId request
        (s.runningTruce now playerId request.fromPlayerId))).ok now
      [playerId, request.fromPlayerId]

/-- An offer in settlement may pass its expiry and still completes. -/
def acceptTruce (playerId : PlayerId) (requestId : RequestId) : SocialState × SocialActionResult :=
  let s := s.sweepExpired now
  match s.truceRequests.get requestId with
  | none => (s, .error truceRequestInvalid)
  | some request =>
      if request.toPlayerId ≠ playerId
          ∨ (request.expiresAt < now ∧ requestId ∉ s.settlingRequestIds) then
        (s, .error truceRequestInvalid)
      else
        ((s.unlock requestId).ensurePlayer playerId none).settleTruceRequest now playerId requestId
          request

def rejectTruce (playerId : PlayerId) (requestId : RequestId) (startCooldown : Bool) :
    SocialState × SocialActionResult :=
  let s := s.sweepExpired now
  match s.truceRequests.get requestId with
  | none => (s, .error truceRequestInvalid)
  | some request =>
      if request.toPlayerId ≠ playerId ∨ request.expiresAt < now then
        (s, .error truceRequestInvalid)
      else if request.settlementPhase.isSome ∨ requestId ∈ s.settlingRequestIds then
        (s, .error settlingError)
      else
        let s := s.dropTruceRequest requestId
        let s :=
          if startCooldown then
            s.startOfferCooldown now .truce request.fromPlayerId request.toPlayerId
              OFFER_REJECTED_COOLDOWN_MS
          else s
        s.ok now [playerId, request.fromPlayerId]

def cancelTruce (playerId : PlayerId) (requestId : RequestId) : SocialState × SocialActionResult :=
  let s := s.sweepExpired now
  match s.truceRequests.get requestId with
  | none => (s, .error truceRequestInvalid)
  | some request =>
      if request.fromPlayerId ≠ playerId ∨ request.expiresAt < now then
        (s, .error truceRequestInvalid)
      else if request.settlementPhase.isSome ∨ requestId ∈ s.settlingRequestIds then
        (s, .error settlingError)
      else
        ((s.dropTruceRequest requestId).startOfferCooldown now .truce request.fromPlayerId
          request.toPlayerId OFFER_REJECTED_COOLDOWN_MS).ok now [playerId, request.toPlayerId]

/-- The truce is over; its breaker is locked out and the break recorded. -/
def recordTruceBreak (playerId targetPlayerId : PlayerId) : SocialState :=
  let lockoutUntil := now + TRUCE_BREAK_LOCKOUT_MS
  let record : SocialTruceBreakRecord := ⟨targetPlayerId, s.nameOf targetPlayerId, now⟩
  let breaks := (s.truceBreaksByPlayerId.get playerId).getD [] ++ [record]
  { s with
    trucesByPair := s.trucesByPair.erase (pairKey playerId targetPlayerId)
    truceLockoutUntilByPlayerId := s.truceLockoutUntilByPlayerId.set playerId lockoutUntil
    truceBreaksByPlayerId := s.truceBreaksByPlayerId.set playerId
      (breaks.drop (breaks.length - MAX_TRUCE_BREAKS_PER_PLAYER))
    store := ((s.store.removeActiveTruce playerId targetPlayerId).saveTruceLockout playerId
      lockoutUntil).saveTruceBreak playerId record }

/-- Any truce but a Court armistice; its breaker is locked out. -/
def breakTruce (playerId targetPlayerId : PlayerId) : SocialState × SocialActionResult :=
  let s := (s.sweepExpired now).ensurePlayer playerId none
  let truce :=
    if s.playersById.has targetPlayerId then s.runningTruce now playerId targetPlayerId else none
  match truce with
  | none => (s, .error ⟨"TRUCE_BREAK_INVALID", "no active truce with target"⟩)
  | some truce =>
      if truce.court then
        (s, .error ⟨"COURT_TRUCE_BINDING", "a Court armistice cannot be broken before it expires"⟩)
      else (s.recordTruceBreak now playerId targetPlayerId).ok now [playerId, targetPlayerId]

/-- The Court's armistice and its cooldown, committed together. -/
def recordForcedTruce (playerId targetPlayerId : PlayerId) : SocialState :=
  let pair := orderedPair playerId targetPlayerId
  let truce : SocialActiveTruce :=
    { court := true, playerAId := pair.1, playerBId := pair.2, startedAt := now
      endsAt := now + FORCED_TRUCE_DURATION_MS, createdByPlayerId := playerId }
  let cooldownUntil := now + FORCED_TRUCE_COOLDOWN_MS
  { s with
    trucesByPair := s.trucesByPair.set (pairKey playerId targetPlayerId) truce
    forcedTruceCooldowns := s.forcedTruceCooldowns.set playerId cooldownUntil
    store := s.store.saveForcedTruce truce cooldownUntil }

/-- The Court's armistice: no consent is asked. -/
def forceTruce (playerId targetPlayerId : PlayerId) : SocialState × SocialActionResult :=
  let s := (s.sweepExpired now).pruneForcedCooldowns now
  if s.playersById.has playerId = false ∨ s.playersById.has targetPlayerId = false
      ∨ playerId = targetPlayerId ∨ targetPlayerId.isBarbarian = true then
    (s, .error ⟨"FORCED_TRUCE_INVALID", "select another House in this campaign"⟩)
  else if now < (s.forcedTruceCooldowns.get playerId).getD 0 then
    (s, .error ⟨"FORCED_TRUCE_COOLDOWN", "your Court Armistice Mandate is recharging"⟩)
  else if (s.runningTruce now playerId targetPlayerId).isSome then
    (s, .error ⟨"TRUCE_EXISTS", "you already have an active truce with that House"⟩)
  else if AFC_CAMPAIGN_RECORD_LIMIT ≤ s.forcedTruceCooldowns.size then
    (s, .error ⟨"SOCIAL_CAPACITY", "Court registration is temporarily unavailable"⟩)
  else (s.recordForcedTruce now playerId targetPlayerId).ok now [playerId, targetPlayerId]

/-- The Court's truces and cooldowns are dropped from memory. -/
def resetAfcCampaign : SocialState :=
  { s with
    forcedTruceCooldowns := .empty
    trucesByPair := s.trucesByPair.eraseWhere (fun _ truce => truce.court) }

/-- Offers between the two that nobody is settling. -/
def withdrawnOffers (playerAId playerBId : PlayerId) : List (RequestId × SocialTruceRequest) :=
  s.truceRequests.entries.filter (fun entry =>
    SamePair entry.2.fromPlayerId entry.2.toPlayerId playerAId playerBId
      ∧ entry.2.settlementPhase = none ∧ entry.1 ∉ s.settlingRequestIds)

def withdrawTruceOffersBetween (playerAId playerBId : PlayerId) : SocialState :=
  (s.withdrawnOffers playerAId playerBId).foldl (fun s entry => s.dropTruceRequest entry.1) s

def withdrawTruceOffersOnCombat (playerAId playerBId : PlayerId) : SocialState :=
  let withdrawn := s.withdrawTruceOffersBetween playerAId playerBId
  if (s.withdrawnOffers playerAId playerBId).isEmpty then withdrawn
  else withdrawn.updatePayloadsFor now [playerAId, playerBId]

end Truces

/-! ## §7. Settlement. -/

section Settlement

variable (s : SocialState) (now : ℤ)

def offerFor (kind : SocialOfferKind) (requestId : RequestId) : Option SocialPendingOffer :=
  match kind with
  | .truce => (s.truceRequests.get requestId).map .truce
  | .alliance => (s.allianceRequests.get requestId).map .alliance

/-- What is wrong with a truce offer that no settlement has begun to pay. -/
def truceOfferError : SocialPendingOffer → Option SocialError
  | .alliance _ => none
  | .truce request =>
      if request.settlementPhase.isSome then none
      else if request.expiresAt < now then some truceRequestInvalid
      else if truceOfferIsStale request
          (s.runningTruce now request.fromPlayerId request.toPlayerId) then some STALE_TRUCE_OFFER
      else none

/-- Lock an incoming offer while the simulation moves what its terms name. -/
def beginSettlement (kind : SocialOfferKind) (playerId : PlayerId) (requestId : RequestId) :
    SocialState × Except SocialError SocialPendingOffer :=
  let s := s.sweepExpired now
  let invalid : SocialError :=
    ⟨if kind = .truce then "TRUCE_REQUEST_INVALID" else "ALLIANCE_REQUEST_INVALID",
      "request invalid or expired"⟩
  if requestId ∈ s.settlingRequestIds then (s, .error settlingError)
  else
    match s.offerFor kind requestId with
    | none => (s, .error invalid)
    | some offer =>
        if offer.toPlayerId ≠ playerId then (s, .error invalid)
        else
          match s.truceOfferError now offer with
          | some error => (s, .error error)
          | none => (s.lock requestId, .ok offer)

/-- The phase is written on the offer and saved; without the offer it throws. -/
def setSettlementPhase (kind : SocialOfferKind) (requestId : RequestId)
    (phase : TreatySettlementPhase) : Option SocialState :=
  match s.offerFor kind requestId with
  | none => none
  | some (.truce request) => some (s.putTruceRequest { request with settlementPhase := some phase })
  | some (.alliance request) =>
      some (s.putAllianceRequest { request with settlementPhase := some phase })

def dropRequest (kind : SocialOfferKind) (requestId : RequestId) : SocialState :=
  match kind with
  | .truce => s.dropTruceRequest requestId
  | .alliance => s.dropAllianceRequest requestId

def discardSettlement (kind : SocialOfferKind) (requestId : RequestId) :
    SocialState × SocialActionResult :=
  match s.offerFor kind requestId with
  | none => (s, .error ⟨"OFFER_MISSING", "This offer is no longer available."⟩)
  | some offer =>
      ((s.dropRequest kind requestId).unlock requestId).ok now
        [offer.fromPlayerId, offer.toPlayerId]

/-- Update every player still shown an offer or truce that is gone. -/
def takeStaleOfferSync : SocialState :=
  let s := s.sweepExpired now
  ({ s with staleOfferPlayerIds := [] }).updatePayloadsFor now s.staleOfferPlayerIds

end Settlement

/-! ## §8. Starting. -/

def blank (store : SocialStore) (drawn : Nat) : SocialState where
  playersById := .empty
  allianceRequests := .empty
  allianceBreaksByPair := .empty
  completedAllianceBreaks := .empty
  truceRequests := .empty
  trucesByPair := .empty
  truceLockoutUntilByPlayerId := .empty
  truceBreaksByPlayerId := .empty
  offerCooldowns := .empty
  forcedTruceCooldowns := .empty
  settlingRequestIds := []
  staleOfferPlayerIds := []
  drawn := drawn
  store := store

/-- `options.players`. -/
def seedPlayers (s : SocialState) (players : List (PlayerId × String)) : SocialState :=
  players.foldl (fun s player => s.ensurePlayer player.1 (some player.2)) s

end SocialState

/-! ## §9. Steps. -/

/-- What a caller may ask of the state. -/
inductive SocialOp where
  | registerPlayer (playerId : PlayerId) (name : String)
  | renamePlayer (playerId : PlayerId) (name : String)
  | snapshotForPlayer (playerId : PlayerId)
  | syncPlayers (playerIds : List PlayerId)
  | requestAlliance (fromPlayerId : PlayerId) (targetPlayerName : String)
      (terms : Option DiplomacyTerms) (targetPlayerId : Option PlayerId)
  | acceptAlliance (playerId : PlayerId) (requestId : RequestId)
  | rejectAlliance (playerId : PlayerId) (requestId : RequestId) (startCooldown : Bool)
  | cancelAlliance (playerId : PlayerId) (requestId : RequestId)
  | breakAlliance (playerId targetPlayerId : PlayerId)
  | expiredAllianceBreaks
  | finalizeExpiredAllianceBreaks (pairs : Option (List (PlayerId × PlayerId)))
  | requestTruce (fromPlayerId : PlayerId) (targetPlayerName : String)
      (durationHours : DurationHours) (terms : Option DiplomacyTerms)
      (targetPlayerId : Option PlayerId)
  | acceptTruce (playerId : PlayerId) (requestId : RequestId)
  | rejectTruce (playerId : PlayerId) (requestId : RequestId) (startCooldown : Bool)
  | cancelTruce (playerId : PlayerId) (requestId : RequestId)
  | breakTruce (playerId targetPlayerId : PlayerId)
  | forceTruce (playerId targetPlayerId : PlayerId)
  | resetAfcCampaign
  | withdrawTruceOffersOnCombat (playerAId playerBId : PlayerId)
  | beginSettlement (kind : SocialOfferKind) (playerId : PlayerId) (requestId : RequestId)
  | endSettlement (requestId : RequestId)
  | setSettlementPhase (kind : SocialOfferKind) (requestId : RequestId)
      (phase : TreatySettlementPhase)
  | discardSettlement (kind : SocialOfferKind) (requestId : RequestId)
  | takeStaleOfferSync
  | diplomacyActivityCards
  | activeTrucePairs

def SocialOp.Settles : SocialOp → SocialOfferKind → RequestId → Prop
  | .acceptAlliance _ requestId, kind, id => kind = .alliance ∧ id = requestId
  | .acceptTruce _ requestId, kind, id => kind = .truce ∧ id = requestId
  | .discardSettlement kind' requestId, kind, id => kind = kind' ∧ id = requestId
  | _, _, _ => False

/-- An operation and the clock it reads. -/
structure TimedOp where
  now : ℤ
  op : SocialOp

def socialStep (toLocaleLowerCase : String → String) (s : SocialState) (t : TimedOp) : SocialState :=
  match t.op with
  | .registerPlayer playerId name => s.registerPlayer playerId name
  | .renamePlayer playerId name => s.renamePlayer playerId name
  | .snapshotForPlayer playerId => s.snapshotForPlayer t.now playerId
  | .syncPlayers playerIds => (s.ok t.now playerIds).1
  | .requestAlliance fromPlayerId targetPlayerName terms targetPlayerId =>
      (s.requestAlliance t.now toLocaleLowerCase fromPlayerId targetPlayerName terms
        targetPlayerId).1
  | .acceptAlliance playerId requestId => (s.acceptAlliance t.now playerId requestId).1
  | .rejectAlliance playerId requestId startCooldown =>
      (s.rejectAlliance t.now playerId requestId startCooldown).1
  | .cancelAlliance playerId requestId => (s.cancelAlliance t.now playerId requestId).1
  | .breakAlliance playerId targetPlayerId => (s.breakAlliance t.now playerId targetPlayerId).1
  | .expiredAllianceBreaks => (s.expiredAllianceBreaks t.now).1
  | .finalizeExpiredAllianceBreaks pairs => s.finalizeExpiredAllianceBreaks t.now pairs
  | .requestTruce fromPlayerId targetPlayerName durationHours terms targetPlayerId =>
      (s.requestTruce t.now toLocaleLowerCase fromPlayerId targetPlayerName durationHours terms
        targetPlayerId).1
  | .acceptTruce playerId requestId => (s.acceptTruce t.now playerId requestId).1
  | .rejectTruce playerId requestId startCooldown =>
      (s.rejectTruce t.now playerId requestId startCooldown).1
  | .cancelTruce playerId requestId => (s.cancelTruce t.now playerId requestId).1
  | .breakTruce playerId targetPlayerId => (s.breakTruce t.now playerId targetPlayerId).1
  | .forceTruce playerId targetPlayerId => (s.forceTruce t.now playerId targetPlayerId).1
  | .resetAfcCampaign => s.resetAfcCampaign
  | .withdrawTruceOffersOnCombat playerAId playerBId =>
      s.withdrawTruceOffersOnCombat t.now playerAId playerBId
  | .beginSettlement kind playerId requestId => (s.beginSettlement t.now kind playerId requestId).1
  | .endSettlement requestId => s.unlock requestId
  | .setSettlementPhase kind requestId phase =>
      (s.setSettlementPhase kind requestId phase).getD s
  | .discardSettlement kind requestId => (s.discardSettlement t.now kind requestId).1
  | .takeStaleOfferSync => s.takeStaleOfferSync t.now
  | .diplomacyActivityCards => s.sweepExpired t.now
  | .activeTrucePairs => s.sweepExpired t.now

end BorderEmpires.Social
