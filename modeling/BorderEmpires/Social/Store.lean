/-
  BorderEmpires.Social.Store
  **THE GATEWAY'S SOCIAL STORE.**

  What the social state writes down as it changes.  The store keeps
  alliances as rows of their own.
-/
import BorderEmpires.Social.Records

namespace BorderEmpires.Social

/-! ## §1. Rows. -/

structure AllianceRow where
  aId : PlayerId
  bId : PlayerId
  createdAt : ℤ
  deriving DecidableEq

/-- `players` maps an id to its name. -/
structure SocialStore where
  players : InsertionMap PlayerId String
  alliances : InsertionMap String AllianceRow
  allianceRequests : AllianceRequests
  activeAllianceBreaks : InsertionMap String SocialAllianceBreak
  completedAllianceBreaks : InsertionMap String SocialCompletedAllianceBreak
  truceRequests : TruceRequests
  forcedTruceCooldowns : InsertionMap PlayerId ℤ
  activeTruces : ActiveTruces
  truceLockouts : InsertionMap PlayerId ℤ
  truceBreaks : List (PlayerId × SocialTruceBreakRecord)
  offerCooldowns : InsertionMap String SocialOfferCooldown

/-- `${kind}:${fromPlayerId}:${toPlayerId}`. -/
def cooldownKey (kind : SocialOfferKind) (fromPlayerId toPlayerId : PlayerId) : String :=
  (match kind with
    | .truce => "truce"
    | .alliance => "alliance") ++ ":" ++ fromPlayerId.text ++ ":" ++ toPlayerId.text

/-- Drop the first `n` rows of a player. -/
def dropOldest (playerId : PlayerId) :
    Nat → List (PlayerId × SocialTruceBreakRecord) → List (PlayerId × SocialTruceBreakRecord)
  | 0, rows => rows
  | _ + 1, [] => []
  | n + 1, row :: rows =>
      if row.1 = playerId then dropOldest playerId n rows
      else row :: dropOldest playerId (n + 1) rows

namespace SocialStore

/-! ## §2. Writes. -/

variable (s : SocialStore)

def upsertPlayer (playerId : PlayerId) (name : String) : SocialStore :=
  { s with players := s.players.set playerId name }

def saveAllianceRequest (request : SocialAllianceRequest) : SocialStore :=
  { s with allianceRequests := s.allianceRequests.set request.id request }

def deleteAllianceRequest (requestId : RequestId) : SocialStore :=
  { s with allianceRequests := s.allianceRequests.erase requestId }

def saveAllianceBreak (notice : SocialAllianceBreak) : SocialStore :=
  { s with activeAllianceBreaks :=
      s.activeAllianceBreaks.set (pairKey notice.playerAId notice.playerBId) notice }

def removeAllianceBreak (playerAId playerBId : PlayerId) : SocialStore :=
  { s with activeAllianceBreaks := s.activeAllianceBreaks.erase (pairKey playerAId playerBId) }

def saveCompletedAllianceBreak (notice : SocialCompletedAllianceBreak) : SocialStore :=
  { s with completedAllianceBreaks :=
      s.completedAllianceBreaks.set (pairKey notice.playerAId notice.playerBId) notice }

def removeCompletedAllianceBreak (playerAId playerBId : PlayerId) : SocialStore :=
  { s with
    completedAllianceBreaks := s.completedAllianceBreaks.erase (pairKey playerAId playerBId) }

def saveTruceRequest (request : SocialTruceRequest) : SocialStore :=
  { s with truceRequests := s.truceRequests.set request.id request }

def deleteTruceRequest (requestId : RequestId) : SocialStore :=
  { s with truceRequests := s.truceRequests.erase requestId }

def addAlliance (playerAId playerBId : PlayerId) (createdAt : ℤ) : SocialStore :=
  let pair := orderedPair playerAId playerBId
  { s with alliances := s.alliances.set (pairKey pair.1 pair.2) ⟨pair.1, pair.2, createdAt⟩ }

def removeAlliance (playerAId playerBId : PlayerId) : SocialStore :=
  { s with alliances := s.alliances.erase (pairKey playerAId playerBId) }

def saveActiveTruce (truce : SocialActiveTruce) : SocialStore :=
  { s with activeTruces := s.activeTruces.set (pairKey truce.playerAId truce.playerBId) truce }

def saveForcedTruce (truce : SocialActiveTruce) (cooldownUntil : ℤ) : SocialStore :=
  { s.saveActiveTruce truce with
    forcedTruceCooldowns := s.forcedTruceCooldowns.set truce.createdByPlayerId cooldownUntil }

def removeActiveTruce (playerAId playerBId : PlayerId) : SocialStore :=
  { s with activeTruces := s.activeTruces.erase (pairKey playerAId playerBId) }

def saveTruceLockout (playerId : PlayerId) (lockoutUntil : ℤ) : SocialStore :=
  { s with truceLockouts := s.truceLockouts.set playerId lockoutUntil }

/-- The oldest rows of the player beyond the bound go. -/
def saveTruceBreak (playerId : PlayerId) (record : SocialTruceBreakRecord) : SocialStore :=
  let pushed := s.truceBreaks ++ [(playerId, record)]
  let forPlayer := pushed.filter (fun row => row.1 = playerId)
  { s with truceBreaks :=
      dropOldest playerId (forPlayer.length - MAX_TRUCE_BREAKS_PER_PLAYER) pushed }

def saveOfferCooldown (cooldown : SocialOfferCooldown) : SocialStore :=
  let key := cooldownKey cooldown.kind cooldown.fromPlayerId cooldown.toPlayerId
  { s with offerCooldowns := s.offerCooldowns.set key cooldown }

/-- A truce offer in settlement is kept past its time. -/
def pruneExpired (now : ℤ) : SocialStore :=
  { s with
    forcedTruceCooldowns :=
      s.forcedTruceCooldowns.eraseWhere (fun _ cooldownUntil => cooldownUntil ≤ now)
    offerCooldowns := s.offerCooldowns.eraseWhere (fun _ entry => entry.cooldownUntil ≤ now)
    truceRequests := s.truceRequests.eraseWhere (fun _ request =>
      request.expiresAt ≤ now ∧ request.settlementPhase = none)
    activeTruces := s.activeTruces.eraseWhere (fun _ truce => truce.endsAt ≤ now)
    completedAllianceBreaks :=
      s.completedAllianceBreaks.eraseWhere (fun _ notice => notice.notificationExpiresAt ≤ now)
    truceLockouts := s.truceLockouts.eraseWhere (fun _ lockoutUntil => lockoutUntil ≤ now) }

end SocialStore

end BorderEmpires.Social
